import TemplateVariants.Proofs.Performing
import TemplateVariants.Proofs.Uniform.Ranges
import TemplateVariants.Randomness.Replay

/-!
# Integers are drawn uniformly

An integer between two bounds is what the first accepted word stands for (`between_eq_ok`), and a
command that asks for one turns into its text. For each integer of the range equally many words are
accepted (`Command.integers_uniform`).
-/

namespace TemplateVariants

namespace Randomness

/-! ## Words until one is accepted -/

section Words

variable {G : Type} [WordSource G]

/-- The first word of a source that stands for something, after so many that stand for nothing. -/
inductive Finds {α : Type} (value? : UInt64 → Option α) : Nat → G → α → G → Prop where
  | here {g : G} {a : α} :
      value? (WordSource.next64 g).1 = some a →
      Finds value? 0 g a (WordSource.next64 g).2
  | later {n : Nat} {g g' : G} {a : α} :
      value? (WordSource.next64 g).1 = none →
      Finds value? n (WordSource.next64 g).2 a g' →
      Finds value? (n + 1) g a g'

theorem Finds.map_iff {α β : Type} {value? : UInt64 → Option α} {f : α → β} {n : Nat} {g g' : G}
    {b : β} :
    Finds (fun word => (value? word).map f) n g b g' ↔ ∃ a, Finds value? n g a g' ∧ f a = b := by
  constructor
  · intro h
    induction h with
    | here hvalue =>
        rcases Option.map_eq_some_iff.1 hvalue with ⟨a, ha, hb⟩
        exact ⟨a, .here ha, hb⟩
    | later hnone _ ih =>
        rcases ih with ⟨a, hfinds, hb⟩
        exact ⟨a, .later (Option.map_eq_none_iff.1 hnone) hfinds, hb⟩
  · intro h
    rcases h with ⟨a, hfinds, rfl⟩
    induction hfinds with
    | here hvalue =>
        exact .here (Option.map_eq_some_iff.2 ⟨_, hvalue, rfl⟩)
    | later hnone _ ih =>
        exact .later (Option.map_eq_none_iff.2 hnone) ih

/-- What every word stands for is found at once. -/
theorem Finds.of_forall {α : Type} {value? : UInt64 → Option α} {f : UInt64 → α}
    (hall : ∀ word, value? word = some (f word)) {n : Nat} {g g' : G} {a : α} :
    Finds value? n g a g' ↔
      n = 0 ∧ a = f (WordSource.next64 g).1 ∧ g' = (WordSource.next64 g).2 := by
  constructor
  · intro h
    cases h with
    | here hvalue =>
        rw [hall, Option.some_inj] at hvalue
        exact ⟨rfl, hvalue.symm, rfl⟩
    | later hnone _ =>
        rw [hall] at hnone
        cases hnone
  · intro h
    rcases h with ⟨rfl, rfl, rfl⟩
    exact .here (hall _)

/-- Some word stands for what is found. -/
theorem Finds.exists_word {α : Type} {value? : UInt64 → Option α} {n : Nat} {g g' : G} {a : α}
    (h : Finds value? n g a g') : ∃ word, value? word = some a := by
  induction h with
  | here hvalue =>
      exact ⟨_, hvalue⟩
  | later _ _ ih =>
      exact ih

variable {dice dice' : Dice G}

theorem word64_eq (dice : Dice G) :
    (Draw.word64 : Draw G Nat) dice =
      .ok (WordSource.next64 dice.source).1.toNat
        { dice with source := (WordSource.next64 dice.source).2 } := rfl

/-- A draw that is tried again ends with the first word that is accepted, if there are tries left. -/
theorem retry_eq_ok {accept : Nat → Option Nat} {tries value : Nat} :
    Draw.retry (Draw.word64 : Draw G Nat) accept tries dice = .ok value dice' ↔
      ∃ n g, n < tries ∧ Finds (fun word => accept word.toNat) n dice.source value g ∧
        dice' = { dice with source := g } := by
  induction tries generalizing dice with
  | zero =>
      constructor
      · intro h
        cases h
      · intro h
        rcases h with ⟨n, g, hn, -⟩
        exact absurd hn (Nat.not_lt_zero n)
  | succ tries ih =>
      rw [Draw.retry, Compiling.bind_of_ok (word64_eq dice)]
      cases haccept : accept (WordSource.next64 dice.source).1.toNat with
      | some first =>
          dsimp only
          rw [Compiling.pure_eq_ok]
          constructor
          · intro h
            rcases h with ⟨rfl, rfl⟩
            exact ⟨0, _, Nat.succ_pos tries, .here haccept, rfl⟩
          · intro h
            rcases h with ⟨n, g, -, hfinds, rfl⟩
            cases hfinds with
            | here hvalue =>
                exact ⟨Option.some_inj.1 (haccept.symm.trans hvalue), rfl⟩
            | later hnone _ =>
                exact absurd (hnone.symm.trans haccept) (by simp)
      | none =>
          dsimp only
          rw [ih]
          constructor
          · intro h
            rcases h with ⟨n, g, hn, hfinds, rfl⟩
            exact ⟨n + 1, g, Nat.succ_lt_succ hn, .later haccept hfinds, rfl⟩
          · intro h
            rcases h with ⟨n, g, hn, hfinds, rfl⟩
            cases hfinds with
            | here hvalue =>
                exact absurd (haccept.symm.trans hvalue) (by simp)
            | later _ hrest =>
                exact ⟨_, g, Nat.lt_of_succ_lt_succ hn, hrest, rfl⟩

theorem signed_toNat (word : UInt64) : Draw.signed word.toNat = word.toInt64.toInt := by
  have hbits : word.toInt64.toInt = (word.toNat : Int).bmod (2 ^ 64) :=
    BitVec.toInt_eq_toNat_bmod word.toBitVec
  have hword := word.toNat_lt
  have hsize : UInt64.size = 2 ^ 64 := rfl
  rw [hbits, Draw.signed, Int.bmod_def, hsize]
  split
  · rw [if_pos (by omega)]
    omega
  · rw [if_neg (by omega)]
    omega

/-- An integer between two bounds is what the first accepted word stands for. -/
theorem between_eq_ok {lower upper : Int64} (h : lower ≤ upper) {i : Int} :
    (Draw.between lower.toInt upper.toInt : Draw G Int) dice = .ok i dice' ↔
      ∃ n value g, (n < dice.patience ∨ Inclusive.count lower upper = 0) ∧
        Finds (Inclusive.value? lower upper) n dice.source value g ∧ i = value.toInt ∧
        dice' = { dice with source := g } := by
  rcases Inclusive.count_cases h with ⟨hcount, hsize⟩ | ⟨hcount, rfl, rfl⟩
  · have hnumber : (upper.toInt - lower.toInt + 1).toNat = (Inclusive.count lower upper).toNat := by
      omega
    have hsmall : (Inclusive.count lower upper).toNat ≠ UInt64.size :=
      (Inclusive.count lower upper).toNat_lt.ne
    have hdraw :
        (Draw.between lower.toInt upper.toInt : Draw G Int) =
          Draw.below64 (Inclusive.count lower upper).toNat >>=
            fun value => pure (lower.toInt + value) := by
      unfold Draw.between
      dsimp only
      rw [hnumber, if_neg hsmall]
    have hrange :
        Inclusive.value? lower upper = fun word =>
          ((Spread.shifted 64 (Inclusive.count lower upper).toNat).value? word.toNat).map
            fun n => lower + Int64.ofNat n :=
      funext (Inclusive.value?_eq hcount)
    have hplace {n u : Nat} {g : G}
        (hfinds : Finds (fun word : UInt64 =>
            (Spread.shifted 64 (Inclusive.count lower upper).toNat).value? word.toNat)
          n dice.source u g) : (lower + Int64.ofNat u).toInt = lower.toInt + u := by
      rcases hfinds.exists_word with ⟨word, hword⟩
      exact Inclusive.toInt_add_ofNat h (Inclusive.le_of_value?_shifted h hcount hword)
    rw [hdraw, Compiling.bind_eq_ok, hrange]
    simp only [Compiling.pure_eq_ok, Finds.map_iff]
    constructor
    · intro hok
      rcases hok with ⟨u, dice₁, hbelow, rfl, rfl⟩
      rcases retry_eq_ok.1 hbelow with ⟨n, g, hn, hfinds, rfl⟩
      exact ⟨n, _, g, .inl hn, ⟨u, hfinds, rfl⟩, (hplace hfinds).symm, rfl⟩
    · intro hok
      rcases hok with ⟨n, value, g, hn, ⟨u, hfinds, rfl⟩, rfl, rfl⟩
      have htries : n < dice.patience := hn.resolve_right hcount
      exact ⟨u, _, retry_eq_ok.2 ⟨n, g, htries, hfinds, rfl⟩, (hplace hfinds).symm, rfl⟩
  · -- these are all integers, and a word is taken as it is
    have hword (word : UInt64) :
        Inclusive.value? Int64.minValue Int64.maxValue word = some word.toInt64 := by
      rw [Inclusive.value?, if_pos hcount]
    have hdraw :
        (Draw.between Int64.minValue.toInt Int64.maxValue.toInt : Draw G Int) dice =
          .ok (Draw.signed (WordSource.next64 dice.source).1.toNat)
            { dice with source := (WordSource.next64 dice.source).2 } := rfl
    simp only [hdraw, signed_toNat, Finds.of_forall hword]
    constructor
    · intro hok
      cases hok
      exact ⟨0, _, _, .inr hcount, ⟨rfl, rfl, rfl⟩, rfl, rfl⟩
    · intro hok
      rcases hok with ⟨n, value, g, -, ⟨-, rfl, rfl⟩, rfl, rfl⟩
      rfl

end Words

end Randomness

/-! ## Bounds in text -/

/-- A text without blanks is not trimmed. -/
theorem Text.trim_of_forall {s : List Char} (h : ∀ c ∈ s, isBlank c = false) : trim s = s := by
  have hstart (r : List Char) (hr : ∀ c ∈ r, isBlank c = false) : trimStart r = r := by
    cases r with
    | nil =>
        rfl
    | cons c r =>
        exact List.dropWhile_cons_of_neg (by simp [hr c List.mem_cons_self])
  rw [trim, hstart s h, hstart s.reverse fun c hc => h c (List.mem_reverse.1 hc),
    List.reverse_reverse]

namespace Numeral

theorem isDigit_of_mem {n : Nat} {c : Char} (h : c ∈ Nat.toDigits 10 n) : c.isDigit = true :=
  Nat.isDigit_of_mem_toDigits (by decide) (by decide) h

theorem isBlank_of_isDigit {c : Char} (h : c.isDigit = true) : Text.isBlank c = false := by
  have hcode : 48 ≤ c.toNat ∧ c.toNat ≤ 57 := by
    simpa [Char.isDigit, UInt32.le_iff_toNat_le] using h
  simp [Text.isBlank, Text.blankRanges]
  omega

theorem readDigits?_toDigits (n : Nat) : readDigits? (Nat.toDigits 10 n) = some n := by
  have hvalue : digitsValue (Nat.toDigits 10 n) = n := Nat.ofDigitChars_ten_toDigits
  have hdigits : isDigits (Nat.toDigits 10 n) = true := by
    rw [isDigits, Bool.and_eq_true, List.all_eq_true]
    exact ⟨by simp, fun c hc => isDigit_of_mem hc⟩
  rw [readDigits?, if_pos hdigits, hvalue]

/-- The text of an integer: its digits, with a hyphen before them if it is negative. -/
theorem toList_toString (i : Int) :
    (toString i).toList =
      if 0 ≤ i then Nat.toDigits 10 i.toNat else '-' :: Nat.toDigits 10 (-i).toNat := by
  rw [Int.toString_eq_repr, Int.repr_eq_if]
  split
  · exact Nat.toList_repr
  · rw [String.toList_append, Nat.toList_repr]
    rfl

/-- The text of an integer reads as that integer. -/
theorem readInteger?_toString (i : Int) : readInteger? (toString i).toList = some i := by
  rw [toList_toString]
  split
  · next hnonneg =>
      have hvalue : (i.toNat : Int) = i := Int.toNat_of_nonneg hnonneg
      unfold readInteger?
      split
      · next heq =>
          exact absurd (isDigit_of_mem (heq ▸ List.mem_cons_self)) (by decide)
      · next heq =>
          exact absurd (isDigit_of_mem (heq ▸ List.mem_cons_self)) (by decide)
      · rw [readDigits?_toDigits]
        exact congrArg some hvalue
  · next hnegative =>
      have hvalue : -((-i).toNat : Int) = i := by omega
      rw [readInteger?, readDigits?_toDigits]
      exact congrArg some hvalue

end Numeral

/-- The text of an integer is a bound, and stands for that integer. -/
theorem Argument.integer_toString (i : Int64) : integer (toString i.toInt) = .ok i.toInt := by
  have htrim : Text.trim (toString i.toInt).toList = (toString i.toInt).toList := by
    refine Text.trim_of_forall fun c hc => ?_
    rw [Numeral.toList_toString] at hc
    split at hc
    · exact Numeral.isBlank_of_isDigit (Numeral.isDigit_of_mem hc)
    · rcases List.mem_cons.1 hc with rfl | hc
      · rfl
      · exact Numeral.isBlank_of_isDigit (Numeral.isDigit_of_mem hc)
  have hread : Numeral.readInt64? (toString i.toInt).toList = some i.toInt := by
    have hlower : Numeral.minInt64 ≤ i.toInt := i.le_toInt
    have hupper : i.toInt ≤ Numeral.maxInt64 := Int.le_sub_one_of_lt i.toInt_lt
    rw [Numeral.readInt64?, Numeral.readInteger?_toString, Option.filter_some, decide_eq_true hlower,
      decide_eq_true hupper]
    rfl
  rw [integer, htrim, hread]

/-! ## Integers between two bounds -/

namespace Compiling

open Randomness

variable {G : Type} [WordSource G] {low high : String} {lo hi : Int64} {s s' : Session G}

/-- Between bounds that are in order an integer is drawn. -/
theorem number_of_le (hlow : Argument.integer low = .ok lo.toInt)
    (hhigh : Argument.integer high = .ok hi.toInt) (h : lo ≤ hi) :
    (number .integer low high : Compiling Cause G String) =
      roll (Draw.between lo.toInt hi.toInt) >>= fun i => pure (toString i) := by
  have hordered : ¬ hi.toInt < lo.toInt := Int.not_lt.2 (Int64.le_iff_toInt_le.1 h)
  simp only [number, hlow, hhigh, ofExcept, pure_bind, if_neg hordered]

/-- Between bounds that are in order a word decides; it alone is gone afterwards. -/
theorem number_eq_ok_iff (hlow : Argument.integer low = .ok lo.toInt)
    (hhigh : Argument.integer high = .ok hi.toInt) (h : lo ≤ hi) {text : String} :
    (number .integer low high : Compiling Cause G String) s = .ok text s' ↔
      ∃ n i g, (n < s.dice.patience ∨ Inclusive.count lo hi = 0) ∧
        Finds (Inclusive.value? lo hi) n s.dice.source i g ∧ text = toString i.toInt ∧
        s' = { s with dice := { s.dice with source := g } } := by
  rw [number_of_le hlow hhigh h, bind_eq_ok]
  simp only [roll_eq_ok, pure_eq_ok, between_eq_ok h]
  constructor
  · intro hok
    rcases hok with ⟨i, s₁, ⟨dice, ⟨n, value, g, hn, hfinds, rfl, rfl⟩, rfl⟩, rfl, rfl⟩
    exact ⟨n, value, g, hn, hfinds, rfl, rfl⟩
  · intro hok
    rcases hok with ⟨n, value, g, hn, hfinds, rfl, rfl⟩
    exact ⟨_, _, ⟨_, ⟨n, value, g, hn, hfinds, rfl, rfl⟩, rfl⟩, rfl, rfl⟩

/-- Between bounds in the wrong order nothing is drawn. -/
theorem number_of_lt (hlow : Argument.integer low = .ok lo.toInt)
    (hhigh : Argument.integer high = .ok hi.toInt) (h : hi < lo) :
    (number .integer low high : Compiling Cause G String) s =
      .error (.failed (.syntactic (.reversedBounds lo.toInt hi.toInt))) s := by
  have hreversed : hi.toInt < lo.toInt := Int64.lt_iff_toInt_lt.1 h
  simp only [number, hlow, hhigh, ofExcept, pure_bind, if_pos hreversed]
  rfl

end Compiling

section Drawing

open Randomness

variable {G : Type} [WordSource G]

/-- What an integer between two bounds comes to. Bounds in the wrong order are a fault, and no word
is drawn. Otherwise the first word that is accepted decides; it gives the text of an integer between
the bounds, both included, and for each of these equally many words are accepted. -/
theorem Command.integers_uniform {context : Line} {lower upper : Token} {s s₁ s₂ : Session G}
    {first second : Replacement} {low high : String} {lo hi : Int64}
    (hlower : lower.expand context s = .ok first s₁)
    (hlow : Line.plainText? first.result = some low)
    (hlo : Argument.integer low = .ok lo.toInt)
    (hupper : upper.expand context s₁ = .ok second s₂)
    (hhigh : Line.plainText? second.result = some high)
    (hhi : Argument.integer high = .ok hi.toInt) :
    (hi < lo →
      (Command.rand .integer lower upper).expand context s =
        .error (.failed (.syntactic (.reversedBounds lo.toInt hi.toInt))) s₂) ∧
    (lo ≤ hi →
      (∀ r s', (Command.rand .integer lower upper).expand context s = .ok r s' ↔
        ∃ n i g, (n < s₂.dice.patience ∨ Inclusive.count lo hi = 0) ∧
          Finds (Inclusive.value? lo hi) n s₂.dice.source i g ∧ lo ≤ i ∧ i ≤ hi ∧
          Argument.integer (toString i.toInt) = .ok i.toInt ∧
          r = .within [first, second] (.plain [.literal (toString i.toInt)]) ∧
          s' = Session.record { s₂ with dice := { s₂.dice with source := g } }
            (.collapsed "rand" r.before.length r.after.length)) ∧
      (∃ m, 0 < m ∧ ∀ i, lo ≤ i → i ≤ hi →
        {word | Inclusive.value? lo hi word = some i}.ncard = m) ∧
      ((Inclusive.count lo hi ≠ 0 ∧
          ((Inclusive.count lo hi).toNat : Int) = hi.toInt - lo.toInt + 1) ∨
        (Inclusive.count lo hi = 0 ∧ lo = Int64.minValue ∧ hi = Int64.maxValue))) := by
  constructor
  · intro hreversed
    have hfirst :
        (Compiling.asText lower (lower.expand context) : Compiling Cause G _) s =
          .ok (low, first) s₁ := Compiling.asText_eq_ok.2 ⟨hlower, hlow⟩
    have hsecond :
        (Compiling.asText upper (upper.expand context) : Compiling Cause G _) s₁ =
          .ok (high, second) s₂ := Compiling.asText_eq_ok.2 ⟨hupper, hhigh⟩
    refine Compiling.bind_of_error ?_
    rw [Command.perform, Compiling.bind_of_ok hfirst]
    dsimp only
    rw [Compiling.bind_of_ok hsecond]
    exact Compiling.bind_of_error (Compiling.number_of_lt hlo hhi hreversed)
  · intro hordered
    refine ⟨fun r s' => ?_, Inclusive.exists_ncard_words hordered, Inclusive.count_cases hordered⟩
    rw [Command.expand, Compiling.noted_eq_ok]
    constructor
    · intro hok
      rcases hok with ⟨s₃, hperform, rfl⟩
      rcases Command.perform_rand_eq_ok.1 hperform with
        ⟨first', s₁', low', second', s₂', high', text, hlower', hlow', hupper', hhigh', hnumber, rfl⟩
      -- the arguments came out as they are known to
      cases hlower.symm.trans hlower'
      cases hlow.symm.trans hlow'
      cases hupper.symm.trans hupper'
      cases hhigh.symm.trans hhigh'
      rcases (Compiling.number_eq_ok_iff hlo hhi hordered).1 hnumber with
        ⟨n, i, g, hn, hfinds, rfl, rfl⟩
      rcases hfinds.exists_word with ⟨word, hword⟩
      rcases Inclusive.mem_range hordered hword with ⟨hle, hge⟩
      exact ⟨n, i, g, hn, hfinds, hle, hge, Argument.integer_toString i, rfl, rfl⟩
    · intro hok
      rcases hok with ⟨n, i, g, hn, hfinds, -, -, -, rfl, rfl⟩
      have hnumber := (Compiling.number_eq_ok_iff hlo hhi hordered (s := s₂)).2
        ⟨n, i, g, hn, hfinds, rfl, rfl⟩
      have hperform := Command.perform_rand_eq_ok.2
        ⟨first, s₁, low, second, s₂, high, _, hlower, hlow, hupper, hhigh, hnumber, rfl⟩
      exact ⟨_, hperform, rfl⟩

/-- Two words are prepared: for eight values the first one is rejected, and the second one is not. -/
def acrossSession : Session Replay where
  dice := { source := { prepared := [0x1000000000000000, 0xA000000000000000] } }

/-- Eight integers, some below zero and some above. The other way round the bounds are a fault. -/
theorem Command.integers_uniform_across_zero :
    (∃ s', (Command.rand .integer (.literal "-3") (.literal "4")).expand [] acrossSession =
      .ok (.within [.plain [.literal "-3"], .plain [.literal "4"]] (.plain [.literal "2"])) s') ∧
    (∃ m, 0 < m ∧ ∀ i : Int64, -3 ≤ i → i ≤ 4 →
      {word | Inclusive.value? (-3) 4 word = some i}.ncard = m) ∧
    (Command.rand .integer (.literal "4") (.literal "-3")).expand [] acrossSession =
      .error (.failed (.syntactic (.reversedBounds 4 (-3)))) acrossSession := by
  have hword (text : String) (s : Session Replay) :
      (Token.literal text).expand [] s = .ok (.plain [.literal text]) s := by
    rw [Token.expand]
    rfl
  have hplain (text : String) : Line.plainText? [.literal text] = some text := by
    simp [Line.plainText?, Token.text?]
  have hordered :=
    (Command.integers_uniform (hword "-3" acrossSession) (hplain "-3")
      (Argument.integer_toString (-3)) (hword "4" acrossSession) (hplain "4")
      (Argument.integer_toString 4)).2 (by decide)
  have hreversed :=
    (Command.integers_uniform (hword "4" acrossSession) (hplain "4")
      (Argument.integer_toString 4) (hword "-3" acrossSession) (hplain "-3")
      (Argument.integer_toString (-3))).1 (by decide)
  have hfinds :
      Finds (Inclusive.value? (-3) 4) 1 acrossSession.dice.source 2 ({} : Replay) :=
    .later (by decide) (.here (by decide))
  have hdrawn :=
    (hordered.1 _ _).2 ⟨1, 2, {}, .inl (by decide), hfinds, by decide, by decide,
      Argument.integer_toString 2, rfl, rfl⟩
  exact ⟨⟨_, hdrawn⟩, hordered.2.1, hreversed⟩

end Drawing

end TemplateVariants
