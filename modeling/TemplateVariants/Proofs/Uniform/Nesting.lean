import TemplateVariants.Proofs.Failing
import TemplateVariants.Proofs.Reading
import TemplateVariants.Proofs.Uniform.Integers
import TemplateVariants.Proofs.Unrolling
import TemplateVariants.Proofs.Verdict.Agreement

/-!
# Integers between integers

The bounds of an integer may be drawn themselves, to any depth. What an integer is written as is
accepted wherever it is read next, as a bound and as a size. So in a tree of such commands nothing can
go wrong but the order of two bounds (`Token.comes_of_written`), and a collection whose size is such a
tree is the collection of the copies (`Command.drawn_integers_are_arguments`).
-/

namespace TemplateVariants

open Randomness

/-- A word, or a command that draws an integer between two such tokens. -/
inductive Token.DrawsIntegers : Token → Prop where
  | word (text : String) :
      DrawsIntegers (.literal text)
  | rand {lower upper : Token} :
      DrawsIntegers lower →
      DrawsIntegers upper →
      DrawsIntegers (.command (.rand .integer lower upper))

/-! ## Numerals -/

namespace Argument

variable {text : String} {n : Int}

/-- Bounds and sizes are read alike. -/
theorem size_eq_ok_iff : size text = .ok n ↔ integer text = .ok n := by
  unfold size integer
  cases Numeral.readInt64? (Text.trim text.toList) with
  | none =>
      simp
  | some read =>
      simp

/-- What is read as a bound is an integer of 64 bits. -/
theorem exists_int64 (h : integer text = .ok n) : ∃ i : Int64, n = i.toInt := by
  unfold integer at h
  cases hread : Numeral.readInt64? (Text.trim text.toList) with
  | none =>
      rw [hread] at h
      cases h
  | some read =>
      rw [hread] at h
      cases h
      rw [Numeral.readInt64?, Option.filter_eq_some_iff] at hread
      have hrange := hread.2
      simp only [Bool.and_eq_true, decide_eq_true_eq] at hrange
      have hlower : -9223372036854775808 ≤ n := hrange.1
      have hupper : n ≤ 9223372036854775807 := hrange.2
      exact ⟨Int64.ofInt n, (Int64.toInt_ofInt_of_le (by omega) (by omega)).symm⟩

end Argument

/-- A word that is a size is a bound. -/
theorem Command.checkBound_of_checkSize {token : Token}
    (h : checkWord (fun text => (Argument.size text).map fun _ => ()) token = .ok ()) :
    checkWord (Argument.checkBound .integer) token = .ok () := by
  cases token with
  | command command =>
      rfl
  | literal text =>
      change (Argument.size text).map (fun _ => ()) = .ok () at h
      change (Argument.integer text).map (fun _ => ()) = .ok ()
      cases hsize : Argument.size text with
      | error cause =>
          rw [hsize] at h
          cases h
      | ok n =>
          rw [Argument.size_eq_ok_iff.1 hsize]
          rfl

section Trees

variable {G : Type} [WordSource G] {context : Line} {s s₁ s' : Session G} {stalled : Bool}
  {lower upper : Token} {lo hi : Int64}

/-! ## Sessions in which only dice are thrown -/

/-- On the way from one session to the other only dice were thrown and notes were made. -/
structure Session.Throws (s : Session G) (stalled : Bool) (s' : Session G) : Prop where
  runs : s.dice.Runs stalled s'.dice
  bindings : s'.bindings = s.bindings
  identifiers : s'.identifiers = s.identifiers
  limit : s'.maxCollectionSize = s.maxCollectionSize

namespace Session.Throws

theorem refl (s : Session G) : s.Throws false s :=
  ⟨.refl _, rfl, rfl, rfl⟩

theorem trans (h : s.Throws false s₁) (hmore : s₁.Throws stalled s') : s.Throws stalled s' where
  runs := h.runs.trans hmore.runs
  bindings := hmore.bindings.trans h.bindings
  identifiers := hmore.identifiers.trans h.identifiers
  limit := hmore.limit.trans h.limit

/-- Steady dice do not stall. -/
theorem not_steady (h : s.Throws true s') : ¬ s.dice.Steady := by
  intro hsteady
  rcases h.runs.rejects rfl with ⟨g, hleaves, hrejects⟩
  exact hsteady g hleaves hrejects

end Session.Throws

/-! ## How bounds come out -/

/-- Two bounds come to these integers, one after the other. -/
def Command.BoundsCome (context : Line) (lower upper : Token) (s : Session G) (lo hi : Int64)
    (s' : Session G) : Prop :=
  ∃ low s₁ high,
    lower.expand context s = .ok (.plain [.literal low]) s₁ ∧
    Argument.integer low = .ok lo.toInt ∧
    upper.expand context s₁ = .ok (.plain [.literal high]) s' ∧
    Argument.integer high = .ok hi.toInt

/-- If the integer was drawn, it lies between what its bounds came to. -/
def Token.Between (context : Line) (s : Session G) (i : Int64) : Token → Prop
  | .command (.rand .integer lower upper) =>
    ∃ lo hi s₁, Command.BoundsCome context lower upper s lo hi s₁ ∧ lo ≤ i ∧ i ≤ hi
  | _ => True

/-- The bounds of some command in the tree come to integers in the wrong order. -/
def Token.Reverses (context : Line) (token : Token) (s : Session G) (lo hi : Int64)
    (s' : Session G) : Prop :=
  ∃ lower upper s₁, (Token.command (.rand .integer lower upper)).Within token ∧
    s.Throws false s₁ ∧ Command.BoundsCome context lower upper s₁ lo hi s' ∧ hi < lo

/-- A tree comes to the text of an integer; or not, since two bounds in it are in the wrong order; or
not, since a draw stalls. -/
inductive Token.Comes (context : Line) (token : Token) (s : Session G) : Prop where
  | integer {text : String} {i : Int64} {s' : Session G} :
      token.expand context s = .ok (.plain [.literal text]) s' →
      Argument.integer text = .ok i.toInt →
      token.Between context s i →
      s.Throws false s' →
      Comes context token s
  | reversed {lo hi : Int64} {s' : Session G} :
      token.expand context s =
        .error (.failed (.syntactic (.reversedBounds lo.toInt hi.toInt))) s' →
      token.Reverses context s lo hi s' →
      s.Throws false s' →
      Comes context token s
  | stalled {s' : Session G} :
      token.expand context s = .error .stalled s' →
      s.Throws true s' →
      Comes context token s

/-- What is reversed in a bound, after some draws, is reversed in the tree. -/
theorem Token.Reverses.within {token whole : Token} (h : token.Reverses context s₁ lo hi s')
    (hthrows : s.Throws false s₁) (hwithin : token.Within whole) :
    whole.Reverses context s lo hi s' := by
  rcases h with ⟨lower, upper, s₂, hpart, hmore, hcome, hlt⟩
  exact ⟨lower, upper, s₂, hpart.trans hwithin, hthrows.trans hmore, hcome, hlt⟩

/-! ## A draw between two bounds -/

namespace Compiling

/-- What comes out as a word comes out as its text. -/
theorem asText_of_plain {token : Token} {text : String}
    (h : token.expand context s = .ok (.plain [.literal text]) s') :
    (asText token (token.expand context) : Compiling Cause G _) s =
      .ok (text, .plain [.literal text]) s' := by
  have hplain : Line.plainText? [.literal text] = some text := by
    simp [Line.plainText?, Token.text?]
  exact asText_eq_ok.2 ⟨h, hplain⟩

/-- Between bounds in order a number is an integer in between, unless the draw stalls. -/
theorem number_ends {low high : String} (hlow : Argument.integer low = .ok lo.toInt)
    (hhigh : Argument.integer high = .ok hi.toInt) (h : lo ≤ hi) (s : Session G) :
    (∃ i s', lo ≤ i ∧ i ≤ hi ∧
      (number .integer low high : Compiling Cause G String) s = .ok (toString i.toInt) s' ∧
      s.Throws false s') ∨
    ∃ s', (number .integer low high : Compiling Cause G String) s = .error .stalled s' ∧
      s.Throws true s' := by
  cases hdraw : (Draw.between lo.toInt hi.toInt : Draw G Int) s.dice with
  | ok value dice =>
      have hruns := ((gives_between _ _).ok hdraw).2
      rcases (between_eq_ok h).1 hdraw with ⟨n, i, g, hn, hfinds, rfl, rfl⟩
      rcases hfinds.exists_word with ⟨word, hword⟩
      rcases Inclusive.mem_range h hword with ⟨hle, hge⟩
      have hnumber := (number_eq_ok_iff hlow hhigh h).2 ⟨n, i, g, hn, hfinds, rfl, rfl⟩
      exact .inl ⟨i, _, hle, hge, hnumber, ⟨hruns, rfl, rfl, rfl⟩⟩
  | error e dice =>
      have hroll :
          (roll (Draw.between lo.toInt hi.toInt) : Compiling Cause G Int) s =
            .error .stalled { s with dice } := by
        rw [roll, hdraw]
      refine .inr ⟨{ s with dice }, ?_, ⟨(gives_between _ _).stalled hdraw, rfl, rfl, rfl⟩⟩
      rw [number_of_le hlow hhigh h]
      exact bind_of_error hroll

end Compiling

namespace Token

/-- A command that stops in its lower bound. -/
theorem expand_rand_of_lower {halt : Halt Cause} (h : lower.expand context s = .error halt s') :
    (Token.command (.rand .integer lower upper)).expand context s = .error halt s' := by
  rw [expand, Command.perform]
  exact Compiling.bind_of_error (Compiling.bind_of_error (Compiling.bind_of_error h))

/-- A command that stops in its upper bound. -/
theorem expand_rand_of_upper {low : String} {halt : Halt Cause}
    (hlower : lower.expand context s = .ok (.plain [.literal low]) s₁)
    (h : upper.expand context s₁ = .error halt s') :
    (Token.command (.rand .integer lower upper)).expand context s = .error halt s' := by
  rw [expand, Command.perform]
  refine Compiling.bind_of_error ?_
  rw [Compiling.bind_of_ok (Compiling.asText_of_plain hlower)]
  exact Compiling.bind_of_error (Compiling.bind_of_error h)

/-- With words as its bounds an integer is nothing but the number between them. -/
theorem perform_rand_of_plain {low high : String} {s₂ : Session G}
    (hlower : lower.expand context s = .ok (.plain [.literal low]) s₁)
    (hupper : upper.expand context s₁ = .ok (.plain [.literal high]) s₂) :
    (Command.rand .integer lower upper).perform context s =
      (Compiling.number .integer low high >>= fun text =>
        pure (.plain [.literal text]) : Compiling Cause G Replacement) s₂ := by
  rw [Command.perform, Compiling.bind_of_ok (Compiling.asText_of_plain hlower)]
  dsimp only
  rw [Compiling.bind_of_ok (Compiling.asText_of_plain hupper)]
  rfl

/-- Once its bounds have come to integers, so does the command, if they are in order. -/
theorem comes_of_boundsCome (h : Command.BoundsCome context lower upper s lo hi s₁)
    (hbounds : s.Throws false s₁) :
    (Token.command (.rand .integer lower upper)).Comes context s := by
  have hbefore := h
  rcases h with ⟨low, s₂, high, hlower, hlow, hupper, hhigh⟩
  have hperform := perform_rand_of_plain hlower hupper
  rcases Int64.lt_or_le hi lo with hlt | hle
  · have hexpand :
        (Token.command (.rand .integer lower upper)).expand context s =
          .error (.failed (.syntactic (.reversedBounds lo.toInt hi.toInt))) s₁ := by
      rw [expand]
      refine Compiling.bind_of_error ?_
      rw [hperform]
      exact Compiling.bind_of_error (Compiling.number_of_lt hlow hhigh hlt)
    exact .reversed hexpand ⟨lower, upper, s, .self _, .refl s, hbefore, hlt⟩ hbounds
  · rcases Compiling.number_ends hlow hhigh hle s₁ with
      ⟨i, s₃, hlo, hhi, hnumber, hthrows⟩ | ⟨s₃, hnumber, hthrows⟩
    · have hexpand :
          (Token.command (.rand .integer lower upper)).expand context s =
            .ok (.plain [.literal (toString i.toInt)]) (s₃.record (.collapsed "rand" 0 0)) := by
        rw [expand, Compiling.noted_eq_ok]
        refine ⟨s₃, ?_, rfl⟩
        rw [hperform, Compiling.bind_of_ok hnumber]
        rfl
      have hnoted : s₁.Throws false (s₃.record (.collapsed "rand" 0 0)) :=
        ⟨hthrows.runs, hthrows.bindings, hthrows.identifiers, hthrows.limit⟩
      exact .integer hexpand (Argument.integer_toString i) ⟨lo, hi, s₁, hbefore, hlo, hhi⟩
        (hbounds.trans hnoted)
    · have hexpand :
          (Token.command (.rand .integer lower upper)).expand context s = .error .stalled s₃ := by
        rw [expand]
        refine Compiling.bind_of_error ?_
        rw [hperform]
        exact Compiling.bind_of_error hnumber
      exact .stalled hexpand (hbounds.trans hthrows)

/-- A command comes out as it should if its bounds do. -/
theorem comes_rand (hlower : ∀ s : Session G, lower.Comes context s)
    (hupper : ∀ s : Session G, upper.Comes context s) (s : Session G) :
    (Token.command (.rand .integer lower upper)).Comes context s := by
  have hlowerWithin : lower.Within (.command (.rand .integer lower upper)) :=
    .argument (by simp [Command.args]) (.self lower)
  have hupperWithin : upper.Within (.command (.rand .integer lower upper)) :=
    .argument (by simp [Command.args]) (.self upper)
  cases hlower s with
  | reversed hexpand hreverses hthrows =>
      exact .reversed (expand_rand_of_lower hexpand) (hreverses.within (.refl s) hlowerWithin)
        hthrows
  | stalled hexpand hthrows =>
      exact .stalled (expand_rand_of_lower hexpand) hthrows
  | @integer low lo s₁ hlow hlo _ hfirst =>
      cases hupper s₁ with
      | reversed hexpand hreverses hthrows =>
          exact .reversed (expand_rand_of_upper hlow hexpand)
            (hreverses.within hfirst hupperWithin) (hfirst.trans hthrows)
      | stalled hexpand hthrows =>
          exact .stalled (expand_rand_of_upper hlow hexpand) (hfirst.trans hthrows)
      | @integer high hi s₂ hhigh hhi _ hsecond =>
          exact comes_of_boundsCome ⟨low, s₁, high, hlow, hlo, hhigh, hhi⟩ (hfirst.trans hsecond)

/-- A tree that was read comes out as it should: its words are integers, and what is drawn can be read
again. -/
theorem comes_of_written {token : Token} (htree : token.DrawsIntegers) (hwritten : token.Written)
    (hcheck : Command.checkWord (Argument.checkBound .integer) token = .ok ()) (s : Session G) :
    token.Comes context s := by
  induction htree generalizing s with
  | word text =>
      rcases exists_integer_of_checkBound rfl hcheck with ⟨_, n, heq, hinteger, -⟩
      cases heq
      rcases Argument.exists_int64 hinteger with ⟨i, rfl⟩
      have hexpand : (Token.literal text).expand context s = .ok (.plain [.literal text]) s := by
        rw [expand]
        rfl
      exact .integer hexpand hinteger trivial (.refl s)
  | rand _ _ ihlower ihupper =>
      cases hwritten with
      | rand hlower hlowerCheck hupper hupperCheck =>
          exact comes_rand (ihlower hlower hlowerCheck) (ihupper hupper hupperCheck) s

end Token

/-! ## Trees as sizes -/

namespace Command

variable {size element : Token} {text : String}

/-- A size that comes out as a word is as good as that word. -/
theorem expand_build_of_plain (h : size.expand context s = .ok (.plain [.literal text]) s₁) :
    (Command.build size element).expand context s =
      (Command.build (.literal text) element).expand context s₁ := by
  refine expand_congr rfl ?_
  rw [Command.perform, Command.perform, Compiling.bind_of_ok (Compiling.asText_of_plain h),
    Token.asText_literal, pure_bind]

/-- A collection whose size came to an integer is the collection of as many copies. -/
theorem expand_build_of_integer {i : Int64}
    (h : size.expand context s = .ok (.plain [.literal text]) s₁)
    (hinteger : Argument.integer text = .ok i.toInt) (hthrows : s.Throws false s₁) :
    (Command.build size element).expand context s =
      if i.toInt.toNat ≤ s.maxCollectionSize then
        (Command.collection (List.replicate i.toInt.toNat element)).expand context s₁
      else .error (.failed (.conversion (.sizeLimit i.toInt s.maxCollectionSize))) s₁ := by
  have hsize := Argument.size_eq_ok_iff.2 hinteger
  rw [expand_build_of_plain h, ← hthrows.limit]
  split
  · next hle =>
      exact expand_build_of_le hsize hle
  · next hgt =>
      exact expand_build_of_lt hsize (Nat.lt_of_not_le hgt)

/-- A collection that stops in its size. -/
theorem expand_build_of_error {halt : Halt Cause} (h : size.expand context s = .error halt s') :
    (Command.build size element).expand context s = .error halt s' := by
  refine Compiling.bind_of_error ?_
  rw [Command.perform]
  exact Compiling.bind_of_error (Compiling.bind_of_error h)

/-- A fault of a collection of copies is a fault of one of them. -/
theorem exists_expand_of_copies {cause : Cause} {n : Nat}
    (h : (Command.collection (List.replicate n element)).expand context s =
      .error (.failed cause) s') :
    ∃ s₁, element.expand context s₁ = .error (.failed cause) s' := by
  rcases Compiling.bind_eq_error h with h | ⟨r, s₁, -, h⟩
  · rw [Command.perform] at h
    rcases Compiling.bind_eq_error h with h | ⟨parts, s₁, -, h⟩
    · rcases Token.expandAll_eq_error.1 h with ⟨left, top, right, parts, s₁, hcopies, -, hfails⟩
      have hmem : Token.command top ∈ List.replicate n element := by
        simp [hcopies]
      have helement : Token.command top = element := List.eq_of_mem_replicate hmem
      refine ⟨s₁, ?_⟩
      rw [← helement, Token.expand]
      exact hfails
    · -- writing a list is no cause of a fault
      exact (Compiling.faultsIn_write (P := fun _ => False) context parts _ cause s' h).elim
  · cases h

/-- The size of the collection can be read, so one that cannot be read stands in the element. -/
theorem exists_expand_of_size_fault {word : String} (hsize : size.Comes context s)
    (h : (Command.build size element).expand context s =
      .error (.failed (.conversion (.size word))) s') :
    ∃ s₁, element.expand context s₁ = .error (.failed (.conversion (.size word))) s' := by
  cases hsize with
  | integer hexpand hinteger _ hthrows =>
      rw [expand_build_of_integer hexpand hinteger hthrows] at h
      split at h
      · exact exists_expand_of_copies h
      · cases h
  | reversed hexpand _ _ =>
      rw [expand_build_of_error hexpand] at h
      cases h
  | stalled hexpand _ =>
      rw [expand_build_of_error hexpand] at h
      cases h

/-- What is drawn between two integers is accepted wherever an integer is read. A tree of such
commands that was read comes to the text of an integer between what its bounds came to, with no lines
beside it and with the names as they were; or the bounds of some command in it came in the wrong order,
which is the fault; or a draw stalls, which steady dice never do. A collection whose size is such a
tree is the collection of as many copies as the size came to, unless these are too many, or it ends
as its size did; so a size that cannot be read is a fault of the element. -/
theorem drawn_integers_are_arguments (context : Line) (s : Session G) :
    (∀ text command, Body.command text = .ok command →
      (Token.command command).DrawsIntegers →
        (Token.command command).Comes context s ∧
        (s.dice.Steady → ∀ s', (Token.command command).expand context s ≠ .error .stalled s')) ∧
    ∀ text size element, Body.command text = .ok (.build size element) → size.DrawsIntegers →
      size.Comes context s ∧
      (∀ low s₁ (i : Int64), size.expand context s = .ok (.plain [.literal low]) s₁ →
        Argument.integer low = .ok i.toInt →
          (Command.build size element).expand context s =
            if i.toInt.toNat ≤ s.maxCollectionSize then
              (Command.collection (List.replicate i.toInt.toNat element)).expand context s₁
            else .error (.failed (.conversion (.sizeLimit i.toInt s.maxCollectionSize))) s₁) ∧
      (∀ halt s₁, size.expand context s = .error halt s₁ →
        (Command.build size element).expand context s = .error halt s₁) ∧
      ∀ word s', (Command.build size element).expand context s =
          .error (.failed (.conversion (.size word))) s' →
        ∃ s₁, element.expand context s₁ = .error (.failed (.conversion (.size word))) s' := by
  constructor
  · intro text command hread htree
    have hcomes : (Token.command command).Comes context s :=
      Token.comes_of_written htree (Body.written_of_command hread) rfl s
    refine ⟨hcomes, fun hsteady s' hstalls => ?_⟩
    cases hcomes with
    | integer hexpand _ _ _ =>
        cases hexpand.symm.trans hstalls
    | reversed hexpand _ _ =>
        cases hexpand.symm.trans hstalls
    | stalled _ hthrows =>
        exact hthrows.not_steady hsteady
  · intro text size element hread htree
    have hcomes : size.Comes context s := by
      cases Body.written_of_command hread with
      | build hwritten hcheck _ =>
          exact Token.comes_of_written htree hwritten (checkBound_of_checkSize hcheck) s
    refine ⟨hcomes, fun low s₁ i hlow hinteger => ?_, fun _ _ => expand_build_of_error,
      fun _ _ => exists_expand_of_size_fault hcomes⟩
    cases hcomes with
    | integer hexpand _ _ hthrows =>
        cases hexpand.symm.trans hlow
        exact expand_build_of_integer hlow hinteger hthrows
    | reversed hexpand _ _ =>
        cases hexpand.symm.trans hlow
    | stalled hexpand _ =>
        cases hexpand.symm.trans hlow

end Command

end Trees

/-- An integer whose lower bound is drawn. -/
def nestedBounds : Command :=
  .rand .integer (.command (.rand .integer (.literal "-3") (.literal "4"))) (.literal "9")

/-- Zeros are drawn, which stand for the lower bound. -/
def zerosSession : Session Document.Zeros where
  dice := { source := {}, patience := 1 }

theorem Command.drawn_integers_are_arguments_zeros :
    Body.command "rand -i \x7brand -i -3 4\x7d 9" = .ok nestedBounds ∧
      (∃ s', (Token.command nestedBounds).expand [] zerosSession =
        .ok (.plain [.literal "-3"]) s' ∧ s'.bindings = zerosSession.bindings) ∧
      (∃ i, Argument.integer "-3" = .ok i ∧
        ∃ lo hi s₁, BoundsCome [] (.command (.rand .integer (.literal "-3") (.literal "4")))
          (.literal "9") zerosSession lo hi s₁ ∧ lo.toInt ≤ i ∧ i ≤ hi.toInt) ∧
      ∀ word s', (Command.build (.command nestedBounds) (.literal "x")).expand [] zerosSession ≠
        .error (.failed (.conversion (.size word))) s' := by
  have hread : Body.command "rand -i \x7brand -i -3 4\x7d 9" = .ok nestedBounds := by
    with_unfolding_all rfl
  have hbuild :
      Body.command "collection -b \x7brand -i \x7brand -i -3 4\x7d 9\x7d x" =
        .ok (.build (.command nestedBounds) (.literal "x")) := by
    with_unfolding_all rfl
  have htree : (Token.command nestedBounds).DrawsIntegers :=
    .rand (.rand (.word "-3") (.word "4")) (.word "9")
  have hexpand :
      (Token.command nestedBounds).expand [] zerosSession =
        .ok (.plain [.literal "-3"])
          ((zerosSession.record (.collapsed "rand" 0 0)).record (.collapsed "rand" 0 0)) := by
    with_unfolding_all rfl
  rcases drawn_integers_are_arguments [] zerosSession with ⟨hrand, hsize⟩
  refine ⟨hread, ⟨_, hexpand, rfl⟩, ?_, fun word s' hfails => ?_⟩
  · cases (hrand _ _ hread htree).1 with
    | @integer text i s' hcomes hinteger hbetween _ =>
        cases hexpand.symm.trans hcomes
        rcases hbetween with ⟨lo, hi, s₁, hcome, hlo, hhi⟩
        exact ⟨i.toInt, hinteger, lo, hi, s₁, hcome, Int64.le_iff_toInt_le.1 hlo,
          Int64.le_iff_toInt_le.1 hhi⟩
    | reversed hcomes _ _ =>
        cases hexpand.symm.trans hcomes
    | stalled hcomes _ =>
        cases hexpand.symm.trans hcomes
  · rcases (hsize _ _ _ hbuild htree).2.2.2 word s' hfails with ⟨s₁, helement⟩
    rw [Token.expand] at helement
    cases helement

end TemplateVariants
