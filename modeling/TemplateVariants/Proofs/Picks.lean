import TemplateVariants.Proofs.FreshIdentifiers

/-!
# How an identifier is settled

Names are picked until one is free. `Fresh.InVain` counts the picks that gave a name which was taken.
Either a free name comes up within the picks that are allowed, or all of them were in vain and the
name gets the first number that makes it free. The only other way to end is that a pick stalls
(`Fresh.identifier_settled`).

The search for a number has no bound of its own: it is over after at most one number more than
identifiers are taken, and with a wider bound it gives the same name (`Fresh.firstNumbered_of_le`).
-/

namespace TemplateVariants

open Randomness

namespace Fresh

/-! ## Candidates -/

/-- A text starts with a hyphen when its characters do. -/
theorem eq_hyphen_append_iff {text rest : String} :
    text = "-" ++ rest ↔ text.toList = '-' :: rest.toList := by
  rw [← String.toList_inj, String.toList_append]
  rfl

/-- A text gives what is left of it without a hyphen at its start, if something is left. -/
theorem candidate?_eq_some {text candidate : String} :
    candidate? text = some candidate ↔
      candidate ≠ "" ∧
        (text = "-" ++ candidate ∨ text = candidate ∧ ∀ rest, candidate ≠ "-" ++ rest) := by
  have hleft (cs : List Char) :
      (if cs.isEmpty then none else some (String.ofList cs)) = some candidate ↔
        candidate ≠ "" ∧ cs = candidate.toList := by
    cases cs with
    | nil =>
        simp
    | cons c cs =>
        constructor
        · intro h
          cases h
          simp
        · intro h
          have htext : String.ofList (c :: cs) = candidate := by
            rw [h.2, String.ofList_toList]
          rw [← htext]
          rfl
  unfold candidate?
  split
  · next cs htext =>
      rw [hleft, eq_hyphen_append_iff, htext]
      constructor
      · intro h
        exact ⟨h.1, .inl (by rw [h.2])⟩
      · intro h
        rcases h with ⟨hne, h | ⟨rfl, hplain⟩⟩
        · exact ⟨hne, (List.cons.inj h).2⟩
        · have hhyphen : text = "-" ++ String.ofList cs :=
            eq_hyphen_append_iff.2 (by rw [htext, String.toList_ofList])
          exact absurd hhyphen (hplain _)
  · next cs hplain =>
      rw [hleft, String.toList_inj]
      constructor
      · intro h
        refine ⟨h.1, .inr ⟨h.2, ?_⟩⟩
        intro rest hrest
        exact hplain rest.toList (eq_hyphen_append_iff.1 (h.2.trans hrest))
      · intro h
        rcases h with ⟨hne, h | ⟨h, -⟩⟩
        · exact absurd (eq_hyphen_append_iff.1 h) (hplain _)
        · exact ⟨hne, h⟩

/-- The candidates are the texts that are left when one hyphen is dropped at the start. -/
theorem mem_candidates_iff {texts : List String} {candidate : String} :
    candidate ∈ texts.filterMap candidate? ↔
      candidate ≠ "" ∧
        ("-" ++ candidate ∈ texts ∨ candidate ∈ texts ∧ ∀ rest, candidate ≠ "-" ++ rest) := by
  rw [List.mem_filterMap]
  constructor
  · intro h
    rcases h with ⟨text, htext, hgives⟩
    rcases candidate?_eq_some.1 hgives with ⟨hne, rfl | ⟨rfl, hplain⟩⟩
    · exact ⟨hne, .inl htext⟩
    · exact ⟨hne, .inr ⟨htext, hplain⟩⟩
  · intro h
    rcases h with ⟨hne, hhyphen | ⟨htext, hplain⟩⟩
    · exact ⟨"-" ++ candidate, hhyphen, candidate?_eq_some.2 ⟨hne, .inl rfl⟩⟩
    · exact ⟨candidate, htext, candidate?_eq_some.2 ⟨hne, .inr ⟨rfl, hplain⟩⟩⟩

/-! ## Numbers -/

/-- Where the search found a free name, it finds the same with one more number to try. -/
theorem firstNumbered_succ {taken : String → Bool} {name : String} {n tries : Nat}
    (hfree : taken (firstNumbered taken name n tries) = false) :
    firstNumbered taken name n (tries + 1) = firstNumbered taken name n tries := by
  induction tries generalizing n with
  | zero =>
      have hfirst : taken (numbered name n) = false := hfree
      simp [firstNumbered, hfirst]
  | succ tries ih =>
      cases htaken : taken (numbered name n) with
      | true =>
          -- both searches go on with the next number
          have hgoes (more : Nat) :
              firstNumbered taken name n (more + 1) = firstNumbered taken name (n + 1) more := by
            rw [firstNumbered, if_pos htaken]
          rw [hgoes] at hfree
          rw [hgoes, hgoes]
          exact ih hfree
      | false =>
          have hstops (more : Nat) :
              firstNumbered taken name n (more + 1) = numbered name n := by
            rw [firstNumbered, htaken]
            rfl
          rw [hstops, hstops]

/-- More numbers than identifiers are taken are of no use. -/
theorem firstNumbered_of_le (taken : Std.HashSet String) (name : String) (n : Nat) {tries : Nat}
    (h : taken.size ≤ tries) :
    firstNumbered taken.contains name n tries = firstNumbered taken.contains name n taken.size := by
  obtain ⟨more, rfl⟩ := Nat.exists_eq_add_of_le h
  clear h
  induction more with
  | zero =>
      rfl
  | succ more ih =>
      have hfree :
          taken.contains (firstNumbered taken.contains name n (taken.size + more)) = false := by
        rw [ih]
        exact firstNumbered_free taken name n
      rw [← Nat.add_assoc, firstNumbered_succ hfree, ih]

/-- The number is the first one that makes the name free. -/
theorem exists_first_number (taken : Std.HashSet String) (name : String) :
    ∃ n, firstNumbered taken.contains name 1 taken.size = numbered name n ∧ 1 ≤ n ∧
      n ≤ taken.size + 1 ∧ taken.contains (numbered name n) = false ∧
      ∀ m, 1 ≤ m → m < n → taken.contains (numbered name m) = true := by
  obtain ⟨n, hn, hstart, hbound, htaken⟩ :=
    exists_firstNumbered taken.contains name 1 taken.size
  have hfree := firstNumbered_free taken name 1
  rw [hn] at hfree
  exact ⟨n, hn, hstart, by omega, hfree, htaken⟩

/-! ## Picks -/

/-- What a pick may give: a candidate, the name itself, a stock name or a lower-case letter. -/
def Pickable (name : String) (candidates : List String) (drawn : String) : Prop :=
  drawn ∈ candidates ∨ drawn = name ∨ drawn ∈ stockNames ∨
    ∃ c : Char, 'a' ≤ c ∧ c ≤ 'z' ∧ drawn = String.singleton c

theorem letter_eq (n : Nat) : ∃ c : Char, 'a' ≤ c ∧ c ≤ 'z' ∧ letter n = String.singleton c := by
  have hletters : ∀ i < 26, 'a' ≤ Char.ofNat ('a'.toNat + i) ∧ Char.ofNat ('a'.toNat + i) ≤ 'z' := by
    decide
  rcases hletters (n % 26) (Nat.mod_lt n (by decide)) with ⟨hfirst, hlast⟩
  exact ⟨_, hfirst, hlast, rfl⟩

section Picking

variable {G : Type}

/-- So many draws in a row gave a name that is taken. -/
inductive InVain (taken : String → Bool) (draw : Draw G String) : Nat → Dice G → Dice G → Prop where
  | zero (dice : Dice G) :
      InVain taken draw 0 dice dice
  | succ {n : Nat} {name : String} {dice dice₁ dice' : Dice G} :
      draw dice = .ok name dice₁ →
      taken name = true →
      InVain taken draw n dice₁ dice' →
      InVain taken draw (n + 1) dice dice'

/-- A free name comes up, or all draws are in vain, or one of them stalls. -/
theorem drawFree_ends (taken : String → Bool) (draw : Draw G String) (tries : Nat)
    (dice : Dice G) :
    (∃ n dice₁ name dice', n < tries ∧ InVain taken draw n dice dice₁ ∧
      draw dice₁ = .ok name dice' ∧ taken name = false ∧
      drawFree taken draw tries dice = .ok (some name) dice') ∨
    (∃ dice', InVain taken draw tries dice dice' ∧
      drawFree taken draw tries dice = .ok none dice') ∨
    (∃ n dice₁ e dice', n < tries ∧ InVain taken draw n dice dice₁ ∧
      draw dice₁ = .error e dice' ∧ drawFree taken draw tries dice = .error e dice') := by
  induction tries generalizing dice with
  | zero =>
      exact .inr (.inl ⟨dice, .zero dice, rfl⟩)
  | succ tries ih =>
      cases hdraw : draw dice with
      | error e dice' =>
          refine .inr (.inr ⟨0, dice, e, dice', Nat.succ_pos tries, .zero dice, hdraw, ?_⟩)
          rw [drawFree]
          exact Compiling.bind_of_error hdraw
      | ok name dice₁ =>
          have hnext :
              drawFree taken draw (tries + 1) dice =
                (if taken name then drawFree taken draw tries else pure (some name)) dice₁ := by
            rw [drawFree]
            exact Compiling.bind_of_ok hdraw
          by_cases htaken : taken name = true
          · rw [if_pos htaken] at hnext
            -- this draw was in vain, and the rest ends in one of the three ways
            rcases ih dice₁ with ⟨n, dice₂, found, dice', hn, hvain, hfound, hfree, hrest⟩ |
              ⟨dice', hvain, hrest⟩ | ⟨n, dice₂, e, dice', hn, hvain, hstall, hrest⟩
            · exact .inl ⟨n + 1, dice₂, found, dice', Nat.succ_lt_succ hn,
                .succ hdraw htaken hvain, hfound, hfree, hnext.trans hrest⟩
            · exact .inr (.inl ⟨dice', .succ hdraw htaken hvain, hnext.trans hrest⟩)
            · exact .inr (.inr ⟨n + 1, dice₂, e, dice', Nat.succ_lt_succ hn,
                .succ hdraw htaken hvain, hstall, hnext.trans hrest⟩)
          · rw [if_neg htaken] at hnext
            exact .inl ⟨0, dice, name, dice₁, Nat.succ_pos tries, .zero dice, hdraw,
              by simpa using htaken, hnext⟩

end Picking

section Settling

variable {G : Type} [WordSource G]

theorem gives_drawName_pickable (name : String) (candidates : List String) :
    Gives (Pickable name candidates) (drawName name candidates : Draw G String) := by
  refine gives_drawName ?_ ?_ ?_ ?_
  · exact .inr (.inl rfl)
  · exact fun n => .inr (.inr (.inr (letter_eq n)))
  · exact fun _ hstock => .inr (.inr (.inl hstock))
  · exact fun _ hcandidate => .inl hcandidate

/-- How an identifier for a name is settled, where `texts` are those of the arguments. It is free. It
is the first free one that was picked: a candidate, the name itself, a stock name or a letter. Only if
all picks that are allowed were in vain it is the name with a number, and that is the least one that
makes it free; it is found whatever bound the search has beyond one more than identifiers are taken.
There is no identifier only where a pick stalls, which steady dice never do. -/
theorem identifier_settled (taken : Std.HashSet String) (name : String) (texts : List String)
    (dice : Dice G) :
    ((∃ drawn dice',
        identifier taken name (texts.filterMap candidate?) dice = .ok drawn dice' ∧
        taken.contains drawn = false ∧
        ((∃ n dice₁, n < maxDraws ∧
            InVain taken.contains (drawName name (texts.filterMap candidate?)) n dice dice₁ ∧
            drawName name (texts.filterMap candidate?) dice₁ = .ok drawn dice' ∧
            Pickable name (texts.filterMap candidate?) drawn) ∨
          (InVain taken.contains (drawName name (texts.filterMap candidate?)) maxDraws dice dice' ∧
            ∃ n, drawn = name ++ "_" ++ Nat.repr n ∧ 1 ≤ n ∧ n ≤ taken.size + 1 ∧
              (∀ m, 1 ≤ m → m < n → taken.contains (name ++ "_" ++ Nat.repr m) = true) ∧
              ∀ tries, taken.size ≤ tries →
                firstNumbered taken.contains name 1 tries = drawn))) ∨
      (∃ n dice₁ e dice', n < maxDraws ∧
        InVain taken.contains (drawName name (texts.filterMap candidate?)) n dice dice₁ ∧
        drawName name (texts.filterMap candidate?) dice₁ = .error e dice' ∧
        identifier taken name (texts.filterMap candidate?) dice = .error e dice' ∧
        ∃ g, Leaves dice₁.source g ∧ Rejects dice₁.patience g)) ∧
    (dice.Steady → ∃ drawn dice',
      identifier taken name (texts.filterMap candidate?) dice = .ok drawn dice') ∧
    ∀ candidate, candidate ∈ texts.filterMap candidate? ↔
      candidate ≠ "" ∧
        ("-" ++ candidate ∈ texts ∨ candidate ∈ texts ∧ ∀ rest, candidate ≠ "-" ++ rest) := by
  have hpick := gives_drawName_pickable (G := G) name (texts.filterMap candidate?)
  refine ⟨?_, fun hsteady => ?_, fun candidate => mem_candidates_iff⟩
  · rcases drawFree_ends taken.contains (drawName name (texts.filterMap candidate?)) maxDraws dice
      with ⟨n, dice₁, drawn, dice', hn, hvain, hdraw, hfree, hends⟩ | ⟨dice', hvain, hends⟩ |
        ⟨n, dice₁, e, dice', hn, hvain, hstall, hends⟩
    · have hidentifier :
          identifier taken name (texts.filterMap candidate?) dice = .ok drawn dice' :=
        Compiling.bind_of_ok hends
      exact .inl ⟨drawn, dice', hidentifier, hfree,
        .inl ⟨n, dice₁, hn, hvain, hdraw, (hpick.ok hdraw).1⟩⟩
    · rcases exists_first_number taken name with ⟨n, hfound, hstart, hbound, hfree, hbefore⟩
      have hidentifier :
          identifier taken name (texts.filterMap candidate?) dice =
            .ok (numbered name n) dice' := by
        rw [← hfound]
        exact Compiling.bind_of_ok hends
      refine .inl ⟨numbered name n, dice', hidentifier, hfree,
        .inr ⟨hvain, n, rfl, hstart, hbound, hbefore, fun tries htries => ?_⟩⟩
      rw [firstNumbered_of_le taken name 1 htries, hfound]
    · have hidentifier :
          identifier taken name (texts.filterMap candidate?) dice = .error e dice' :=
        Compiling.bind_of_error hends
      exact .inr ⟨n, dice₁, e, dice', hn, hvain, hstall, hidentifier,
        (hpick.stalled hstall).rejects rfl⟩
  · cases hends : identifier taken name (texts.filterMap candidate?) dice with
    | ok drawn dice' =>
        exact ⟨drawn, dice', rfl⟩
    | error e dice' =>
        -- a stall tells of words that steady dice do not have
        have hruns := (gives_identifier taken name _).stalled hends
        rcases hruns.rejects rfl with ⟨g, hleaves, hrejects⟩
        exact absurd hrejects (hsteady g hleaves)

end Settling

end Fresh

end TemplateVariants
