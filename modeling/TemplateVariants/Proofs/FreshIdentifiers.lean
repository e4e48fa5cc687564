import Mathlib.Data.List.Nodup
import Mathlib.Data.List.Perm.Subperm
import TemplateVariants.Proofs.Draws

/-!
# Fresh identifiers are fresh

An identifier that was drawn is not taken, since only such a draw is accepted. After too many draws
the name is numbered, and among one more number than identifiers are taken there is one that is
free, for different numbers give different names. `Fresh.Drawn` lists what may come up for a name.
-/

namespace TemplateVariants

open Randomness

namespace Fresh

/-! ## Numbered names -/

theorem numbered_injective (name : String) : Function.Injective (numbered name) := by
  intro i j h
  have hchars := congrArg String.toList h
  simp only [numbered, String.toList_append] at hchars
  -- behind the name stand the digits, and these give the number back
  have hdigits := List.append_cancel_left hchars
  have hvalue := congrArg (fun digits => Nat.ofDigitChars 10 digits 0) hdigits
  simpa [Nat.repr, Nat.ofDigitChars_toDigits] using hvalue

/-- The answer has the first number whose name is free, or the last one if all before are taken. -/
theorem exists_firstNumbered (taken : String → Bool) (name : String) (n tries : Nat) :
    ∃ k, firstNumbered taken name n tries = numbered name k ∧ n ≤ k ∧ k ≤ n + tries ∧
      ∀ m, n ≤ m → m < k → taken (numbered name m) = true := by
  induction tries generalizing n with
  | zero =>
      refine ⟨n, rfl, Nat.le_refl n, Nat.le_refl n, fun m hle hlt => ?_⟩
      exact absurd hlt (Nat.not_lt.2 hle)
  | succ tries ih =>
      rw [firstNumbered]
      split
      · next hfirst =>
          rcases ih (n + 1) with ⟨k, hk, hle, hbound, htaken⟩
          refine ⟨k, hk, by omega, by omega, fun m hm hlt => ?_⟩
          rcases Nat.eq_or_lt_of_le hm with rfl | hm
          · exact hfirst
          · exact htaken m hm hlt
      · refine ⟨n, rfl, Nat.le_refl n, Nat.le_add_right n _, fun m hle hlt => ?_⟩
        exact absurd hlt (Nat.not_lt.2 hle)

/-- If the answer is taken, then so are all numbered names that were tested. -/
theorem taken_of_taken_firstNumbered {taken : String → Bool} {name : String} {n tries : Nat}
    (h : taken (firstNumbered taken name n tries) = true) :
    ∀ k, k ≤ tries → taken (numbered name (n + k)) = true := by
  induction tries generalizing n with
  | zero =>
      intro k hk
      rw [Nat.le_zero.1 hk]
      exact h
  | succ tries ih =>
      rw [firstNumbered] at h
      split at h
      · next hfirst =>
          intro k hk
          cases k with
          | zero =>
              exact hfirst
          | succ k =>
              -- the search went on with the next number, so the rest is the induction
              rw [Nat.add_comm k 1, ← Nat.add_assoc]
              exact ih h k (Nat.le_of_succ_le_succ hk)
      · next hfirst =>
          exact absurd h hfirst

/-- Among one more name than are taken one is free. -/
theorem firstNumbered_free (taken : Std.HashSet String) (name : String) (n : Nat) :
    taken.contains (firstNumbered taken.contains name n taken.size) = false := by
  by_contra htaken
  rw [Bool.not_eq_false] at htaken
  -- otherwise there would be more names among those taken than are taken
  have hall := taken_of_taken_firstNumbered htaken
  have hnodup : ((List.range (taken.size + 1)).map fun k => numbered name (n + k)).Nodup := by
    refine List.Nodup.map (fun i j h => ?_) List.nodup_range
    have := numbered_injective name h
    omega
  have hsub :
      ((List.range (taken.size + 1)).map fun k => numbered name (n + k)) ⊆ taken.toList := by
    intro identifier hidentifier
    rcases List.mem_map.1 hidentifier with ⟨k, hk, rfl⟩
    have hle : k ≤ taken.size := Nat.lt_succ_iff.1 (List.mem_range.1 hk)
    exact Std.HashSet.mem_toList.2 (Std.HashSet.contains_iff_mem.1 (hall k hle))
  have hlength := (List.Nodup.subperm hnodup hsub).length_le
  rw [List.length_map, List.length_range, Std.HashSet.length_toList] at hlength
  omega

/-! ## Drawn names -/

section Draws

variable {G : Type} {dice dice' : Dice G}

theorem drawFree_free {taken : String → Bool} {draw : Draw G String} {tries : Nat} {name : String}
    (h : drawFree taken draw tries dice = .ok (some name) dice') : taken name = false := by
  induction tries generalizing dice with
  | zero =>
      rw [drawFree] at h
      cases (Compiling.pure_eq_ok.1 h).1
  | succ tries ih =>
      rw [drawFree] at h
      rcases Compiling.bind_eq_ok.1 h with ⟨drawn, dice₁, -, h⟩
      split at h
      · exact ih h
      · next hfree =>
          cases (Compiling.pure_eq_ok.1 h).1
          simpa using hfree

/-- An identifier for a name is not among those taken. -/
theorem identifier_free [WordSource G] {taken : Std.HashSet String} {name drawn : String}
    {candidates : List String} (h : identifier taken name candidates dice = .ok drawn dice') :
    taken.contains drawn = false := by
  rcases Compiling.bind_eq_ok.1 h with ⟨free, dice₁, hdraw, h⟩
  cases free with
  | none =>
      rw [← (Compiling.pure_eq_ok.1 h).1]
      exact firstNumbered_free taken name 1
  | some first =>
      rw [← (Compiling.pure_eq_ok.1 h).1]
      exact drawFree_free hdraw

/-- The first name that is drawn is the identifier, if it is not taken. -/
theorem identifier_of_drawName [WordSource G] {taken : Std.HashSet String} {name drawn : String}
    {candidates : List String} (hdraw : drawName name candidates dice = .ok drawn dice')
    (hfree : taken.contains drawn = false) :
    identifier taken name candidates dice = .ok drawn dice' := by
  refine Compiling.bind_eq_ok.2 ⟨some drawn, dice', ?_, rfl⟩
  unfold maxDraws
  rw [drawFree]
  exact Compiling.bind_eq_ok.2 ⟨drawn, dice', hdraw, by simp [hfree]⟩

end Draws

/-! ## What may come up -/

/-- What may come up as an identifier for a name. -/
inductive Drawn (name : String) (candidates : List String) : String → Prop where
  | name :
      Drawn name candidates name
  | candidate {candidate : String} :
      candidate ∈ candidates →
      Drawn name candidates candidate
  | letter (n : Nat) :
      Drawn name candidates (letter n)
  | stock {stock : String} :
      stock ∈ stockNames →
      Drawn name candidates stock
  | numbered (n : Nat) :
      Drawn name candidates (numbered name n)

section Gives

variable {G : Type} [WordSource G] {name : String} {candidates : List String}

/-- What holds of the name, of letters and of stock names holds of what is drawn among them. -/
theorem gives_drawStock {P : String → Prop} (hname : P name) (hletter : ∀ n, P (letter n))
    (hstock : ∀ stock ∈ stockNames, P stock) : Gives P (drawStock name : Draw G String) := by
  refine (gives_below64 _).bind fun i _ => ?_
  split
  · exact gives_pure hname
  · exact (gives_belowWidest32 26).bind fun n _ => gives_pure (hletter n)
  · rename_i i
    refine gives_pure ?_
    rw [List.getD_eq_getElem?_getD]
    cases hdrawn : stockNames[i]? with
    | none =>
        exact hname
    | some stock =>
        exact hstock stock (List.mem_of_getElem? hdrawn)

theorem gives_drawName {P : String → Prop} (hname : P name) (hletter : ∀ n, P (letter n))
    (hstock : ∀ stock ∈ stockNames, P stock) (hcandidate : ∀ candidate ∈ candidates, P candidate) :
    Gives P (drawName name candidates : Draw G String) := by
  refine (gives_choose candidates).bind fun chosen hchosen => ?_
  cases chosen with
  | none =>
      exact gives_drawStock hname hletter hstock
  | some candidate =>
      refine (gives_chance _).bind fun isCandidate _ => ?_
      split
      · exact gives_pure (hcandidate candidate (hchosen candidate rfl))
      · exact gives_drawStock hname hletter hstock

theorem gives_drawFree {P : String → Prop} {taken : String → Bool} {draw : Draw G String}
    (h : Gives P draw) (tries : Nat) :
    Gives (fun drawn => ∀ name, drawn = some name → P name) (drawFree taken draw tries) := by
  induction tries with
  | zero =>
      exact gives_pure (by simp)
  | succ tries ih =>
      refine h.bind fun name hname => ?_
      split
      · exact ih
      · refine gives_pure fun other hother => ?_
        cases hother
        exact hname

theorem gives_identifier (taken : Std.HashSet String) (name : String) (candidates : List String) :
    Gives (Drawn name candidates) (identifier taken name candidates : Draw G String) := by
  have hpick : Gives (Drawn name candidates) (drawName name candidates : Draw G String) :=
    gives_drawName .name .letter (fun _ => .stock) (fun _ => .candidate)
  refine (gives_drawFree hpick maxDraws).bind fun drawn hdrawn => ?_
  cases drawn with
  | none =>
      rcases exists_firstNumbered taken.contains name 1 taken.size with ⟨k, hk, -⟩
      dsimp only
      rw [hk]
      exact gives_pure (.numbered k)
  | some first =>
      exact gives_pure (hdrawn first rfl)

end Gives

end Fresh

/-- A name gets the first identifier that is drawn for it, if that is free. -/
theorem Compiling.exists_introduce {G : Type} [WordSource G] {s : Session G} {dice : Dice G}
    {name drawn : String} {candidates : List String}
    (hdraw : Fresh.drawName name candidates s.dice = .ok drawn dice)
    (hfree : s.isClaimed drawn = false) :
    ∃ s', (introduce name candidates : Compiling Cause G String) s = .ok drawn s' ∧
      s'.dice = dice :=
  ⟨_, introduce_eq_ok.2 ⟨dice, Fresh.identifier_of_drawName hdraw hfree, rfl⟩, rfl⟩

end TemplateVariants
