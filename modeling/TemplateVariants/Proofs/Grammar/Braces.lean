import Mathlib.Data.List.Infix
import Mathlib.Tactic.Common
import TemplateVariants.Template.Body

/-!
# Balanced braces

A text is balanced if no beginning of it closes more braces than it opens, and the whole closes as
many as it opens. The reader of groups looks for the first brace that closes one more; so what it
takes is balanced, and it takes every balanced text that has its closing brace behind it
(`Body.closeGroup_eq_some_iff`).
-/

namespace TemplateVariants
namespace Body

/-- The text closes its own braces and `depth` more, which were opened before it. -/
structure Closes (depth : Nat) (s : List Char) : Prop where
  /-- Nowhere on the way is a brace closed that was not opened. -/
  within : ∀ p, p <+: s → p.count '\x7d' ≤ p.count '\x7b' + depth
  /-- At the end all are closed. -/
  total : s.count '\x7d' = s.count '\x7b' + depth

/-- The depth of braces never falls below zero, and it is zero at the end. -/
def Balanced (s : List Char) : Prop :=
  Closes 0 s

/-! ## Character by character -/

theorem closes_nil {depth : Nat} : Closes depth [] ↔ depth = 0 := by
  constructor
  · intro h
    have htotal := h.total
    simpa using htotal.symm
  · rintro rfl
    refine ⟨fun p hp => ?_, rfl⟩
    rw [List.prefix_nil.1 hp]
    exact Nat.le_refl 0

/-- A character in front of a text changes the depth at which the text goes on. -/
theorem closes_cons {depth below : Nat} {c : Char} {s : List Char}
    (h : ∀ p : List Char, (c :: p).count '\x7d' + (p.count '\x7b' + below) =
      p.count '\x7d' + ((c :: p).count '\x7b' + depth)) :
    Closes depth (c :: s) ↔ Closes below s := by
  constructor
  · intro hcloses
    refine ⟨fun p hp => ?_, ?_⟩
    · have hwithin := hcloses.within (c :: p) ((List.prefix_cons_inj c).2 hp)
      have hp := h p
      omega
    · have htotal := hcloses.total
      have hs := h s
      omega
  · intro hcloses
    refine ⟨fun p hp => ?_, ?_⟩
    · rcases List.prefix_cons_iff.1 hp with rfl | ⟨q, rfl, hq⟩
      · simp
      · have hwithin := hcloses.within q hq
        have hq := h q
        omega
    · have htotal := hcloses.total
      have hs := h s
      omega

theorem closes_open {depth : Nat} {s : List Char} :
    Closes depth ('\x7b' :: s) ↔ Closes (depth + 1) s := by
  refine closes_cons fun p => ?_
  have hopens : ('\x7b' :: p).count '\x7b' = p.count '\x7b' + 1 := List.count_cons_self
  have hcloses : ('\x7b' :: p).count '\x7d' = p.count '\x7d' := List.count_cons_of_ne (by decide)
  omega

theorem closes_close {depth : Nat} {s : List Char} :
    Closes (depth + 1) ('\x7d' :: s) ↔ Closes depth s := by
  refine closes_cons fun p => ?_
  have hopens : ('\x7d' :: p).count '\x7b' = p.count '\x7b' := List.count_cons_of_ne (by decide)
  have hcloses : ('\x7d' :: p).count '\x7d' = p.count '\x7d' + 1 := List.count_cons_self
  omega

theorem closes_of_ne {depth : Nat} {c : Char} {s : List Char} (hopen : c ≠ '\x7b')
    (hclose : c ≠ '\x7d') : Closes depth (c :: s) ↔ Closes depth s := by
  refine closes_cons fun p => ?_
  rw [List.count_cons_of_ne hopen, List.count_cons_of_ne hclose]

/-- Where nothing is open, nothing can be closed. -/
theorem not_closes_close {s : List Char} : ¬ Closes 0 ('\x7d' :: s) := by
  intro h
  have hfirst := h.within ['\x7d'] (by simp)
  revert hfirst
  decide

/-! ## Texts put together -/

/-- Behind a text that closes all it opens, the rest goes on as if it stood alone. -/
theorem closes_append {depth more : Nat} {s rest : List Char} (h : Closes depth s) :
    Closes (depth + more) (s ++ rest) ↔ Closes more rest := by
  induction s generalizing depth with
  | nil =>
      rw [closes_nil.1 h, Nat.zero_add, List.nil_append]
  | cons c s ih =>
      rw [List.cons_append]
      by_cases hopen : c = '\x7b'
      · subst hopen
        have hs := closes_open.1 h
        rw [closes_open, Nat.add_right_comm, ih hs]
      · by_cases hclose : c = '\x7d'
        · subst hclose
          -- something was open, since this text is not the one to close too much
          cases depth with
          | zero =>
              exact absurd h not_closes_close
          | succ depth =>
              rw [Nat.add_right_comm, closes_close, ih (closes_close.1 h)]
        · rw [closes_of_ne hopen hclose, ih ((closes_of_ne hopen hclose).1 h)]

theorem balanced_append {s rest : List Char} (h : Balanced s) :
    Balanced (s ++ rest) ↔ Balanced rest :=
  @closes_append 0 0 s rest h

/-- A text without braces is balanced. -/
theorem balanced_of_forall_ne {s : List Char} (h : ∀ c ∈ s, c ≠ '\x7b' ∧ c ≠ '\x7d') :
    Balanced s := by
  induction s with
  | nil =>
      exact closes_nil.2 rfl
  | cons c s ih =>
      rcases List.forall_mem_cons.1 h with ⟨hc, hs⟩
      exact (closes_of_ne hc.1 hc.2).2 (ih hs)

/-- A group in braces is balanced, and what stands behind it decides. -/
theorem balanced_group_append {inner rest : List Char} (h : Balanced inner) :
    Balanced ('\x7b' :: (inner ++ '\x7d' :: rest)) ↔ Balanced rest := by
  calc
    Balanced ('\x7b' :: (inner ++ '\x7d' :: rest)) ↔ Closes (0 + 1) (inner ++ '\x7d' :: rest) :=
      closes_open
    _ ↔ Closes 1 ('\x7d' :: rest) := closes_append h
    _ ↔ Balanced rest := closes_close

/-- What closes more than it opens has a first place where it does so. -/
theorem Closes.exists_close {depth more : Nat} {s : List Char} (h : Closes (depth + more + 1) s) :
    ∃ inner rest, s = inner ++ '\x7d' :: rest ∧ Closes depth inner ∧ Closes more rest := by
  induction s generalizing depth with
  | nil =>
      exact absurd (closes_nil.1 h) (Nat.succ_ne_zero _)
  | cons c s ih =>
      by_cases hopen : c = '\x7b'
      · subst hopen
        have hs : Closes (depth + 1 + more + 1) s := by
          rw [Nat.add_right_comm depth 1 more]
          exact closes_open.1 h
        rcases ih hs with ⟨inner, rest, rfl, hinner, hrest⟩
        exact ⟨'\x7b' :: inner, rest, rfl, closes_open.2 hinner, hrest⟩
      · by_cases hclose : c = '\x7d'
        · subst hclose
          have hs := closes_close.1 h
          cases depth with
          | zero =>
              -- this is the place
              rw [Nat.zero_add] at hs
              exact ⟨[], s, rfl, closes_nil.2 rfl, hs⟩
          | succ depth =>
              rw [Nat.add_right_comm depth 1 more] at hs
              rcases ih hs with ⟨inner, rest, rfl, hinner, hrest⟩
              exact ⟨'\x7d' :: inner, rest, rfl, closes_close.2 hinner, hrest⟩
        · rcases ih ((closes_of_ne hopen hclose).1 h) with ⟨inner, rest, rfl, hinner, hrest⟩
          exact ⟨c :: inner, rest, rfl, (closes_of_ne hopen hclose).2 hinner, hrest⟩

/-! ## The reader of groups -/

/-- The reader takes what closes the depth that it is at, up to the next closing brace. -/
theorem closeGroup_eq_some {depth : Nat} {group s inner rest : List Char} :
    closeGroup depth group s = some (inner, rest) ↔
      ∃ read, s = read ++ '\x7d' :: rest ∧ inner = group.reverse ++ read ∧ Closes depth read := by
  -- The first character of what is read is that of the text, unless nothing is read.
  have hcons :
      ∀ {depth : Nat} {group : List Char} {c : Char} {cs : List Char},
        (∃ read, c :: cs = read ++ '\x7d' :: rest ∧ inner = group.reverse ++ read ∧
            Closes depth read) ↔
          (c = '\x7d' ∧ cs = rest ∧ inner = group.reverse ∧ depth = 0) ∨
            ∃ read, cs = read ++ '\x7d' :: rest ∧ inner = (c :: group).reverse ++ read ∧
              Closes depth (c :: read) := by
    intro depth group c cs
    constructor
    · rintro ⟨read, hs, hinner, hcloses⟩
      cases read with
      | nil =>
          rw [List.nil_append, List.cons.injEq] at hs
          exact .inl ⟨hs.1, hs.2, by simpa using hinner, closes_nil.1 hcloses⟩
      | cons d read =>
          rw [List.cons_append, List.cons.injEq] at hs
          rcases hs with ⟨rfl, hs⟩
          exact .inr ⟨read, hs, by simpa using hinner, hcloses⟩
    · rintro (⟨rfl, rfl, rfl, rfl⟩ | ⟨read, rfl, rfl, hcloses⟩)
      · exact ⟨[], rfl, by simp, closes_nil.2 rfl⟩
      · exact ⟨c :: read, rfl, by simp, hcloses⟩
  fun_induction closeGroup depth group s with
  | case1 =>
      simp
  | case2 depth group cs ih =>
      refine Iff.trans ih ?_
      rw [hcons]
      simp [closes_open]
  | case3 group cs =>
      rw [hcons]
      simp [not_closes_close, and_comm, eq_comm]
  | case4 group cs depth _ ih =>
      refine Iff.trans ih ?_
      rw [hcons]
      simp [closes_close]
  | case5 depth group c cs hopen hclose ih =>
      refine Iff.trans ih ?_
      rw [hcons]
      simp [hclose, closes_of_ne hopen hclose]

/-- A group is what stands before the brace that closes it: a balanced text. -/
theorem closeGroup_eq_some_iff {s inner rest : List Char} :
    closeGroup 0 [] s = some (inner, rest) ↔ s = inner ++ '\x7d' :: rest ∧ Balanced inner := by
  rw [closeGroup_eq_some]
  constructor
  · rintro ⟨read, rfl, rfl, hcloses⟩
    exact ⟨rfl, hcloses⟩
  · rintro ⟨rfl, hcloses⟩
    exact ⟨inner, rfl, rfl, hcloses⟩

end Body
end TemplateVariants
