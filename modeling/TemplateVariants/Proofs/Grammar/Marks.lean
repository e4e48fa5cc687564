import Mathlib.Data.List.Infix
import Mathlib.Tactic.Common
import TemplateVariants.Template.Parse

/-!
# Marks

A mark is two characters next to each other. If they differ, two marks cannot overlap; so a text is
cut at its first mark exactly if no mark stands before the cut (`Line.cut_eq_some_iff`), and texts
put together have the marks of each, and one more where the first ends with the one character and
the second begins with the other (`Line.hasMark_append`).
-/

namespace TemplateVariants
namespace Line

/-- The mark of both characters stands somewhere in the text. -/
def HasMark (first second : Char) (s : List Char) : Prop :=
  [first, second] <:+: s

section

variable {first second : Char} {s before a b : List Char}

theorem not_hasMark_nil : ¬ HasMark first second [] := by
  intro h
  cases List.infix_nil.1 h

/-- A mark stands at the start of a text or later. -/
theorem hasMark_cons {c : Char} :
    HasMark first second (c :: s) ↔ (c = first ∧ second ∈ s.head?) ∨ HasMark first second s := by
  have hprefix : [first, second] <+: c :: s ↔ c = first ∧ second ∈ s.head? := by
    cases s with
    | nil =>
        simp
    | cons d s =>
        simp [List.cons_prefix_cons, eq_comm]
  rw [HasMark, List.infix_cons_iff, hprefix, HasMark]

/-- The cut is at the first mark. -/
theorem cutFrom_eq_some_iff (hne : first ≠ second) :
    cutFrom first second before s = some (a, b) ↔
      ∃ read, a = before.reverse ++ read ∧ s = read ++ first :: second :: b ∧
        ¬ HasMark first second read := by
  fun_induction cutFrom first second before s with
  | case1 before c d cs h =>
      rcases h with ⟨rfl, rfl⟩
      constructor
      · intro h
        cases h
        exact ⟨[], by simp, rfl, not_hasMark_nil⟩
      · rintro ⟨read, rfl, hs, hread⟩
        -- the mark is where the text starts, or it would be within what was read
        cases read with
        | nil =>
            cases hs
            simp
        | cons x read =>
            cases read with
            | nil =>
                cases hs
                exact absurd rfl hne
            | cons y read =>
                cases hs
                exact absurd (hasMark_cons.2 (.inl ⟨rfl, rfl⟩)) hread
  | case2 before c d cs h ih =>
      refine Iff.trans ih ?_
      constructor
      · rintro ⟨read, rfl, hs, hread⟩
        refine ⟨c :: read, by simp, by rw [hs, List.cons_append], ?_⟩
        intro hmark
        rcases hasMark_cons.1 hmark with ⟨hc, hd⟩ | hmark
        · cases read with
          | nil =>
              cases hd
          | cons e read =>
              cases hs
              exact h ⟨hc, Option.some.inj hd⟩
        · exact hread hmark
      · rintro ⟨read, rfl, hs, hread⟩
        cases read with
        | nil =>
            cases hs
            exact absurd ⟨rfl, rfl⟩ h
        | cons e read =>
            rw [List.cons_append, List.cons.injEq] at hs
            rcases hs with ⟨rfl, hs⟩
            exact ⟨read, by simp, hs, fun hmark => hread (hasMark_cons.2 (.inr hmark))⟩
  | case3 s before hshort =>
      simp only [reduceCtorEq, false_iff]
      rintro ⟨read, -, rfl, -⟩
      cases read with
      | nil =>
          exact hshort _ _ _ rfl
      | cons c read =>
          cases read with
          | nil =>
              exact hshort _ _ _ rfl
          | cons d read =>
              exact hshort _ _ _ rfl

theorem cutFrom_eq_none_iff :
    cutFrom first second before s = none ↔ ¬ HasMark first second s := by
  fun_induction cutFrom first second before s with
  | case1 before c d cs h =>
      simp [hasMark_cons, h]
  | case2 before c d cs h ih =>
      refine Iff.trans ih ?_
      rw [hasMark_cons (c := c)]
      simp [h]
  | case3 s before hshort =>
      simp only [true_iff]
      cases s with
      | nil =>
          exact not_hasMark_nil
      | cons c s =>
          cases s with
          | nil =>
              simp [hasMark_cons, not_hasMark_nil]
          | cons d s =>
              exact (hshort c d s rfl).elim

theorem cut_eq_some_iff (hne : first ≠ second) :
    cut first second s = some (a, b) ↔ s = a ++ first :: second :: b ∧ ¬ HasMark first second a := by
  rw [cut, cutFrom_eq_some_iff hne]
  simp

theorem cut_eq_none_iff : cut first second s = none ↔ ¬ HasMark first second s :=
  cutFrom_eq_none_iff

/-- A mark of two texts put together is one of either, or it stands where they meet. -/
theorem hasMark_append :
    HasMark first second (a ++ b) ↔
      HasMark first second a ∨ HasMark first second b ∨
        (first ∈ a.getLast? ∧ second ∈ b.head?) := by
  induction a with
  | nil =>
      simp [not_hasMark_nil]
  | cons c a ih =>
      rw [List.cons_append, hasMark_cons, ih, hasMark_cons]
      cases a with
      | nil =>
          simp [not_hasMark_nil, or_comm, eq_comm]
      | cons d a =>
          simp [List.getLast?_cons_cons, or_assoc]

end

end Line
end TemplateVariants
