import TemplateVariants.Expand.Document
import TemplateVariants.Proofs.Expansion.Sound

/-!
# Passes

A pass expands line after line. `ExpandsLines` is the run of a pass: the lines with the trees that
their tokens turned into, and the sessions in between. The lines after the pass are a function of
these trees (`ExpandedLine.lines`), and `expandPass_eq_ok_iff` says that a pass succeeds exactly
along such a run.
-/

namespace TemplateVariants

open ListForm Randomness

/-- A line with the trees that its tokens turned into. -/
structure ExpandedLine where
  source : PendingLine
  row : List Expansion

namespace ExpandedLine

/-- The lists that are declared before and filled after the line. -/
def lists (line : ExpandedLine) : List AppendedList :=
  line.row.flatMap Expansion.lists

/-- The tokens of the line itself. -/
def result (line : ExpandedLine) : Line :=
  line.row.flatMap Expansion.result

def indent (line : ExpandedLine) : String :=
  indentation line.source.tokens

/-- The lines that take the place of the line. -/
def lines (line : ExpandedLine) : List PendingLine :=
  (line.lists.map (AppendedList.declaration line.indent) ++
    line.result :: line.lists.flatMap (AppendedList.fillings line.indent)).map fun tokens =>
      ⟨line.source.origin, tokens⟩

/-- The tokens around and on the line, as they follow each other. -/
theorem flatMap_tokens_lines (line : ExpandedLine) :
    line.lines.flatMap PendingLine.tokens =
      line.lists.flatMap (AppendedList.declaration line.indent) ++
        (line.result ++ (line.lists.flatMap (AppendedList.fillings line.indent)).flatten) := by
  unfold lines
  rw [List.flatMap_map, List.flatMap_id', List.flatten_append, List.flatten_cons,
    ← List.flatMap_def]

/-- Without lists a line stays alone. -/
theorem lines_of_lists_eq_nil {line : ExpandedLine} (h : line.lists = []) :
    line.lines = [⟨line.source.origin, line.result⟩] := by
  unfold lines
  rw [h]
  rfl

end ExpandedLine

section Passes

variable {G : Type} [WordSource G]

/-- The lines, expanded from the first to the last, turned into the expanded ones. -/
inductive ExpandsLines :
    List PendingLine → Session G → List ExpandedLine → Session G → Prop where
  | nil (s : Session G) :
      ExpandsLines [] s [] s
  | cons {line : PendingLine} {lines : List PendingLine} {s s₁ s' : Session G}
      {row : List Expansion} {expanded : List ExpandedLine} :
      Expands line.tokens s row s₁ →
      ExpandsLines lines s₁ expanded s' →
      ExpandsLines (line :: lines) s (⟨line, row⟩ :: expanded) s'

/-- A line is expanded with success exactly along a run of its tokens. -/
theorem PendingLine.expand_eq_ok_iff {file : String} {line : PendingLine} {s s' : Session G}
    {next : List PendingLine} :
    line.expand file s = .ok next s' ↔
      ∃ row, Expands line.tokens s row s' ∧ next = (ExpandedLine.mk line row).lines := by
  -- What the replacements bring around a line are the declarations and appends of their trees.
  have hlines :
      ∀ row : List Expansion,
        let parts := row.map (Expansion.replacement (indentation line.tokens))
        let expanded := Replacement.within parts (.plain (parts.flatMap Replacement.result))
        ((expanded.before ++ expanded.result :: expanded.after).map fun tokens =>
            (⟨line.origin, tokens⟩ : PendingLine)) =
          (ExpandedLine.mk line row).lines := by
    intro row
    simp [Replacement.within, Replacement.plain, ExpandedLine.lines, ExpandedLine.lists,
      ExpandedLine.result, ExpandedLine.indent, Expansion.replacement, List.flatMap_map,
      List.map_flatMap, List.flatMap_assoc]
  unfold PendingLine.expand
  rw [Compiling.mapFault_eq_ok, ← Token.expandAll_eq_mapM]
  simp only [Compiling.bind_eq_ok, Compiling.pure_eq_ok, Token.expandAll_eq_ok_iff]
  constructor
  · rintro ⟨parts, s₁, ⟨row, hrow, rfl⟩, rfl, rfl⟩
    exact ⟨row, hrow, hlines row⟩
  · rintro ⟨row, hrow, rfl⟩
    exact ⟨_, s', ⟨row, hrow, rfl⟩, hlines row, rfl⟩

/-- A pass succeeds exactly along a run of its lines. -/
theorem expandPass_eq_ok_iff {file : String} {lines next : List PendingLine} {s s' : Session G} :
    expandPass file lines s = .ok next s' ↔
      ∃ expanded, ExpandsLines lines s expanded s' ∧
        next = expanded.flatMap ExpandedLine.lines := by
  -- The lines of each line are kept apart until the end of the pass.
  have hmapM :
      ∀ (parts : List (List PendingLine)) (s s' : Session G),
        (lines.mapM (PendingLine.expand file) : Compiling CompileError G _) s = .ok parts s' ↔
          ∃ expanded, ExpandsLines lines s expanded s' ∧
            parts = expanded.map ExpandedLine.lines := by
    induction lines with
    | nil =>
        intro parts s s'
        simp only [List.mapM_nil, Compiling.pure_eq_ok]
        constructor
        · rintro ⟨rfl, rfl⟩
          exact ⟨[], .nil s, rfl⟩
        · rintro ⟨expanded, hrun, rfl⟩
          cases hrun
          exact ⟨rfl, rfl⟩
    | cons line lines ih =>
        intro parts s s'
        simp only [List.mapM_cons, Compiling.bind_eq_ok, Compiling.pure_eq_ok,
          PendingLine.expand_eq_ok_iff, ih]
        constructor
        · rintro ⟨_, s₁, ⟨row, hrow, rfl⟩, _, s₂, ⟨expanded, hrest, rfl⟩, rfl, rfl⟩
          exact ⟨⟨line, row⟩ :: expanded, .cons hrow hrest, rfl⟩
        · rintro ⟨expanded, hrun, rfl⟩
          cases hrun with
          | cons hrow hrest =>
              exact ⟨_, _, ⟨_, hrow, rfl⟩, _, s', ⟨_, hrest, rfl⟩, rfl, rfl⟩
  unfold expandPass
  simp only [Compiling.bind_eq_ok, Compiling.pure_eq_ok, hmapM]
  constructor
  · rintro ⟨_, s₁, ⟨expanded, hrun, rfl⟩, rfl, rfl⟩
    exact ⟨expanded, hrun, by rw [List.flatMap_def]⟩
  · rintro ⟨expanded, hrun, rfl⟩
    exact ⟨_, s', ⟨expanded, hrun, rfl⟩, by rw [List.flatMap_def], rfl⟩

namespace ExpandsLines

variable {lines : List PendingLine} {s s' : Session G} {expanded : List ExpandedLine}

/-- The tokens of all lines run as one row. -/
theorem expands (h : ExpandsLines lines s expanded s') :
    Expands (lines.flatMap PendingLine.tokens) s (expanded.flatMap ExpandedLine.row) s' := by
  induction h with
  | nil s =>
      exact .nil s
  | cons hrow _ ih =>
      exact hrow.append ih

/-- Each line has trees of the shape of its tokens. -/
theorem isOf (h : ExpandsLines lines s expanded s') :
    ∀ line ∈ expanded, List.Forall₂ Expansion.IsOf line.source.tokens line.row := by
  induction h with
  | nil s =>
      simp
  | cons hrow _ ih =>
      exact List.forall_mem_cons.2 ⟨hrow.isOf, ih⟩

theorem map_source (h : ExpandsLines lines s expanded s') :
    expanded.map ExpandedLine.source = lines := by
  induction h with
  | nil s =>
      rfl
  | cons _ _ ih =>
      rw [List.map_cons, ih]

end ExpandsLines

end Passes

end TemplateVariants
