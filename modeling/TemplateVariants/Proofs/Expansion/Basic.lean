import TemplateVariants.Proofs.Writing

/-!
# Expansions

What a token turned into, kept as a tree: which identifier a name got, what a name stood for, how
a list was written. All that a command brings into the lines is a function of this tree. A list that
is written with appends is declared before the line and filled after it; `Expansion.lists` collects
these lists, those of the arguments first, so that the lines on both sides can be read off
(`Expansion.replacement`).
-/

namespace TemplateVariants

open ListForm

/-- How a token was expanded. -/
inductive Expansion where
  | text (text : String)
  /-- The name got the identifier. -/
  | var (name : String) (candidates : List Expansion) (identifier : String)
  /-- The name stood for the value. -/
  | get (name : String) (value : Token)
  | collection (elements : List Expansion) (writing : Writing)
  /-- The element was expanded once for each slot. -/
  | build (size : Expansion) (slots : List Expansion) (writing : Writing)
  | rand (kind : NumberKind) (lower upper : Expansion) (value : String)

/-- A list that is declared before a line and filled after it. -/
structure AppendedList where
  name : String
  elements : List Expansion

/-! ## Induction -/

/-- Induction over a tree, with the statement for every tree of the rows below it. -/
@[induction_eliminator]
theorem Expansion.tree_induction {P : Expansion → Prop}
    (text : ∀ t, P (.text t))
    (var : ∀ name candidates identifier, (∀ part ∈ candidates, P part) →
      P (.var name candidates identifier))
    (get : ∀ name value, P (.get name value))
    (collection : ∀ elements writing, (∀ part ∈ elements, P part) →
      P (.collection elements writing))
    (build : ∀ size slots writing, P size → (∀ part ∈ slots, P part) →
      P (.build size slots writing))
    (rand : ∀ kind lower upper value, P lower → P upper → P (.rand kind lower upper value)) :
    ∀ expansion, P expansion
  | .text t => text t
  | .var name candidates identifier =>
      var name candidates identifier fun part _ =>
        tree_induction text var get collection build rand part
  | .get name value => get name value
  | .collection elements writing =>
      collection elements writing fun part _ =>
        tree_induction text var get collection build rand part
  | .build size slots writing =>
      build size slots writing (tree_induction text var get collection build rand size)
        fun part _ => tree_induction text var get collection build rand part
  | .rand kind lower upper value =>
      rand kind lower upper value (tree_induction text var get collection build rand lower)
        (tree_induction text var get collection build rand upper)

theorem sizeOf_row_pos {α : Type} [SizeOf α] (row : List α) : 0 < sizeOf row := by
  cases row with
  | nil =>
      rw [List.nil.sizeOf_spec]
      exact Nat.one_pos
  | cons first row =>
      rw [List.cons.sizeOf_spec]
      omega

/-- Induction over the tokens of a line: there are none, or the first is taken off. -/
theorem Line.row_induction {P : List Token → Prop} (nil : P [])
    (literal : ∀ text row, P row → P (.literal text :: row))
    (var : ∀ name candidates row, P candidates → P row →
      P (.command (.var name candidates) :: row))
    (get : ∀ name row, P row → P (.command (.get name) :: row))
    (collection : ∀ elements row, P elements → P row → P (.command (.collection elements) :: row))
    (build : ∀ size element row, P [size] → P [element] → P row →
      P (.command (.build size element) :: row))
    (rand : ∀ kind lower upper row, P [lower] → P [upper] → P row →
      P (.command (.rand kind lower upper) :: row)) :
    ∀ row, P row
  | [] => nil
  | .literal text :: row =>
      literal text row (row_induction nil literal var get collection build rand row)
  | .command (.var name candidates) :: row =>
      var name candidates row
        (row_induction nil literal var get collection build rand candidates)
        (row_induction nil literal var get collection build rand row)
  | .command (.get name) :: row =>
      get name row (row_induction nil literal var get collection build rand row)
  | .command (.collection elements) :: row =>
      collection elements row
        (row_induction nil literal var get collection build rand elements)
        (row_induction nil literal var get collection build rand row)
  | .command (.build size element) :: row =>
      build size element row
        (row_induction nil literal var get collection build rand [size])
        (row_induction nil literal var get collection build rand [element])
        (row_induction nil literal var get collection build rand row)
  | .command (.rand kind lower upper) :: row =>
      rand kind lower upper row
        (row_induction nil literal var get collection build rand [lower])
        (row_induction nil literal var get collection build rand [upper])
        (row_induction nil literal var get collection build rand row)
termination_by row => sizeOf row
decreasing_by
  all_goals
    -- the row that is left is never of size zero, so what was taken off is smaller than the whole
    have hrow := sizeOf_row_pos row
    simp only [List.cons.sizeOf_spec, List.nil.sizeOf_spec, Token.literal.sizeOf_spec,
      Token.command.sizeOf_spec, Command.var.sizeOf_spec, Command.collection.sizeOf_spec,
      Command.build.sizeOf_spec, Command.rand.sizeOf_spec, Command.get.sizeOf_spec]
    omega

/-! ## What an expansion brings into the lines -/

namespace ListForm
namespace Writing

/-- What stands in place of a list. -/
def inline (elements : List Line) : Writing → Line
  | literal spacing breaks => ListForm.literal (breaks.map (separator spacing)) elements
  | appended name => [.command (.get name)]

/-- The list that the writing itself declares and fills, if it does. -/
def lists (elements : List Expansion) : Writing → List AppendedList
  | literal _ _ => []
  | appended name => [⟨name, elements⟩]

end Writing
end ListForm

namespace Expansion

mutual

/-- The tokens in place of the token. -/
def result : Expansion → Line
  | .text t => [.literal t]
  | .var _ _ identifier => [.literal identifier]
  | .get _ value => [value]
  | .collection elements writing => writing.inline (results elements)
  | .build _ slots writing => writing.inline (results slots)
  | .rand _ _ _ value => [.literal value]

def results : List Expansion → List Line
  | [] => []
  | expansion :: row => expansion.result :: results row

end

mutual

/-- The lists declared before and filled after the line, in the order of their lines. -/
def lists : Expansion → List AppendedList
  | .text _ => []
  | .var _ candidates _ => rowLists candidates
  | .get _ _ => []
  | .collection elements writing => rowLists elements ++ writing.lists elements
  | .build size slots writing => size.lists ++ rowLists slots ++ writing.lists slots
  | .rand _ lower upper _ => lower.lists ++ upper.lists

def rowLists : List Expansion → List AppendedList
  | [] => []
  | expansion :: row => expansion.lists ++ rowLists row

end

attribute [simp] result lists

@[simp]
theorem results_eq_map (row : List Expansion) : results row = row.map result := by
  induction row with
  | nil =>
      rfl
  | cons expansion row ih =>
      simp [results, ih]

@[simp]
theorem rowLists_eq_flatMap (row : List Expansion) : rowLists row = row.flatMap lists := by
  induction row with
  | nil =>
      rfl
  | cons expansion row ih =>
      simp [rowLists, ih]

/-! ## Parts of an expansion -/

/-- The trees of the arguments, in the order in which they were expanded. -/
def parts : Expansion → List Expansion
  | .text _ => []
  | .var _ candidates _ => candidates
  | .get _ _ => []
  | .collection elements _ => elements
  | .build size slots _ => size :: slots
  | .rand _ lower upper _ => [lower, upper]

/-- How the list is written, if the token is a collection. -/
def writing? : Expansion → Option Writing
  | .collection _ writing => some writing
  | .build _ _ writing => some writing
  | _ => none

/-- The elements of the list, if the token is a collection. -/
def elements : Expansion → List Expansion
  | .collection elements _ => elements
  | .build _ slots _ => slots
  | _ => []

/-- Somewhere in the tree a collection is written with appends. -/
inductive Appends : Expansion → Prop where
  | here {expansion : Expansion} {name : String} :
      expansion.writing? = some (.appended name) → Appends expansion
  | within {expansion part : Expansion} :
      part ∈ expansion.parts → Appends part → Appends expansion

/-- The lists of the arguments come first, then the list of the collection itself. -/
theorem lists_eq_parts (expansion : Expansion) :
    expansion.lists =
      expansion.parts.flatMap lists ++
        expansion.writing?.toList.flatMap (Writing.lists expansion.elements) := by
  cases expansion with
  | text t =>
      simp [parts, writing?]
  | var name candidates identifier =>
      simp [parts, writing?]
  | get name value =>
      simp [parts, writing?]
  | collection elements writing =>
      simp [parts, writing?, Expansion.elements]
  | build size slots writing =>
      simp [parts, writing?, Expansion.elements]
  | rand kind lower upper value =>
      simp [parts, writing?]

/-- Lists are filled around a line exactly where a collection of it is written with appends. -/
theorem lists_ne_nil_iff (expansion : Expansion) : expansion.lists ≠ [] ↔ expansion.Appends := by
  constructor
  · have hstep :
        ∀ expansion : Expansion, (∀ part ∈ expansion.parts, part.lists ≠ [] → part.Appends) →
          expansion.lists ≠ [] → expansion.Appends := by
      intro expansion ih hne
      -- a list is one of an argument, or the one of the collection itself
      rw [lists_eq_parts, ne_eq, List.append_eq_nil_iff, not_and_or] at hne
      rcases hne with hparts | hown
      · simp only [List.flatMap_eq_nil_iff, not_forall] at hparts
        rcases hparts with ⟨part, hpart, hlists⟩
        exact .within hpart (ih part hpart hlists)
      · cases hwriting : expansion.writing? with
        | none =>
            simp [hwriting] at hown
        | some writing =>
            cases writing with
            | literal spacing breaks =>
                simp [hwriting, Writing.lists] at hown
            | appended name =>
                exact .here hwriting
    induction expansion with
    | text t =>
        exact hstep _ (by simp [parts])
    | var name candidates identifier ih =>
        exact hstep _ ih
    | get name value =>
        exact hstep _ (by simp [parts])
    | collection elements writing ih =>
        exact hstep _ ih
    | build size slots writing ihsize ihslots =>
        exact hstep _ (List.forall_mem_cons.2 ⟨ihsize, ihslots⟩)
    | rand kind lower upper value ihlower ihupper =>
        exact hstep _ (by simpa [parts] using And.intro ihlower ihupper)
  · intro h
    induction h with
    | here hwriting =>
        rw [lists_eq_parts, hwriting]
        simp [Writing.lists]
    | within hpart _ ih =>
        rw [lists_eq_parts, ne_eq, List.append_eq_nil_iff, List.flatMap_eq_nil_iff]
        intro hnone
        exact ih (hnone.1 _ hpart)

end Expansion

namespace AppendedList

/-- The line that declares a list. -/
def declaration (indent : String) (list : AppendedList) : Line :=
  startLine indent [.command (.var list.name []), .literal " = []\n"]

/-- The lines that fill a list, one for each element. -/
def fillings (indent : String) (list : AppendedList) : List Line :=
  list.elements.map fun element =>
    startLine indent
      (.command (.get list.name) :: .literal ".append(" :: (element.result ++ [.literal ")\n"]))

end AppendedList

namespace Expansion

/-- What the token turned into, in a line with the given indentation. -/
def replacement (indent : String) (expansion : Expansion) : Replacement where
  before := expansion.lists.map (AppendedList.declaration indent)
  result := expansion.result
  after := expansion.lists.flatMap (AppendedList.fillings indent)

@[simp]
theorem replacement_result (indent : String) (expansion : Expansion) :
    (expansion.replacement indent).result = expansion.result := rfl

@[simp]
theorem replacement_text (indent text : String) :
    (Expansion.text text).replacement indent = .plain [.literal text] := by
  simp [replacement, Replacement.plain]

theorem replacement_var (indent name identifier : String) (candidates : List Expansion) :
    (Expansion.var name candidates identifier).replacement indent =
      .within (candidates.map (replacement indent)) (.plain [.literal identifier]) := by
  simp [replacement, Replacement.within, Replacement.plain, List.flatMap_map,
    List.map_flatMap, List.flatMap_assoc]

theorem replacement_get (indent name : String) (value : Token) :
    (Expansion.get name value).replacement indent = .plain [value] := by
  simp [replacement, Replacement.plain]

theorem replacement_collection (indent : String) (elements : List Expansion) (writing : Writing) :
    (Expansion.collection elements writing).replacement indent =
      .within (elements.map (replacement indent))
        (writing.replacement indent (elements.map result)) := by
  cases writing with
  | literal spacing breaks =>
      simp [replacement, Replacement.within, Replacement.plain, List.flatMap_map,
        List.map_flatMap, List.flatMap_assoc, Writing.replacement, Writing.inline, Writing.lists]
  | appended name =>
      simp [replacement, Replacement.within, List.flatMap_map,
        List.map_flatMap, List.flatMap_assoc, Writing.replacement, Writing.inline, Writing.lists,
        appended, AppendedList.declaration, AppendedList.fillings]

theorem replacement_build (indent : String) (size : Expansion) (slots : List Expansion)
    (writing : Writing) :
    (Expansion.build size slots writing).replacement indent =
      .within (size.replacement indent :: slots.map (replacement indent))
        (writing.replacement indent (slots.map result)) := by
  cases writing with
  | literal spacing breaks =>
      simp [replacement, Replacement.within, Replacement.plain, List.flatMap_map,
        List.map_flatMap, List.flatMap_assoc, Writing.replacement, Writing.inline, Writing.lists]
  | appended name =>
      simp [replacement, Replacement.within, List.flatMap_map,
        List.map_flatMap, List.flatMap_assoc, Writing.replacement, Writing.inline, Writing.lists,
        appended, AppendedList.declaration, AppendedList.fillings]

theorem replacement_rand (indent : String) (kind : NumberKind) (lower upper : Expansion)
    (value : String) :
    (Expansion.rand kind lower upper value).replacement indent =
      .within [lower.replacement indent, upper.replacement indent] (.plain [.literal value]) := by
  simp [replacement, Replacement.within, Replacement.plain]

end Expansion

end TemplateVariants
