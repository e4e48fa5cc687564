import TemplateVariants.Proofs.ListProgram.Semantics
import TemplateVariants.Proofs.Passes.Identifiers

/-!
# Written lists as programs

The tokens that an expansion brings into the lines, spelled in symbols: `Expansion.groups` has a
group of symbols for each token in place, and `ExpandedLine.program` does the same for the
declarations before a line, the line itself and the appends after it. Once identifiers stand in the
place of synthetic names, the tokens are the spelled-out groups (`ExpandedLine.lines_rename`).

In each of the two ways in which a list is written, its symbols are read as an item: a list in
place, or the object that its name stands for (`Expansion.Sound.spells`).
-/

namespace TemplateVariants

open ListForm ListProgram

/-! ## Spelling -/

namespace ListProgram

/-- The token that a group of symbols spells. -/
def spell (group : List Symbol) : Token :=
  .literal (String.join (group.map Symbol.text))

/-- The symbols between two elements. -/
def separatorGroup (spacing : String) (isBreak : Bool) : List Symbol :=
  if isBreak then [.closing, .blank spacing, .plus, .blank spacing, .opening]
  else [.comma, .blank spacing]

/-- Elements, each after a separator. -/
def separatedGroups (spacing : String) (breaks : List Bool) (elements : List (List (List Symbol))) :
    List (List Symbol) :=
  (breaks.zip elements).flatMap fun pair => separatorGroup spacing pair.1 :: pair.2

/-- The elements in brackets, each but the first after a separator. -/
def literalGroups (spacing : String) (breaks : List Bool) :
    List (List (List Symbol)) → List (List Symbol)
  | [] => [[.opening], [.closing]]
  | first :: rest => [.opening] :: (first ++ separatedGroups spacing breaks rest ++ [[.closing]])

/-- A line with an indentation. -/
def startGroups (indent : String) (groups : List (List Symbol)) : List (List Symbol) :=
  if indent.isEmpty then groups else [.blank indent] :: groups

theorem spell_singleton (symbol : Symbol) : spell [symbol] = .literal symbol.text := by
  simp [spell, String.join]

theorem spell_separatorGroup (spacing : String) (isBreak : Bool) :
    spell (separatorGroup spacing isBreak) = .literal (separator spacing isBreak) := by
  cases isBreak with
  | true =>
      simp [spell, separatorGroup, separator, Symbol.text, String.join]
  | false =>
      simp [spell, separatorGroup, separator, Symbol.text, String.join]

theorem map_spell_literalGroups (spacing : String) (breaks : List Bool)
    (elements : List (List (List Symbol))) :
    (literalGroups spacing breaks elements).map spell =
      literal (breaks.map (separator spacing)) (elements.map (List.map spell)) := by
  cases elements with
  | nil =>
      simp [literalGroups, literal, spell_singleton, Symbol.text]
  | cons first rest =>
      have hrest :
          (separatedGroups spacing breaks rest).map spell =
            ((breaks.map (separator spacing)).zip (rest.map (List.map spell))).flatMap
              fun pair => .literal pair.1 :: pair.2 := by
        rw [separatedGroups, List.zip_map, List.map_flatMap, List.flatMap_map]
        refine List.flatMap_congr fun pair _ => ?_
        rw [List.map_cons, spell_separatorGroup]
        rfl
      simp [literalGroups, literal, spell_singleton, Symbol.text, hrest]

theorem map_spell_startGroups (indent : String) (groups : List (List Symbol)) :
    (startGroups indent groups).map spell = startLine indent (groups.map spell) := by
  unfold startGroups startLine
  split
  · rfl
  · rw [List.map_cons, spell_singleton]
    rfl

end ListProgram

namespace ListForm
namespace Writing

/-- The symbols in place of a list. -/
def groups (ident : String → String) (elements : List (List (List Symbol))) :
    Writing → List (List Symbol)
  | literal spacing breaks => literalGroups spacing breaks elements
  | appended name => [[.reference (ident name)]]

/-- What stands in place of a list: a list, or an object. -/
def item (address : String → Nat) (elements : List Item) : Writing → Item
  | literal _ _ => .list elements
  | appended name => .object (address name)

end Writing
end ListForm

namespace Expansion

mutual

/-- The symbols of the tokens in place, one group for each token. -/
def groups (ident : String → String) : Expansion → List (List Symbol)
  | .text t => [[.atom t]]
  | .var _ _ identifier => [[.atom identifier]]
  | .get _ value => [[.atom (value.text?.getD "")]]
  | .collection elements writing => writing.groups ident (rowGroups ident elements)
  | .build _ slots writing => writing.groups ident (rowGroups ident slots)
  | .rand _ _ _ value => [[.atom value]]

def rowGroups (ident : String → String) : List Expansion → List (List (List Symbol))
  | [] => []
  | expansion :: row => expansion.groups ident :: rowGroups ident row

end

mutual

/-- What the symbols are to give, if each name stands for the object at its address. -/
def item (address : String → Nat) : Expansion → Item
  | .text t => .atom t
  | .var _ _ identifier => .atom identifier
  | .get _ value => .atom (value.text?.getD "")
  | .collection elements writing => writing.item address (rowItems address elements)
  | .build _ slots writing => writing.item address (rowItems address slots)
  | .rand _ _ _ value => .atom value

def rowItems (address : String → Nat) : List Expansion → List Item
  | [] => []
  | expansion :: row => expansion.item address :: rowItems address row

end

mutual

/-- What the template asks for: text where a name or a number stands, and the list of the elements
where a collection stands, however it is written. -/
def value : Expansion → ListValue
  | .text t => .atom t
  | .var _ _ identifier => .atom identifier
  | .get _ value => .atom (value.text?.getD "")
  | .collection elements _ => .list (rowValues elements)
  | .build _ slots _ => .list (rowValues slots)
  | .rand _ _ _ value => .atom value

def rowValues : List Expansion → List ListValue
  | [] => []
  | expansion :: row => expansion.value :: rowValues row

end

@[simp]
theorem rowGroups_eq_map (ident : String → String) (row : List Expansion) :
    rowGroups ident row = row.map (groups ident) := by
  induction row with
  | nil =>
      rfl
  | cons expansion row ih =>
      rw [rowGroups, ih, List.map_cons]

@[simp]
theorem rowItems_eq_map (address : String → Nat) (row : List Expansion) :
    rowItems address row = row.map (item address) := by
  induction row with
  | nil =>
      rfl
  | cons expansion row ih =>
      rw [rowItems, ih, List.map_cons]

@[simp]
theorem rowValues_eq_map (row : List Expansion) : rowValues row = row.map value := by
  induction row with
  | nil =>
      rfl
  | cons expansion row ih =>
      rw [rowValues, ih, List.map_cons]

end Expansion

namespace ListForm

/-- Only the elements of a literal have names to replace. -/
theorem map_rename_literal (ident : String → String) (separators : List String)
    (elements : List Line) :
    (literal separators elements).map (Token.rename ident) =
      literal separators (elements.map (List.map (Token.rename ident))) := by
  cases elements with
  | nil =>
      simp [literal, Token.rename]
  | cons first rest =>
      have hrest :
          ((separators.zip rest).flatMap fun pair => .literal pair.1 :: pair.2).map
              (Token.rename ident) =
            (separators.zip (rest.map (List.map (Token.rename ident)))).flatMap
              fun pair => .literal pair.1 :: pair.2 := by
        rw [List.zip_map_right, List.map_flatMap, List.flatMap_map]
        rfl
      simp [literal, Token.rename, hrest]

end ListForm

namespace Expansion

/-- The groups spell the tokens in place. -/
theorem Sound.map_spell_groups {expansion : Expansion} (h : expansion.Sound)
    (ident : String → String) :
    (expansion.groups ident).map spell = expansion.result.map (Token.rename ident) := by
  -- Names stand only in place of appended lists and inside of the elements.
  have hwriting :
      ∀ (parts : List Expansion) (writing : Writing),
        (∀ part ∈ parts,
          (part.groups ident).map spell = part.result.map (Token.rename ident)) →
        (writing.groups ident (parts.map (groups ident))).map spell =
          (writing.inline (parts.map result)).map (Token.rename ident) := by
    intro parts writing ih
    cases writing with
    | literal spacing breaks =>
        have hparts :
            (parts.map (groups ident)).map (List.map spell) =
              (parts.map result).map (List.map (Token.rename ident)) := by
          rw [List.map_map, List.map_map]
          exact List.map_congr_left ih
        rw [Writing.groups, Writing.inline, map_spell_literalGroups, hparts, map_rename_literal]
    | appended name =>
        simp [Writing.groups, Writing.inline, spell_singleton, Symbol.text, Token.rename]
  induction h with
  | text t =>
      simp [groups, result, spell_singleton, Symbol.text, Token.rename]
  | var _ _ _ =>
      simp [groups, result, spell_singleton, Symbol.text, Token.rename]
  | get name t =>
      simp [groups, result, spell_singleton, Symbol.text, Token.rename, Token.text?]
  | collection _ _ ih =>
      simp only [groups, result, rowGroups_eq_map, results_eq_map]
      exact hwriting _ _ ih
  | build _ _ _ _ _ ih =>
      simp only [groups, result, rowGroups_eq_map, results_eq_map]
      exact hwriting _ _ ih
  | rand _ _ _ _ _ _ =>
      simp [groups, result, spell_singleton, Symbol.text, Token.rename]

end Expansion

/-! ## The program of a line -/

namespace AppendedList

/-- The line that gives an empty list to the name, spelled in symbols. -/
def declarationGroups (ident : String → String) (indent : String) (list : AppendedList) :
    List (List Symbol) :=
  startGroups indent
    [[.reference (ident list.name)],
      [.blank " ", .equals, .blank " ", .opening, .closing, .newline]]

/-- The line that appends an element to the list, spelled in symbols. -/
def fillingGroups (ident : String → String) (indent : String) (list : AppendedList)
    (element : Expansion) : List (List Symbol) :=
  startGroups indent
    ([.reference (ident list.name)] :: [.append] ::
      (element.groups ident ++ [[.done, .newline]]))

variable (ident : String → String) (indent : String) (list : AppendedList)

theorem map_spell_declarationGroups :
    (list.declarationGroups ident indent).map spell =
      (list.declaration indent).map (Token.rename ident) := by
  have hend :
      spell [.blank " ", .equals, .blank " ", .opening, .closing, .newline] =
        .literal " = []\n" := by
    simp [spell, Symbol.text, String.join]
  unfold declarationGroups declaration
  rw [map_spell_startGroups, List.map_cons, List.map_cons, spell_singleton, hend]
  unfold startLine
  split
  · rfl
  · rfl

theorem map_spell_fillingGroups {element : Expansion} (h : element.Sound) :
    (list.fillingGroups ident indent element).map spell =
      (startLine indent
        (.command (.get list.name) :: .literal ".append(" ::
          (element.result ++ [.literal ")\n"]))).map (Token.rename ident) := by
  have hend : spell [.done, .newline] = .literal ")\n" := by
    simp [spell, Symbol.text, String.join]
  unfold fillingGroups
  rw [map_spell_startGroups, List.map_cons, List.map_cons, List.map_append, List.map_singleton,
    spell_singleton, spell_singleton, hend, h.map_spell_groups]
  unfold startLine
  split
  · simp [Token.rename, Symbol.text]
  · simp [Token.rename, Symbol.text]

end AppendedList

namespace ExpandedLine

/-- The lines before the line. -/
def declarations (ident : String → String) (line : ExpandedLine) : List (List (List Symbol)) :=
  line.lists.map (AppendedList.declarationGroups ident line.indent)

/-- The line itself. -/
def groups (ident : String → String) (line : ExpandedLine) : List (List Symbol) :=
  line.row.flatMap (Expansion.groups ident)

/-- The lines after the line. -/
def fillings (ident : String → String) (line : ExpandedLine) : List (List (List Symbol)) :=
  line.lists.flatMap fun list => list.elements.map (list.fillingGroups ident line.indent)

/-- The lines that take the place of the line, spelled in symbols. -/
def program (ident : String → String) (line : ExpandedLine) : List (List (List Symbol)) :=
  line.declarations ident ++ line.groups ident :: line.fillings ident

/-- With identifiers for names the lines are the program. -/
theorem lines_rename {line : ExpandedLine} (h : ∀ expansion ∈ line.row, expansion.Sound)
    (ident : String → String) :
    line.lines.map (PendingLine.rename ident) =
      (line.program ident).map fun groups => ⟨line.source.origin, groups.map spell⟩ := by
  have hdeclarations :
      (line.lists.map (AppendedList.declaration line.indent)).map (List.map (Token.rename ident)) =
        (line.declarations ident).map (List.map spell) := by
    rw [declarations, List.map_map, List.map_map]
    exact List.map_congr_left fun list _ =>
      (list.map_spell_declarationGroups ident line.indent).symm
  have hgroups : line.result.map (Token.rename ident) = (line.groups ident).map spell := by
    rw [result, groups, List.map_flatMap, List.map_flatMap]
    exact List.flatMap_congr fun expansion hexpansion =>
      ((h expansion hexpansion).map_spell_groups ident).symm
  have hfillings :
      (line.lists.flatMap (AppendedList.fillings line.indent)).map
          (List.map (Token.rename ident)) =
        (line.fillings ident).map (List.map spell) := by
    rw [fillings, List.map_flatMap, List.map_flatMap]
    refine List.flatMap_congr fun list hlist => ?_
    rcases List.mem_flatMap.1 hlist with ⟨expansion, hexpansion, hown⟩
    rw [AppendedList.fillings, List.map_map, List.map_map]
    refine List.map_congr_left fun element helement => ?_
    have hsound := ((h expansion hexpansion).of_mem_lists list hown element helement).1
    exact (list.map_spell_fillingGroups ident line.indent hsound).symm
  -- the origin is the same for all lines, so it is enough to compare their tokens
  have hrows :
      (line.lists.map (AppendedList.declaration line.indent) ++
          line.result :: line.lists.flatMap (AppendedList.fillings line.indent)).map
          (List.map (Token.rename ident)) =
        (line.program ident).map (List.map spell) := by
    rw [program, List.map_append, List.map_append, List.map_cons, List.map_cons, hdeclarations,
      hgroups, hfillings]
  have horigin := congrArg (List.map (PendingLine.mk line.source.origin)) hrows
  rw [List.map_map, List.map_map] at horigin
  rw [lines, List.map_map]
  exact horigin

end ExpandedLine

/-! ## Reading expressions -/

namespace ListProgram

variable {names : String → Option Nat}

/-- The groups of the elements, each with its item. -/
def SpellAll (names : String → Option Nat) (elements : List (List (List Symbol)))
    (items : List Item) : Prop :=
  List.Forall₂ (fun element item => Spells names element.flatten item) elements items

/-- A value, a separator and the next value. A comma keeps the bracket open; a break closes it and
opens another one to be added to it. -/
theorem foldlM_separatorGroup (names : String → Option Nat) (spacing : String) (isBreak : Bool)
    (frames : List Frame) (items : List Item) (left : Option (List Item)) (item : Item) :
    ∃ items' left', left'.getD [] ++ items' = left.getD [] ++ items ++ [item] ∧
      (separatorGroup spacing isBreak).foldlM (Reading.step names)
          ⟨⟨items, left⟩ :: frames, none, some item⟩ =
        some ⟨⟨items', left'⟩ :: frames, none, none⟩ := by
  cases isBreak with
  | true =>
      exact ⟨[], some (left.getD [] ++ items ++ [item]), by simp, rfl⟩
  | false =>
      exact ⟨items ++ [item], left, by simp, rfl⟩

/-- The rest of a literal, from a value on. -/
theorem foldlM_separatedGroups (spacing : String) {breaks : List Bool}
    {rest : List (List (List Symbol))} {items : List Item} (hrest : SpellAll names rest items)
    (hlength : breaks.length = rest.length) (frames : List Frame) (before : List Item)
    (left : Option (List Item)) (item : Item) :
    ((separatedGroups spacing breaks rest).flatten ++ [Symbol.closing]).foldlM
        (Reading.step names) ⟨⟨before, left⟩ :: frames, none, some item⟩ =
      some ⟨frames, none, some (.list (left.getD [] ++ before ++ item :: items))⟩ := by
  -- A break moves the items read so far from the bracket to the list before it. The induction is
  -- for all ways to share them out, since only their order counts.
  induction hrest generalizing breaks before left item with
  | nil =>
      simp [separatedGroups, Reading.step, Reading.close]
  | @cons element next rest items helement _ ih =>
      cases breaks with
      | nil =>
          cases hlength
      | cons isBreak breaks =>
          rcases foldlM_separatorGroup names spacing isBreak frames before left item with
            ⟨before', left', hitems, hseparator⟩
          have hgroups :
              (separatedGroups spacing (isBreak :: breaks) (element :: rest)).flatten =
                separatorGroup spacing isBreak ++
                  (element.flatten ++ (separatedGroups spacing breaks rest).flatten) := by
            simp [separatedGroups]
          rw [hgroups, List.append_assoc, List.append_assoc, List.foldlM_append, hseparator]
          change ((element.flatten ++ _).foldlM (Reading.step names) _) = _
          rw [List.foldlM_append, helement]
          have hnext := ih (Nat.succ.inj hlength) before' left' next
          rw [hitems] at hnext
          simpa using hnext

/-- A literal gives the list of its elements, wherever it is broken. -/
theorem spells_literalGroups {spacing : String} {breaks : List Bool}
    {elements : List (List (List Symbol))} {items : List Item}
    (h : SpellAll names elements items) (hlength : breaks.length = elements.length - 1) :
    Spells names (literalGroups spacing breaks elements).flatten (.list items) := by
  intro frames
  cases h with
  | nil =>
      rfl
  | @cons first item rest items hfirst hrest =>
      have hgroups :
          (literalGroups spacing breaks (first :: rest)).flatten =
            .opening :: (first.flatten ++
              ((separatedGroups spacing breaks rest).flatten ++ [.closing])) := by
        simp [literalGroups]
      rw [hgroups, List.foldlM_cons]
      change ((first.flatten ++ _).foldlM (Reading.step names)
        ⟨⟨[], none⟩ :: frames, none, none⟩) = _
      rw [List.foldlM_append, hfirst]
      have hclosed := foldlM_separatedGroups spacing hrest hlength frames [] none item
      simpa using hclosed

end ListProgram

namespace Expansion

/-- The symbols in place give the item, where each name stands for the object at its address. -/
theorem Sound.spells {expansion : Expansion} (h : expansion.Sound) {ident : String → String}
    {address : String → Nat} {names : String → Option Nat}
    (hnames : ∀ list ∈ expansion.lists, names (ident list.name) = some (address list.name)) :
    Spells names (expansion.groups ident).flatten (expansion.item address) := by
  -- A literal reads the items of its parts one after the other, and a name gives its object.
  have hwriting :
      ∀ (parts : List Expansion) (writing : Writing), writing.Fits parts.length →
        (∀ part ∈ parts, Spells names (part.groups ident).flatten (part.item address)) →
        (∀ list ∈ writing.lists parts, names (ident list.name) = some (address list.name)) →
        Spells names (writing.groups ident (parts.map (groups ident))).flatten
          (writing.item address (parts.map (item address))) := by
    intro parts writing hfits hparts hown
    cases writing with
    | literal spacing breaks =>
        refine spells_literalGroups ?_ (by simpa [Writing.Fits] using hfits)
        refine List.forall₂_map_left_iff.2 (List.forall₂_map_right_iff.2 ?_)
        exact List.forall₂_same.2 hparts
    | appended name =>
        exact Spells.reference (hown _ List.mem_cons_self)
  induction h with
  | text t =>
      simpa [groups, item] using Spells.atom t
  | @var _ identifier _ _ _ _ =>
      simpa [groups, item] using Spells.atom identifier
  | get name t =>
      simpa [groups, item, Token.text?] using Spells.atom t
  | @collection elements writing _ hfits ih =>
      simp only [lists, rowLists_eq_flatMap, List.forall_mem_append, List.forall_mem_flatMap]
        at hnames
      simp only [groups, item, rowGroups_eq_map, rowItems_eq_map]
      exact hwriting _ _ hfits (fun part hpart => ih part hpart (hnames.1 part hpart)) hnames.2
  | @build size slots writing _ _ _ hfits _ ih =>
      simp only [lists, rowLists_eq_flatMap, List.forall_mem_append, List.forall_mem_flatMap]
        at hnames
      simp only [groups, item, rowGroups_eq_map, rowItems_eq_map]
      exact hwriting _ _ hfits (fun part hpart => ih part hpart (hnames.1.2 part hpart)) hnames.2
  | @rand _ _ _ value _ _ _ _ _ _ =>
      simpa [groups, item] using Spells.atom value

/-- Only symbols of expressions stand in place of a token. -/
theorem inExpression_of_mem_groups (ident : String → String) (expansion : Expansion) :
    ∀ symbol ∈ (expansion.groups ident).flatten, symbol.inExpression = true := by
  have hseparator :
      ∀ spacing isBreak, ∀ symbol ∈ separatorGroup spacing isBreak,
        symbol.inExpression = true := by
    intro spacing isBreak
    cases isBreak with
    | true =>
        simp [separatorGroup, Symbol.inExpression]
    | false =>
        simp [separatorGroup, Symbol.inExpression]
  -- What stands between the parts are brackets and separators.
  have hwriting :
      ∀ (parts : List Expansion) (writing : Writing),
        (∀ part ∈ parts, ∀ symbol ∈ (part.groups ident).flatten, symbol.inExpression = true) →
        ∀ symbol ∈ (writing.groups ident (parts.map (groups ident))).flatten,
          symbol.inExpression = true := by
    intro parts writing hparts
    cases writing with
    | literal spacing breaks =>
        cases parts with
        | nil =>
            simp [Writing.groups, literalGroups, Symbol.inExpression]
        | cons first rest =>
            rcases List.forall_mem_cons.1 hparts with ⟨hfirst, hrest⟩
            have hseparated :
                ∀ symbol ∈ (separatedGroups spacing breaks (rest.map (groups ident))).flatten,
                  symbol.inExpression = true := by
              intro symbol hsymbol
              rcases List.mem_flatten.1 hsymbol with ⟨group, hgroup, hsymbol⟩
              rcases List.mem_flatMap.1 hgroup with ⟨pair, hpair, hgroup⟩
              rcases List.mem_cons.1 hgroup with rfl | hgroup
              · exact hseparator _ _ symbol hsymbol
              · rcases List.mem_map.1 (List.of_mem_zip hpair).2 with ⟨part, hpart, heq⟩
                rw [← heq] at hgroup
                exact hrest part hpart symbol (List.mem_flatten.2 ⟨group, hgroup, hsymbol⟩)
            simp only [Writing.groups, literalGroups, List.map_cons, List.flatten_cons,
              List.flatten_append, List.flatten_nil, List.append_nil, List.forall_mem_append,
              List.forall_mem_singleton]
            exact ⟨rfl, ⟨hfirst, hseparated⟩, rfl⟩
    | appended name =>
        simp [Writing.groups, Symbol.inExpression]
  induction expansion with
  | text t =>
      simp [groups, Symbol.inExpression]
  | var name candidates identifier _ =>
      simp [groups, Symbol.inExpression]
  | get name value =>
      simp [groups, Symbol.inExpression]
  | collection elements writing ih =>
      simpa only [groups, rowGroups_eq_map] using hwriting elements writing ih
  | build size slots writing _ ih =>
      simpa only [groups, rowGroups_eq_map] using hwriting slots writing ih
  | rand kind lower upper value _ _ =>
      simp [groups, Symbol.inExpression]

/-- Where the objects of the lists hold the items of their elements, the item reads out as what the
template asks for. -/
theorem Sound.readsOut {expansion : Expansion} (h : expansion.Sound) {address : String → Nat}
    {objects : List (List Item)}
    (hobjects : ∀ list ∈ expansion.lists,
      objects[address list.name]? = some (list.elements.map (item address))) :
    ReadsOut objects [expansion.item address] [expansion.value] := by
  -- In place or in an object, the items are those of the parts.
  have hwriting :
      ∀ (parts : List Expansion) (writing : Writing),
        (∀ part ∈ parts, ReadsOut objects [part.item address] [part.value]) →
        (∀ list ∈ writing.lists parts,
          objects[address list.name]? = some (list.elements.map (item address))) →
        ReadsOut objects [writing.item address (parts.map (item address))]
          [.list (parts.map value)] := by
    intro parts writing hparts hown
    have hrow := ReadsOut.map hparts
    cases writing with
    | literal spacing breaks =>
        exact .list hrow .nil
    | appended name =>
        exact .object (hown _ List.mem_cons_self) hrow .nil
  induction h with
  | text t =>
      simpa [item, value] using ReadsOut.atom ReadsOut.nil
  | var _ _ _ =>
      simpa [item, value] using ReadsOut.atom ReadsOut.nil
  | get name t =>
      simpa [item, value] using ReadsOut.atom ReadsOut.nil
  | @collection elements writing _ _ ih =>
      simp only [lists, rowLists_eq_flatMap, List.forall_mem_append, List.forall_mem_flatMap]
        at hobjects
      simp only [item, value, rowItems_eq_map, rowValues_eq_map]
      exact hwriting _ _ (fun part hpart => ih part hpart (hobjects.1 part hpart)) hobjects.2
  | @build size slots writing _ _ _ _ _ ih =>
      simp only [lists, rowLists_eq_flatMap, List.forall_mem_append, List.forall_mem_flatMap]
        at hobjects
      simp only [item, value, rowItems_eq_map, rowValues_eq_map]
      exact hwriting _ _ (fun part hpart => ih part hpart (hobjects.1.2 part hpart)) hobjects.2
  | rand _ _ _ _ _ _ =>
      simpa [item, value] using ReadsOut.atom ReadsOut.nil

end Expansion

end TemplateVariants
