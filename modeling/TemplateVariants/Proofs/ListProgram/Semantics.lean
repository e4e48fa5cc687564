import Mathlib.Tactic.Common

/-!
# Programs over lists

The lines that a written list takes up are read as a small program. A line that gives an empty list
to a name makes a new list object; a line that appends gives one more item to an object; an
expression is text, a name, or lists in brackets, joined by commas and sums. Text that a template
brought is opaque, so lines are read as symbols and not as characters.

`ReadsOut` follows the references of an item through all objects. What is read out is unique.
-/

namespace TemplateVariants
namespace ListProgram

/-! ## Symbols -/

/-- The parts that the tokens of a line are made of. -/
inductive Symbol where
  /-- Text that is not looked into. -/
  | atom (text : String)
  | reference (identifier : String)
  | opening
  | closing
  | comma
  | plus
  | equals
  | append
  | done
  | newline
  | blank (text : String)
deriving DecidableEq, Repr

namespace Symbol

/-- How a symbol is spelled. -/
def text : Symbol → String
  | .atom t => t
  | .reference identifier => identifier
  | .opening => "["
  | .closing => "]"
  | .comma => ","
  | .plus => "+"
  | .equals => "="
  | .append => ".append("
  | .done => ")"
  | .newline => "\n"
  | .blank t => t

def isBlank : Symbol → Bool
  | .blank _ => true
  | _ => false

/-- Whether the symbol can stand in an expression. -/
def inExpression : Symbol → Bool
  | .equals | .append | .done | .newline => false
  | _ => true

end Symbol

/-! ## Stores -/

/-- What an expression gives: text, a list object, or a list in place. -/
inductive Item where
  | atom (text : String)
  | object (address : Nat)
  | list (items : List Item)

/-- The list objects, and which of them each name stands for. -/
structure Store where
  names : String → Option Nat
  objects : List (List Item)

namespace Store

/-- A new object for a name. -/
def allocate (store : Store) (identifier : String) (items : List Item) : Store where
  names := fun other => if other = identifier then some store.objects.length else store.names other
  objects := store.objects ++ [items]

/-- One more item for an object. -/
def push (store : Store) (address : Nat) (item : Item) : Store where
  names := store.names
  objects := store.objects.modify address (· ++ [item])

end Store

/-! ## Expressions -/

/-- A bracket that is open: the items before the last comma, and the list that it is added to. -/
structure Frame where
  items : List Item
  left : Option (List Item)

/-- How far an expression was read: the open brackets, the list before a sum sign, and the value
that was just completed. -/
structure Reading where
  frames : List Frame
  left : Option (List Item)
  value : Option Item

namespace Reading

/-- A value comes where none has been read yet. -/
def put (r : Reading) (item : Item) : Option Reading :=
  match r.left, r.value with
  | none, none => some { r with value := some item }
  | _, _ => none

/-- The value becomes an item of the innermost bracket. -/
def separate (r : Reading) : Option Reading :=
  match r.frames, r.left, r.value with
  | frame :: frames, none, some item =>
    some ⟨⟨frame.items ++ [item], frame.left⟩ :: frames, none, none⟩
  | _, _, _ => none

/-- The innermost bracket becomes a list, added to the list before it. A comma has to be followed by
a value. -/
def close (r : Reading) : Option Reading :=
  match r.frames, r.left, r.value with
  | frame :: frames, none, some item =>
    some ⟨frames, none, some (.list (frame.left.getD [] ++ frame.items ++ [item]))⟩
  | frame :: frames, none, none =>
    if frame.items.isEmpty then some ⟨frames, none, some (.list (frame.left.getD []))⟩ else none
  | _, _, _ => none

/-- One symbol of an expression. -/
def step (names : String → Option Nat) (r : Reading) : Symbol → Option Reading
  | .blank _ => some r
  | .atom t => r.put (.atom t)
  | .reference identifier => (names identifier).bind fun address => r.put (.object address)
  | .opening =>
    match r.value with
    | none => some ⟨⟨[], r.left⟩ :: r.frames, none, none⟩
    | some _ => none
  | .comma => r.separate
  | .plus =>
    match r.left, r.value with
    | none, some (.list items) => some { r with left := some items, value := none }
    | _, _ => none
  | .closing => r.close
  | .equals | .append | .done | .newline => none

end Reading

/-- What an expression gives, if it can be read to its end. -/
def evaluate (names : String → Option Nat) (symbols : List Symbol) : Option Item :=
  match symbols.foldlM (Reading.step names) ⟨[], none, none⟩ with
  | some ⟨[], none, some item⟩ => some item
  | _ => none

/-! ## Lines -/

/-- The symbols before the given ending. -/
def before? (ending symbols : List Symbol) : Option (List Symbol) :=
  if ending.isSuffixOf symbols then some (symbols.take (symbols.length - ending.length)) else none

namespace Store

/-- Executes a line. A line that neither gives nor appends is only text. -/
def execute (store : Store) (line : List Symbol) : Option Store :=
  match line.filter fun symbol => !symbol.isBlank with
  | .reference identifier :: .equals :: rest => do
    match ← evaluate store.names (← before? [.newline] rest) with
    | .list items => some (store.allocate identifier items)
    | _ => none
  | .reference identifier :: .append :: rest => do
    let address ← store.names identifier
    let item ← evaluate store.names (← before? [.done, .newline] rest)
    some (store.push address item)
  | _ => some store

/-- Executes lines, one after the other. -/
def executeAll (store : Store) (lines : List (List Symbol)) : Option Store :=
  lines.foldlM execute store

end Store

/-! ## Reading out -/

/-- Nested lists of text. -/
inductive ListValue where
  | atom (text : String)
  | list (values : List ListValue)

/-- The items are the values, with all references followed through the objects. -/
inductive ReadsOut (objects : List (List Item)) : List Item → List ListValue → Prop where
  | nil :
      ReadsOut objects [] []
  | atom {t : String} {items : List Item} {values : List ListValue} :
      ReadsOut objects items values →
      ReadsOut objects (.atom t :: items) (.atom t :: values)
  | list {inner items : List Item} {innerValues values : List ListValue} :
      ReadsOut objects inner innerValues →
      ReadsOut objects items values →
      ReadsOut objects (.list inner :: items) (.list innerValues :: values)
  | object {address : Nat} {inner items : List Item} {innerValues values : List ListValue} :
      objects[address]? = some inner →
      ReadsOut objects inner innerValues →
      ReadsOut objects items values →
      ReadsOut objects (.object address :: items) (.list innerValues :: values)

namespace ReadsOut

variable {objects : List (List Item)} {items more : List Item} {values values' : List ListValue}

/-- What items read out to is settled by the objects. -/
theorem unique (h : ReadsOut objects items values) (h' : ReadsOut objects items values') :
    values = values' := by
  induction h generalizing values' with
  | nil =>
      cases h'
      rfl
  | atom _ ih =>
      cases h' with
      | atom hrest =>
          rw [ih hrest]
  | list _ _ ihinner ih =>
      cases h' with
      | list hinner hrest =>
          rw [ihinner hinner, ih hrest]
  | object hobject _ _ ihinner ih =>
      cases h' with
      | object hobject' hinner hrest =>
          rw [hobject, Option.some.injEq] at hobject'
          subst hobject'
          rw [ihinner hinner, ih hrest]

theorem cons {item : Item} {value : ListValue} (h : ReadsOut objects [item] [value])
    (hrest : ReadsOut objects items values) :
    ReadsOut objects (item :: items) (value :: values) := by
  cases h with
  | atom _ =>
      exact .atom hrest
  | list hinner _ =>
      exact .list hinner hrest
  | object hobject hinner _ =>
      exact .object hobject hinner hrest

/-- Items read out one by one. -/
theorem map {α : Type} {row : List α} {f : α → Item} {g : α → ListValue}
    (h : ∀ a ∈ row, ReadsOut objects [f a] [g a]) : ReadsOut objects (row.map f) (row.map g) := by
  induction row with
  | nil =>
      exact .nil
  | cons a row ih =>
      rw [List.map_cons, List.map_cons]
      exact (h a List.mem_cons_self).cons (ih fun b hb => h b (List.mem_cons_of_mem _ hb))

end ReadsOut

/-! ## Laws of expressions and lines -/

/-- In any brackets the symbols give the item. -/
def Spells (names : String → Option Nat) (symbols : List Symbol) (item : Item) : Prop :=
  ∀ frames, symbols.foldlM (Reading.step names) ⟨frames, none, none⟩ =
    some ⟨frames, none, some item⟩

namespace Spells

variable {names : String → Option Nat} {symbols : List Symbol} {item : Item}

theorem evaluate_eq (h : Spells names symbols item) : evaluate names symbols = some item := by
  unfold evaluate
  rw [h []]

theorem atom (t : String) : Spells names [.atom t] (.atom t) := by
  intro frames
  rfl

theorem reference {identifier : String} {address : Nat} (h : names identifier = some address) :
    Spells names [.reference identifier] (.object address) := by
  intro frames
  simp [Reading.step, h, Reading.put]

/-- Blanks do not matter. -/
theorem filter (h : Spells names symbols item) :
    Spells names (symbols.filter fun symbol => !symbol.isBlank) item := by
  -- A blank leaves the reading as it is, so it can be left out anywhere.
  have hfilter :
      ∀ (symbols : List Symbol) (r : Reading),
        (symbols.filter fun symbol => !symbol.isBlank).foldlM (Reading.step names) r =
          symbols.foldlM (Reading.step names) r := by
    intro symbols
    induction symbols with
    | nil =>
        intro r
        rfl
    | cons symbol symbols ih =>
        intro r
        cases hblank : symbol.isBlank with
        | true =>
            have hstep : r.step names symbol = some r := by
              cases symbol <;> first | rfl | cases hblank
            rw [List.filter_cons_of_neg (by simp [hblank]), ih, List.foldlM_cons, hstep]
            rfl
        | false =>
            rw [List.filter_cons_of_pos (by simp [hblank]), List.foldlM_cons, List.foldlM_cons]
            exact congrArg _ (funext ih)
  intro frames
  rw [hfilter]
  exact h frames

end Spells

theorem before?_append (front ending : List Symbol) :
    before? ending (front ++ ending) = some front := by
  have hsuffix : ending.isSuffixOf (front ++ ending) = true :=
    List.isSuffixOf_iff_suffix.2 (List.suffix_append front ending)
  rw [before?, if_pos hsuffix]
  simp

namespace Store

variable {store : Store}

/-- A line of expressions is only text. -/
theorem execute_of_inExpression {line : List Symbol}
    (h : ∀ symbol ∈ line, symbol.inExpression = true) : store.execute line = some store := by
  have hfilter :
      ∀ symbol ∈ line.filter fun symbol => !symbol.isBlank, symbol.inExpression = true :=
    fun symbol hsymbol => h symbol (List.mem_filter.1 hsymbol).1
  unfold execute
  split
  · next heq =>
      rw [heq] at hfilter
      cases hfilter .equals (by simp)
  · next heq =>
      rw [heq] at hfilter
      cases hfilter .append (by simp)
  · rfl

theorem executeAll_append (lines more : List (List Symbol)) :
    store.executeAll (lines ++ more) =
      (store.executeAll lines).bind fun store => store.executeAll more := by
  unfold executeAll
  rw [List.foldlM_append]
  rfl

theorem executeAll_cons (line : List Symbol) (lines : List (List Symbol)) :
    store.executeAll (line :: lines) =
      (store.execute line).bind fun store => store.executeAll lines := by
  unfold executeAll
  rw [List.foldlM_cons]
  rfl

end Store

end ListProgram
end TemplateVariants
