import TemplateVariants.Failure
import TemplateVariants.Randomness.Draw
import TemplateVariants.Template.Token
import Std.Data.HashMap
import Std.Data.HashSet

/-!
# Sessions

The state of one compilation: what names are bound to, which identifiers are taken, the dice, and a
journal of what happened. `Compiling` is a step on a session. A step that fails leaves the session
as it was when the fault was met; nothing is taken back.
-/

namespace TemplateVariants

/-- What the journal of a compilation and the log of a run tell. -/
inductive Event where
  | parsed (file : String) (lines commands : Nat)
  | expanded (file : String) (pass collapses lines : Nat)
  | compiled (file : String) (passes bindings identifiers : Nat)
  | bound (name identifier : String)
  | collapsed (command : String) (before after : Nat)
deriving DecidableEq, Repr

structure Session (G : Type) where
  dice : Randomness.Dice G
  /-- The latest binding of each name. -/
  bindings : Std.HashMap String Token := {}
  /-- The identifiers in use in the output. -/
  identifiers : Std.HashSet String := {}
  /-- The greatest size of a collection that repeats its element. -/
  maxCollectionSize : Nat := 100000
  /-- The events so far, the latest first. -/
  journal : List Event := []

/-- Why a step ends without a value: for a fault, or because a draw lost its patience. -/
inductive Halt (ε : Type) where
  | failed (error : ε)
  | stalled
deriving DecidableEq, Repr

/-- The wording of a fault, or of the stall. -/
def Halt.display : Halt CompileError → String
  | .failed e => e.display
  | .stalled => "the random source gave no number in the range asked for"

/-- A step of a compilation. -/
abbrev Compiling (ε G : Type) := EStateM (Halt ε) (Session G)

namespace Session

variable {G : Type}

/-- Binds a name; an earlier binding of it is forgotten. -/
def bind (s : Session G) (name : String) (value : Token) : Session G :=
  { s with bindings := s.bindings.insert name value }

def lookup? (s : Session G) (name : String) : Option Token :=
  s.bindings[name]?

def isClaimed (s : Session G) (identifier : String) : Bool :=
  s.identifiers.contains identifier

/-- Takes an identifier for good. -/
def claim (s : Session G) (identifier : String) : Session G :=
  { s with identifiers := s.identifiers.insert identifier }

def record (s : Session G) (event : Event) : Session G :=
  { s with journal := event :: s.journal }

theorem lookup?_bind (s : Session G) (name other : String) (value : Token) :
    (s.bind name value).lookup? other = if name = other then some value else s.lookup? other := by
  simp [lookup?, bind, Std.HashMap.getElem?_insert]

theorem isClaimed_claim (s : Session G) (identifier other : String) :
    (s.claim identifier).isClaimed other = (identifier == other || s.isClaimed other) := by
  simp [isClaimed, claim]

end Session

namespace Compiling

variable {ε G α : Type}

/-- Ends the step with a fault. -/
def fail (error : ε) : Compiling ε G α :=
  throw (.failed error)

def ofExcept : Except ε α → Compiling ε G α
  | .ok a => pure a
  | .error e => fail e

/-- A draw with the dice of the session. -/
def roll (draw : Randomness.Draw G α) : Compiling ε G α := fun s =>
  match draw s.dice with
  | .ok a dice => .ok a { s with dice }
  | .error _ dice => .error .stalled { s with dice }

def record (event : Event) : Compiling ε G Unit :=
  modify fun s => s.record event

/-- The step with its faults replaced by others. -/
def mapFault {δ : Type} (f : ε → δ) (step : Compiling ε G α) : Compiling δ G α := fun s =>
  match step s with
  | .ok a s => .ok a s
  | .error (.failed e) s => .error (.failed (f e)) s
  | .error .stalled s => .error .stalled s

end Compiling

end TemplateVariants
