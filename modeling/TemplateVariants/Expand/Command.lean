import TemplateVariants.Expand.Fresh
import TemplateVariants.Expand.ListForm
import TemplateVariants.Numeral.FloatText
import TemplateVariants.Template.Argument

/-!
# Expanding commands

A command is expanded with the line it stands in as its context. Its nested commands are expanded
first, in the order in which they are written, and their lines are handed on. Names, bounds and
sizes have to come out as plain text; elements of a list may hold commands for a later pass.
-/

namespace TemplateVariants

open Randomness

namespace Compiling

section Steps

variable {G : Type} [WordSource G]

/-- The text of an expanded argument. -/
def plainText (argument : Token) (expanded : Replacement) : Except Cause String :=
  match Line.plainText? expanded.result with
  | some text => .ok text
  | none =>
    match argument with
    | .literal _ => .error (.syntactic (.notPlainText "argument"))
    | .command command => .error (.syntactic (.notPlainText command.name))

/-- An argument that has to come out as text, with that text. -/
def asText (argument : Token) (step : Compiling Cause G Replacement) :
    Compiling Cause G (String × Replacement) := do
  let expanded ← step
  let text ← ofExcept (plainText argument expanded)
  return (text, expanded)

/-- Finds an identifier for a name and binds the name to it. -/
def introduce (name : String) (candidates : List String) : Compiling Cause G String := do
  let identifier ← roll (Fresh.identifier (← get).identifiers name candidates)
  modify fun s => (s.claim identifier).bind name (.literal identifier)
  record (.bound name identifier)
  return identifier

/-- What a name is bound to. -/
def fetch (name : String) : Compiling Cause G Token := do
  match (← get).lookup? name with
  | some value => return value
  | none => fail (.binding (.unbound name))

/-- How many elements a size stands for; a negative size stands for none. -/
def slots (text : String) : Compiling Cause G Nat := do
  let size ← ofExcept (Argument.size text)
  let limit := (← get).maxCollectionSize
  if limit < size.toNat then
    fail (.conversion (.sizeLimit size limit))
  else
    return size.toNat

/-- A number between two bounds, as text. -/
def number (kind : NumberKind) (lower upper : String) : Compiling Cause G String :=
  match kind with
  | .integer => do
    let low ← ofExcept (Argument.integer lower)
    let high ← ofExcept (Argument.integer upper)
    if high < low then
      fail (.syntactic (.reversedBounds low high))
    else
      return toString (← roll (Draw.between low high))
  | .real => do
    let low ← ofExcept (Argument.real lower)
    let high ← ofExcept (Argument.real upper)
    let value := low + (high - low) * (← roll Draw.unit)
    if Numeral.isFiniteBits value.toBits then
      return Numeral.floatLiteral value.toBits
    else
      fail (.conversion
        (.wideRange (Numeral.floatText low.toBits) (Numeral.floatText high.toBits)))

/-- Notes in the journal that a command was expanded. -/
def noted (command : Command) (step : Compiling Cause G Replacement) :
    Compiling Cause G Replacement := do
  let expanded ← step
  record (.collapsed command.name expanded.before.length expanded.after.length)
  return expanded

end Steps

end Compiling

section Expansion

variable {G : Type} [WordSource G]

mutual

/-- What a token stands for; text stands for itself. -/
def Token.expand (context : Line) : Token → Compiling Cause G Replacement
  | .literal text => return .plain [.literal text]
  | .command command => Compiling.noted command (command.perform context)

/-- Expands a command without a note in the journal. -/
def Command.perform (context : Line) : Command → Compiling Cause G Replacement
  | .var name candidates => do
    let texts ← Token.expandTexts context candidates
    let identifier ← Compiling.introduce name (texts.filterMap fun part => Fresh.candidate? part.1)
    return .within (texts.map Prod.snd) (.plain [.literal identifier])
  | .get name => do
    return .plain [← Compiling.fetch name]
  | .collection elements => do
    let parts ← Token.expandAll context elements
    ListForm.write context parts (parts.map Replacement.result)
  | .build size element => do
    let (text, sized) ← Compiling.asText size (size.expand context)
    let count ← Compiling.slots text
    let parts ← (List.replicate count ()).mapM fun _ => element.expand context
    ListForm.write context (sized :: parts) (parts.map Replacement.result)
  | .rand kind lower upper => do
    let (low, first) ← Compiling.asText lower (lower.expand context)
    let (high, second) ← Compiling.asText upper (upper.expand context)
    let text ← Compiling.number kind low high
    return .within [first, second] (.plain [.literal text])

/-- Expands arguments from left to right. -/
def Token.expandAll (context : Line) : List Token → Compiling Cause G (List Replacement)
  | [] => return []
  | token :: tokens => do
    let first ← token.expand context
    let rest ← Token.expandAll context tokens
    return first :: rest

/-- Expands arguments that have to come out as text, from left to right. -/
def Token.expandTexts (context : Line) :
    List Token → Compiling Cause G (List (String × Replacement))
  | [] => return []
  | token :: tokens => do
    let first ← Compiling.asText token (token.expand context)
    let rest ← Token.expandTexts context tokens
    return first :: rest

end

/-- Expands a command that stands in the given line. -/
def Command.expand (context : Line) (command : Command) : Compiling Cause G Replacement :=
  Compiling.noted command (command.perform context)

end Expansion

end TemplateVariants
