import TemplateVariants.Shell.State
import TemplateVariants.Shell.Arithmetic

/-!
# Expansions

The parts of a word become pieces: a parameter its value, or what its use makes of it; a script what
it writes; an expression its number. A part may change the state, and the next part sees the change.
Running a script is given as a function here, so that expansion follows the word alone.
-/

namespace TemplateVariants
namespace Shell

/-- What a word is expanded for: fields, one text, or the value that a variable gets. -/
inductive Purpose where
  | fields
  | text
  | value
deriving DecidableEq, Repr

/-- A function that runs a script, and gives what the script writes and the state after it. -/
abbrev Capture := List Command → State → Octets × State

/-- The pieces of a word so far, backwards, and the state. -/
structure Expansion where
  state : State
  backwards : List Piece := []

namespace Expansion

def add (e : Expansion) (pieces : List Piece) : Expansion :=
  { e with backwards := pieces.reverse ++ e.backwards }

def pieces (e : Expansion) : List Piece :=
  e.backwards.reverse

/-- Ends the script because of a fault. -/
def fail (e : Expansion) (what : Octets) : Expansion :=
  { e with state := e.state.fail what }

end Expansion

/-! ## Parameters -/

/-- What stands between the arguments in the value of all of them; a NUL parts fields. -/
def State.joint (s : State) (purpose : Purpose) (inQuotes : Bool) (name : String) : Octets :=
  if purpose = .fields ∧ (name = "@" ∨ !inQuotes) then ['\x00']
  else s.separators.take 1

/-- The value of a parameter. -/
def State.valueFor? (s : State) (purpose : Purpose) (inQuotes : Bool) (name : String) :
    Option Octets :=
  if name = "@" ∨ name = "*" then
    some (List.intercalate (s.joint purpose inQuotes name) s.arguments)
  else s.parameter? name

/-- The pieces of the value of a parameter. -/
def State.valuePieces (s : State) (inQuotes : Bool) (name : String) (value : Octets) :
    List Piece :=
  if name = "@" ∧ s.arguments.isEmpty then [if inQuotes then .hollow else .edge false]
  else if name = "@" ∨ (name = "*" ∧ !inQuotes) then
    piecesOfAll inQuotes ((List.splitOnP (· == '\x00') value))
  else piecesOf inQuotes value

/-- The value of a parameter that counts as set. -/
def State.givenFor? (s : State) (purpose : Purpose) (inQuotes : Bool) (name : String)
    (nonEmpty : Bool) : Option Octets :=
  (s.valueFor? purpose inQuotes name).filter fun value => !nonEmpty || !value.isEmpty

/-- Puts an expanded word in the place of a value. -/
def Expansion.place (e : Expansion) (inQuotes : Bool) (inner : Expansion) : Expansion :=
  let pieces :=
    if !inQuotes then asValue false inner.pieces
    else if inner.backwards.isEmpty then [.hollow]
    else inner.pieces
  { e with state := inner.state }.add pieces

def unsetMessage (name : String) : Octets :=
  Text.octets (name ++ ": parameter not set")

/-! ## Home directories -/

/-- The home directory of a user, or the one at hand if there is no name. -/
def State.homeOf? (s : State) (user : List Char) : Option Octets :=
  if user.isEmpty then s.value? "HOME"
  else if user = "root".toList then some (Text.octets "/root")
  else none

/-- The home directory for a tilde before parts, and how many of the parts name the user. -/
def State.homeBefore? (s : State) (inValue : Bool) (parts : List Part) : Option (Octets × Nat) :=
  let user := nameFrom parts
  match parts[user.length]? with
  | none | some (.plain _) => (s.homeOf? user).map fun home => (home, user.length)
  | some _ => none
where
  nameFrom : List Part → List Char
    | .plain c :: rest =>
      if c = '/' ∨ (inValue ∧ c = ':') then [] else c :: nameFrom rest
    | _ => []

def Part.isColon : Part → Bool
  | .plain ':' => true
  | _ => false

/-! ## Numbers -/

def ArithmeticFault.message (expression : Octets) : ArithmeticFault → Octets
  | .expecting what =>
    Text.octets ("arithmetic expression: expecting " ++ what ++ ": \"") ++ expression ++ ['"']
  | .divisionByZero =>
    Text.octets "arithmetic expression: division by zero: \"" ++ expression ++ ['"']
  | .notANumber text => Text.octets "Illegal number: " ++ text

def signedDecimal (n : Int) : Octets :=
  if n < 0 then '-' :: State.decimal n.natAbs else State.decimal n.natAbs

/-- The value of an expression, and the state with the assignments in it. -/
def State.evaluate (s : State) (expression : Octets) : Except Octets Int × State :=
  let bindings : Bindings := { text? := s.value? }
  match Expr.read expression with
  | .error fault => (.error (fault.message expression), s)
  | .ok e =>
    match e.evaluate.run bindings with
    | .error fault _ => (.error (fault.message expression), s)
    | .ok n bindings =>
      (.ok n, bindings.assigned.reverse.foldl (fun s (x, n) => s.assign x (signedDecimal n)) s)

/-! ## Parts -/

variable (run : Capture)

mutual

/-- Expands parts one after the other, up to a fault. `mayStand` tells whether a tilde here may stand
for a home directory, as it may where a word starts and after the colons of a value; the number
counts the parts that have gone with a tilde. -/
def expandParts (purpose : Purpose) (mayStand : Bool) : Nat → List Part → Expansion → Expansion
  | _, [], e => e
  | skipped + 1, _ :: parts, e => expandParts purpose false skipped parts e
  | 0, part :: parts, e =>
    if e.state.flow ≠ .onward then e
    else
      match part, mayStand, e.state.homeBefore? (purpose = .value) parts with
      | .plain '~', true, some (home, length) =>
        expandParts purpose false length parts (e.add (home.map (.char · true false)))
      | _, _, _ =>
        let mayStand := decide (purpose = .value) && part.isColon
        expandParts purpose mayStand 0 parts (expandPart purpose part e)

def expandPart (purpose : Purpose) : Part → Expansion → Expansion
  | .plain c, e => { e with backwards := .char c false false :: e.backwards }
  | .quoted c, e => { e with backwards := .char c true false :: e.backwards }
  | .hollow, e => { e with backwards := .hollow :: e.backwards }
  | .parameter inQuotes name use, e => expandUse purpose inQuotes name use e
  | .output inQuotes script, e =>
    let (text, state) := run script e.state
    { e with state }.add (piecesOf inQuotes text)
  | .value inQuotes parts, e =>
    let inner := expandParts .text false 0 parts { state := e.state }
    if inner.state.flow ≠ .onward then { e with state := inner.state }
    else
      match inner.state.evaluate (textOf inner.pieces) with
      | (.error what, state) => { e with state }.fail what
      | (.ok n, state) => { e with state }.add (piecesOf inQuotes (signedDecimal n))

/-- Expands a parameter as its use says. -/
def expandUse (purpose : Purpose) (inQuotes : Bool) (name : String) : Use → Expansion → Expansion
  | .whole, e =>
    match e.state.valueFor? purpose inQuotes name with
    | some value =>
      if name = "@" ∧ inQuotes ∧ e.state.arguments.isEmpty then e
      else e.add (e.state.valuePieces inQuotes name value)
    | none =>
      if e.state.modes.mustBeSet then e.fail (unsetMessage name)
      else e.add (piecesOf inQuotes [])
  | .size, e =>
    match e.state.valueFor? .text inQuotes name with
    | some value => e.add (piecesOf inQuotes (State.decimal value.length))
    | none =>
      if e.state.modes.mustBeSet then e.fail (unsetMessage name)
      else e.add (piecesOf inQuotes (State.decimal 0))
  | .orElse nonEmpty word, e =>
    match e.state.givenFor? purpose inQuotes name nonEmpty with
    | some value => e.add (e.state.valuePieces inQuotes name value)
    | none => e.place inQuotes (expandParts purpose true 0 word { state := e.state })
  | .assigned nonEmpty word, e =>
    match e.state.givenFor? purpose inQuotes name nonEmpty with
    | some value => e.add (e.state.valuePieces inQuotes name value)
    | none =>
      let inner := expandParts .text true 0 word { state := e.state }
      let e := { e with state := inner.state }
      if e.state.flow ≠ .onward then e
      else if !isName name.toList then e.fail (Text.octets (name ++ ": bad variable name"))
      else
        let value := textOf inner.pieces
        { e with state := e.state.assign name value }.add (piecesOf inQuotes value)
  | .demanded nonEmpty word, e =>
    match e.state.givenFor? purpose inQuotes name nonEmpty with
    | some value => e.add (e.state.valuePieces inQuotes name value)
    | none =>
      if word.isEmpty then
        e.fail (unsetMessage name ++ Text.octets (if nonEmpty then " or null" else ""))
      else
        let inner := expandParts .text true 0 word { state := e.state }
        let e := { e with state := inner.state }
        if e.state.flow ≠ .onward then e
        else e.fail (Text.octets (name ++ ": ") ++ textOf inner.pieces)
  | .replaced nonEmpty word, e =>
    match e.state.givenFor? purpose inQuotes name nonEmpty with
    | some _ => e.place inQuotes (expandParts purpose true 0 word { state := e.state })
    | none => e.add (piecesOf inQuotes [])
  | .trimmed atEnd longest word, e =>
    match e.state.valueFor? purpose inQuotes name with
    | some value =>
      let inner := expandParts .text true 0 word { state := e.state }
      let e := { e with state := inner.state }
      if e.state.flow ≠ .onward then e
      else
        let pattern := glyphsOf inner.pieces
        let trimmed :=
          if atEnd then trimEnd pattern longest value else trimStart pattern longest value
        e.add (e.state.valuePieces inQuotes name trimmed)
    | none =>
      if e.state.modes.mustBeSet then e.fail (unsetMessage name)
      else e.add (piecesOf inQuotes [])
  | .unknown, e => e.fail (Text.octets "Bad substitution")

end

end Shell
end TemplateVariants
