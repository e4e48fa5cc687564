import TemplateVariants.Utility.Options

/-!
# Folded lines

`fold` breaks lines that are too wide. A tab goes on to the next eighth column, unless bytes are
counted; lines may be broken after blanks only, where there are any.
-/

namespace TemplateVariants
namespace Folding

structure Manner where
  width : Nat := 80
  bytes : Bool := false
  atBlanks : Bool := false

def table : OptionTable where
  shorts := [('w', .value), ('b', .nothing), ('s', .nothing)]
  longs := [("width", .value, 'w'), ("bytes", .nothing, 'b'), ("spaces", .nothing, 's')]

/-- The column after a character. -/
def Manner.columnAfter (m : Manner) (column : Nat) (c : Char) : Nat :=
  if m.bytes then column + 1
  else if c = '\t' then (column / 8 + 1) * 8
  else if c = '\x08' then column - 1
  else if c = '\r' then 0
  else column + 1

def Manner.widthOf (m : Manner) (text : Octets) : Nat :=
  text.foldl m.columnAfter 0

/-- A line without its end as folded lines; `line` is the folded line at hand, backwards. -/
def Manner.foldFrom (m : Manner) (line : Octets) (column : Nat) : Octets → List Octets
  | [] => [line.reverse]
  | c :: rest =>
    let next := m.columnAfter column c
    if next ≤ m.width ∨ line.isEmpty then m.foldFrom (c :: line) next rest
    else
      let isBlank (d : Char) : Bool := d == ' ' || d == '\t'
      let tail := line.takeWhile (!isBlank ·)
      let front := line.drop tail.length
      if m.atBlanks ∧ !front.isEmpty then
        let column := m.widthOf tail.reverse
        front.reverse :: m.foldFrom (c :: tail) (m.columnAfter column c) rest
      else line.reverse :: m.foldFrom [c] (m.columnAfter 0 c) rest

def Manner.fold (m : Manner) (line : Octets) : Octets :=
  let isEnded := line.getLast? = some '\n'
  let bare := if isEnded then line.dropLast else line
  List.intercalate ['\n'] (m.foldFrom [] 0 bare) ++ if isEnded then ['\n'] else []

/-- The arguments in which a number after a hyphen is a width. -/
def withWidths (arguments : List Octets) : List Octets :=
  arguments.map fun argument =>
    match argument with
    | '-' :: c :: digits => if c.isDigit then "-w".toList ++ c :: digits else argument
    | _ => argument

end Folding

open Folding in
def fold : Utility := fun call =>
  let read := table.read (withWidths call.arguments)
  let width? := (read.settings.reverse.find? (·.letter = 'w')).map (·.value)
  let what := Text.octets "invalid number of columns: "
  match read.fault?, width?.map fun text => (text, numberOf? text) with
  | some fault, _ => call.refuseUsage fault
  | none, some (text, none) => call.refuse (what ++ OptionTable.quote text)
  | none, some (text, some 0) =>
    call.refuse (what ++ OptionTable.quote text ++ Text.octets ": Numerical result out of range")
  | none, width? =>
    let m : Manner :=
      { width := (width?.bind (·.2)).getD 80
        bytes := read.settings.any (·.letter = 'b')
        atBlanks := read.settings.any (·.letter = 's') }
    let inputs := call.inputs read.operands fun operand reason =>
      operand ++ Text.octets (": " ++ reason)
    call.replyWith inputs (inputs.texts.flatMap fun (_, text) => (linesOf '\n' text).flatMap m.fold)

end TemplateVariants
