import TemplateVariants.Utility.Options

/-!
# Starts of files

`head` writes the first lines or bytes of its inputs, or all but the last ones. Where there are
several inputs, a line before each names it.
-/

namespace TemplateVariants
namespace Head

/-- How much of an input is written, and whether inputs are named. -/
structure Manner where
  ofLines : Bool := true
  fromEnd : Bool := false
  count : Nat := 10
  ending : Char := '\n'
  names? : Option Bool := none

/-- The options, with the digits among them, which only a first argument may start with. -/
def table : OptionTable where
  shorts :=
    [('c', .value), ('n', .value), ('q', .nothing), ('v', .nothing), ('z', .nothing)] ++
      "0123456789".toList.map fun c => (c, .nothing)
  longs :=
    [("bytes", .value, 'c'), ("lines", .value, 'n'), ("quiet", .nothing, 'q'),
      ("silent", .nothing, 'q'), ("verbose", .nothing, 'v'), ("zero-terminated", .nothing, 'z')]

/-! ## Counts -/

/-- The greatest count. -/
def maxCount : Nat := UInt64.size - 1

/-- The power that a letter after a count stands for. -/
def power? (c : Char) : Option Nat :=
  match c with
  | 'k' | 'K' => some 1
  | 'm' | 'M' => some 2
  | 'G' => some 3
  | 'T' => some 4
  | 'P' => some 5
  | 'E' => some 6
  | 'Z' => some 7
  | 'Y' => some 8
  | 'R' => some 9
  | 'Q' => some 10
  | _ => none

/-- What a count is multiplied by according to the text after its digits. -/
def factor? : List Char → Option Nat
  | [] => some 1
  | ['b'] => some 512
  | [c] => (power? c).map (Nat.pow 1024)
  | [c, 'B'] => (power? c).map (Nat.pow 1000)
  | [c, 'i', 'B'] => (power? c).map (Nat.pow 1024)
  | _ => none

/-- The count that a text spells, or why it spells none. -/
def readCount (text : Octets) : Except String Nat :=
  let digits := text.takeWhile Char.isDigit
  let n := digits.foldl (fun n c => 10 * n + (c.toNat - '0'.toNat)) 0
  let rest := text.drop digits.length
  match digits, factor? rest with
  | [], some 1 => .error ""
  | _, none => .error ""
  | [], some factor => if rest = ['b'] then .error "" else .ok factor
  | _, some factor =>
    if maxCount < n * factor then .error ": Value too large for defined data type"
    else .ok (n * factor)

/-- The manner after the count of an option; a hyphen before it counts from the end. -/
def Manner.setCount (m : Manner) (ofLines : Bool) (value : Octets) : Except Refusal Manner :=
  let (fromEnd, digits) :=
    match value with
    | '-' :: rest => (true, rest)
    | '+' :: rest => (false, rest)
    | _ => (false, value)
  match readCount digits with
  | .ok count => .ok { m with ofLines, fromEnd, count }
  | .error more =>
    let written := if fromEnd then digits else value
    .error
      { what :=
          Text.octets ("invalid number of " ++ (if ofLines then "lines" else "bytes") ++ ": ") ++
            OptionTable.quote written ++ Text.octets more }

/-- The refusal of a letter or a digit where none can stand. -/
def trailing (letter : Char) : Refusal where
  what := Text.octets "invalid trailing option -- " ++ [letter]
  pointsToHelp := true

def Manner.set (m : Manner) (setting : Setting) : Except Refusal Manner :=
  match setting.letter with
  | 'c' => m.setCount false setting.value
  | 'n' => m.setCount true setting.value
  | 'q' => .ok { m with names? := some false }
  | 'v' => .ok { m with names? := some true }
  | 'z' => .ok { m with ending := '\x00' }
  | c => if c.isDigit then .error (trailing c) else .ok m

/-- The manner that a first argument of digits and letters spells. -/
def digitsManner? (arg : Octets) : Option (Except Refusal Manner) :=
  match arg with
  | '-' :: c :: cs =>
    if c.isDigit then
      let digits := (c :: cs).takeWhile Char.isDigit
      let start : Except Refusal (Manner × Nat) :=
        (({} : Manner).setCount true digits).map fun m => (m, 1)
      let step (found : Except Refusal (Manner × Nat)) (letter : Char) :
          Except Refusal (Manner × Nat) := do
        let (m, factor) ← found
        match letter with
        | 'c' => return ({ m with ofLines := false }, 1)
        | 'b' => return ({ m with ofLines := false }, 512)
        | 'k' => return ({ m with ofLines := false }, 1024)
        | 'm' => return ({ m with ofLines := false }, 1024 * 1024)
        | 'l' => return ({ m with ofLines := true }, factor)
        | 'q' => return ({ m with names? := some false }, factor)
        | 'v' => return ({ m with names? := some true }, factor)
        | 'z' => return ({ m with ending := '\x00' }, factor)
        | _ => throw (trailing letter)
      some ((((c :: cs).drop digits.length).foldl step start).map fun (m, factor) =>
        { m with count := m.count * factor })
    else none
  | _ => none

/-! ## Starts -/

def Manner.start (m : Manner) (text : Octets) : Octets :=
  let units := unitsOf m.ofLines m.ending text
  (units.take (if m.fromEnd then units.length - m.count else m.count)).flatten

def title (operand : Octets) : Octets :=
  let name := if operand = ['-'] then Text.octets "standard input" else operand
  Text.octets "==> " ++ name ++ Text.octets " <==\n"

/-- A part of each of several inputs, each under its name. -/
def titled (part : Octets → Octets) : List (Octets × Octets) → Octets
  | [] => []
  | [(operand, text)] => title operand ++ part text
  | (operand, text) :: rest => title operand ++ part text ++ '\n' :: titled part rest

def word (operand : Octets) (reason : String) : Octets :=
  if reason = StorageFault.reason .isDirectory then
    Text.octets "error reading " ++ OptionTable.quote operand ++ Text.octets (": " ++ reason)
  else
    Text.octets "cannot open " ++ OptionTable.quote operand ++
      Text.octets (" for reading: " ++ reason)

end Head

def head : Utility := fun call =>
  let (start, arguments) :=
    match call.arguments with
    | first :: rest =>
      match Head.digitsManner? first with
      | some manner => (manner, rest)
      | none => (.ok {}, call.arguments)
    | [] => (.ok {}, [])
  let read := Head.table.read arguments
  match start with
  | .error refusal => call.refuseWith refusal
  | .ok start =>
    match read.settings.foldlM Head.Manner.set start with
    | .error refusal => call.refuseWith refusal
    | .ok manner =>
      match read.fault? with
      | some what => call.refuseUsage what
      | none =>
        let inputs := call.inputs read.operands Head.word
        let named := manner.names?.getD (2 ≤ read.operands.length)
        let output :=
          if named then Head.titled manner.start inputs.texts
          else inputs.texts.flatMap fun (_, text) => manner.start text
        call.replyWith inputs output

end TemplateVariants
