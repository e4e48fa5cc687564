import TemplateVariants.Utility.Head

/-!
# Ends of files

`tail` writes the last lines or bytes of its inputs, or all from one of them on. Where there are
several inputs, a line before each names it.
-/

namespace TemplateVariants
namespace Tail

/-- How much of an input is written, and whether inputs are named; `fromStart` counts from the first
unit on. -/
structure Manner where
  ofLines : Bool := true
  fromStart : Bool := false
  count : Nat := 10
  ending : Char := '\n'
  names? : Option Bool := none

/-- The manner after the count of an option. -/
def Manner.setCount (m : Manner) (ofLines : Bool) (value : Octets) : Except Refusal Manner :=
  let (fromStart, digits, shown) :=
    match value with
    | '+' :: rest => (true, rest, value)
    | '-' :: rest => (false, rest, rest)
    | _ => (false, value, value)
  match Head.readCount digits with
  | .ok count => .ok { m with ofLines, fromStart, count }
  | .error more =>
    .error
      { what :=
          Text.octets ("invalid number of " ++ (if ofLines then "lines" else "bytes") ++ ": ") ++
            OptionTable.quote shown ++ Text.octets more }

def Manner.set (m : Manner) (setting : Setting) : Except Refusal Manner :=
  match setting.letter with
  | 'c' => m.setCount false setting.value
  | 'n' => m.setCount true setting.value
  | 'q' => .ok { m with names? := some false }
  | 'v' => .ok { m with names? := some true }
  | 'z' => .ok { m with ending := '\x00' }
  | c =>
    if c.isDigit then .error { what := Text.octets "option used in invalid context -- " ++ [c] }
    else .ok m

/-- The manner that a first argument of a sign, digits and letters spells, if at most one operand
follows it. -/
def signedManner? (arg : Octets) (rest : List Octets) : Option Manner :=
  let isAlone :=
    match rest with
    | [] => true
    | [operand] => operand = ['-'] || operand.head? != some '-'
    | _ => false
  match arg with
  | sign :: digits =>
    if isAlone && (sign == '-' || sign == '+') then
      let count := digits.takeWhile Char.isDigit
      let letters := digits.drop count.length
      let n := count.foldl (fun n c => 10 * n + (c.toNat - '0'.toNat)) 0
      let manner (ofLines : Bool) (unit : Nat) : Option Manner :=
        if count.isEmpty then none
        else some { ofLines, fromStart := sign = '+', count := n * unit }
      match letters with
      | [] | ['l'] => manner true 1
      | ['c'] => manner false 1
      | ['b'] => manner false 512
      | _ => none
    else none
  | [] => none

def Manner.part (m : Manner) (text : Octets) : Octets :=
  let units := unitsOf m.ofLines m.ending text
  (units.drop (if m.fromStart then m.count - 1 else units.length - m.count)).flatten

end Tail

def tail : Utility := fun call =>
  let (start, arguments) : Tail.Manner × List Octets :=
    match call.arguments with
    | first :: rest =>
      match Tail.signedManner? first rest with
      | some manner => (manner, rest)
      | none => ({}, call.arguments)
    | [] => ({}, [])
  let read := Head.table.read arguments
  match read.settings.foldlM Tail.Manner.set start with
  | .error refusal => call.refuseWith refusal
  | .ok manner =>
    match read.fault? with
    | some what => call.refuseUsage what
    | none =>
      let inputs := call.inputs read.operands Head.word
      let output :=
        if manner.names?.getD (2 ≤ read.operands.length) then
          Head.titled manner.part inputs.texts
        else inputs.texts.flatMap fun (_, text) => manner.part text
      call.replyWith inputs output

end TemplateVariants
