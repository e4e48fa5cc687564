import TemplateVariants.Utility.Columns
import TemplateVariants.Utility.Options

/-!
# Repeated lines

`uniq` parts its input into groups of equal lines that follow each other, and writes one line of
each group, of those with several lines, or of those with one.
-/

namespace TemplateVariants
namespace Unique

structure Manner where
  counts : Bool := false
  onlyRepeated : Bool := false
  onlyUnique : Bool := false
  allRepeated : Bool := false
  ignoresCase : Bool := false
  skippedFields : Nat := 0
  skippedBytes : Nat := 0
  width? : Option Nat := none
  ending : Char := '\n'
  fault? : Option Octets := none

def table : OptionTable where
  shorts := [('c', .nothing), ('d', .nothing), ('D', .nothing), ('f', .value), ('i', .nothing),
    ('s', .value), ('u', .nothing), ('w', .value), ('z', .nothing)]
  longs :=
    [("count", .nothing, 'c'), ("repeated", .nothing, 'd'), ("all-repeated", .optional, 'D'),
      ("skip-fields", .value, 'f'), ("ignore-case", .nothing, 'i'), ("skip-chars", .value, 's'),
      ("unique", .nothing, 'u'), ("check-chars", .value, 'w'), ("zero-terminated", .nothing, 'z')]

/-- Uses the number that a value spells. -/
def Manner.withNumber (m : Manner) (value : Octets) (what : String) (use : Nat → Manner) : Manner :=
  match if value.isEmpty then none else Columns.readNumber? value with
  | some n => use n
  | none =>
    { m with fault? := m.fault? <|> some (value ++ Text.octets (": invalid number of " ++ what)) }

def Manner.set (m : Manner) (setting : Setting) : Manner :=
  match setting.letter with
  | 'c' => { m with counts := true }
  | 'd' => { m with onlyRepeated := true }
  | 'D' => { m with allRepeated := true }
  | 'i' => { m with ignoresCase := true }
  | 'u' => { m with onlyUnique := true }
  | 'z' => { m with ending := '\x00' }
  | 'f' => m.withNumber setting.value "fields to skip" fun n => { m with skippedFields := n }
  | 's' => m.withNumber setting.value "bytes to skip" fun n => { m with skippedBytes := n }
  | 'w' => m.withNumber setting.value "bytes to compare" fun n => { m with width? := some n }
  | _ => m

def isBlank (c : Char) : Bool :=
  c == ' ' || c == '\t'

/-- A line without so many fields, each with the blanks before it. -/
def dropFields : Nat → Octets → Octets
  | 0, line => line
  | n + 1, line => dropFields n ((line.dropWhile isBlank).dropWhile (!isBlank ·))

/-- What of a line is compared. -/
def Manner.key (m : Manner) (line : Octets) : Octets :=
  let rest := (dropFields m.skippedFields line).drop m.skippedBytes
  let part := (m.width?.map rest.take).getD rest
  if m.ignoresCase then part.map Char.toUpper else part

/-- The groups of lines, each backwards. -/
def Manner.groups (m : Manner) (lines : List Octets) : List (List Octets) :=
  let add (groups : List (List Octets)) (line : Octets) : List (List Octets) :=
    match groups with
    | (other :: group) :: groups =>
      if m.key other = m.key line then (line :: other :: group) :: groups
      else [line] :: (other :: group) :: groups
    | groups => [line] :: groups
  (lines.foldl add []).reverse

def Manner.show (m : Manner) (group : List Octets) : Octets :=
  let isShown := if group.length = 1 then !m.onlyRepeated && !m.allRepeated else !m.onlyUnique
  let count := Nat.toDigits 10 group.length
  let label := if m.counts then List.replicate (7 - count.length) ' ' ++ count ++ [' '] else []
  if !isShown then []
  else if m.allRepeated then group.reverse.flatMap (· ++ [m.ending])
  else label ++ group.getLast?.getD [] ++ [m.ending]

end Unique

def uniq : Utility := fun call =>
  let read := Unique.table.read call.arguments
  let m := read.settings.foldl Unique.Manner.set {}
  match read.fault?, m.fault?, read.operands with
  | some what, _, _ => call.refuseUsage what
  | none, some what, _ => call.refuse what
  | none, none, _ :: _ :: extra :: _ =>
    call.refuseUsage (Text.octets "extra operand " ++ OptionTable.quote extra)
  | none, none, operands =>
    if m.allRepeated ∧ m.counts then
      call.refuseUsage
        (Text.octets "printing all duplicated lines and repeat counts is meaningless")
    else
      let inputs := call.inputs (operands.take 1) fun operand reason =>
        operand ++ Text.octets (": " ++ reason)
      let text := inputs.texts.flatMap Prod.snd
      let output := (m.groups (Columns.bareLines m.ending text)).flatMap m.show
      let reply := call.replyWith inputs output
      match operands with
      | [_, goal] =>
        if goal = ['-'] ∨ !inputs.complaints.isEmpty then reply
        else
          match call.files.target (pathOfOctets goal) with
          | .ok place =>
            { reply with
              output := []
              files := call.files.put place (.file (Text.bytesOfOctets output)) }
          | .error fault => call.refuse (goal ++ Text.octets (": " ++ fault.reason))
      | _ => reply

end TemplateVariants
