import TemplateVariants.Utility.Columns
import TemplateVariants.Utility.Quoting

/-!
# Two files side by side

`cmp` tells where two files first differ, and `comm` parts the lines of two sorted files into those
of the first, of the second and of both.
-/

namespace TemplateVariants
namespace Comparison

/-! ## The first difference -/

def compareTable : OptionTable where
  shorts := [('s', .nothing), ('l', .nothing), ('b', .nothing), ('n', .value), ('i', .value)]
  longs :=
    [("quiet", .nothing, 's'), ("silent", .nothing, 's'), ("verbose", .nothing, 'l'),
      ("print-bytes", .nothing, 'b'), ("bytes", .value, 'n'), ("ignore-initial", .value, 'i')]

/-- The places at which two texts differ, with the bytes there. -/
def differencesFrom (place : Nat) : Octets → Octets → List (Nat × Char × Char)
  | a :: as, b :: bs =>
    if a = b then differencesFrom (place + 1) as bs
    else (place, a, b) :: differencesFrom (place + 1) as bs
  | _, _ => []

def lineAt (text : Octets) (place : Nat) : Nat :=
  (text.take (place - 1)).count '\n' + 1

def octal (c : Char) : Octets :=
  let digits := Nat.toDigits 8 c.toNat
  List.replicate (3 - digits.length) ' ' ++ digits

/-- What is said if one text ends before the other. -/
def endText (name text : Octets) (byLines : Bool) : Octets :=
  Text.octets "EOF on " ++ name ++
    if text.isEmpty then Text.octets " which is empty"
    else
      let place := Text.octets (" after byte " ++ Nat.repr text.length)
      let lines := text.count '\n'
      if !byLines then place
      else if text.getLast? = some '\n' then place ++ Text.octets (", line " ++ Nat.repr lines)
      else place ++ Text.octets (", in line " ++ Nat.repr (lines + 1))

/-- Compares two texts with names. -/
def compare (call : Call) (letters : List Char) (names : Octets × Octets) (texts : Octets × Octets)
    (reply : Reply) : Reply :=
  let differences := differencesFrom 1 texts.1 texts.2
  let isSilent := letters.contains 's'
  let isEnded := texts.1.length != texts.2.length
  let shorter := if texts.1.length < texts.2.length then (names.1, texts.1) else (names.2, texts.2)
  let ended (reply : Reply) : Reply :=
    if isSilent then { reply with status := 1 }
    else reply.complain call (endText shorter.1 shorter.2 (!letters.contains 'l'))
  match differences with
  | [] => if isEnded then ended reply else reply
  | (place, a, b) :: _ =>
    let reply := { reply with status := 1 }
    if isSilent then reply
    else if letters.contains 'l' then
      let width := (Nat.toDigits 10 (max texts.1.length texts.2.length)).length
      let lines := differences.flatMap fun (place, a, b) =>
        let digits := Nat.toDigits 10 place
        List.replicate (width - digits.length) ' ' ++ digits ++
          ' ' :: octal a ++ ' ' :: octal b ++ ['\n']
      if isEnded then ended (reply.say lines) else reply.say lines
    else
      let shows := letters.contains 'b'
      let unit := if shows then "byte" else "char"
      let bytes := if shows then
          Text.octets " is " ++ octal a ++ ' ' :: a :: ' ' :: octal b ++ [' ', b] else []
      reply.say (names.1 ++ ' ' :: names.2 ++
        Text.octets (" differ: " ++ unit ++ " " ++ Nat.repr place ++ ", line " ++
          Nat.repr (lineAt texts.1 place)) ++ bytes ++ ['\n'])

/-! ## Common lines -/

structure Manner where
  hidden : List Char := []
  separator : Octets := ['\t']
  ending : Char := '\n'
  checks? : Option Bool := none
  totals : Bool := false

def commonTable : OptionTable where
  shorts := [('1', .nothing), ('2', .nothing), ('3', .nothing), ('z', .nothing)]
  longs :=
    [("check-order", .nothing, 'c'), ("nocheck-order", .nothing, 'n'),
      ("output-delimiter", .value, 'd'), ("total", .nothing, 't'),
      ("zero-terminated", .nothing, 'z')]

def Manner.set (m : Manner) (setting : Setting) : Manner :=
  match setting.letter with
  | 'c' => { m with checks? := some true }
  | 'n' => { m with checks? := some false }
  | 'd' => { m with separator := if setting.value.isEmpty then ['\x00'] else setting.value }
  | 't' => { m with totals := true }
  | 'z' => { m with ending := '\x00' }
  | c => { m with hidden := c :: m.hidden }

/-- The lines of two sorted lists in order, each with the column in which it stands. -/
def merge : Nat → List Octets → List Octets → List (Char × Octets)
  | 0, _, _ => []
  | _, [], bs => bs.map (('2', ·))
  | _, as, [] => as.map (('1', ·))
  | fuel + 1, a :: as, b :: bs =>
    if a = b then ('3', a) :: merge fuel as bs
    else if a < b then ('1', a) :: merge fuel as (b :: bs)
    else ('2', b) :: merge fuel (a :: as) bs

/-- How many lines there are before the first that is less than the one before it. -/
def sortedFront : List Octets → Nat
  | a :: b :: rest => if b < a then 1 else sortedFront (b :: rest) + 1
  | lines => lines.length

def isSorted (lines : List Octets) : Bool :=
  sortedFront lines == lines.length

def Manner.write (m : Manner) (line : Char × Octets) : Octets :=
  if m.hidden.contains line.1 then []
  else
    let shown (c : Char) : Octets := if m.hidden.contains c then [] else m.separator
    let before :=
      match line.1 with
      | '1' => []
      | '2' => shown '1'
      | _ => shown '1' ++ shown '2'
    before ++ line.2 ++ [m.ending]

end Comparison

open Comparison in
def cmp : Utility := fun call =>
  let read := compareTable.read call.arguments
  let letters := read.settings.map (·.letter)
  let number (letter : Char) : Option Nat :=
    (read.settings.find? (·.letter = letter)).bind fun setting => numberOf? setting.value
  let refuse (name : Octets) (fault : StorageFault) : Reply :=
    if letters.contains 's' then call.done 2
    else call.refuse (name ++ Text.octets (": " ++ fault.reason)) 2
  let help (what : Octets) : Reply :=
    { call.done 2 with
      errors := call.complaint what ++
        call.complaint (Text.octets ("Try '" ++ call.name ++ " --help' for more information.")) }
  match read.fault?, read.operands with
  | some what, _ => help what
  | none, [] =>
    help (Text.octets "missing operand after " ++ OptionTable.quote (Text.octets call.name))
  | none, first :: rest =>
    if 1 < rest.length then
      help (Text.octets "extra operand " ++ OptionTable.quote (rest[1]?.getD []))
    else
      let second := rest.headD ['-']
      let text (name : Octets) : Except StorageFault Octets :=
        if name = ['-'] then .ok call.input else call.read name
      match text first, text second with
      | .error fault, _ => refuse first fault
      | _, .error fault => refuse second fault
      | .ok a, .ok b =>
        let cut (text : Octets) : Octets :=
          let text := text.drop ((number 'i').getD 0)
          match number 'n' with
          | some n => text.take n
          | none => text
        let usesInput := first = ['-'] ∨ second = ['-']
        compare call letters (first, second) (cut a, cut b)
          { call.done with unread := if usesInput then [] else call.input }

open Comparison in
def comm : Utility := fun call =>
  let read := commonTable.read call.arguments
  let m := read.settings.foldl Manner.set {}
  match read.fault?, read.operands with
  | some what, _ => call.refuseUsage what
  | none, [] => call.refuseUsage (Text.octets "missing operand")
  | none, [first] =>
    call.refuseUsage (Text.octets "missing operand after " ++ OptionTable.quote first)
  | none, _ :: _ :: extra :: _ =>
    call.refuseUsage (Text.octets "extra operand " ++ OptionTable.quote extra)
  | none, operands =>
    let inputs := call.inputs operands fun operand reason => operand ++ Text.octets (": " ++ reason)
    match inputs.complaints, inputs.texts with
    | [], [(_, a), (_, b)] =>
      let as := Columns.bareLines m.ending a
      let bs := Columns.bareLines m.ending b
      let merged := merge (as.length + bs.length) as bs
      let isPaired := as.length = bs.length ∧ merged.all (·.1 = '3')
      let counts := ['1', '2', '3'].map fun c => (merged.filter (·.1 = c)).length
      let total :=
        if m.totals then
          List.intercalate m.separator (counts.map fun n => Nat.toDigits 10 n) ++
            m.separator ++ Text.octets "total" ++ [m.ending]
        else []
      let faults :=
        if m.checks? = some false ∨ (m.checks? = none ∧ isPaired) then []
        else (if isSorted as then [] else ['1']) ++ (if isSorted bs then [] else ['2'])
      let reply := call.replyWith inputs (merged.flatMap m.write ++ total)
      let reply := faults.foldl (fun reply c =>
        reply.complain call
          (Text.octets "file " ++ c :: Text.octets " is not in sorted order")) reply
      if faults.isEmpty ∨ m.checks? = some true then reply
      else reply.complain call (Text.octets "input is not in sorted order")
    | _, _ => call.replyWith { inputs with complaints := inputs.complaints.take 1 } []

end TemplateVariants
