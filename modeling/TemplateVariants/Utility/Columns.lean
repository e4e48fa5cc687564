import TemplateVariants.Utility.Options
import TemplateVariants.Utility.Translate

/-!
# Columns of lines

`cut` keeps some columns of each line: bytes, or fields between delimiters. `paste` joins the lines
of its inputs, one of each, or all lines of each.
-/

namespace TemplateVariants
namespace Columns

/-! ## Ranges -/

/-- Columns from the first on, up to a last one if there is one. -/
structure Range where
  first : Nat
  last? : Option Nat

def Range.holds (r : Range) (n : Nat) : Bool :=
  decide (r.first ≤ n) && ((r.last?.map fun last => decide (n ≤ last)).getD true)

/-- Why a list of ranges cannot be read. -/
inductive RangeFault where
  | zero
  | decreasing
  | noEnd
  | invalid (text : Octets)

def readNumber? (text : Octets) : Option Nat :=
  if text.all Char.isDigit then some (text.foldl (fun n c => 10 * n + (c.toNat - '0'.toNat)) 0)
  else none

/-- Reads one range. -/
def Range.read (text : Octets) : Except RangeFault Range :=
  let front := text.takeWhile (· ≠ '-')
  match readNumber? front, text.drop front.length with
  | some n, [] => if text.isEmpty ∨ n = 0 then .error .zero else .ok ⟨n, some n⟩
  | some n, _ :: back =>
    match readNumber? back with
    | none => .error (.invalid (back.dropWhile Char.isDigit))
    | some m =>
      if front.isEmpty ∧ back.isEmpty then .error .noEnd
      else if (!front.isEmpty ∧ n = 0) ∨ (!back.isEmpty ∧ m = 0 ∧ front.isEmpty) then .error .zero
      else if back.isEmpty then .ok ⟨n, none⟩
      else if m < max n 1 then .error .decreasing
      else .ok ⟨max n 1, some m⟩
  | none, _ => .error (.invalid (text.dropWhile Char.isDigit))

/-- The parts of a text between commas or blanks. -/
def splitList (text : Octets) : List Octets :=
  List.splitOnP (fun c => c = ',' ∨ c = ' ' ∨ c = '\t') text

def readRanges (text : Octets) : Except RangeFault (List Range) :=
  (splitList text).mapM Range.read

/-! ## Cutting -/

structure Manner where
  bytes? : Option Octets := none
  fields? : Option Octets := none
  lists : Nat := 0
  delimiter? : Option Octets := none
  joint? : Option Octets := none
  onlyDelimited : Bool := false
  complement : Bool := false
  ending : Char := '\n'

def cutTable : OptionTable where
  shorts := [('b', .value), ('c', .value), ('d', .value), ('f', .value), ('n', .nothing),
    ('s', .nothing), ('z', .nothing)]
  longs :=
    [("bytes", .value, 'b'), ("characters", .value, 'c'), ("delimiter", .value, 'd'),
      ("fields", .value, 'f'), ("only-delimited", .nothing, 's'), ("complement", .nothing, 'C'),
      ("output-delimiter", .value, 'O'), ("zero-terminated", .nothing, 'z')]

def Manner.set (m : Manner) (setting : Setting) : Manner :=
  match setting.letter with
  | 'b' | 'c' => { m with bytes? := some setting.value, lists := m.lists + 1 }
  | 'f' => { m with fields? := some setting.value, lists := m.lists + 1 }
  | 'd' => { m with delimiter? := some setting.value }
  | 's' => { m with onlyDelimited := true }
  | 'C' => { m with complement := true }
  | 'O' => { m with joint? := some setting.value }
  | 'z' => { m with ending := '\x00' }
  | _ => m

def Manner.keeps (m : Manner) (ranges : List Range) (n : Nat) : Bool :=
  (ranges.any (·.holds n)) != m.complement

/-- Whether a column that is kept is the first of a range, after columns that are not its
neighbours. -/
def Manner.opens (m : Manner) (ranges : List Range) (n : Nat) : Bool :=
  if m.complement then !m.keeps ranges (n - 1)
  else
    let covers := ranges.any fun r => r.holds n && r.holds (n - 1)
    !covers

/-- The bytes of a line that are kept. -/
def Manner.cutBytes (m : Manner) (ranges : List Range) (line : Octets) : Octets :=
  let kept := (line.mapIdx fun i c => (i + 1, c)).filter fun (n, _) => m.keeps ranges n
  match m.joint?, kept with
  | some joint, first :: rest =>
    first.2 :: rest.flatMap fun (n, c) => if m.opens ranges n then joint ++ [c] else [c]
  | _, _ => kept.map Prod.snd

/-- The fields of a line that are kept; none for a line that is left out. -/
def Manner.cutFields (m : Manner) (ranges : List Range) (delimiter : Char) (line : Octets) :
    Option Octets :=
  if !line.contains delimiter then if m.onlyDelimited then none else some line
  else
    let fields := (List.splitOnP (· == delimiter) line).mapIdx fun i field => (i + 1, field)
    let kept := (fields.filter fun (n, _) => m.keeps ranges n).map Prod.snd
    some (List.intercalate (m.joint?.getD [delimiter]) kept)

/-- A text without the character that ends its last line, line by line. -/
def bareLines (ending : Char) (text : Octets) : List Octets :=
  (linesOf ending text).map fun line =>
    if line.getLast? = some ending then line.dropLast else line

/-! ## Pasting -/

/-- The delimiters that a text spells; a zero after a backslash stands for none. -/
def delimiters : Octets → List Octets
  | '\\' :: '0' :: rest => [] :: delimiters rest
  | '\\' :: 'n' :: rest => ['\n'] :: delimiters rest
  | '\\' :: 't' :: rest => ['\t'] :: delimiters rest
  | '\\' :: c :: rest => [c] :: delimiters rest
  | c :: rest => [c] :: delimiters rest
  | [] => []

/-- Texts with delimiters between them, which are used in turn. -/
def join (marks : List Octets) (texts : List Octets) : Octets :=
  match texts with
  | [] => []
  | first :: rest =>
    first ++ (rest.mapIdx fun i text =>
      (if marks.isEmpty then [] else (marks[i % marks.length]?).getD []) ++ text).flatten

/-- The lines made of one line of each input, as long as any of them has one. -/
def rows (marks : List Octets) (columns : List (List Octets)) : List Octets :=
  let height := (columns.map List.length).foldl max 0
  (List.range height).map fun n => join marks (columns.map fun column => (column[n]?).getD [])

def pasteTable : OptionTable where
  shorts := [('d', .value), ('s', .nothing), ('z', .nothing)]
  longs :=
    [("delimiters", .value, 'd'), ("serial", .nothing, 's'), ("zero-terminated", .nothing, 'z')]

/-- The lines that each of several inputs gets of a text that they share. -/
def deal (count : Nat) (lines : List Octets) (place : Nat) : List Octets :=
  (lines.mapIdx fun i line => (i, line)).filterMap fun (i, line) =>
    if i % count = place then some line else none

end Columns

open Columns in
def cut : Utility := fun call =>
  let read := cutTable.read call.arguments
  let m := read.settings.foldl Manner.set {}
  let wrong (text : String) : Reply := call.refuseUsage (Text.octets text)
  match read.fault? with
  | some what => call.refuseUsage what
  | none =>
    if 1 < m.lists then wrong "only one list may be specified"
    else if ((m.delimiter?.map List.length).getD 1) > 1 then
      wrong "the delimiter must be a single character"
    else if m.lists = 0 then wrong "you must specify a list of bytes, characters, or fields"
    else if m.fields?.isNone ∧ m.delimiter?.isSome then
      wrong "an input delimiter may be specified only when operating on fields"
    else if m.fields?.isNone ∧ m.onlyDelimited then
      wrong "suppressing non-delimited lines makes sense\n\tonly when operating on fields"
    else
      let kind := if m.fields?.isSome then "field" else "byte/character"
      match readRanges ((m.fields? <|> m.bytes?).getD []) with
      | .error .zero =>
        wrong (if m.fields?.isSome then "fields are numbered from 1"
          else "byte/character positions are numbered from 1")
      | .error .decreasing => wrong "invalid decreasing range"
      | .error .noEnd => wrong "invalid range with no endpoint: -"
      | .error (.invalid text) =>
        call.refuseUsage
          (Text.octets
            ("invalid " ++ kind ++ (if m.fields?.isSome then " value " else " position ")) ++
            OptionTable.quote text)
      | .ok ranges =>
        let inputs := call.inputs read.operands fun operand reason =>
          operand ++ Text.octets (": " ++ reason)
        let delimiter : Char := ((m.delimiter?.map fun text => text.headD '\x00')).getD '\t'
        let line (text : Octets) : Option Octets :=
          if m.fields?.isSome then m.cutFields ranges delimiter text
          else some (m.cutBytes ranges text)
        let output := inputs.texts.flatMap fun (_, text) =>
          (bareLines m.ending text).flatMap fun text =>
            match line text with
            | some text => text ++ [m.ending]
            | none => []
        call.replyWith inputs output

open Columns in
def paste : Utility := fun call =>
  let read := pasteTable.read call.arguments
  match read.fault? with
  | some what => call.refuseUsage what
  | none =>
    let value? := (read.settings.reverse.find? (·.letter = 'd')).map (·.value)
    let marks := (value?.map delimiters).getD [['\t']]
    let ending := if read.settings.any (·.letter = 'z') then '\x00' else '\n'
    let isSerial := read.settings.any (·.letter = 's')
    let operands := if read.operands.isEmpty then [['-']] else read.operands
    let named := operands.filter (· ≠ ['-'])
    let inputs := call.inputs (if named.isEmpty then [['-']] else named) fun operand reason =>
      operand ++ Text.octets (": " ++ reason)
    let shared := bareLines ending call.input
    let count := operands.length - named.length
    let columns := operands.mapIdx fun i operand =>
      if operand = ['-'] then
        if isSerial then (if (operands.take i).contains ['-'] then [] else shared)
        else deal count shared ((operands.take i).filter (· = ['-'])).length
      else bareLines ending ((inputs.texts.lookup operand).getD [])
    let lines := if isSerial then columns.map (join marks) else rows marks columns
    let lines := if inputs.complaints.isEmpty ∨ isSerial then lines else []
    { call.replyWith inputs (lines.flatMap (· ++ [ending])) with
      unread := if count = 0 then call.input else [] }

end TemplateVariants
