import TemplateVariants.Regex.Reading
import TemplateVariants.Utility.Columns
import TemplateVariants.Utility.Options

/-!
# Searching lines

`grep` writes the lines of its inputs that match one of some patterns, or those that match none,
with the name of the input and the number of the line if that is asked for.
-/

namespace TemplateVariants
namespace Grep

/-- How patterns are written. -/
inductive Style where
  | basic
  | extended
  | fixed
deriving DecidableEq, Repr

structure Manner where
  style : Style := .basic
  patterns? : Option (List Octets) := none
  files : List Octets := []
  ignoresCase : Bool := false
  inverts : Bool := false
  wholeLines : Bool := false
  wholeWords : Bool := false
  counts : Bool := false
  lists? : Option Bool := none
  onlyMatches : Bool := false
  quiet : Bool := false
  silent : Bool := false
  numbers : Bool := false
  offsets : Bool := false
  names? : Option Bool := none
  most? : Option Nat := none
  before : Nat := 0
  after : Nat := 0
  recursive : Bool := false
  asText : Bool := false
  ending : Char := '\n'
  fault? : Option Octets := none

def table : OptionTable where
  shorts :=
    ("aEFGHILPRTUZchilnobqrsuvwxyz".toList.map fun c => (c, .nothing)) ++
      ("ABCDXdefm0123456789".toList.map fun c => (c, if c.isDigit then .optional else .value))
  longs :=
    [("extended-regexp", .nothing, 'E'), ("fixed-strings", .nothing, 'F'),
      ("basic-regexp", .nothing, 'G'), ("regexp", .value, 'e'), ("file", .value, 'f'),
      ("ignore-case", .nothing, 'i'), ("no-ignore-case", .nothing, 'k'),
      ("invert-match", .nothing, 'v'), ("word-regexp", .nothing, 'w'),
      ("line-regexp", .nothing, 'x'), ("count", .nothing, 'c'),
      ("files-without-match", .nothing, 'L'), ("files-with-matches", .nothing, 'l'),
      ("max-count", .value, 'm'), ("only-matching", .nothing, 'o'), ("quiet", .nothing, 'q'),
      ("silent", .nothing, 'q'), ("no-messages", .nothing, 's'), ("byte-offset", .nothing, 'b'),
      ("with-filename", .nothing, 'H'), ("no-filename", .nothing, 'h'),
      ("line-number", .nothing, 'n'), ("after-context", .value, 'A'),
      ("before-context", .value, 'B'), ("context", .value, 'C'), ("recursive", .nothing, 'r'),
      ("null-data", .nothing, 'z'), ("color", .optional, 'u'), ("colour", .optional, 'u'),
      ("text", .nothing, 'a'), ("line-buffered", .nothing, 'u')]

def splitLines (text : Octets) : List Octets :=
  List.splitOnP (· == '\n') text

def Manner.addPatterns (m : Manner) (text : Octets) : Manner :=
  { m with patterns? := some (m.patterns?.getD [] ++ splitLines text) }

def Manner.withCount (m : Manner) (value : Octets) (use : Nat → Manner) : Manner :=
  match if value.isEmpty then none else Columns.readNumber? value with
  | some n => use n
  | none =>
    { m with
      fault? := m.fault? <|> some (value ++ Text.octets ": invalid context length argument") }

def Manner.set (m : Manner) (setting : Setting) : Manner :=
  match setting.letter with
  | 'E' => { m with style := .extended }
  | 'F' => { m with style := .fixed }
  | 'G' => { m with style := .basic }
  | 'e' => m.addPatterns setting.value
  | 'f' => { m with files := m.files ++ [setting.value], patterns? := some (m.patterns?.getD []) }
  | 'i' | 'y' => { m with ignoresCase := true }
  | 'k' => { m with ignoresCase := false }
  | 'v' => { m with inverts := true }
  | 'w' => { m with wholeWords := true }
  | 'x' => { m with wholeLines := true }
  | 'c' => { m with counts := true }
  | 'l' => { m with lists? := some true }
  | 'L' => { m with lists? := some false }
  | 'o' => { m with onlyMatches := true }
  | 'q' => { m with quiet := true }
  | 's' => { m with silent := true }
  | 'n' => { m with numbers := true }
  | 'b' => { m with offsets := true }
  | 'H' => { m with names? := some true }
  | 'h' => { m with names? := some false }
  | 'r' | 'R' => { m with recursive := true }
  | 'z' => { m with ending := '\x00' }
  | 'a' => { m with asText := true }
  | 'A' => m.withCount setting.value fun n => { m with after := n }
  | 'B' => m.withCount setting.value fun n => { m with before := n }
  | 'C' => m.withCount setting.value fun n => { m with before := n, after := n }
  | 'm' =>
    match if setting.value.isEmpty then none else Columns.readNumber? setting.value with
    | some n => { m with most? := some n }
    | none => { m with fault? := m.fault? <|> some (Text.octets "invalid max count") }
  | c =>
    if c.isDigit then
      m.withCount (c :: setting.value) fun n => { m with before := n, after := n }
    else m

/-! ## Matching -/

/-- The expression that a pattern spells. -/
def Manner.read (m : Manner) (pattern : Octets) : Except Regex.ReadFault Regex.Node :=
  match m.style with
  | .fixed => .ok (pattern.foldr (fun c node => .both (.char c) node) .empty)
  | .basic => (Regex.read false pattern).map (·.node)
  | .extended => (Regex.read true pattern).map (·.node)

/-- The end of the longest match at a position that is a whole word if it has to be. -/
def Manner.stopAt? (m : Manner) (nodes : List Regex.Node) (s : Regex.Subject) (position : Nat) :
    Option Nat :=
  let stops := nodes.flatMap fun node => (Regex.ends s node { position }).map (·.position)
  let isWord (stop : Nat) : Bool :=
    !m.wholeWords || (!s.isWordBefore position && !s.isWordAt stop)
  let isLine (stop : Nat) : Bool := !m.wholeLines || (position == 0 && stop == s.size)
  (stops.filter fun stop => isWord stop && isLine stop).max?

/-- The first match from a position on, among so many positions. -/
def Manner.find? (m : Manner) (nodes : List Regex.Node) (s : Regex.Subject) :
    Nat → Nat → Option (Nat × Nat)
  | 0, _ => none
  | fuel + 1, position =>
    match m.stopAt? nodes s position with
    | some stop => some (position, stop)
    | none => m.find? nodes s fuel (position + 1)

/-- The matches in a line that are not empty; the number bounds them. -/
def Manner.findAll (m : Manner) (nodes : List Regex.Node) (s : Regex.Subject) :
    Nat → Nat → List (Nat × Octets)
  | 0, _ => []
  | fuel + 1, position =>
    match m.find? nodes s (s.size + 1 - position) position with
    | none => []
    | some (start, stop) =>
      if stop = start then m.findAll nodes s fuel (start + 1)
      else (start, s.slice start stop) :: m.findAll nodes s fuel stop

/-! ## Writing -/

/-- A line of an input: its number, its offset, whether it is selected, and its subject. -/
structure Row where
  number : Nat
  offset : Nat
  isSelected : Bool
  subject : Regex.Subject

/-- The rows of a text, of which no more are selected than is allowed. -/
def Manner.rows (m : Manner) (nodes : List Regex.Node) (text : Octets) : List Row :=
  let lines := Columns.bareLines m.ending text
  (lines.foldl
    (fun (state : List Row × Nat × Nat × Nat) line =>
      let (rows, number, offset, found) := state
      let subject : Regex.Subject := { text := line.toArray, ignoresCase := m.ignoresCase }
      let isMatch := (m.find? nodes subject (subject.size + 1) 0).isSome
      let isSelected :=
        isMatch != m.inverts && ((m.most?.map fun most => decide (found < most)).getD true)
      (⟨number, offset, isSelected, subject⟩ :: rows, number + 1, offset + line.length + 1,
        if isSelected then found + 1 else found))
    (([] : List Row), 1, 0, 0)).1.reverse

/-- What stands before a line or a part of it. -/
def Manner.label (m : Manner) (name? : Option Octets) (row : Row) (offset : Nat) (mark : Char) :
    Octets :=
  (match name? with | some name => name ++ [mark] | none => []) ++
    (if m.numbers then Nat.toDigits 10 row.number ++ [mark] else []) ++
    if m.offsets then Nat.toDigits 10 offset ++ [mark] else []

/-- The output for one row. -/
def Manner.line (m : Manner) (nodes : List Regex.Node) (name? : Option Octets) (row : Row) :
    Octets :=
  let mark := if row.isSelected then ':' else '-'
  if m.onlyMatches then
    if m.inverts ∨ !row.isSelected then []
    else
      (m.findAll nodes row.subject (row.subject.size + 1) 0).flatMap fun (start, text) =>
        m.label name? row (row.offset + start) mark ++ text ++ [m.ending]
  else m.label name? row row.offset mark ++ row.subject.text.toList ++ [m.ending]

/-- The rows with the lines around the selected ones, in runs. -/
def Manner.runs (m : Manner) (rows : List Row) : List (List Row) :=
  let selected := (rows.filter (·.isSelected)).map (·.number)
  let lastAllowed := (m.most?.bind fun _ => selected.getLast?).getD 0
  let isNear (n : Nat) : Bool :=
    selected.any fun k => decide (k ≤ n + m.before) && decide (n ≤ k + m.after)
  let shown := rows.filter fun row =>
    row.isSelected ||
      (isNear row.number && (lastAllowed == 0 || decide (row.number ≤ lastAllowed + m.after)))
  let add (runs : List (List Row)) (row : Row) : List (List Row) :=
    match runs with
    | (other :: run) :: runs =>
      if other.number + 1 = row.number then (row :: other :: run) :: runs
      else [row] :: (other :: run) :: runs
    | runs => [row] :: runs
  ((shown.foldl add []).map List.reverse).reverse

/-- Whether a text is not shown by lines because it has a NUL. -/
def Manner.isHidden (m : Manner) (text : Octets) : Bool :=
  text.contains '\x00' && m.ending != '\x00' && !m.quiet && !m.counts && !m.asText &&
    m.lists?.isNone

/-- The output for an input, and whether a line has been selected. -/
def Manner.search (m : Manner) (nodes : List Regex.Node) (name : Octets) (withName : Bool)
    (text : Octets) : Octets × Bool :=
  let rows := m.rows nodes text
  let selected := rows.filter (·.isSelected)
  let name? := if withName then some name else none
  let found := !selected.isEmpty
  let output :=
    if m.quiet || m.isHidden text then []
    else
      match m.lists? with
      | some wanted => if found = wanted then name ++ ['\n'] else []
      | none =>
        if m.counts then
          (match name? with | some name => name ++ [':'] | none => []) ++
            Nat.toDigits 10 selected.length ++ ['\n']
        else if m.before = 0 ∧ m.after = 0 then selected.flatMap (m.line nodes name?)
        else
          List.intercalate (if m.onlyMatches then [] else ['-', '-', '\n'])
            ((m.runs rows).map fun run => run.flatMap (m.line nodes name?))
  (output, match m.lists? with | some false => !found | _ => found)

/-! ## Inputs -/

/-- The files that an operand leads to, by their names; a directory stands for all that is in it. -/
def Manner.expand (m : Manner) (files : FileTree) (operand : Octets) : List Octets :=
  match m.recursive, files.locate (pathOfOctets operand) with
  | true, .ok place =>
    if files.isDirectoryAt place then
      (files.below place).filterMap fun other =>
        if files.isFileAt other then
          let start := if operand.getLast? = some '/' then operand.dropLast else operand
          some ((other.drop place.length).foldl (fun path name => path ++ '/' :: Text.octets name)
            start)
        else none
    else [operand]
  | _, _ => [operand]

/-- What is said of a start of an expression that repeats nothing. -/
def warnings (m : Manner) (pattern : Octets) : List Octets :=
  match m.style, pattern with
  | .extended, '*' :: _ => [Text.octets "warning: * at start of expression"]
  | .extended, '+' :: _ => [Text.octets "warning: + at start of expression"]
  | .extended, '?' :: _ => [Text.octets "warning: ? at start of expression"]
  | _, _ => []

/-- Searches the inputs. -/
def Manner.run (m : Manner) (call : Call) (nodes : List Regex.Node) (operands : List Octets) :
    Reply :=
  let operands :=
    if operands.isEmpty ∧ !m.recursive then [['-']] else operands
  let withNames := m.names?.getD (decide (1 < operands.length) || m.recursive)
  let expanded :=
    if operands.isEmpty then (m.expand call.files ['.']).map (·.drop 2)
    else operands.flatMap (m.expand call.files)
  let step (state : Reply × Bool × Bool) (operand : Octets) : Reply × Bool × Bool :=
    let (reply, found, failed) := state
    let name := if operand = ['-'] then Text.octets "(standard input)" else operand
    let text? : Except StorageFault Octets :=
      if operand = ['-'] then .ok reply.unread else call.read operand
    match text? with
    | .ok text =>
      let reply := if operand = ['-'] then { reply with unread := [] } else reply
      let (output, isFound) := m.search nodes name withNames text
      let reply :=
        if m.isHidden text ∧ isFound then
          { reply.complain call (name ++ Text.octets ": binary file matches") with
            status := reply.status }
        else reply
      (reply.say output, found || isFound, failed)
    | .error fault =>
      let reply :=
        if m.silent then reply
        else reply.complain call (operand ++ Text.octets (": " ++ fault.reason))
      (reply, found, failed || fault != .isDirectory)
  let (reply, found, failed) := expanded.foldl step (call.done, false, false)
  { reply with status := if failed ∧ !(found ∧ m.quiet) then 2 else if found then 0 else 1 }

def usage : Octets :=
  Text.octets
    "Usage: grep [OPTION]... PATTERNS [FILE]...\nTry 'grep --help' for more information.\n"

/-- The utility with the way in which its patterns are written. -/
def withStyle (style : Style) : Utility := fun call =>
  let read := table.read call.arguments
  let m := read.settings.foldl Manner.set { style }
  let operands := read.operands
  let (patterns?, operands) :=
    match m.patterns?, operands with
    | some patterns, operands => (some patterns, operands)
    | none, pattern :: operands => (some (splitLines pattern), operands)
    | none, [] => (none, [])
  match read.fault?, m.fault?, patterns? with
  | some what, _, _ => { call.done 2 with errors := call.complaint what ++ usage }
  | none, some what, _ => call.refuse what 2
  | none, none, none => { call.done 2 with errors := usage }
  | none, none, some patterns =>
    let fromFiles := m.files.mapM fun path =>
      match if path = ['-'] then Except.ok call.input else call.read path with
      | .ok text => Except.ok (Columns.bareLines '\n' text)
      | .error fault => .error (path ++ Text.octets (": " ++ fault.reason))
    match fromFiles with
    | .error what => call.refuse what 2
    | .ok more =>
      let patterns := patterns ++ more.flatten
      match patterns.mapM m.read with
      | .error fault => call.refuse (Text.octets fault.message) 2
      | .ok nodes =>
        let isIdle := m.most? = some 0 ∨
          (patterns = [[]] ∧ m.inverts ∧ !m.wholeLines ∧ !m.wholeWords)
        let reply :=
          if isIdle ∧ m.lists? ≠ some false then call.done 1 else m.run call nodes operands
        { reply with
          errors := (patterns.flatMap (warnings m)).flatMap call.complaint ++ reply.errors }

end Grep

def grep : Utility :=
  Grep.withStyle .basic

def egrep : Utility :=
  Grep.withStyle .extended

def fgrep : Utility :=
  Grep.withStyle .fixed

end TemplateVariants
