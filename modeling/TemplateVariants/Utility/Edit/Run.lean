import TemplateVariants.Utility.Columns
import TemplateVariants.Utility.Edit.Script
import TemplateVariants.Utility.Options

/-!
# Editing streams

`sed` takes the lines of its input one after the other into its space, runs a script on each, and
writes what is in the space then.
-/

namespace TemplateVariants
namespace Edit

/-- How far a range of lines has come: it is not open, it ends with a line, or its end is searched
for. -/
inductive Span where
  | closed
  | until (line : Nat)
  | open
deriving DecidableEq, Repr

/-- A line of the input: its text, whether something ends it, and the name of its file. -/
structure Line where
  text : Octets
  isEnded : Bool
  name : Octets

/-- The state of an editor. `output` is held backwards, and `lacksEnd` tells whether the last line
of it lacks its end; `queue` is written after the line at hand, the latest first; the spans belong
to the commands; `opened` are the files that have been written to, and `readers` how much is left of
those that are read by lines. -/
structure Editor where
  script : Array Command
  isQuiet : Bool := false
  ending : Char := '\n'
  space : Octets := []
  held : Octets := []
  current : Line := ⟨[], true, []⟩
  number : Nat := 0
  rest : List Line := []
  output : Octets := []
  lacksEnd : Bool := false
  queue : List Octets := []
  replaced : Bool := false
  spans : List (Nat × Span) := []
  last? : Option Expression := none
  files : FileTree
  opened : List (Octets × Octets) := []
  readers : List (Octets × List Octets) := []
  errors : List Octets := []

/-- How the script has ended on a line: the next line comes, perhaps without writing the space, the
script starts again on what is in the space, or the editor ends. -/
inductive Ending where
  | cycle (writes : Bool)
  | again
  | quit (status : Nat) (writes : Bool)

namespace Editor

/-! ## Writing -/

/-- Writes a text to the output, after the end of a line that lacks it. -/
def emit (e : Editor) (text : Octets) : Editor :=
  let before := if e.lacksEnd then [e.ending] else []
  { e with output := text.reverse ++ before ++ e.output, lacksEnd := false }

/-- Writes a text as a line; the last line of the input may lack its end. -/
def emitLine (e : Editor) (text : Octets) : Editor :=
  if e.current.isEnded then e.emit (text ++ [e.ending])
  else { e.emit text with lacksEnd := true }

/-- Writes a line to a file; some paths stand for the output. -/
def writeTo (e : Editor) (path text : Octets) : Editor :=
  if path = "/dev/stdout".toList then e.emitLine text
  else
    { e with
      opened := e.opened.map fun (other, written) =>
        if other = path then (other, written ++ text ++ ['\n']) else (other, written) }

/-- Writes what waits to be written after the line. -/
def flush (e : Editor) : Editor :=
  let e := e.queue.reverse.foldl
    (fun e text => if text.isEmpty then e else e.emit text) { e with queue := [] }
  e

def contents (e : Editor) (path : Octets) : Octets :=
  match e.files.readBytes (pathOfOctets path) with
  | .ok bytes => Text.octetsOfBytes bytes
  | .error _ => []

/-- Takes the next line of a file that is read by lines. -/
def nextOf (e : Editor) (path : Octets) : Editor :=
  let lines := (e.readers.lookup path).getD (Columns.bareLines '\n' (e.contents path))
  match lines with
  | [] => { e with readers := (path, []) :: e.readers }
  | line :: lines =>
    { e with queue := (line ++ ['\n']) :: e.queue, readers := (path, lines) :: e.readers }

/-! ## Selecting -/

def isLast (e : Editor) : Bool :=
  e.rest.isEmpty

/-- The last expression that has been used is taken where there is none. -/
def expression (e : Editor) (expression? : Option Expression) : Option Expression :=
  expression? <|> e.last?

def subject (x : Expression) (text : Octets) : Regex.Subject :=
  { text := text.toArray, ignoresCase := x.ignoresCase, byLines := x.byLines }

/-- Whether the line at hand is at an address. -/
def isAt (e : Editor) (a : Address) : Bool × Editor :=
  match a with
  | .line n => (e.number == n, e)
  | .last => (e.isLast, e)
  | .every first step => (decide (first ≤ e.number) && (e.number - first) % step == 0, e)
  | .matching expression? =>
    match e.expression expression? with
    | none => (false, { e with errors := ["no previous regular expression".toList] })
    | some x =>
      ((Regex.search x.pattern.node (subject x e.space) 0).isSome, { e with last? := some x })

def setSpan (e : Editor) (index : Nat) (span : Span) : Editor :=
  { e with spans := (index, span) :: e.spans.filter (·.1 != index) }

/-- What becomes of a range when its first line has come. -/
def openSpan (e : Editor) (stop : Stop) : Span :=
  match stop with
  | .address (.line n) => if n ≤ e.number then .closed else .until n
  | .address _ => .open
  | .after lines => if lines = 0 then .closed else .until (e.number + lines)
  | .multiple n =>
    if n = 0 ∨ e.number % n = 0 then .closed else .until ((e.number / n + 1) * n)

/-- Whether a command is about the line at hand. -/
def selects (e : Editor) (index : Nat) (s : Selector) : Bool × Editor :=
  match s.first?, s.stop? with
  | none, _ => (true, e)
  | some first, none => e.isAt first
  | some first, some stop =>
    let span :=
      match e.spans.lookup index, first with
      | some span, _ => span
      | none, .line 0 => .open
      | none, _ => .closed
    match span with
    | .until n =>
      if e.number < n then (true, e)
      else if e.number = n then (true, e.setSpan index .closed)
      else
        let (found, e) := (e.setSpan index .closed).isAt first
        if found then (true, e.setSpan index (e.openSpan stop)) else (false, e)
    | .open =>
      match stop with
      | .address a =>
        let (found, e) := e.isAt a
        (true, e.setSpan index (if found then .closed else .open))
      | _ => (true, e.setSpan index .closed)
    | .closed =>
      let (found, e) := e.isAt first
      if found then (true, e.setSpan index (e.openSpan stop)) else (false, e)

/-- Whether the range of a command goes on after the line at hand. -/
def goesOn (e : Editor) (index : Nat) : Bool :=
  match e.spans.lookup index with
  | some .open => true
  | some (.until n) => decide (e.number < n)
  | _ => false

/-! ## Replacing -/

/-- A replacement as far as it has been made, backwards, and how letters are changed. -/
structure Made where
  text : Octets := []
  casing : Casing := .plain
  next? : Option Casing := none

def Made.add (m : Made) (cs : Octets) : Made :=
  cs.foldl
    (fun m c =>
      let casing := m.next?.getD m.casing
      let c :=
        match casing with
        | .upper | .upperNext => c.toUpper
        | .lower | .lowerNext => c.toLower
        | .plain => c
      { m with text := c :: m.text, next? := none })
    m

/-- The text that a replacement makes of a match. -/
def replacement (s : Regex.Subject) (start : Nat) (stop : Regex.Place) (pieces : List Piece) :
    Octets :=
  let add (m : Made) (piece : Piece) : Made :=
    match piece with
    | .text cs => m.add cs
    | .group 0 => m.add (s.slice start stop.position)
    | .group n =>
      match stop.group? n with
      | some (a, b) => m.add (s.slice a b)
      | none => m
    | .casing .upperNext => { m with next? := some .upperNext }
    | .casing .lowerNext => { m with next? := some .lowerNext }
    | .casing c => { m with casing := c, next? := none }
  (pieces.foldl add {}).text.reverse

/-- The text after a substitution from a position on, backwards, and whether it has replaced
something; `n` is the number of the next match, and `isAfter` tells whether a match ends at the
position. -/
def replaceFrom (u : Substitution) (node : Regex.Node) (s : Regex.Subject) :
    Nat → Nat → Nat → Bool → Octets → Bool → Octets × Bool
  | 0, _, _, _, before, done => (before, done)
  | fuel + 1, position, n, isAfter, before, done =>
    let rest := (s.slice position s.size).reverse
    match Regex.search node s position with
    | none => (rest ++ before, done)
    | some (start, stop) =>
      let skipped := (s.slice position start).reverse ++ before
      let isEmpty := stop.position = start
      if isEmpty ∧ isAfter ∧ start = position then
        match s.text[position]? with
        | none => (before, done)
        | some c => replaceFrom u node s fuel (position + 1) n false (c :: before) done
      else
        let isTaken := if u.isGlobal then u.number ≤ n else n = u.number
        let made :=
          if isTaken then replacement s start stop u.replacement else s.slice start stop.position
        let before := made.reverse ++ skipped
        let done := done || isTaken
        if isTaken ∧ !u.isGlobal then ((s.slice stop.position s.size).reverse ++ before, done)
        else if isEmpty then
          match s.text[start]? with
          | none => (before, done)
          | some c => replaceFrom u node s fuel (start + 1) (n + 1) false (c :: before) done
        else replaceFrom u node s fuel stop.position (n + 1) true before done

def substitute (e : Editor) (u : Substitution) : Editor :=
  match e.expression u.expression? with
  | none => { e with errors := ["no previous regular expression".toList] }
  | some x =>
    let s := subject x e.space
    let (text, done) := replaceFrom u x.pattern.node s (s.size + 2) 0 1 false [] false
    let e := { e with last? := some x }
    if !done then e
    else
      let e := { e with space := text.reverse, replaced := true }
      let e := if u.prints then e.emitLine e.space else e
      match u.path? with
      | some path => e.writeTo path e.space
      | none => e

/-! ## Showing -/

/-- A character as it is shown. -/
def shown (c : Char) : Octets :=
  match c with
  | '\\' => ['\\', '\\']
  | '\x07' => ['\\', 'a']
  | '\x08' => ['\\', 'b']
  | '\x0c' => ['\\', 'f']
  | '\n' => ['\\', 'n']
  | '\r' => ['\\', 'r']
  | '\t' => ['\\', 't']
  | '\x0b' => ['\\', 'v']
  | _ =>
    if ' ' ≤ c ∧ c ≤ '~' then [c]
    else
      let digits := Nat.toDigits 8 c.toNat
      '\\' :: List.replicate (3 - digits.length) '0' ++ digits

/-- A text as it is shown, in lines of limited width. -/
def unambiguous (most : Nat) (text : Octets) : Octets :=
  let add (state : Octets × Nat) (c : Char) : Octets × Nat :=
    let (before, width) := state
    let mark := shown c
    if 1 < most ∧ most < width + mark.length + 1 then
      (mark.reverse ++ '\n' :: '\\' :: before, mark.length)
    else (mark.reverse ++ before, width + mark.length)
  (text.foldl add ([], 0)).1.reverse ++ ['$', '\n']

/-! ## Running -/

/-- Takes the next line of the input into hand. -/
def advance? (e : Editor) : Option (Line × Editor) :=
  match e.rest with
  | [] => none
  | line :: rest => some (line, { e with current := line, number := e.number + 1, rest })

/-- The part of the space before its first line feed. -/
def firstLine (e : Editor) : Octets :=
  e.space.takeWhile (· ≠ '\n')

/-- Runs the script from a command on; the first number bounds the steps. -/
def run : Nat → Nat → Editor → Ending × Editor
  | 0, _, e => (.quit 4 false, e)
  | fuel + 1, index, e =>
    if !e.errors.isEmpty then (.quit 1 false, e)
    else
      match e.script[index]? with
      | none => (.cycle true, e)
      | some c =>
        let (found, e) := e.selects index c.selector
        if found == c.selector.isNegated then
          match c.action with
          | .block stop => run fuel (stop + 0) e
          | _ => run fuel (index + 1) e
        else
          let go (e : Editor) : Ending × Editor := run fuel (index + 1) e
          match c.action with
          | .block _ | .nothing => go e
          | .append text => go { e with queue := text :: e.queue }
          | .insert text => go (e.emit text)
          | .change text =>
            let e := if e.goesOn index ∧ !c.selector.isNegated then e else e.emit text
            (.cycle false, { e with space := [] })
          | .jump _ target => run fuel target e
          | .jumpIf _ target =>
            if e.replaced then run fuel target { e with replaced := false } else go e
          | .jumpUnless _ target =>
            if e.replaced then go { e with replaced := false } else run fuel target e
          | .delete => (.cycle false, { e with space := [] })
          | .deleteFirst =>
            if e.space.contains '\n' then
              (.again, { e with space := e.space.drop (e.firstLine.length + 1) })
            else (.cycle false, { e with space := [] })
          | .hold => go { e with held := e.space }
          | .holdMore => go { e with held := e.held ++ '\n' :: e.space }
          | .fetch => go { e with space := e.held }
          | .fetchMore => go { e with space := e.space ++ '\n' :: e.held }
          | .exchange => go { e with space := e.held, held := e.space }
          | .show width => go (e.emit (unambiguous width e.space))
          | .next =>
            if e.isLast then (.quit 0 true, e)
            else
              let e := if e.isQuiet then e else e.emitLine e.space
              match e.flush.advance? with
              | some (line, e) => go { e with space := line.text }
              | none => (.quit 0 false, e)
          | .nextMore =>
            if e.isLast then (.quit 0 true, e)
            else
              match e.flush.advance? with
              | some (line, e) => go { e with space := e.space ++ e.ending :: line.text }
              | none => (.quit 0 true, e)
          | .print => go (e.emitLine e.space)
          | .printFirst => go (e.emit (e.firstLine ++ [e.ending]))
          | .quit status => (.quit status true, e)
          | .quitSilently status => (.quit status false, e)
          | .readFile path =>
            go { e with queue := e.contents path :: e.queue }
          | .readLine path => go (e.nextOf path)
          | .writeFile path => go (e.writeTo path e.space)
          | .writeFirst path => go (e.writeTo path e.firstLine)
          | .substitute u => go (e.substitute u)
          | .translate pairs =>
            go { e with space := e.space.map fun c => (pairs.lookup c).getD c }
          | .number => go (e.emit (Nat.toDigits 10 e.number ++ ['\n']))
          | .empty => go { e with space := [] }
          | .fileName => go (e.emit (e.current.name ++ ['\n']))

/-- How many commands may run on a line, and how many lines there may be. -/
def maxSteps : Nat := 1 <<< 24

/-- Runs the script on one line after the other; gives the status. The number bounds them, and
`isAgain` tells whether the space is kept. -/
def cycles : Nat → Bool → Editor → Nat × Editor
  | 0, _, e => (4, e)
  | fuel + 1, isAgain, e =>
    let start? : Option Editor :=
      if isAgain then some e
      else e.advance?.map fun (line, e) => { e with space := line.text }
    match start? with
    | none => (0, e)
    | some e =>
      let finish (e : Editor) (writes : Bool) : Editor :=
        (if writes ∧ !e.isQuiet then e.emitLine e.space else e).flush
      match run maxSteps 0 { e with replaced := if isAgain then e.replaced else false } with
      | (.cycle writes, e) => cycles fuel false (finish e writes)
      | (.again, e) => cycles fuel true (finish e false)
      | (.quit status writes, e) => (status, finish e writes)

end Editor

/-! ## The utility -/

structure Manner where
  isQuiet : Bool := false
  isExtended : Bool := false
  isSeparate : Bool := false
  suffix? : Option Octets := none
  ending : Char := '\n'
  scripts : List (Octets × Bool) := []

def table : OptionTable where
  shorts := [('n', .nothing), ('e', .value), ('f', .value), ('E', .nothing), ('r', .nothing),
    ('i', .optional), ('l', .value), ('s', .nothing), ('u', .nothing), ('z', .nothing)]
  longs :=
    [("quiet", .nothing, 'n'), ("silent", .nothing, 'n'), ("expression", .value, 'e'),
      ("file", .value, 'f'), ("regexp-extended", .nothing, 'E'), ("in-place", .optional, 'i'),
      ("line-length", .value, 'l'), ("separate", .nothing, 's'), ("unbuffered", .nothing, 'u'),
      ("null-data", .nothing, 'z'), ("posix", .nothing, 'u')]

def Manner.set (m : Manner) (setting : Setting) : Manner :=
  match setting.letter with
  | 'n' => { m with isQuiet := true }
  | 'E' | 'r' => { m with isExtended := true }
  | 's' => { m with isSeparate := true }
  | 'i' => { m with suffix? := some setting.value, isSeparate := true }
  | 'z' => { m with ending := '\x00' }
  | 'e' => { m with scripts := m.scripts ++ [(setting.value, false)] }
  | 'f' => { m with scripts := m.scripts ++ [(setting.value, true)] }
  | _ => m

/-- The lines of a text. -/
def linesFrom (ending : Char) (name text : Octets) : List Line :=
  (linesOf ending text).map fun line =>
    if line.getLast? = some ending then ⟨line.dropLast, true, name⟩ else ⟨line, false, name⟩

/-- The paths that a script writes to. -/
def writtenPaths (script : Array Command) : List Octets :=
  (script.toList.filterMap fun c =>
    match c.action with
    | .writeFile path | .writeFirst path => some path
    | .substitute s => s.path?
    | _ => none).eraseDups.filter (· ≠ "/dev/stdout".toList)

/-- The tree with what has been written to files. -/
def deliver (files : FileTree) (opened : List (Octets × Octets)) : FileTree :=
  opened.foldl
    (fun files (path, text) =>
      match files.putFile (pathOfOctets path) (Text.bytesOfOctets text) with
      | .ok files => files
      | .error _ => files)
    files

/-- The message for a fault in a script that is given in parts. -/
def faultText (parts : List Octets) (fault : ScriptFault) (taken : Nat) : Octets :=
  let rec locate (number taken : Nat) : List Octets → Nat × Nat
    | [] | [_] => (number, taken)
    | part :: parts =>
      if taken ≤ part.length then (number, taken)
      else locate (number + 1) (taken - part.length - 1) parts
  let (number, column) := locate 1 taken parts
  let place (n k : Nat) : Octets :=
    Text.octets ("-e expression #" ++ Nat.repr n ++ ", char " ++ Nat.repr k ++ ": ")
  match fault with
  | .here what => place number column ++ Text.octets what
  | .nowhere what => place number 0 ++ Text.octets what
  | .label name => Text.octets "can't find label for jump to \x60" ++ name ++ ['\'']

def usage : Octets :=
  Text.octets "Usage: sed [OPTION]... \x7bscript-only-if-no-other-script\x7d [input-file]...\n\n"

/-- Runs a script on files of which each is edited in its place. -/
def editFiles (m : Manner) (call : Call) (suffix : Octets) (start : FileTree → Editor)
    (operands : List Octets) : Reply :=
  operands.foldl
    (fun reply operand =>
      let path := pathOfOctets operand
      if reply.status = 4 then reply
      else
        match reply.files.locate path, reply.files.readBytes path with
        | .ok place, .ok bytes =>
          let lines := linesFrom m.ending operand (Text.octetsOfBytes bytes)
          let (status, e) :=
            Editor.cycles Editor.maxSteps false { start reply.files with rest := lines }
          let remaining := e.rest.flatMap fun line =>
            line.text ++ if line.isEnded then [m.ending] else []
          let written := e.output.reverse ++ remaining
          let files := deliver e.files e.opened
          let files :=
            if suffix.isEmpty then files
            else
              let copy := if suffix.contains '*' then
                suffix.flatMap fun c => if c = '*' then operand else [c] else operand ++ suffix
              match files.putFile (pathOfOctets copy) bytes with
              | .ok files => files
              | .error _ => files
          { reply with
            files := files.put place (.file (Text.bytesOfOctets written))
            status := if status = 0 then reply.status else status }
        | .ok _, .error .isDirectory =>
          reply.complain call (Text.octets "couldn't edit " ++ operand ++
            Text.octets ": not a regular file") 4
        | _, _ =>
          reply.complain call (Text.octets "can't read " ++ operand ++
            Text.octets (": " ++ StorageFault.reason .missing)) 2)
    call.done

/-- Runs a script on the inputs. -/
def editStream (m : Manner) (call : Call) (start : FileTree → Editor) (operands : List Octets) :
    Reply :=
  let inputs := call.inputs operands fun operand reason =>
    if reason = StorageFault.reason .isDirectory then
      Text.octets "read error on " ++ operand ++ Text.octets (": " ++ reason)
    else Text.octets "can't read " ++ operand ++ Text.octets (": " ++ reason)
  let lines := inputs.texts.map fun (name, text) => linesFrom m.ending name text
  let joined := lines.flatten
  let ended := joined.mapIdx fun i line =>
    if i + 1 = joined.length then line else { line with isEnded := true }
  let runs := if m.isSeparate then lines else [ended]
  let begin_ : Editor := start call.files
  let (status, e) := runs.foldl
    (fun (state : Option Nat × Editor) lines =>
      match state with
      | (some status, e) => (some status, e)
      | (none, e) =>
        let (status, e) := Editor.cycles Editor.maxSteps false { e with rest := lines, number := 0 }
        (if status = 0 ∧ e.rest.isEmpty then none else some status, e))
    (none, begin_)
  let reply := call.replyWith inputs e.output.reverse
  let failed := if inputs.complaints.isEmpty then 0 else 2
  let complaints := e.errors.flatMap fun what =>
    call.complaint (Text.octets "-e expression #1, char 0: " ++ what)
  { reply with
    errors := reply.errors ++ complaints
    status := match status with | some (n + 1) => n + 1 | _ => failed
    files := deliver e.files e.opened }

end Edit

open Edit in
def sed : Utility := fun call =>
  let read := table.read call.arguments
  let m := read.settings.foldl Manner.set {}
  let (scripts, operands) :=
    match m.scripts, read.operands with
    | [], script :: operands => ([(script, false)], operands)
    | scripts, operands => (scripts, operands)
  match read.fault? with
  | some what => { call.done 1 with errors := call.complaint what ++ usage }
  | none =>
    if scripts.isEmpty then { call.done 1 with errors := usage }
    else
      let parts := scripts.mapM fun (text, isPath) =>
        if !isPath then Except.ok text
        else
          match if text = ['-'] then Except.ok call.input else call.read text with
          | .ok text => .ok (if text.getLast? = some '\n' then text.dropLast else text)
          | .error fault =>
            .error (Text.octets "couldn't open file " ++ text ++ Text.octets (": " ++ fault.reason))
      match parts with
      | .error what => call.refuse what
      | .ok parts =>
        let whole := List.intercalate ['\n'] parts
        match readScript m.isExtended whole with
        | .error (fault, taken) => call.refuse (faultText parts fault taken)
        | .ok script =>
          let isQuiet := m.isQuiet || whole.take 3 == ['#', 'n', '\n'] || whole == ['#', 'n']
          let start (files : FileTree) : Editor :=
            { script, isQuiet, ending := m.ending, files
              opened := (writtenPaths script).map fun path => (path, []) }
          match m.suffix? with
          | some suffix => editFiles m call suffix start operands
          | none => editStream m call start operands

end TemplateVariants
