import TemplateVariants.Utility.Options
import TemplateVariants.Utility.Quoting

/-!
# Running other utilities

`env` runs a utility in a changed environment, or writes the environment; `xargs` runs a utility
with arguments that it reads from its input.
-/

namespace TemplateVariants
namespace Running

/-- Runs what a command leads to as a part of a call. -/
def run (find : Finder) (call : Call) (reply : Reply) (environment : List (String × Octets))
    (name : Octets) (arguments : List Octets) (input : Octets) : Except StorageFault Reply :=
  let directories := (environment.lookup "PATH").getD defaultDirectories
  (find.search directories reply.files name).map fun (_, utility) =>
    utility
      { call with
        name := pathOfOctets name
        arguments, input, environment
        files := reply.files }

/-- The status for a utility that cannot be run. -/
def statusOf (fault : StorageFault) : Nat :=
  if fault = .missing then 127 else 126

/-! ## Environments -/

structure Environment where
  isEmpty : Bool := false
  removed : List Octets := []
  directory? : Option Octets := none
  ending : Char := '\n'
  split : List Octets := []

def environmentTable : OptionTable where
  shorts := [('i', .nothing), ('0', .nothing), ('u', .value), ('C', .value), ('S', .value),
    ('v', .nothing)]
  longs :=
    [("ignore-environment", .nothing, 'i'), ("null", .nothing, '0'), ("unset", .value, 'u'),
      ("chdir", .value, 'C'), ("split-string", .value, 'S')]
  comeFirst := true

/-- The words of a text between blanks. -/
def wordsOf (text : Octets) : List Octets :=
  (List.splitOnP (fun c => c == ' ' || c == '\t' || c == '\n') text).filter (!·.isEmpty)

def Environment.set (e : Environment) (setting : Setting) : Environment :=
  match setting.letter with
  | 'i' => { e with isEmpty := true }
  | '0' => { e with ending := '\x00' }
  | 'u' => { e with removed := setting.value :: e.removed }
  | 'C' => { e with directory? := some setting.value }
  | 'S' => { e with split := e.split ++ wordsOf setting.value }
  | _ => e

/-- The environment with a variable set. -/
def assign (environment : List (String × Octets)) (assignment : Octets) : List (String × Octets) :=
  let name := assignment.takeWhile (· ≠ '=')
  let entry := (String.ofList name, assignment.drop (name.length + 1))
  if (environment.lookup entry.1).isSome then
    environment.map fun other => if other.1 = entry.1 then entry else other
  else environment ++ [entry]

/-! ## Arguments from the input -/

structure Batches where
  size? : Option Nat := none
  lines? : Option Nat := none
  place? : Option Octets := none
  delimiter? : Option Char := none
  traces : Bool := false
  skipsEmpty : Bool := false

def batchTable : OptionTable where
  shorts := [('0', .nothing), ('d', .value), ('I', .value), ('i', .optional), ('L', .value),
    ('n', .value), ('P', .value), ('r', .nothing), ('t', .nothing), ('x', .nothing), ('s', .value),
    ('E', .value), ('p', .nothing), ('o', .nothing)]
  longs :=
    [("null", .nothing, '0'), ("delimiter", .value, 'd'), ("replace", .optional, 'i'),
      ("max-lines", .value, 'L'), ("max-args", .value, 'n'), ("max-procs", .value, 'P'),
      ("no-run-if-empty", .nothing, 'r'), ("verbose", .nothing, 't'), ("exit", .nothing, 'x')]
  comeFirst := true

def delimiterOf (text : Octets) : Char :=
  match text with
  | ['\\', 'n'] => '\n'
  | ['\\', 't'] => '\t'
  | ['\\', '0'] => '\x00'
  | c :: _ => c
  | [] => '\x00'

def Batches.set (b : Batches) (setting : Setting) : Batches :=
  match setting.letter with
  | '0' => { b with delimiter? := some '\x00' }
  | 'd' => { b with delimiter? := some (delimiterOf setting.value) }
  | 'I' => { b with place? := some setting.value, size? := none }
  | 'i' =>
    { b with place? := some (if setting.value.isEmpty then ['\x7b', '\x7d'] else setting.value) }
  | 'L' => { b with lines? := numberOf? setting.value }
  | 'n' => { b with size? := numberOf? setting.value, place? := none }
  | 't' => { b with traces := true }
  | 'r' => { b with skipsEmpty := true }
  | _ => b

/-- Words read from a text, line by line: the words of the line at hand and the lines before it,
backwards, and the word at hand if there is one. -/
structure Parsed where
  lines : List (List Octets) := []
  words : List Octets := []
  word? : Option Octets := none

def Parsed.endWord (p : Parsed) : Parsed :=
  match p.word? with
  | some word => { p with words := word.reverse :: p.words, word? := none }
  | none => p

def Parsed.endLine (p : Parsed) : Parsed :=
  let p := p.endWord
  if p.words.isEmpty then p else { p with lines := p.words.reverse :: p.lines, words := [] }

def Parsed.add (p : Parsed) (cs : Octets) : Parsed :=
  { p with word? := some (cs.reverse ++ p.word?.getD []) }

/-- The words of a text, where quotes and backslashes keep blanks in words; none if a quote is not
closed, which is named. -/
def parse : Nat → Parsed → Octets → Except Char Parsed
  | 0, p, _ => .ok p.endLine
  | _, p, [] => .ok p.endLine
  | fuel + 1, p, c :: rest =>
    if c = '\n' then parse fuel p.endLine rest
    else if c = ' ' ∨ c = '\t' then parse fuel p.endWord rest
    else if c = '\\' then
      match rest with
      | d :: rest => parse fuel (p.add [d]) rest
      | [] => .ok p.endLine
    else if c = '"' ∨ c = '\'' then
      let inside := rest.takeWhile fun d => d ≠ c ∧ d ≠ '\n'
      match rest.drop inside.length with
      | d :: rest => if d = c then parse fuel (p.add inside) rest else .error c
      | [] => .error c
    else parse fuel (p.add [c]) rest

/-- The words of the input, by lines. -/
def Batches.read (b : Batches) (input : Octets) : Except Char (List (List Octets)) :=
  match b.delimiter?, b.place? with
  | some c, _ =>
    let parts := List.splitOnP (· == c) input
    let parts := if parts.getLast? = some [] then parts.dropLast else parts
    .ok (parts.map ([·]))
  | none, some _ =>
    let lines := (List.splitOnP (· == '\n') input).map fun line =>
      line.dropWhile fun c => c = ' ' ∨ c = '\t'
    .ok ((lines.filter (!·.isEmpty)).map ([·]))
  | none, none => (parse (input.length + 1) {} input).map fun p => p.lines.reverse

/-- Parts of a list of so many members. -/
def chunks {α : Type} (size : Nat) : Nat → List α → List (List α)
  | 0, _ => []
  | _, [] => []
  | fuel + 1, members => members.take size :: chunks size fuel (members.drop size)

/-- A text with another in each place of a mark; the number bounds it. -/
def fill (mark text : Octets) : Nat → Octets → Octets
  | 0, rest => rest
  | _, [] => []
  | fuel + 1, c :: rest =>
    if !mark.isEmpty ∧ mark.isPrefixOf (c :: rest) then
      text ++ fill mark text fuel ((c :: rest).drop mark.length)
    else c :: fill mark text fuel rest

/-- The commands that are run for the words of the input. -/
def Batches.commands (b : Batches) (command : List Octets) (lines : List (List Octets)) :
    List (List Octets) :=
  match b.place? with
  | some mark =>
    lines.map fun line => command.map fun word => fill mark line.flatten (word.length + 1) word
  | none =>
    let words := lines.flatten
    if words.isEmpty then (if b.skipsEmpty then [] else [command])
    else
      match b.lines?, b.size? with
      | some n, _ => (chunks (max n 1) lines.length lines).map fun part => command ++ part.flatten
      | none, some n => (chunks (max n 1) words.length words).map (command ++ ·)
      | none, none => [command ++ words]

/-- Whether a command of a batch has ended all, and the reply so far. -/
def step (find : Finder) (call : Call) (b : Batches) (state : Reply × Bool)
    (command : List Octets) : Reply × Bool :=
  let (reply, stopped) := state
  match stopped, command with
  | true, _ | _, [] => (reply, stopped)
  | false, name :: arguments =>
    let errors := if b.traces then List.intercalate [' '] command ++ ['\n'] else []
    let reply := { reply with errors := reply.errors ++ errors }
    match run find call reply call.environment name arguments [] with
    | .error fault =>
      (reply.complain call (name ++ Text.octets (": " ++ fault.reason)) (statusOf fault), true)
    | .ok inner =>
      let next : Reply :=
        { reply with
          output := reply.output ++ inner.output
          errors := reply.errors ++ inner.errors
          duration := reply.duration + inner.duration
          sent := reply.sent ++ inner.sent
          files := { inner.files with home := call.files.home } }
      if inner.status = 255 then
        (next.complain call (name ++ Text.octets ": exited with status 255; aborting") 124, true)
      else (if inner.status = 0 then next else { next with status := 123 }, false)

end Running

open Running in
def env (find : Finder) : Utility := fun call =>
  let read := environmentTable.read call.arguments
  let e := read.settings.foldl Environment.set {}
  match read.fault? with
  | some what => call.refuseUsage what 125
  | none =>
    let operands := e.split ++ read.operands
    let (isBare, operands) :=
      match operands with
      | ['-'] :: rest => (true, rest)
      | rest => (false, rest)
    let assignments := operands.takeWhile (·.contains '=')
    let start :=
      if e.isEmpty ∨ isBare then []
      else call.environment.filter fun (x, _) => !e.removed.contains (Text.octets x)
    let environment := assignments.foldl assign start
    match operands.drop assignments.length with
    | [] =>
      { call.done with
        output := environment.flatMap fun (x, value) =>
          Text.octets x ++ '=' :: value ++ [e.ending] }
    | name :: arguments =>
      let place? := e.directory?.map fun path => (call.files.locate (pathOfOctets path), path)
      match place? with
      | some (.error fault, path) =>
        call.refuse (Text.octets "cannot change directory to " ++ Quoting.quoteName path ++
          Text.octets (": " ++ fault.reason)) 125
      | other =>
        let home :=
          match other with
          | some (.ok place, _) => place
          | _ => call.files.home
        let start : Reply := { call.done with files := { call.files with home } }
        match run find call start environment name arguments call.input with
        | .ok reply => { reply with files := { reply.files with home := call.files.home } }
        | .error fault =>
          call.refuse
            (Quoting.quoteName name ++ Text.octets (": " ++ fault.reason)) (statusOf fault)

def printenv : Utility := fun call =>
  let names := call.arguments.filter fun arg => arg ≠ "--".toList
  if names.isEmpty then
    { call.done with
      output := call.environment.flatMap fun (x, value) => Text.octets x ++ '=' :: value ++ ['\n'] }
  else
    let values := names.map fun name => call.environment.lookup (String.ofList name)
    { call.done (if values.all (·.isSome) then 0 else 1) with
      output := (values.filterMap id).flatMap (· ++ ['\n']) }

open Running in
def xargs (find : Finder) : Utility := fun call =>
  let read := batchTable.read call.arguments
  let b := read.settings.foldl Batches.set {}
  match read.fault? with
  | some what => call.refuseUsage what
  | none =>
    let command := if read.operands.isEmpty then ["echo".toList] else read.operands
    match b.read call.input with
    | .error quote =>
      let kind := if quote = '"' then "double" else "single"
      { call.refuse (Text.octets ("unmatched " ++ kind ++
          " quote; by default quotes are special to xargs unless you use the -0 option")) with
        unread := [] }
    | .ok lines =>
      let start := { call.done with unread := [] }
      ((b.commands command lines).foldl (step find call b) (start, false)).1

end TemplateVariants
