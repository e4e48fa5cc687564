import TemplateVariants.CommandLine.Arguments
import TemplateVariants.CommandLine.Log
import TemplateVariants.Randomness.ChaCha

/-!
# Runs

A run as a function of its arguments and of what it meets: files, an interpreter, scratch
directories, and a seed for runs that ask for none. It gives the exit code, the two texts that it
prints, and the files after it.
-/

namespace TemplateVariants
namespace CommandLine

open Randomness

/-- What a run meets. Scratch directories stand in `/tmp` unless something else is said of them. -/
structure Surroundings where
  tree : FileTree
  interpreter : Interpreter
  scratch : Suite.Scratch := .numbered tree "/tmp"
  entropy : UInt64 := 0

/-- What a run leaves behind. -/
structure Result where
  code : Nat := 0
  stdout : String := ""
  stderr : String := ""
  tree : FileTree

/-- The dice of a run. -/
def Surroundings.dice (s : Surroundings) (seed? : Option Nat) : Dice ChaCha :=
  { source := ChaCha.ofSeed ((seed?.map UInt64.ofNat).getD s.entropy) }

/-! ## Reports -/

/-- A value on lines of its own. -/
def jsonLines (value : Text.JsonValue) : String :=
  value.pretty ++ "\n"

/-- The line for a message about the request itself. -/
def Manner.reportMessage (manner : Manner) (message : String) : String :=
  if manner.quiet then ""
  else
    match manner.format with
    | .text => message ++ "\n"
    | .json =>
      let escaped := message.toList.flatMap fun c => if c = '"' then ['\\', '"'] else [c]
      "\x7b\"error\": \"" ++ String.ofList escaped ++ "\"\x7d\n"

/-- The report of an error of a template. -/
def Manner.reportError (manner : Manner) (e : CompileError) : String :=
  if manner.quiet then ""
  else
    match manner.format with
    | .text => e.display ++ "\n"
    | .json => jsonLines e.toJson

def Manner.reportHalt (manner : Manner) : Halt CompileError → String
  | .failed e => manner.reportError e
  | .stalled => manner.reportMessage (Halt.display .stalled)

/-- The log of events, which are given the latest first. -/
def Manner.log (manner : Manner) (journal : List Event) : String :=
  if manner.verbose then CommandLine.log journal.reverse else ""

/-! ## Compiling -/

/-- Several compilations: their texts, or what ended them, and the events, the latest first. -/
structure Batch where
  outcome : Except (Halt CompileError) (List String)
  journal : List Event

/-- Compiles `left` more variants after those at hand, which are held backwards. -/
def compileBatch (doc : Document) (options : Options) :
    Nat → Dice ChaCha → List String → List Event → Batch
  | 0, _, variants, journal => ⟨.ok variants.reverse, journal⟩
  | left + 1, dice, variants, journal =>
    let compilation := doc.compile options dice
    let journal := compilation.session.journal ++ journal
    match compilation.outcome with
    | .error halt => ⟨.error halt, journal⟩
    | .ok text => compileBatch doc options left compilation.session.dice (text :: variants) journal

/-- The path of the variant with the given number in a directory. Points that the extension starts
with do not count. -/
def CompileRequest.variantPath (request : CompileRequest) (out : String) (number : Nat) : String :=
  let extension := String.ofList (request.extension.toList.dropWhile (· = '.'))
  Path.join out (Path.stem request.template ++ "_" ++ Nat.repr number ++ "." ++ extension)

/-- Several deliveries: the paths of the files, or what ended them, the files, and the events. -/
structure Deliveries where
  outcome : Except (Halt CompileError) (List String)
  tree : FileTree
  journal : List Event

/-- Writes `left` more variants to the paths that their numbers give. -/
def deliverBatch (doc : Document) (options : Options) (path : Nat → String) :
    Nat → Nat → FileTree → Dice ChaCha → List String → List Event → Deliveries
  | 0, _, tree, _, paths, journal => ⟨.ok paths.reverse, tree, journal⟩
  | left + 1, number, tree, dice, paths, journal =>
    let delivery := doc.deliver tree (path number) options dice
    let journal := delivery.session.journal ++ journal
    match delivery.outcome with
    | .error halt => ⟨.error halt, delivery.store, journal⟩
    | .ok _ =>
      deliverBatch doc options path left (number + 1) delivery.store delivery.session.dice
        (path number :: paths) journal

/-- Compiles and prints. Nothing is printed unless all variants compile. -/
def printVariants (manner : Manner) (s : Surroundings) (request : CompileRequest)
    (doc : Document) : Result :=
  let batch := compileBatch doc request.options request.count (s.dice request.seed?) []
    [doc.parsedEvent]
  let log := manner.log batch.journal
  match batch.outcome with
  | .error halt => { code := 1, stderr := log ++ manner.reportHalt halt, tree := s.tree }
  | .ok variants =>
    let stdout :=
      match manner.format with
      | .text => String.join variants
      | .json => jsonLines (.array (variants.map .string))
    { stdout, stderr := log, tree := s.tree }

/-- Compiles to numbered files. The files before the first fault stay. -/
def writeVariants (manner : Manner) (s : Surroundings) (request : CompileRequest)
    (doc : Document) (out : String) : Result :=
  let deliveries := deliverBatch doc request.options (request.variantPath out) request.count 0
    s.tree (s.dice request.seed?) [] [doc.parsedEvent]
  let log := manner.log deliveries.journal
  match deliveries.outcome with
  | .error halt =>
    { code := 1, stderr := log ++ manner.reportHalt halt, tree := deliveries.tree }
  | .ok paths =>
    let stdout :=
      match manner.format with
      | .text =>
        if manner.quiet then ""
        else
          "compiled " ++ Nat.repr paths.length ++ " variant(s) of " ++ request.template ++
            " into " ++ out ++ "\n"
      | .json =>
        jsonLines (.object
          [("template", .string request.template), ("variants", .array (paths.map .string))])
    { stdout, stderr := log, tree := deliveries.tree }

/-! ## Subcommands -/

/-- Reads the template and goes on with it, or reports why it cannot be read. -/
def withTemplate (manner : Manner) (s : Surroundings) (template : String)
    (next : Document → Result) : Result :=
  match Document.load s.tree template with
  | .error e => { code := 1, stderr := manner.reportError e, tree := s.tree }
  | .ok doc => next doc

def compile (manner : Manner) (s : Surroundings) (request : CompileRequest) : Result :=
  withTemplate manner s request.template fun doc =>
    match request.out? with
    | none => printVariants manner s request doc
    | some out => writeVariants manner s request doc out

def check (manner : Manner) (s : Surroundings) (template : String) : Result :=
  withTemplate manner s template fun doc =>
    let stdout :=
      match manner.format with
      | .text =>
        if manner.quiet then ""
        else
          doc.file ++ ": ok (" ++ Nat.repr doc.lines.length ++ " lines, " ++
            Nat.repr doc.commandCount ++ " commands)\n"
      | .json =>
        jsonLines (.object
          [("commands", .number doc.commandCount), ("file", .string doc.file),
            ("lines", .number doc.lines.length), ("valid", .bool true)])
    { stdout, stderr := manner.log [doc.parsedEvent], tree := s.tree }

/-- Runs a suite. Its report is printed in every manner. -/
def test (manner : Manner) (s : Surroundings) (request : SuiteRequest) : Result :=
  let directory := request.setup.directory
  let refuse (message : String) : Result :=
    { code := 1, stderr := manner.reportMessage message, tree := s.tree }
  if !s.tree.isDirectory directory then
    refuse ("test suite directory not found: " ++ directory)
  else if request.setup.attempts = 0 then
    refuse "--attempts must be at least 1"
  else
    let (results, progress) :=
      Suite.run s.interpreter s.scratch request.setup s.tree (s.dice request.seed?)
    { code := if Tap.failures results = 0 then 0 else 1
      stdout := Tap.render results
      stderr := manner.log progress.journal
      tree := progress.files }

/-- What arguments that are not well-formed are answered with. -/
def usage : String :=
  "usage: varithon [--output text|json] [--quiet] [--verbose] compile|check|test ...\n"

/-- A run with the given arguments. -/
def run (s : Surroundings) (args : List String) : Result :=
  match Invocation.ofArguments? args with
  | none => { code := 2, stderr := usage, tree := s.tree }
  | some .version => { stdout := "varithon 0.1.0\n", tree := s.tree }
  | some (.run manner (.compile request)) => compile manner s request
  | some (.run manner (.check template)) => check manner s template
  | some (.run manner (.test request)) => test manner s request

end CommandLine
end TemplateVariants
