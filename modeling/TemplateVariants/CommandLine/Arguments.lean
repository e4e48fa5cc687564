import TemplateVariants.Expand.Document
import TemplateVariants.Numeral.Integer
import TemplateVariants.Suite.Run

/-!
# Arguments

What the arguments of a run ask for. Arguments are options, each known by a key, and operands. The
options for the manner of a run stand before or after the name of the subcommand; the other options
belong to one subcommand. No option is given twice at one of these two places. All other arguments
are refused, at the first fault from the left.
-/

namespace TemplateVariants
namespace CommandLine

/-! ## Requests -/

inductive OutputFormat where
  | text
  | json
deriving DecidableEq, Repr

/-- How a run reports. -/
structure Manner where
  format : OutputFormat := .text
  quiet : Bool := false
  verbose : Bool := false
deriving DecidableEq, Repr

/-- Variants of a template, printed, or written to numbered files in the directory `out?`. -/
structure CompileRequest where
  template : String
  count : Nat := 1
  out? : Option String := none
  extension : String := "py"
  seed? : Option Nat := none
  options : Options := {}
deriving DecidableEq, Repr

structure SuiteRequest where
  setup : Suite.Setup := {}
  seed? : Option Nat := none
deriving DecidableEq, Repr

inductive Request where
  | compile (request : CompileRequest)
  | check (template : String)
  | test (request : SuiteRequest)
deriving DecidableEq, Repr

inductive Invocation where
  | version
  | run (manner : Manner) (request : Request)
deriving DecidableEq, Repr

/-! ## Options -/

/-- The keys of options. -/
inductive Key where
  | output
  | quiet
  | verbose
  | version
  | count
  | out
  | extension
  | seed
  | maxPasses
  | maxCollectionSize
  | attempts
  | interpreter
deriving DecidableEq, Repr

namespace Key

def long : Key → String
  | .output => "output"
  | .quiet => "quiet"
  | .verbose => "verbose"
  | .version => "version"
  | .count => "count"
  | .out => "out"
  | .extension => "extension"
  | .seed => "seed"
  | .maxPasses => "max-passes"
  | .maxCollectionSize => "max-collection-size"
  | .attempts => "attempts"
  | .interpreter => "interpreter"

/-- The letter that spells the option after a single hyphen. -/
def short? : Key → Option Char
  | .verbose => some 'v'
  | .version => some 'V'
  | .count => some 'n'
  | _ => none

/-- Whether the option stands alone; every other option has a value. -/
def isFlag : Key → Bool
  | .quiet => true
  | .verbose => true
  | .version => true
  | _ => false

/-- Whether a text can be the value of the option. -/
def accepts (key : Key) (value : String) : Bool :=
  match key with
  | .output => value == "text" || value == "json"
  | .out => value != ""
  | .extension => true
  | .interpreter => true
  | .quiet => true
  | .verbose => true
  | .version => true
  | _ => (Numeral.readWord? value.toList).isSome

/-- The options for the manner of a run. -/
def manner : List Key :=
  [.output, .quiet, .verbose]

end Key

/-- Why reading ends early. -/
inductive Stop where
  | usage
  | version
deriving DecidableEq, Repr

/-- Options and operands in their order. A flag has the empty text for its value. -/
structure Given where
  options : List (Key × String) := []
  operands : List String := []
deriving DecidableEq, Repr

namespace Given

def value? (given : Given) (key : Key) : Option String :=
  given.options.lookup key

def has (given : Given) (key : Key) : Bool :=
  (given.value? key).isSome

def number? (given : Given) (key : Key) : Option Nat :=
  (given.value? key).bind fun value => Numeral.readWord? value.toList

/-- One more option, which must be new and have a value that it accepts. -/
def addOption (given : Given) (key : Key) (value : String) : Except Stop Given :=
  if key = .version then .error .version
  else if given.has key || !key.accepts value then .error .usage
  else .ok { given with options := given.options ++ [(key, value)] }

def addOperand (given : Given) (text : String) : Given :=
  { given with operands := given.operands ++ [text] }

end Given

/-- Options read so far, and the key that waits for its value in the next argument. -/
abbrev Reading := Given × Option Key

/-- Reads an option after two hyphens: its name, and its value behind an equals sign. -/
def readLong (keys : List Key) (given : Given) (s : List Char) : Except Stop Reading :=
  let name := String.ofList (s.takeWhile (· ≠ '='))
  match keys.find? (·.long == name), s.dropWhile (· ≠ '=') with
  | none, _ => .error .usage
  | some key, [] =>
    if key.isFlag then (given.addOption key "").map (·, none) else .ok (given, some key)
  | some key, _ :: value =>
    if key.isFlag then .error .usage
    else (given.addOption key (String.ofList value)).map (·, none)

/-- Reads letters after one hyphen. The letter of an option with a value is the last one: what
follows it is the value, an equals sign before it aside. -/
def readShort (keys : List Key) (given : Given) : List Char → Except Stop Reading
  | [] => .ok (given, none)
  | c :: cs =>
    match keys.find? (·.short? == some c) with
    | none => .error .usage
    | some key =>
      if key.isFlag then do
        readShort keys (← given.addOption key "") cs
      else
        match cs with
        | [] => .ok (given, some key)
        | '=' :: value => (given.addOption key (String.ofList value)).map (·, none)
        | value => (given.addOption key (String.ofList value)).map (·, none)

/-- What an argument is by its hyphens. A hyphen alone is a plain text. -/
inductive Shape where
  | plain
  | separator
  | long (s : List Char)
  | short (s : List Char)
deriving DecidableEq, Repr

def Shape.of (arg : String) : Shape :=
  match arg.toList with
  | ['-', '-'] => .separator
  | '-' :: '-' :: s => .long s
  | '-' :: c :: s => .short (c :: s)
  | _ => .plain

/-- Reads the arguments of a subcommand. After a separator all of them are operands. -/
def readArguments (keys : List Key) : Reading → List String → Except Stop Given
  | (given, none), [] => .ok given
  | (_, some _), [] => .error .usage
  | (given, some key), arg :: args =>
    match Shape.of arg with
    | .plain => do
      readArguments keys (← given.addOption key arg, none) args
    | _ => .error .usage
  | (given, none), arg :: args =>
    match Shape.of arg with
    | .plain => readArguments keys (given.addOperand arg, none) args
    | .separator => .ok (args.foldl Given.addOperand given)
    | .long s => do
      readArguments keys (← readLong keys given s) args
    | .short s => do
      readArguments keys (← readShort keys given s) args

/-- Reads the arguments before the name of the subcommand; gives the name, and the arguments after
it. -/
def readHead : Reading → List String → Except Stop (Given × String × List String)
  | _, [] => .error .usage
  | (given, some key), arg :: args =>
    match Shape.of arg with
    | .plain => do
      readHead (← given.addOption key arg, none) args
    | _ => .error .usage
  | (given, none), arg :: args =>
    match Shape.of arg with
    | .plain => .ok (given, arg, args)
    | .separator => .error .usage
    | .long s => do
      readHead (← readLong (.version :: Key.manner) given s) args
    | .short s => do
      readHead (← readShort (.version :: Key.manner) given s) args

/-! ## Subcommands -/

/-- The manner that two groups of options ask for; the format of the inner group goes first. -/
def Manner.ofGiven (outer inner : Given) : Manner where
  format :=
    if (inner.value? .output <|> outer.value? .output) = some "json" then .json else .text
  quiet := outer.has .quiet || inner.has .quiet
  verbose := outer.has .verbose || inner.has .verbose

/-- The template, which is the only operand and not empty. -/
def Given.template (given : Given) : Except Stop String :=
  match given.operands with
  | [template] => if template = "" then .error .usage else .ok template
  | _ => .error .usage

def Given.compileRequest (given : Given) : Except Stop CompileRequest := do
  let template ← given.template
  return {
    template
    count := (given.number? .count).getD 1
    out? := given.value? .out
    extension := (given.value? .extension).getD "py"
    seed? := given.number? .seed
    options := {
      maxPasses := (given.number? .maxPasses).getD 1000
      maxCollectionSize := (given.number? .maxCollectionSize).getD 100000 } }

/-- The directory of a suite, which may be left out but not be empty. -/
def Given.directory (given : Given) : Except Stop String :=
  match given.operands with
  | [] => .ok "conformance"
  | [directory] => if directory = "" then .error .usage else .ok directory
  | _ => .error .usage

def Given.suiteRequest (given : Given) : Except Stop SuiteRequest := do
  let directory ← given.directory
  return {
    setup := {
      directory
      attempts := (given.number? .attempts).getD 10
      command := (given.value? .interpreter).getD "python3" }
    seed? := given.number? .seed }

/-- Reads the request of a subcommand. -/
def readRequest (name : String) (args : List String) : Except Stop (Given × Request) := do
  match name with
  | "compile" =>
    let given ← readArguments
      (Key.manner ++ [.count, .out, .extension, .seed, .maxPasses, .maxCollectionSize])
      ({}, none) args
    return (given, .compile (← given.compileRequest))
  | "check" =>
    let given ← readArguments Key.manner ({}, none) args
    return (given, .check (← given.template))
  | "test" =>
    let given ← readArguments (Key.manner ++ [.attempts, .interpreter, .seed]) ({}, none) args
    return (given, .test (← given.suiteRequest))
  | _ => .error .usage

def readRun (args : List String) : Except Stop Invocation := do
  let (outer, name, args) ← readHead ({}, none) args
  let (inner, request) ← readRequest name args
  return .run (Manner.ofGiven outer inner) request

/-- What the arguments ask for; `none` if they are not well-formed. -/
def Invocation.ofArguments? (args : List String) : Option Invocation :=
  match readRun args with
  | .ok invocation => some invocation
  | .error .version => some .version
  | .error .usage => none

end CommandLine
end TemplateVariants
