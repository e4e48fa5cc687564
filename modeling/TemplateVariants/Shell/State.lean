import TemplateVariants.Shell.Fields
import TemplateVariants.Shell.Modes
import TemplateVariants.Shell.Syntax
import TemplateVariants.Storage.FileTree
import TemplateVariants.Text.Octets

/-!
# The state of a shell

A shell has a scope of its own: variables and functions, the arguments of the script, the status of
the last command, what the script goes on with, and the descriptors. It shares with others the
files, the open files and the time. A subshell starts with a copy of all this and leaves behind only
what is shared and a status. A job is a subshell that nobody has waited for yet.
-/

namespace TemplateVariants
namespace Shell

structure Binding where
  value? : Option Octets := none
  isExported : Bool := false
  isReadOnly : Bool := false

/-- What the script does next: the next command, the end of so many loops or their next round, the
end of a function, or the end of the script, which a signal may have brought. -/
inductive Flow where
  | onward
  | leaving (loops : Nat)
  | continuing (loops : Nat)
  | returning
  | exiting
  | killed (signal : Nat)
deriving DecidableEq, Repr

/-- Whether a flow ends the script. -/
def Flow.isEnd : Flow → Bool
  | .exiting | .killed _ => true
  | _ => false

/-- An open file: one that collects what is written with the times, the latest first, and may have
room for only so much, one that gives out a text, a file of the tree with a position in it, one that
is always empty, or one that is always full. -/
inductive OpenFile where
  | sink (written : List (Nat × Octets)) (room? : Option Nat)
  | source (rest : Octets)
  | file (place : List String) (position : Nat) (appends : Bool)
  | nothing
  | full

/-- Where a shell has found a program; `isStale` if it has changed its directory since. -/
structure Known where
  path : Octets
  isStale : Bool := false

/-- What a shell has to itself, with its number and that of the program that called it. An `isInner`
shell is a subshell; one that `prompts` asks for the lines of its script; `lineRead` is where its
reader is; `locals` holds what the names made local in each function stood for; `traps` says
what is run on a signal; `received` are the signals that have come. -/
structure Scope where
  name : Octets
  number : Nat := 1000
  caller : Nat := 900
  isInner : Bool := false
  prompts : Bool := false
  speaker : Octets := []
  line : Nat := 0
  lineRead : Nat := 0
  arguments : List Octets := []
  bindings : List (String × Binding) := []
  functions : List (String × Command) := []
  aliases : List (String × Octets) := []
  known : List (String × Known) := []
  modes : Modes := {}
  mask : Nat := 0o022
  status : Nat := 0
  outputStatus : Nat := 0
  flow : Flow := .onward
  loops : Nat := 0
  calls : Nat := 0
  locals : List (List (String × Option Binding)) := []
  traps : List (Nat × Octets) := []
  received : List Nat := []
  lastJob? : Option Nat := none
  documents : List (Nat × Word) := []
  descriptors : List (Nat × Nat) := []

/-- A command that a shell has sent to the background: its number and its place in the table of the
jobs, when it starts, and the scope and the directory that it starts with. It may have stopped with
a status or through a signal, or a signal may wait for it since a time. -/
structure Job where
  number : Nat
  place : Nat
  start : Nat
  body : Command
  scope : Scope
  home : List String
  status? : Option Nat := none
  signal? : Option Nat := none
  stop : Nat := 0
  due? : Option (Nat × Nat) := none

/-- The state of a shell. Time is counted in microseconds; a signal may be `due?` at a time.
`raised` are the signals for the shell that is no subshell with their times, and `sent` those for
other programs. The latest of the jobs is the first. An output may have been `lost`. -/
structure State extends Scope where
  clock : Nat := 0
  due? : Option (Nat × Nat) := none
  raised : List (Nat × Nat) := []
  sent : List (Nat × Nat) := []
  jobs : List Job := []
  lost : Bool := false
  opened : Array OpenFile := #[]
  files : FileTree := {}

namespace State

/-! ## Files -/

def descriptor? (s : State) (fd : Nat) : Option Nat :=
  s.descriptors.lookup fd

/-- Lets a descriptor stand for an open file. -/
def redirect (s : State) (fd index : Nat) : State :=
  { s with descriptors := (fd, index) :: s.descriptors.filter (·.1 != fd) }

def close (s : State) (fd : Nat) : State :=
  { s with descriptors := s.descriptors.filter (·.1 != fd) }

/-- Opens a file for a descriptor. -/
def openFor (s : State) (fd : Nat) (file : OpenFile) : State :=
  { s with opened := s.opened.push file }.redirect fd s.opened.size

def bytesAt (s : State) (place : List String) : ByteArray :=
  match s.files.node? place with
  | some (.file bytes) => bytes
  | _ => .empty

/-- The bytes with some of them replaced by others, after zeros if they do not reach so far. -/
def overwrite (bytes : ByteArray) (position : Nat) (written : ByteArray) : ByteArray :=
  let zeros : ByteArray := ⟨(List.replicate (position - bytes.size) (0 : UInt8)).toArray⟩
  (bytes.extract 0 position ++ zeros ++ written) ++
    bytes.extract (position + written.size) bytes.size

/-- Takes a signal to be dealt with after the command. -/
def receive (s : State) (signal : Nat) : State :=
  if s.received.contains signal then s else { s with received := signal :: s.received }

/-- The signals that tell a writer that nobody reads, and a shell that a program it has started is
at its end. -/
def brokenPipe : Nat := 13

def childEnd : Nat := 17

/-- The state in which a text for the output has been lost, if it is one. -/
def lose (s : State) (fd : Nat) (text : Octets) : State :=
  if fd = 1 ∧ !text.isEmpty then { s with lost := true } else s

/-- Writes to a descriptor; the text is lost if that is closed or full. -/
def write (s : State) (fd : Nat) (text : Octets) : State :=
  match s.descriptor? fd with
  | none => s.lose fd text
  | some index =>
    match s.opened[index]? with
    | some (.sink _ room?) =>
      let s :=
        match room? with
        | some room => if room < text.length then s.receive brokenPipe else s
        | none => s
      { s with
        opened := s.opened.modify index fun file =>
          match file with
          | .sink written room? =>
            .sink ((s.clock, text) :: written) (room?.map (· - text.length))
          | file => file }
    | some (.file place position appends) =>
      if !s.files.isFileAt place then s
      else
        let bytes := s.bytesAt place
        let position := if appends then bytes.size else position
        let written := Text.bytesOfOctets text
        { s with
          files := s.files.put place (.file (overwrite bytes position written))
          opened := s.opened.modify index fun _ => .file place (position + written.size) appends }
    | some .full => s.lose fd text
    | _ => s

/-- What can still be read from a descriptor. -/
def pending (s : State) (fd : Nat) : Octets :=
  match (s.descriptor? fd).bind (s.opened[·]?) with
  | some (.source rest) => rest
  | some (.file place position _) =>
    let bytes := s.bytesAt place
    Text.octetsOfBytes (bytes.extract position bytes.size)
  | _ => []

/-- Leaves a rest of what could be read from a descriptor. -/
def leave (s : State) (fd : Nat) (rest : Octets) : State :=
  match s.descriptor? fd with
  | none => s
  | some index =>
    { s with
      opened := s.opened.modify index fun file =>
        match file with
        | .source _ => .source rest
        | .file place _ appends => .file place ((s.bytesAt place).size - rest.length) appends
        | file => file }

/-- What has been written to an open file that collects it, in order of the times. -/
def collected (s : State) (index : Nat) : Octets :=
  match s.opened[index]? with
  | some (.sink written _) =>
    ((written.reverse.mergeSort fun a b => decide (a.1 ≤ b.1)).map Prod.snd).flatten
  | _ => []

/-! ## Faults -/

/-- Says on the error stream that something is wrong; a built-in command names itself. -/
def complain (s : State) (what : Octets) : State :=
  let speaker := if s.speaker.isEmpty then [] else s.speaker ++ Text.octets ": "
  s.write 2 (s.name ++ Text.octets (": " ++ Nat.repr s.line ++ ": ") ++ speaker ++ what ++ ['\n'])

/-- Asks for a line on the error stream, with what a variable holds. -/
def prompt (s : State) (x : String) : State :=
  s.write 2 (((s.bindings.lookup x).bind (·.value?)).getD [])

/-- Ends the script because of a fault; one that asks for its lines asks once more. -/
def fail (s : State) (what : Octets) : State :=
  let s := s.complain what
  let s := if s.prompts && !s.isInner then (s.prompt "PS1").write 2 ['\n'] else s
  { s with status := 2, flow := .exiting }

def succeed (s : State) : State :=
  { s with status := 0 }

/-- Writes a text to the output and succeeds. -/
def say (s : State) (text : Octets) : State :=
  (s.write 1 text).succeed

/-- Fails with a message and a status, and goes on. -/
def reject (s : State) (what : Octets) (status : Nat) : State :=
  { s.complain what with status }

/-- A value in single quotes. -/
def quoteValue (value : Octets) : Octets :=
  '\'' :: value.flatMap (fun c => if c = '\'' then "'\"'\"'".toList else [c]) ++ ['\'']

/-! ## Variables -/

def binding? (s : State) (x : String) : Option Binding :=
  s.bindings.lookup x

def value? (s : State) (x : String) : Option Octets :=
  (s.binding? x).bind (·.value?)

/-- Binds a variable, or takes its binding away; a change of `PATH` makes the shell forget where
programs are. -/
def bind (s : State) (x : String) (binding? : Option Binding) : State :=
  let others := s.bindings.filter (·.1 != x)
  let s := if x = "PATH" then { s with known := [] } else s
  match binding? with
  | some binding => { s with bindings := (x, binding) :: others }
  | none => { s with bindings := others }

/-- Gives a variable a value; the script ends if the variable must not change. -/
def assign (s : State) (x : String) (value : Octets) : State :=
  let old := (s.binding? x).getD {}
  if old.isReadOnly then s.fail (Text.octets (x ++ ": is read only"))
  else
    s.bind x (some
      { old with value? := some value, isExported := old.isExported || s.modes.exportsAll })

/-- Lets the programs that the shell starts see a variable. -/
def expose (s : State) (x : String) : State :=
  match s.binding? x with
  | some binding => s.bind x (some { binding with isExported := true })
  | none => s

def separators (s : State) : List Char :=
  (s.value? "IFS").getD defaultSeparators

/-! ## Parameters -/

def decimal (n : Nat) : Octets :=
  Nat.toDigits 10 n

/-- The value of a parameter other than the arguments as a whole. -/
def parameter? (s : State) (name : String) : Option Octets :=
  match name with
  | "#" => some (decimal s.arguments.length)
  | "?" => some (decimal s.status)
  | "$" => some (decimal s.number)
  | "!" => s.lastJob?.map decimal
  | "-" => some (s.modes.letters)
  | "0" => some s.name
  | _ =>
    match name.toList with
    | c :: _ => if c.isDigit then s.arguments[name.toNat?.getD 0 - 1]? else s.value? name
    | [] => none

/-! ## Paths -/

def isHidden (name : Octets) : Bool :=
  name.head? == some '.'

/-- The names in a directory that fit a pattern, in order. -/
def matching (s : State) (directory : Octets) (pattern : Glyphs) : List Octets :=
  let path := if directory.isEmpty then "." else Text.decodeLossy (Text.bytesOfOctets directory)
  let names := (s.files.list path).map fun (name, _) => Text.octets name
  let names := if pattern.head?.map Prod.fst = some '.' then ['.'] :: ['.', '.'] :: names else
    names.filter (!isHidden ·)
  (names.filter pattern.fit).mergeSort fun a b => !decide (b < a)

/-- The parts of a field between its slashes. -/
def splitField (field : Glyphs) : List Glyphs :=
  field.foldr
    (fun g parts =>
      if g.1 = '/' then [] :: parts
      else
        match parts with
        | [] => [[g]]
        | part :: parts => (g :: part) :: parts)
    [[]]

def plainText (field : Glyphs) : Octets :=
  field.map Prod.fst

/-- The paths that fit the parts of a field, each after a start that has been found. -/
def pathsFrom (s : State) : List Octets → List Glyphs → List Octets
  | starts, [] => starts
  | starts, [part] =>
    starts.flatMap fun start =>
      if isPattern part then (s.matching start part).map (start ++ ·)
      else
        let path := start ++ plainText part
        if (s.files.find (Text.decodeLossy (Text.bytesOfOctets path))).toOption.isSome then [path]
        else []
  | starts, part :: parts =>
    let next := starts.flatMap fun start =>
      if isPattern part then (s.matching start part).map (start ++ ·)
      else [start ++ plainText part]
    pathsFrom s (next.map (· ++ ['/'])) parts

/-- The texts that a field stands for: the paths that fit it if it is a pattern and there are any,
or its own text. -/
def paths (s : State) (field : Glyphs) : List Octets :=
  if !isPattern field || s.modes.withoutPaths then [plainText field]
  else
    match s.pathsFrom [[]] (splitField field) with
    | [] => [plainText field]
    | found => found

end State

end Shell
end TemplateVariants
