import TemplateVariants.Storage.FileTree
import TemplateVariants.Text.Octets

/-!
# Utilities

A utility is a program as a function: of its arguments, of what it may read and of the files, to
what it writes and to the files after it. All text is made of bytes.
-/

namespace TemplateVariants

/-- What a utility is called with: among other things the number of the program that calls it, the
permissions that new files do not get, and the signals that are passed over. -/
structure Call where
  name : String
  arguments : List Octets
  input : Octets := []
  environment : List (String × Octets) := []
  caller : Nat := 900
  mask : Nat := 0o022
  ignored : List Nat := []
  files : FileTree

/-- What a call comes to; `unread` is what the utility has left of its input. It may have taken
time, in microseconds, a signal may have ended it, and it may have sent signals to numbered
programs. -/
structure Reply where
  output : Octets := []
  errors : Octets := []
  status : Nat := 0
  unread : Octets
  duration : Nat := 0
  signal? : Option Nat := none
  sent : List (Nat × Nat) := []
  files : FileTree

abbrev Utility := Call → Reply

namespace Call

/-- The reply that writes nothing and leaves the input alone. -/
def done (call : Call) (status : Nat := 0) : Reply :=
  { status, unread := call.input, files := call.files }

/-- The line in which a utility says that something is wrong. -/
def complaint (call : Call) (what : Octets) : Octets :=
  Text.octets (call.name ++ ": ") ++ what ++ ['\n']

def refuse (call : Call) (what : Octets) (status : Nat := 1) : Reply :=
  { call.done status with errors := call.complaint what }

/-- The refusal of arguments that a utility does not understand. -/
def refuseUsage (call : Call) (what : Octets) (status : Nat := 1) : Reply :=
  { call.done status with
    errors := call.complaint what ++
      Text.octets ("Try '" ++ call.name ++ " --help' for more information.\n") }

end Call

namespace Reply

/-- The reply that goes on with a text. -/
def say (reply : Reply) (text : Octets) : Reply :=
  { reply with output := reply.output ++ text }

/-- The reply of a utility that fails and goes on. -/
def complain (reply : Reply) (call : Call) (what : Octets) (status : Nat := 1) : Reply :=
  { reply with errors := reply.errors ++ call.complaint what, status }

end Reply

/-- Why a utility refuses to run, and whether it points to its help then. -/
structure Refusal where
  what : Octets
  pointsToHelp : Bool := false

def Call.refuseWith (call : Call) (refusal : Refusal) : Reply :=
  if refusal.pointsToHelp then call.refuseUsage refusal.what else call.refuse refusal.what

/-- The text that bytes stand for in a path. -/
def pathOfOctets (text : Octets) : String :=
  Text.decodeLossy (Text.bytesOfOctets text)

/-! ## Finding utilities -/

/-- What finds the utility that a path leads to. -/
abbrev Finder := FileTree → String → Except StorageFault Utility

/-- The directories that are searched if nothing else is said. -/
def defaultDirectories : Octets :=
  Text.octets "/usr/local/sbin:/usr/local/bin:/usr/sbin:/usr/bin:/sbin:/bin"

/-- The path of a name in one of the directories that are searched; no directory is the one at
hand. -/
def searchedPath (directory name : Octets) : Octets :=
  if directory.isEmpty then name else directory ++ '/' :: name

/-- The utility that a command leads to, and its path. A command with a slash is a path, and another
is a name that is searched in directories with colons between them. The fault is the first that is
not that there is nothing. -/
def Finder.search (find : Finder) (directories : Octets) (files : FileTree) (command : Octets) :
    Except StorageFault (Octets × Utility) :=
  let name := pathOfOctets command
  if command.contains '/' then (find files name).map (command, ·)
  else if command.isEmpty ∨ name = "." ∨ name = ".." then .error .notPermitted
  else if FileTree.maxNameSize < command.length then .error .nameTooLong
  else
    let paths := (List.splitOnP (· == ':') directories).map (searchedPath · command)
    let faults := (paths.map fun path => find files (pathOfOctets path)).filterMap fun
      | .error fault => if fault = .missing ∨ fault = .notDirectory then none else some fault
      | .ok _ => none
    let found? := paths.findSome? fun path =>
      (find files (pathOfOctets path)).toOption.map (path, ·)
    match found? with
    | some found => .ok found
    | none => .error (faults.head?.getD .missing)

/-! ## Files as input -/

/-- How many zeros can be read where there is no end of them. -/
def zeroRoom : Nat := 1 <<< 20

/-- What a path that leads to no file gives to read: one is empty, one has zeros, and others are the
input of whoever reads. -/
def Call.device? (call : Call) (path : Octets) : Option Octets :=
  match String.ofList path with
  | "/dev/null" => some []
  | "/dev/zero" => some (List.replicate zeroRoom '\x00')
  | "/dev/stdin" | "/dev/fd/0" => some call.input
  | _ => none

/-- What a path gives to read. -/
def Call.read (call : Call) (path : Octets) : Except StorageFault Octets :=
  match call.device? path with
  | some text => .ok text
  | none => (call.files.readBytes (pathOfOctets path)).map Text.octetsOfBytes

/-- What the inputs of a utility came to: the text of each, complaints, and whether one of them is
no file. A directory counts as an empty text, and there is a complaint about it. -/
structure Inputs where
  texts : List (Octets × Octets) := []
  complaints : List Octets := []
  usesInput : Bool := false
  isMixed : Bool := false

/-- Reads one more operand of a utility: a hyphen is its input. A complaint is worded from the operand
and the reason. -/
def Call.readOperand (call : Call) (word : Octets → String → Octets) (found : Inputs)
    (operand : Octets) : Inputs :=
  let isInput := ["-", "/dev/stdin", "/dev/fd/0"].contains (String.ofList operand)
  if isInput then
    { found with
      texts := (operand, if found.usesInput then [] else call.input) :: found.texts
      usesInput := true
      isMixed := true }
  else
    match call.read operand with
    | .ok text =>
      { found with
        texts := (operand, text) :: found.texts
        isMixed := found.isMixed || (call.device? operand).isSome }
    | .error .isDirectory =>
      { found with
        texts := (operand, []) :: found.texts
        complaints := word operand (StorageFault.reason .isDirectory) :: found.complaints
        isMixed := true }
    | .error fault => { found with complaints := word operand fault.reason :: found.complaints }

/-- Reads the operands of a utility; without any, it reads its input. -/
def Call.inputs (call : Call) (operands : List Octets) (word : Octets → String → Octets) : Inputs :=
  let operands := if operands.isEmpty then [['-']] else operands
  let found := operands.foldl (call.readOperand word) {}
  { found with texts := found.texts.reverse, complaints := found.complaints.reverse }

/-- The reply that writes a text made of inputs. -/
def Call.replyWith (call : Call) (inputs : Inputs) (output : Octets) : Reply :=
  { output
    errors := inputs.complaints.flatMap call.complaint
    status := if inputs.complaints.isEmpty then 0 else 1
    unread := if inputs.usesInput then [] else call.input
    files := call.files }

/-- The number that decimal digits spell. -/
def numberOf? (text : Octets) : Option Nat :=
  if text.isEmpty || !text.all Char.isDigit then none
  else some (text.foldl (fun n c => 10 * n + (c.toNat - '0'.toNat)) 0)

/-! ## Lines -/

/-- The lines of a text with what ends them. -/
def linesOf (ending : Char) (text : Octets) : List Octets :=
  text.foldr
    (fun c lines =>
      match lines with
      | [] => [[c]]
      | line :: lines => if c = ending then [c] :: line :: lines else (c :: line) :: lines)
    []

/-- The units of a text: lines with what ends them, or bytes. -/
def unitsOf (ofLines : Bool) (ending : Char) (text : Octets) : List Octets :=
  if ofLines then linesOf ending text else text.map ([·])

end TemplateVariants
