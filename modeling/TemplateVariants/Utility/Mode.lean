import TemplateVariants.Storage.Permission
import TemplateVariants.Utility.Options
import TemplateVariants.Utility.Quoting

/-!
# Changing permissions

`chmod` changes the permissions of files, and of all that is in directories if it is told to.
-/

namespace TemplateVariants
namespace ChangeMode

open Quoting

structure Manner where
  recursive : Bool := false
  verbose : Bool := false
  tellsChanges : Bool := false
  quiet : Bool := false
  reference? : Option Octets := none

def table : OptionTable where
  shorts := [('R', .nothing), ('v', .nothing), ('c', .nothing), ('f', .nothing)]
  longs :=
    [("recursive", .nothing, 'R'), ("verbose", .nothing, 'v'), ("changes", .nothing, 'c'),
      ("quiet", .nothing, 'f'), ("silent", .nothing, 'f'), ("reference", .value, 'r'),
      ("preserve-root", .nothing, 'x'), ("no-preserve-root", .nothing, 'x')]

def Manner.set (m : Manner) (setting : Setting) : Manner :=
  match setting.letter with
  | 'R' => { m with recursive := true }
  | 'v' => { m with verbose := true }
  | 'c' => { m with tellsChanges := true }
  | 'f' => { m with quiet := true }
  | 'r' => { m with reference? := some setting.value }
  | _ => m

/-- Whether an argument is a change that looks like options. -/
def isChange (arg : Octets) : Bool :=
  match arg with
  | '-' :: c :: _ => "rwxXstugo0123456789,=+".toList.contains c
  | _ => false

def fourDigits (mode : Nat) : Octets :=
  let digits := Nat.toDigits 8 mode
  List.replicate (4 - digits.length) '0' ++ digits

/-- What is said of the permissions of a file before and after. -/
def Manner.tell (m : Manner) (path : Octets) (before after : Nat) : Octets :=
  let both (mode : Nat) : Octets := fourDigits mode ++ " (".toList ++ Permission.text mode ++ [')']
  if before ≠ after ∧ (m.verbose ∨ m.tellsChanges) then
    Text.octets "mode of " ++ quoteName path ++ Text.octets " changed from " ++ both before ++
      Text.octets " to " ++ both after ++ ['\n']
  else if m.verbose then
    Text.octets "mode of " ++ quoteName path ++ Text.octets " retained as " ++ both after ++ ['\n']
  else []

/-- Changes the permissions of the node at a place. -/
def Manner.changeAt (m : Manner) (call : Call) (change : Octets) (reply : Reply) (path : Octets)
    (place : List String) : Reply :=
  let before := reply.files.permissions place
  match Permission.change? call.mask (reply.files.isDirectoryAt place) change before with
  | none => reply
  | some after =>
    { reply with files := reply.files.permit place after }.say (m.tell path before after)

def Manner.run (m : Manner) (call : Call) (change : Octets) (reply : Reply) (path : Octets) :
    Reply :=
  let refuse (fault : StorageFault) : Reply :=
    if m.quiet then { reply with status := 1 }
    else
      reply.complain call
        (Text.octets "cannot access " ++ quoteName path ++ Text.octets (": " ++ fault.reason))
  match reply.files.locate (pathOfOctets path) with
  | .error fault => refuse fault
  | .ok place =>
    if (reply.files.node? place).isNone then refuse .missing
    else
      let reply := m.changeAt call change reply path place
      if m.recursive then
        (reply.files.below place).foldl
          (fun reply other =>
            let steps := other.drop place.length
            let name := steps.foldl (fun path name => path ++ '/' :: Text.octets name) path
            m.changeAt call change reply name other)
          reply
      else reply

end ChangeMode

def chmod : Utility := fun call =>
  let (changes, others) := call.arguments.partition ChangeMode.isChange
  let read := ChangeMode.table.read others
  let m := read.settings.foldl ChangeMode.Manner.set {}
  let given :=
    if changes.isEmpty then read.operands else List.intercalate [','] changes :: read.operands
  match read.fault?, m.reference?, given with
  | some what, _, _ => call.refuseUsage what
  | none, some path, operands =>
    match call.files.locate (pathOfOctets path) with
    | .ok place =>
      if (call.files.node? place).isSome then
        operands.foldl (m.run call (ChangeMode.fourDigits (call.files.permissions place))) call.done
      else
        call.refuse (Text.octets "failed to get attributes of " ++ Quoting.quoteName path ++
          Text.octets (": " ++ StorageFault.reason .missing))
    | .error fault =>
      call.refuse (Text.octets "failed to get attributes of " ++ Quoting.quoteName path ++
        Text.octets (": " ++ fault.reason))
  | none, none, [] => call.refuseUsage (Text.octets "missing operand")
  | none, none, change :: [] =>
    call.refuseUsage (Text.octets "missing operand after " ++ OptionTable.quote change)
  | none, none, change :: operands =>
    match Permission.change? call.mask false change 0 with
    | none => call.refuseUsage (Text.octets "invalid mode: " ++ OptionTable.quote change)
    | some _ => operands.foldl (m.run call change) call.done

end TemplateVariants
