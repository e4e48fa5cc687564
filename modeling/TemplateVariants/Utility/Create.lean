import TemplateVariants.Storage.Permission
import TemplateVariants.Utility.Options
import TemplateVariants.Utility.Quoting

/-!
# Making files

`mkdir` makes directories, and those above them if it is told to; `touch` makes empty files where
there are none.
-/

namespace TemplateVariants
namespace MakeDirectory

open Quoting

structure Manner where
  parents : Bool := false
  verbose : Bool := false
  mode? : Option Octets := none

def table : OptionTable where
  shorts := [('p', .nothing), ('v', .nothing), ('m', .value), ('Z', .nothing)]
  longs := [("parents", .nothing, 'p'), ("verbose", .nothing, 'v'), ("mode", .value, 'm')]

def Manner.set (m : Manner) (setting : Setting) : Manner :=
  match setting.letter with
  | 'p' => { m with parents := true }
  | 'v' => { m with verbose := true }
  | 'm' => { m with mode? := some setting.value }
  | _ => m

/-- The permissions of a new directory. -/
def Manner.mode (m : Manner) (mask : Nat) : Option Nat :=
  match m.mode? with
  | none => some (Permission.without 0o777 mask)
  | some text => Permission.change? mask true text 0o777

def created (path : Octets) : Octets :=
  Text.octets "created directory " ++ quoteName path

def fault (path : Octets) (reason : String) : Octets :=
  Text.octets "cannot create directory " ++ quoteName path ++ Text.octets (": " ++ reason)

/-- Makes a directory at a place. -/
def Manner.put (m : Manner) (call : Call) (reply : Reply) (path : Octets) (place : List String)
    (mode : Nat) : Reply :=
  let files := reply.files.put place .directory
  let files := if mode = 0o755 then files else files.permit place mode
  let reply := { reply with files }
  if m.verbose then reply.say (call.complaint (created path)) else reply

/-- The paths that a path starts with, from the first name to the whole. -/
def starts (path : Octets) : List Octets :=
  let ends := (List.range path.length).filter fun n =>
    path[n]? != some '/' && (path[n + 1]?.getD '/' == '/')
  match ends.reverse with
  | [] => [path]
  | _ :: before => (before.reverse.map fun n => path.take (n + 1)) ++ [path]

/-- Makes the directory at a path, and those on the way that are missing. -/
def Manner.makeAll (m : Manner) (call : Call) (mode : Nat) : Reply → List Octets → Reply
  | reply, [] => reply
  | reply, path :: paths =>
    let isLast := paths.isEmpty
    match reply.files.locate (pathOfOctets path) with
    | .error reason => reply.complain call (fault path reason.reason)
    | .ok place =>
      match reply.files.node? place with
      | some .directory => m.makeAll call mode reply paths
      | some (.file _) =>
        let reason : StorageFault := if isLast then .exists else .notDirectory
        reply.complain call (fault path reason.reason)
      | none =>
        let bits :=
          if isLast then mode else Permission.without 0o777 (Permission.without call.mask 0o300)
        m.makeAll call mode (m.put call reply path place bits) paths

/-- Makes the directory at a path. -/
def Manner.make (m : Manner) (call : Call) (mode : Nat) (reply : Reply) (path : Octets) : Reply :=
  if m.parents then m.makeAll call mode reply (starts path)
  else
    let bare := (path.reverse.dropWhile (· = '/')).reverse
    let bare := if bare.isEmpty then path else bare
    match reply.files.locate (pathOfOctets bare) with
    | .error reason => reply.complain call (fault path reason.reason)
    | .ok place =>
      if (reply.files.node? place).isSome then
        reply.complain call (fault path (StorageFault.reason .exists))
      else m.put call reply path place mode

end MakeDirectory

def mkdir : Utility := fun call =>
  let read := MakeDirectory.table.read call.arguments
  match read.fault? with
  | some what => call.refuseUsage what
  | none =>
    let m := read.settings.foldl MakeDirectory.Manner.set {}
    if read.operands.isEmpty then call.refuseUsage (Text.octets "missing operand")
    else
      match m.mode call.mask with
      | none =>
        call.refuse (Text.octets "invalid mode " ++ OptionTable.quote (m.mode?.getD []))
      | some mode => read.operands.foldl (m.make call mode) call.done

namespace Touch

open Quoting

def table : OptionTable where
  shorts := [('a', .nothing), ('c', .nothing), ('d', .value), ('f', .nothing), ('h', .nothing),
    ('m', .nothing), ('r', .value), ('t', .value)]
  longs :=
    [("no-create", .nothing, 'c'), ("date", .value, 'd'), ("no-dereference", .nothing, 'h'),
      ("reference", .value, 'r'), ("time", .value, 'T')]

/-- Makes an empty file at a path if there is nothing. -/
def run (call : Call) (creates : Bool) (reply : Reply) (path : Octets) : Reply :=
  let refuse (what : String) (fault : StorageFault) : Reply :=
    reply.complain call
      (Text.octets what ++ quoteName path ++ Text.octets (": " ++ fault.reason))
  if path = ['-'] then reply
  else
    let make (fault : StorageFault) : Reply :=
      match creates, reply.files.target (pathOfOctets path) with
      | false, _ => reply
      | true, .ok place =>
        { reply with files := reply.files.putMasked place (.file .empty) call.mask }
      | true, .error _ => refuse "cannot touch " fault
    match reply.files.find (pathOfOctets path) with
    | .ok _ => reply
    | .error .notDirectory => refuse "setting times of " .notDirectory
    | .error fault =>
      if path.getLast? = some '/' then refuse "setting times of " fault
      else make fault

end Touch

def touch : Utility := fun call =>
  let read := Touch.table.read call.arguments
  let value? (letter : Char) := (read.settings.find? (·.letter = letter)).map (·.value)
  match read.fault?, read.operands with
  | some what, _ => call.refuseUsage what
  | none, [] => call.refuseUsage (Text.octets "missing file operand")
  | none, operands =>
    match (value? 'r').filter fun path => (call.files.find (pathOfOctets path)).toOption.isNone with
    | some path =>
      call.refuse (Text.octets "failed to get attributes of " ++ Quoting.quoteName path ++
        Text.octets (": " ++ StorageFault.reason .missing))
    | none => operands.foldl (Touch.run call (value? 'c').isNone) call.done

end TemplateVariants
