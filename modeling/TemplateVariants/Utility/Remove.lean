import TemplateVariants.Utility.Options
import TemplateVariants.Utility.Quoting

/-!
# Removing files

`rm` removes files, and directories with all that is in them if it is told to; `rmdir` removes empty
directories.
-/

namespace TemplateVariants
namespace Remove

open Quoting

structure Manner where
  force : Bool := false
  recursive : Bool := false
  directories : Bool := false
  verbose : Bool := false

def table : OptionTable where
  shorts := "firRdvI".toList.map fun c => (c, .nothing)
  longs :=
    [("force", .nothing, 'f'), ("recursive", .nothing, 'r'), ("dir", .nothing, 'd'),
      ("verbose", .nothing, 'v'), ("interactive", .optional, 'I'),
      ("one-file-system", .nothing, 'x'),
      ("no-preserve-root", .nothing, 'x'), ("preserve-root", .optional, 'x')]

def Manner.set (m : Manner) (letter : Char) : Manner :=
  match letter with
  | 'f' => { m with force := true }
  | 'r' | 'R' => { m with recursive := true }
  | 'd' => { m with directories := true }
  | 'v' => { m with verbose := true }
  | _ => m

/-- Whether the last name of a path stands for a directory itself or for the one above. -/
def isDots (operand : Octets) : Bool :=
  let parts := (Path.splitSlashes operand).filter (!·.isEmpty)
  parts.getLast? == some ['.'] || parts.getLast? == some ['.', '.']

/-- The line for what has been removed. -/
def removed (isDirectory : Bool) (path : Octets) : Octets :=
  Text.octets (if isDirectory then "removed directory " else "removed ") ++ quoteName path ++ ['\n']

/-- The lines for all that has been removed below a place, from the deepest on, and for itself. -/
def removedAll (files : FileTree) (place : List String) (operand : Octets) : Octets :=
  let line (other : List String) : Octets :=
    let steps := other.drop place.length
    let path := steps.foldl (fun path name => path ++ '/' :: Text.octets name) operand
    removed (files.isDirectoryAt other) path
  (files.below place).reverse.flatMap line ++ line place

/-- Removes what an operand leads to. -/
def Manner.remove (m : Manner) (call : Call) (reply : Reply) (operand : Octets) : Reply :=
  let refuse (reason : String) : Reply :=
    reply.complain call
      (Text.octets "cannot remove " ++ quoteName operand ++ Text.octets (": " ++ reason))
  if m.recursive ∧ isDots operand then
    reply.complain call
      (Text.octets "refusing to remove '.' or '..' directory: skipping " ++ quoteName operand)
  else
    match reply.files.locate (pathOfOctets operand) with
    | .error fault =>
      if m.force ∧ (fault = .missing ∨ fault = .notDirectory) then reply else refuse fault.reason
    | .ok place =>
      match reply.files.node? place with
      | none => if m.force then reply else refuse (StorageFault.reason .missing)
      | some (.file _) =>
        let reply := if m.verbose then reply.say (removed false operand) else reply
        { reply with files := reply.files.erase place }
      | some .directory =>
        if !m.recursive ∧ !m.directories then refuse (StorageFault.reason .isDirectory)
        else if !m.recursive ∧ !(reply.files.below place).isEmpty then refuse "Directory not empty"
        else if place = [] then
          let reply :=
            reply.complain call (Text.octets "it is dangerous to operate recursively on '/'")
          reply.complain call (Text.octets "use --no-preserve-root to override this failsafe")
        else
          let reply := if m.verbose then reply.say (removedAll reply.files place operand) else reply
          { reply with files := reply.files.eraseAll place }

end Remove

def rm : Utility := fun call =>
  let read := Remove.table.read call.arguments
  match read.fault? with
  | some what => call.refuseUsage what
  | none =>
    let m := read.settings.foldl (fun m setting => m.set setting.letter) ({} : Remove.Manner)
    if read.operands.isEmpty then
      if m.force then call.done else call.refuseUsage (Text.octets "missing operand")
    else read.operands.foldl (m.remove call) call.done

namespace RemoveDirectory

open Quoting

structure Manner where
  parents : Bool := false
  ignoresFilled : Bool := false
  verbose : Bool := false

def table : OptionTable where
  shorts := [('p', .nothing), ('v', .nothing)]
  longs :=
    [("parents", .nothing, 'p'), ("verbose", .nothing, 'v'),
      ("ignore-fail-on-non-empty", .nothing, 'i')]

def Manner.set (m : Manner) (letter : Char) : Manner :=
  match letter with
  | 'p' => { m with parents := true }
  | 'v' => { m with verbose := true }
  | 'i' => { m with ignoresFilled := true }
  | _ => m

/-- Removes the directory at a path; tells whether it has. -/
def Manner.remove (m : Manner) (call : Call) (reply : Reply) (operand : Octets) (isParent : Bool) :
    Reply × Bool :=
  let what := if isParent then "failed to remove directory " else "failed to remove "
  let reply :=
    if m.verbose then
      reply.say (call.complaint (Text.octets "removing directory, " ++ quoteName operand))
    else reply
  let refuse (reason : String) : Reply × Bool :=
    (reply.complain call (Text.octets what ++ quoteName operand ++ Text.octets (": " ++ reason)),
      false)
  match reply.files.locate (pathOfOctets operand) with
  | .error fault => refuse fault.reason
  | .ok place =>
    match reply.files.node? place with
    | none => refuse (StorageFault.reason .missing)
    | some (.file _) => refuse (StorageFault.reason .notDirectory)
    | some .directory =>
      if ((Path.splitSlashes operand).filter (!·.isEmpty)).getLast? = some ['.'] then
        refuse "Invalid argument"
      else if (reply.files.below place).isEmpty ∧ place ≠ [] then
        ({ reply with files := reply.files.erase place }, true)
      else if m.ignoresFilled then (reply, false)
      else refuse "Directory not empty"

/-- The paths above a path, the nearest first, without slashes at their ends. -/
def pathsAbove : Nat → Octets → List Octets
  | 0, _ => []
  | fuel + 1, path =>
    let backwards := path.reverse.dropWhile (· = '/')
    match backwards.dropWhile (· ≠ '/') with
    | [] => []
    | rest =>
      let parent := (rest.dropWhile (· = '/')).reverse
      if parent.isEmpty then [] else parent :: pathsAbove fuel parent

/-- Removes the directory at a path, and then those above it if that is asked for. -/
def Manner.run (m : Manner) (call : Call) (reply : Reply) (operand : Octets) : Reply :=
  let above := if m.parents then pathsAbove operand.length operand else []
  let (reply, done) := m.remove call reply operand false
  (above.foldl
    (fun (state : Reply × Bool) path => if state.2 then m.remove call state.1 path true else state)
    (reply, done)).1

end RemoveDirectory

def rmdir : Utility := fun call =>
  let read := RemoveDirectory.table.read call.arguments
  match read.fault? with
  | some what => call.refuseUsage what
  | none =>
    let m := read.settings.foldl (fun m setting => m.set setting.letter)
      ({} : RemoveDirectory.Manner)
    if read.operands.isEmpty then call.refuseUsage (Text.octets "missing operand")
    else read.operands.foldl (m.run call) call.done

end TemplateVariants
