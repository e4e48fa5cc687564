import TemplateVariants.Storage.Permission
import TemplateVariants.Utility.Options
import TemplateVariants.Utility.Quoting

/-!
# Copying and moving files

`cp` copies files, and directories with all that is in them if it is told to; `mv` gives files and
directories another place. The last operand is the goal: a directory that gets all the others, or
the new path of the only other one.
-/

namespace TemplateVariants
namespace Transfer

open Quoting

/-- What is done with files that are in the way, and what else the options say. -/
structure Manner where
  recursive : Bool := false
  keepsOld : Bool := false
  verbose : Bool := false
  wholeGoal : Bool := false
  goal? : Option Octets := none
  asks : Bool := false

def copyTable : OptionTable where
  shorts := [('a', .nothing), ('d', .nothing), ('f', .nothing), ('H', .nothing), ('i', .nothing),
    ('L', .nothing), ('l', .nothing), ('n', .nothing), ('P', .nothing), ('p', .nothing),
    ('R', .nothing), ('r', .nothing), ('s', .nothing), ('T', .nothing), ('t', .value),
    ('u', .nothing), ('v', .nothing), ('x', .nothing)]
  longs :=
    [("archive", .nothing, 'a'), ("force", .nothing, 'f'), ("interactive", .nothing, 'i'),
      ("no-clobber", .nothing, 'n'), ("recursive", .nothing, 'r'),
      ("no-target-directory", .nothing, 'T'), ("target-directory", .value, 't'),
      ("update", .optional, 'u'), ("verbose", .nothing, 'v'), ("preserve", .optional, 'p'),
      ("no-preserve", .value, 'x'), ("parents", .nothing, 'x'), ("dereference", .nothing, 'L'),
      ("no-dereference", .nothing, 'P'), ("one-file-system", .nothing, 'x')]

def moveTable : OptionTable where
  shorts := [('f', .nothing), ('i', .nothing), ('n', .nothing), ('T', .nothing), ('t', .value),
    ('u', .nothing), ('v', .nothing)]
  longs :=
    [("force", .nothing, 'f'), ("interactive", .nothing, 'i'), ("no-clobber", .nothing, 'n'),
      ("no-target-directory", .nothing, 'T'), ("target-directory", .value, 't'),
      ("update", .optional, 'u'), ("verbose", .nothing, 'v'),
      ("strip-trailing-slashes", .nothing, 'x')]

def Manner.set (m : Manner) (setting : Setting) : Manner :=
  match setting.letter with
  | 'a' | 'R' | 'r' => { m with recursive := true }
  | 'n' => { m with keepsOld := true, asks := false }
  | 'f' => { m with keepsOld := false, asks := false }
  | 'i' => { m with keepsOld := false, asks := true }
  | 'T' => { m with wholeGoal := true }
  | 't' => { m with goal? := some setting.value }
  | 'v' => { m with verbose := true }
  | _ => m

/-- The last name of a path. -/
def lastName (path : Octets) : Octets :=
  let backwards := path.reverse.dropWhile (· = '/')
  if backwards.isEmpty then path.take 1 else (backwards.takeWhile (· ≠ '/')).reverse

/-- The path of a name in a directory. -/
def inside (directory name : Octets) : Octets :=
  if directory.getLast? = some '/' then directory ++ name else directory ++ '/' :: name

def because (fault : StorageFault) : Octets :=
  Text.octets (": " ++ fault.reason)

def endsInSlash (path : Octets) : Bool :=
  path.getLast? == some '/'

/-- Where a new path leads to. A slash at its end asks for a directory. -/
def goalPlace (files : FileTree) (path : Octets) (isDirectory : Bool) :
    Except StorageFault (List String) :=
  let bare := if isDirectory then (path.reverse.dropWhile (· = '/')).reverse else path
  match files.locate (pathOfOctets (if bare.isEmpty then path else bare)) with
  | .ok place =>
    if endsInSlash path ∧ !isDirectory ∧ (files.node? place).isNone then .error .notDirectory
    else .ok place
  | .error fault =>
    if endsInSlash path ∧ fault = .missing then
      match files.locate (pathOfOctets (path.reverse.dropWhile (· = '/')).reverse) with
      | .ok _ => .error .notDirectory
      | .error fault => .error fault
    else .error fault

/-- Whether the answer on the input allows to replace a file; the answer is taken from the input. -/
def answer (reply : Reply) : Bool × Reply :=
  let line := reply.unread.takeWhile (· ≠ '\n')
  let isYes := line.head? == some 'y' || line.head? == some 'Y'
  (isYes, { reply with unread := reply.unread.drop (line.length + 1) })

/-- Goes on if a file that is in the way may be replaced. -/
def Manner.allowed (m : Manner) (call : Call) (reply : Reply) (goal : Octets) (isThere : Bool)
    (next : Reply → Reply) : Reply :=
  if !isThere then next reply
  else if m.keepsOld then reply
  else if m.asks then
    let question := Text.octets (call.name ++ ": overwrite ") ++ quoteName goal ++ ['?', ' ']
    let (isYes, reply) := answer { reply with errors := reply.errors ++ question }
    if isYes then next reply else { reply with status := 1 }
  else next reply

/-- The lines that tell of a copy of a directory. -/
def copied (files : FileTree) (place : List String) (source goal : Octets) : Octets :=
  let line (other : List String) : Octets :=
    let extend (path : Octets) : Octets :=
      (other.drop place.length).foldl (fun path name => inside path (Text.octets name)) path
    quoteName (extend source) ++ " -> ".toList ++ quoteName (extend goal) ++ ['\n']
  (place :: files.below place).flatMap line

/-- Copies a file of a tree to a path; the place of a device is the root. -/
def Manner.copyFile (m : Manner) (call : Call) (goal : Octets) (reply : Reply) (source : Octets)
    (place : List String) (bytes : ByteArray) : Reply :=
  let files := reply.files
  let fail (what : Octets) : Reply := reply.complain call what
  if goal = "/dev/null".toList then reply
  else if goal = "/dev/stdout".toList then reply.say (Text.octetsOfBytes bytes)
  else
    match goalPlace files goal false with
    | .error fault =>
      let what := if fault = .notDirectory ∧ !endsInSlash goal then "cannot stat "
        else "cannot create regular file "
      fail (Text.octets what ++ quoteName goal ++ because fault)
    | .ok other =>
      if other = place then
        fail (quoteName source ++ " and ".toList ++ quoteName goal ++
          Text.octets " are the same file")
      else if files.isDirectoryAt other then
        fail (Text.octets "cannot overwrite directory " ++ quoteName goal ++
          Text.octets " with non-directory")
      else
        m.allowed call reply goal (files.node? other).isSome fun reply =>
          let isThere := (reply.files.node? other).isSome
          let mode :=
            Permission.without (if place.isEmpty then 0o666 else files.permissions place) call.mask
          let result := reply.files.put other (.file bytes)
          let result := if isThere ∨ mode = 0o644 then result else result.permit other mode
          let reply := { reply with files := result }
          if m.verbose then
            reply.say (quoteName source ++ " -> ".toList ++ quoteName goal ++ ['\n'])
          else reply

/-- Copies what a path leads to. -/
def Manner.copy (m : Manner) (call : Call) (goal : Octets) (reply : Reply) (source : Octets) :
    Reply :=
  let files := reply.files
  let fail (what : Octets) : Reply := reply.complain call what
  let found : Except StorageFault (List String × FileNode) :=
    match call.device? source with
    | some text => .ok ([], .file (Text.bytesOfOctets text))
    | none => do return (← files.locate (pathOfOctets source), ← files.find (pathOfOctets source))
  match found with
  | .error fault => fail (Text.octets "cannot stat " ++ quoteName source ++ because fault)
  | .ok (place, .file bytes) => m.copyFile call goal reply source place bytes
  | .ok (place, .directory) =>
    if !m.recursive then
      fail (Text.octets "-r not specified; omitting directory " ++ quoteName source)
    else
      match goalPlace files goal true with
      | .error fault =>
        fail (Text.octets "cannot create directory " ++ quoteName goal ++ because fault)
      | .ok other =>
        if files.isFileAt other then
          fail (Text.octets "cannot overwrite non-directory " ++ quoteName goal ++
            Text.octets " with directory " ++ quoteName source)
        else if place.isPrefixOf other then
          fail (Text.octets "cannot copy a directory, " ++ quoteName source ++
            Text.octets ", into itself, " ++ quoteName goal)
        else
          let reply := { reply with files := files.copyAll place other }
          if m.verbose then reply.say (copied files place source goal) else reply

/-- Moves what a path leads to. -/
def Manner.move (m : Manner) (call : Call) (goal : Octets) (reply : Reply) (source : Octets) :
    Reply :=
  let files := reply.files
  let fail (what : Octets) : Reply := reply.complain call what
  let cannot (reason : Octets) : Reply :=
    fail (Text.octets "cannot move " ++ quoteName source ++ " to ".toList ++ quoteName goal ++
      reason)
  match files.locate (pathOfOctets source), files.find (pathOfOctets source) with
  | .error fault, _ | _, .error fault =>
    fail (Text.octets "cannot stat " ++ quoteName source ++ because fault)
  | .ok place, .ok _ =>
    let isDirectory := files.isDirectoryAt place
    match goalPlace files goal isDirectory with
    | .error fault => cannot (because fault)
    | .ok other =>
      if other = place then
        if isDirectory then
          fail (Text.octets "cannot move " ++ quoteName source ++
            Text.octets " to a subdirectory of itself, " ++
            quoteName (inside goal (lastName source)))
        else
          fail (quoteName source ++ " and ".toList ++ quoteName goal ++
            Text.octets " are the same file")
      else if isDirectory ∧ place.isPrefixOf other then
        fail (Text.octets "cannot move " ++ quoteName source ++
          Text.octets " to a subdirectory of itself, " ++ quoteName goal)
      else if isDirectory ∧ (place.isPrefixOf files.home) then
        cannot (Text.octets ": Device or resource busy")
      else if !isDirectory ∧ files.isDirectoryAt other then
        fail (Text.octets "cannot overwrite directory " ++ quoteName goal ++
          Text.octets " with non-directory")
      else if isDirectory ∧ files.isFileAt other then
        fail (Text.octets "cannot overwrite non-directory " ++ quoteName goal ++
          Text.octets " with directory " ++ quoteName source)
      else if isDirectory ∧ !(files.below other).isEmpty then
        fail (Text.octets "cannot overwrite " ++ quoteName goal ++
          Text.octets ": Directory not empty")
      else
        m.allowed call reply goal (files.node? other).isSome fun reply =>
          let result := if isDirectory then reply.files.moveAll place other
            else (reply.files.copyAll place other).erase place
          let reply := { reply with files := result }
          if m.verbose then
            reply.say (Text.octets "renamed " ++ quoteName source ++ " -> ".toList ++
              quoteName goal ++ ['\n'])
          else reply

/-- Carries each source into a directory, or the only source to a new path. -/
def Manner.run (m : Manner) (call : Call) (operands : List Octets)
    (carry : Octets → Reply → Octets → Reply) : Reply :=
  let isDirectory (path : Octets) : Bool := call.files.isDirectory (pathOfOctets path)
  let into (directory : Octets) (sources : List Octets) : Reply :=
    sources.foldl (fun reply source => carry (inside directory (lastName source)) reply source)
      call.done
  let noTarget (path : Octets) : Reply :=
    let fault : StorageFault :=
      match call.files.find (pathOfOctets path) with
      | .ok _ => .notDirectory
      | .error fault => fault
    call.refuse (Text.octets "target " ++ quoteName path ++ because fault)
  match m.goal?, operands with
  | _, [] => call.refuseUsage (Text.octets "missing file operand")
  | some goal, sources =>
    if isDirectory goal then into goal sources
    else
      let fault : StorageFault :=
        match call.files.find (pathOfOctets goal) with
        | .ok _ => .notDirectory
        | .error fault => fault
      call.refuse (Text.octets "target directory " ++ quoteName goal ++ because fault)
  | none, [source] =>
    call.refuseUsage (Text.octets "missing destination file operand after " ++ quoteName source)
  | none, [source, goal] =>
    if isDirectory goal ∧ !m.wholeGoal then into goal [source] else carry goal call.done source
  | none, operands =>
    let goal := operands.getLast?.getD []
    if m.wholeGoal then
      call.refuseUsage (Text.octets "extra operand " ++ quoteName (operands[2]?.getD []))
    else if isDirectory goal then into goal operands.dropLast
    else noTarget goal

end Transfer

def cp : Utility := fun call =>
  let read := Transfer.copyTable.read call.arguments
  match read.fault? with
  | some what => call.refuseUsage what
  | none =>
    let m := read.settings.foldl Transfer.Manner.set {}
    let reply := m.run call read.operands (m.copy call)
    let warning :=
      if m.keepsOld ∧ reply.errors.isEmpty then
        call.complaint (Text.octets
          ("warning: behavior of -n is non-portable and may change in future; " ++
            "use --update=none instead"))
      else []
    { reply with errors := warning ++ reply.errors }

def mv : Utility := fun call =>
  let read := Transfer.moveTable.read call.arguments
  match read.fault? with
  | some what => call.refuseUsage what
  | none =>
    let m := read.settings.foldl Transfer.Manner.set {}
    m.run call read.operands (m.move call)

end TemplateVariants
