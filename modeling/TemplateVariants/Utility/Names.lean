import TemplateVariants.Utility.Options

/-!
# Parts of paths

`basename` writes the last name of a path, and `dirname` the path without it, and they look at no
files; `pwd` writes the path of the directory at hand.
-/

namespace TemplateVariants
namespace Names

/-- A path without the slashes at its end; a path of slashes is one slash. -/
def dropSlashes (path : Octets) : Octets :=
  let bare := (path.reverse.dropWhile (· = '/')).reverse
  if bare.isEmpty then path.take 1 else bare

/-- The last name of a path. -/
def last (path : Octets) : Octets :=
  let bare := dropSlashes path
  if bare = ['/'] then bare else (bare.reverse.takeWhile (· ≠ '/')).reverse

/-- A name without an ending, unless it is nothing else. -/
def withoutEnding (name ending : Octets) : Octets :=
  if ending.isSuffixOf name ∧ ending.length < name.length then
    name.take (name.length - ending.length)
  else name

/-- The path without its last name. -/
def upper (path : Octets) : Octets :=
  let bare := dropSlashes path
  let before := (bare.reverse.dropWhile (· ≠ '/')).reverse
  if bare = ['/'] then bare
  else if before.isEmpty then ['.']
  else dropSlashes before

def baseTable : OptionTable where
  shorts := [('a', .nothing), ('s', .value), ('z', .nothing)]
  longs := [("multiple", .nothing, 'a'), ("suffix", .value, 's'), ("zero", .nothing, 'z')]
  comeFirst := true

def upperTable : OptionTable where
  shorts := [('z', .nothing)]
  longs := [("zero", .nothing, 'z')]

/-- What ends each name in the output. -/
def ending (settings : List Setting) : Octets :=
  if settings.any (·.letter = 'z') then ['\x00'] else ['\n']

end Names

def basename : Utility := fun call =>
  let read := Names.baseTable.read call.arguments
  let ending := Names.ending read.settings
  let suffix? := (read.settings.reverse.find? (·.letter = 's')).map (·.value)
  let several := suffix?.isSome || read.settings.any (·.letter = 'a')
  let write (paths : List Octets) (suffix : Octets) : Reply :=
    { call.done with
      output := paths.flatMap fun path => Names.withoutEnding (Names.last path) suffix ++ ending }
  match read.fault?, read.operands with
  | some what, _ => call.refuseUsage what
  | none, [] => call.refuseUsage (Text.octets "missing operand")
  | none, paths =>
    if several then write paths (suffix?.getD [])
    else
      match paths with
      | [path, suffix] => write [path] suffix
      | _ :: _ :: extra :: _ =>
        call.refuseUsage (Text.octets "extra operand " ++ OptionTable.quote extra)
      | _ => write paths []

def pwd : Utility := fun call =>
  let table : OptionTable :=
    { shorts := [('L', .nothing), ('P', .nothing)]
      longs := [("logical", .nothing, 'L'), ("physical", .nothing, 'P')] }
  let read := table.read call.arguments
  match read.fault? with
  | some what => call.refuseUsage what
  | none =>
    { call.done with
      output := Text.octets ("/" ++ String.intercalate "/" call.files.home) ++ ['\n']
      errors :=
        if read.operands.isEmpty then []
        else call.complaint (Text.octets "ignoring non-option arguments") }

def dirname : Utility := fun call =>
  let read := Names.upperTable.read call.arguments
  match read.fault?, read.operands with
  | some what, _ => call.refuseUsage what
  | none, [] => call.refuseUsage (Text.octets "missing operand")
  | none, paths =>
    { call.done with
      output := paths.flatMap fun path => Names.upper path ++ Names.ending read.settings }

end TemplateVariants
