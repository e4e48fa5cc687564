import TemplateVariants.CommandLine.Run
import TemplateVariants.Suite.Programs

/-!
# The command

Reads the part of the file system that a run can look at, runs, prints, and writes the files that
the run has made.
-/

namespace TemplateVariants
namespace CommandLine

/-- The paths that a request reads and writes. -/
def Request.paths : Request → List String
  | .compile request =>
    request.template ::
      (match request.out? with
        | none => []
        | some out => (List.range request.count).map (request.variantPath out))
  | .check template => [template]
  | .test request => [request.setup.directory]

/-- Adds the node at a path to the tree, if there is one. -/
def addNode (tree : FileTree) (path : String) : IO FileTree := do
  let place := (← IO.currentDir) / path
  if ← place.isDir then
    return tree.add path .directory
  else if ← place.pathExists then
    try
      return tree.add path (.file (← IO.FS.readBinFile place))
    catch _ =>
      return tree
  else
    return tree

/-- Adds a path and all that it passes. -/
def addPath (tree : FileTree) (path : String) : IO FileTree := do
  let steps := Path.steps path
  (List.range steps.length).foldlM
    (fun tree n => addNode tree (Path.display (steps.take (n + 1)))) tree

/-- Adds the nodes in a directory. -/
def addEntries (tree : FileTree) (directory : String) : IO FileTree := do
  let place := (← IO.currentDir) / directory
  if ← place.isDir then
    (← place.readDir).toList.foldlM
      (fun tree entry => addNode tree (Path.join directory entry.fileName)) tree
  else
    return tree

/-- The part of the file system that a request can look at, with the directory for temporary
files. -/
def readTree (request : Request) (temporary : String) : IO FileTree := do
  let home := (Path.steps (← IO.currentDir).toString).filterMap fun step =>
    match step with
    | .name text => some text
    | _ => none
  let tree : FileTree := { home }
  let paths := temporary :: request.paths
  let tree ← paths.foldlM addPath ((tree.withParents home).put home .directory)
  match request with
  | .test _ => request.paths.foldlM addEntries tree
  | _ => return tree

/-- Writes what stands in a tree and not in the earlier one. -/
def writeChanges (tree earlier : FileTree) : IO Unit := do
  let cwd ← IO.currentDir
  let changes := tree.changesSince earlier
  for (path, node) in changes do
    if let .directory := node then
      IO.FS.createDirAll (cwd / path)
  for (path, node) in changes do
    if let .file bytes := node then
      IO.FS.writeBinFile (cwd / path) bytes

/-- The variables of the environment that programs get to see. -/
def readEnvironment : IO (List (String × String)) :=
  ["HOME", "LANG", "LC_ALL", "NO_COLOR", "PATH", "USER"].filterMapM fun x => do
    return (← IO.getEnv x).map fun value => (x, value)

/-- Runs with the given arguments; gives the exit code. -/
def runHere (args : List String) : IO UInt32 := do
  let temporary := (← IO.getEnv "TMPDIR").getD "/tmp"
  let tree ←
    match Invocation.ofArguments? args with
    | some (.run _ request) => readTree request temporary
    | _ => pure {}
  let bytes ← IO.getRandomBytes 8
  let entropy := bytes.toList.foldl (fun n b => n * 256 + b.toUInt64) 0
  let interpreter := Programs.launch (← readEnvironment)
  let scratch := Suite.Scratch.numbered tree temporary
  let result := run { tree, interpreter, scratch, entropy } args
  IO.print result.stdout
  IO.eprint result.stderr
  writeChanges result.tree tree
  return UInt32.ofNat result.code

end CommandLine
end TemplateVariants

def main (args : List String) : IO UInt32 :=
  TemplateVariants.CommandLine.runHere args
