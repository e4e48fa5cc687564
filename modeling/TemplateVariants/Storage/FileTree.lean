import Std.Data.HashMap
import TemplateVariants.Storage.Basic
import TemplateVariants.Storage.Path
import TemplateVariants.Text.Utf8

/-!
# File trees

A tree of directories and files of bytes, and a directory in it that relative paths start from. A
path is followed step by step, and each step needs a directory to stand in. Writing a file makes
the directories above it that are missing.
-/

namespace TemplateVariants

inductive FileNode where
  | file (bytes : ByteArray)
  | directory

/-- The nodes by their place, a place being the names from the root down, and the permissions that
are not the usual ones. -/
structure FileTree where
  nodes : Std.HashMap (List String) FileNode := {}
  modes : Std.HashMap (List String) Nat := {}
  home : List String := []

namespace FileTree

/-- The node at a place; the root is always a directory. -/
def node? (tree : FileTree) (place : List String) : Option FileNode :=
  if place = [] then some .directory else tree.nodes[place]?

def put (tree : FileTree) (place : List String) (node : FileNode) : FileTree :=
  { tree with nodes := tree.nodes.insert place node }

/-- The tree without the node at a place. -/
def erase (tree : FileTree) (place : List String) : FileTree :=
  { tree with nodes := tree.nodes.erase place, modes := tree.modes.erase place }

/-- The tree without the node at a place and all that is in it. -/
def eraseAll (tree : FileTree) (place : List String) : FileTree :=
  { tree with
    nodes := tree.nodes.filter fun other _ => !place.isPrefixOf other
    modes := tree.modes.filter fun other _ => !place.isPrefixOf other }

theorem node?_put (tree : FileTree) (place other : List String) (node : FileNode)
    (h : place ≠ []) :
    (tree.put place node).node? other = if other = place then some node else tree.node? other := by
  unfold node? put
  by_cases ho : other = place
  · simp [ho, h]
  · by_cases hr : other = []
    · simp [hr, h.symm]
    · simp [Std.HashMap.getElem?_insert, ho, hr, Ne.symm ho]

def isDirectoryAt (tree : FileTree) (place : List String) : Bool :=
  match tree.node? place with
  | some .directory => true
  | _ => false

def isFileAt (tree : FileTree) (place : List String) : Bool :=
  match tree.node? place with
  | some (.file _) => true
  | _ => false

/-! ## Permissions -/

/-- The permissions of the node at a place. -/
def permissions (tree : FileTree) (place : List String) : Nat :=
  (tree.modes[place]?).getD (if tree.isDirectoryAt place then 0o755 else 0o644)

def permit (tree : FileTree) (place : List String) (permissions : Nat) : FileTree :=
  { tree with modes := tree.modes.insert place permissions }

/-- Puts a new node that gets all the usual permissions but those in a mask. -/
def putMasked (tree : FileTree) (place : List String) (node : FileNode) (mask : Nat) : FileTree :=
  let bits :=
    match node with
    | .file _ => 0o666
    | .directory => 0o777
  let tree := tree.put place node
  if mask = 0o022 then tree else tree.permit place (bits &&& (0o777 ^^^ mask))

/-- Whether a program may be run from the node at a place. -/
def isExecutableAt (tree : FileTree) (place : List String) : Bool :=
  tree.permissions place &&& 0o111 != 0

/-! ## Following a path -/

/-- The greatest number of bytes in the name of a node. -/
def maxNameSize : Nat := 255

/-- The greatest number of bytes in a path. -/
def maxPathSize : Nat := 4095

/-- The place one step on from a place. -/
def follow (tree : FileTree) (place : List String) (step : Path.Component) :
    Except StorageFault (List String) :=
  match step with
  | .root => .ok []
  | _ =>
    match tree.node? place with
    | none => .error .missing
    | some (.file _) => .error .notDirectory
    | some .directory =>
      match step with
      | .root => .ok []
      | .current => .ok place
      | .parent => .ok place.dropLast
      | .name text =>
        if text.utf8ByteSize ≤ maxNameSize then .ok (place ++ [text]) else .error .nameTooLong

/-- Refuses the paths that are not even looked at: those with a NUL and those that are too long. -/
def screen (path : String) : Except StorageFault Unit :=
  if path.toList.contains '\x00' then .error .nulInPath
  else if maxPathSize < path.utf8ByteSize then .error .nameTooLong
  else .ok ()

/-- The steps of a path that has to be there: a slash at its end asks for a directory. -/
def stepsOf (path : String) : List Path.Component :=
  if path.toList.getLast? = some '/' then Path.steps path ++ [.current] else Path.steps path

/-- The place at the end of the steps; there need be nothing at it yet. -/
def walk (tree : FileTree) (steps : List Path.Component) : Except StorageFault (List String) :=
  if steps = [] then .error .missing else steps.foldlM tree.follow tree.home

/-- The place that a path leads to; there need be nothing at it yet. -/
def locate (tree : FileTree) (path : String) : Except StorageFault (List String) := do
  screen path
  tree.walk (stepsOf path)

/-- The node that a path leads to. -/
def find (tree : FileTree) (path : String) : Except StorageFault FileNode := do
  match tree.node? (← tree.locate path) with
  | none => .error .missing
  | some node => return node

def isDirectory (tree : FileTree) (path : String) : Bool :=
  match tree.find path with
  | .ok .directory => true
  | _ => false

/-! ## Reading -/

/-- The bytes of a file. -/
def readBytes (tree : FileTree) (path : String) : Except StorageFault ByteArray := do
  match ← tree.find path with
  | .directory => .error .isDirectory
  | .file bytes => return bytes

def readText (tree : FileTree) (path : String) : Except StorageFault String := do
  match Text.decode? (← tree.readBytes path) with
  | some text => return text
  | none => .error .notText

/-- The names and nodes in the directory at a place, in no particular order. -/
def children (tree : FileTree) (place : List String) : List (String × FileNode) :=
  tree.nodes.toList.filterMap fun (child, node) =>
    match child.getLast? with
    | some name => if child.dropLast = place then some (name, node) else none
    | none => none

/-- The names and nodes in a directory, in no particular order; none if it cannot be read. -/
def list (tree : FileTree) (path : String) : List (String × FileNode) :=
  match tree.locate path with
  | .error _ => []
  | .ok place => tree.children place

/-! ## Writing -/

/-- Makes the directories that are missing on the way along the steps; `made` tells whether one has
been made. A file in the way is met by the making if there has been any, and by the way if not. -/
def makeWay (tree : FileTree) (place : List String) (made : Bool) :
    List Path.Component → Except StorageFault Unit × FileTree
  | [] => (.ok (), tree)
  | step :: rest =>
    match tree.follow place step with
    | .error fault => (.error fault, tree)
    | .ok next =>
      match tree.node? next with
      | none => makeWay (tree.put next .directory) next true rest
      | some .directory => makeWay tree next made rest
      | some (.file _) =>
        (.error (if made || rest.isEmpty then .exists else .notDirectory), tree)

/-- Makes a directory and those above it that are missing. -/
def makeDirectories (tree : FileTree) (path : String) : Except StorageFault Unit × FileTree :=
  match screen path with
  | .error fault => (.error fault, tree)
  | .ok _ => tree.makeWay tree.home false (Path.components path)

/-- The place of a file that is to be written. A slash at the end asks for a directory, whatever the
last name is. -/
def target (tree : FileTree) (path : String) : Except StorageFault (List String) := do
  screen path
  if path.toList.getLast? = some '/' then
    let _ ← tree.walk ((Path.steps path).dropLast ++ [.current])
    .error .isDirectory
  else
    let place ← tree.walk (Path.steps path)
    if tree.isDirectoryAt place then .error .isDirectory else return place

/-- Writes a file in a directory that is there. -/
def putFile (tree : FileTree) (path : String) (bytes : ByteArray) :
    Except StorageFault FileTree := do
  return tree.put (← tree.target path) (.file bytes)

/-- Writes a file, and makes the directories above it. -/
def writeText (tree : FileTree) (path text : String) : Except StorageFault Unit × FileTree :=
  let parent := (Path.parent? path).getD ""
  let (outcome, tree) := if parent.isEmpty then (.ok (), tree) else tree.makeDirectories parent
  match outcome with
  | .error fault => (.error fault, tree)
  | .ok _ =>
    match tree.putFile path text.toUTF8 with
    | .ok tree => (.ok (), tree)
    | .error fault => (.error fault, tree)

instance : Storage FileTree where
  readLines tree path := (tree.readText path).map Text.keepingEnds
  writeText := writeText

/-! ## Branches -/

/-- The places of all that is in the directory at a place, in order. -/
def below (tree : FileTree) (place : List String) : List (List String) :=
  let places := (tree.nodes.toList.map Prod.fst).filter fun other =>
    place.isPrefixOf other && other != place
  places.mergeSort fun a b => !decide (b < a)

/-- The tree with a copy of the node at a place, and of all that is in it, at another place. What is
there already stays unless a copy takes its place. -/
def copyAll (tree : FileTree) (place goal : List String) : FileTree :=
  (place :: tree.below place).foldl
    (fun result other =>
      match tree.nodes[other]? with
      | none => result
      | some node =>
        let copy := goal ++ other.drop place.length
        let result := result.put copy node
        match tree.modes[other]? with
        | some mode => result.permit copy mode
        | none => { result with modes := result.modes.erase copy })
    tree

/-- The tree with the node at a place, and all that is in it, moved to another place. -/
def moveAll (tree : FileTree) (place goal : List String) : FileTree :=
  (tree.copyAll place goal).eraseAll place

/-! ## Whole trees -/

/-- The tree with the directories on the way to a place. -/
def withParents (tree : FileTree) (place : List String) : FileTree :=
  (List.range place.length).foldl
    (fun tree n =>
      match tree.node? (place.take n) with
      | none => tree.put (place.take n) .directory
      | some _ => tree)
    tree

/-- The tree with one more node, given by its path from the home directory. -/
def add (tree : FileTree) (path : String) (node : FileNode) : FileTree :=
  let place := (Path.steps path).foldl
    (fun place step =>
      match step with
      | .root => []
      | .current => place
      | .parent => place.dropLast
      | .name text => place ++ [text])
    tree.home
  (tree.withParents place).put place node

def sameNode : Option FileNode → FileNode → Bool
  | some (.file a), .file b => a == b
  | some .directory, .directory => true
  | _, _ => false

/-- What stands in `tree` and did not stand so in the earlier tree: nodes and their paths, which
start from the home directory for what is in it and from the root for the rest; in no particular
order. -/
def changesSince (tree earlier : FileTree) : List (String × FileNode) :=
  tree.nodes.toList.filterMap fun (place, node) =>
    if sameNode (earlier.node? place) node then none
    else if tree.home.isPrefixOf place then
      some (String.intercalate "/" (place.drop tree.home.length), node)
    else some (Path.ofPlace place, node)

end FileTree

end TemplateVariants
