/-!
# Paths

A path is read as components: the root, names, and the two special names for the same and for the
upper directory. Normalizing resolves the special names without looking at any file.
-/

namespace TemplateVariants
namespace Path

inductive Component where
  | root
  | current
  | parent
  | name (text : String)
deriving DecidableEq, Repr

/-- The parts of a text between its slashes; there is one more of them than there are slashes. -/
def splitSlashes (s : List Char) : List (List Char) :=
  s.foldr
    (fun c parts =>
      if c = '/' then [] :: parts
      else
        match parts with
        | [] => [[c]]
        | part :: parts => (c :: part) :: parts)
    [[]]

/-- What a part between slashes stands for; an empty part stands for nothing. -/
def componentOf? (part : List Char) : Option Component :=
  if part = [] then none
  else if part = ['.'] then some .current
  else if part = ['.', '.'] then some .parent
  else some (.name (String.ofList part))

/-- The components as they are written. -/
def steps (path : String) : List Component :=
  let s := path.toList
  let parts := (splitSlashes s).filterMap componentOf?
  if s.head? = some '/' then .root :: parts else parts

/-- Drops the same-directory components, but keeps one that the path starts with. -/
def tidy : List Component → List Component
  | [] => []
  | first :: rest => first :: rest.filter (· ≠ .current)

/-- The components of a path, where the ones that change nothing are left out. -/
def components (path : String) : List Component :=
  tidy (steps path)

/-! ## Normal form -/

/-- Puts a component on the path so far, which is held backwards. The upper directory takes away
whatever is there, and nothing from nothing. -/
def push (stack : List Component) : Component → List Component
  | .current => stack
  | .parent => stack.tail
  | component => component :: stack

def normalize (path : String) : List Component :=
  ((steps path).foldl push []).reverse

def componentText : Component → String
  | .root => "/"
  | .current => "."
  | .parent => ".."
  | .name text => text

/-- The text of a path with the given components. -/
def display : List Component → String
  | .root :: rest => "/" ++ String.intercalate "/" (rest.map componentText)
  | components => String.intercalate "/" (components.map componentText)

/-- The path from the root to what stands under the given names. -/
def ofPlace (place : List String) : String :=
  "/" ++ String.intercalate "/" place

/-! ## The path above -/

/-- Drops the slashes and the same-directory components at the end of a text that is held backwards,
but not the root and not a component that the path starts with. -/
def dropIdle : List Char → List Char
  | ['/'] => ['/']
  | '/' :: cs => dropIdle cs
  | '.' :: '/' :: cs => dropIdle ('/' :: cs)
  | cs => cs
termination_by cs => cs.length

/-- The text of the path without its last component; none for the root and for a path without
components. -/
def parent? (path : String) : Option String :=
  match (components path).reverse with
  | [] => none
  | [.root] => none
  | _ =>
    let before := (dropIdle path.toList.reverse).dropWhile (· ≠ '/')
    some (String.ofList (dropIdle before).reverse)

/-! ## Names of files -/

/-- The last component, if it is a name. -/
def fileName? (path : String) : Option String :=
  match (components path).getLast? with
  | some (.name text) => some text
  | _ => none

/-- The parts of a name before and after its last point; a point at its start does not count. -/
def splitExtension (name : String) : String × Option String :=
  let backwards := name.toList.reverse
  match backwards.dropWhile (· ≠ '.') with
  | [] => (name, none)
  | _ :: before =>
    if before = [] then (name, none)
    else
      (String.ofList before.reverse,
        some (String.ofList (backwards.takeWhile (· ≠ '.')).reverse))

/-- The name of a file without its extension; nothing if the path does not end in a name. -/
def stem (path : String) : String :=
  match fileName? path with
  | some name => (splitExtension name).1
  | none => ""

def extension? (path : String) : Option String :=
  (fileName? path).bind fun name => (splitExtension name).2

/-- The path of a file in a directory. The directory stays as it is written, with a slash after it
if it ends in none; a path from the root takes its place. -/
def join (directory file : String) : String :=
  if file.toList.head? = some '/' ∨ directory.isEmpty then file
  else if directory.toList.getLast? = some '/' then directory ++ file
  else directory ++ "/" ++ file

end Path
end TemplateVariants
