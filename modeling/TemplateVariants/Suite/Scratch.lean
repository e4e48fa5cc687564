import TemplateVariants.Storage.FileTree

/-!
# Scratch directories

The variants of a template stand in a directory that is made for them. Where it is made is not for the
suite to say, and the making may fail.
-/

namespace TemplateVariants
namespace Suite

/-- What it comes to when the directory for the template with a number is made: its place, or the
reason why there is none. -/
abbrev Scratch := Nat → Except String (List String)

namespace Scratch

/-- The name of a scratch directory that is called by its number. -/
def nameOf (number : Nat) : String :=
  let digits := Nat.repr number
  ".tmp" ++ String.ofList (List.replicate (6 - digits.length) '0') ++ digits

/-- Scratch directories in a directory for temporary files. None takes the place of what is there. -/
def numbered (tree : FileTree) (temporary : String) : Scratch := fun number =>
  let path := Path.join temporary (nameOf number)
  let refuse (fault : StorageFault) : Except String (List String) :=
    .error (fault.message ++ " at path \"" ++ path ++ "\"")
  match tree.locate path with
  | .error fault => refuse fault
  | .ok place => if (tree.node? place).isSome then refuse .exists else .ok place

end Scratch

end Suite
end TemplateVariants
