import TemplateVariants.Storage.FileTree

/-!
# Interpreters

What runs a variant: a function of the program, its arguments, the last of which is the path of the
variant, and the files that the program can look at, which either does not start the program or
gives what the program wrote, and the files after it.
-/

namespace TemplateVariants

/-- The bytes that a program wrote. -/
structure ProgramOutput where
  stdout : ByteArray := .empty
  stderr : ByteArray := .empty

/-- What starting a program comes to; the failure is the reason why it did not start. -/
structure Launch where
  outcome : Except String ProgramOutput
  files : FileTree

/-- Runs a program with arguments. -/
abbrev Interpreter := String → List String → FileTree → Launch

end TemplateVariants
