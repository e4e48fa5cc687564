import TemplateVariants.Template.Token

/-!
# Replacements

What a command turns into: tokens in its own place, and whole lines before and after the line that
it stands in. The lines that the arguments of a command brought come before its own, on both sides.
-/

namespace TemplateVariants

structure Replacement where
  before : List Line := []
  result : Line
  after : List Line := []

namespace Replacement

/-- Tokens without lines beside them. -/
def plain (result : Line) : Replacement where
  result := result

/-- A replacement with the lines of the parts it was made of. -/
def within (parts : List Replacement) (own : Replacement) : Replacement where
  before := parts.flatMap before ++ own.before
  result := own.result
  after := parts.flatMap after ++ own.after

end Replacement

end TemplateVariants
