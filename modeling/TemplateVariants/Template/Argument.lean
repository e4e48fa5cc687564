import TemplateVariants.Failure
import TemplateVariants.Numeral.Decimal
import TemplateVariants.Template.Token
import TemplateVariants.Text.Blank

/-!
# Numbers as arguments

Sizes and bounds are numerals with blanks around them allowed. They are read where a command is
built, if they stand there as words, and again where it is expanded, since a nested command may
have supplied them.
-/

namespace TemplateVariants
namespace Argument

/-- The size of a collection. -/
def size (text : String) : Except Cause Int :=
  match Numeral.readInt64? (Text.trim text.toList) with
  | some n => .ok n
  | none => .error (.conversion (.size text))

/-- A bound of integers. -/
def integer (text : String) : Except Cause Int :=
  match Numeral.readInt64? (Text.trim text.toList) with
  | some n => .ok n
  | none => .error (.conversion (.bound text))

/-- A bound of real numbers. -/
def real (text : String) : Except Cause Float :=
  match Numeral.readFloat? (Text.trim text.toList) with
  | some x => .ok x
  | none => .error (.conversion (.bound text))

/-- Whether a text is a bound of the given kind. -/
def checkBound (kind : NumberKind) (text : String) : Except Cause Unit :=
  match kind with
  | .integer => (integer text).map fun _ => ()
  | .real => (real text).map fun _ => ()

end Argument
end TemplateVariants
