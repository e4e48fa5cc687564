import TemplateVariants.Shell.Condition
import TemplateVariants.Utility.Quoting
import TemplateVariants.Utility.Basic

/-!
# Conditions as utilities

`test` and `[` tell by their status whether a condition holds; the condition of `[` ends in a
closing bracket.
-/

namespace TemplateVariants
namespace Truth

/-- What is said of a condition that cannot be judged. -/
def faultText (fault : Shell.ConditionFault) : Octets :=
  match fault with
  | .notANumber text => Text.octets "invalid integer " ++ Quoting.quoteName text
  | .missingArgument operator => Text.octets "missing argument after " ++ Quoting.quoteName operator
  | .unexpectedOperator text => Text.octets "extra argument " ++ Quoting.quoteName text
  | .unclosed => Text.octets "')' expected"

/-- The reply that judges words. -/
def judge (call : Call) (words : List Octets) : Reply :=
  match Shell.judge call.files words with
  | .ok holds => call.done (if holds then 0 else 1)
  | .error fault => call.refuse (faultText fault) 2

end Truth

def test : Utility := fun call =>
  Truth.judge call call.arguments

def bracket : Utility := fun call =>
  match call.arguments.reverse with
  | [']'] :: words => Truth.judge call words.reverse
  | _ => call.refuse (Text.octets "missing ']'") 2

end TemplateVariants
