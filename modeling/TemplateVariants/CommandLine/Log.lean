import TemplateVariants.Expand.Session
import TemplateVariants.Text.Printable

/-!
# The log of a run

The events that a verbose run tells, a line for each. The file of a template that was read stands in
quotes; the other events tell it as it is.
-/

namespace TemplateVariants
namespace CommandLine

/-- The line of an event; events that belong to no run's log have none. -/
def logLine? : Event → Option String
  | .parsed file lines commands =>
    some ("DEBUG varithon_core::parser: parsed template file=" ++ Text.quotedVisibly file ++
      " lines=" ++ Nat.repr lines ++ " commands=" ++ Nat.repr commands)
  | .expanded file pass collapses lines =>
    some ("DEBUG varithon_core::compile: expansion pass file=" ++ file ++ " pass=" ++
      Nat.repr pass ++ " collapses=" ++ Nat.repr collapses ++ " lines=" ++ Nat.repr lines)
  | .compiled file passes bindings identifiers =>
    some ("DEBUG varithon_core::compile: compiled file=" ++ file ++ " passes=" ++
      Nat.repr passes ++ " bindings=" ++ Nat.repr bindings ++ " identifiers=" ++
      Nat.repr identifiers)
  | .bound _ _ => none
  | .collapsed _ _ _ => none

/-- The log of events in the order in which they came about. -/
def log (events : List Event) : String :=
  String.join ((events.filterMap logLine?).map (· ++ "\n"))

end CommandLine
end TemplateVariants
