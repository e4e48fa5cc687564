import TemplateVariants.Text.Lines

/-!
# Test reports

Results in the Test Anything Protocol: the version, one numbered line for each result in order, a
failure followed by the lines of its diagnostic as comments, and the plan at the end.
-/

namespace TemplateVariants
namespace Tap

inductive Verdict where
  | ok
  | notOk (diagnostic : String)
deriving DecidableEq, Repr

structure Result where
  name : String
  verdict : Verdict
deriving DecidableEq, Repr

namespace Result

def passed (r : Result) : Bool :=
  match r.verdict with
  | .ok => true
  | .notOk _ => false

/-- The lines of the result with the given number. -/
def lines (number : Nat) (r : Result) : List String :=
  match r.verdict with
  | .ok => ["ok " ++ Nat.repr number ++ " - " ++ r.name]
  | .notOk diagnostic =>
    ("not ok " ++ Nat.repr number ++ " - " ++ r.name) ::
      (Text.withoutEnds diagnostic).map ("  # " ++ ·)

end Result

/-- How many results are failures. -/
def failures (results : List Result) : Nat :=
  results.countP (!·.passed)

/-- The last lines: the plan, and the number of failures if there are any. -/
def closing (results : List Result) : List String :=
  ("1.." ++ Nat.repr results.length) ::
    if failures results = 0 then []
    else
      ["# failed " ++ Nat.repr (failures results) ++ " of " ++ Nat.repr results.length ++
        " tests"]

def lines (results : List Result) : List String :=
  "TAP version 13" ::
    ((results.mapIdx fun i r => r.lines (i + 1)).flatten ++ closing results)

/-- The whole report. -/
def render (results : List Result) : String :=
  String.join ((lines results).map (· ++ "\n"))

end Tap
end TemplateVariants
