import TemplateVariants.Numeral.Decimal
import TemplateVariants.Utility.Options

/-!
# Sleeping

`sleep` lets time pass: the sum of some intervals, which are decimal numbers of seconds, minutes,
hours or days.
-/

namespace TemplateVariants
namespace Sleep

/-- How many seconds a unit has, by its letter. -/
def secondsIn? (letter : Char) : Option Nat :=
  match letter with
  | 's' => some 1
  | 'm' => some 60
  | 'h' => some 3600
  | 'd' => some 86400
  | _ => none

/-- So many seconds in microseconds; beyond all measure it is a long time. -/
def microseconds (n : Numeral.Decimal) (seconds : Nat) : Nat :=
  let exponent := min (n.exponent + 6) 30
  if 0 ≤ exponent then n.digits * seconds * Nat.pow 10 exponent.toNat
  else if exponent < -400 then 0
  else n.digits * seconds / Nat.pow 10 (-exponent).toNat

/-- The interval that a text spells. -/
def interval? (text : Octets) : Option Nat :=
  let read? (digits : Octets) (seconds : Nat) : Option Nat :=
    (Numeral.Decimal.read? digits).bind fun n =>
      if n.negative ∧ n.digits ≠ 0 then none else some (microseconds n seconds)
  match text.getLast?.bind secondsIn? with
  | some seconds => read? text.dropLast seconds
  | none => read? text 1

def table : OptionTable where
  shorts := []
  longs := []

end Sleep

def sleep : Utility := fun call =>
  let read := Sleep.table.read call.arguments
  match read.fault?, read.operands with
  | some what, _ => call.refuseUsage what
  | none, [] => call.refuseUsage (Text.octets "missing operand")
  | none, operands =>
    let wrong := operands.filter fun text => (Sleep.interval? text).isNone
    if wrong.isEmpty then
      { call.done with duration := (operands.filterMap Sleep.interval?).foldl (· + ·) 0 }
    else
      let complaint (text : Octets) : Octets :=
        call.complaint (Text.octets "invalid time interval " ++ OptionTable.quote text)
      { call.done 1 with
        errors := wrong.flatMap complaint ++
          Text.octets ("Try '" ++ call.name ++ " --help' for more information.\n") }

end TemplateVariants
