/-!
# Integers in text

A numeral is an optional sign and decimal digits, nothing else. A reader also has a range: a
numeral whose value lies outside it is no numeral for that reader.
-/

namespace TemplateVariants
namespace Numeral

/-- The value of a digit. -/
def digitValue (c : Char) : Nat :=
  c.toNat - '0'.toNat

/-- The value of a run of digits, the first being the most significant. -/
def digitsValue (digits : List Char) : Nat :=
  digits.foldl (fun n c => 10 * n + digitValue c) 0

/-- At least one character, and each of them one of the ten digits. -/
def isDigits (s : List Char) : Bool :=
  !s.isEmpty && s.all Char.isDigit

def readDigits? (s : List Char) : Option Nat :=
  if isDigits s then some (digitsValue s) else none

/-- An integer with an optional sign. -/
def readInteger? : List Char → Option Int
  | '-' :: s => (readDigits? s).map fun n => -(n : Int)
  | '+' :: s => (readDigits? s).map fun n => (n : Int)
  | s => (readDigits? s).map fun n => (n : Int)

/-- The least and the greatest integer of 64 bits with a sign. -/
def minInt64 : Int := -9223372036854775808
def maxInt64 : Int := 9223372036854775807

/-- An integer of 64 bits with a sign. -/
def readInt64? (s : List Char) : Option Int :=
  (readInteger? s).filter fun n => decide (minInt64 ≤ n) && decide (n ≤ maxInt64)

/-- The greatest number of 64 bits. -/
def maxWord : Nat := 18446744073709551615

/-- A number of 64 bits; a plus sign may stand before it. -/
def readWord? (s : List Char) : Option Nat :=
  (match s with
    | '+' :: r => readDigits? r
    | _ => readDigits? s).filter fun n => decide (n ≤ maxWord)

end Numeral
end TemplateVariants
