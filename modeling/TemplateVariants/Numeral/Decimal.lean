import TemplateVariants.Numeral.Integer
import TemplateVariants.Numeral.Binary

/-!
# Decimals in text

A decimal numeral is an optional sign, digits with an optional point among or beside them, at least
one digit in all, and an optional exponent. It denotes the nearest double; a numeral beyond the
finite doubles is refused.
-/

namespace TemplateVariants
namespace Numeral

/-- The number `digits * 10 ^ exponent`, with a sign. -/
structure Decimal where
  negative : Bool
  digits : Nat
  exponent : Int
deriving DecidableEq, Repr

namespace Decimal

/-- The text without a sign at its start, and whether that was a minus. -/
def splitSign : List Char → Bool × List Char
  | '-' :: s => (true, s)
  | '+' :: s => (false, s)
  | s => (false, s)

/-- What may follow the digits: nothing, or the mark and an integer. -/
def readExponent? : List Char → Option Int
  | [] => some 0
  | c :: s => if c = 'e' ∨ c = 'E' then readInteger? s else none

/-- The digits after the point, if a point comes next, and the rest. -/
def splitFraction : List Char → List Char × List Char
  | '.' :: s => s.span Char.isDigit
  | s => ([], s)

def read? (s : List Char) : Option Decimal :=
  let (negative, s) := splitSign s
  let (whole, s) := s.span Char.isDigit
  let (fraction, s) := splitFraction s
  if whole.isEmpty && fraction.isEmpty then none
  else
    (readExponent? s).map fun e =>
      ⟨negative, digitsValue (whole ++ fraction), e - (fraction.length : Int)⟩

/-- The number of decimal digits. -/
def digitCount (n : Nat) : Nat :=
  (Nat.toDigits 10 n).length

/-- The magnitude of the nearest double. Beyond the decades that doubles reach the answer is known
without the power of ten. -/
def magnitude? (d : Decimal) : Option UInt64 :=
  let top := (digitCount d.digits : Int) + d.exponent
  if d.digits = 0 ∨ top < -330 then some 0
  else if 310 < top then none
  else if d.exponent ≥ 0 then (Binary.nearest (d.digits * Nat.pow 10 d.exponent.toNat) 1).toBits?
  else (Binary.nearest d.digits (Nat.pow 10 (-d.exponent).toNat)).toBits?

/-- The nearest double, if it is finite. -/
def toFloat? (d : Decimal) : Option Float :=
  d.magnitude?.map fun bits =>
    Float.ofBits (if d.negative then bits ||| 0x8000000000000000 else bits)

end Decimal

/-- The finite double that a text denotes. -/
def readFloat? (s : List Char) : Option Float :=
  (Decimal.read? s).bind Decimal.toFloat?

end Numeral
end TemplateVariants
