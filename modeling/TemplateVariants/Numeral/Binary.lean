/-!
# Doubles as exact numbers

A finite double is a sign and a number `significand * 2 ^ exponent`. This module takes the bits of
a double apart into these, and finds the double nearest to a quotient of natural numbers.
-/

namespace TemplateVariants
namespace Numeral

/-- A magnitude `significand * 2 ^ exponent`. -/
structure Binary where
  significand : Nat
  exponent : Int
deriving DecidableEq, Repr

namespace Binary

/-- The exponent of the smallest positive double. -/
def minExponent : Int := -1074

/-- The first bit of a significand above the smallest, which the bits of a double leave out. -/
def hiddenBit : Nat := 1 <<< 52

/-- The magnitude of a finite double with the given bits; the sign bit has no part in it. -/
def ofBits (bits : UInt64) : Binary :=
  let fraction := bits.toNat % hiddenBit
  let field := bits.toNat / hiddenBit % 2048
  if field = 0 then ⟨fraction, minExponent⟩
  else ⟨hiddenBit + fraction, minExponent + (field - 1 : Nat)⟩

/-- The quotient rounded to the nearest integer, a half to the even one. -/
def roundDiv (num den : Nat) : Nat :=
  let q := num / den
  let r := num % den
  if 2 * r < den then q
  else if den < 2 * r then q + 1
  else if q % 2 = 0 then q else q + 1

/-- The quotient `num / den` over `2 ^ exponent`, as numerator and denominator. -/
def scale (num den : Nat) (exponent : Int) : Nat × Nat :=
  if exponent ≥ 0 then (num, den <<< exponent.toNat) else (num <<< (-exponent).toNat, den)

/-- The exponent at which `num / den` has a significand of 53 bits, but not below the least. -/
def exponentOf (num den : Nat) : Int :=
  let e : Int := (num.log2 : Int) - (den.log2 : Int) - 52
  let (n, d) := scale num den e
  max minExponent (if n / d < hiddenBit then e - 1 else e)

/-- The magnitude nearest to the quotient of two positive numbers, a half to the even one. -/
def nearest (num den : Nat) : Binary :=
  let e := exponentOf num den
  let (n, d) := scale num den e
  ⟨roundDiv n d, e⟩

/-- The bits of a magnitude whose significand has at most 53 bits and fewer only at the least
exponent, or which is the power of two after such; none if it is too large for a double. -/
def toBits? (b : Binary) : Option UInt64 :=
  let bits := (b.exponent - minExponent).toNat * hiddenBit + b.significand
  if bits < 2047 * hiddenBit then some (UInt64.ofNat bits) else none

end Binary

end Numeral
end TemplateVariants
