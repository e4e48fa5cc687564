import TemplateVariants.Numeral.Binary

/-!
# The shortest decimal of a double

Among the decimals that round to a given double, the ones with the fewest digits, and of these the
nearest; of two equally near the greater.
-/

namespace TemplateVariants
namespace Numeral

/-- The reals that round to a double, and the double itself, all in units of `2 ^ unit`. -/
structure Basin where
  value : Nat
  low : Nat
  high : Nat
  closed : Bool
  unit : Int
deriving DecidableEq, Repr

namespace Basin

/-- The basin of a magnitude. Below a power of two the doubles are twice as dense; the ends belong
to the basin of an even significand. -/
def ofBinary (b : Binary) : Basin :=
  let dense := b.significand = Binary.hiddenBit ∧ Binary.minExponent < b.exponent
  { value := 4 * b.significand
    low := if dense then 4 * b.significand - 1 else 4 * b.significand - 2
    high := 4 * b.significand + 2
    closed := b.significand % 2 = 0
    unit := b.exponent - 2 }

/-- The basin in steps of `10 ^ place`: `num / den` steps are one unit. -/
def steps (b : Basin) (place : Int) : Nat × Nat :=
  let num := (if b.unit ≥ 0 then 1 <<< b.unit.toNat else 1) *
    (if place ≥ 0 then 1 else Nat.pow 10 (-place).toNat)
  let den := (if b.unit ≥ 0 then 1 else 1 <<< (-b.unit).toNat) *
    (if place ≥ 0 then Nat.pow 10 place.toNat else 1)
  (num, den)

/-- Whether `n / d` units lie in the basin. -/
def contains (b : Basin) (n d : Nat) : Bool :=
  if b.closed then decide (b.low * d ≤ n) && decide (n ≤ b.high * d)
  else decide (b.low * d < n) && decide (n < b.high * d)

/-- The multiple of `10 ^ place` in the basin that is nearest to the value. -/
def nearestAt (b : Basin) (place : Int) : Option Nat :=
  let (num, den) := b.steps place
  let exact := b.value * num
  let below := exact / den
  let above := below + 1
  match b.contains (below * den) num, b.contains (above * den) num with
  | true, true => some (if 2 * (exact % den) < den then below else above)
  | true, false => some below
  | false, true => some above
  | false, false => none

/-- The greatest power of ten that is at most the value, as an exponent: a first guess from the
binary length, set right by comparing. -/
def decade (b : Basin) : Int :=
  let guess : Int := ((b.value.log2 : Int) + b.unit) * 30103 / 100000
  let reaches (e : Int) : Bool :=
    let (num, den) := b.steps e
    decide (den ≤ b.value * num)
  if reaches (guess + 1) then guess + 1 else if reaches guess then guess else guess - 1

/-- The first of the places from `place` downwards at which the basin holds a multiple. -/
def search (b : Basin) (place : Int) : Nat → Nat × Int
  | 0 => ((b.nearestAt place).getD 0, place)
  | n + 1 =>
    match b.nearestAt place with
    | some digits => (digits, place)
    | none => search b (place - 1) n

end Basin

/-- A number without the zeros at its end, and how many there were. -/
def stripZeros : Nat → Nat → Nat × Nat
  | 0, n => (n, 0)
  | fuel + 1, n =>
    if n % 10 = 0 then
      let (m, k) := stripZeros fuel (n / 10)
      (m, k + 1)
    else (n, 0)

/-- The shortest decimal `digits * 10 ^ place` of a positive magnitude; its last digit is no
zero. -/
def shortest (b : Binary) : Nat × Int :=
  let basin := Basin.ofBinary b
  let (digits, place) := basin.search basin.decade 17
  let (digits, zeros) := stripZeros 20 digits
  (digits, place + zeros)

end Numeral
end TemplateVariants
