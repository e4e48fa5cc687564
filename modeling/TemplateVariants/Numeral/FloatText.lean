import TemplateVariants.Numeral.Shortest

/-!
# The text of a double

Doubles are written with their shortest digits and always positionally, without an exponent. A
literal has a point in any case, so that it reads back as a number with a fraction.
-/

namespace TemplateVariants
namespace Numeral

/-- The number `digits * 10 ^ place` written positionally. -/
def positional (digits : Nat) (place : Int) : String :=
  let ds := (Nat.repr digits).toList
  if place ≥ 0 then String.ofList (ds ++ List.replicate place.toNat '0')
  else
    let shift := (-place).toNat
    if shift < ds.length then
      String.ofList (ds.take (ds.length - shift) ++ '.' :: ds.drop (ds.length - shift))
    else String.ofList ('0' :: '.' :: (List.replicate (shift - ds.length) '0' ++ ds))

/-- The text of a double; a whole number has no point. -/
def floatText (bits : UInt64) : String :=
  let sign := if bits &&& 0x8000000000000000 = 0 then "" else "-"
  let magnitude := bits &&& 0x7FFFFFFFFFFFFFFF
  if magnitude > 0x7FF0000000000000 then "NaN"
  else if magnitude = 0x7FF0000000000000 then sign ++ "inf"
  else if magnitude = 0 then sign ++ "0"
  else
    let (digits, place) := shortest (Binary.ofBits bits)
    sign ++ positional digits place

def isFiniteBits (bits : UInt64) : Bool :=
  bits &&& 0x7FF0000000000000 != 0x7FF0000000000000

/-- The literal of a double: a finite one has a point. -/
def floatLiteral (bits : UInt64) : String :=
  let text := floatText bits
  if isFiniteBits bits && !text.contains '.' then text ++ ".0" else text

end Numeral
end TemplateVariants
