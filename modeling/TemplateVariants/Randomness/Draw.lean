import TemplateVariants.Randomness.Source

/-!
# Drawing values

How words become values. A word stands for the value in the high half of its product with the
number of values; words whose low half lies beyond the zone are rejected, so that every value has
equally many accepted words.
-/

namespace TemplateVariants
namespace Randomness

/-- How the words of `bits` bits stand for the numbers below `count`. -/
structure Spread where
  bits : Nat
  count : Nat
  zone : Nat
deriving DecidableEq, Repr

namespace Spread

/-- The value that a word stands for, if the word is accepted. -/
def value? (s : Spread) (word : Nat) : Option Nat :=
  let product := word * s.count
  if product % (1 <<< s.bits) ≤ s.zone then some (product / (1 <<< s.bits)) else none

/-- The zone found by shifting: the greatest `count * 2 ^ k` of `bits` bits, less one. A power of
two rejects half of its words. -/
def shifted (bits count : Nat) : Spread :=
  ⟨bits, count, count <<< (bits - 1 - count.log2) - 1⟩

/-- The widest zone: the greatest multiple of `count` up to `2 ^ bits`, less one. -/
def widest (bits count : Nat) : Spread :=
  ⟨bits, count, (1 <<< bits) - 1 - ((1 <<< bits) - count) % count⟩

end Spread

namespace Draw

variable {G : Type} [WordSource G]

/-- Draws words until one is accepted, at most as many as the number says. -/
def retry (word : Draw G Nat) (accept : Nat → Option Nat) : Nat → Draw G Nat
  | 0 => throw {}
  | tries + 1 => do
    match accept (← word) with
    | some value => pure value
    | none => retry word accept tries

/-- A number below `s.count`, from the words that `word` gives. -/
def spread (word : Draw G Nat) (s : Spread) : Draw G Nat := do
  retry word s.value? (← get).patience

/-- A number below `n`, from words of 64 bits. -/
def below64 (n : Nat) : Draw G Nat :=
  spread word64 (.shifted 64 n)

/-- A number below `n`, from words of 32 bits. -/
def below32 (n : Nat) : Draw G Nat :=
  spread word32 (.shifted 32 n)

/-- A number below `n`, from words of 32 bits and rejecting as few of them as possible. -/
def belowWidest32 (n : Nat) : Draw G Nat :=
  spread word32 (.widest 32 n)

/-- The number with a sign whose 64 bits are those of the word. -/
def signed (word : Nat) : Int :=
  if word < UInt64.size / 2 then word else (word : Int) - UInt64.size

/-- An integer from `lower` to `upper`, both included. If that is every integer of 64 bits, a word
is taken as it is. -/
def between (lower upper : Int) : Draw G Int := do
  let count := (upper - lower + 1).toNat
  if count = UInt64.size then
    return signed (← word64)
  else
    return lower + (← below64 count)

/-- An event whose chance is `threshold` in `2 ^ 64`. -/
def chance (threshold : Nat) : Draw G Bool := do
  return decide ((← word64) < threshold)

/-- A multiple of `2 ^ -53` from zero up to but not one. -/
def unit : Draw G Float := do
  return ((← word64) >>> 11).toFloat / 9007199254740992

/-- An item of a list; from an empty list nothing is drawn. -/
def choose {α : Type} (items : List α) : Draw G (Option α) :=
  match items with
  | [] => pure none
  | _ => do return items[← below32 items.length]?

end Draw

end Randomness
end TemplateVariants
