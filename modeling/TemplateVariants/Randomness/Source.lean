/-!
# Sources of random words

All randomness comes as words of 32 or 64 bits from a source, which is any type with these two
operations. Nothing in the library depends on which source it is.
-/

namespace TemplateVariants
namespace Randomness

/-- A source of words: the next word, and the source after it. -/
class WordSource (G : Type) where
  next32 : G → UInt32 × G
  next64 : G → UInt64 × G

/-- A source in use. A draw that rejects more words in a row than `patience` allows gives up. -/
structure Dice (G : Type) where
  source : G
  patience : Nat := 1 <<< 40

/-- The outcome of a draw that lost its patience. -/
structure Stalled where
deriving DecidableEq, Repr

/-- A draw: it uses words of the source, and it may stall. -/
abbrev Draw (G : Type) := EStateM Stalled (Dice G)

namespace Draw

variable {G : Type} [WordSource G]

/-- The next word of 32 bits as a number. -/
def word32 : Draw G Nat := fun dice =>
  let (word, source) := WordSource.next32 dice.source
  .ok word.toNat { dice with source }

/-- The next word of 64 bits as a number. -/
def word64 : Draw G Nat := fun dice =>
  let (word, source) := WordSource.next64 dice.source
  .ok word.toNat { dice with source }

end Draw

end Randomness
end TemplateVariants
