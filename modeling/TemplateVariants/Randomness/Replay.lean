import TemplateVariants.Randomness.Source

/-!
# A prepared source

A source that first gives prepared words of 64 bits, and then those of a SplitMix generator. A word
of 32 bits is the low half of one of 64.
-/

namespace TemplateVariants
namespace Randomness

structure Replay where
  prepared : List UInt64 := []
  state : UInt64 := 0

namespace Replay

/-- The word that SplitMix makes of a state. -/
def mix (state : UInt64) : UInt64 :=
  let z := (state ^^^ (state >>> 30)) * 0xBF58476D1CE4E5B9
  let z := (z ^^^ (z >>> 27)) * 0x94D049BB133111EB
  z ^^^ (z >>> 31)

def next64 (g : Replay) : UInt64 × Replay :=
  match g.prepared with
  | word :: prepared => (word, { g with prepared })
  | [] =>
    let state := g.state + 0x9E3779B97F4A7C15
    (mix state, { g with state })

def next32 (g : Replay) : UInt32 × Replay :=
  let (word, g) := g.next64
  (word.toUInt32, g)

instance : WordSource Replay where
  next32 := next32
  next64 := next64

end Replay

end Randomness
end TemplateVariants
