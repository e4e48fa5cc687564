import TemplateVariants.Randomness.Source

/-!
# The ChaCha source

The keystream of ChaCha with twelve rounds: a block of sixteen words is a function of the key and
of a counter, and the words of the blocks follow each other. A key of eight words is expanded from
a seed of 64 bits by a permuted congruential generator.
-/

namespace TemplateVariants
namespace Randomness

namespace ChaCha

/-- Four rows of four words: constants, the two halves of the key, counter and stream number. -/
structure Row where
  a : UInt32
  b : UInt32
  c : UInt32
  d : UInt32
deriving DecidableEq, Repr

namespace Row

def add (x y : Row) : Row := ⟨x.a + y.a, x.b + y.b, x.c + y.c, x.d + y.d⟩

def xor (x y : Row) : Row := ⟨x.a ^^^ y.a, x.b ^^^ y.b, x.c ^^^ y.c, x.d ^^^ y.d⟩

def rotateWord (w n : UInt32) : UInt32 := (w <<< n) ||| (w >>> (32 - n))

/-- Each word rotated by `n` bits to the left. -/
def rotate (x : Row) (n : UInt32) : Row :=
  ⟨rotateWord x.a n, rotateWord x.b n, rotateWord x.c n, rotateWord x.d n⟩

/-- The words moved to the left by one, two and three places. -/
def turn1 (x : Row) : Row := ⟨x.b, x.c, x.d, x.a⟩
def turn2 (x : Row) : Row := ⟨x.c, x.d, x.a, x.b⟩
def turn3 (x : Row) : Row := ⟨x.d, x.a, x.b, x.c⟩

def toList (x : Row) : List UInt32 := [x.a, x.b, x.c, x.d]

end Row

/-- A block of sixteen words, by rows. -/
structure Block where
  r0 : Row
  r1 : Row
  r2 : Row
  r3 : Row
deriving DecidableEq, Repr

namespace Block

/-- The four quarter rounds on the columns. -/
def columns (s : Block) : Block :=
  let r0 := s.r0.add s.r1
  let r3 := (s.r3.xor r0).rotate 16
  let r2 := s.r2.add r3
  let r1 := (s.r1.xor r2).rotate 12
  let r0 := r0.add r1
  let r3 := (r3.xor r0).rotate 8
  let r2 := r2.add r3
  let r1 := (r1.xor r2).rotate 7
  ⟨r0, r1, r2, r3⟩

/-- A round on the columns and one on the diagonals. -/
def doubleRound (s : Block) : Block :=
  let s := s.columns
  let s := columns ⟨s.r0, s.r1.turn1, s.r2.turn2, s.r3.turn3⟩
  ⟨s.r0, s.r1.turn3, s.r2.turn2, s.r3.turn1⟩

def rounds : Nat → Block → Block
  | 0, s => s
  | n + 1, s => rounds n s.doubleRound

def toList (s : Block) : List UInt32 :=
  s.r0.toList ++ s.r1.toList ++ s.r2.toList ++ s.r3.toList

end Block

/-- A key of eight words. -/
structure Key where
  low : Row
  high : Row
deriving DecidableEq, Repr

/-- The words "expa", "nd 3", "2-by", "te k". -/
def constants : Row := ⟨0x61707865, 0x3320646e, 0x79622d32, 0x6b206574⟩

/-- The words of the block with the given number. -/
def Key.block (key : Key) (counter : UInt64) : List UInt32 :=
  let start : Block :=
    ⟨constants, key.low, key.high, ⟨counter.toUInt32, (counter >>> 32).toUInt32, 0, 0⟩⟩
  let mixed := start.rounds 6
  Block.toList
    ⟨mixed.r0.add start.r0, mixed.r1.add start.r1, mixed.r2.add start.r2, mixed.r3.add start.r3⟩

/-- One step of the expansion of a seed: the next state and a word from it. -/
def expandWord (state : UInt64) : UInt32 × UInt64 :=
  let state := state * 6364136223846793005 + 11634580027462260723
  let x := (((state >>> 18) ^^^ state) >>> 27).toUInt32
  let r := (state >>> 59).toUInt32
  ((x >>> r) ||| (x <<< ((32 - r) % 32)), state)

def expandRow (state : UInt64) : Row × UInt64 :=
  let (a, state) := expandWord state
  let (b, state) := expandWord state
  let (c, state) := expandWord state
  let (d, state) := expandWord state
  (⟨a, b, c, d⟩, state)

def Key.ofSeed (seed : UInt64) : Key :=
  let (low, state) := expandRow seed
  let (high, _) := expandRow state
  ⟨low, high⟩

end ChaCha

/-- A place in a keystream: the words left of the current block, and the number of the next. -/
structure ChaCha where
  key : ChaCha.Key
  rest : List UInt32 := []
  counter : UInt64 := 0

namespace ChaCha

def ofSeed (seed : UInt64) : ChaCha where
  key := Key.ofSeed seed

/-- The next word; a new block starts when the last is used up. -/
def next (g : ChaCha) : UInt32 × ChaCha :=
  match g.rest with
  | word :: rest => (word, { g with rest })
  | [] =>
    match g.key.block g.counter with
    | word :: rest => (word, { g with rest, counter := g.counter + 1 })
    | [] => (0, g)

/-- A word of 64 bits is two words, the low half first. -/
def next64 (g : ChaCha) : UInt64 × ChaCha :=
  let (low, g) := g.next
  let (high, g) := g.next
  (low.toUInt64 ||| (high.toUInt64 <<< 32), g)

instance : WordSource ChaCha where
  next32 := next
  next64 := next64

end ChaCha

end Randomness
end TemplateVariants
