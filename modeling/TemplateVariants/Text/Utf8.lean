/-!
# Reading bytes as UTF-8

A file is text only if all its bytes are well-formed UTF-8. The output of a program is text in any
case: each longest ill-formed piece stands for one replacement character.
-/

namespace TemplateVariants
namespace Text

/-- The text that the bytes encode, if they are well-formed. -/
def decode? (bytes : ByteArray) : Option String :=
  String.fromUTF8? bytes

/-- The range of the second byte after the given first byte, and how many bytes follow the first;
`none` if no character of more than one byte starts so. -/
def leadByte? (b : UInt8) : Option (UInt8 × UInt8 × Nat) :=
  if b < 0xC2 then none
  else if b < 0xE0 then some (0x80, 0xBF, 1)
  else if b = 0xE0 then some (0xA0, 0xBF, 2)
  else if b = 0xED then some (0x80, 0x9F, 2)
  else if b < 0xF0 then some (0x80, 0xBF, 2)
  else if b = 0xF0 then some (0x90, 0xBF, 3)
  else if b < 0xF4 then some (0x80, 0xBF, 3)
  else if b = 0xF4 then some (0x80, 0x8F, 3)
  else none

/-- The bits of the first byte that belong to the code point, for `n` bytes after it. -/
def leadBits (n : Nat) (b : UInt8) : Nat :=
  b.toNat % (1 <<< (6 - n))

/-- Reads up to `n` continuation bytes; gives the code point if all are there, and the rest. -/
def continuation (low high : UInt8) (code : Nat) : Nat → List UInt8 → Option Nat × List UInt8
  | 0, bs => (some code, bs)
  | _ + 1, [] => (none, [])
  | n + 1, b :: bs =>
    if low ≤ b ∧ b ≤ high then continuation 0x80 0xBF (code * 64 + b.toNat % 64) n bs
    else (none, b :: bs)

theorem continuation_length_le (low high : UInt8) (code n : Nat) (bs : List UInt8) :
    (continuation low high code n bs).2.length ≤ bs.length := by
  fun_induction continuation low high code n bs with
  | case1 => simp
  | case2 => simp
  | case3 code low high n b bs h ih => simp; omega
  | case4 => simp

/-- The first character of the bytes, and the bytes after it. -/
def decodeFirst (b : UInt8) (bs : List UInt8) : Char × List UInt8 :=
  if b < 0x80 then (Char.ofNat b.toNat, bs)
  else
    match leadByte? b with
    | none => ('\uFFFD', bs)
    | some (low, high, n) =>
      match continuation low high (leadBits n b) n bs with
      | (some code, rest) => (Char.ofNat code, rest)
      | (none, rest) => ('\uFFFD', rest)

theorem decodeFirst_length_le (b : UInt8) (bs : List UInt8) :
    (decodeFirst b bs).2.length ≤ bs.length := by
  unfold decodeFirst
  split
  · simp
  · split
    · simp
    · rename_i low high n _
      have := continuation_length_le low high (leadBits n b) n bs
      split <;> simp_all

def decodeLossyFrom (done : List Char) : List UInt8 → List Char
  | [] => done.reverse
  | b :: bs => decodeLossyFrom ((decodeFirst b bs).1 :: done) (decodeFirst b bs).2
termination_by bs => bs.length
decreasing_by
  have := decodeFirst_length_le b bs
  simp; omega

/-- The text of the bytes, with a replacement character for each longest ill-formed piece. -/
def decodeLossy (bytes : ByteArray) : String :=
  String.ofList (decodeLossyFrom [] bytes.toList)

end Text
end TemplateVariants
