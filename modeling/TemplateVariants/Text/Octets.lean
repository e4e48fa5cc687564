/-!
# Octets

A text for programs that look at bytes: each byte is the character with its number.
-/

namespace TemplateVariants

/-- Bytes as characters. -/
abbrev Octets := List Char

namespace Text

/-- The characters that stand for bytes. -/
def octetsOfBytes (bytes : ByteArray) : Octets :=
  bytes.toList.map fun b => Char.ofNat b.toNat

/-- The bytes of a text, each as a character. -/
def octets (text : String) : Octets :=
  octetsOfBytes text.toUTF8

/-- The bytes that characters stand for. -/
def bytesOfOctets (cs : Octets) : ByteArray :=
  ⟨(cs.map fun c => UInt8.ofNat c.toNat).toArray⟩

end Text
end TemplateVariants
