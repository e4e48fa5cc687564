import TemplateVariants.Text.Utf8

/-!
# Texts and their bytes

Bytes that are well-formed are read in the same way whether others would be refused or replaced
(`decodeLossy_of_decode?`): the bytes of a character are read as that character, whatever comes after
them (`decodeFirst_utf8EncodeChar`).
-/

namespace TemplateVariants
namespace Text

/-! ## The bytes of one character -/

/-- A byte after the first one, as the encoding makes it. -/
theorem continuation_ofNat {low high : UInt8} {bits : Nat} (hbits : bits < 64)
    (hlow : low.toNat ≤ bits + 0x80) (hhigh : bits + 0x80 ≤ high.toNat) (code n : Nat)
    (bs : List UInt8) :
    continuation low high code (n + 1) (UInt8.ofNat (bits + 0x80) :: bs) =
      continuation 0x80 0xBF (code * 64 + bits) n bs := by
  have hvalue : (UInt8.ofNat (bits + 0x80)).toNat = bits + 0x80 :=
    UInt8.toNat_ofNat_of_lt' (Nat.lt_of_lt_of_le (Nat.add_lt_add_right hbits _) (by decide))
  have hmod : (bits + 0x80) % 64 = bits := by
    omega
  rw [continuation, hvalue, hmod, if_pos]
  rw [UInt8.le_iff_toNat_le, UInt8.le_iff_toNat_le, hvalue]
  exact ⟨hlow, hhigh⟩

theorem continuation_any {bits : Nat} (hbits : bits < 64) (code n : Nat) (bs : List UInt8) :
    continuation 0x80 0xBF code (n + 1) (UInt8.ofNat (bits + 0x80) :: bs) =
      continuation 0x80 0xBF (code * 64 + bits) n bs := by
  have hlow : UInt8.toNat 0x80 ≤ bits + 0x80 := Nat.le_add_left _ _
  have hhigh : bits + 0x80 ≤ UInt8.toNat 0xBF :=
    Nat.add_le_add_right (Nat.le_of_lt_succ hbits) 128
  exact continuation_ofNat hbits hlow hhigh code n bs

theorem decodeFirst_of_leadByte? {b low high : UInt8} {n code : Nat} {bs rest : List UInt8}
    (hlead : leadByte? b = some (low, high, n))
    (hcode : continuation low high (leadBits n b) n bs = (some code, rest)) :
    decodeFirst b bs = (Char.ofNat code, rest) := by
  have hlarge : ¬ b < 0x80 := by
    intro hsmall
    have hnone : leadByte? b = none := by
      rw [leadByte?, if_pos]
      rw [UInt8.lt_iff_toNat_lt] at hsmall ⊢
      exact Nat.lt_trans hsmall (by decide)
    rw [hnone] at hlead
    cases hlead
  rw [decodeFirst, if_neg hlarge, hlead]
  dsimp only
  rw [hcode]

/-- The bits of a first byte beside its mark. -/
theorem leadBits_ofNat {n bits size : Nat} (hsize : 1 <<< (6 - n) = size) (mark : Nat)
    (hmark : mark % size = 0) (hbits : bits < size) (hbyte : bits + mark < 256) :
    leadBits n (UInt8.ofNat (bits + mark)) = bits := by
  rw [leadBits, UInt8.toNat_ofNat_of_lt' hbyte, hsize, Nat.add_mod, hmark, Nat.add_zero, Nat.mod_mod,
    Nat.mod_eq_of_lt hbits]

/-- What the first byte says of the others, by its value. -/
theorem leadByte?_ofNat {value : Nat} (hbyte : value < 256) :
    leadByte? (UInt8.ofNat value) =
      if value < 0xC2 then none
      else if value < 0xE0 then some (0x80, 0xBF, 1)
      else if value = 0xE0 then some (0xA0, 0xBF, 2)
      else if value = 0xED then some (0x80, 0x9F, 2)
      else if value < 0xF0 then some (0x80, 0xBF, 2)
      else if value = 0xF0 then some (0x90, 0xBF, 3)
      else if value < 0xF4 then some (0x80, 0xBF, 3)
      else if value = 0xF4 then some (0x80, 0x8F, 3)
      else none := by
  rw [leadByte?]
  simp only [UInt8.lt_iff_toNat_lt, ← UInt8.toNat_inj, UInt8.toNat_ofNat_of_lt' hbyte]
  rfl

/-- The first of three bytes may narrow the range of the second one. -/
theorem leadByte?_of_three {v : Nat} (hmore : 0x7FF < v) (hthree : v ≤ 0xFFFF)
    (hrange : v < 0xD800 ∨ 0xDFFF < v) :
    ∃ low high, leadByte? (UInt8.ofNat (v / 4096 % 16 + 0xE0)) = some (low, high, 2) ∧
      low.toNat ≤ v / 64 % 64 + 0x80 ∧ v / 64 % 64 + 0x80 ≤ high.toNat := by
  rw [leadByte?_ofNat (by omega), if_neg (by omega), if_neg (by omega)]
  by_cases hfirst : v / 4096 % 16 + 0xE0 = 0xE0
  · have hlow : 160 ≤ v / 64 % 64 + 128 := by
      omega
    have hhigh : v / 64 % 64 + 128 ≤ 191 := by
      omega
    exact ⟨0xA0, 0xBF, if_pos hfirst, hlow, hhigh⟩
  rw [if_neg hfirst]
  have hlow : 128 ≤ v / 64 % 64 + 128 := by
    omega
  by_cases hlast : v / 4096 % 16 + 0xE0 = 0xED
  · have hhigh : v / 64 % 64 + 128 ≤ 159 := by
      omega
    exact ⟨0x80, 0x9F, if_pos hlast, hlow, hhigh⟩
  · have hhigh : v / 64 % 64 + 128 ≤ 191 := by
      omega
    exact ⟨0x80, 0xBF, by rw [if_neg hlast, if_pos (by omega)], hlow, hhigh⟩

/-- So may the first of four. -/
theorem leadByte?_of_four {v : Nat} (hmore : 0xFFFF < v) (hrange : v < 0x110000) :
    ∃ low high, leadByte? (UInt8.ofNat (v / 262144 % 8 + 0xF0)) = some (low, high, 3) ∧
      low.toNat ≤ v / 4096 % 64 + 0x80 ∧ v / 4096 % 64 + 0x80 ≤ high.toNat := by
  rw [leadByte?_ofNat (by omega), if_neg (by omega), if_neg (by omega), if_neg (by omega),
    if_neg (by omega), if_neg (by omega)]
  by_cases hfirst : v / 262144 % 8 + 0xF0 = 0xF0
  · have hlow : 144 ≤ v / 4096 % 64 + 128 := by
      omega
    have hhigh : v / 4096 % 64 + 128 ≤ 191 := by
      omega
    exact ⟨0x90, 0xBF, if_pos hfirst, hlow, hhigh⟩
  rw [if_neg hfirst]
  have hlow : 128 ≤ v / 4096 % 64 + 128 := by
    omega
  by_cases hinner : v / 262144 % 8 + 0xF0 < 0xF4
  · have hhigh : v / 4096 % 64 + 128 ≤ 191 := by
      omega
    exact ⟨0x80, 0xBF, if_pos hinner, hlow, hhigh⟩
  · have hhigh : v / 4096 % 64 + 128 ≤ 143 := by
      omega
    exact ⟨0x80, 0x8F, by rw [if_neg hinner, if_pos (by omega)], hlow, hhigh⟩

/-- The bytes of a character are read as that character, whatever comes after them. -/
theorem decodeFirst_utf8EncodeChar (c : Char) (rest : List UInt8) :
    ∃ b bs, String.utf8EncodeChar c = b :: bs ∧ decodeFirst b (bs ++ rest) = (c, rest) := by
  have hvalue : Char.ofNat c.val.toNat = c := Char.ofNat_toNat c
  have hrange : c.val.toNat < 0xD800 ∨ (0xDFFF < c.val.toNat ∧ c.val.toNat < 0x110000) := c.valid
  unfold String.utf8EncodeChar
  dsimp only
  generalize c.val.toNat = v at hvalue hrange
  by_cases hone : v ≤ 0x7F
  · -- a byte of its own
    refine ⟨_, _, if_pos hone, ?_⟩
    have hbyte : (UInt8.ofNat v).toNat = v :=
      UInt8.toNat_ofNat_of_lt' (Nat.lt_of_le_of_lt hone (by decide))
    rw [decodeFirst, if_pos, hbyte, hvalue]
    · rfl
    · rw [UInt8.lt_iff_toNat_lt, hbyte]
      exact Nat.lt_succ_of_le hone
  rw [if_neg hone]
  by_cases htwo : v ≤ 0x7FF
  · refine ⟨_, _, if_pos htwo, ?_⟩
    have hlead : leadByte? (UInt8.ofNat (v / 64 % 32 + 0xC0)) = some (0x80, 0xBF, 1) := by
      rw [leadByte?_ofNat (by omega), if_neg (by omega), if_pos (by omega)]
    have hcode : v / 64 % 32 * 64 + v % 64 = v := by
      omega
    refine (decodeFirst_of_leadByte? hlead ?_).trans (Prod.ext hvalue rfl)
    rw [leadBits_ofNat (n := 1) rfl 0xC0 rfl (by omega) (by omega)]
    simp only [List.cons_append, List.nil_append]
    rw [continuation_any (by omega), hcode]
    rfl
  rw [if_neg htwo]
  by_cases hthree : v ≤ 0xFFFF
  · refine ⟨_, _, if_pos hthree, ?_⟩
    rcases leadByte?_of_three (by omega) hthree (by omega) with ⟨low, high, hlead, hlow, hhigh⟩
    have hcode : (v / 4096 % 16 * 64 + v / 64 % 64) * 64 + v % 64 = v := by
      omega
    refine (decodeFirst_of_leadByte? hlead ?_).trans (Prod.ext hvalue rfl)
    rw [leadBits_ofNat (n := 2) rfl 0xE0 rfl (by omega) (by omega)]
    simp only [List.cons_append, List.nil_append]
    rw [continuation_ofNat (by omega) hlow hhigh, continuation_any (by omega), hcode]
    rfl
  · refine ⟨_, _, if_neg hthree, ?_⟩
    rcases leadByte?_of_four (v := v) (by omega) (by omega) with ⟨low, high, hlead, hlow, hhigh⟩
    have hcode :
        ((v / 262144 % 8 * 64 + v / 4096 % 64) * 64 + v / 64 % 64) * 64 + v % 64 = v := by
      omega
    refine (decodeFirst_of_leadByte? hlead ?_).trans (Prod.ext hvalue rfl)
    rw [leadBits_ofNat (n := 3) rfl 0xF0 rfl (by omega) (by omega)]
    simp only [List.cons_append, List.nil_append]
    rw [continuation_ofNat (by omega) hlow hhigh, continuation_any (by omega),
      continuation_any (by omega), hcode]
    rfl

/-! ## Texts -/

/-- A text is read back from its bytes. -/
theorem decode?_toUTF8 (text : String) : decode? text.toUTF8 = some text := by
  have hvalid : text.toUTF8.IsValidUTF8 := text.isValidUTF8
  rw [decode?, String.fromUTF8?, dif_pos hvalid]
  rfl

theorem decodeLossyFrom_append (c : Char) (done : List Char) (rest : List UInt8) :
    decodeLossyFrom done (String.utf8EncodeChar c ++ rest) = decodeLossyFrom (c :: done) rest := by
  rcases decodeFirst_utf8EncodeChar c rest with ⟨b, bs, hbytes, hfirst⟩
  rw [hbytes, List.cons_append, decodeLossyFrom, hfirst]

theorem decodeLossyFrom_flatMap (cs done : List Char) :
    decodeLossyFrom done (cs.flatMap String.utf8EncodeChar) = done.reverse ++ cs := by
  induction cs generalizing done with
  | nil =>
      simp [decodeLossyFrom]
  | cons c cs ih =>
      rw [List.flatMap_cons, decodeLossyFrom_append, ih]
      simp

theorem toList_loop (bytes : ByteArray) (i : Nat) (done : List UInt8) :
    ByteArray.toList.loop bytes i done = done.reverse ++ bytes.data.toList.drop i := by
  fun_induction ByteArray.toList.loop bytes i done with
  | case1 i done hlt ih =>
      have hdrop : bytes.data.toList.drop i = bytes.get! i :: bytes.data.toList.drop (i + 1) := by
        rw [ByteArray.get!, getElem!_pos bytes.data i hlt]
        exact List.drop_eq_getElem_cons hlt
      rw [ih, hdrop, List.reverse_cons, List.append_assoc]
      rfl
  | case2 i done hend =>
      rw [List.drop_eq_nil_of_le (Nat.le_of_not_lt hend), List.append_nil]

theorem toList_eq_data (bytes : ByteArray) : bytes.toList = bytes.data.toList := by
  rw [ByteArray.toList, toList_loop]
  rfl

theorem toList_toUTF8 (text : String) :
    text.toUTF8.toList = text.toList.flatMap String.utf8EncodeChar := by
  have hbytes : text.toUTF8 = text.toList.utf8Encode := (String.utf8Encode_toList (b := text)).symm
  rw [toList_eq_data, hbytes, List.utf8Encode, List.toList_data_toByteArray]

/-- Bytes that are well-formed are those of the text that they encode. -/
theorem eq_toUTF8_of_decode? {bytes : ByteArray} {text : String} (h : decode? bytes = some text) :
    bytes = text.toUTF8 := by
  unfold decode? String.fromUTF8? at h
  split at h
  · cases h
    rfl
  · cases h

/-- They are read as that text. -/
theorem decodeLossy_of_decode? {bytes : ByteArray} {text : String} (h : decode? bytes = some text) :
    decodeLossy bytes = text := by
  rw [eq_toUTF8_of_decode? h, decodeLossy, toList_toUTF8, decodeLossyFrom_flatMap]
  simp

theorem decodeLossy_toUTF8 (text : String) : decodeLossy text.toUTF8 = text :=
  decodeLossy_of_decode? (decode?_toUTF8 text)

end Text
end TemplateVariants
