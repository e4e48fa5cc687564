import Mathlib.Algebra.Order.Floor.Div
import Mathlib.Data.Set.Card
import Mathlib.Order.Interval.Finset.Nat
import TemplateVariants.Randomness.Draw

/-!
# Words and the integers of a range

`Inclusive.value?` says which integer between two bounds a word stands for, in the arithmetic of
machine words: the number of integers wraps around to zero if these are all integers, the word is
multiplied by it, and the high half of the product is added to the lower bound.

For each integer of the range there are equally many such words (`Inclusive.exists_ncard_words`). The
words that stand for a value follow each other, and the zone is a multiple `count * 2 ^ k` of the
number of values, so it has room for `2 ^ k` products.
-/

namespace TemplateVariants

namespace Randomness

/-! ## The words that stand for a value -/

namespace Spread

/-- The zone is as many bits longer than the number of values. -/
def shift (bits count : Nat) : Nat :=
  bits - 1 - count.log2

variable {bits count : Nat}

/-- The zone is as wide as it can be without leaving the words. -/
theorem mul_two_pow_shift_lt (hpos : 0 < count) (hbits : count < 2 ^ bits) :
    count * 2 ^ shift bits count < 2 ^ bits := by
  have hlog : count.log2 < bits := (Nat.log2_lt hpos.ne').2 hbits
  have hexponents : count.log2 + 1 + shift bits count = bits := by
    unfold shift
    omega
  calc
    count * 2 ^ shift bits count < 2 ^ (count.log2 + 1) * 2 ^ shift bits count :=
      Nat.mul_lt_mul_of_pos_right Nat.lt_log2_self (Nat.two_pow_pos _)
    _ = 2 ^ bits := by rw [← Nat.pow_add, hexponents]

theorem zone_shifted : (shifted bits count).zone = count * 2 ^ shift bits count - 1 := by
  rw [shifted, Nat.shiftLeft_eq, shift]

theorem value?_shifted (bits count word : Nat) :
    (shifted bits count).value? word =
      if word * count % 2 ^ bits ≤ (shifted bits count).zone then some (word * count / 2 ^ bits)
      else none := by
  rw [← Nat.one_shiftLeft]
  rfl

/-- Only values below their number come up. -/
theorem lt_of_value?_shifted {word value : Nat} (hword : word < 2 ^ bits) (hpos : 0 < count)
    (h : (shifted bits count).value? word = some value) : value < count := by
  rw [value?_shifted, Option.ite_none_right_eq_some, Option.some_inj] at h
  rw [← h.2]
  exact Nat.div_lt_of_lt_mul (Nat.mul_lt_mul_of_pos_right hword hpos)

/-- A word stands for a value if its product is in the zone that starts at a multiple of the words. -/
theorem value?_shifted_eq_some {word value : Nat} (hpos : 0 < count) (hbits : count < 2 ^ bits) :
    (shifted bits count).value? word = some value ↔
      value * 2 ^ bits ≤ word * count ∧
        word * count < value * 2 ^ bits + count * 2 ^ shift bits count := by
  have hsize := mul_two_pow_shift_lt hpos hbits
  have hzone : 0 < count * 2 ^ shift bits count := Nat.mul_pos hpos (Nat.two_pow_pos _)
  have hvalue :
      (shifted bits count).value? word = some value ↔
        word * count % 2 ^ bits < count * 2 ^ shift bits count ∧
          word * count / 2 ^ bits = value := by
    rw [value?_shifted, zone_shifted, Nat.lt_iff_le_pred hzone, Option.ite_none_right_eq_some,
      Option.some_inj]
  have hdivision := Nat.div_add_mod' (word * count) (2 ^ bits)
  rw [hvalue]
  constructor
  · intro h
    rcases h with ⟨hmod, rfl⟩
    omega
  · intro h
    rcases h with ⟨hlower, hupper⟩
    have hquotient : word * count / 2 ^ bits = value := by
      refine Nat.div_eq_of_lt_le hlower ?_
      rw [Nat.succ_mul]
      omega
    rw [hquotient] at hdivision
    exact ⟨by omega, hquotient⟩

/-- The words that stand for a value follow each other, and their number does not depend on it. -/
theorem value?_shifted_iff_mem {word value : Nat} (hpos : 0 < count) (hbits : count < 2 ^ bits) :
    (shifted bits count).value? word = some value ↔
      word ∈ Finset.Ico (value * 2 ^ bits ⌈/⌉ count)
        (value * 2 ^ bits ⌈/⌉ count + 2 ^ shift bits count) := by
  have hceil (n m : Nat) : n ⌈/⌉ count ≤ m ↔ n ≤ m * count := by
    rw [ceilDiv_le_iff_le_mul hpos, Nat.mul_comm]
  rw [value?_shifted_eq_some hpos hbits, Finset.mem_Ico, hceil]
  -- a word beyond the last one is a word that is not too small, and as many words more
  have hlast :
      value * 2 ^ bits ⌈/⌉ count + 2 ^ shift bits count ≤ word ↔
        value * 2 ^ bits + count * 2 ^ shift bits count ≤ word * count := by
    rw [Nat.mul_comm count]
    constructor
    · intro h
      obtain ⟨first, rfl⟩ := Nat.exists_eq_add_of_le' (Nat.le_of_add_left_le h)
      have hfirst : value * 2 ^ bits ≤ first * count := (hceil _ _).1 (by omega)
      rw [Nat.add_mul]
      omega
    · intro h
      have hmore : 2 ^ shift bits count ≤ word :=
        Nat.le_of_mul_le_mul_right (Nat.le_of_add_left_le h) hpos
      obtain ⟨first, rfl⟩ := Nat.exists_eq_add_of_le' hmore
      rw [Nat.add_mul] at h
      have hfirst : value * 2 ^ bits ⌈/⌉ count ≤ first := (hceil _ _).2 (by omega)
      omega
  rw [← not_le, ← not_le, hlast]

/-- Equally many words stand for each value. -/
theorem ncard_words {value : Nat} (hbits : count < 2 ^ 64) (hvalue : value < count) :
    {word : UInt64 | (shifted 64 count).value? word.toNat = some value}.ncard =
      2 ^ shift 64 count := by
  have hpos : 0 < count := Nat.zero_lt_of_lt hvalue
  have hwords :
      UInt64.toNat '' {word : UInt64 | (shifted 64 count).value? word.toNat = some value} =
        Finset.Ico (value * 2 ^ 64 ⌈/⌉ count)
          (value * 2 ^ 64 ⌈/⌉ count + 2 ^ shift 64 count) := by
    ext n
    rw [Finset.mem_coe, ← value?_shifted_iff_mem hpos hbits]
    constructor
    · intro h
      rcases h with ⟨word, hword, rfl⟩
      exact hword
    · intro h
      -- the zone of a value ends before that of the next one starts
      have hfits : n < 2 ^ 64 := by
        have hsize := mul_two_pow_shift_lt hpos hbits
        have hproduct := ((value?_shifted_eq_some hpos hbits).1 h).2
        have hnext : (value + 1) * 2 ^ 64 ≤ count * 2 ^ 64 := Nat.mul_le_mul_right _ hvalue
        have hbound : n * count < 2 ^ 64 * count := by omega
        exact Nat.lt_of_mul_lt_mul_right hbound
      refine ⟨UInt64.ofNat n, ?_, UInt64.toNat_ofNat_of_lt' hfits⟩
      rw [Set.mem_ofPred_eq, UInt64.toNat_ofNat_of_lt' hfits]
      exact h
  have hinjective : Set.InjOn UInt64.toNat
      {word : UInt64 | (shifted 64 count).value? word.toNat = some value} :=
    fun _ _ _ _ h => UInt64.toNat_inj.1 h
  rw [← hinjective.ncard_image, hwords, Set.ncard_coe_finset, Nat.card_Ico, Nat.add_sub_cancel_left]

end Spread

/-! ## Ranges of machine integers -/

namespace Inclusive

/-- How many of the leading bits are zero. -/
def leadingZeros (n : UInt64) : UInt64 :=
  ⟨n.toBitVec.clz⟩

/-- How many integers there are from `lower` to `upper`; zero, if these are all. -/
def count (lower upper : Int64) : UInt64 :=
  (upper - lower + 1).toUInt64

/-- The greatest low half of a product for which the word is accepted. -/
def zone (count : UInt64) : UInt64 :=
  (count <<< leadingZeros count) - 1

/-- The integer that a word stands for, if it is accepted. -/
def value? (lower upper : Int64) (word : UInt64) : Option Int64 :=
  if count lower upper = 0 then
    some word.toInt64
  else
    let product := word.toNat * (count lower upper).toNat
    if UInt64.ofNat product ≤ zone (count lower upper) then
      some (lower + (UInt64.ofNat (product / UInt64.size)).toInt64)
    else
      none

theorem toNat_pos {n : UInt64} (h : n ≠ 0) : 0 < n.toNat :=
  Nat.pos_of_ne_zero fun hzero => h (UInt64.toNat_inj.1 hzero)

theorem toNat_leadingZeros {n : UInt64} (h : n ≠ 0) :
    (leadingZeros n).toNat = Spread.shift 64 n.toNat := by
  have hne : n.toBitVec ≠ 0#64 := fun hzero => h (UInt64.toBitVec_inj.1 hzero)
  have hlower := BitVec.two_pow_sub_clz_le_toNat_of_ne_zero (by decide) hne
  have hupper : n.toNat < 2 ^ (64 - n.toBitVec.clz.toNat) := BitVec.toNat_lt_two_pow_sub_clz
  have hless : n.toBitVec.clz.toNat < 64 := BitVec.lt_def.1 (BitVec.clz_lt_iff_ne_zero.2 hne)
  have hlog : n.toNat.log2 = 63 - n.toBitVec.clz.toNat := by
    refine (Nat.log2_eq_iff (toNat_pos h).ne').2 ⟨hlower, ?_⟩
    rwa [show 63 - n.toBitVec.clz.toNat + 1 = 64 - n.toBitVec.clz.toNat by omega]
  rw [Spread.shift, hlog]
  change n.toBitVec.clz.toNat = _
  omega

/-- The zone does not wrap around. -/
theorem toNat_zone {n : UInt64} (h : n ≠ 0) :
    (zone n).toNat = (Spread.shifted 64 n.toNat).zone := by
  have hpos := toNat_pos h
  have hlt := Spread.mul_two_pow_shift_lt hpos n.toNat_lt
  have hshift : Spread.shift 64 n.toNat < 64 := by
    unfold Spread.shift
    omega
  have hshifted : (n <<< leadingZeros n).toNat = n.toNat * 2 ^ Spread.shift 64 n.toNat := by
    rw [UInt64.toNat_shiftLeft, toNat_leadingZeros h, Nat.mod_eq_of_lt hshift, Nat.shiftLeft_eq,
      Nat.mod_eq_of_lt hlt]
  have hone : (1 : UInt64) ≤ n <<< leadingZeros n := by
    rw [UInt64.le_iff_toNat_le, hshifted]
    exact Nat.mul_pos hpos (Nat.two_pow_pos _)
  rw [zone, UInt64.toNat_sub_of_le _ _ hone, hshifted, Spread.zone_shifted]
  rfl

/-- The bits of an integer as a number without a sign. -/
theorem toNat_toUInt64 (i : Int64) : (i.toUInt64.toNat : Int) = i.toInt % 2 ^ 64 := by
  have hsigned : i.toInt = (i.toUInt64.toNat : Int).bmod (2 ^ 64) :=
    BitVec.toInt_eq_toNat_bmod i.toBitVec
  have hbits : (i.toUInt64.toNat : Int) < 2 ^ 64 := by exact_mod_cast i.toUInt64.toNat_lt
  rw [hsigned]
  have hmod := Int.bmod_emod (x := (i.toUInt64.toNat : Int)) (m := 2 ^ 64)
  omega

theorem toNat_count (lower upper : Int64) :
    ((count lower upper).toNat : Int) = (upper.toInt - lower.toInt + 1) % 2 ^ 64 := by
  rw [count, toNat_toUInt64, Int64.toInt_add, Int64.toInt_sub, Int.bmod_add_bmod]
  exact Int.bmod_emod

variable {lower upper : Int64}

/-- The number of integers wraps around only if these are all integers, and then to zero. -/
theorem count_cases (h : lower ≤ upper) :
    (count lower upper ≠ 0 ∧
      ((count lower upper).toNat : Int) = upper.toInt - lower.toInt + 1) ∨
    (count lower upper = 0 ∧ lower = Int64.minValue ∧ upper = Int64.maxValue) := by
  have hle := Int64.le_iff_toInt_le.1 h
  have hlower := lower.le_toInt
  have hupper := upper.toInt_lt
  have hcount := toNat_count lower upper
  by_cases hall : lower = Int64.minValue ∧ upper = Int64.maxValue
  · rcases hall with ⟨rfl, rfl⟩
    exact .inr ⟨rfl, rfl, rfl⟩
  · have hsmaller : upper.toInt - lower.toInt + 1 < 2 ^ 64 := by
      by_contra hlarge
      refine hall ⟨Int64.toInt_inj.1 ?_, Int64.toInt_inj.1 ?_⟩
      · rw [Int64.toInt_minValue]
        omega
      · rw [Int64.toInt_maxValue]
        omega
    rw [Int.emod_eq_of_lt (by omega) hsmaller] at hcount
    refine .inl ⟨fun hzero => ?_, hcount⟩
    rw [hzero] at hcount
    simp at hcount
    omega

/-- A value below the number of integers is added without a wrap. -/
theorem toInt_add_ofNat {n : Nat} (h : lower ≤ upper)
    (hn : (n : Int) ≤ upper.toInt - lower.toInt) :
    (lower + Int64.ofNat n).toInt = lower.toInt + n := by
  have hle := Int64.le_iff_toInt_le.1 h
  have hlower := lower.le_toInt
  have hupper := upper.toInt_lt
  rw [Int64.toInt_add, Int64.toInt_ofNat']
  have hsize : (Int64.size : Int) = 2 ^ 64 := rfl
  exact Int.add_bmod_bmod.trans (Int.bmod_eq_of_le (by omega) (by omega))

/-- A word stands for the integer that is as far from the lower bound as the value of the word. -/
theorem value?_eq (hcount : count lower upper ≠ 0) (word : UInt64) :
    value? lower upper word =
      ((Spread.shifted 64 (count lower upper).toNat).value? word.toNat).map
        fun n => lower + Int64.ofNat n := by
  have haccepted :
      UInt64.ofNat (word.toNat * (count lower upper).toNat) ≤ zone (count lower upper) ↔
        word.toNat * (count lower upper).toNat % 2 ^ 64 ≤
          (Spread.shifted 64 (count lower upper).toNat).zone := by
    rw [UInt64.le_iff_toNat_le, toNat_zone hcount, UInt64.toNat_ofNat']
  rw [value?, if_neg hcount, Spread.value?_shifted]
  dsimp only
  split
  · next hzone =>
      rw [if_pos (haccepted.1 hzone), UInt64.toInt64_ofNat']
      rfl
  · next hbeyond =>
      rw [if_neg (fun hzone => hbeyond (haccepted.2 hzone))]
      rfl

/-- The values of words do not leave the range. -/
theorem le_of_value?_shifted (h : lower ≤ upper) (hcount : count lower upper ≠ 0) {word : UInt64}
    {n : Nat}
    (hn : (Spread.shifted 64 (count lower upper).toNat).value? word.toNat = some n) :
    (n : Int) ≤ upper.toInt - lower.toInt := by
  have hless := Spread.lt_of_value?_shifted word.toNat_lt (toNat_pos hcount) hn
  rcases count_cases h with ⟨-, hsize⟩ | ⟨hzero, -⟩
  · omega
  · exact absurd hzero hcount

/-- The integers of a range are as far from its lower bound as the values of words are from zero. -/
theorem value?_eq_some (h : lower ≤ upper) (hcount : count lower upper ≠ 0) {word : UInt64}
    {i : Int64} :
    value? lower upper word = some i ↔
      ∃ n : Nat, (Spread.shifted 64 (count lower upper).toNat).value? word.toNat = some n ∧
        (n : Int) ≤ upper.toInt - lower.toInt ∧ i.toInt = lower.toInt + n := by
  rw [value?_eq hcount, Option.map_eq_some_iff]
  constructor
  · intro hvalue
    rcases hvalue with ⟨n, hn, rfl⟩
    have hle := le_of_value?_shifted h hcount hn
    exact ⟨n, hn, hle, toInt_add_ofNat h hle⟩
  · intro hvalue
    rcases hvalue with ⟨n, hn, hle, hi⟩
    exact ⟨n, hn, Int64.toInt_inj.1 ((toInt_add_ofNat h hle).trans hi.symm)⟩

/-- What a word stands for is between the bounds. -/
theorem mem_range {word : UInt64} {i : Int64} (h : lower ≤ upper)
    (hvalue : value? lower upper word = some i) : lower ≤ i ∧ i ≤ upper := by
  rw [Int64.le_iff_toInt_le, Int64.le_iff_toInt_le]
  rcases count_cases h with ⟨hcount, hsize⟩ | ⟨-, rfl, rfl⟩
  · rcases (value?_eq_some h hcount).1 hvalue with ⟨n, -, hless, hi⟩
    omega
  · rw [Int64.toInt_minValue, Int64.toInt_maxValue]
    exact ⟨i.le_toInt, Int.le_sub_one_of_lt i.toInt_lt⟩

/-- Equally many words stand for each integer between the bounds. -/
theorem exists_ncard_words (h : lower ≤ upper) :
    ∃ m, 0 < m ∧ ∀ i, lower ≤ i → i ≤ upper →
      {word | value? lower upper word = some i}.ncard = m := by
  rcases count_cases h with ⟨hcount, hsize⟩ | ⟨hcount, -⟩
  · refine ⟨2 ^ Spread.shift 64 (count lower upper).toNat, Nat.two_pow_pos _, ?_⟩
    intro i hlower hupper
    rw [Int64.le_iff_toInt_le] at hlower hupper
    obtain ⟨n, hn⟩ : ∃ n : Nat, i.toInt = lower.toInt + n :=
      ⟨(i.toInt - lower.toInt).toNat, by omega⟩
    have hwords :
        {word | value? lower upper word = some i} =
          {word : UInt64 |
            (Spread.shifted 64 (count lower upper).toNat).value? word.toNat = some n} := by
      ext word
      rw [Set.mem_ofPred_eq, Set.mem_ofPred_eq, value?_eq_some h hcount]
      constructor
      · intro hvalue
        rcases hvalue with ⟨n', hvalue, -, hi⟩
        rwa [show n = n' by omega]
      · intro hvalue
        exact ⟨n, hvalue, by omega, hn⟩
    rw [hwords, Spread.ncard_words (count lower upper).toNat_lt (by omega)]
  · -- every word is taken as it is
    refine ⟨1, Nat.one_pos, fun i _ _ => ?_⟩
    have hword : {word | value? lower upper word = some i} = {i.toUInt64} := by
      ext word
      rw [Set.mem_ofPred_eq, value?, if_pos hcount, Option.some_inj, Set.mem_singleton_iff]
      constructor
      · intro hi
        rw [← hi, UInt64.toUInt64_toInt64]
      · intro hi
        rw [hi, Int64.toInt64_toUInt64]
    rw [hword, Set.ncard_singleton]

end Inclusive

end Randomness
end TemplateVariants
