import Mathlib

/-! Power-of-two blocks of machine words: masking off the low bits of a word, filling
them in, and the interval of words that share their high bits. -/

namespace Bits

variable {w : Nat}

/-- A number with its low `host` bits cleared. -/
def align (host start : Nat) : Nat := start / 2 ^ host * 2 ^ host

theorem dvd_align (host start : Nat) : 2 ^ host ∣ align host start := Nat.dvd_mul_left _ _

theorem align_le (host start : Nat) : align host start ≤ start := Nat.div_mul_le_self start _

theorem align_div (host start : Nat) : align host start / 2 ^ host = start / 2 ^ host :=
  Nat.mul_div_cancel _ (Nat.two_pow_pos host)

/-- Clearing the low bits of an aligned start and a small offset drops the offset. -/
theorem align_add_of_dvd {host start offset : Nat} (haligned : 2 ^ host ∣ start)
    (hoffset : offset < 2 ^ host) : align host (start + offset) = start := by
  obtain ⟨k, rfl⟩ := haligned
  rw [align, Nat.mul_add_div (Nat.two_pow_pos host), Nat.div_eq_of_lt hoffset, add_zero, mul_comm]

/-- The words that agree with `start` on every bit from `host` upwards. -/
def Block (host : Nat) (start : BitVec w) : Set (BitVec w) :=
  {word | word.toNat / 2 ^ host = start.toNat / 2 ^ host}

variable {host : Nat}

theorem mem_block_iff {start word : BitVec w} :
    word ∈ Block host start ↔ word.toNat / 2 ^ host = start.toNat / 2 ^ host :=
  Iff.rfl

theorem block_congr {left right : BitVec w} (h : left.toNat / 2 ^ host = right.toNat / 2 ^ host) :
    Block host left = Block host right := by
  ext word
  rw [mem_block_iff, mem_block_iff, h]

/-- A block that starts at a multiple of its size is an interval. -/
theorem mem_block_of_dvd {start word : BitVec w} (haligned : 2 ^ host ∣ start.toNat) :
    word ∈ Block host start ↔
      start.toNat ≤ word.toNat ∧ word.toNat ≤ start.toNat + (2 ^ host - 1) := by
  obtain ⟨k, hk⟩ := haligned
  have hpos : 0 < 2 ^ host := Nat.two_pow_pos host
  rw [mem_block_iff, hk, Nat.mul_div_cancel_left k hpos, Nat.div_eq_iff hpos, mul_comm k]
  omega

/-- Two aligned intervals overlap exactly when their blocks share a word: one of the two
starts. -/
theorem overlap_iff_inter_nonempty {left_host right_host : Nat} {left right : BitVec w}
    (hleft : 2 ^ left_host ∣ left.toNat) (hright : 2 ^ right_host ∣ right.toNat) :
    (left.toNat ≤ right.toNat + (2 ^ right_host - 1) ∧
        right.toNat ≤ left.toNat + (2 ^ left_host - 1)) ↔
      (Block left_host left ∩ Block right_host right).Nonempty := by
  constructor
  · rintro ⟨hlr, hrl⟩
    obtain hle | hle := le_total left.toNat right.toNat
    · exact ⟨right, (mem_block_of_dvd hleft).mpr ⟨hle, hrl⟩, rfl⟩
    · exact ⟨left, rfl, (mem_block_of_dvd hright).mpr ⟨hle, hlr⟩⟩
  · rintro ⟨word, hl, hr⟩
    rw [mem_block_of_dvd hleft] at hl
    rw [mem_block_of_dvd hright] at hr
    omega

theorem and_high_mask (x : BitVec w) (host : Nat) : x &&& (BitVec.allOnes w <<< host) = (x >>> host) <<< host := by
  ext i hi
  by_cases hlow : i < host
  · simp [hlow]
  · simp only [BitVec.getElem_and, BitVec.getElem_shiftLeft, BitVec.getElem_allOnes, hlow]
    simp [show host + (i - host) = i by omega, hi]

/-- Masking off the low bits clears them. -/
theorem toNat_and_high_mask (x : BitVec w) (host : Nat) :
    (x &&& (BitVec.allOnes w <<< host)).toNat = align host x.toNat := by
  have hle : align host x.toNat < 2 ^ w := lt_of_le_of_lt (align_le host _) x.isLt
  rw [and_high_mask, BitVec.toNat_shiftLeft, BitVec.toNat_ushiftRight, Nat.shiftRight_eq_div_pow,
    Nat.shiftLeft_eq]
  exact Nat.mod_eq_of_lt hle

theorem toNat_low_mask (hhost : host < w) : (((1#w) <<< host) - 1#w).toNat = 2 ^ host - 1 := by
  have hpow : 2 ^ host < 2 ^ w := Nat.pow_lt_pow_right (by omega) hhost
  have hpos : 1 ≤ 2 ^ host := Nat.one_le_two_pow
  have hone : (1#w).toNat = 1 := by rw [BitVec.toNat_ofNat, Nat.mod_eq_of_lt (by omega)]
  have hshift : ((1#w) <<< host).toNat = 2 ^ host := by
    rw [BitVec.toNat_shiftLeft, hone, Nat.shiftLeft_eq, one_mul, Nat.mod_eq_of_lt hpow]
  rw [BitVec.toNat_sub_of_le (by rw [BitVec.le_def]; omega), hshift, hone]

/-- Filling in the low bits of an aligned word reaches the last word of its block. -/
theorem toNat_or_low_mask {x mask : BitVec w} (haligned : 2 ^ host ∣ x.toNat) (hmask : mask.toNat = 2 ^ host - 1) :
    (x ||| mask).toNat = x.toNat + (2 ^ host - 1) := by
  obtain ⟨k, hk⟩ := haligned
  have hlt : 2 ^ host - 1 < 2 ^ host := Nat.sub_lt (Nat.two_pow_pos host) one_pos
  rw [BitVec.toNat_or, hmask, hk, ← Nat.two_pow_add_eq_or_of_lt hlt]

/-- A word has no bit under the mask exactly when it is aligned. -/
theorem and_low_mask_eq_zero_iff {x mask : BitVec w} (hmask : mask.toNat = 2 ^ host - 1) :
    x &&& mask = 0#w ↔ 2 ^ host ∣ x.toNat := by
  rw [← BitVec.toNat_inj, BitVec.toNat_and, hmask, Nat.and_two_pow_sub_one_eq_mod,
    BitVec.toNat_ofNat, Nat.zero_mod, Nat.dvd_iff_mod_eq_zero]

end Bits
