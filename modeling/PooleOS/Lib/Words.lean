import Mathlib

/- Words that pack an address and flags: under a mask that separates the two, each
half reads back on its own. -/
namespace PooleOS

open Nat BitVec

abbrev Word : Type := BitVec 64

variable {address flags mask bit : Word}

/-- An address inside a mask. -/
theorem and_of_clean (clean : address &&& ~~~mask = 0#64) : address &&& mask = address := by
  have whole : mask ||| ~~~mask = allOnes 64 := by
    ext place
    simp
  calc
    address &&& mask = address &&& mask ||| address &&& ~~~mask := by rw [clean, BitVec.or_zero]
    _ = address &&& (mask ||| ~~~mask) := and_or_distrib_left.symm
    _ = address := by rw [whole, and_allOnes]

theorem clean_of_and (inside : address &&& mask = address) : address &&& ~~~mask = 0#64 := by
  rw [← inside, BitVec.and_assoc]
  ext place
  simp

/-- A bit outside the mask is not in the address. -/
theorem and_apart (clean : address &&& ~~~mask = 0#64) (apart : mask &&& bit = 0#64) : address &&& bit = 0#64 := by
  rw [← and_of_clean clean, BitVec.and_assoc, apart, BitVec.and_zero]

/-- The address of an entry. -/
theorem packed_address (clean : address &&& ~~~mask = 0#64) (apart : flags &&& mask = 0#64) :
    (address ||| flags) &&& mask = address := by
  rw [BitVec.and_or_distrib_right, apart, and_of_clean clean, BitVec.or_zero]

/-- A flag of an entry. -/
theorem packed_flag (clean : address &&& ~~~mask = 0#64) (apart : mask &&& bit = 0#64) :
    (address ||| flags) &&& bit = flags &&& bit := by
  rw [BitVec.and_or_distrib_right, and_apart clean apart, BitVec.zero_or]

/-- The page that an address lies in. -/
theorem toNat_and_not_low (address : Word) : (address &&& ~~~0xfff#64).toNat = address.toNat / 4096 * 4096 := by
  have shifted : address &&& ~~~0xfff#64 = (address >>> 12) <<< 12 := by
    apply BitVec.eq_of_getLsbD_eq
    intro place inside
    have low : (0xfff#64).getLsbD place = decide (place < 12) := by
      decide +revert
    rw [getLsbD_and, getLsbD_not, low, getLsbD_shiftLeft, getLsbD_ushiftRight]
    by_cases below : place < 12
    · simp [below]
    · have sum : 12 + (place - 12) = place := by omega
      simp [below, inside, sum]
  rw [shifted, toNat_shiftLeft, toNat_ushiftRight, Nat.shiftRight_eq_div_pow, Nat.shiftLeft_eq]
  omega

theorem toNat_and_low (address : Word) : (address &&& 0xfff#64).toNat = address.toNat % 4096 := by
  exact and_two_pow_sub_one_eq_mod _ 12

/-- A field of nine bits. -/
theorem toNat_field (address : Word) (shift : Nat) :
    ((address >>> shift) &&& 0x1ff#64).toNat = address.toNat / 2 ^ shift % 512 := by
  rw [toNat_and, toNat_ushiftRight, shiftRight_eq_div_pow]
  exact and_two_pow_sub_one_eq_mod _ 9

/-- An aligned address with the offset of another address. -/
theorem toNat_or_low (base address : Word) (aligned : base.toNat % 4096 = 0) :
    (base ||| (address &&& 0xfff#64)).toNat = base.toNat + address.toNat % 4096 := by
  have whole : base.toNat = 2 ^ 12 * (base.toNat / 4096) := by omega
  have inside : address.toNat % 4096 < 2 ^ 12 := mod_lt _ (by decide)
  rw [toNat_or, toNat_and_low, whole, ← two_pow_add_eq_or_of_lt inside]

/-- The lowest bits of a word. -/
theorem toNat_and_mask (value : Word) {power : Nat} (small : power < 64) :
    (value &&& BitVec.ofNat 64 (2 ^ power - 1)).toNat = value.toNat % 2 ^ power := by
  have less : 2 ^ power - 1 < 2 ^ 64 := by
    have bound : 2 ^ power ≤ 2 ^ 64 := Nat.pow_le_pow_right (by decide) (by omega)
    omega
  rw [toNat_and, toNat_ofNat, mod_eq_of_lt less]
  exact and_two_pow_sub_one_eq_mod _ power

/-- One bit of a word is clear. -/
theorem and_twoPow_eq_zero (value : Word) {power : Nat} (small : power < 64) :
    value &&& BitVec.ofNat 64 (2 ^ power) = 0#64 ↔ value.toNat / 2 ^ power % 2 = 0 := by
  have less : 2 ^ power < 2 ^ 64 := Nat.pow_lt_pow_right (by decide) small
  rw [← BitVec.toNat_inj, BitVec.toNat_and, BitVec.toNat_ofNat, Nat.mod_eq_of_lt less, Nat.and_comm,
    Nat.two_pow_and, Nat.testBit_eq_decide_div_mod_eq]
  rcases Nat.mod_two_eq_zero_or_one (value.toNat / 2 ^ power) with even | odd
  · simp [even]
  · simp [odd]

end PooleOS
