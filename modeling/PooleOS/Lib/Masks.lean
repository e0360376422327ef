import Mathlib

/- Flags in a natural number. -/
namespace PooleOS

open Nat

/-- `value & !bits`. -/
def without (value bits : Nat) : Nat := value ^^^ (value &&& bits)

variable {value bits : Nat}

theorem testBit_without (place : Nat) :
    (without value bits).testBit place = (value.testBit place && !bits.testBit place) := by
  rw [without, testBit_xor, testBit_and]
  cases value.testBit place <;> cases bits.testBit place <;> rfl

theorem without_eq_zero_iff : without value bits = 0 ↔ ∀ place, value.testBit place → bits.testBit place := by
  constructor
  · intro clean place held
    have absent := congrArg (testBit · place) clean
    simpa only [testBit_without, zero_testBit, held, Bool.true_and, Bool.not_eq_false'] using absent
  · intro inside
    apply eq_of_testBit_eq
    intro place
    rw [testBit_without, zero_testBit]
    cases held : value.testBit place
    · rfl
    · rw [inside place held]
      rfl

/-- Flags inside flags change nothing when they are cut to them. -/
theorem and_eq_of_without (inside : without value bits = 0) : value &&& bits = value := by
  apply eq_of_testBit_eq
  intro place
  rw [testBit_and]
  cases held : value.testBit place
  · rfl
  · exact without_eq_zero_iff.mp inside place held

theorem without_and_left {other : Nat} (inside : without value bits = 0) : without (value &&& other) bits = 0 := by
  refine without_eq_zero_iff.mpr (fun place held => ?_)
  rw [testBit_and, Bool.and_eq_true] at held
  exact without_eq_zero_iff.mp inside place held.1

theorem without_and_right {other : Nat} : without (other &&& bits) bits = 0 := by
  refine without_eq_zero_iff.mpr (fun place held => ?_)
  rw [testBit_and, Bool.and_eq_true] at held
  exact held.2

/-- Flags that are met are met by more flags. -/
theorem and_ne_zero_of_without {other : Nat} (inside : without value bits = 0) (met : value &&& other ≠ 0) :
    bits &&& other ≠ 0 := by
  obtain ⟨place, held⟩ := exists_testBit_of_ne_zero met
  rw [testBit_and, Bool.and_eq_true] at held
  intro none
  have absent := congrArg (testBit · place) none
  simp only [testBit_and, without_eq_zero_iff.mp inside place held.1, held.2, zero_testBit] at absent
  exact absurd absent (by decide)

theorem and_eq_zero_of_without {other : Nat} (inside : without value bits = 0) (apart : bits &&& other = 0) :
    value &&& other = 0 := by
  by_contra met
  exact and_ne_zero_of_without inside met apart

/-- No flag above the known ones: the value is a small number. -/
theorem without_low {width : Nat} : without value (2 ^ width - 1) = 0 ↔ value < 2 ^ width := by
  constructor
  · intro clean
    apply lt_pow_two_of_testBit
    intro place above
    have absent := congrArg (testBit · place) clean
    simp only [testBit_without, testBit_two_pow_sub_one, zero_testBit] at absent
    have beyond : decide (place < width) = false := by
      rw [decide_eq_false_iff_not]
      omega
    rw [beyond, Bool.not_false, Bool.and_true] at absent
    exact absent
  · intro small
    apply eq_of_testBit_eq
    intro place
    rw [testBit_without, testBit_two_pow_sub_one, zero_testBit]
    by_cases below : place < width
    · simp [below]
    · have high : value < 2 ^ place :=
        small.trans_le (Nat.pow_le_pow_right (by decide) (by omega))
      simp [testBit_lt_two_pow high]

/-- A value without its low bits. -/
theorem without_low_eq (width : Nat) : without value (2 ^ width - 1) = value / 2 ^ width * 2 ^ width := by
  rw [← Nat.shiftRight_eq_div_pow, ← Nat.shiftLeft_eq]
  apply Nat.eq_of_testBit_eq
  intro place
  rw [testBit_without, Nat.testBit_two_pow_sub_one, Nat.testBit_shiftLeft, Nat.testBit_shiftRight]
  by_cases below : place < width
  · simp [below]
  · have sum : width + (place - width) = place := by omega
    simp [below, sum, Nat.le_of_not_lt below]

@[simp] theorem without_self : without value value = 0 := by
  rw [without, Nat.and_self, Nat.xor_self]

/-- Flags inside flags. -/
theorem without_trans {other : Nat} (inner : without value bits = 0) (outer : without bits other = 0) :
    without value other = 0 :=
  without_eq_zero_iff.mpr (fun place held =>
    without_eq_zero_iff.mp outer place (without_eq_zero_iff.mp inner place held))

/-- The flags that are taken away are gone. -/
theorem without_and : without value bits &&& bits = 0 := by
  apply eq_of_testBit_eq
  intro place
  rw [testBit_and, testBit_without, zero_testBit]
  cases value.testBit place <;> cases bits.testBit place <;> rfl

/-- A bit that is not set is not set after flags are taken away. -/
theorem without_and_eq_zero {other : Nat} (absent : value &&& other = 0) : without value bits &&& other = 0 := by
  apply eq_of_testBit_eq
  intro place
  have clear := congrArg (testBit · place) absent
  simp only [testBit_and, zero_testBit] at clear
  rw [testBit_and, testBit_without, zero_testBit, Bool.and_right_comm, clear, Bool.false_and]

theorem without_lt {bound : Nat} (small : value < 2 ^ bound) : without value bits < 2 ^ bound := by
  apply lt_pow_two_of_testBit
  intro place above
  have high : value < 2 ^ place := small.trans_le (Nat.pow_le_pow_right (by decide) above)
  rw [testBit_without, testBit_lt_two_pow high, Bool.false_and]

end PooleOS
