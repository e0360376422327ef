import PooleOS.Lib.Bytes

/- The binary64 format, as far as comparisons need it: a number is the word of its
pattern, and its value is counted in the least positive one, `2 ^ -1074`. -/
namespace PooleOS.Binary64

def exponent (word : Nat) : Nat := word / 2 ^ 52 % 2 ^ 11

def fraction (word : Nat) : Nat := word % 2 ^ 52

/-- Neither an infinity nor a NaN. -/
def Finite (word : Nat) : Prop := exponent word ≠ 2 ^ 11 - 1

def magnitude (word : Nat) : Nat :=
  if exponent word = 0 then fraction word else (2 ^ 52 + fraction word) * 2 ^ (exponent word - 1)

/-- The value of a finite number; both zeros have the value zero. -/
def value (word : Nat) : Int := if word.testBit 63 then - (magnitude word : Int) else magnitude word

/-- `1.0`. -/
def unit : Int := 2 ^ 1074

instance (word : Nat) : Decidable (Finite word) := inferInstanceAs (Decidable (_ ≠ _))

/-- `math.isfinite(value) and 0.0 <= value <= 1.0`. -/
def Fraction (word : Nat) : Prop := Finite word ∧ 0 ≤ value word ∧ value word ≤ unit

instance (word : Nat) : Decidable (Fraction word) := inferInstanceAs (Decidable (_ ∧ _))

/-- `0.0 if value == 0.0 else value`. -/
def canonical (word : Nat) : Nat := if value word = 0 then 0 else word

/-- The patterns of the two zeros. -/
theorem value_eq_zero {word : Nat} (small : word < 2 ^ 64) : value word = 0 ↔ word = 0 ∨ word = 2 ^ 63 := by
  have magnitude_eq_zero : magnitude word = 0 ↔ exponent word = 0 ∧ fraction word = 0 := by
    unfold magnitude
    split
    · rename_i subnormal
      simp only [subnormal, true_and]
    · rename_i normal
      have positive : 0 < (2 ^ 52 + fraction word) * 2 ^ (exponent word - 1) :=
        Nat.mul_pos (by omega) (Nat.two_pow_pos _)
      constructor
      · exact fun zero => absurd zero (Nat.ne_of_gt positive)
      · exact fun both => absurd both.1 normal
  have zero_iff : value word = 0 ↔ magnitude word = 0 := by
    unfold value
    split <;> omega
  rw [zero_iff, magnitude_eq_zero]
  unfold exponent fraction
  omega

/-- Only the negative zero changes. -/
theorem canonical_eq {word : Nat} (small : word < 2 ^ 64) : canonical word = if word = 2 ^ 63 then 0 else word := by
  unfold canonical
  simp only [value_eq_zero small]
  split
  · rename_i zero
    rcases zero with rfl | rfl <;> rfl
  · rename_i other
    rw [if_neg (fun same => other (.inr same))]

end PooleOS.Binary64
