import Mathlib

/- Tables of any dimension in a flat memory. A shape and its strides are lists, the
fastest axis first. When each stride covers the axis before it, items of distinct
cells do not overlap. -/
namespace PooleOS.Strides

open Nat

/-- The cell lies in the shape. -/
def Inside (shape cell : List Nat) : Prop := List.Forall₂ (· < ·) cell shape

/-- Where the item of a cell starts. -/
def position : List Nat → List Nat → Nat
  | stride :: strides, place :: cell => place * stride + position strides cell
  | _, _ => 0

/-- The number of a cell in the order of the axes: `(z * sy + y) * sx + x`. -/
def flatIndex : List Nat → List Nat → Nat
  | extent :: shape, place :: cell => place + extent * flatIndex shape cell
  | _, _ => 0

/-- Where the item of the last cell starts. -/
def last : List Nat → List Nat → Nat
  | extent :: shape, stride :: strides => (extent - 1) * stride + last shape strides
  | _, _ => 0

/-- Each stride covers the axis before it. -/
def Spaced : List Nat → List Nat → Prop
  | extent :: shape, stride :: following :: strides =>
    stride * extent ≤ following ∧ Spaced shape (following :: strides)
  | _, _ => True

example (sx sy sz x y z : Nat) : flatIndex [sx, sy, sz] [x, y, z] = x + sx * (y + sy * z) := rfl

variable {shape strides cell other : List Nat} {extent stride : Nat}

theorem flatIndex_lt (inside : Inside shape cell) : flatIndex shape cell < shape.prod := by
  induction inside with
  | nil => exact one_pos
  | @cons place extent cell shape less _ ih =>
    have scaled : extent * flatIndex shape cell + extent ≤ extent * shape.prod := by
      exact mul_le_mul_left extent ih
    rw [flatIndex, List.prod_cons]
    omega

theorem position_le_last : ∀ {shape strides cell : List Nat}, Inside shape cell →
    position strides cell ≤ last shape strides
  | _, [], _, .nil => le_refl _
  | _, _ :: _, _, .nil => le_refl _
  | _, [], _, .cons _ _ => zero_le _
  | _, _ :: _, _, .cons less rest =>
    Nat.add_le_add (Nat.mul_le_mul_right _ (Nat.le_sub_one_of_lt less)) (position_le_last rest)

/-- Items as wide as the first stride do not overlap. -/
theorem position_apart : ∀ {shape strides cell other : List Nat} {stride : Nat},
    shape.length = strides.length + 1 → Spaced shape (stride :: strides) → Inside shape cell →
      Inside shape other → cell ≠ other →
        position (stride :: strides) cell + stride ≤ position (stride :: strides) other ∨
          position (stride :: strides) other + stride ≤ position (stride :: strides) cell
  | extent :: shape, strides, place :: cell, place' :: other, stride, length, spaced, .cons less rest,
      .cons less' rest', distinct => by
      have near : ∀ {low high : Nat}, low < high → low * stride + stride ≤ high * stride := fun lower => by
        rw [← succ_mul]
        exact mul_le_mul_right _ lower
      rw [position, position]
      by_cases same : cell = other
      · subst same
        have apart : place ≠ place' := fun equal => distinct (by rw [equal])
        rcases lt_or_gt_of_ne apart with lower | higher
        · have := near lower
          omega
        · have := near higher
          omega
      · -- The following axis separates the two by a whole row.
        cases strides with
        | nil =>
          have none : shape = [] := List.length_eq_zero_iff.mp (succ.inj length)
          subst none
          cases rest
          cases rest'
          exact absurd rfl same
        | cons following strides =>
          obtain ⟨covers, spaced⟩ := spaced
          have row : ∀ {place : Nat}, place < extent → place * stride + stride ≤ following := by
            intro place lower
            refine le_trans (near lower) ?_
            rw [mul_comm]
            exact covers
          have first := row less
          have second := row less'
          rcases position_apart (succ.inj length) spaced rest rest' same with before | after
          · omega
          · omega

end PooleOS.Strides
