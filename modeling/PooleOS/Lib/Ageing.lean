import Mathlib

/- Selection by age. Each round takes the oldest member of a class, resets its
age and ages the rest of the class by one. However classes are formed, at most
`n - k` of the `n` items ever have age `k` or more. -/
namespace PooleOS.Ageing

open Finset

variable {I : Type} [Fintype I]

def Bounded (age : I → Nat) : Prop :=
  ∀ level, (Finset.univ.filter (fun item => level ≤ age item)).card ≤ Fintype.card I - level

theorem Bounded.lt {age : I → Nat} (bounded : Bounded age) (item : I) : age item < Fintype.card I := by
  have member : item ∈ univ.filter (fun other => age item ≤ age other) := by simp
  have positive := card_pos.mpr ⟨item, member⟩
  have limit := bounded (age item)
  omega

theorem bounded_zero : Bounded (fun _ : I => 0) := by
  intro level
  by_cases zero : level = 0
  · subst zero
    exact card_le_univ _
  · have none : (univ.filter (fun _ : I => level ≤ 0)) = ∅ := by
      ext item
      simp [zero]
    rw [none]
    simp

/-- Ages may fall at any time: a reset never breaks the bound. -/
theorem Bounded.mono {age younger : I → Nat} (bounded : Bounded age)
    (fall : ∀ item, younger item ≤ age item) : Bounded younger := by
  intro level
  refine le_trans (card_le_card ?_) (bounded level)
  intro item member
  rw [mem_filter] at member ⊢
  exact ⟨member.1, le_trans member.2 (fall item)⟩

/-- One round. Only the oldest member's reset pays for the others' new age. -/
theorem Bounded.round [DecidableEq I] {age next : I → Nat} (bounded : Bounded age)
    (cohort : Finset I) (chosen : I) (member : chosen ∈ cohort) (oldest : ∀ item ∈ cohort, age item ≤ age chosen)
    (reset : next chosen = 0) (aged : ∀ item ∈ cohort, next item ≤ age item + 1)
    (kept : ∀ item, item ∉ cohort → next item ≤ age item) : Bounded next := by
  intro level
  by_cases zero : level = 0
  · subst zero
    exact card_le_univ _
  by_cases reach : level - 1 ≤ age chosen
  · -- The chosen item was counted one level below and is counted no more.
    have inside : univ.filter (fun item => level ≤ next item) ⊆
        (univ.filter (fun item => level - 1 ≤ age item)).erase chosen := by
      intro item counted
      rw [mem_filter] at counted
      rw [mem_erase, mem_filter]
      refine ⟨?_, mem_univ item, ?_⟩
      · rintro rfl
        omega
      · by_cases there : item ∈ cohort
        · have := aged item there
          omega
        · have := kept item there
          omega
    have below := bounded (level - 1)
    have counted : chosen ∈ univ.filter (fun item => level - 1 ≤ age item) := by
      rw [mem_filter]
      exact ⟨mem_univ chosen, reach⟩
    have fewer := card_le_card inside
    rw [card_erase_of_mem counted] at fewer
    omega
  · -- Nobody in the cohort reaches this level, so nothing new is counted.
    refine le_trans (card_le_card ?_) (bounded level)
    intro item counted
    rw [mem_filter] at counted ⊢
    refine ⟨mem_univ item, ?_⟩
    by_cases there : item ∈ cohort
    · have := aged item there
      have := oldest item there
      omega
    · exact le_trans counted.2 (kept item there)

end PooleOS.Ageing
