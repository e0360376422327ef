import Mathlib

/- Ordered places that share no item. A value of this type cannot hold an item
twice, so exclusive ownership needs no further argument once it is built. -/
namespace PooleOS

open Function (update update_of_ne update_self)

structure Places (P I : Type) where
  items : P → List I
  nodup : ∀ place, (items place).Nodup
  apart : ∀ {place other item}, item ∈ items place → item ∈ items other → place = other

namespace Places

variable {P I : Type}

def empty : Places P I := ⟨fun _ => [], fun _ => List.nodup_nil, fun member => by cases member⟩

def Absent (places : Places P I) (item : I) : Prop := ∀ place, item ∉ places.items place

@[simp] theorem mem_empty (place : P) (item : I) : item ∈ (empty : Places P I).items place ↔ False := by simp [empty]

variable [DecidableEq P]

/-- A new item joins a place at its end. -/
def join (places : Places P I) (place : P) (item : I) (absent : places.Absent item) : Places P I where
  items := update places.items place (places.items place ++ [item])
  nodup := by
    intro other
    by_cases same : other = place
    · subst same
      rw [update_self]
      exact List.nodup_append.mpr ⟨places.nodup other, List.nodup_singleton item, by
        intro first here second there
        rw [List.mem_singleton] at there
        rintro rfl
        subst there
        exact absent other here⟩
    · rw [update_of_ne same]
      exact places.nodup other
  apart := by
    have old : ∀ other first, first ∈
        update places.items place (places.items place ++ [item]) other →
        first ∈ places.items other ∨ (first = item ∧ other = place) := by
      intro other first member
      by_cases same : other = place
      · subst same
        rw [update_self, List.mem_append, List.mem_singleton] at member
        exact member.imp_right (fun here => ⟨here, rfl⟩)
      · rw [update_of_ne same] at member
        exact Or.inl member
    intro left right first inLeft inRight
    rcases old left first inLeft with here | ⟨same, atLeft⟩ <;>
      rcases old right first inRight with there | ⟨same', atRight⟩
    · exact places.apart here there
    · exact absurd (same' ▸ here) (absent left)
    · exact absurd (same ▸ there) (absent right)
    · exact atLeft.trans atRight.symm

theorem join_items (places : Places P I) (place : P) (item : I) (absent : places.Absent item)
    (other : P) :
    (places.join place item absent).items other =
      if other = place then places.items place ++ [item] else places.items other := by
  unfold join
  by_cases same : other = place
  · subst same
    simp
  · simp [same]

@[simp] theorem mem_join (places : Places P I) (place : P) (item : I) (absent : places.Absent item) (other : P)
    (first : I) : first ∈ (places.join place item absent).items other ↔
      first ∈ places.items other ∨ (other = place ∧ first = item) := by
  rw [join_items]
  split
  · rename_i same
    subst same
    simp
  · rename_i differs
    simp [differs]

variable [DecidableEq I]

/-- An item leaves a place; the others keep their order. -/
def leave (places : Places P I) (place : P) (item : I) : Places P I where
  items := update places.items place ((places.items place).erase item)
  nodup := by
    intro other
    by_cases same : other = place
    · subst same
      rw [update_self]
      exact (places.nodup other).erase item
    · rw [update_of_ne same]
      exact places.nodup other
  apart := by
    have old : ∀ other first, first ∈
        update places.items place ((places.items place).erase item) other →
        first ∈ places.items other := by
      intro other first member
      by_cases same : other = place
      · subst same
        rw [update_self] at member
        exact List.mem_of_mem_erase member
      · rwa [update_of_ne same] at member
    intro left right first inLeft inRight
    exact places.apart (old left first inLeft) (old right first inRight)

theorem leave_items (places : Places P I) (place : P) (item : I) (other : P) :
    (places.leave place item).items other =
      if other = place then (places.items place).erase item else places.items other := by
  unfold leave
  by_cases same : other = place
  · subst same
    simp
  · simp [same]

@[simp] theorem mem_leave (places : Places P I) (place : P) (item : I) (other : P) (first : I) :
    first ∈ (places.leave place item).items other ↔ first ∈ places.items other ∧ ¬ (other = place ∧ first = item) := by
  rw [leave_items]
  split
  · rename_i same
    subst same
    rw [(places.nodup other).mem_erase_iff]
    constructor
    · rintro ⟨differs, member⟩
      exact ⟨member, fun both => differs both.2⟩
    · rintro ⟨member, differs⟩
      exact ⟨fun same => differs ⟨rfl, same⟩, member⟩
  · rename_i differs
    simp [differs]

theorem absent_leave {places : Places P I} {place : P} {item : I}
    (member : item ∈ places.items place) : (places.leave place item).Absent item := by
  intro other inside
  rw [mem_leave] at inside
  exact inside.2 ⟨places.apart inside.1 member, rfl⟩

omit [DecidableEq P] [DecidableEq I] in
/-- Listing distinct places one after the other repeats nothing. -/
theorem nodup_flatMap (places : Places P I) {order : List P} (distinct : order.Nodup) :
    (order.flatMap places.items).Nodup := by
  rw [List.nodup_flatMap]
  refine ⟨fun place _ => places.nodup place, ?_⟩
  refine distinct.imp ?_
  intro left right differs item inLeft inRight
  exact differs (places.apart inLeft inRight)

omit [DecidableEq P] [DecidableEq I] in
/-- No place holds more items than there are. -/
theorem length_le [Fintype I] (places : Places P I) (place : P) : (places.items place).length ≤ Fintype.card I :=
  (places.nodup place).length_le_card

omit [DecidableEq I] in
/-- A place has room for an item that is nowhere. -/
theorem length_lt [Fintype I] (places : Places P I) {item : I} (absent : places.Absent item)
    (place : P) : (places.items place).length < Fintype.card I := by
  have grown := (places.join place item absent).length_le place
  rw [join_items, if_pos rfl, List.length_append, List.length_singleton] at grown
  omega

end Places

end PooleOS
