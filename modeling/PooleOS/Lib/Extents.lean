import Mathlib

/- Runs of consecutive pages, each labelled with a zone, and lists of such runs in which no two
could be written as one. -/
namespace PooleOS

open List

structure Extent (Z : Type) where
  startPage : Nat
  pageCount : Nat
  zone : Z
deriving DecidableEq, Repr

namespace Extent

variable {Z : Type}

/-- What is left of a run when its first pages are taken. -/
def shrink (extent : Extent Z) (pages : Nat) : Extent Z :=
  ⟨extent.startPage + pages, extent.pageCount - pages, extent.zone⟩

def endPage (extent : Extent Z) : Nat := extent.startPage + extent.pageCount

def Before (first second : Extent Z) : Prop := first.endPage ≤ second.startPage

/-- One run, cut in two. -/
def Joins (first second : Extent Z) : Prop := first.zone = second.zone ∧ first.endPage = second.startPage

instance [DecidableEq Z] (first second : Extent Z) : Decidable (first.Joins second) :=
  inferInstanceAs (Decidable (_ ∧ _))

instance (first second : Extent Z) : Decidable (first.Before second) := inferInstanceAs (Decidable (_ ≤ _))

def Covers (extent : Extent Z) (page : Nat) (zone : Z) : Prop :=
  extent.zone = zone ∧ extent.startPage ≤ page ∧ page < extent.endPage

variable {first second block : Extent Z}

theorem before_congr (labelled : block.zone = second.zone) (start : block.startPage = second.startPage) :
    (first.Before block ∧ ¬ first.Joins block) ↔ (first.Before second ∧ ¬ first.Joins second) := by
  unfold Before Joins
  rw [labelled, start]

theorem after_congr (labelled : block.zone = first.zone) (stop : block.endPage = first.endPage) :
    (block.Before second ∧ ¬ block.Joins second) ↔ (first.Before second ∧ ¬ first.Joins second) := by
  unfold Before Joins
  rw [labelled, stop]

end Extent

variable {Z : Type}

def Covered (extents : List (Extent Z)) (page : Nat) (zone : Z) : Prop :=
  ∃ extent ∈ extents, extent.Covers page zone

/-- Runs in ascending order, none empty, and no two of them one run cut in two. -/
structure Tidy (extents : List (Extent Z)) : Prop where
  filled : ∀ extent ∈ extents, 0 < extent.pageCount
  spaced : extents.Pairwise (fun first second => first.Before second ∧ ¬ first.Joins second)

section Absorb

variable {front back : List (Extent Z)} {previous next : Option (Extent Z)} {extent block : Extent Z}

theorem covered_append {page : Nat} {zone : Z} :
    Covered (front ++ back) page zone ↔ Covered front page zone ∨ Covered back page zone := by
  simp only [Covered, mem_append, or_and_right, exists_or]

/-- A run takes the place of the neighbours that it joins. -/
theorem Tidy.absorb (tidy : Tidy ((front ++ previous.toList) ++ (next.toList ++ back))) (filled : 0 < extent.pageCount)
    (after : ∀ other ∈ front ++ previous.toList, other.Before extent)
    (before : ∀ other ∈ next.toList ++ back, extent.Before other)
    (joinsPrevious : ∀ other ∈ previous, other.Joins extent) (joinsNext : ∀ other ∈ next, extent.Joins other)
    (freeFront : ∀ other ∈ front, ¬ other.Joins extent) (freeBack : ∀ other ∈ back, ¬ extent.Joins other)
    (labelled : block.zone = extent.zone) (start : block.startPage = (previous.getD extent).startPage)
    (stop : block.endPage = (next.getD extent).endPage) :
    Tidy (front ++ block :: back) ∧ ∀ page zone, Covered (front ++ block :: back) page zone ↔
      Covered ((front ++ previous.toList) ++ (next.toList ++ back)) page zone ∨ extent.Covers page zone := by
  obtain ⟨sizes, spaced⟩ := tidy
  obtain ⟨left, right, across⟩ := pairwise_append.mp spaced
  obtain ⟨kept, -, toPrevious⟩ := pairwise_append.mp left
  obtain ⟨-, rest, fromNext⟩ := pairwise_append.mp right
  have behind : ∀ other ∈ front, other.Before block ∧ ¬ other.Joins block := by
    intro other member
    cases previous with
    | none =>
      exact (Extent.before_congr labelled start).mpr
        ⟨after other (mem_append_left _ member), freeFront other member⟩
    | some prior =>
      exact (Extent.before_congr (labelled.trans (joinsPrevious prior rfl).1.symm) start).mpr
        (toPrevious other member prior (mem_singleton_self prior))
  have ahead : ∀ other ∈ back, block.Before other ∧ ¬ block.Joins other := by
    intro other member
    cases next with
    | none =>
      exact (Extent.after_congr labelled stop).mpr
        ⟨before other (mem_append_right _ member), freeBack other member⟩
    | some later =>
      exact (Extent.after_congr (labelled.trans (joinsNext later rfl).1) stop).mpr
        (fromNext later (mem_singleton_self later) other member)
  have covers : ∀ page zone, block.Covers page zone ↔
      Covered previous.toList page zone ∨ extent.Covers page zone ∨ Covered next.toList page zone := by
    cases previous <;> cases next <;>
      simp [Covered, Extent.Covers, Extent.Joins, Extent.endPage] at joinsPrevious joinsNext start stop ⊢ <;>
      grind
  have nonempty : 0 < block.pageCount := by
    have inside := (covers extent.startPage extent.zone).mpr (.inr (.inl ⟨rfl, Nat.le_refl _, Nat.lt_add_of_pos_right filled⟩))
    unfold Extent.Covers Extent.endPage at inside
    omega
  refine ⟨⟨?_, ?_⟩, ?_⟩
  · intro other member
    rcases mem_append.mp member with early | late
    · exact sizes other (mem_append_left _ (mem_append_left _ early))
    · rcases mem_cons.mp late with rfl | late
      · exact nonempty
      · exact sizes other (mem_append_right _ (mem_append_right _ late))
  · refine pairwise_append.mpr ⟨kept, pairwise_cons.mpr ⟨ahead, rest⟩, fun one early other late => ?_⟩
    rcases mem_cons.mp late with rfl | late
    · exact behind one early
    · exact across one (mem_append_left _ early) other (mem_append_right _ late)
  · intro page zone
    have split : Covered (block :: back) page zone ↔ block.Covers page zone ∨ Covered back page zone := by
      simp [Covered]
    rw [covered_append, split, covers, covered_append, covered_append, covered_append]
    constructor
    · rintro (early | (before | here | next) | late)
      · exact .inl (.inl (.inl early))
      · exact .inl (.inl (.inr before))
      · exact .inr here
      · exact .inl (.inr (.inl next))
      · exact .inl (.inr (.inr late))
    · rintro (((early | before) | (next | late)) | here)
      · exact .inl early
      · exact .inr (.inl (.inl before))
      · exact .inr (.inl (.inr (.inr next)))
      · exact .inr (.inr late)
      · exact .inr (.inl (.inr (.inl here)))

end Absorb

end PooleOS
