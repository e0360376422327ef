import PooleOS.LiveHandoff.MemoryMap

/- The firmware may list its descriptors in any order: the normalised map is the same. -/
namespace PooleOS.LiveHandoff

open List

variable {items : List Bytes} {written written' : List MemoryEntry}

/-- The descriptors are normalised one by one. -/
theorem written_iff : items.mapM normalizeDescriptor = .ok written ↔ (∀ item ∈ items, (normalizeDescriptor item).isOk) ∧
    written = items.map fun item => (normalizeDescriptor item).toOption.getD ⟨0, 0, 0, 0, 0⟩ := by
  refine mapM_closed (fun item _ entry => ?_) written
  cases normalizeDescriptor item <;> simp [Except.isOk, Except.toBool, Except.toOption, eq_comm]

/-- Entries without overlap are sorted in one way only. -/
theorem insertionSort_unique {last : Nat} (perm : written'.Perm written) (fits : ∀ entry ∈ written, Fits entry)
    (checked : (insertionSort MemoryEntry.start written).zipIdx.foldlM checkOverlap 0 = .ok last) :
    insertionSort MemoryEntry.start written' = insertionSort MemoryEntry.start written := by
  obtain ⟨same, sorted⟩ := @insertionSort_sorted _ _ _ MemoryEntry.start written
  obtain ⟨same', sorted'⟩ := @insertionSort_sorted _ _ _ MemoryEntry.start written'
  have moved := same'.trans (perm.trans same.symm)
  have fits := fun entry member => fits entry (same.mem_iff.mp member)
  have distinct : ((insertionSort MemoryEntry.start written).map MemoryEntry.start).Nodup := by
    refine pairwise_map.mpr ((checked_disjoint fits (fun _ => rfl) checked).2.imp_of_mem fun member _ apart equal => ?_)
    have filled := (fits _ member).filled
    unfold MemoryEntry.stop pageBytes at apart
    omega
  exact moved.eq_of_pairwise (fun _ _ first second below above => inj_on_of_nodup_map distinct (moved.mem_iff.mp first) second
    (le_antisymm below above)) sorted' sorted

/-- A buffer with the same descriptors in another order is normalised to the same entries. -/
theorem order_irrelevant (raw : Bytes) (descriptorSize descriptorVersion outputBytes : Nat) :
    Spec (normalizeMemoryMap raw descriptorSize descriptorVersion outputBytes) (fun entries => ∀ raw' : Bytes,
      raw'.length = raw.length → (descriptors raw' descriptorSize).Perm (descriptors raw descriptorSize) →
        normalizeMemoryMap raw' descriptorSize descriptorVersion outputBytes = .ok entries) (fun _ => True) := by
  cases made : normalizeMemoryMap raw descriptorSize descriptorVersion outputBytes with
  | error reason => trivial
  | ok entries =>
    intro raw' length perm
    unfold normalizeMemoryMap at made ⊢
    have empty : raw' ≠ [] ↔ raw ≠ [] := by rw [← length_pos_iff, ← length_pos_iff, length]
    simp only [bind_eq_ok_iff, demand_eq_ok, exists_const, pure_eq_ok, length, empty] at made ⊢
    obtain ⟨size, version, shape, count, required, room, enough, written, ran, last, checked, rfl⟩ := made
    obtain ⟨-, good⟩ := written_describes ran
    obtain ⟨fine, rfl⟩ := written_iff.mp ran
    have unique := insertionSort_unique (perm.map _) good checked
    exact ⟨size, version, shape, count, required, room, enough, _,
      written_iff.mpr ⟨fun item member => fine item (perm.mem_iff.mp member), rfl⟩, last, unique.symm ▸ checked, unique.symm⟩

end PooleOS.LiveHandoff
