import Mathlib

/- Processor and task identities. Both scheduler generations declare the same
four-processor, eight-slot identities, so they are declared once here. -/
namespace PooleOS

/-- The private field of `CpuId` is below the processor count in every value. -/
abbrev CpuId : Type := Fin 4

/-- A task slot that has passed the range check. -/
abbrev Slot : Type := Fin 8

instance : LawfulBEq Slot := inferInstance

namespace CpuId

/-- `CpuId::new`, without the error it reports. -/
def new (value : Nat) : Option CpuId := if inside : value < 4 then some ⟨value, inside⟩ else none

def mask (cpu : CpuId) : BitVec 8 := 1#8 <<< cpu.val

@[simp] theorem new_val (cpu : CpuId) : new cpu.val = some cpu := by
  simp [new]

end CpuId

/-- `mask & cpu.mask() != 0`. -/
def Allows (affinity : BitVec 8) (cpu : CpuId) : Prop := affinity &&& cpu.mask ≠ 0#8

instance (affinity : BitVec 8) (cpu : CpuId) : Decidable (Allows affinity cpu) :=
  inferInstanceAs (Decidable (_ ≠ _))

/-- `mask & !limit == 0`. -/
def Within (affinity limit : BitVec 8) : Prop := affinity &&& ~~~limit = 0#8

instance (affinity limit : BitVec 8) : Decidable (Within affinity limit) :=
  inferInstanceAs (Decidable (_ = _))

theorem Within.allows {affinity limit : BitVec 8} {cpu : CpuId} (within : Within affinity limit)
    (allows : Allows affinity cpu) : Allows limit cpu := by
  intro absent
  apply allows
  -- Split the mask along the limit: one half is empty, the other misses this bit.
  have split : affinity = affinity &&& limit ||| affinity &&& ~~~limit := by
    ext bit
    simp only [BitVec.getElem_or, BitVec.getElem_and, BitVec.getElem_not]
    cases affinity[bit] <;> cases limit[bit] <;> rfl
  have inside : affinity = affinity &&& limit := by
    rw [within, BitVec.or_zero] at split
    exact split
  rw [inside, BitVec.and_assoc, absent, BitVec.and_zero]

/-- A non-empty mask within the four processors names one of them. -/
theorem exists_allows {affinity : BitVec 8} (nonempty : affinity ≠ 0#8)
    (within : Within affinity 0x0f#8) : ∃ cpu, Allows affinity cpu := by
  revert affinity
  decide +kernel

structure TaskId where
  slot : Nat
  generation : Nat
deriving DecidableEq, Repr

namespace TaskId

/-- The slot, where it is in range. -/
def index? (id : TaskId) : Option Slot :=
  if inside : id.slot < 8 then some ⟨id.slot, inside⟩ else none

theorem index?_mk (slot : Slot) (generation : Nat) : index? ⟨slot.val, generation⟩ = some slot := by
  simp [index?]

theorem index?_eq_some {id : TaskId} {slot : Slot} : id.index? = some slot ↔ id.slot = slot.val := by
  unfold index?
  split
  · simp only [Option.some.injEq]
    exact ⟨fun same => same ▸ rfl, fun same => Fin.ext same⟩
  · rename_i outside
    simp only [reduceCtorEq, false_iff]
    intro same
    exact outside (same ▸ slot.isLt)

theorem eq_mk_iff {id : TaskId} {slot : Slot} {generation : Nat} :
    id = ⟨slot.val, generation⟩ ↔ id.index? = some slot ∧ generation = id.generation := by
  rw [index?_eq_some, TaskId.mk.injEq, eq_comm (a := generation)]

end TaskId

end PooleOS
