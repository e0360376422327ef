import PooleOS.Elf.Model
import PooleOS.Lib.Arrays

/- The plan of an accepted file: four mappings that follow each other over the image, the same
at every base that fits. -/
namespace PooleOS.Elf

variable {bytes : Bytes} {physicalBase other virtualBase : Nat} {plan : ImagePlan}

theorem toU32_eq_ok {given value : Nat} : toU32 given = .ok value ↔ given < u32Values ∧ value = given := by
  unfold toU32
  rw [unit_bind_eq_ok, require_eq_ok, pure_eq_ok]

theorem mappingPlan_eq_ok {offset size : Nat} {permissions : Permissions} {mapping : MappingPlan} :
    mappingPlan offset size permissions = .ok mapping ↔
      offset < u32Values ∧ size < u32Values ∧ mapping = ⟨offset, size, permissions⟩ := by
  simp only [mappingPlan, bind_eq_ok_iff, toU32_eq_ok, pure_eq_ok]
  constructor
  · rintro ⟨_, ⟨low, rfl⟩, _, ⟨small, rfl⟩, rfl⟩
    exact ⟨low, small, rfl⟩
  · rintro ⟨low, small, rfl⟩
    exact ⟨_, ⟨low, rfl⟩, _, ⟨small, rfl⟩, rfl⟩

/-- The file is accepted at every base that fits, with the plan moved there. -/
theorem inspect_moved (accepted : inspect bytes other virtualBase = .ok plan)
    (based : validateBaseAddresses physicalBase virtualBase plan.imageSize = .ok ())
    (small : physicalBase + plan.entryOffset < u64Values) : inspect bytes physicalBase virtualBase =
      .ok { plan with physicalBase := physicalBase, entryPhysical := physicalBase + plan.entryOffset } := by
  unfold inspect at accepted ⊢
  obtain ⟨⟨entry, headers⟩, header, accepted⟩ := bind_eq_ok accepted
  obtain ⟨_, phdr, accepted⟩ := bind_eq_ok accepted
  obtain ⟨⟨loads, imageSize⟩, loaded, accepted⟩ := bind_eq_ok accepted
  obtain ⟨_, -, accepted⟩ := bind_eq_ok accepted
  obtain ⟨_, entered, accepted⟩ := bind_eq_ok accepted
  obtain ⟨⟨address, size, count⟩, placed, accepted⟩ := bind_eq_ok accepted
  obtain ⟨_, relocated, accepted⟩ := bind_eq_ok accepted
  rw [header, ok_bind]
  dsimp only at loaded accepted ⊢
  rw [phdr, ok_bind, loaded, ok_bind]
  simp only [bind_eq_ok_iff, pure_eq_ok] at accepted
  obtain ⟨text, texted, code, coded, data, written, relroEnd, ended, writableEnd, reached, first, one, second, two, third,
    three, room, left, fourth, four, fileSize, filed, total, sized, start, offset, entryVirtual, above, _, -, records,
    counted, relroOffset, begun, relroSize, length, planned⟩ := accepted
  rw [planned, (toU32_eq_ok.mp sized).2] at based
  rw [planned, (toU32_eq_ok.mp offset).2] at small
  have moved : add physicalBase entry .entryPoint = .ok (physicalBase + entry) := addOr_of small
  rw [planned]
  simp only [ok_bind, based, entered, placed, relocated, texted, coded, written, ended, reached, one, two, three, left,
    four, filed, sized, offset, above, moved, counted, begun, length, (toU32_eq_ok.mp offset).2]
  rfl

/-- The mappings of an accepted file: text, code, the pages after relocation and data, one after the other. -/
structure Planned (physicalBase virtualBase : Nat) (plan : ImagePlan) (text code relro data : Nat) : Prop where
  mappings : plan.mappings = ![⟨0, text, .readOnly⟩, ⟨text, code, .readExecute⟩, ⟨text + code, relro, .readOnly⟩,
    ⟨text + code + relro, data, .readWrite⟩]
  image : plan.imageSize = text + code + relro + data
  sized : ∀ size ∈ [text, code, relro, data], 0 < size ∧ size % 4096 = 0
  small : plan.imageSize ≤ maxImageBytes
  based : plan.physicalBase = physicalBase ∧ plan.virtualBase = virtualBase
  entered : text ≤ plan.entryOffset ∧ plan.entryOffset < text + code
  entry : plan.entryVirtual = virtualBase + plan.entryOffset ∧ plan.entryPhysical = physicalBase + plan.entryOffset

theorem validateLoad_ok {load : ProgramHeader} {flags : Nat} (passed : validateLoad bytes load flags = .ok ()) :
    0 < load.memorySize ∧ load.memorySize % 4096 = 0 := by
  simp only [validateLoad, bind_eq_ok_iff, require_eq_ok, not_or, not_not, MultipleOf] at passed
  obtain ⟨_, _, _, _, _, _, _, ⟨_, nonzero, _, whole⟩, _⟩ := passed
  exact ⟨Nat.pos_of_ne_zero nonzero, whole⟩

/-- The sizes and places of the load segments of an accepted file. -/
theorem validateLoads_ok {headers : Fin 7 → ProgramHeader} {loads : Fin 3 → ProgramHeader} {imageSize : Nat}
    (passed : validateLoads bytes headers = .ok (loads, imageSize)) :
    (∀ index, 0 < (loads index).memorySize ∧ (loads index).memorySize % 4096 = 0) ∧
      (loads 0).virtualAddress = 0 ∧ (loads 1).virtualAddress = (loads 0).memorySize ∧
      (loads 1).fileSize = (loads 1).memorySize ∧
      (loads 2).virtualAddress = (loads 0).memorySize + (loads 1).memorySize ∧
      imageSize = (loads 2).virtualAddress + (loads 2).memorySize ∧ imageSize ≤ maxImageBytes := by
  unfold validateLoads at passed
  simp only [bind_eq_ok_iff, require_eq_ok, add, addOr_eq_ok, forM_eq_ok, pure_eq_ok, Prod.mk.injEq, not_or, not_not]
    at passed
  obtain ⟨_, each, _, ⟨start, _⟩, _, ⟨_, whole⟩, second, ⟨_, sum⟩, _, next, third, ⟨_, total⟩, _, last, _, _, _, _, _, _,
    _, _, _, _, _, _, _, _, _, _, size, ⟨_, reached⟩, _, ⟨_, small⟩, same, image⟩ := passed
  rw [same, image]
  refine ⟨fun index => validateLoad_ok (each index (List.mem_finRange index)), start, by omega, whole, by omega, reached,
    by omega⟩

theorem inspect_planned (accepted : inspect bytes physicalBase virtualBase = .ok plan) :
    ∃ text code relro data, Planned physicalBase virtualBase plan text code relro data := by
  obtain ⟨⟨entry, headers⟩, -, accepted⟩ := bind_eq_ok accepted
  obtain ⟨_, -, accepted⟩ := bind_eq_ok accepted
  obtain ⟨⟨loads, imageSize⟩, loaded, accepted⟩ := bind_eq_ok accepted
  obtain ⟨_, -, accepted⟩ := bind_eq_ok accepted
  obtain ⟨_, entered, accepted⟩ := bind_eq_ok accepted
  obtain ⟨⟨_, _, _⟩, placed, accepted⟩ := bind_eq_ok accepted
  obtain ⟨sizes, start, next, whole, last, image, small⟩ := validateLoads_ok loaded
  simp only [validateDynamicAndRelro, validateRelro, bind_eq_ok_iff, require_eq_ok, not_or, not_not, MultipleOf] at placed
  obtain ⟨_, ⟨-, -, same, -, -, nonempty, aligned, -, fits, -⟩, -⟩ := placed
  obtain ⟨-, -, after, before⟩ := require_eq_ok.mp entered
  simp only [bind_eq_ok_iff, toU32_eq_ok, add, addOr_eq_ok, minus_eq_ok, mappingPlan_eq_ok, pure_eq_ok] at accepted
  obtain ⟨_, -, _, -, _, -, _, -, relroEnd, ⟨-, ended⟩, writableEnd, ⟨-, reached⟩, _, ⟨-, -, first⟩, _, ⟨-, -, second⟩,
    _, ⟨-, -, third⟩, room, ⟨-, left⟩, _, ⟨-, -, fourth⟩, _, -, _, ⟨-, sized⟩, _, ⟨-, offset⟩, _, ⟨-, above⟩, _,
    ⟨-, below⟩, _, -, _, -, _, -, planned⟩ := accepted
  have unit : pageSize = 4096 := rfl
  rw [unit] at nonempty aligned
  have zero := sizes 0
  have one := sizes 1
  have two := sizes 2
  refine ⟨(loads 0).memorySize, (loads 1).memorySize, (headers 5).memorySize,
    (loads 2).memorySize - (headers 5).memorySize, ?_⟩
  rw [planned]
  refine ⟨?_, ?_, ?_, ?_, ⟨rfl, rfl⟩, ⟨?_, ?_⟩, ?_, ?_⟩
  · rw [first, second, third, fourth, left, ended, reached, same, start, next, last, Nat.add_sub_add_left]
  · dsimp only
    omega
  · simp only [List.forall_mem_cons]
    refine ⟨by omega, by omega, by omega, by omega, nofun⟩
  · dsimp only
    omega
  · dsimp only
    omega
  · dsimp only
    omega
  · rw [above, offset]
  · rw [below, offset]
end PooleOS.Elf
