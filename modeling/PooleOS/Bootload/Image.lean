import PooleOS.Elf.Plan
import PooleOS.Kmap.Accepts

/- What the boot does with the plan of a kernel image: the boot loader checks it again
(`native/bootload/src/lib.rs`), and the mapping request is built from it (`native/boot/src/kmap.rs`). -/
namespace PooleOS.Bootload

open List
open Elf (ImagePlan Planned inspect)
open Kmap (Mapping Request TableAddresses Width)

section Definitions

inductive Error
  | addressRange
  | mappingPlan
  | pageCount
deriving DecidableEq, Repr

abbrev Outcome (α : Type) : Type := PooleOS.Outcome Error α

/-- `VIRTUAL_BASE`. -/
def virtualBase : Nat := Elf.minVirtualBase

def expectedPermissions : Fin 4 → Elf.Permissions := ![.readOnly, .readExecute, .readOnly, .readWrite]

/-- One round of the loop over the mappings, with the end of the round before. -/
def validateMapping (plan : ImagePlan) (previousEnd : Nat) (index : Fin 4) : Outcome Nat := do
  let mapping := plan.mappings index
  require (¬ (mapping.permissions ≠ expectedPermissions index ∨
    (mapping.permissions.write = true ∧ mapping.permissions.execute = true) ∨ mapping.memorySize = 0 ∨
    ¬ MultipleOf Elf.pageSize mapping.virtualOffset ∨ ¬ MultipleOf Elf.pageSize mapping.memorySize)) .mappingPlan
  let start := mapping.virtualOffset
  let mappingEnd ← addOr start mapping.memorySize .mappingPlan
  require (¬ ((index = 0 ∧ start ≠ 0) ∨ start < previousEnd ∨ plan.imageSize < mappingEnd)) .mappingPlan
  return mappingEnd

def validateImagePlan (plan : ImagePlan) : Outcome Unit := do
  require (¬ (plan.virtualBase ≠ virtualBase ∨ plan.physicalBase < Elf.minPhysicalBase ∨
    Elf.maxPhysicalExclusive ≤ plan.physicalBase ∨ ¬ MultipleOf Elf.pageSize plan.physicalBase ∨
    plan.imageSize = 0 ∨ Elf.maxImageBytes < plan.imageSize ∨ ¬ MultipleOf Elf.pageSize plan.imageSize)) .addressRange
  let _ ← (List.finRange 4).foldlM (validateMapping plan) 0
  let executable := plan.mappings 1
  let entry := plan.entryOffset
  let executableEnd ← addOr executable.virtualOffset executable.memorySize .mappingPlan
  require (¬ (entry < executable.virtualOffset ∨ executableEnd ≤ entry)) .mappingPlan
  require (plan.entryVirtual = (← plus virtualBase entry)) .mappingPlan
  require (plan.entryPhysical = (← plus plan.physicalBase entry)) .mappingPlan

def pageCount (byteCount : Nat) : Outcome Nat := do
  require (¬ (byteCount = 0 ∨ Elf.maxImageBytes < byteCount)) .pageCount
  let rounded ← addOr byteCount (Elf.pageSize - 1) .pageCount
  require (rounded / Elf.pageSize ≠ 0) .pageCount
  return rounded / Elf.pageSize

/-- The fields of `kload::Summary` that `mapping_request` reads. -/
structure Summary where
  kernelImageBytes : Nat
  pageCount : Nat
  mappingCount : Nat
  mappings : Fin 4 → Elf.MappingPlan
  kernelPhysicalBase : Nat
  kernelVirtualBase : Nat
  kernelEntryVirtual : Nat

/-- What `load_kernel` makes of the plan, in the summary. -/
def summarize (image : ImagePlan) : Outcome Summary := do
  validateImagePlan image
  let pages ← pageCount image.imageSize
  return ⟨image.imageSize, pages, 4, image.mappings, image.physicalBase, image.virtualBase, image.entryVirtual⟩

/-- A failure of the boot, with its stage. -/
structure Failure where
  stage : String
  error : Kmap.Error
deriving DecidableEq, Repr

/-- `Mapping::EMPTY`. -/
def emptyMapping : Mapping := ⟨0, 0, ⟨false, false, false⟩⟩

def requestMapping (source : Elf.MappingPlan) : Mapping :=
  ⟨source.virtualOffset, source.memorySize,
    ⟨source.permissions.read, source.permissions.write, source.permissions.execute⟩⟩

def mappingRequest (kernel : Summary) (physicalAddressBits : Nat) : Except Failure Request := do
  demand (kernel.pageCount < u32Values) ⟨"kmap.request_page_count", .pageCount⟩
  demand (kernel.mappingCount < 256) ⟨"kmap.request_mapping_count", .mappingCount⟩
  return {
    physicalBase := BitVec.ofNat 64 kernel.kernelPhysicalBase
    virtualBase := BitVec.ofNat 64 kernel.kernelVirtualBase
    imageBytes := kernel.kernelImageBytes
    pageCount := kernel.pageCount
    entryVirtual := BitVec.ofNat 64 kernel.kernelEntryVirtual
    mappingCount := kernel.mappingCount
    mappings := fun index =>
      if inside : index.val < 4 then requestMapping (kernel.mappings ⟨index.val, inside⟩) else emptyMapping
    physicalAddressBits }

end Definitions

section Plan

variable {plan : ImagePlan} {physicalBase text code relro data : Nat}

theorem validateMapping_ok {index : Fin 4} {offset size previousEnd : Nat}
    (found : plan.mappings index = ⟨offset, size, expectedPermissions index⟩) (first : index = 0 → offset = 0)
    (sized : 0 < size ∧ size % 4096 = 0) (aligned : offset % 4096 = 0) (after : previousEnd ≤ offset)
    (inside : offset + size ≤ plan.imageSize) (small : plan.imageSize ≤ Elf.maxImageBytes) :
    validateMapping plan previousEnd index = .ok (offset + size) := by
  have safe : ∀ index, ¬ ((expectedPermissions index).write = true ∧ (expectedPermissions index).execute = true) := by
    decide
  have wide : Elf.maxImageBytes < u64Values := by decide
  have unit : Elf.pageSize = 4096 := rfl
  unfold validateMapping
  rw [found]
  dsimp only
  rw [require_of, ok_bind, addOr_of (by omega), ok_bind, require_of, ok_bind]
  · rfl
  · simp only [not_or, not_lt]
    exact ⟨fun both => both.2 (first both.1), after, inside⟩
  · simp only [not_or, not_not, MultipleOf, unit]
    exact ⟨trivial, safe index, by omega, aligned, sized.2⟩

/-- The boot loader accepts the plan of an accepted file. -/
theorem validateImagePlan_ok (planned : Planned physicalBase virtualBase plan text code relro data)
    (low : Elf.minPhysicalBase ≤ physicalBase) (aligned : physicalBase % 4096 = 0)
    (high : physicalBase < Elf.maxPhysicalExclusive) : validateImagePlan plan = .ok () := by
  obtain ⟨mappings, image, sized, small, ⟨physical, base⟩, entered, virtual_, entry⟩ := planned
  simp only [forall_mem_cons] at sized
  obtain ⟨one, two, three, four, _⟩ := sized
  have limit : Elf.maxImageBytes = 67108864 := rfl
  have wide := word_sizes.2
  have slot : virtualBase = 18446744071562067968 := rfl
  have top : Elf.maxPhysicalExclusive = 4503599627370496 := rfl
  have unit : Elf.pageSize = 4096 := rfl
  have first := @validateMapping_ok plan 0 0 text 0 (by rw [mappings]; rfl) (fun _ => rfl) one rfl le_rfl
    (by omega) small
  have second := @validateMapping_ok plan 1 text code (0 + text) (by rw [mappings]; rfl) nofun two (by omega) (by omega)
    (by omega) small
  have third := @validateMapping_ok plan 2 (text + code) relro (text + code) (by rw [mappings]; rfl) nofun three
    (by omega) le_rfl (by omega) small
  have fourth := @validateMapping_ok plan 3 (text + code + relro) data (text + code + relro) (by rw [mappings]; rfl) nofun
    four (by omega) le_rfl (by omega) small
  have rounds : (finRange 4).foldlM (validateMapping plan) 0 = .ok (text + code + relro + data) := by
    have items : finRange 4 = [0, 1, 2, 3] := rfl
    rw [items, foldlM_cons, first, ok_bind, foldlM_cons, second, ok_bind, foldlM_cons, third, ok_bind,
      foldlM_cons, fourth]
    rfl
  have executable : plan.mappings 1 = ⟨text, code, .readExecute⟩ := by
    rw [mappings]
    rfl
  unfold validateImagePlan
  rw [require_of (by simp only [not_or, not_not, MultipleOf, unit]; omega), ok_bind, rounds, ok_bind, executable]
  dsimp only
  rw [addOr_of (by omega), ok_bind, require_of (by omega), ok_bind, plus_of (by omega), ok_bind, require_of virtual_,
    ok_bind, plus_of (by omega), ok_bind, require_of (by rw [entry, physical])]

/-- The mappings of a plan: pages that follow each other over the image, with the entry in the only
executable mapping, which is not writable. -/
structure WellMapped (plan : ImagePlan) : Prop where
  aligned : ∀ index, (plan.mappings index).virtualOffset % Elf.pageSize = 0 ∧
    (plan.mappings index).memorySize % Elf.pageSize = 0 ∧ 0 < (plan.mappings index).memorySize
  first : (plan.mappings 0).virtualOffset = 0
  contiguous : ∀ index : Fin 3, (plan.mappings index.succ).virtualOffset =
    (plan.mappings index.castSucc).virtualOffset + (plan.mappings index.castSucc).memorySize
  last : (plan.mappings 3).virtualOffset + (plan.mappings 3).memorySize = plan.imageSize
  safe : ∀ index, ¬ ((plan.mappings index).permissions.write = true ∧ (plan.mappings index).permissions.execute = true)
  entry : ∃ index, (∀ other, (plan.mappings other).permissions.execute = true ↔ other = index) ∧
    (plan.mappings index).virtualOffset ≤ plan.entryOffset ∧
    plan.entryOffset < (plan.mappings index).virtualOffset + (plan.mappings index).memorySize

theorem wellMapped (planned : Planned physicalBase virtualBase plan text code relro data) : WellMapped plan := by
  obtain ⟨mappings, image, sized, small, based, entered, virtual_, entry⟩ := planned
  simp only [forall_mem_cons] at sized
  have unit : Elf.pageSize = 4096 := rfl
  refine ⟨fun index => ?_, ?_, fun index => ?_, ?_, fun index => ?_, 1, fun other => ?_, ?_, ?_⟩
  · rw [mappings, unit]
    fin_cases index <;> dsimp <;> omega
  · rw [mappings]
    rfl
  · rw [mappings]
    fin_cases index <;> simp
  · rw [mappings, image]
    rfl
  · rw [mappings]
    fin_cases index <;> simp [Elf.Permissions.readOnly, Elf.Permissions.readExecute, Elf.Permissions.readWrite]
  · rw [mappings]
    fin_cases other <;> simp [Elf.Permissions.readOnly, Elf.Permissions.readExecute, Elf.Permissions.readWrite]
  · rw [mappings]
    exact entered.1
  · rw [mappings]
    exact entered.2

end Plan

section Request

variable {plan : ImagePlan} {physicalBase text code relro data bits : Nat} {kernel : Summary}

theorem based {imageSize : Nat} (low : Elf.minPhysicalBase ≤ physicalBase) (aligned : MultipleOf Elf.pageSize physicalBase)
    (high : physicalBase + imageSize ≤ Elf.maxPhysicalExclusive)
    (small : imageSize ≤ Kmap.kernelPageCapacity * Elf.pageSize) :
    Elf.validateBaseAddresses physicalBase virtualBase imageSize = .ok () := by
  have wide := word_sizes.2
  have slot : virtualBase = 18446744071562067968 := rfl
  have room : Kmap.kernelPageCapacity * Elf.pageSize = 786432 := rfl
  have top : Elf.maxPhysicalExclusive = 4503599627370496 := rfl
  have above : Elf.maxVirtualExclusive = 18446744072635809792 := rfl
  unfold Elf.validateBaseAddresses Elf.add
  rw [require_of (by rw [not_or, not_not]; exact ⟨by omega, aligned⟩), ok_bind, addOr_of (by omega), ok_bind,
    require_of (by omega), ok_bind, require_of (by decide), ok_bind, addOr_of (by omega), ok_bind, require_of (by omega)]

/-- The request for a plan. -/
def requestOf (plan : ImagePlan) (bits : Nat) : Request where
  physicalBase := BitVec.ofNat 64 plan.physicalBase
  virtualBase := BitVec.ofNat 64 plan.virtualBase
  imageBytes := plan.imageSize
  pageCount := plan.imageSize / 4096
  entryVirtual := BitVec.ofNat 64 plan.entryVirtual
  mappingCount := 4
  mappings := fun index =>
    if inside : index.val < 4 then requestMapping (plan.mappings ⟨index.val, inside⟩) else emptyMapping
  physicalAddressBits := bits

theorem mappingRequest_ok (validated : validateImagePlan plan = .ok ()) (whole : plan.imageSize % 4096 = 0)
    (nonempty : 0 < plan.imageSize) (small : plan.imageSize ≤ Elf.maxImageBytes) :
    ∃ kernel, summarize plan = .ok kernel ∧ mappingRequest kernel bits = .ok (requestOf plan bits) := by
  have limit : Elf.maxImageBytes = 67108864 := rfl
  obtain ⟨narrow, wide⟩ := word_sizes
  have unit : Elf.pageSize = 4096 := rfl
  have pages : pageCount plan.imageSize = .ok (plan.imageSize / 4096) := by
    have rounded : (plan.imageSize + 4095) / 4096 = plan.imageSize / 4096 := by omega
    unfold pageCount
    rw [require_of (by omega), ok_bind, unit, addOr_of (by omega), ok_bind, require_of (by omega), ok_bind, rounded]
    rfl
  refine ⟨⟨plan.imageSize, plan.imageSize / 4096, 4, plan.mappings, plan.physicalBase, plan.virtualBase,
    plan.entryVirtual⟩, ?_, ?_⟩
  · unfold summarize
    rw [validated, ok_bind, pages, ok_bind]
    rfl
  · unfold mappingRequest demand
    dsimp only
    rw [if_pos (by omega), if_pos (by decide)]
    rfl

theorem requestOf_accepted (planned : Planned physicalBase virtualBase plan text code relro data)
    (few : plan.imageSize ≤ Kmap.kernelPageCapacity * Elf.pageSize) (width : Width bits) (low : 0 < physicalBase)
    (aligned : physicalBase % 4096 = 0) (fits : physicalBase + plan.imageSize ≤ 2 ^ bits) (addresses : TableAddresses)
    (tabled : Kmap.checkTables (requestOf plan bits) addresses (Kmap.maskOf bits) = .ok ()) :
    ∃ summary, Kmap.requestSummary (requestOf plan bits) addresses = .ok summary := by
  obtain ⟨mappings, image, sized, small, ⟨physical, base⟩, entered, virtual_, entry⟩ := planned
  simp only [forall_mem_cons] at sized
  obtain ⟨one, two, three, four, _⟩ := sized
  have room : Kmap.kernelPageCapacity * Elf.pageSize = 786432 := rfl
  have wide := word_sizes.2
  have slot : virtualBase = 18446744071562067968 := rfl
  have narrow : 2 ^ bits ≤ 2 ^ 52 := Nat.pow_le_pow_right (by decide) width.2
  have atBase : (requestOf plan bits).physicalBase.toNat = physicalBase := by
    unfold requestOf
    rw [physical]
    exact Kmap.ofNat_toNat_of (by omega)
  have atVirtual : (requestOf plan bits).virtualBase.toNat = virtualBase := by
    unfold requestOf
    rw [base]
    exact Kmap.ofNat_toNat_of (by omega)
  have atEntry : (requestOf plan bits).entryVirtual.toNat = virtualBase + plan.entryOffset := by
    unfold requestOf
    rw [virtual_]
    exact Kmap.ofNat_toNat_of (by omega)
  have active : (requestOf plan bits).active = [⟨0, text, ⟨true, false, false⟩⟩, ⟨text, code, ⟨true, false, true⟩⟩,
      ⟨text + code, relro, ⟨true, false, false⟩⟩, ⟨text + code + relro, data, ⟨true, true, false⟩⟩] := by
    unfold requestOf Request.active
    rw [mappings]
    rfl
  refine Kmap.requestSummary_ok ⟨fun zero => ?_, ?_, ?_, ?_, ?_, ?_, ?_, ?_⟩ ?_ width
    ⟨Nat.succ_pos 3, (by decide : 4 ≤ Kmap.maxMappings)⟩ ?_ ?_ ?_ tabled
  · rw [zero] at atBase
    have none : (0#64).toNat = 0 := rfl
    omega
  · rw [atBase]
    exact aligned
  · rw [atBase]
    exact fits
  · rw [atVirtual]
    decide
  · rw [atVirtual]
    decide
  · rw [atVirtual]
    rfl
  · change plan.imageSize ≤ _
    omega
  · change plan.imageSize / 4096 * 4096 = plan.imageSize
    omega
  · change 0 < plan.imageSize
    omega
  · rw [active]
    refine ⟨⟨rfl, one.1, one.2, by simp⟩, ⟨(Nat.zero_add text).symm, two.1, two.2, by simp⟩,
      ⟨by dsimp only; omega, three.1, three.2, by simp⟩, ⟨by dsimp only; omega, four.1, four.2, by simp⟩, ?_⟩
    change 0 + text + code + relro + data = plan.imageSize
    omega
  · rw [active]
    simp
  · rw [active, atVirtual, atEntry]
    refine ⟨_, mem_cons_of_mem _ (mem_cons_self ..), rfl, ?_, ?_⟩
    · dsimp only
      omega
    · dsimp only
      omega

/-- An accepted file with at most as many pages as the kernel may have is accepted at every page-aligned base
from the lowest on that fits the address width; its plan passes the boot loader, the request made from it passes
the kernel map with all table addresses that pass their own checks, and its mappings are as they should be. -/
theorem loadable_image_mapped (bytes : Bytes) (other : Nat) :
    Spec (inspect bytes other virtualBase) (fun plan => plan.imageSize ≤ Kmap.kernelPageCapacity * Elf.pageSize →
      ∀ physicalBase bits, Elf.minPhysicalBase ≤ physicalBase → MultipleOf Elf.pageSize physicalBase → Width bits →
        physicalBase + plan.imageSize ≤ 2 ^ bits → ∃ image kernel request,
          inspect bytes physicalBase virtualBase = .ok image ∧ image.imageSize = plan.imageSize ∧
          validateImagePlan image = .ok () ∧ WellMapped image ∧ summarize image = .ok kernel ∧
          mappingRequest kernel bits = .ok request ∧ ∀ addresses,
            Kmap.checkTables request addresses (Kmap.maskOf bits) = .ok () →
              ∃ summary, Kmap.requestSummary request addresses = .ok summary) (fun _ => True) := by
  cases accepted : inspect bytes other virtualBase with
  | error => trivial
  | ok plan =>
    intro few physicalBase bits low aligned width fits
    have wide := word_sizes.2
    have lowest : Elf.minPhysicalBase = 1048576 := rfl
    have top : Elf.maxPhysicalExclusive = 4503599627370496 := rfl
    have narrow : 2 ^ bits ≤ 2 ^ 52 := Nat.pow_le_pow_right (by decide) width.2
    obtain ⟨text, code, relro, data, first⟩ := Elf.inspect_planned accepted
    have entered := first.entered
    have image := first.image
    have sized := first.sized
    have moved := Elf.inspect_moved accepted (based low aligned (by omega) (by omega)) (by omega)
    obtain ⟨text', code', relro', data', planned⟩ := Elf.inspect_planned moved
    have validated := validateImagePlan_ok planned low aligned (by omega)
    simp only [forall_mem_cons] at sized
    obtain ⟨kernel, summarized, requested⟩ := @mappingRequest_ok _ bits validated (by dsimp only; omega) (by dsimp only; omega)
      first.small
    exact ⟨_, kernel, _, moved, rfl, validated, wellMapped planned, summarized, requested,
      requestOf_accepted planned few width (by omega) aligned fits⟩

/-- The program header of a segment at its own address. -/
def programHeader (segmentType flags offset fileSize memorySize alignment : Nat) : Bytes :=
  Bytes.ofWord 4 segmentType ++ Bytes.ofWord 4 flags ++ Bytes.ofWord 8 offset ++ Bytes.ofWord 16 offset ++
    Bytes.ofWord 8 fileSize ++ Bytes.ofWord 8 memorySize ++ Bytes.ofWord 8 alignment

/-- A kernel file of three pages, with one relocation. -/
def sampleKernel : Bytes := flatten [
  Bytes.ofWord 24 0x1003e0003000000000000000000010102464c457f, Bytes.ofWord 8 4096, Bytes.ofWord 20 64,
  Bytes.ofWord 2 64, Bytes.ofWord 2 56, Bytes.ofWord 8 7,
  programHeader Elf.ptPhdr 4 64 392 392 8, programHeader Elf.ptLoad 4 0 4096 4096 4096,
  programHeader Elf.ptLoad 5 4096 4096 4096 4096, programHeader Elf.ptLoad 6 8192 4096 8192 4096,
  programHeader Elf.ptDynamic 6 8192 64 64 8, programHeader Elf.ptGnuRelro 4 8192 4096 4096 4096,
  programHeader Elf.ptGnuStack 6 0 0 0 16, replicate 7736 0,
  Bytes.ofWord 8 7, Bytes.ofWord 8 8256, Bytes.ofWord 8 8, Bytes.ofWord 8 24, Bytes.ofWord 8 9, Bytes.ofWord 24 24,
  Bytes.ofWord 8 8280, Bytes.ofWord 8 8, Bytes.ofWord 4016 4096]

def sampleTables : TableAddresses := ⟨0x200000, 0x201000, 0x202000, 0x203000, 0x204000, 0x205000⟩

theorem sampleKernel_accepted : ∃ plan, inspect sampleKernel Elf.minPhysicalBase virtualBase = .ok plan ∧
    ∃ kernel, summarize plan = .ok kernel ∧ ∃ request, mappingRequest kernel 36 = .ok request ∧
      ∃ summary, Kmap.requestSummary request sampleTables = .ok summary ∧
        Kmap.checkTables request sampleTables (Kmap.maskOf 36) = .ok () ∧
          plan.imageSize ≤ Kmap.kernelPageCapacity * Elf.pageSize := by
  decide +kernel

theorem sampleKernel_mapped : ∃ plan kernel request summary,
    inspect sampleKernel Elf.minPhysicalBase virtualBase = .ok plan ∧ WellMapped plan ∧ summarize plan = .ok kernel ∧
      mappingRequest kernel 36 = .ok request ∧ Kmap.requestSummary request sampleTables = .ok summary := by
  obtain ⟨plan, inspected, kernel, summarized, request, requested, _, _, tables, few⟩ := sampleKernel_accepted
  have room : Kmap.kernelPageCapacity * Elf.pageSize = 786432 := rfl
  have lowest : Elf.minPhysicalBase = 1048576 := rfl
  obtain ⟨image, kernel', request', moved, _, _, mapped, again, made, accepts⟩ :=
    Spec.of_ok (loadable_image_mapped _ _) inspected few Elf.minPhysicalBase 36 le_rfl (by decide) ⟨by decide, by decide⟩
      (by omega)
  obtain rfl := Except.ok.inj (inspected.symm.trans moved)
  obtain rfl := Except.ok.inj (summarized.symm.trans again)
  obtain rfl := Except.ok.inj (requested.symm.trans made)
  obtain ⟨summary, shown⟩ := accepts sampleTables tables
  exact ⟨plan, kernel, request, summary, inspected, mapped, summarized, requested, shown⟩

end Request

end PooleOS.Bootload
