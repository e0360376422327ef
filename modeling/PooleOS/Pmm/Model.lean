import PooleOS.Lib.Extents
import PooleOS.Lib.Panic
import PooleOS.Lib.Words

/- The physical memory manager (`native/kernel/src/physical_memory.rs`): a table of
free extents, a table of allocations, the records of the boot memory map and two
tables of receipts. The tables lie in the manager itself until an arena of pages
that it has allocated takes them over.

An array with a count is the list of its live cells: the code keeps the cells
behind them at their empty values. Counters that are stepped with `+=` are natural
numbers; the build traps their overflow. -/
namespace PooleOS.Pmm

inductive Error
  | missingMap
  | entryCount
  | entryShape
  | entryValue
  | entryOrder
  | addressRange
  | sourceKind
  | extentCapacity
  | allocationCapacity
  | quota
  | unavailable
  | zeroAllocation
  | invalidOwner
  | staleHandle
  | coreOwnership
  | scrubAccess
  | scrubVerification
  | receiptCapacity
  | metadataCapacity
  | metadataState
  | metadataMapping
  | metadataCorruption
  | metadataOwnership
  | metadataHandoff
  | ledgerCapacity
  | ledgerMapping
  | ledgerCorruption
  | ledgerRetirement
  | reclaimTiming
  | reclaimCapacity
  | reclaimOwnership
  | reclaimUnavailable
  | directMapCapacity
  | directMapOwnership
  | allocationRetained
  | retentionIdentity
  | retentionExhausted
deriving DecidableEq, Repr

inductive Zone
  | dma
  | dma32
  | normal
deriving DecidableEq, Repr

inductive ScrubKind
  | allocation
  | release
deriving DecidableEq, Repr

inductive ReclaimClass
  | bootServices
  | acpi
deriving DecidableEq, Repr

inductive ReclaimStage
  | preExitBootServices
  | postExitBootServices
  | acpiTablesReleased
deriving DecidableEq, Repr

inductive MetadataLifecycle
  | bootstrap
  | prepared
  | mapped
  | retired
deriving DecidableEq, Repr

section Constants

def u64Max : Nat := u64Values - 1
def pageBytes : Nat := 4096
def memoryEntryBytes : Nat := 40
def maxMemoryEntries : Nat := 256
def maxFreeExtents : Nat := 256
def maxAllocations : Nat := 32
def maxScrubReceipts : Nat := 16
def maxReclaimReceipts : Nat := 2
def maxDirectMapRanges : Nat := maxFreeExtents + maxAllocations
def memoryKindCount : Nat := 12
def memoryUsable : Nat := 1
def memoryLoaderReserved : Nat := 10
def dmaEndPage : Nat := 4096
def dma32EndPage : Nat := 1048576
def metadataArenaPageCount : Nat := 5
def metadataOwner : Nat := 0x4D45
def metadataMagic : Nat := 4707463708820917072
def metadataVersion : Nat := 1
def ledgerArenaPageCapacity : Nat := 32
def ledgerMagic : Nat := 5928222843049102160
def ledgerVersion : Nat := 1
def fnvOffset : Word := 0xCBF29CE484222325#64
def fnvPrime : Word := 0x00000100000001B3#64

/-- `size_of` of the manager and of the cells of its tables, as the target lays them out. -/
def managerByteCount : Nat := 15632
end Constants

section Labels

/-- `zone as u8`, which is also its index. -/
def Zone.code : Zone → Nat
  | .dma => 0
  | .dma32 => 1
  | .normal => 2

def ScrubKind.code : ScrubKind → Nat
  | .allocation => 1
  | .release => 2

def ReclaimClass.code : ReclaimClass → Nat
  | .bootServices => 1
  | .acpi => 2

def ReclaimStage.code : ReclaimStage → Nat
  | .preExitBootServices => 0
  | .postExitBootServices => 1
  | .acpiTablesReleased => 2

def MetadataLifecycle.code : MetadataLifecycle → Nat
  | .bootstrap => 0
  | .prepared => 1
  | .mapped => 2
  | .retired => 3

def zoneForPage (page : Nat) : Zone :=
  if page < dmaEndPage then .dma else if page < dma32EndPage then .dma32 else .normal

def zoneEndPage : Zone → Nat
  | .dma => dmaEndPage
  | .dma32 => dma32EndPage
  | .normal => u64Max

def fnvU64 (state : Word) (value : Nat) : Word :=
  (Bytes.ofWord 8 value).foldl (fun state byte => (state ^^^ BitVec.ofNat 64 byte.toNat) * fnvPrime) state

/-- `for value in values { state = fnv_u64(state, value); }`. -/
def fnvAll (state : Word) (values : List Nat) : Word := values.foldl fnvU64 state

def boolCode (flag : Bool) : Nat := if flag then 1 else 0

end Labels

section Records

abbrev PageExtent : Type := Extent Zone

def emptyExtent : PageExtent := ⟨0, 0, .dma⟩

def canCoalesce (first second : PageExtent) : Prop :=
  first.zone = second.zone ∧
    checkedAdd u64Values first.startPage first.pageCount = some second.startPage

instance (first second : PageExtent) : Decidable (canCoalesce first second) :=
  inferInstanceAs (Decidable (_ ∧ _))

structure SourceRecord where
  startPage : Nat
  pageCount : Nat
  kind : Nat
  source : Nat
deriving DecidableEq, Repr

def emptySourceRecord : SourceRecord := ⟨0, 0, 0, 0⟩

structure Allocation where
  active : Bool
  generation : Nat
  startPage : Nat
  pageCount : Nat
  zone : Zone
  owner : Nat
  metadataPoisoned : Bool
  releaseExcluded : Bool
  retentionId : Nat
deriving DecidableEq, Repr

def emptyAllocation : Allocation := ⟨false, 0, 0, 0, .dma, 0, false, false, 0⟩

/-- The pages of an allocation. -/
def Allocation.extent (allocation : Allocation) : PageExtent :=
  ⟨allocation.startPage, allocation.pageCount, allocation.zone⟩

structure AllocationHandle where
  slot : Nat
  generation : Nat
  startPage : Nat
  pageCount : Nat
  zone : Zone
  owner : Nat
deriving DecidableEq, Repr

structure RetainedAllocation where
  handle : AllocationHandle
  identity : Nat
deriving DecidableEq, Repr

structure ScrubReceipt where
  sequence : Nat
  kind : ScrubKind
  generation : Nat
  startPage : Nat
  pageCount : Nat
  owner : Nat
  zeroedBytes : Nat
  verifiedBytes : Nat
deriving DecidableEq, Repr

structure ReclaimReceipt where
  sequence : Nat
  reclaimClass : ReclaimClass
  requiredStage : ReclaimStage
  observedStage : ReclaimStage
  sourceRecordCount : Nat
  rangeCount : Nat
  pageCount : Nat
  pagesByZone : Zone → Nat
  preFreeExtentCount : Nat
  postFreeExtentCount : Nat
  zeroedBytes : Nat
  verifiedBytes : Nat
  rangeChecksum : Word
  receiptChecksum : Word

structure MetadataHeader where
  magic : Nat
  version : Nat
  managerByteCount : Nat
  arenaPageCount : Nat
  physicalStartPage : Nat
  virtualStart : Nat
  generation : Nat
  owner : Nat
  logicalChecksum : Word
deriving DecidableEq, Repr

def emptyMetadataHeader : MetadataHeader := ⟨0, 0, 0, 0, 0, 0, 0, 0, 0#64⟩

structure LedgerArenaHeader where
  magic : Nat
  version : Nat
  generation : Nat
  previousGeneration : Nat
  physicalStartPage : Nat
  virtualStart : Nat
  pageCount : Nat
  byteCount : Nat
  freeOffset : Nat
  freeCapacity : Nat
  allocationOffset : Nat
  allocationCapacity : Nat
  sourceOffset : Nat
  sourceCapacity : Nat
  scrubOffset : Nat
  scrubCapacity : Nat
  reclaimOffset : Nat
  reclaimCapacity : Nat
  logicalChecksum : Word
deriving DecidableEq, Repr

def emptyLedgerHeader : LedgerArenaHeader := ⟨0, 0, 0, 0, 0, 0, 0, 0, 0, 0, 0, 0, 0, 0, 0, 0, 0, 0, 0#64⟩

structure LedgerCapacities where
  free : Nat
  allocations : Nat
  source : Nat
  scrub : Nat
  reclaim : Nat
deriving DecidableEq, Repr

def bootstrapLedgerCapacities : LedgerCapacities :=
  ⟨maxFreeExtents, maxAllocations, maxMemoryEntries, maxScrubReceipts, maxReclaimReceipts⟩

structure AllocationPlan where
  slot : Nat
  extentIndex : Nat
  generation : Nat
  startPage : Nat
  pageCount : Nat
  zone : Zone
  owner : Nat
deriving DecidableEq, Repr

end Records

section State

/-- The five tables. -/
structure Tables where
  /-- `free[..free_count]`. -/
  free : List PageExtent
  /-- All of `allocations`. -/
  allocations : List Allocation
  /-- `source_records[..memory_entry_count]`. -/
  sources : List SourceRecord
  /-- `scrub_receipts[..receipt_ledger_count]`. -/
  scrub : List ScrubReceipt
  /-- `reclaim_receipts`, of which the code uses the first two cells. -/
  reclaim : ReclaimClass → Option ReclaimReceipt

def emptyTables : Tables := ⟨[], List.replicate maxAllocations emptyAllocation, [], [], fun _ => none⟩

/-- The contents of an arena. -/
structure Arena where
  header : LedgerArenaHeader
  tables : Tables

structure Manager where
  /-- The tables inside the manager. -/
  boot : Tables
  /-- The memory of the arenas, by the first page of each. -/
  arenas : Nat → Arena
  sourcePages : Nat → Nat
  sourceUsablePages : Zone → Nat
  managedPages : Zone → Nat
  nullGuardPages : Nat
  quotaPages : Nat
  allocatedPages : Nat
  nextGeneration : Nat
  allocationCount : Nat
  freeOperationCount : Nat
  rejectedDoubleFrees : Nat
  rejectedQuotaRequests : Nat
  rejectedUnavailableRequests : Nat
  metadataPoisonEvents : Nat
  coalesceEvents : Nat
  nextScrubSequence : Nat
  allocationScrubPages : Nat
  releaseScrubPages : Nat
  scrubZeroedBytes : Nat
  scrubVerifiedBytes : Nat
  scrubReceiptCount : Nat
  scrubFailures : Nat
  metadataHeader : MetadataHeader
  metadataLifecycle : MetadataLifecycle
  metadataReleaseRejections : Nat
  metadataMigrationRollbacks : Nat
  ledgerHeader : LedgerArenaHeader
  ledgerSlot : Nat
  ledgerAllocation : Option AllocationHandle
  ledgerRetirementPending : Option AllocationHandle
  ledgerRetirementHeader : LedgerArenaHeader
  ledgerRetirementSlot : Nat
  ledgerRetirementMapped : Bool
  ledgerGrowthOperations : Nat
  ledgerGrowthRollbacks : Nat
  ledgerRetiredGenerations : Nat
  ledgerRetiredPages : Nat
  ledgerRetirementFailures : Nat
  ledgerPressureChecks : Nat
  ledgerPressureTriggers : Nat
  ledgerAutomaticGrowths : Nat
  ledgerSoftWindowFallbacks : Nat
  ledgerHardWindowRejections : Nat
  reclaimStage : ReclaimStage
  reclaimReceiptCount : Nat
  nextReclaimSequence : Nat
  reclaimOperations : Nat
  reclaimScrubPages : Nat
  reclaimedPages : ReclaimClass → Nat
  reclaimTimingRejections : Nat
  reclaimCapacityRejections : Nat
  reclaimOwnershipRejections : Nat
  reclaimRollbacks : Nat

namespace Manager

def empty (quotaPages : Nat) : Manager where
  boot := emptyTables
  arenas := fun _ => ⟨emptyLedgerHeader, emptyTables⟩
  sourcePages := fun _ => 0
  sourceUsablePages := fun _ => 0
  managedPages := fun _ => 0
  nullGuardPages := 0
  quotaPages := quotaPages
  allocatedPages := 0
  nextGeneration := 1
  allocationCount := 0
  freeOperationCount := 0
  rejectedDoubleFrees := 0
  rejectedQuotaRequests := 0
  rejectedUnavailableRequests := 0
  metadataPoisonEvents := 0
  coalesceEvents := 0
  nextScrubSequence := 1
  allocationScrubPages := 0
  releaseScrubPages := 0
  scrubZeroedBytes := 0
  scrubVerifiedBytes := 0
  scrubReceiptCount := 0
  scrubFailures := 0
  metadataHeader := emptyMetadataHeader
  metadataLifecycle := .bootstrap
  metadataReleaseRejections := 0
  metadataMigrationRollbacks := 0
  ledgerHeader := emptyLedgerHeader
  ledgerSlot := 0
  ledgerAllocation := none
  ledgerRetirementPending := none
  ledgerRetirementHeader := emptyLedgerHeader
  ledgerRetirementSlot := 0
  ledgerRetirementMapped := false
  ledgerGrowthOperations := 0
  ledgerGrowthRollbacks := 0
  ledgerRetiredGenerations := 0
  ledgerRetiredPages := 0
  ledgerRetirementFailures := 0
  ledgerPressureChecks := 0
  ledgerPressureTriggers := 0
  ledgerAutomaticGrowths := 0
  ledgerSoftWindowFallbacks := 0
  ledgerHardWindowRejections := 0
  reclaimStage := .preExitBootServices
  reclaimReceiptCount := 0
  nextReclaimSequence := 1
  reclaimOperations := 0
  reclaimScrubPages := 0
  reclaimedPages := fun _ => 0
  reclaimTimingRejections := 0
  reclaimCapacityRejections := 0
  reclaimOwnershipRejections := 0
  reclaimRollbacks := 0

/-- `has_external_ledgers`. -/
def HasExternalLedgers (s : Manager) : Prop := s.ledgerHeader.magic = ledgerMagic

instance (s : Manager) : Decidable s.HasExternalLedgers := inferInstanceAs (Decidable (_ = _))

def ledgerCapacities (s : Manager) : LedgerCapacities :=
  if s.HasExternalLedgers then
    ⟨s.ledgerHeader.freeCapacity, s.ledgerHeader.allocationCapacity, s.ledgerHeader.sourceCapacity,
      s.ledgerHeader.scrubCapacity, s.ledgerHeader.reclaimCapacity⟩
  else bootstrapLedgerCapacities

/-- The arena that the header names. -/
def arena (s : Manager) : Arena := s.arenas s.ledgerHeader.physicalStartPage

/-- The tables in use. -/
def tables (s : Manager) : Tables := if s.HasExternalLedgers then s.arena.tables else s.boot

/-- A write to the memory of an arena. -/
def setArena (s : Manager) (page : Nat) (arena : Arena) : Manager :=
  { s with arenas := Function.update s.arenas page arena }

def setTables (s : Manager) (tables : Tables) : Manager :=
  if s.HasExternalLedgers then s.setArena s.ledgerHeader.physicalStartPage ⟨s.arena.header, tables⟩
  else { s with boot := tables }

/-- `free_entries()[..free_count]`. -/
def free (s : Manager) : List PageExtent := s.tables.free

def allocations (s : Manager) : List Allocation := s.tables.allocations

def sources (s : Manager) : List SourceRecord := s.tables.sources

def setFree (s : Manager) (free : List PageExtent) : Manager := s.setTables { s.tables with free := free }

def setAllocations (s : Manager) (allocations : List Allocation) : Manager :=
  s.setTables { s.tables with allocations := allocations }

/-- `allocation_entries_mut()[slot]` after `change`. -/
def modifyAllocation (s : Manager) (slot : Nat) (change : Allocation → Allocation) : Manager :=
  s.setAllocations (s.allocations.modify slot change)

end Manager

/-- The manager, what stands behind its access, and the static `NEXT_RETENTION_ID`. -/
structure World (E : Type) where
  manager : Manager
  access : E
  nextRetentionId : Nat

abbrev M (E α : Type) : Type := Op (World E) Error α

variable {E : Type}

/-- `&self`. -/
def manager : M E Manager := do return (← Op.read).manager

/-- An assignment to the manager. -/
def modify (change : Manager → Manager) : M E Unit :=
  Op.update (fun w => { w with manager := change w.manager })

end State

end PooleOS.Pmm
