import PooleOS.Pmm.Model

/- Allocation, release and retention, with the seal of the metadata that each of
them checks first and renews last. -/
namespace PooleOS.Pmm

variable {E : Type}

section Integrity

def zoneValues (extent : PageExtent) : List Nat := [extent.startPage, extent.pageCount, extent.zone.code]

def allocationValues (allocation : Allocation) : List Nat :=
  [boolCode allocation.active, allocation.generation, allocation.startPage, allocation.pageCount,
    allocation.zone.code, allocation.owner, boolCode allocation.metadataPoisoned,
    boolCode allocation.releaseExcluded, allocation.retentionId]

def recordValues (record : SourceRecord) : List Nat :=
  [record.startPage, record.pageCount, record.kind, record.source]

def scrubValues : Option ScrubReceipt → List Nat
  | none => [0]
  | some receipt => [1, receipt.sequence, receipt.kind.code, receipt.generation, receipt.startPage,
      receipt.pageCount, receipt.owner, receipt.zeroedBytes, receipt.verifiedBytes]

def reclaimValues : Option ReclaimReceipt → List Nat
  | none => [0]
  | some receipt => [1, receipt.sequence, receipt.reclaimClass.code, receipt.requiredStage.code,
      receipt.observedStage.code, receipt.sourceRecordCount, receipt.rangeCount, receipt.pageCount,
      receipt.preFreeExtentCount, receipt.postFreeExtentCount, receipt.zeroedBytes, receipt.verifiedBytes,
      receipt.rangeChecksum.toNat, receipt.receiptChecksum.toNat, receipt.pagesByZone .dma,
      receipt.pagesByZone .dma32, receipt.pagesByZone .normal]

def handleValues : Option AllocationHandle → List Nat
  | none => [0]
  | some handle =>
    [handle.slot, handle.generation, handle.startPage, handle.pageCount, handle.zone.code, handle.owner]

/-- The live cells, and the empty ones up to the capacity. -/
def padded {α : Type} (items : List α) (filler : α) (capacity : Nat) : List α :=
  items ++ List.replicate (capacity - items.length) filler

/-- The values of every cell of the tables. -/
def tableValues (tables : Tables) (capacities : LedgerCapacities) : List Nat :=
  (padded tables.free emptyExtent capacities.free).flatMap zoneValues ++
    tables.allocations.flatMap allocationValues ++
    (padded tables.sources emptySourceRecord capacities.source).flatMap recordValues ++
    (padded (tables.scrub.map some) none capacities.scrub).flatMap scrubValues ++
    (padded [tables.reclaim .bootServices, tables.reclaim .acpi] none capacities.reclaim).flatMap reclaimValues

/-- The header without its checksum. -/
def headerValues (header : LedgerArenaHeader) : List Nat :=
  [header.magic, header.version, header.generation, header.previousGeneration, header.physicalStartPage,
    header.virtualStart, header.pageCount, header.byteCount, header.freeOffset, header.freeCapacity,
    header.allocationOffset, header.allocationCapacity, header.sourceOffset, header.sourceCapacity,
    header.scrubOffset, header.scrubCapacity, header.reclaimOffset, header.reclaimCapacity]

namespace Manager

/-- The numbers of the manager in the order of `logical_checksum`, up to the headers of the arenas. -/
def countValues (s : Manager) : List Nat :=
  [s.metadataHeader.magic, s.metadataHeader.version, s.metadataHeader.managerByteCount,
    s.metadataHeader.arenaPageCount, s.metadataHeader.physicalStartPage, s.metadataHeader.virtualStart,
    s.metadataHeader.generation, s.metadataHeader.owner, s.metadataLifecycle.code, s.free.length,
    s.tables.scrub.length, s.sources.length, s.nullGuardPages, s.quotaPages, s.allocatedPages,
    s.nextGeneration, s.allocationCount, s.freeOperationCount, s.rejectedDoubleFrees,
    s.rejectedQuotaRequests, s.rejectedUnavailableRequests, s.metadataPoisonEvents, s.coalesceEvents,
    s.nextScrubSequence, s.allocationScrubPages, s.releaseScrubPages, s.scrubZeroedBytes,
    s.scrubVerifiedBytes, s.scrubReceiptCount, s.scrubFailures, s.metadataReleaseRejections,
    s.metadataMigrationRollbacks, s.ledgerSlot, s.ledgerGrowthOperations, s.ledgerGrowthRollbacks,
    s.ledgerRetiredGenerations, s.ledgerRetiredPages, s.ledgerRetirementFailures, s.ledgerPressureChecks,
    s.ledgerPressureTriggers, s.ledgerAutomaticGrowths, s.ledgerSoftWindowFallbacks,
    s.ledgerHardWindowRejections, s.reclaimStage.code, s.reclaimReceiptCount, s.nextReclaimSequence,
    s.reclaimOperations, s.reclaimScrubPages, s.reclaimTimingRejections, s.reclaimCapacityRejections,
    s.reclaimOwnershipRejections, s.reclaimRollbacks]

/-- The header that waits for its arena to be retired. -/
def retirementValues (s : Manager) : List Nat :=
  [s.ledgerRetirementHeader.magic, s.ledgerRetirementHeader.version, s.ledgerRetirementHeader.generation,
    s.ledgerRetirementHeader.previousGeneration, s.ledgerRetirementHeader.physicalStartPage,
    s.ledgerRetirementHeader.virtualStart, s.ledgerRetirementHeader.pageCount,
    s.ledgerRetirementHeader.byteCount, s.ledgerRetirementHeader.logicalChecksum.toNat,
    s.ledgerRetirementSlot, boolCode s.ledgerRetirementMapped]

def logicalChecksum (s : Manager) : Word :=
  fnvAll fnvOffset (s.countValues ++ headerValues s.ledgerHeader ++
    [s.ledgerHeader.logicalChecksum.toNat] ++ s.retirementValues ++ handleValues s.ledgerAllocation ++
    handleValues s.ledgerRetirementPending ++ tableValues s.tables s.ledgerCapacities ++
    (List.range memoryKindCount).map s.sourcePages ++
    [s.sourceUsablePages .dma, s.sourceUsablePages .dma32, s.sourceUsablePages .normal,
      s.managedPages .dma, s.managedPages .dma32, s.managedPages .normal,
      s.reclaimedPages .bootServices, s.reclaimedPages .acpi])

def ledgerChecksum (s : Manager) : Word :=
  if s.HasExternalLedgers then
    fnvAll fnvOffset (headerValues s.ledgerHeader ++ tableValues s.tables s.ledgerCapacities)
  else 0#64

/-- The header with its checksum, in the manager and at the start of the arena. -/
def sealLedgers (s : Manager) : Manager :=
  let header := { s.ledgerHeader with logicalChecksum := s.ledgerChecksum }
  { s with ledgerHeader := header }.setArena header.physicalStartPage ⟨header, s.arena.tables⟩

/-- The checksum of everything else. -/
def sealManager (s : Manager) : Manager :=
  { s with metadataHeader := { s.metadataHeader with logicalChecksum := s.logicalChecksum } }

def sealMetadataIntegrity (s : Manager) : Manager :=
  if s.metadataLifecycle = .mapped then
    (if s.HasExternalLedgers then s.sealLedgers else s).sealManager
  else s

def verifyMetadataIntegrity (s : Manager) : Except Error Unit := do
  demand (¬ (s.metadataLifecycle ≠ .mapped ∨ s.metadataHeader.magic ≠ metadataMagic ∨
    s.metadataHeader.version ≠ metadataVersion ∨ s.metadataHeader.managerByteCount ≠ managerByteCount ∨
    s.metadataHeader.arenaPageCount ≠ metadataArenaPageCount ∨ s.metadataHeader.owner ≠ metadataOwner ∨
    s.metadataHeader.virtualStart = 0 ∨ ¬ MultipleOf pageBytes s.metadataHeader.virtualStart ∨
    s.metadataHeader.logicalChecksum ≠ s.logicalChecksum)) Error.metadataCorruption
  if s.HasExternalLedgers then
    demand (¬ (s.arena.header ≠ s.ledgerHeader ∨ s.ledgerHeader.magic ≠ ledgerMagic ∨
      s.ledgerHeader.version ≠ ledgerVersion ∨ s.ledgerHeader.virtualStart = 0 ∨
      ¬ MultipleOf pageBytes s.ledgerHeader.virtualStart ∨ s.ledgerHeader.pageCount = 0 ∨
      ledgerArenaPageCapacity < s.ledgerHeader.pageCount ∨
      s.ledgerHeader.logicalChecksum ≠ s.ledgerChecksum)) Error.ledgerCorruption
  else return ()

def requireOperational (s : Manager) : Except Error Unit :=
  match s.metadataLifecycle with
  | .bootstrap => .ok ()
  | .mapped => s.verifyMetadataIntegrity
  | .prepared => .error .metadataState
  | .retired => .error .metadataState

end Manager

/-- `self.require_operational()?`. -/
def requireOperational : M E Unit := do Op.lift (← manager).requireOperational

/-- `self.seal_metadata_integrity()`. -/
def sealMetadataIntegrity : M E Unit := modify Manager.sealMetadataIntegrity

/-- `let result = (|| { .. })(); self.seal_metadata_integrity(); result`. -/
def sealing {α : Type} (method : M E α) : M E α := do
  let result ← Op.attempt method
  sealMetadataIntegrity
  Op.lift result

end Integrity

section FreeExtents

/-- The first index whose extent does not start before this one. -/
def insertionIndex (free : List PageExtent) (extent : PageExtent) : Nat :=
  free.findIdx (fun item => extent.startPage ≤ item.startPage)

/-- `free_entries()[index]`. -/
def freeAt (free : List PageExtent) (index : Nat) : PageExtent := free.getD index emptyExtent

def mergePrevious (free : List PageExtent) (extent : PageExtent) : Prop :=
  0 < insertionIndex free extent ∧ canCoalesce (freeAt free (insertionIndex free extent - 1)) extent

def mergeNext (free : List PageExtent) (extent : PageExtent) : Prop :=
  insertionIndex free extent < free.length ∧ canCoalesce extent (freeAt free (insertionIndex free extent))

instance (free : List PageExtent) (extent : PageExtent) : Decidable (mergePrevious free extent) :=
  inferInstanceAs (Decidable (_ ∧ _))

instance (free : List PageExtent) (extent : PageExtent) : Decidable (mergeNext free extent) :=
  inferInstanceAs (Decidable (_ ∧ _))

/-- The free extents after an insertion, and by how much `coalesce_events` grows. -/
def insertAndCoalesce (free : List PageExtent) (capacity : Nat) (extent : PageExtent) :
    Except Error (List PageExtent × Nat) :=
  let index := insertionIndex free extent
  let previous := freeAt free (index - 1)
  let next := freeAt free index
  if mergePrevious free extent ∧ mergeNext free extent then do
    let pageCount ← orError (checkedAdd u64Values previous.pageCount extent.pageCount) .addressRange
    let pageCount ← orError (checkedAdd u64Values pageCount next.pageCount) .addressRange
    return ((free.set (index - 1) { previous with pageCount := pageCount }).eraseIdx index, 2)
  else if mergePrevious free extent then do
    let pageCount ← orError (checkedAdd u64Values previous.pageCount extent.pageCount) .addressRange
    return (free.set (index - 1) { previous with pageCount := pageCount }, 1)
  else if mergeNext free extent then do
    let pageCount ← orError (checkedAdd u64Values extent.pageCount next.pageCount) .addressRange
    return (free.set index { next with startPage := extent.startPage, pageCount := pageCount }, 1)
  else if free.length = capacity then .error .extentCapacity
  else return (free.insertIdx index extent, 0)

/-- `insert_and_coalesce` on the manager. -/
def insertFree (extent : PageExtent) : M E Unit := do
  let s ← manager
  let (free, merged) ← Op.lift (insertAndCoalesce s.free s.ledgerCapacities.free extent)
  modify (fun s => { s.setFree free with coalesceEvents := s.coalesceEvents + merged })

end FreeExtents

section Allocate

def planAllocation (zone : Zone) (pages owner : Nat) : M E AllocationPlan := do
  Op.ensure (pages ≠ 0) .zeroAllocation
  Op.ensure (owner ≠ 0) .invalidOwner
  let s ← manager
  if checkedAdd u64Values s.allocatedPages pages = none ∨ s.quotaPages < s.allocatedPages + pages then
    modify (fun s => { s with rejectedQuotaRequests := s.rejectedQuotaRequests + 1 })
    Op.fail .quota
  let slot ← Op.lift (orError (s.allocations.findIdx? (fun item => !item.active)) Error.allocationCapacity)
  match s.free.findIdx? (fun item => item.zone = zone ∧ pages ≤ item.pageCount) with
  | none =>
    modify (fun s => { s with rejectedUnavailableRequests := s.rejectedUnavailableRequests + 1 })
    Op.fail .unavailable
  | some extentIndex =>
    let _ ← Op.lift (orError (checkedAdd u64Values s.nextGeneration 1) Error.addressRange)
    let _ ← Op.lift (orError (checkedAdd u64Values s.allocationCount 1) Error.addressRange)
    return ⟨slot, extentIndex, s.nextGeneration, (freeAt s.free extentIndex).startPage, pages, zone, owner⟩

/-- The free extents after the first pages of one are taken. -/
def carve (free : List PageExtent) (index pages : Nat) : List PageExtent :=
  if (freeAt free index).pageCount - pages = 0 then free.eraseIdx index
  else free.modify index (fun item => item.shrink pages)

def commitAllocation (plan : AllocationPlan) : M E AllocationHandle := do
  modify (fun s =>
    let s := s.setFree (carve s.free plan.extentIndex plan.pageCount)
    let s := s.setAllocations (s.allocations.set plan.slot ⟨true, plan.generation, plan.startPage,
      plan.pageCount, plan.zone, plan.owner, false, false, 0⟩)
    { s with
      nextGeneration := s.nextGeneration + 1
      allocatedPages := s.allocatedPages + plan.pageCount
      allocationCount := s.allocationCount + 1 })
  return ⟨plan.slot, plan.generation, plan.startPage, plan.pageCount, plan.zone, plan.owner⟩

def allocate (zone : Zone) (pages owner : Nat) : M E AllocationHandle := do
  requireOperational
  sealing (do
    let plan ← planAllocation zone pages owner
    commitAllocation plan)

end Allocate

section Free

namespace Manager

/-- The allocation of a slot agrees with the handle. -/
def Agrees (allocation : Allocation) (handle : AllocationHandle) : Prop :=
  allocation.active = true ∧ allocation.generation = handle.generation ∧
    allocation.startPage = handle.startPage ∧ allocation.pageCount = handle.pageCount ∧
    allocation.zone = handle.zone ∧ allocation.owner = handle.owner

instance (allocation : Allocation) (handle : AllocationHandle) : Decidable (Agrees allocation handle) :=
  inferInstanceAs (Decidable (_ ∧ _))

/-- `validate_allocation_inner`, with the allocation that it looked at. -/
def validateAllocationInner (s : Manager) (handle : AllocationHandle) : Except Error Allocation := do
  let allocation ← orError s.allocations[handle.slot]? .staleHandle
  demand (Agrees allocation handle) .staleHandle
  return allocation

end Manager

def validateAllocation (handle : AllocationHandle) : M E Unit := do
  requireOperational
  let _ ← Op.lift ((← manager).validateAllocationInner handle)
  return ()

def commitFree (slot : Nat) (allocation : Allocation) : M E Unit :=
  modify (fun s =>
    let s := s.modifyAllocation slot (fun item => { item with active := false, metadataPoisoned := true })
    { s with
      allocatedPages := s.allocatedPages - allocation.pageCount
      freeOperationCount := s.freeOperationCount + 1
      metadataPoisonEvents := s.metadataPoisonEvents + 1 })

/-- The checks that every release makes of its handle. -/
def releasable (handle : AllocationHandle) (retentionId : Nat) : M E Allocation := do
  match (← manager).validateAllocationInner handle with
  | .error _ =>
    modify (fun s => { s with rejectedDoubleFrees := s.rejectedDoubleFrees + 1 })
    Op.fail .staleHandle
  | .ok allocation =>
    if allocation.retentionId ≠ retentionId then
      Op.fail (if retentionId = 0 then Error.allocationRetained else .retentionIdentity)
    else if allocation.releaseExcluded then
      modify (fun s => { s with metadataReleaseRejections := s.metadataReleaseRejections + 1 })
      Op.fail .metadataOwnership
    else return allocation

def freeWithRetention (handle : AllocationHandle) (retentionId : Nat) : M E Unit := do
  requireOperational
  sealing (do
    let allocation ← releasable handle retentionId
    insertFree allocation.extent
    commitFree handle.slot allocation)

end Free

section Retention

/-- `reserve_identities(&NEXT_RETENTION_ID, count)`. -/
def reserveIdentities (count : Nat) : M E Nat := do
  let w ← Op.read
  let next ← Op.lift (orError (checkedAdd u64Values w.nextRetentionId count) Error.retentionExhausted)
  Op.update (fun w => { w with nextRetentionId := next })
  return w.nextRetentionId

def setRetention (slot identity : Nat) : M E Unit :=
  modify (fun s => s.modifyAllocation slot (fun item => { item with retentionId := identity }))

/-- The loop of `check_retainable_allocations`, with the handles before. -/
def checkRetainableFrom (s : Manager) : List (Option AllocationHandle) → List (Option AllocationHandle) →
    Except Error Unit
  | _, [] => .ok ()
  | before, none :: rest => checkRetainableFrom s (before ++ [none]) rest
  | before, some handle :: rest => do
      let allocation ← s.validateAllocationInner handle
      demand (some handle ∉ before) .retentionIdentity
      demand (¬ allocation.releaseExcluded = true) .metadataOwnership
      demand (allocation.retentionId = 0) .allocationRetained
      checkRetainableFrom s (before ++ [some handle]) rest

def checkRetainableAllocations (handles : List (Option AllocationHandle)) : M E Unit := do
  requireOperational
  Op.lift (checkRetainableFrom (← manager) [] handles)

/-- The tokens of the group, numbered from `identity`. -/
def retainEach (identity : Nat) : List (Option AllocationHandle) → M E (List (Option RetainedAllocation))
  | [] => return []
  | none :: rest => do return none :: (← retainEach identity rest)
  | some handle :: rest => do
      setRetention handle.slot identity
      return some ⟨handle, identity⟩ :: (← retainEach (identity + 1) rest)

def retainAllocations (handles : List (Option AllocationHandle)) : M E (List (Option RetainedAllocation)) := do
  checkRetainableAllocations handles
  let identity ← reserveIdentities (handles.filterMap id).length
  let retained ← retainEach identity handles
  sealMetadataIntegrity
  return retained

def freeRetained (retained : RetainedAllocation) : Op (World E) (Error × RetainedAllocation) Unit :=
  Op.mapError (fun reason => (reason, retained)) (do
    Op.ensure (retained.identity ≠ 0) .retentionIdentity
    freeWithRetention retained.handle retained.identity)

end Retention

end PooleOS.Pmm
