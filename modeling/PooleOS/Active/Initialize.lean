import PooleOS.Active.Model

/- `initialize`: the checks of the two allocations and of the manifest, the tables
that are written, the audit of what was written, and the retention at the end. -/
namespace PooleOS.Active

open Pmm (AllocationHandle DirectMapManifest DirectMapRange pageBytes)

/-- The manager with what stands behind its access, and the memory of the tables. -/
structure Host (E T : Type) where
  world : Pmm.World E
  memory : T

abbrev K (E T : Type) : Type → Type := Op (Host E T) Error

variable {E T : Type}

/-- A call of the manager with `map_err(|_| reason)?`. -/
def managed {α : Type} (reason : Error) (method : Pmm.M E α) : K E T α :=
  Op.within Host.world (fun world host => { host with world := world })
    (Op.mapError (fun _ => reason) method)

/-- A call that works on the table memory alone. -/
def inMemory {α : Type} (method : Op T Error α) : K E T α :=
  Op.within Host.memory (fun memory host => { host with memory := memory }) method

section Checks

/-- The checks made of the allocations, the root and the manifest before anything is written.
The result is the topology, the table addresses and the address of the data page. -/
def admitInput (tableAllocation dataAllocation : AllocationHandle) (input : ActiveAddressSpaceInput) :
    Except Error (DirectMapTopology × Nat × Nat) := do
  let topology ← DirectMapTopology.fromManifest input.manifest
  demand (¬ (tableAllocation.pageCount ≠ topology.tablePageCount ∨ tableAllocation.owner ≠ tableOwner ∨
    tableAllocation.zone ≠ .dma32 ∨ tableAllocation.generation ≠ input.manifest.generation))
    .tableAllocation
  demand (¬ (dataAllocation.pageCount ≠ 1 ∨ dataAllocation.owner ≠ dataOwner ∨
    dataAllocation.zone ≠ .dma32)) .dataAllocation
  demand (36 ≤ input.physicalAddressBits ∧ input.physicalAddressBits ≤ 52) .addressWidth
  let root ← physicalAddress tableAllocation
  let data ← physicalAddress dataAllocation
  demand (data = root + tableAllocation.pageCount * pageBytes) .allocationContiguity
  demand (¬ ((word input.originalCr3 &&& rootAddressMask).toNat ≠ input.core.pageTableRootPhysical ∨
    input.core.pageTableRootPhysical = 0)) .originalRoot
  demand (∀ page ∈ List.range' tableAllocation.startPage tableAllocation.pageCount,
    manifestContainsPage input.manifest page) .directMapOwnership
  demand (manifestContainsPage input.manifest dataAllocation.startPage) .directMapOwnership
  return (topology, root, data)

/-- The check that the manifest lies under one entry of each of the two upper levels. -/
def checkSpan (manifest : DirectMapManifest) : Except Error Unit := do
  let firstPhysical ← orError (checkedMul u64Values manifest.firstPage pageBytes) .directMapRange
  let endPhysical ← orError (checkedMul u64Values manifest.endPage pageBytes) .directMapRange
  demand (1 ≤ endPhysical) .directMapRange
  let firstDirect ← directAddress firstPhysical
  let lastDirect ← directAddress (endPhysical - 1)
  demand (¬ (tableIndex firstDirect 0 ≠ tableIndex lastDirect 0 ∨
    tableIndex firstDirect 1 ≠ tableIndex lastDirect 1)) .directMapRange

end Checks

section Writing

variable (memory : TableMemory T)

def clearTable (table : Nat) : Op T Error Unit := do
  outcome (memory.preparePage table)
  Op.forEach (List.range tableEntries) (fun index => writeEntry memory table index 0#64)

def inheritRoot (originalRoot root : Nat) : Op T Error Unit :=
  Op.forEach (List.range tableEntries) (fun index => do
    let inherited ← readEntry memory originalRoot index
    writeEntry memory root index inherited)

def linkUser (tables : Nat → Nat) : Op T Error Unit := do
  let inherited ← readEntry memory (tables 0) (tableIndex userWindowStart 0)
  transaction memory .userRootTransaction (tables 0) (tableIndex userWindowStart 0) inherited
    (word (tables 1) ||| userParentFlags)

def linkUserHierarchy (tables : Nat → Nat) (data : Nat) : Op T Error Unit := do
  transaction memory .userHierarchyTransaction (tables 1) (tableIndex userWindowStart 1) 0#64
    (word (tables 2) ||| userParentFlags)
  transaction memory .userHierarchyTransaction (tables 2) (tableIndex userWindowStart 2) 0#64
    (word (tables 3) ||| userParentFlags)
  transaction memory .userHierarchyTransaction (tables 3) (tableIndex userWindowStart 3) 0#64
    (word data ||| userRwNxFlags)

def linkDirectories (topology : DirectMapTopology) (tables : Nat → Nat) : Op T Error Unit :=
  Op.forEach topology.directories.zipIdx (fun (directory, offset) =>
    transaction memory .directHierarchyTransaction (tables 4) directory 0#64
      (word (tables (fixedTablePageCount + offset)) ||| directParentFlags))

/-- The first table of leaves. -/
def directTableStart (topology : DirectMapTopology) : Nat :=
  fixedTablePageCount + topology.directories.length

def linkRegions (topology : DirectMapTopology) (tables : Nat → Nat) : Op T Error Unit :=
  Op.forEach topology.regions.zipIdx (fun (region, offset) => do
    let directoryOffset ← Op.lift (topology.directoryIndex (region / tableEntries))
    transaction memory .directHierarchyTransaction (tables (fixedTablePageCount + directoryOffset))
      (region % tableEntries) 0#64
      (word (tables (directTableStart topology + offset)) ||| directParentFlags))

def mapPage (topology : DirectMapTopology) (tables : Nat → Nat) (page : Nat) : Op T Error Unit := do
  let regionOffset ← Op.lift (topology.regionIndex (page / pagesPerPageTable))
  transaction memory .directLeafTransaction (tables (directTableStart topology + regionOffset))
    (page % pagesPerPageTable) 0#64 (word (page * pageBytes) ||| supervisorRwNxFlags)

def mapRanges (topology : DirectMapTopology) (tables : Nat → Nat) (ranges : List DirectMapRange) : Op T Error Unit :=
  Op.forEach ranges (fun range => do
    let endPage ← Op.lift (orError range.checkedEnd .directMapRange)
    Op.forEach (List.range' range.startPage (endPage - range.startPage)) (mapPage memory topology tables))

/-- All writes, in order. The slot of the direct map is that of the first page of the manifest. -/
def writeTables (topology : DirectMapTopology) (tables : Nat → Nat) (data directSlot : Nat)
    (input : ActiveAddressSpaceInput) : Op T Error Unit := do
  Op.forEach ((List.range topology.tablePageCount).map tables) (clearTable memory)
  let originalRoot := input.core.pageTableRootPhysical
  inheritRoot memory originalRoot (tables 0)
  let occupied ← readEntry memory originalRoot directSlot
  Op.ensure (occupied = 0#64) .rootSlotOccupied
  linkUser memory tables
  transaction memory .directRootTransaction (tables 0) directSlot 0#64
    (word (tables 4) ||| directParentFlags)
  linkUserHierarchy memory tables data
  linkDirectories memory topology tables
  linkRegions memory topology tables
  mapRanges memory topology tables input.manifest.ranges

end Writing

section Audit

variable (memory : TableMemory T) (space : ActiveAddressSpace) (core : CoreRecord) (bits : Nat)

def auditRoot : Op T Error Unit :=
  Op.forEach (List.range tableEntries) (fun index => do
    let original ← readEntry memory core.pageTableRootPhysical index
    let expected :=
      if index = tableIndex userWindowStart 0 then word (space.tables 1) ||| userParentFlags
      else if index = tableIndex directMapStart 0 then word (space.tables 4) ||| directParentFlags
      else original
    let observed ← readEntry memory (space.tables 0) index
    Op.ensure (observed = expected) .retainedKernel)

/-- The translations of one address through the boot root and through the new one. -/
def translateBoth (reason : Error) (address : Nat) : Op T Error (Translation × Translation) :=
  Op.mapError (fun _ => reason) (do
    let original ← translate memory core.pageTableRootPhysical address bits
    let candidate ← translate memory (space.tables 0) address bits
    return (original, candidate))

def auditKernelPage (page : Nat) : Op T Error Unit := do
  let (original, candidate) ← translateBoth memory space core bits .retainedKernel
    (core.kernelVirtualBase + page * pageBytes)
  Op.ensure (¬ (original ≠ candidate ∨
    candidate.physicalAddress ≠ core.kernelPhysicalBase + page * pageBytes ∨ candidate.user = true ∨
    (candidate.writable = true ∧ candidate.executable = true))) .retainedKernel

def auditKernel : Op T Error Unit := do
  Op.forEach (List.range ((core.kernelPhysicalSize + pageBytes - 1) / pageBytes))
    (auditKernelPage memory space core bits)
  let entry ← Op.mapError (fun _ => .retainedKernel)
    (translate memory (space.tables 0) core.kernelEntryVirtual bits)
  Op.ensure (¬ (entry.writable = true ∨ entry.executable = false ∨ entry.user = true)) .retainedKernel

def auditStackAddress (address : Nat) : Op T Error Unit := do
  let (original, candidate) ← translateBoth memory space core bits .retainedStack address
  Op.ensure (¬ (original ≠ candidate ∨ candidate.writable = false ∨ candidate.executable = true ∨
    candidate.user = true)) .retainedStack

def auditStack : Op T Error Unit := do
  Op.ensure (stackPageCount * pageBytes ≤ core.initialStackTopVirtual) .retainedStack
  let stackBottom := core.initialStackTopVirtual - stackPageCount * pageBytes
  auditStackAddress memory space core bits stackBottom
  auditStackAddress memory space core bits (core.initialStackTopVirtual - 1)
  requireMissing memory (space.tables 0) (stackBottom - pageBytes) bits .guardPage
  requireMissing memory (space.tables 0) core.initialStackTopVirtual bits .guardPage

def auditHandoffAddress (virtualAddress physicalAddress : Nat) : Op T Error Unit := do
  let (original, candidate) ← translateBoth memory space core bits .retainedHandoff virtualAddress
  Op.ensure (¬ (original ≠ candidate ∨ candidate.physicalAddress ≠ physicalAddress ∨
    candidate.writable = true ∨ candidate.executable = true ∨ candidate.user = true)) .retainedHandoff

def auditHandoff : Op T Error Unit := do
  let handoffEnd ← Op.lift (orError
    (checkedAdd u64Values core.handoffVirtualBase core.handoffByteCount) .retainedHandoff)
  Op.ensure (1 ≤ handoffEnd) .retainedHandoff
  auditHandoffAddress memory space core bits core.handoffVirtualBase core.handoffPhysicalBase
  auditHandoffAddress memory space core bits (handoffEnd - 1)
    (core.handoffPhysicalBase + core.handoffByteCount - 1)

def auditGapPage (page : Nat) : Op T Error Unit := do
  let address ← Op.lift (directAddress (page * pageBytes))
  requireMissing memory (space.tables 0) address bits .directMap

def auditPage (range : DirectMapRange) (audited page : Nat) : Op T Error Nat := do
  let address ← Op.lift (directAddress (page * pageBytes))
  let found ← Op.mapError (fun _ => .directMap) (translate memory (space.tables 0) address bits)
  Op.ensure (¬ (found.physicalAddress ≠ page * pageBytes ∨ found.writable = false ∨
    found.executable = true ∨ found.user = true ∨ found.cachePolicy ≠ range.cachePolicy)) .directMap
  Op.lift (orError (checkedAdd u64Values audited 1) .directMapRange)

/-- One range, with the gap before it; the state is the end of the range before, if any, and the pages
that were audited. -/
def auditRange (state : Option Nat × Nat) (range : DirectMapRange) : Op T Error (Option Nat × Nat) := do
  let endPage ← Op.lift (orError range.checkedEnd .directMapRange)
  Op.whenSome state.1 (fun gapStart => Op.when (gapStart < range.startPage) do
    auditGapPage memory space bits gapStart
    auditGapPage memory space bits (range.startPage - 1))
  let audited ← (List.range' range.startPage (endPage - range.startPage)).foldlM
    (auditPage memory space bits range) state.2
  return (some endPage, audited)

def auditUser : Op T Error Unit := do
  let user ← Op.mapError (fun _ => .userMapping) (translate memory (space.tables 0) userWindowStart bits)
  let data ← Op.lift (physicalAddress space.dataAllocation)
  Op.ensure (¬ (user.physicalAddress ≠ data ∨ user.writable = false ∨ user.executable = true ∨
    user.user = false)) .userMapping

def audit : Op T Error Unit := do
  auditRoot memory space core
  auditKernel memory space core bits
  auditStack memory space core bits
  auditHandoff memory space core bits
  let (_, audited) ← space.manifest.ranges.foldlM (auditRange memory space bits) (none, 0)
  Op.ensure (audited = space.manifest.mappedPages) .directMapOwnership
  auditUser memory space bits

end Audit

/-- The space as `initialize` builds it, before the retention. -/
def prepared (tableAllocation dataAllocation : AllocationHandle) (topology : DirectMapTopology) (root : Nat)
    (input : ActiveAddressSpaceInput) : ActiveAddressSpace where
  tableAllocation := tableAllocation
  dataAllocation := dataAllocation
  retainedTables := none
  retainedData := none
  tables := tablesFrom root topology.tablePageCount
  topology := topology
  manifest := input.manifest
  originalCr3 := input.originalCr3
  lifecycle := .prepared
  nextReceipt := 1
  cr3Writes := 0
  localInvalidations := 0
  activeReceipts := 0
  activationRollbacks := 0
  generationRetirementReceipts := 0
  retirementReceipt := none
  oldGenerationReclaimDeferred := false
  dataReleased := false
  tablesReleased := false

/-- The writes, the audit of what was written, and the retention of the two allocations. -/
def buildSpace (memory : TableMemory T) (space : ActiveAddressSpace) (data : Nat)
    (input : ActiveAddressSpaceInput) : K E T ActiveAddressSpace := do
  let directSlot := tableIndex (directMapStart + input.manifest.firstPage * pageBytes) 0
  inMemory (writeTables memory space.topology space.tables data directSlot input)
  inMemory (audit memory space input.core input.physicalAddressBits)
  let retained ←
    managed .pmm (Pmm.retainAllocations [some space.tableAllocation, some space.dataAllocation])
  return { space with retainedTables := retained[0]?.join, retainedData := retained[1]?.join }

def initializeSpace (memory : TableMemory T) (tableAllocation dataAllocation : AllocationHandle)
    (input : ActiveAddressSpaceInput) : K E T ActiveAddressSpace := do
  managed .pmm (Pmm.validateAllocation tableAllocation)
  managed .pmm (Pmm.validateAllocation dataAllocation)
  managed .pmm (Pmm.checkRetainableAllocations [some tableAllocation, some dataAllocation])
  managed .directMapOwnership (Pmm.validateDirectMapManifest input.manifest tableAllocation)
  let (topology, root, data) ← Op.lift (admitInput tableAllocation dataAllocation input)
  Op.lift (checkSpan input.manifest)
  buildSpace memory (prepared tableAllocation dataAllocation topology root input) data input

end PooleOS.Active
