import PooleOS.Pmm.DirectMap

/- The active address space (`native/kernel/src/active_virtual_memory.rs`): a copy
of the boot root with one user page and a direct map of the managed pages, loaded
and released again on one processor. Addresses and page numbers are natural
numbers, entries are words; the build traps overflow of plain arithmetic. -/
namespace PooleOS.Active

open Pmm (AllocationHandle RetainedAllocation DirectMapManifest DirectMapRange DirectMapCachePolicy pageBytes)

def maxDirectPageTables : Nat := 512
def maxDirectDirectoryTables : Nat := 4
def fixedTablePageCount : Nat := 5
def maxTablePageCount : Nat := fixedTablePageCount + maxDirectDirectoryTables + maxDirectPageTables
def tableOwner : Nat := 0x0911
def dataOwner : Nat := 0x0912
def bspCpuId : Nat := 0
def tableEntries : Nat := 512
def pagesPerPageTable : Nat := 512
def stackPageCount : Nat := 36
def probeValue : Nat := 0xa5
def directMapStart : Nat := 0xffff900000000000
def directMapEndExclusive : Nat := 0xffffd00000000000
def userWindowStart : Nat := 0x40000000

def entryPresent : Word := 0x1#64
def entryWritable : Word := 0x2#64
def entryUser : Word := 0x4#64
def entryPwt : Word := 0x8#64
def entryPcd : Word := 0x10#64
def entryAccessed : Word := 0x20#64
def entryDirty : Word := 0x40#64
def entryPageSizeOrPat : Word := 0x80#64
def entryNoExecute : Word := 0x8000000000000000#64
def physicalMask52 : Word := 0x000ffffffffff000#64
def rootAddressMask : Word := physicalMask52
def userParentFlags : Word := entryPresent ||| entryWritable ||| entryUser
def directParentFlags : Word := entryPresent ||| entryWritable ||| entryNoExecute
def userRwNxFlags : Word := entryPresent ||| entryWritable ||| entryUser ||| entryNoExecute
def supervisorRwNxFlags : Word := entryPresent ||| entryWritable ||| entryNoExecute
def hardwareLeafBits : Word := entryAccessed ||| entryDirty

inductive Error
  | pmm
  | tableAllocation
  | dataAllocation
  | allocationContiguity
  | physicalAddress
  | addressWidth
  | memoryAccess
  | originalRoot
  | rootSlotOccupied
  | directMapRange
  | directMapCapacity
  | directMapOwnership
  | cacheAlias
  | largePage
  | translationMissing
  | retainedKernel
  | retainedStack
  | retainedHandoff
  | guardPage
  | directMap
  | userMapping
  | permission
  | userRootTransaction
  | directRootTransaction
  | userHierarchyTransaction
  | directHierarchyTransaction
  | directLeafTransaction
  | protectTransaction
  | userUnmapTransaction
  | directUnmapTransaction
  | transactionRejected
  | rollbackFailed
  | interruptState
  | cpuMismatch
  | cr3Mismatch
  | activationMismatch
  | lifecycle
  | invalidationRequired
  | staleReceipt
  | shootdownRequired
  | probeMismatch
deriving DecidableEq, Repr

structure Translation where
  physicalAddress : Nat
  writable : Bool
  executable : Bool
  user : Bool
  cachePolicy : DirectMapCachePolicy
deriving DecidableEq, Repr

section Addresses

/-- An address as a word. -/
def word (address : Nat) : Word := BitVec.ofNat 64 address

def physicalAddress (handle : AllocationHandle) : Except Error Nat := do
  let address ← orError (checkedMul u64Values handle.startPage pageBytes) .physicalAddress
  demand (address ≠ 0 ∧ word address &&& ~~~physicalMask52 = 0#64) .physicalAddress
  return address

/-- `indices(address)[level]`. -/
def tableIndex (address level : Nat) : Nat := (address >>> (39 - 9 * level)) &&& 0x1ff

def directAddress (physical : Nat) : Except Error Nat := do
  let address ← orError (checkedAdd u64Values directMapStart physical) .directMapRange
  demand (address < directMapEndExclusive) .directMapRange
  return address

def manifestContainsPage (manifest : DirectMapManifest) (page : Nat) : Prop :=
  ∃ range ∈ manifest.ranges, range.startPage ≤ page ∧ page < range.checkedEnd.getD range.startPage

instance (manifest : DirectMapManifest) (page : Nat) : Decidable (manifestContainsPage manifest page) :=
  inferInstanceAs (Decidable (∃ range ∈ manifest.ranges, _))

def cachePolicyFromEntry (entry : Word) : Except Error DirectMapCachePolicy :=
  if entry &&& (entryPwt ||| entryPcd) = 0#64 then .ok .writeBack else .error .cacheAlias

end Addresses

section Topology

/-- The page tables and directories that the direct map needs, in ascending order. -/
structure DirectMapTopology where
  regions : List Nat
  directories : List Nat
  tablePageCount : Nat
deriving DecidableEq, Repr

namespace DirectMapTopology

/-- `if the last cell differs { push }`. -/
def pushDistinct (limit : Nat) (cells : List Nat) (value : Nat) : Except Error (List Nat) :=
  if cells.getLast? = some value then .ok cells
  else do
    demand (cells.length ≠ limit) .directMapCapacity
    return cells ++ [value]

def pushRegion (topology : DirectMapTopology) (region : Nat) : Except Error DirectMapTopology := do
  let regions ← pushDistinct maxDirectPageTables topology.regions region
  let directory := region / tableEntries
  demand (directory < tableEntries) .directMapRange
  let directories ← pushDistinct maxDirectDirectoryTables topology.directories directory
  return { topology with regions := regions, directories := directories }

/-- One range; the number is the end of the range before it. -/
def pushRange (state : DirectMapTopology × Nat) (range : DirectMapRange) : Except Error (DirectMapTopology × Nat) := do
  demand (range.cachePolicy = .writeBack ∧ range.pageCount ≠ 0) .cacheAlias
  let endPage ← orError range.checkedEnd .directMapRange
  demand (¬ (range.startPage = 0 ∨ range.startPage < state.2)) .directMapOwnership
  let endPhysical ← orError (checkedMul u64Values endPage pageBytes) .directMapRange
  demand (1 ≤ endPhysical) .directMapRange
  let firstPhysical ← orError (checkedMul u64Values range.startPage pageBytes) .directMapRange
  let _ ← directAddress firstPhysical
  let _ ← directAddress (endPhysical - 1)
  let firstRegion := range.startPage / pagesPerPageTable
  let lastRegion := (endPage - 1) / pagesPerPageTable
  let topology ← (List.range' firstRegion (lastRegion + 1 - firstRegion)).foldlM pushRegion state.1
  return (topology, endPage)

def fromManifest (manifest : DirectMapManifest) : Except Error DirectMapTopology := do
  demand (¬ (manifest.generation = 0 ∨ manifest.ranges.length = 0 ∨ manifest.mappedPages = 0 ∨
    manifest.coverageChecksum = 0#64)) .directMapOwnership
  let (topology, _) ← manifest.ranges.foldlM pushRange (⟨[], [], 0⟩, 0)
  let count := fixedTablePageCount + topology.directories.length + topology.regions.length
  demand (count ≤ maxTablePageCount) .directMapCapacity
  return { topology with tablePageCount := count }

/-- `binary_search` over the ascending cells. -/
def regionIndex (topology : DirectMapTopology) (region : Nat) : Except Error Nat :=
  orError (topology.regions.idxOf? region) .directMapOwnership

def directoryIndex (topology : DirectMapTopology) (directory : Nat) : Except Error Nat :=
  orError (topology.directories.idxOf? directory) .directMapOwnership

end DirectMapTopology

end Topology

section Memory

/-- The trait `TableMemory`. An error carries nothing that is looked at. -/
structure TableMemory (T : Type) where
  preparePage : Nat → T → Bool × T
  readEntry : Nat → Nat → T → Option Word × T
  writeEntry : Nat → Nat → Word → T → Bool × T
  finish : T → Bool × T

variable {T : Type}

/-- A call that answers with a result. -/
def answer {S α : Type} (method : S → Option α × S) : Op S Error α :=
  ⟨fun s => (orError (method s).1 .memoryAccess, (method s).2)⟩

/-- A call that answers whether it succeeded. -/
def outcome {S : Type} (method : S → Bool × S) : Op S Error Unit :=
  ⟨fun s => (if (method s).1 then .ok () else .error .memoryAccess, (method s).2)⟩

def readEntry (memory : TableMemory T) (table index : Nat) : Op T Error Word :=
  answer (memory.readEntry table index)

def writeEntry (memory : TableMemory T) (table index : Nat) (value : Word) : Op T Error Unit :=
  outcome (memory.writeEntry table index value)

/-- `write(value).is_ok() && read() == Ok(value)`. -/
def writeVerified {S : Type} (read : Op S Error Word) (write : Word → Op S Error Unit) (value : Word) :
    Op S Error Bool := do
  match ← Op.attempt (write value) with
  | .error _ => return false
  | .ok _ => return decide ((← Op.attempt read) = .ok value)

/-- The exchange of one word with its read-back and its undo, as `replace_entry` and `active_replace`
share it. -/
def exchange {S : Type} (read : Op S Error Word) (write : Word → Op S Error Unit)
    (expected replacement : Word) : Op S Error Unit := do
  let found ← read
  Op.ensure (found = expected) .transactionRejected
  if ← writeVerified read write replacement then
    return ()
  else if ← writeVerified read write expected then
    Op.fail .transactionRejected
  else
    Op.fail .rollbackFailed

def replaceEntry (memory : TableMemory T) (table index : Nat) (expected replacement : Word) : Op T Error Unit :=
  exchange (readEntry memory table index) (writeEntry memory table index) expected replacement

/-- A `replace_entry` with `map_err(|_| reason)`. -/
def transaction (memory : TableMemory T) (reason : Error) (table index : Nat)
    (expected replacement : Word) : Op T Error Unit :=
  Op.mapError (fun _ => reason) (replaceEntry memory table index expected replacement)

structure Walk where
  table : Nat
  writable : Bool
  executable : Bool
  user : Bool

/-- The walk from a table on, over the levels that are left. -/
def translateFrom (memory : TableMemory T) (mask : Word) (virtualAddress : Nat) :
    List Nat → Walk → Op T Error Translation
  | [], _ => Op.fail .translationMissing
  | level :: rest, walk => do
      let entry ← readEntry memory walk.table (tableIndex virtualAddress level)
      Op.ensure (entry &&& entryPresent ≠ 0#64) .translationMissing
      Op.ensure (¬ (level < 3 ∧ entry &&& entryPageSizeOrPat ≠ 0#64)) .largePage
      let writable := walk.writable && decide (entry &&& entryWritable ≠ 0#64)
      let executable := walk.executable && decide (entry &&& entryNoExecute = 0#64)
      let user := walk.user && decide (entry &&& entryUser ≠ 0#64)
      if level = 3 then do
        let policy ← Op.lift (cachePolicyFromEntry entry)
        return ⟨((entry &&& mask) ||| (word virtualAddress &&& word (pageBytes - 1))).toNat, writable,
          executable, user, policy⟩
      else do
        Op.ensure (entry &&& mask ≠ 0#64) .translationMissing
        translateFrom memory mask virtualAddress rest
          ⟨(entry &&& mask).toNat, writable, executable, user⟩

def translate (memory : TableMemory T) (root virtualAddress physicalAddressBits : Nat) : Op T Error Translation := do
  Op.ensure (36 ≤ physicalAddressBits ∧ physicalAddressBits ≤ 52) .addressWidth
  let mask := word (2 ^ physicalAddressBits - 1) &&& physicalMask52
  translateFrom memory mask virtualAddress [0, 1, 2, 3] ⟨root, true, true, true⟩

def requireMissing (memory : TableMemory T) (root virtualAddress physicalAddressBits : Nat)
    (reason : Error) : Op T Error Unit := do
  let found ← Op.attempt (translate memory root virtualAddress physicalAddressBits)
  Op.ensure (found = .error .translationMissing) reason

end Memory

section Space

inductive Lifecycle
  | prepared
  | active
  | restored
  | released
deriving DecidableEq, Repr

inductive ReceiptKind
  | protect
  | userUnmap
  | directUnmap
deriving DecidableEq, Repr

structure InvalidationReceipt where
  sequence : Nat
  rootPhysical : Nat
  rootGeneration : Nat
  virtualAddress : Nat
  cpuId : Nat
  kind : ReceiptKind
deriving DecidableEq, Repr

structure GenerationRetirementReceipt where
  sequence : Nat
  retiredRootPhysical : Nat
  retiredRootGeneration : Nat
  replacementRootPhysical : Nat
  cpuId : Nat
  activeProcessorCount : Nat
  localContextFlushes : Nat
  remoteShootdownsPending : Nat
deriving DecidableEq, Repr

structure ActiveAddressSpace where
  tableAllocation : AllocationHandle
  dataAllocation : AllocationHandle
  /-- `retained[0]` and `retained[1]`: of the tables and of the data page. -/
  retainedTables : Option RetainedAllocation
  retainedData : Option RetainedAllocation
  tables : Nat → Nat
  topology : DirectMapTopology
  manifest : DirectMapManifest
  originalCr3 : Nat
  lifecycle : Lifecycle
  nextReceipt : Nat
  cr3Writes : Nat
  localInvalidations : Nat
  activeReceipts : Nat
  activationRollbacks : Nat
  generationRetirementReceipts : Nat
  retirementReceipt : Option GenerationRetirementReceipt
  oldGenerationReclaimDeferred : Bool
  dataReleased : Bool
  tablesReleased : Bool

/-- The fields of the core record that the audit reads. -/
structure CoreRecord where
  pageTableRootPhysical : Nat
  kernelPhysicalBase : Nat
  kernelPhysicalSize : Nat
  kernelVirtualBase : Nat
  kernelEntryVirtual : Nat
  initialStackTopVirtual : Nat
  handoffPhysicalBase : Nat
  handoffVirtualBase : Nat
  handoffByteCount : Nat

structure ActiveAddressSpaceInput where
  manifest : DirectMapManifest
  originalCr3 : Nat
  core : CoreRecord
  physicalAddressBits : Nat

/-- The table addresses: consecutive pages from the root on, and empty cells behind them. -/
def tablesFrom (root count : Nat) (index : Nat) : Nat := if index < count then root + index * pageBytes else 0

end Space

end PooleOS.Active
