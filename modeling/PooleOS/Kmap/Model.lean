import PooleOS.Lib.Panic
import PooleOS.Lib.Words

/- The kernel map (`native/kmap/src/lib.rs`): a request for the pages of the kernel
image is checked and written into four tables, with the retained stack and
handoff pages into five, and `translate` walks them. -/
namespace PooleOS.Kmap

inductive Error
  | physicalAddressBits
  | physicalAddress
  | virtualAddress
  | imageSize
  | pageCount
  | mappingCount
  | mappingAlignment
  | mappingCoverage
  | permission
  | writableExecutable
  | entryPoint
  | windowOverflow
  | tableAddress
  | tableOverlap
  | rootSlotOccupied
  | parentEntry
  | leafEntry
  | unexpectedEntry
  | translationMissing
  | translationReserved
  | translationAddress
  | largePageCollision
  | retainedRange
  | retainedOverlap
  | guardPage
deriving DecidableEq, Repr

abbrev Stop : Type := PooleOS.Stop Error

abbrev Outcome (α : Type) : Type := PooleOS.Outcome Error α

def pageSize : Nat := 4096
def tableEntries : Nat := 512
def tablePageCount : Nat := 5
def maxMappings : Nat := 8
def windowBytes : Nat := 2 * 1024 * 1024
def retainedWindowBytes : Nat := 2 * windowBytes
def minVirtualBase : Word := 0xffffffff80000000#64
def maxVirtualExclusive : Word := 0xffffffffc0000000#64
def kernelPageCapacity : Nat := 192
def stackGuardLowPage : Nat := kernelPageCapacity
def stackFirstPage : Nat := stackGuardLowPage + 1
def stackPageCount : Nat := 36
def stackGuardHighPage : Nat := stackFirstPage + stackPageCount
def handoffFirstPage : Nat := stackGuardHighPage + 1
def handoffPageCount : Nat := 256
def handoffCapacityBytes : Nat := handoffPageCount * pageSize

def entryPresent : Word := 0x1#64
def entryWritable : Word := 0x2#64
def entryUser : Word := 0x4#64
def entryPwt : Word := 0x8#64
def entryPcd : Word := 0x10#64
def entryPageSizeOrPat : Word := 0x80#64
def entryLargePat : Word := 0x1000#64
def entryNoExecute : Word := 0x8000000000000000#64
def parentFlags : Word := entryPresent ||| entryWritable
def fnvOffset : Word := 0xcbf29ce484222325#64
def fnvPrime : Word := 0x00000100000001b3#64

structure Permissions where
  read : Bool
  write : Bool
  execute : Bool
deriving DecidableEq, Repr

namespace Permissions

/-- `Permissions::READ`. -/
def readOnly : Permissions := ⟨true, false, false⟩

/-- `Permissions::READ_WRITE`. -/
def readWrite : Permissions := ⟨true, true, false⟩

end Permissions

structure Mapping where
  virtualOffset : Nat
  byteCount : Nat
  permissions : Permissions
deriving DecidableEq, Repr

structure Request where
  physicalBase : Word
  virtualBase : Word
  imageBytes : Nat
  pageCount : Nat
  entryVirtual : Word
  mappingCount : Nat
  mappings : Fin 8 → Mapping
  physicalAddressBits : Nat

structure TableAddresses where
  originalRoot : Word
  candidateRoot : Word
  pdpt : Word
  pageDirectory : Word
  pageTable : Word
  retainedPageTable : Word
deriving DecidableEq, Repr

structure Summary where
  pml4Index : Nat
  pdptIndex : Nat
  pageDirectoryIndex : Nat
  firstPageTableIndex : Nat
  mappedPageCount : Nat
  readOnlyPageCount : Nat
  readExecutePageCount : Nat
  readWritePageCount : Nat
  writableExecutablePageCount : Nat
  leafFingerprint : Word
deriving DecidableEq, Repr

structure RetainedRequest where
  stackPhysicalBase : Word
  stackPageCount : Nat
  handoffPhysicalBase : Word
  handoffCapacityBytes : Nat
deriving DecidableEq, Repr

structure RetainedSummary where
  kernel : Summary
  stackFirstPageTableIndex : Nat
  stackPageCount : Nat
  stackBottomVirtual : Nat
  stackTopVirtual : Nat
  handoffFirstPageTableIndex : Nat
  handoffPageCount : Nat
  handoffVirtualBase : Nat
  guardPageCount : Nat
  totalMappedPageCount : Nat
  retainedLeafFingerprint : Word
deriving DecidableEq, Repr

section Words

/-- The value of `physical_mask` for a width in range. -/
def maskOf (bits : Nat) : Word := ((1#64 <<< bits) - 1#64) &&& ~~~BitVec.ofNat 64 (pageSize - 1)

def physicalMask (bits : Nat) : Outcome Word := do
  require (36 ≤ bits ∧ bits ≤ 52) .physicalAddressBits
  return maskOf bits

/-- `value & (unit - 1)`. -/
def low (value : Word) (unit : Nat) : Word := value &&& BitVec.ofNat 64 (unit - 1)

def rangeEnd (start byteCount : Nat) (error : Error) : Outcome Nat := addOr start byteCount error

def saturatingAdd (left right : Nat) : Nat := min (left + right) (u64Values - 1)

def RangesOverlap (first firstBytes second secondBytes : Nat) : Prop :=
  first < saturatingAdd second secondBytes ∧ second < saturatingAdd first firstBytes

instance (first firstBytes second secondBytes : Nat) :
    Decidable (RangesOverlap first firstBytes second secondBytes) := inferInstanceAs (Decidable (_ ∧ _))

def isCanonical48 (address : Word) : Bool :=
  if address &&& 0x800000000000#64 = 0#64 then address >>> 48 == 0#64 else address >>> 48 == 0xffff#64

def pml4Index (address : Word) : Nat := ((address >>> 39) &&& 0x1ff#64).toNat
def pdptIndex (address : Word) : Nat := ((address >>> 30) &&& 0x1ff#64).toNat
def pageDirectoryIndex (address : Word) : Nat := ((address >>> 21) &&& 0x1ff#64).toNat
def pageTableIndex (address : Word) : Nat := ((address >>> 12) &&& 0x1ff#64).toNat

def fnvU64 (state value : Word) : Word :=
  (Bytes.ofWord 8 value.toNat).foldl (fun state byte => (state ^^^ BitVec.ofNat 64 byte.toNat) * fnvPrime) state

def permissionCode (permissions : Permissions) : Word :=
  (if permissions.read then 1#64 else 0#64) ||| (if permissions.write then 2#64 else 0#64) |||
    (if permissions.execute then 4#64 else 0#64)

def leafFlags (permissions : Permissions) : Word :=
  entryPresent ||| (if permissions.write then entryWritable else 0#64) |||
    (if permissions.execute then 0#64 else entryNoExecute)

end Words

section Requests

/-- What the loop over the mappings carries. -/
structure Tally where
  expectedOffset : Nat
  entryExecutable : Bool
  readOnlyPageCount : Nat
  readExecutePageCount : Nat
  readWritePageCount : Nat
  writableExecutablePageCount : Nat
  leafFingerprint : Word

/-- The page counts after `pages` more pages with these permissions. -/
def Tally.count (tally : Tally) (permissions : Permissions) (pages : Nat) : Tally :=
  if permissions.write && permissions.execute then
    { tally with writableExecutablePageCount := tally.writableExecutablePageCount + pages }
  else if permissions.execute then
    { tally with readExecutePageCount := tally.readExecutePageCount + pages }
  else if permissions.write then { tally with readWritePageCount := tally.readWritePageCount + pages }
  else { tally with readOnlyPageCount := tally.readOnlyPageCount + pages }

/-- One round of the loop over the mappings. -/
def checkMapping (request : Request) (tally : Tally) (mapping : Mapping) : Outcome Tally := do
  require (¬ (mapping.byteCount = 0 ∨ ¬ MultipleOf pageSize mapping.virtualOffset ∨
    ¬ MultipleOf pageSize mapping.byteCount)) .mappingAlignment
  require (mapping.virtualOffset = tally.expectedOffset) .mappingCoverage
  require (mapping.permissions.read = true) .permission
  require (¬ (mapping.permissions.write = true ∧ mapping.permissions.execute = true)) .writableExecutable
  let mappingEnd ← addOr tally.expectedOffset mapping.byteCount .mappingCoverage
  require (¬ request.imageBytes < mappingEnd) .mappingCoverage
  let mappingVirtual ← addOr request.virtualBase.toNat tally.expectedOffset .virtualAddress
  let mappingVirtualEnd ← addOr request.virtualBase.toNat mappingEnd .virtualAddress
  let entryExecutable := tally.entryExecutable || (mappingVirtual ≤ request.entryVirtual.toNat ∧
    request.entryVirtual.toNat < mappingVirtualEnd ∧ mapping.permissions.execute = true)
  let mappingPages := mapping.byteCount / pageSize
  require (mappingPages < u32Values) .pageCount
  let counted := tally.count mapping.permissions mappingPages
  let firstPage := tally.expectedOffset / pageSize
  let leafFingerprint := (List.range mappingPages).foldl (fun state page =>
    fnvU64 (fnvU64 state (BitVec.ofNat 64 (firstPage + page))) (permissionCode mapping.permissions))
      tally.leafFingerprint
  return { counted with
    expectedOffset := mappingEnd, entryExecutable := entryExecutable, leafFingerprint := leafFingerprint }

def tableValues (addresses : TableAddresses) : List Word :=
  [addresses.originalRoot, addresses.candidateRoot, addresses.pdpt, addresses.pageDirectory,
    addresses.pageTable, addresses.retainedPageTable]

/-- The requested mappings, in order. -/
def Request.active (request : Request) : List Mapping :=
  ((List.finRange 8).take request.mappingCount).map request.mappings

/-- The checks of the addresses and sizes, which return the end of the image. -/
def checkPlacement (request : Request) : Outcome Nat := do
  let maximumPhysical := 2 ^ request.physicalAddressBits
  require (¬ (request.physicalBase = 0#64 ∨ low request.physicalBase pageSize ≠ 0#64)) .physicalAddress
  require (¬ maximumPhysical < (← rangeEnd request.physicalBase.toNat request.imageBytes .physicalAddress))
    .physicalAddress
  require (¬ (request.virtualBase.toNat < minVirtualBase.toNat ∨
    maxVirtualExclusive.toNat ≤ request.virtualBase.toNat ∨ low request.virtualBase windowBytes ≠ 0#64 ∨
      isCanonical48 request.virtualBase = false)) .virtualAddress
  require (¬ (request.imageBytes = 0 ∨ windowBytes < request.imageBytes ∨
    ¬ MultipleOf pageSize request.imageBytes)) .imageSize
  require (request.pageCount = request.imageBytes / pageSize) .pageCount
  let virtualEnd ← rangeEnd request.virtualBase.toNat request.imageBytes .windowOverflow
  require (¬ (maxVirtualExclusive.toNat < virtualEnd ∨ isCanonical48 (BitVec.ofNat 64 (virtualEnd - 1)) = false ∨
      pageDirectoryIndex request.virtualBase ≠ pageDirectoryIndex (BitVec.ofNat 64 (virtualEnd - 1))))
    .windowOverflow
  require (¬ (request.mappingCount = 0 ∨ maxMappings < request.mappingCount)) .mappingCount
  require (¬ (request.entryVirtual.toNat < request.virtualBase.toNat ∨
    virtualEnd ≤ request.entryVirtual.toNat)) .entryPoint
  return virtualEnd

/-- The checks of the table addresses. -/
def checkTables (request : Request) (addresses : TableAddresses) (addressMask : Word) : Outcome Unit := do
  (tableValues addresses).forM (fun value =>
    require (¬ (value = 0#64 ∨ low value pageSize ≠ 0#64 ∨ value &&& ~~~addressMask ≠ 0#64)) .tableAddress)
  require (addresses.pdpt.toNat = (← plus addresses.candidateRoot.toNat pageSize)) .tableAddress
  require (addresses.pageDirectory.toNat = (← plus addresses.pdpt.toNat pageSize)) .tableAddress
  require (addresses.pageTable.toNat = (← plus addresses.pageDirectory.toNat pageSize)) .tableAddress
  require (addresses.retainedPageTable.toNat = (← plus addresses.pageTable.toNat pageSize)) .tableAddress
  require ((tableValues addresses).Pairwise (· ≠ ·)) .tableOverlap
  require (¬ RangesOverlap request.physicalBase.toNat request.imageBytes addresses.candidateRoot.toNat
    (tablePageCount * pageSize)) .tableOverlap

def requestSummary (request : Request) (addresses : TableAddresses) : Outcome Summary := do
  let addressMask ← physicalMask request.physicalAddressBits
  let _ ← checkPlacement request
  checkTables request addresses addressMask
  let tally ← request.active.foldlM (checkMapping request) ⟨0, false, 0, 0, 0, 0, fnvOffset⟩
  require (tally.expectedOffset = request.imageBytes) .mappingCoverage
  require (tally.entryExecutable = true) .entryPoint
  return ⟨pml4Index request.virtualBase, pdptIndex request.virtualBase,
    pageDirectoryIndex request.virtualBase, pageTableIndex request.virtualBase, request.pageCount,
    tally.readOnlyPageCount, tally.readExecutePageCount, tally.readWritePageCount,
    tally.writableExecutablePageCount, tally.leafFingerprint⟩

/-- The mapping holds this offset. -/
def Mapping.Holds (mapping : Mapping) (offset : Nat) : Prop :=
  mapping.virtualOffset ≤ offset ∧ offset < mapping.virtualOffset + mapping.byteCount

instance (mapping : Mapping) (offset : Nat) : Decidable (mapping.Holds offset) :=
  inferInstanceAs (Decidable (_ ∧ _))

def mappingForOffset (request : Request) (offset : Nat) : Outcome Permissions :=
  match request.active.find? (fun mapping => mapping.Holds offset) with
  | some mapping => .ok mapping.permissions
  | none => .error (.refused .mappingCoverage)

/-- `(base + page * PAGE_SIZE) | leaf_flags(permissions)`. -/
def leafEntry (base : Word) (page : Nat) (permissions : Permissions) : Outcome Word := do
  let offset ← times page pageSize
  let address ← plus base.toNat offset
  return BitVec.ofNat 64 address ||| leafFlags permissions

end Requests

end PooleOS.Kmap
