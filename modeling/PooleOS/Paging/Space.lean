import PooleOS.Lib.Op
import PooleOS.Lib.Cells

/- Leaf entries of the four-level page tables: how a frame, its permissions and
its cache policy are packed into a word, and where an address of the user window
finds its leaf. -/
namespace PooleOS.Paging

open BitVec

inductive Error
  | pmm
  | tableAllocation
  | dataAllocation
  | address
  | unsupportedRegion
  | permission
  | physicalAddress
  | memoryAccess
  | bootstrapRoot
  | bootstrapRetainedIdentity
  | bootstrapLeafOccupied
  | bootstrapTargetAddress
  | bootstrapLeafState
  | bootstrapTranslation
  | bootstrapRevocation
  | parentEntry
  | alreadyMapped
  | mappingMissing
  | mappingCapacity
  | frameCapacity
  | cacheAlias
  | ownership
  | transactionRejected
  | rollbackFailed
  | pendingCapacity
  | invalidationRequired
  | staleInvalidation
  | activeRootUnsupported
  | releaseBusy
  | exerciseInvariant
deriving DecidableEq, Repr

abbrev Word : Type := BitVec 64

def pageBytes : Nat := 4096
def u64Values : Nat := 18446744073709551616

inductive Zone
  | dma
  | dma32
  | normal
deriving DecidableEq, Repr

/-- `AllocationHandle`. -/
structure Handle where
  slot : Nat
  generation : Nat
  startPage : Nat
  pageCount : Nat
  zone : Zone
  owner : Nat
deriving DecidableEq, Repr

structure Permissions where
  read : Bool
  write : Bool
  execute : Bool
  user : Bool
deriving DecidableEq, Repr

/-- `Permissions::valid`. -/
def Permissions.valid (permissions : Permissions) : Bool :=
  permissions.read && !(permissions.write && permissions.execute) && permissions.user

inductive CachePolicy
  | writeBack
  | uncacheable
deriving DecidableEq, Repr

structure Translation where
  physicalAddress : Word
  permissions : Permissions
  cache : CachePolicy
deriving DecidableEq, Repr

section Entries

def entryPresent : Word := 0x1#64
def entryWritable : Word := 0x2#64
def entryUser : Word := 0x4#64
def entryPwt : Word := 0x8#64
def entryPcd : Word := 0x10#64
def entryLargeOrPat : Word := 0x80#64
def entryNoExecute : Word := 0x8000000000000000#64
def physicalMask52 : Word := 0x000ffffffffff000#64
def parentFlags : Word := entryPresent ||| entryWritable ||| entryUser

/-- `physical_address`. -/
def physicalAddress (handle : Handle) : Except Error Word :=
  match checkedMul u64Values handle.startPage pageBytes with
  | none => .error .physicalAddress
  | some address =>
    if address ≠ 0 ∧ BitVec.ofNat 64 address &&& ~~~physicalMask52 = 0#64 then
      .ok (BitVec.ofNat 64 address)
    else .error .physicalAddress

/-- The bits that are set one after the other over the address of a leaf. -/
def leafFlags (permissions : Permissions) (cache : CachePolicy) : Word :=
  entryPresent ||| entryUser ||| (if permissions.write then entryWritable else 0#64) |||
    (if permissions.execute then 0#64 else entryNoExecute) |||
      (match cache with
        | .uncacheable => entryPwt ||| entryPcd
        | .writeBack => 0#64)

/-- `leaf_entry`. -/
def leafEntry (frame : Handle) (permissions : Permissions) (cache : CachePolicy) : Except Error Word :=
  if permissions.valid = false ∨ frame.pageCount ≠ 1 ∨ frame.owner = 0 then .error .permission
  else do
    let address ← physicalAddress frame
    .ok (address ||| leafFlags permissions cache)

/-- `decode_leaf`. -/
def decodeLeaf (value virtualAddress : Word) : Except Error Translation :=
  if value &&& entryPresent = 0#64 ∨ value &&& entryLargeOrPat ≠ 0#64 then .error .mappingMissing
  else do
    let cache ←
      if value &&& (entryPwt ||| entryPcd) = entryPwt ||| entryPcd then .ok .uncacheable
      else if value &&& (entryPwt ||| entryPcd) = 0#64 then .ok .writeBack
      else .error .memoryAccess
    .ok {
      physicalAddress :=
        (value &&& physicalMask52) ||| (virtualAddress &&& BitVec.ofNat 64 (pageBytes - 1))
      permissions := {
        read := true
        write := decide (value &&& entryWritable ≠ 0#64)
        execute := decide (value &&& entryNoExecute = 0#64)
        user := decide (value &&& entryUser ≠ 0#64) }
      cache }

end Entries

section Windows

inductive Region
  | nullGuard
  | user
  | nonCanonical
  | kernel
  | directMap
  | temporaryMap
  | kernelImage
deriving DecidableEq, Repr

def nullGuardEnd : Nat := 0x10000
def userEndExclusive : Nat := 0x800000000000
def directMapStart : Nat := 0xffff900000000000
def directMapEndExclusive : Nat := 0xffffd00000000000
def kernelImageStart : Nat := 0xffffffff80000000
def kernelImageEndExclusive : Nat := 0xffffffffc0000000
def temporaryPageIndex : Nat := 486
def temporaryMapStart : Nat := kernelImageStart + temporaryPageIndex * pageBytes
def temporaryMapEndExclusive : Nat := temporaryMapStart + pageBytes
def userWindowStart : Nat := 0x40000000
def userWindowEndExclusive : Nat := userWindowStart + 2 * 1024 * 1024

/-- `is_canonical_48`. -/
def isCanonical48 (address : Word) : Bool :=
  address >>> 48 == if address &&& 0x800000000000#64 = 0#64 then 0#64 else 0xffff#64

def classify (address : Word) : Region :=
  if isCanonical48 address = false then .nonCanonical
  else if address.toNat < nullGuardEnd then .nullGuard
  else if address.toNat < userEndExclusive then .user
  else if temporaryMapStart ≤ address.toNat ∧ address.toNat < temporaryMapEndExclusive then
    .temporaryMap
  else if kernelImageStart ≤ address.toNat ∧ address.toNat < kernelImageEndExclusive then
    .kernelImage
  else if directMapStart ≤ address.toNat ∧ address.toNat < directMapEndExclusive then .directMap
  else .kernel

/-- `table_indices`, level by level. -/
def tableIndex (address : Word) (level : Fin 4) : Nat :=
  ((address >>> (39 - 9 * level.val)) &&& 0x1ff#64).toNat

/-- `AddressSpace::validate_virtual`. -/
def validateVirtual (address : Word) : Except Error Unit := do
  demand (address.toNat % pageBytes = 0 ∧ isCanonical48 address = true) .address
  demand (classify address = .user ∧ userWindowStart ≤ address.toNat ∧
    address.toNat < userWindowEndExclusive) .unsupportedRegion

/-- A page address of the user window. -/
structure InWindow (address : Word) : Prop where
  aligned : address.toNat % pageBytes = 0
  low : userWindowStart ≤ address.toNat
  high : address.toNat < userWindowEndExclusive

theorem isCanonical48_low {address : Word} (low : address.toNat < userEndExclusive) : isCanonical48 address = true := by
  have upper : address >>> 48 = 0#64 := by
    apply eq_of_toNat_eq
    unfold userEndExclusive at low
    simp
    omega
  have clear : address &&& 0x800000000000#64 = 0#64 := by
    change address &&& twoPow 64 47 = 0#64
    have unset : address.getLsbD 47 = false := Nat.testBit_lt_two_pow low
    rw [and_twoPow, unset]
    rfl
  unfold isCanonical48
  rw [upper, clear]
  rfl

theorem classify_window {address : Word} (inside : InWindow address) : classify address = .user := by
  have low := inside.low
  have high := inside.high
  unfold userWindowEndExclusive userWindowStart at *
  unfold classify nullGuardEnd
  rw [isCanonical48_low (by unfold userEndExclusive; omega), if_neg (by simp), if_neg (by omega),
    if_pos (by unfold userEndExclusive; omega)]

/-- The addresses the operations accept are the pages of the user window. -/
theorem validateVirtual_eq_ok {address : Word} {value : Unit} :
    validateVirtual address = .ok value ↔ InWindow address := by
  have canonical : InWindow address → isCanonical48 address = true := by
    intro inside
    have high := inside.high
    unfold userWindowEndExclusive userWindowStart at high
    exact isCanonical48_low (by unfold userEndExclusive; omega)
  unfold validateVirtual
  rw [demand_bind_eq_ok, demand_eq_ok]
  constructor
  · rintro ⟨⟨aligned, _⟩, _, low, high⟩
    exact ⟨aligned, low, high⟩
  · intro inside
    exact ⟨⟨inside.aligned, canonical inside⟩, classify_window inside, inside.low, inside.high⟩

theorem tableIndex_leaf (address : Word) : tableIndex address 3 = address.toNat / 4096 % 512 := by
  unfold tableIndex
  rw [toNat_and, toNat_ushiftRight, Nat.shiftRight_eq_div_pow]
  exact Nat.and_two_pow_sub_one_eq_mod _ 9

/-- Two pages of the window have two leaves. -/
theorem InWindow.leaf_injective {left right : Word} (inside : InWindow left)
    (inside' : InWindow right) (same : tableIndex left 3 = tableIndex right 3) : left = right := by
  rw [tableIndex_leaf, tableIndex_leaf] at same
  obtain ⟨aligned, low, high⟩ := inside
  obtain ⟨aligned', low', high'⟩ := inside'
  unfold pageBytes userWindowStart userWindowEndExclusive at *
  apply eq_of_toNat_eq
  unfold userWindowStart at *
  omega

end Windows

section Leaves

variable {frame : Handle} {permissions : Permissions} {cache : CachePolicy} {value : Word}

theorem and_mask {address : Word} (clean : address &&& ~~~physicalMask52 = 0#64) :
    address &&& physicalMask52 = address := by
  have whole : physicalMask52 ||| ~~~physicalMask52 = allOnes 64 := by decide
  calc
    address &&& physicalMask52 = address &&& physicalMask52 ||| address &&& ~~~physicalMask52 := by
      rw [clean, or_zero]
    _ = address &&& (physicalMask52 ||| ~~~physicalMask52) := and_or_distrib_left.symm
    _ = address := by rw [whole, and_allOnes]

/-- Below a mask that misses the address a leaf has the flags that were set. -/
theorem and_flags {address flags mask : Word} (clean : address &&& ~~~physicalMask52 = 0#64)
    (apart : physicalMask52 &&& mask = 0#64) : (address ||| flags) &&& mask = flags &&& mask := by
  have missed : address &&& mask = 0#64 := by
    rw [← and_mask clean, BitVec.and_assoc, apart, BitVec.and_zero]
  rw [and_or_distrib_right, missed, zero_or]

theorem leafFlags_mask : leafFlags permissions cache &&& physicalMask52 = 0#64 := by
  obtain ⟨read, write, execute, user⟩ := permissions
  cases read <;> cases write <;> cases execute <;> cases user <;> cases cache <;> decide

theorem physicalAddress_clean {address : Word} (found : physicalAddress frame = .ok address) :
    address &&& ~~~physicalMask52 = 0#64 := by
  unfold physicalAddress at found
  split at found
  · cases found
  · split at found
    · rename_i fits
      cases found
      exact fits.2
    · cases found

section

variable (made : leafEntry frame permissions cache = .ok value)
include made

/-- What a leaf is made of. -/
theorem leafEntry_eq_ok :
    permissions.valid = true ∧ ∃ address, physicalAddress frame = .ok address ∧
      value = address ||| leafFlags permissions cache := by
  unfold leafEntry at made
  split at made
  · cases made
  · rename_i fine
    cases found : physicalAddress frame with
    | error reason =>
      rw [found] at made
      cases made
    | ok address =>
      rw [found] at made
      cases made
      refine ⟨?_, address, rfl, rfl⟩
      rw [← Bool.not_eq_false]
      exact fun invalid => fine (.inl invalid)

/-- Decoding a leaf gives back the address with the offset, the permissions and the policy. -/
theorem decodeLeaf_leafEntry (virtualAddress : Word)
    : ∃ address, physicalAddress frame = .ok address ∧ decodeLeaf value virtualAddress =
        .ok ⟨address + (virtualAddress &&& 0xfff#64), permissions, cache⟩ := by
  obtain ⟨valid, address, found, rfl⟩ := leafEntry_eq_ok made
  refine ⟨address, found, ?_⟩
  have clean := physicalAddress_clean found
  have base : (address ||| leafFlags permissions cache) &&& physicalMask52 = address := by
    rw [and_or_distrib_right, leafFlags_mask, and_mask clean, or_zero]
  have offset : address ||| (virtualAddress &&& 0xfff#64) = address + (virtualAddress &&& 0xfff#64) := by
    refine (add_eq_or_of_and_eq_zero _ _ ?_).symm
    have apart : physicalMask52 &&& 0xfff#64 = 0#64 := by decide
    rw [← and_mask clean, BitVec.and_comm virtualAddress, BitVec.and_assoc,
      ← and_assoc physicalMask52, apart, zero_and, and_zero]
  unfold decodeLeaf
  rw [base, and_flags clean (by decide), and_flags clean (by decide), and_flags clean (by decide),
    and_flags clean (by decide), and_flags clean (by decide), and_flags clean (by decide)]
  have low : BitVec.ofNat 64 (pageBytes - 1) = 0xfff#64 := rfl
  rw [low, offset]
  obtain ⟨read, write, execute, user⟩ := permissions
  cases read <;> cases write <;> cases execute <;> cases user <;> cases cache <;>
    first
      | rfl
      | exact absurd valid (by decide)

/-- No leaf is both writable and executable. -/
theorem leafEntry_exclusive
    (writable : value &&& entryWritable ≠ 0#64) : value &&& entryNoExecute ≠ 0#64 := by
  obtain ⟨valid, address, found, rfl⟩ := leafEntry_eq_ok made
  have clean := physicalAddress_clean found
  rw [and_flags clean (by decide)] at writable ⊢
  obtain ⟨read, write, execute, user⟩ := permissions
  revert writable
  cases read <;> cases write <;> cases execute <;> cases user <;> cases cache <;>
    first
      | exact absurd valid (by decide)
      | decide

theorem leafEntry_ne_zero : value ≠ 0#64 := by
  intro zero
  obtain ⟨address, _, decoded⟩ := decodeLeaf_leafEntry made 0#64
  rw [zero] at decoded
  cases decoded

end

end Leaves

def tableEntries : Nat := 512
def maxMappings : Nat := 8
def maxFrames : Nat := 4
def maxPendingInvalidations : Nat := 8
def tablePageCount : Nat := 4
def tableOwner : Nat := 0x0901
def dataOwner : Nat := 0x0902
def u8Values : Nat := 256

/-- `left.checked_sub(right)`. -/
def checkedSub (left right : Nat) : Option Nat := if right ≤ left then some (left - right) else none

section TableMemory

/-- How one memory call behaves: whether it succeeds, with which error it fails otherwise, and
whether a write reaches the entry. -/
structure Fault where
  succeeds : Bool
  reason : Error
  applied : Bool
deriving DecidableEq, Repr

def Fault.none : Fault := ⟨true, .memoryAccess, true⟩

/-- The stored entries and the behaviour of the calls to come; past the list every call works. -/
structure Memory where
  entries : Word → Nat → Word
  faults : List Fault

namespace Memory

def fault (memory : Memory) : Fault := memory.faults.headD .none

def write (memory : Memory) (table : Word) (index : Nat) (value : Word) : Memory :=
  { memory with
    entries := fun other cell =>
      if other = table ∧ cell = index then value else memory.entries other cell }

def next (memory : Memory) : Memory := { memory with faults := memory.faults.tail }

end Memory

def preparePage (_address : Word) : Op Memory Error Unit := ⟨fun memory =>
  (if memory.fault.succeeds then .ok () else .error memory.fault.reason, memory.next)⟩

def readEntry (table : Word) (index : Nat) : Op Memory Error Word := ⟨fun memory =>
  (if memory.fault.succeeds then .ok (memory.entries table index) else .error memory.fault.reason, memory.next)⟩

def writeEntry (table : Word) (index : Nat) (value : Word) : Op Memory Error Unit := ⟨fun memory =>
  (if memory.fault.succeeds then .ok () else .error memory.fault.reason,
    (if memory.fault.applied then memory.write table index value else memory).next)⟩

/-- `TableMemory::finish`. -/
def finishMemory : Op Memory Error Unit := ⟨fun memory =>
  (if memory.fault.succeeds then .ok () else .error memory.fault.reason, memory.next)⟩

/-- `memory.write_entry(..).is_ok() && memory.read_entry(..) == Ok(value)`. -/
def writeVerified (table : Word) (index : Nat) (value : Word) : Op Memory Error Bool := do
  match ← Op.attempt (writeEntry table index value) with
  | .error _ => pure false
  | .ok _ =>
    let seen ← Op.attempt (readEntry table index)
    pure (match seen with
      | .ok current => decide (current = value)
      | .error _ => false)

/-- `replace_entry`. -/
def replaceEntry (table : Word) (index : Nat) (expected replacement : Word) : Op Memory Error Unit := do
  let current ← readEntry table index
  Op.ensure (current = expected) .transactionRejected
  let verified ← writeVerified table index replacement
  if verified then pure ()
  else do
    let restored ← writeVerified table index expected
    if restored then Op.fail .transactionRejected else Op.fail .rollbackFailed

end TableMemory

structure Token where
  sequence : Nat
  rootGeneration : Nat
  virtualAddress : Word
  frameGeneration : Nat
deriving DecidableEq, Repr

/-- `MappingRecord`. -/
structure Mapping where
  virtualAddress : Word
  frame : Handle
  permissions : Permissions
  cache : CachePolicy
deriving DecidableEq, Repr

/-- `FrameRecord`. -/
structure Frame where
  frame : Handle
  cache : CachePolicy
  mappingCount : Nat
  pendingCount : Nat
deriving DecidableEq, Repr

/-- `PendingInvalidation`. -/
structure Pending where
  token : Token
  frame : Handle
  acknowledged : Bool
deriving DecidableEq, Repr

/-- `AddressSpace`. The operation counters abort on overflow and are counted without a bound
here. -/
structure Space where
  tableAllocation : Handle
  tables : Fin 4 → Word
  mappings : Fin maxMappings → Option Mapping
  frames : Fin maxFrames → Option Frame
  pending : Fin maxPendingInvalidations → Option Pending
  nextInvalidation : Nat
  mapOperations : Nat
  protectOperations : Nat
  unmapOperations : Nat
  invalidationReceipts : Nat
  releasedFrames : Nat
  active : Bool
  released : Bool

/-- What has happened so far: frames bound, allocations passed to `manager.free` with success,
tokens issued with their frames, and tokens acknowledged and completed. -/
structure Log where
  bound : List Handle
  freed : List Handle
  issued : List (Token × Handle)
  acknowledged : List Token
  completed : List Token

def Log.new : Log := ⟨[], [], [], [], []⟩

/-- An address space with the memory it works on. -/
structure Machine where
  memory : Memory
  space : Space
  log : Log

abbrev VmOp (α : Type) : Type := Op Machine Error α

/-- A method of the table memory. -/
def onMemory {α : Type} (method : Op Memory Error α) : VmOp α := ⟨fun machine =>
  ((method.run machine.memory).1, { machine with memory := (method.run machine.memory).2 })⟩

/-- An infallible assignment to the address space. -/
def onSpace (f : Space → Space) : VmOp Unit :=
  Op.update (fun machine => { machine with space := f machine.space })

def onLog (f : Log → Log) : VmOp Unit :=
  Op.update (fun machine => { machine with log := f machine.log })

namespace Space

def mappingIndex (space : Space) (address : Word) : Option (Fin maxMappings) :=
  Cells.position space.mappings (fun mapping => mapping.virtualAddress = address)

def frameIndex (space : Space) (frame : Handle) : Option (Fin maxFrames) :=
  Cells.position space.frames (fun binding => binding.frame = frame)

def pendingIndex (space : Space) (token : Token) : Option (Fin maxPendingInvalidations) :=
  Cells.position space.pending (fun pending => pending.token = token)

def setMapping (cell : Fin maxMappings) (mapping : Option Mapping) (space : Space) : Space :=
  { space with mappings := Function.update space.mappings cell mapping }

def setFrame (cell : Fin maxFrames) (frame : Option Frame) (space : Space) : Space :=
  { space with frames := Function.update space.frames cell frame }

def setPending (cell : Fin maxPendingInvalidations) (pending : Option Pending) (space : Space) :
    Space := { space with pending := Function.update space.pending cell pending }

end Space

section Initialize

/-- The zeroing of one table page. -/
def clearTable (table : Word) : Op Memory Error Unit := do
  preparePage table
  Op.forEach (List.range tableEntries) (fun index => writeEntry table index 0#64)
  Op.forEach (List.range tableEntries) (fun index => do
    let value ← readEntry table index
    Op.ensure (value = 0#64) .memoryAccess)

def tablesAt (root : Word) (level : Fin 4) : Word := root + BitVec.ofNat 64 (level.val * pageBytes)

def windowStart : Word := BitVec.ofNat 64 userWindowStart

/-- `AddressSpace::initialize`. The manager's answer about the allocation is given. -/
def initializeSpace (valid : Bool) (tableAllocation : Handle) : Op Memory Error Space := do
  Op.ensure (valid = true) .pmm
  Op.ensure (tableAllocation.pageCount = tablePageCount ∧ tableAllocation.owner = tableOwner ∧
    tableAllocation.zone = .dma32) .tableAllocation
  let root ← Op.lift (physicalAddress tableAllocation)
  Op.forEach (List.finRange 4) (fun level => clearTable (tablesAt root level))
  replaceEntry (tablesAt root 0) (tableIndex windowStart 0) 0#64 (tablesAt root 1 ||| parentFlags)
  replaceEntry (tablesAt root 1) (tableIndex windowStart 1) 0#64 (tablesAt root 2 ||| parentFlags)
  replaceEntry (tablesAt root 2) (tableIndex windowStart 2) 0#64 (tablesAt root 3 ||| parentFlags)
  pure {
    tableAllocation, tables := tablesAt root
    mappings := fun _ => none, frames := fun _ => none, pending := fun _ => none
    nextInvalidation := 1, mapOperations := 0, protectOperations := 0, unmapOperations := 0
    invalidationReceipts := 0, releasedFrames := 0, active := false, released := false }

end Initialize

section Operations

/-- The binding of a new frame or of one more mapping of a bound frame. -/
def bindFrame (frame : Handle) (cache : CachePolicy) (existing : Option (Fin maxFrames)) : VmOp Unit := do
  let machine ← Op.read
  match existing with
  | some index =>
    let binding ← Op.lift (orError (machine.space.frames index) .ownership)
    let mappingCount ←
      Op.lift (orError (checkedAdd u8Values binding.mappingCount 1) .frameCapacity)
    onSpace (Space.setFrame index (some { binding with mappingCount }))
  | none =>
    let index ← Op.lift (orError (Cells.vacancy machine.space.frames) .frameCapacity)
    onSpace (Space.setFrame index (some ⟨frame, cache, 1, 0⟩))
    onLog (fun log => { log with bound := log.bound ++ [frame] })

/-- Whether the frame may be mapped with this policy: a bound frame keeps its policy, a new one
must not share its page with another generation and needs a free record. -/
def admitFrame (space : Space) (frame : Handle) (cache : CachePolicy) : Except Error Unit :=
  match space.frameIndex frame with
  | some index => do
      let binding ← orError (space.frames index) .ownership
      demand (binding.cache = cache) .cacheAlias
  | none => do
      demand (Cells.position space.frames (fun binding =>
        binding.frame.startPage = frame.startPage ∧ binding.frame.generation ≠ frame.generation) =
          none) .ownership
      demand (Cells.vacancy space.frames ≠ none) .frameCapacity

def map (valid : Bool) (virtualAddress : Word) (frame : Handle) (permissions : Permissions)
    (cache : CachePolicy) : VmOp Unit := do
  let machine ← Op.read
  Op.ensure (machine.space.released = false) .releaseBusy
  Op.lift (validateVirtual virtualAddress)
  Op.ensure (valid = true) .pmm
  Op.ensure (frame.pageCount = 1 ∧ frame.owner = dataOwner) .dataAllocation
  Op.ensure (machine.space.mappingIndex virtualAddress = none) .alreadyMapped
  let mappingSlot ← Op.lift (orError (Cells.vacancy machine.space.mappings) .mappingCapacity)
  let existingFrame := machine.space.frameIndex frame
  Op.lift (admitFrame machine.space frame cache)
  let value ← Op.lift (leafEntry frame permissions cache)
  onMemory (replaceEntry (machine.space.tables 3) (tableIndex virtualAddress 3) 0#64 value)
  onSpace (Space.setMapping mappingSlot (some ⟨virtualAddress, frame, permissions, cache⟩))
  bindFrame frame cache existingFrame
  onSpace (fun space => { space with mapOperations := space.mapOperations + 1 })

def protect (virtualAddress : Word) (permissions : Permissions) : VmOp Unit := do
  let machine ← Op.read
  Op.lift (validateVirtual virtualAddress)
  let index ← Op.lift (orError (machine.space.mappingIndex virtualAddress) .mappingMissing)
  let mapping ← Op.lift (orError (machine.space.mappings index) .mappingMissing)
  let previous ← Op.lift (leafEntry mapping.frame mapping.permissions mapping.cache)
  let replacement ← Op.lift (leafEntry mapping.frame permissions mapping.cache)
  onMemory (replaceEntry (machine.space.tables 3) (tableIndex virtualAddress 3) previous replacement)
  onSpace (Space.setMapping index (some { mapping with permissions }))
  onSpace (fun space => { space with protectOperations := space.protectOperations + 1 })

/-- One level of the walk in `translate`. -/
def checkParent (space : Space) (virtualAddress : Word) (level : Fin 3) : Op Memory Error Unit := do
  let entry ← readEntry (space.tables level.castSucc) (tableIndex virtualAddress level.castSucc)
  Op.ensure (entry = space.tables level.succ ||| parentFlags) .parentEntry

def translate (space : Space) (virtualAddress : Word) : Op Memory Error Translation := do
  Op.lift (validateVirtual (virtualAddress &&& ~~~BitVec.ofNat 64 (pageBytes - 1)))
  Op.forEach (List.finRange 3) (checkParent space virtualAddress)
  let leaf ← readEntry (space.tables 3) (tableIndex virtualAddress 3)
  Op.lift (decodeLeaf leaf virtualAddress)

def beginUnmap (virtualAddress : Word) : VmOp Token := do
  let machine ← Op.read
  let space := machine.space
  Op.lift (validateVirtual virtualAddress)
  let mappingIndex ← Op.lift (orError (space.mappingIndex virtualAddress) .mappingMissing)
  let pendingIndex ← Op.lift (orError (Cells.vacancy space.pending) .pendingCapacity)
  let mapping ← Op.lift (orError (space.mappings mappingIndex) .mappingMissing)
  let frameIndex ← Op.lift (orError (space.frameIndex mapping.frame) .ownership)
  let binding ← Op.lift (orError (space.frames frameIndex) .ownership)
  let previous ← Op.lift (leafEntry mapping.frame mapping.permissions mapping.cache)
  onMemory (replaceEntry (space.tables 3) (tableIndex virtualAddress 3) previous 0#64)
  let token : Token := ⟨space.nextInvalidation, space.tableAllocation.generation, virtualAddress,
    mapping.frame.generation⟩
  let nextInvalidation ←
    Op.lift (orError (checkedAdd u64Values space.nextInvalidation 1) .pendingCapacity)
  onSpace (fun space => { space with nextInvalidation })
  let mappingCount ← Op.lift (orError (checkedSub binding.mappingCount 1) .ownership)
  let pendingCount ← Op.lift (orError (checkedAdd u8Values binding.pendingCount 1) .pendingCapacity)
  onSpace (Space.setFrame frameIndex (some { binding with mappingCount, pendingCount }))
  onSpace (Space.setMapping mappingIndex none)
  onSpace (Space.setPending pendingIndex (some ⟨token, mapping.frame, false⟩))
  onSpace (fun space => { space with unmapOperations := space.unmapOperations + 1 })
  onLog (fun log => { log with issued := log.issued ++ [(token, mapping.frame)] })
  pure token

def acknowledgeInactive (token : Token) : VmOp Unit := do
  let machine ← Op.read
  let space := machine.space
  Op.ensure (space.active = false) .activeRootUnsupported
  let index ← Op.lift (orError (space.pendingIndex token) .staleInvalidation)
  let pending ← Op.lift (orError (space.pending index) .staleInvalidation)
  Op.ensure (pending.acknowledged = false ∧ token.rootGeneration = space.tableAllocation.generation)
    .staleInvalidation
  onSpace (Space.setPending index (some { pending with acknowledged := true }))
  onSpace (fun space => { space with invalidationReceipts := space.invalidationReceipts + 1 })
  onLog (fun log => { log with acknowledged := log.acknowledged ++ [token] })

/-- `manager.free(handle)`, with the manager's answer given. -/
def freeFrame (frees : Bool) (handle : Handle) : VmOp Unit := do
  Op.ensure (frees = true) .pmm
  onLog (fun log => { log with freed := log.freed ++ [handle] })

def completeUnmap (frees : Bool) (token : Token) : VmOp Bool := do
  let machine ← Op.read
  let space := machine.space
  let pendingIndex ← Op.lift (orError (space.pendingIndex token) .staleInvalidation)
  let pending ← Op.lift (orError (space.pending pendingIndex) .staleInvalidation)
  Op.ensure (pending.acknowledged = true) .invalidationRequired
  let frameIndex ← Op.lift (orError (space.frameIndex pending.frame) .ownership)
  let binding ← Op.lift (orError (space.frames frameIndex) .ownership)
  let release := decide (binding.mappingCount = 0 ∧ binding.pendingCount = 1)
  Op.when (release = true) (freeFrame frees binding.frame)
  let pendingCount ← Op.lift (orError (checkedSub binding.pendingCount 1) .ownership)
  onSpace (Space.setPending pendingIndex none)
  if release then do
    onSpace (Space.setFrame frameIndex none)
    onSpace (fun space => { space with releasedFrames := space.releasedFrames + 1 })
  else onSpace (Space.setFrame frameIndex (some { binding with pendingCount }))
  onLog (fun log => { log with completed := log.completed ++ [token] })
  pure release

def release (frees : Bool) : VmOp Unit := do
  let machine ← Op.read
  let space := machine.space
  Op.ensure (space.active = false ∧ space.released = false ∧ (∀ cell, space.mappings cell = none) ∧
    (∀ cell, space.frames cell = none) ∧ ∀ cell, space.pending cell = none) .releaseBusy
  Op.forEach (List.finRange 4) (fun level =>
    Op.forEach (List.range tableEntries) (fun index =>
      onMemory (writeEntry (space.tables level) index 0#64)))
  onMemory finishMemory
  freeFrame frees space.tableAllocation
  onSpace (fun space =>
    { space with released := true, releasedFrames := space.releasedFrames + tablePageCount })

end Operations

end PooleOS.Paging
