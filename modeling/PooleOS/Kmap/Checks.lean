import PooleOS.Kmap.Model

/- The table pages: `populate` and `populate_retained` fill them and check them
again, and `translate` walks them. -/
namespace PooleOS.Kmap

abbrev Table : Type := Fin 512 → Word

/-- The table pages that are written. -/
inductive TableName
  | candidateRoot
  | pdpt
  | pageDirectory
  | pageTable
  | retainedPageTable
deriving DecidableEq, Repr

abbrev Tables : Type := TableName → Table

/-- A method that writes the tables. -/
abbrev M (α : Type) : Type := Op Tables Stop α

section Writing

/-- `table[index]`. -/
def entryAt (table : Table) (index : Nat) : Outcome Word :=
  if inside : index < 512 then .ok (table ⟨index, inside⟩) else .error .panicked

/-- The tables after one entry is written. -/
def write (tables : Tables) (name : TableName) (index : Nat) (entry : Word) : Tables :=
  Function.update tables name (fun place => if place.val = index then entry else tables name place)

/-- `table[index] = entry`. -/
def store (name : TableName) (index : Nat) (entry : Word) : M Unit := do
  Op.ensure (index < 512) .panicked
  Op.update (fun tables => write tables name index entry)

/-- `table.copy_from_slice(source)`. -/
def copyFromSlice (name : TableName) (source : Table) : M Unit :=
  Op.update (fun tables => Function.update tables name source)

/-- `table.fill(0)`. -/
def fillZero (name : TableName) : M Unit := copyFromSlice name (fun _ => 0#64)

/-- `table | PARENT_FLAGS`. -/
def parentEntry (table : Word) : Word := table ||| parentFlags

end Writing

section Populate

/-- The entry of one page of the image. -/
def imageLeaf (request : Request) (page : Nat) : Outcome Word := do
  let permissions ← mappingForOffset request (← times page pageSize)
  leafEntry request.physicalBase page permissions

/-- What `verify` expects of the root. -/
def expectedRoot (addresses : TableAddresses) (originalRoot : Table) (rootIndex : Nat) (index : Fin 512) : Word :=
  if index.val = rootIndex then parentEntry addresses.pdpt else originalRoot index

/-- The loop over the root in `verify`. -/
def verifyRoot (addresses : TableAddresses) (originalRoot : Table) (rootIndex : Nat) (root : Table) : Outcome Unit :=
  (List.finRange 512).forM (fun index =>
    require (root index = expectedRoot addresses originalRoot rootIndex index)
      (if index.val = rootIndex then .parentEntry else .unexpectedEntry))

/-- What `verify` expects of a parent table: one entry, and zero elsewhere. -/
def expectedParent (target : Nat) (table : Word) (index : Fin 512) : Word :=
  if index.val = target then parentEntry table else 0#64

/-- The loop over the parents in `verify`. -/
def verifyParents (addresses : TableAddresses) (summary : Summary) (tables : Tables) : Outcome Unit :=
  (List.finRange 512).forM (fun index => do
    require (tables .pdpt index = expectedParent summary.pdptIndex addresses.pageDirectory index)
      (if index.val = summary.pdptIndex then .parentEntry else .unexpectedEntry)
    require (tables .pageDirectory index = expectedParent summary.pageDirectoryIndex addresses.pageTable index)
      (if index.val = summary.pageDirectoryIndex then .parentEntry else .unexpectedEntry))

/-- The loop over the leaves in `verify`. -/
def verifyLeaves (request : Request) (firstLeaf : Nat) (table : Table) : Outcome Unit :=
  (List.finRange 512).forM (fun index =>
    if firstLeaf ≤ index.val ∧ index.val < firstLeaf + request.pageCount then do
      let expected ← imageLeaf request (index.val - firstLeaf)
      require (table index = expected) .leafEntry
    else require (table index = 0#64) .unexpectedEntry)

def verify (request : Request) (addresses : TableAddresses) (originalRoot : Table) (tables : Tables) :
    Outcome Summary := do
  let summary ← requestSummary request addresses
  let rootIndex := summary.pml4Index
  require ((← entryAt originalRoot rootIndex) = 0#64) .rootSlotOccupied
  verifyRoot addresses originalRoot rootIndex (tables .candidateRoot)
  verifyParents addresses summary tables
  verifyLeaves request summary.firstPageTableIndex (tables .pageTable)
  return summary

def populate (request : Request) (addresses : TableAddresses) (originalRoot : Table) : M Summary := do
  let summary ← Op.lift (requestSummary request addresses)
  let rootIndex := summary.pml4Index
  Op.ensure ((← Op.lift (entryAt originalRoot rootIndex)) = 0#64) (.refused .rootSlotOccupied)
  copyFromSlice .candidateRoot originalRoot
  fillZero .pdpt
  fillZero .pageDirectory
  fillZero .pageTable
  store .candidateRoot rootIndex (parentEntry addresses.pdpt)
  store .pdpt summary.pdptIndex (parentEntry addresses.pageDirectory)
  store .pageDirectory summary.pageDirectoryIndex (parentEntry addresses.pageTable)
  let firstLeaf := summary.firstPageTableIndex
  Op.forEach (List.range request.pageCount) (fun page => do
    let entry ← Op.lift (imageLeaf request page)
    let index ← Op.lift (plus firstLeaf page)
    store .pageTable index entry)
  Op.lift (verify request addresses originalRoot (← Op.read))

end Populate

section Retained

/-- The ranges of memory that a retained request names. -/
def retainedRanges (request : Request) (addresses : TableAddresses) (retained : RetainedRequest)
    (stackBytes : Nat) : List (Nat × Nat) :=
  [(request.physicalBase.toNat, request.imageBytes), (addresses.candidateRoot.toNat, tablePageCount * pageSize),
    (retained.stackPhysicalBase.toNat, stackBytes),
    (retained.handoffPhysicalBase.toNat, retained.handoffCapacityBytes)]

/-- One run of pages in the fingerprint of the retained leaves. -/
def fingerprintPages (tag firstPage pages : Nat) (base : Word) (permissions : Permissions)
    (fingerprint : Word) : Outcome Word :=
  (List.range pages).foldlM (fun state page => do
    let address ← plus base.toNat (← times page pageSize)
    let state := fnvU64 state (BitVec.ofNat 64 tag)
    let state := fnvU64 state (BitVec.ofNat 64 (firstPage + page))
    let state := fnvU64 state (BitVec.ofNat 64 address)
    return fnvU64 state (permissionCode permissions)) fingerprint

def retainedSummary (request : Request) (addresses : TableAddresses) (retained : RetainedRequest) :
    Outcome RetainedSummary := do
  let kernel ← requestSummary request addresses
  require (¬ (kernel.firstPageTableIndex ≠ 0 ∨ stackGuardLowPage < request.pageCount ∨
    retained.stackPhysicalBase = 0#64 ∨ low retained.stackPhysicalBase pageSize ≠ 0#64 ∨
    retained.stackPageCount ≠ stackPageCount ∨ retained.handoffPhysicalBase = 0#64 ∨
    low retained.handoffPhysicalBase pageSize ≠ 0#64 ∨
    retained.handoffCapacityBytes ≠ handoffCapacityBytes)) .retainedRange
  let maximumPhysical := 2 ^ request.physicalAddressBits
  let stackBytes ← times retained.stackPageCount pageSize
  let handoffBytes := retained.handoffCapacityBytes
  [(retained.stackPhysicalBase.toNat, stackBytes),
    (retained.handoffPhysicalBase.toNat, handoffBytes)].forM (fun range => do
      require (¬ maximumPhysical < (← rangeEnd range.1 range.2 .retainedRange)) .retainedRange)
  require ((retainedRanges request addresses retained stackBytes).Pairwise (fun first second =>
    ¬ RangesOverlap first.1 first.2 second.1 second.2)) .retainedOverlap
  let stackBottomVirtual ← addOr request.virtualBase.toNat (stackFirstPage * pageSize) .retainedRange
  let stackTopVirtual ← addOr stackBottomVirtual stackBytes .retainedRange
  let handoffVirtualBase ← addOr request.virtualBase.toNat (handoffFirstPage * pageSize) .retainedRange
  let handoffEnd ← addOr handoffVirtualBase handoffBytes .retainedRange
  require (¬ (isCanonical48 (BitVec.ofNat 64 stackBottomVirtual) = false ∨
    isCanonical48 (BitVec.ofNat 64 (← minus stackTopVirtual 1)) = false ∨
    isCanonical48 (BitVec.ofNat 64 handoffVirtualBase) = false ∨
    isCanonical48 (BitVec.ofNat 64 (← minus handoffEnd 1)) = false ∨
    (← plus request.virtualBase.toNat retainedWindowBytes) < handoffEnd ∨
    stackFirstPage + stackPageCount ≠ stackGuardHighPage ∨ handoffFirstPage ≤ stackGuardHighPage ∨
    tableEntries < handoffFirstPage + handoffPageCount ∨
    tableEntries ≤ kernel.pageDirectoryIndex + 1)) .retainedRange
  let stack ← fingerprintPages 1 stackFirstPage stackPageCount retained.stackPhysicalBase .readWrite fnvOffset
  let fingerprint ←
    fingerprintPages 2 handoffFirstPage handoffPageCount retained.handoffPhysicalBase .readOnly stack
  return {
    kernel := kernel
    stackFirstPageTableIndex := stackFirstPage
    stackPageCount := retained.stackPageCount
    stackBottomVirtual := stackBottomVirtual
    stackTopVirtual := stackTopVirtual
    handoffFirstPageTableIndex := handoffFirstPage
    handoffPageCount := handoffPageCount
    handoffVirtualBase := handoffVirtualBase
    guardPageCount := 2
    totalMappedPageCount := request.pageCount + retained.stackPageCount + handoffPageCount
    retainedLeafFingerprint := fingerprint }

def retainedLeaf (request : Request) (retained : RetainedRequest) (index : Nat) : Outcome Word :=
  let firstKernel := pageTableIndex request.virtualBase
  if firstKernel ≤ index ∧ index < firstKernel + request.pageCount then
    imageLeaf request (index - firstKernel)
  else if stackFirstPage ≤ index ∧ index < stackFirstPage + stackPageCount then
    leafEntry retained.stackPhysicalBase (index - stackFirstPage) .readWrite
  else if handoffFirstPage ≤ index ∧ index < handoffFirstPage + handoffPageCount then
    leafEntry retained.handoffPhysicalBase (index - handoffFirstPage) .readOnly
  else .ok 0#64

/-- What `verify_retained` expects of the page directory. -/
def expectedDirectory (addresses : TableAddresses) (target : Nat) (index : Fin 512) : Word :=
  if index.val = target then parentEntry addresses.pageTable
  else if index.val = target + 1 then parentEntry addresses.retainedPageTable
  else 0#64

/-- The loop over the parents in `verify_retained`. -/
def verifyRetainedParents (addresses : TableAddresses) (pdptTarget directoryTarget : Nat) (tables : Tables) :
    Outcome Unit :=
  (List.finRange 512).forM (fun index =>
    require (¬ (tables .pdpt index ≠ expectedParent pdptTarget addresses.pageDirectory index ∨
      tables .pageDirectory index ≠ expectedDirectory addresses directoryTarget index))
      (if index.val = pdptTarget ∨ index.val = directoryTarget then .parentEntry else .unexpectedEntry))

/-- The two loops over the leaves in `verify_retained`. -/
def verifyRetainedLeaves (request : Request) (retained : RetainedRequest) (tables : Tables) : Outcome Unit := do
  (List.finRange 512).forM (fun index => do
    let expected ← retainedLeaf request retained index.val
    require (tables .pageTable index = expected)
      (if index.val = stackGuardLowPage ∨ index.val = stackGuardHighPage then .guardPage
        else if expected ≠ 0#64 then .leafEntry else .unexpectedEntry))
  (List.finRange 512).forM (fun index => do
    let expected ← retainedLeaf request retained (tableEntries + index.val)
    require (tables .retainedPageTable index = expected)
      (if expected ≠ 0#64 then .leafEntry else .unexpectedEntry))

def verifyRetained (request : Request) (retained : RetainedRequest) (addresses : TableAddresses)
    (originalRoot : Table) (tables : Tables) : Outcome RetainedSummary := do
  let summary ← retainedSummary request addresses retained
  let rootIndex := summary.kernel.pml4Index
  require ((← entryAt originalRoot rootIndex) = 0#64) .rootSlotOccupied
  verifyRoot addresses originalRoot rootIndex (tables .candidateRoot)
  verifyRetainedParents addresses summary.kernel.pdptIndex summary.kernel.pageDirectoryIndex tables
  verifyRetainedLeaves request retained tables
  return summary

/-- One of the two loops of `populate_retained`. -/
def storeRetained (request : Request) (retained : RetainedRequest) (firstPage pages : Nat) : M Unit :=
  Op.forEach (List.range pages) (fun page => do
    let entry ← Op.lift (retainedLeaf request retained (firstPage + page))
    store .pageTable (firstPage + page) entry)

def populateRetained (request : Request) (retained : RetainedRequest) (addresses : TableAddresses)
    (originalRoot : Table) : M RetainedSummary := do
  let summary ← Op.lift (retainedSummary request addresses retained)
  let _ ← populate request addresses originalRoot
  fillZero .retainedPageTable
  store .pageDirectory (summary.kernel.pageDirectoryIndex + 1) (parentEntry addresses.retainedPageTable)
  storeRetained request retained stackFirstPage stackPageCount
  storeRetained request retained handoffFirstPage handoffPageCount
  let observed ← Op.lift (verifyRetained request retained addresses originalRoot (← Op.read))
  Op.ensure (observed = summary) (.refused .leafEntry)
  return summary

end Retained

section Translation

/-- A reader of the tables in memory. -/
abbrev TableReader : Type := Word → Nat → Outcome Word

structure CacheBits where
  pwt : Bool
  pcd : Bool
  pat : Bool
deriving DecidableEq, Repr

structure Translation where
  physicalAddress : Word
  pageSize : Nat
  writable : Bool
  executable : Bool
  user : Bool
  cache : CacheBits
deriving DecidableEq, Repr

/-- `entry & bit != 0`. -/
def hasBit (entry bit : Word) : Bool := entry &&& bit != 0#64

def entryAddress (entry mask : Word) : Outcome Word := do
  let address := entry &&& mask
  require (¬ (address = 0#64 ∨ low address pageSize ≠ 0#64)) .translationAddress
  return address

def cacheBits (entry : Word) (large : Bool) : CacheBits :=
  ⟨hasBit entry entryPwt, hasBit entry entryPcd, hasBit entry (if large then entryLargePat else entryPageSizeOrPat)⟩

/-- The loop variables of `translate`. -/
structure Walk where
  table : Word
  writable : Bool
  executable : Bool
  user : Bool

/-- The translation of a leaf with pages of `bytes` bytes. -/
def Walk.leaf (walk : Walk) (base virtualAddress : Word) (bytes : Nat) (cache : CacheBits) : Translation :=
  ⟨base ||| low virtualAddress bytes, bytes, walk.writable, walk.executable, walk.user, cache⟩

/-- `(entry & mask) & !(bytes - 1)`. -/
def largeBase (entry mask : Word) (bytes : Nat) : Word :=
  (entry &&& mask) &&& ~~~BitVec.ofNat 64 (bytes - 1)

/-- The permissions of the walk after one more entry. -/
def Walk.through (walk : Walk) (entry : Word) : Walk :=
  { walk with
    writable := walk.writable && hasBit entry entryWritable
    executable := walk.executable && !hasBit entry entryNoExecute
    user := walk.user && hasBit entry entryUser }

/-- One round of the loop over the levels: the walk goes on, or it ends. -/
def translateLevel (reader : TableReader) (mask virtualAddress : Word) (walk : Walk) (level index : Nat) :
    Outcome (Walk ⊕ Translation) := do
  let entry ← reader walk.table index
  require (hasBit entry entryPresent = true) .translationMissing
  let walk := walk.through entry
  let large := hasBit entry entryPageSizeOrPat
  require (¬ (level = 0 ∧ large = true)) .translationReserved
  if level = 1 ∧ large = true then
    let bytes := 1024 * 1024 * 1024
    return .inr (walk.leaf (largeBase entry mask bytes) virtualAddress bytes (cacheBits entry true))
  else if level = 2 ∧ large = true then
    return .inr (walk.leaf (largeBase entry mask windowBytes) virtualAddress windowBytes (cacheBits entry true))
  else if level = 3 then
    return .inr (walk.leaf (entry &&& mask) virtualAddress pageSize (cacheBits entry false))
  else
    return .inl { walk with table := ← entryAddress entry mask }

/-- The loop over the levels that are left. -/
def translateFrom (reader : TableReader) (mask virtualAddress : Word) (walk : Walk) :
    List (Nat × Nat) → Outcome Translation
  | [] => .error (.refused .translationMissing)
  | (level, index) :: rest => do
      match ← translateLevel reader mask virtualAddress walk level index with
      | .inl next => translateFrom reader mask virtualAddress next rest
      | .inr translation => return translation

def translate (reader : TableReader) (root virtualAddress : Word) (physicalAddressBits : Nat) :
    Outcome Translation := do
  require (isCanonical48 virtualAddress = true) .virtualAddress
  let mask ← physicalMask physicalAddressBits
  require (¬ (root = 0#64 ∨ root &&& ~~~mask ≠ 0#64)) .translationAddress
  translateFrom reader mask virtualAddress ⟨root, true, true, true⟩
    [(0, pml4Index virtualAddress), (1, pdptIndex virtualAddress),
      (2, pageDirectoryIndex virtualAddress), (3, pageTableIndex virtualAddress)]

end Translation

section Masks

variable {bits : Nat} {value address flags : Word}

/-- The width that `physical_mask` accepts. -/
def Width (bits : Nat) : Prop := 36 ≤ bits ∧ bits ≤ 52

theorem toNat_and_maskOf (width : Width bits) :
    (value &&& maskOf bits).toNat = value.toNat % 2 ^ bits / 4096 * 4096 := by
  have less : bits < 64 := by
    have upper := width.2
    omega
  have ones : (1#64 <<< bits) - 1#64 = BitVec.ofNat 64 (2 ^ bits - 1) := by
    have known : ∀ bits : Fin 64, (1#64 <<< bits.val) - 1#64 = BitVec.ofNat 64 (2 ^ bits.val - 1) := by
      decide
    exact known ⟨bits, less⟩
  unfold maskOf
  rw [ones, ← BitVec.and_assoc, ← toNat_and_mask value less]
  exact toNat_and_not_low _

/-- An aligned address inside the physical address width. -/
def Clean (bits : Nat) (value : Word) : Prop := value.toNat % 4096 = 0 ∧ value.toNat < 2 ^ bits

theorem Clean.and (width : Width bits) (clean : Clean bits value) : value &&& maskOf bits = value := by
  refine BitVec.eq_of_toNat_eq ?_
  rw [toNat_and_maskOf width, Nat.mod_eq_of_lt clean.2]
  have aligned := clean.1
  omega

theorem Clean.inside (width : Width bits) (clean : Clean bits value) : value &&& ~~~maskOf bits = 0#64 :=
  clean_of_and (clean.and width)

theorem clean_of_mask (width : Width bits) (inside : value &&& ~~~maskOf bits = 0#64) : Clean bits value := by
  have same := congrArg BitVec.toNat (and_of_clean inside)
  rw [toNat_and_maskOf width] at same
  exact ⟨by omega, by omega⟩

/-- The bits that hold the flags of an entry. -/
def flagBits : Word := 0x8000000000000fff#64

theorem maskOf_flagBits (width : Width bits) : maskOf bits &&& flagBits = 0#64 := by
  have known : ∀ bits : Fin 53, 36 ≤ bits.val → maskOf bits.val &&& flagBits = 0#64 := by decide
  exact known ⟨bits, Nat.lt_succ_of_le width.2⟩ width.1

theorem maskOf_flag (width : Width bits) {flag : Word} (known : flagBits &&& flag = flag) :
    maskOf bits &&& flag = 0#64 := by
  rw [← known, ← BitVec.and_assoc, maskOf_flagBits width, BitVec.zero_and]

/-- The address of an entry reads back. -/
theorem entry_address (width : Width bits) (clean : Clean bits address) (known : flagBits &&& flags = flags) :
    (address ||| flags) &&& maskOf bits = address := by
  refine packed_address (clean.inside width) ?_
  rw [BitVec.and_comm]
  exact maskOf_flag width known

/-- A flag of an entry reads back. -/
theorem hasBit_entry (width : Width bits) (clean : Clean bits address) {flag : Word}
    (known : flagBits &&& flag = flag) : hasBit (address ||| flags) flag = hasBit flags flag := by
  unfold hasBit
  rw [packed_flag (clean.inside width) (maskOf_flag width known)]

theorem low_pageSize : (low value pageSize).toNat = value.toNat % 4096 := toNat_and_low value

theorem low_pageSize_eq_zero : low value pageSize = 0#64 ↔ value.toNat % 4096 = 0 := by
  rw [← BitVec.toNat_inj, low_pageSize]
  rfl

theorem low_windowBytes_eq_zero : low value windowBytes = 0#64 ↔ value.toNat % 2097152 = 0 := by
  have low_ : (low value windowBytes).toNat = value.toNat % 2 ^ 21 :=
    @toNat_and_mask value 21 (by decide)
  rw [← BitVec.toNat_inj, low_]
  rfl

end Masks

section Addresses

variable {address : Word}

theorem pml4Index_eq (address : Word) : pml4Index address = address.toNat / 2 ^ 39 % 512 :=
  toNat_field address 39

theorem pdptIndex_eq (address : Word) : pdptIndex address = address.toNat / 2 ^ 30 % 512 :=
  toNat_field address 30

theorem pageDirectoryIndex_eq (address : Word) : pageDirectoryIndex address = address.toNat / 2 ^ 21 % 512 :=
  toNat_field address 21

theorem pageTableIndex_eq (address : Word) : pageTableIndex address = address.toNat / 2 ^ 12 % 512 :=
  toNat_field address 12

theorem isCanonical48_iff : isCanonical48 address = true ↔
    address.toNat < 2 ^ 47 ∨ 2 ^ 64 - 2 ^ 47 ≤ address.toNat := by
  have bit : address &&& 0x800000000000#64 = 0#64 ↔ address.toNat / 2 ^ 47 % 2 = 0 :=
    @and_twoPow_eq_zero address 47 (by decide)
  have upper : ∀ value, value < 2 ^ 64 →
      (address >>> 48 = BitVec.ofNat 64 value ↔ address.toNat / 2 ^ 48 = value) := by
    intro value less
    rw [← BitVec.toNat_inj, BitVec.toNat_ushiftRight, BitVec.toNat_ofNat, Nat.mod_eq_of_lt less,
      Nat.shiftRight_eq_div_pow]
  unfold isCanonical48
  split
  · rename_i clear
    rw [bit] at clear
    rw [beq_iff_eq, upper 0 (by decide)]
    omega
  · rename_i set_
    rw [bit] at set_
    rw [beq_iff_eq, upper 0xffff (by decide)]
    omega

end Addresses

section Mappings

variable {mapping : Mapping} {mappings : List Mapping} {first last offset : Nat}

/-- The mappings follow each other from `first` to `last`, with pages that can be read and are not
both writable and executable. -/
def Chain (first last : Nat) : List Mapping → Prop
  | [] => first = last
  | mapping :: rest => (mapping.virtualOffset = first ∧ 0 < mapping.byteCount ∧
      mapping.byteCount % 4096 = 0 ∧ ¬ (mapping.permissions.write = true ∧ mapping.permissions.execute = true)) ∧
      Chain (first + mapping.byteCount) last rest

section

variable (chain : Chain first last mappings)
include chain

theorem Chain.le : first ≤ last := by
  induction mappings generalizing first with
  | nil => exact Nat.le_of_eq chain
  | cons mapping rest ih =>
    have later := ih chain.2
    omega

theorem Chain.bounds (member : mapping ∈ mappings)
    (holds : mapping.Holds offset) : first ≤ offset ∧ offset < last := by
  induction mappings generalizing first with
  | nil => exact nomatch member
  | cons head rest ih =>
    obtain ⟨⟨start, _, _, _⟩, tail⟩ := chain
    rcases List.mem_cons.mp member with rfl | later
    · have reach := tail.le
      obtain ⟨after, before⟩ := holds
      omega
    · have bounds := ih tail later
      omega

/-- A mapping that holds the offset is the one that `mapping_for_offset` finds. -/
theorem Chain.find (member : mapping ∈ mappings) (holds : mapping.Holds offset) :
    mappings.find? (fun mapping => mapping.Holds offset) = some mapping := by
  induction mappings generalizing first with
  | nil => exact nomatch member
  | cons head rest ih =>
    obtain ⟨⟨start, _, _, _⟩, tail⟩ := chain
    rcases List.mem_cons.mp member with rfl | later
    · rw [List.find?_cons_of_pos (by simpa using holds)]
    · have bounds := tail.bounds later holds
      have other : ¬ head.Holds offset := by
        rintro ⟨_, before⟩
        omega
      rw [List.find?_cons_of_neg (by simpa using other)]
      exact ih tail later

theorem Chain.exists (after : first ≤ offset) (before : offset < last) :
    ∃ mapping ∈ mappings, mapping.Holds offset := by
  induction mappings generalizing first with
  | nil =>
    have same : first = last := chain
    omega
  | cons head rest ih =>
    obtain ⟨⟨start, _, _, _⟩, tail⟩ := chain
    by_cases within : offset < first + head.byteCount
    · exact ⟨head, List.mem_cons_self .., by omega, by omega⟩
    · obtain ⟨mapping, member, holds⟩ := ih tail (by omega)
      exact ⟨mapping, List.mem_cons_of_mem _ member, holds⟩

theorem Chain.safe (member : mapping ∈ mappings) :
    ¬ (mapping.permissions.write = true ∧ mapping.permissions.execute = true) := by
  induction mappings generalizing first with
  | nil => exact nomatch member
  | cons head rest ih =>
    obtain ⟨⟨_, _, _, safe⟩, tail⟩ := chain
    rcases List.mem_cons.mp member with rfl | later
    · exact safe
    · exact ih tail later

/-- An offset and the start of its page are held by the same mapping. -/
theorem Chain.holds_page (aligned : first % 4096 = 0)
    (member : mapping ∈ mappings) : mapping.Holds offset ↔ mapping.Holds (offset / 4096 * 4096) := by
  induction mappings generalizing first with
  | nil => exact nomatch member
  | cons head rest ih =>
    obtain ⟨⟨start, _, whole, _⟩, tail⟩ := chain
    rcases List.mem_cons.mp member with rfl | later
    · unfold Mapping.Holds
      omega
    · exact ih tail (by omega) later

end

end Mappings

section Requests

variable {request : Request} {addresses : TableAddresses} {summary : Summary} {bits : Nat}

/-- What the checks of the addresses and sizes guarantee. -/
structure PlacedWell (request : Request) : Prop where
  nonzero : request.physicalBase ≠ 0#64
  aligned : request.physicalBase.toNat % 4096 = 0
  fits : request.physicalBase.toNat + request.imageBytes ≤ 2 ^ request.physicalAddressBits
  above : minVirtualBase.toNat ≤ request.virtualBase.toNat
  below : request.virtualBase.toNat < maxVirtualExclusive.toNat
  window : request.virtualBase.toNat % 2097152 = 0
  small : request.imageBytes ≤ 2097152
  pages : request.pageCount * 4096 = request.imageBytes

theorem spec_checkPlacement : Spec (checkPlacement request) (fun _ => PlacedWell request) Refusal := by
  unfold checkPlacement rangeEnd
  simp only [spec_bind, spec_pure]
  refine spec_require (fun physical => ?_)
  refine spec_addOr (fun _ => ?_)
  refine spec_require (fun fits => ?_)
  refine spec_require (fun virtual_ => ?_)
  refine spec_require (fun size => ?_)
  refine spec_require (fun pages => ?_)
  refine spec_addOr (fun _ => ?_)
  refine spec_require (fun _ => spec_require (fun _ => spec_require (fun _ => ?_)))
  simp only [not_or, not_not, ne_eq, low_pageSize_eq_zero, low_windowBytes_eq_zero] at physical virtual_
  simp only [not_or, not_not, MultipleOf] at size
  have unit : pageSize = 4096 := rfl
  have window : windowBytes = 2097152 := rfl
  rw [unit] at pages size
  exact ⟨physical.1, physical.2, Nat.le_of_not_lt fits, by omega, by omega, by omega, by omega, by omega⟩

/-- What the checks of the table addresses guarantee. -/
structure TabledWell (bits : Nat) (addresses : TableAddresses) : Prop where
  clean : ∀ value ∈ tableValues addresses, value ≠ 0#64 ∧ Clean bits value
  apart : (tableValues addresses).Pairwise (· ≠ ·)

theorem spec_checkTables (width : Width bits) :
    Spec (checkTables request addresses (maskOf bits)) (fun _ => TabledWell bits addresses) Refusal := by
  unfold checkTables
  rw [spec_bind]
  refine Spec.imp (spec_forM ?_ :
    Spec _ (fun _ => ∀ value ∈ tableValues addresses, value ≠ 0#64 ∧ Clean bits value) _) ?_
  · intro value _
    refine spec_require (fun fine => ?_)
    simp only [not_or, not_not, ne_eq] at fine
    exact ⟨fine.1, clean_of_mask width fine.2.2⟩
  intro _ clean
  have next : ∀ value ∈ tableValues addresses, value.toNat + pageSize < u64Values := by
    intro value member
    have below := (clean value member).2.2
    have limit : 2 ^ bits ≤ 2 ^ 52 := Nat.pow_le_pow_right (by decide) width.2
    have unit : pageSize = 4096 := rfl
    have wide := word_sizes.2
    omega
  simp only [spec_bind]
  refine spec_plus (next addresses.candidateRoot (by simp [tableValues])) ?_
  refine spec_require (fun _ => ?_)
  refine spec_plus (next addresses.pdpt (by simp [tableValues])) ?_
  refine spec_require (fun _ => ?_)
  refine spec_plus (next addresses.pageDirectory (by simp [tableValues])) ?_
  refine spec_require (fun _ => ?_)
  refine spec_plus (next addresses.pageTable (by simp [tableValues])) ?_
  refine spec_require (fun _ => ?_)
  refine spec_require (fun apart => ?_)
  refine spec_require (fun _ => ?_)
  exact ⟨clean, apart⟩

/-- One round of the loop over the mappings. -/
theorem spec_checkMapping {mapping : Mapping} (tally : Tally) :
    Spec (checkMapping request tally mapping) (fun after =>
      (mapping.virtualOffset = tally.expectedOffset ∧ 0 < mapping.byteCount ∧ mapping.byteCount % 4096 = 0 ∧
        ¬ (mapping.permissions.write = true ∧ mapping.permissions.execute = true)) ∧
      after.expectedOffset = tally.expectedOffset + mapping.byteCount) Refusal := by
  unfold checkMapping
  simp only [spec_bind, spec_pure]
  refine spec_require (fun aligned => ?_)
  refine spec_require (fun start => ?_)
  refine spec_require (fun _ => spec_require (fun safe => ?_))
  refine spec_addOr (fun _ => spec_require (fun _ => ?_))
  refine spec_addOr (fun _ => spec_addOr (fun _ => spec_require (fun _ => ?_)))
  simp only [not_or, not_not, MultipleOf] at aligned
  exact ⟨⟨start, by omega, aligned.2.2, safe⟩, rfl⟩

theorem spec_checkMappings (mappings : List Mapping) (tally : Tally) :
    Spec (mappings.foldlM (checkMapping request) tally)
      (fun after => Chain tally.expectedOffset after.expectedOffset mappings) Refusal := by
  induction mappings generalizing tally with
  | nil => exact rfl
  | cons mapping rest ih =>
    rw [List.foldlM_cons, spec_bind]
    refine (spec_checkMapping tally).imp (fun next fine => ?_)
    refine (ih next).imp (fun after chain => ⟨fine.1, ?_⟩)
    rw [← fine.2]
    exact chain

/-- What `request_summary` guarantees. -/
structure Accepted (request : Request) (addresses : TableAddresses) (summary : Summary) : Prop where
  width : Width request.physicalAddressBits
  placed : PlacedWell request
  tables : TabledWell request.physicalAddressBits addresses
  chain : Chain 0 request.imageBytes request.active
  root : summary.pml4Index = 511
  pdpt : summary.pdptIndex = 510
  directory : summary.pageDirectoryIndex = pageDirectoryIndex request.virtualBase
  leaf : summary.firstPageTableIndex = 0

theorem PlacedWell.root (placed : PlacedWell request) : pml4Index request.virtualBase = 511 := by
  have above := placed.above
  have below := placed.below
  simp only [minVirtualBase, maxVirtualExclusive, BitVec.toNat_ofNat] at above below
  rw [pml4Index_eq]
  omega

theorem PlacedWell.pdpt (placed : PlacedWell request) : pdptIndex request.virtualBase = 510 := by
  have above := placed.above
  have below := placed.below
  simp only [minVirtualBase, maxVirtualExclusive, BitVec.toNat_ofNat] at above below
  rw [pdptIndex_eq]
  omega

theorem PlacedWell.leaf (placed : PlacedWell request) : pageTableIndex request.virtualBase = 0 := by
  have window := placed.window
  rw [pageTableIndex_eq]
  omega

theorem spec_requestSummary : Spec (requestSummary request addresses) (Accepted request addresses) Refusal := by
  unfold requestSummary physicalMask
  simp only [spec_bind, spec_pure]
  refine spec_require (fun width => ?_)
  refine spec_checkPlacement.imp (fun _ placed => ?_)
  refine (spec_checkTables width).imp (fun _ tables => ?_)
  refine (spec_checkMappings _ _).imp (fun tally chain => ?_)
  refine spec_require (fun whole => spec_require (fun _ => ?_))
  rw [whole] at chain
  exact ⟨width, placed, tables, chain, placed.root, placed.pdpt, rfl, placed.leaf⟩

end Requests

end PooleOS.Kmap
