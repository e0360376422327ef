import PooleOS.Pmm.Ops

/- The manager is built from the boot memory map. -/
namespace PooleOS.Pmm

variable {E : Type}

section Construction

namespace Manager

/-- `append_free_extent`, before any arena exists. -/
def appendFreeExtent (s : Manager) (extent : PageExtent) : Except Error Manager :=
  let previous := freeAt s.free (s.free.length - 1)
  if s.free.length ≠ 0 ∧ canCoalesce previous extent then do
    let pageCount ← orError (checkedAdd u64Values previous.pageCount extent.pageCount) .addressRange
    return s.setFree (s.free.set (s.free.length - 1) { previous with pageCount := pageCount })
  else if s.free.length = s.ledgerCapacities.free then .error .extentCapacity
  else .ok (s.setFree (s.free ++ [extent]))

/-- Pages that come under management, if there are any. -/
def appendManaged (s : Manager) (startPage pages : Nat) (zone : Zone) : Except Error Manager :=
  if pages = 0 then .ok s
  else do
    let s ← s.appendFreeExtent ⟨startPage, pages, zone⟩
    let managed ← orError (checkedAdd u64Values (s.managedPages zone) pages) .addressRange
    return { s with managedPages := Function.update s.managedPages zone managed }

/-- The part of a usable record that lies in one zone, without page zero. -/
def appendGuarded (s : Manager) (startPage pages : Nat) (zone : Zone) : Except Error Manager :=
  if startPage = 0 then { s with nullGuardPages := 1 }.appendManaged 1 (pages - 1) zone
  else s.appendManaged startPage pages zone

/-- How many pages of a range lie in the zone of its first one. -/
def takeFrom (startPage pages : Nat) : Nat := min pages (zoneEndPage (zoneForPage startPage) - startPage)

def appendUsable (s : Manager) (startPage pages : Nat) : Except Error Manager :=
  if pages = 0 then .ok s
  else if _nothing : takeFrom startPage pages = 0 then .error .addressRange
  else do
    let zone := zoneForPage startPage
    let take := takeFrom startPage pages
    let usable ← orError (checkedAdd u64Values (s.sourceUsablePages zone) take) .addressRange
    let s ← { s with sourceUsablePages := Function.update s.sourceUsablePages zone usable
      }.appendGuarded startPage take zone
    let startPage ← orError (checkedAdd u64Values startPage take) .addressRange
    appendUsable s startPage (pages - take)
termination_by pages
decreasing_by
  unfold takeFrom at *
  omega

end Manager

/-- The memory map record of a handoff. -/
structure MemoryMap where
  elementCount : Nat
  elementSize : Nat
  payload : Bytes
deriving DecidableEq, Repr

/-- The fields of the core record that name memory of the loader. -/
structure CoreRecord where
  kernelPhysicalBase : Nat
  kernelPhysicalSize : Nat
  pageTableRootPhysical : Nat
  handoffPhysicalBase : Nat
  handoffByteCount : Nat
deriving DecidableEq, Repr

def readBytes (width : Nat) (bytes : Bytes) (offset : Nat) : Except Error Nat := do
  let value ← orError (bytes.range? offset (offset + width)) Error.entryShape
  return value.little

def readU32 (bytes : Bytes) (offset : Nat) : Except Error Nat := readBytes 4 bytes offset

def readU64 (bytes : Bytes) (offset : Nat) : Except Error Nat := readBytes 8 bytes offset

def sourceMatchesKind (source kind : Nat) : Bool :=
  match source, kind with
  | 0, 0 | 13, 0 | 15, 0 => true
  | 1, 10 | 2, 10 => true
  | 3, 2 | 4, 2 => true
  | 5, 3 => true
  | 6, 4 => true
  | 7, 1 => true
  | 8, 9 => true
  | 9, 5 => true
  | 10, 6 => true
  | 11, 7 | 12, 7 => true
  | 14, 8 => true
  | _, _ => false

/-- One entry of the map as it is read: its record and where it ends. -/
def readEntry (payload : Bytes) (previousEnd index : Nat) : Except Error (SourceRecord × Nat) := do
  let base := index * memoryEntryBytes
  let start ← readU64 payload base
  let pages ← readU64 payload (base + 8)
  let kind ← readU32 payload (base + 24)
  let source ← readU32 payload (base + 28)
  let reserved ← readU64 payload (base + 32)
  demand (¬ (¬ MultipleOf pageBytes start ∨ pages = 0 ∨ memoryKindCount ≤ kind)) .entryValue
  demand (¬ (reserved ≠ 0 ∨ sourceMatchesKind source kind = false)) .sourceKind
  let bytes ← orError (checkedMul u64Values pages pageBytes) .addressRange
  let stop ← orError (checkedAdd u64Values start bytes) .addressRange
  demand (¬ (index ≠ 0 ∧ start < previousEnd)) .entryOrder
  return (⟨start / pageBytes, pages, kind, source⟩, stop)

/-- One round of the loop of `from_handoff`, with the end of the previous entry. -/
def acceptEntry (payload : Bytes) (state : Manager × Nat) (index : Nat) : Except Error (Manager × Nat) := do
  let s := state.1
  let (record, stop) ← readEntry payload state.2 index
  let s := s.setTables { s.tables with sources := s.sources ++ [record] }
  let total ← orError (checkedAdd u64Values (s.sourcePages record.kind) record.pageCount) Error.addressRange
  let s := { s with sourcePages := Function.update s.sourcePages record.kind total }
  if record.kind = memoryUsable then
    return (← s.appendUsable record.startPage record.pageCount, stop)
  else return (s, stop)

/-- One round of the loop of `range_has_kind`: how far the range is covered, or the verdict. -/
def coverStep (payload : Bytes) (stop kind : Nat) (covered : Nat ⊕ Bool) (index : Nat) : Except Error (Nat ⊕ Bool) :=
  match covered with
  | .inr verdict => .ok (.inr verdict)
  | .inl covered => do
      let base := index * memoryEntryBytes
      let entryStart ← readU64 payload base
      let pages ← readU64 payload (base + 8)
      let entryKind ← readU32 payload (base + 24)
      let bytes ← orError (checkedMul u64Values pages pageBytes) .addressRange
      let entryEnd ← orError (checkedAdd u64Values entryStart bytes) .addressRange
      if entryEnd ≤ covered ∨ covered < entryStart then return .inl covered
      else if entryKind ≠ kind then return .inr false
      else if min entryEnd stop = stop then return .inr true
      else return .inl (min entryEnd stop)

def rangeHasKind (payload : Bytes) (start bytes kind : Nat) : Except Error Bool :=
  if bytes = 0 ∨ ¬ MultipleOf pageBytes start then .ok false
  else do
    let stop ← orError (checkedAdd u64Values start bytes) .addressRange
    let rounds := (payload.length + memoryEntryBytes - 1) / memoryEntryBytes
    match ← (List.range rounds).foldlM (coverStep payload stop kind) (.inl start) with
    | .inr verdict => return verdict
    | .inl _ => return false

def auditCoreOwnership (payload : Bytes) (core : CoreRecord) : Except Error Unit := do
  demand ((← rangeHasKind payload core.kernelPhysicalBase core.kernelPhysicalSize
    memoryLoaderReserved) = true) .coreOwnership
  demand ((← rangeHasKind payload core.handoffPhysicalBase core.handoffByteCount
    memoryLoaderReserved) = true) .coreOwnership
  demand ((← rangeHasKind payload core.pageTableRootPhysical pageBytes memoryLoaderReserved) = true)
    .coreOwnership

/-- `from_handoff`, given what `handoff.record(RECORD_MEMORY_MAP)` returns. -/
def fromHandoff (record : Option MemoryMap) (core : CoreRecord) (quotaPages : Nat) : Except Error Manager := do
  let map ← orError record .missingMap
  demand (¬ (map.elementCount = 0 ∨ maxMemoryEntries < map.elementCount)) .entryCount
  demand (¬ (map.elementSize ≠ memoryEntryBytes ∨ map.payload.length ≠ map.elementCount * memoryEntryBytes)) .entryShape
  let state ← (List.range map.elementCount).foldlM (acceptEntry map.payload)
    (Manager.empty quotaPages, 0)
  auditCoreOwnership map.payload core
  return state.1

end Construction

end PooleOS.Pmm
