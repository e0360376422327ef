import PooleOS.Lib.Grid
import PooleOS.Lib.Panic
import PooleOS.Lib.Sorting

/- The memory map that the loader hands over (`livehandoff/src/lib.rs`): the descriptors of the firmware as
sorted entries, and the test that loader memory covers a range. The entries are a list; `output` is the
buffer that holds them, and its bytes are read and moved as the list is. -/
namespace PooleOS.LiveHandoff

open List

inductive Error
  | descriptorSize
  | descriptorVersion
  | memoryMapShape
  | memoryType
  | memoryRange
  | memoryOverlap
  | scratchCapacity
  | retainedCoverage
deriving DecidableEq, Repr

def uefiDescriptorVersion : Nat := 1
def minDescriptorBytes : Nat := 40
def maxDescriptorBytes : Nat := 256
def maxMemoryEntries : Nat := 16384
def memoryEntryBytes : Nat := 40
def pageBytes : Nat := 4096

def memoryReserved : Nat := 0
def memoryUsable : Nat := 1
def memoryBootReclaimable : Nat := 2
def memoryRuntimeCode : Nat := 3
def memoryRuntimeData : Nat := 4
def memoryAcpiReclaimable : Nat := 5
def memoryAcpiNvs : Nat := 6
def memoryMmio : Nat := 7
def memoryPersistent : Nat := 8
def memoryUnusable : Nat := 9
def memoryLoaderReserved : Nat := 10

structure MemoryEntry where
  start : Nat
  pages : Nat
  attributes : Nat
  kind : Nat
  sourceType : Nat
deriving DecidableEq, Repr

section Model

def readWord (width : Nat) (bytes : Bytes) (offset : Nat) : Except Error Nat := do
  let value ← orError (bytes.range? offset (offset + width)) Error.memoryMapShape
  return value.little

def readU32 : Bytes → Nat → Except Error Nat := readWord 4
def readU64 : Bytes → Nat → Except Error Nat := readWord 8

def normalizedKind (sourceType : Nat) : Except Error Nat :=
  match sourceType with
  | 0 | 13 | 15 => .ok memoryReserved
  | 1 | 2 => .ok memoryLoaderReserved
  | 3 | 4 => .ok memoryBootReclaimable
  | 5 => .ok memoryRuntimeCode
  | 6 => .ok memoryRuntimeData
  | 7 => .ok memoryUsable
  | 8 => .ok memoryUnusable
  | 9 => .ok memoryAcpiReclaimable
  | 10 => .ok memoryAcpiNvs
  | 11 | 12 => .ok memoryMmio
  | 14 => .ok memoryPersistent
  | _ => .error .memoryType

/-- `start.checked_add(pages.checked_mul(PAGE_BYTES)?)?`. -/
def checkedEnd (start pages : Nat) (reason : Error) : Except Error Nat := do
  let byteCount ← orError (checkedMul u64Values pages pageBytes) reason
  orError (checkedAdd u64Values start byteCount) reason

/-- One round of the loop over the descriptors. -/
def normalizeDescriptor (descriptor : Bytes) : Except Error MemoryEntry := do
  let sourceType ← readU32 descriptor 0
  let start ← readU64 descriptor 8
  let pages ← readU64 descriptor 24
  let attributes ← readU64 descriptor 32
  demand (MultipleOf pageBytes start ∧ pages ≠ 0) .memoryRange
  let _ ← checkedEnd start pages .memoryRange
  let kind ← normalizedKind sourceType
  return ⟨start, pages, attributes, kind, sourceType⟩

def descriptors (raw : Bytes) (descriptorSize : Nat) : List Bytes :=
  (List.range (raw.length / descriptorSize)).map fun index => raw.slice (index * descriptorSize) descriptorSize

/-- One round of the last loop, with the end of the previous entry. -/
def checkOverlap (previousEnd : Nat) : MemoryEntry × Nat → Except Error Nat
  | (entry, index) => do
    let stop ← checkedEnd entry.start entry.pages .memoryRange
    demand (¬ (index ≠ 0 ∧ entry.start < previousEnd)) .memoryOverlap
    return stop

/-- `normalize_memory_map`, with the size of the output: the entries that it leaves there. -/
def normalizeMemoryMap (raw : Bytes) (descriptorSize descriptorVersion outputBytes : Nat) :
    Except Error (List MemoryEntry) := do
  demand ((minDescriptorBytes ≤ descriptorSize ∧ descriptorSize ≤ maxDescriptorBytes) ∧ MultipleOf 8 descriptorSize)
    .descriptorSize
  demand (descriptorVersion = uefiDescriptorVersion) .descriptorVersion
  demand (raw ≠ [] ∧ MultipleOf descriptorSize raw.length) .memoryMapShape
  let count := raw.length / descriptorSize
  demand (count ≠ 0 ∧ count ≤ maxMemoryEntries) .memoryMapShape
  let required ← orError (checkedMul u64Values count memoryEntryBytes) .scratchCapacity
  demand (required ≤ outputBytes) .scratchCapacity
  let written ← (descriptors raw descriptorSize).mapM normalizeDescriptor
  let entries := insertionSort MemoryEntry.start written
  let _ ← entries.zipIdx.foldlM checkOverlap 0
  return entries

/-- The loop of `loader_range_covered`: the range is covered up to the cursor. -/
def coveredFrom (stop : Nat) : Nat → List MemoryEntry → Except Error Bool
  | _, [] => .ok false
  | cursor, entry :: rest => do
    let entryEnd ← checkedEnd entry.start entry.pages .retainedCoverage
    if cursor < entry.start then .ok false
    else if entryEnd ≤ cursor then coveredFrom stop cursor rest
    else if entry.kind ≠ memoryLoaderReserved then .ok false
    else if min entryEnd stop = stop then .ok true
    else coveredFrom stop (min entryEnd stop) rest

def loaderRangeCovered (normalized : List MemoryEntry) (start byteCount : Nat) : Except Error Bool := do
  let stop ← orError (checkedAdd u64Values start byteCount) .retainedCoverage
  coveredFrom stop start normalized

end Model

section Normalized

def MemoryEntry.stop (entry : MemoryEntry) : Nat := entry.start + entry.pages * pageBytes

/-- The entry that a descriptor is mapped to. -/
structure Describes (descriptor : Bytes) (entry : MemoryEntry) : Prop where
  start : entry.start = descriptor.word 8 8
  pages : entry.pages = descriptor.word 24 8
  attributes : entry.attributes = descriptor.word 32 8
  sourceType : entry.sourceType = descriptor.word 0 4
  kind : normalizedKind entry.sourceType = .ok entry.kind

/-- An entry has pages, and its end is a word. -/
structure Fits (entry : MemoryEntry) : Prop where
  filled : 0 < entry.pages
  small : entry.stop < u64Values

/-- The entries are those of the descriptors, in order and apart. -/
structure Normalized (raw : Bytes) (descriptorSize : Nat) (entries : List MemoryEntry) : Prop where
  mapped : ∃ written, List.Forall₂ Describes (descriptors raw descriptorSize) written ∧ entries.Perm written
  sorted : entries.Pairwise fun first second => first.start ≤ second.start
  disjoint : entries.Pairwise fun first second => first.stop ≤ second.start
  fits : ∀ entry ∈ entries, Fits entry

variable {entry : MemoryEntry} {reason : Error}

theorem checkedEnd_eq_ok {start pages stop : Nat} : checkedEnd start pages reason = .ok stop ↔
    start + pages * pageBytes < u64Values ∧ stop = start + pages * pageBytes := by
  unfold checkedEnd
  simp only [bind_eq_ok_iff, orError_eq_ok, checkedMul_eq_some, checkedAdd_eq_some]
  constructor
  · rintro ⟨_, ⟨_, rfl⟩, small, rfl⟩
    exact ⟨small, rfl⟩
  · rintro ⟨small, rfl⟩
    exact ⟨_, ⟨by omega, rfl⟩, small, rfl⟩

theorem Fits.checkedEnd (fits : Fits entry) : checkedEnd entry.start entry.pages reason = .ok entry.stop :=
  checkedEnd_eq_ok.mpr ⟨fits.small, rfl⟩

theorem readWord_eq_ok {width offset value : Nat} {bytes : Bytes} (read : readWord width bytes offset = .ok value) :
    value = bytes.word offset width := by
  unfold readWord at read
  simp only [bind_eq_ok_iff, orError_eq_ok, Bytes.range?_eq_some, pure_eq_ok] at read
  obtain ⟨_, ⟨_, _, rfl⟩, rfl⟩ := read
  rw [Nat.add_sub_cancel_left]
  rfl

theorem normalizeDescriptor_describes {descriptor : Bytes} (made : normalizeDescriptor descriptor = .ok entry) :
    Describes descriptor entry ∧ Fits entry := by
  unfold normalizeDescriptor at made
  simp only [bind_eq_ok_iff, demand_eq_ok, checkedEnd_eq_ok, pure_eq_ok] at made
  obtain ⟨sourceType, type, start, first, pages, many, attributes, flags, _, ⟨_, some⟩, _, ⟨small, -⟩, kind, known, rfl⟩ := made
  exact ⟨⟨readWord_eq_ok first, readWord_eq_ok many, readWord_eq_ok flags, readWord_eq_ok type, known⟩,
    Nat.pos_of_ne_zero some, small⟩

theorem written_describes : ∀ {items : List Bytes} {written : List MemoryEntry},
    items.mapM normalizeDescriptor = .ok written → List.Forall₂ Describes items written ∧ ∀ entry ∈ written, Fits entry
  | [], _, made => by
      obtain rfl := Except.ok.inj made
      exact ⟨.nil, nofun⟩
  | descriptor :: rest, _, made => by
      rw [mapM_cons] at made
      simp only [bind_eq_ok_iff, pure_eq_ok] at made
      obtain ⟨entry, first, others, later, rfl⟩ := made
      obtain ⟨describes, fits⟩ := normalizeDescriptor_describes first
      obtain ⟨all, good⟩ := written_describes later
      exact ⟨.cons describes all, forall_mem_cons.mpr ⟨fits, good⟩⟩

/-- The check of each entry against the one before it tells all of them apart. -/
theorem checked_disjoint : ∀ {entries : List MemoryEntry} {previousEnd index last : Nat}, (∀ entry ∈ entries, Fits entry) →
    (index = 0 → previousEnd = 0) → (entries.zipIdx index).foldlM checkOverlap previousEnd = .ok last →
      (∀ entry ∈ entries, previousEnd ≤ entry.start) ∧ entries.Pairwise fun first second => first.stop ≤ second.start
  | [], _, _, _, _, _, _ => ⟨nofun, .nil⟩
  | entry :: rest, previousEnd, index, last, fits, first, checked => by
      obtain ⟨here, others⟩ := forall_mem_cons.mp fits
      rw [zipIdx_cons, foldlM_cons] at checked
      obtain ⟨stop, passed, later⟩ := bind_eq_ok checked
      unfold checkOverlap at passed
      simp only [here.checkedEnd, ok_bind, demand_bind_eq_ok, pure_eq_ok] at passed
      obtain ⟨apart, rfl⟩ := passed
      obtain ⟨above, disjoint⟩ := checked_disjoint others (fun zero => absurd zero (Nat.succ_ne_zero _)) later
      have low : previousEnd ≤ entry.start := by omega
      have long : entry.start ≤ entry.stop := Nat.le_add_right ..
      exact ⟨forall_mem_cons.mpr ⟨low, fun other member => low.trans (long.trans (above other member))⟩,
        pairwise_cons.mpr ⟨above, disjoint⟩⟩

end Normalized

section Buffer

/-- What the writes of an entry leave in its 40 zeros. -/
def MemoryEntry.bytes (entry : MemoryEntry) : Bytes :=
  .ofWord 8 entry.start ++ .ofWord 8 entry.pages ++ .ofWord 8 entry.attributes ++ .ofWord 4 entry.kind ++
    .ofWord 4 entry.sourceType ++ .replicate 8 0

def output (entries : List MemoryEntry) : Bytes := entries.flatMap MemoryEntry.bytes

def entryStart (bytes : Bytes) (index : Nat) : Except Error Nat := readU64 bytes (index * memoryEntryBytes)

/-- `bytes.swap(left, right)`, of two bytes that are there. -/
def swapByte (bytes : Bytes) (left right : Nat) : Bytes :=
  (bytes.set left (bytes.getD right 0)).set right (bytes.getD left 0)

def swapEntries (bytes : Bytes) (left right : Nat) : Bytes :=
  if left = right then bytes
  else (List.range memoryEntryBytes).foldl (fun bytes offset =>
    swapByte bytes (left * memoryEntryBytes + offset) (right * memoryEntryBytes + offset)) bytes

/-- The loop that moves an entry of the buffer down. -/
def sinkEntry (bytes : Bytes) : Nat → Except Error Bytes
  | 0 => .ok bytes
  | cursor + 1 => do
    let left ← entryStart bytes cursor
    let right ← entryStart bytes (cursor + 1)
    if right < left then sinkEntry (swapEntries bytes cursor (cursor + 1)) cursor else return bytes

theorem bytes_length (entry : MemoryEntry) : entry.bytes.length = memoryEntryBytes := by
  simp only [MemoryEntry.bytes, length_append, Bytes.ofWord_length, length_replicate]
  rfl

theorem output_length (entries : List MemoryEntry) : (output entries).length = entries.length * memoryEntryBytes :=
  length_flatMap_width fun entry _ => bytes_length entry

theorem output_append (front : List MemoryEntry) (entry : MemoryEntry) (back : List MemoryEntry) :
    output (front ++ entry :: back) = output front ++ (.ofWord 8 entry.start ++ (.ofWord 8 entry.pages ++
      (.ofWord 8 entry.attributes ++ (.ofWord 4 entry.kind ++ (.ofWord 4 entry.sourceType ++
        (.replicate 8 0 ++ output back)))))) := by
  rw [output, flatMap_append, flatMap_cons, MemoryEntry.bytes]
  simp only [append_assoc]
  rfl

theorem swapByte_eq (front middle back : Bytes) (first second : UInt8) :
    swapByte (front ++ first :: (middle ++ second :: back)) front.length (front.length + middle.length + 1) =
      front ++ second :: (middle ++ first :: back) := by
  simp [swapByte, Nat.add_assoc]

/-- Two runs of one length change places, byte by byte. -/
theorem swap_runs : ∀ {left right : Bytes} (front between back : Bytes), left.length = right.length →
    (List.range left.length).foldl (fun bytes offset =>
      swapByte bytes (front.length + offset) (front.length + left.length + between.length + offset))
        (front ++ (left ++ (between ++ (right ++ back)))) = front ++ (right ++ (between ++ (left ++ back)))
  | [], [], _, _, _, _ => rfl
  | first :: left, second :: right, front, between, back, same => by
      have swapped := swapByte_eq front (left ++ between) (right ++ back) first second
      have later := swap_runs (front ++ [second]) (between ++ [first]) back (Nat.succ.inj same)
      rw [length_cons, range_succ_eq_map, foldl_cons, foldl_map]
      simp only [append_assoc, cons_append, nil_append, length_append, length_cons, length_nil, Nat.succ_eq_add_one,
        Nat.add_assoc, Nat.add_comm 1, Nat.add_zero, Nat.zero_add] at swapped later ⊢
      rw [swapped, later]

variable {front back : List MemoryEntry} {entry : MemoryEntry}

theorem readWord_output {bytes front back : Bytes} {width value offset : Nat}
    (same : bytes = front ++ (.ofWord width value ++ back)) (place : offset = front.length) (small : value < 256 ^ width) :
    readWord width bytes offset = .ok value := by
  subst same place
  unfold readWord
  rw [Bytes.range?_some (by omega) (by simp), orError_some, ok_bind, drop_left, Nat.add_sub_cancel_left,
    take_left' (Bytes.ofWord_length ..), Bytes.little_ofWord small]
  rfl

theorem normalizedKind_lt {sourceType kind : Nat} (known : normalizedKind sourceType = .ok kind) : kind < 256 ^ 4 := by
  unfold normalizedKind at known
  split at known <;> cases known <;> decide

theorem entryStart_output (small : entry.start < u64Values) :
    entryStart (output (front ++ entry :: back)) front.length = .ok entry.start :=
  readWord_output (output_append front entry back) (output_length front).symm small

/-- The other fields of an entry, where the readers of the buffer find them. -/
theorem fields_output {descriptor : Bytes} (describes : Describes descriptor entry) :
    let bytes := output (front ++ entry :: back)
    let base := front.length * memoryEntryBytes
    readU64 bytes (base + 8) = .ok entry.pages ∧ readU64 bytes (base + 16) = .ok entry.attributes ∧
      readU32 bytes (base + 24) = .ok entry.kind ∧ readU32 bytes (base + 28) = .ok entry.sourceType := by
  have pages := (output_append front entry back).trans (append_assoc ..).symm
  have attributes := pages.trans (append_assoc ..).symm
  have kind := attributes.trans (append_assoc ..).symm
  have sourceType := kind.trans (append_assoc ..).symm
  exact ⟨readWord_output pages (by simp [output_length]) (describes.pages ▸ Bytes.word_lt ..),
    readWord_output attributes (by simp [output_length]) (describes.attributes ▸ Bytes.word_lt ..),
    readWord_output kind (by simp [output_length]) (normalizedKind_lt describes.kind),
    readWord_output sourceType (by simp [output_length]) (describes.sourceType ▸ Bytes.word_lt ..)⟩

theorem swapEntries_output (left right : MemoryEntry) : swapEntries (output (front ++ left :: right :: back))
    front.length (front.length + 1) = output (front ++ right :: left :: back) := by
  have swapped := swap_runs (output front) [] (output back) ((bytes_length left).trans (bytes_length right).symm)
  rw [bytes_length, output_length] at swapped
  rw [swapEntries, if_neg (by omega), Nat.succ_mul]
  simp only [output, flatMap_append, flatMap_cons] at swapped ⊢
  exact swapped

theorem sinkEntry_output (front : List MemoryEntry) : ∀ {entry : MemoryEntry} (back : List MemoryEntry),
    (∀ other ∈ front, other.start < u64Values) → entry.start < u64Values →
      sinkEntry (output (front ++ entry :: back)) front.length =
        .ok (output (sink MemoryEntry.start (front ++ entry :: back) front.length)) := by
  induction front using reverseRecOn with
  | nil => exact fun _ _ _ => rfl
  | append_singleton front left ih =>
    intro entry back words small
    have low := @entryStart_output front (entry :: back) left (words left mem_concat_self)
    have high := @entryStart_output (front ++ [left]) back entry small
    have first : (front ++ left :: entry :: back)[front.length]? = some left := by simp
    have second : (front ++ left :: entry :: back)[front.length + 1]? = some entry := by simp
    have swapped : ((front ++ left :: entry :: back).set front.length entry).set (front.length + 1) left =
        front ++ entry :: left :: back := by simp
    rw [length_append, length_singleton, append_assoc, singleton_append] at high ⊢
    rw [sinkEntry, low, high, ok_bind, ok_bind, sink, first, second]
    dsimp only
    split
    · rw [swapEntries_output, swapped]
      exact ih (left :: back) (fun other member => words other (mem_append_left _ member)) small
    · rfl

/-- The sort of the buffer is the sort of its entries. -/
theorem sort_output : ∀ (back : List MemoryEntry) {front : List MemoryEntry},
    (∀ entry ∈ front ++ back, entry.start < u64Values) →
      (List.range' front.length back.length).foldlM sinkEntry (output (front ++ back)) =
        .ok (output ((List.range' front.length back.length).foldl (sink MemoryEntry.start) (front ++ back)))
  | [], _, _ => rfl
  | entry :: back, front, words => by
      have sunk := sinkEntry_output front back (fun other member => words other (mem_append_left _ member))
        (words entry (mem_append_right _ mem_cons_self))
      obtain ⟨low, high, rfl, same, -, -⟩ := @sink_eq _ _ _ MemoryEntry.start front entry back
      have later := @sort_output back (low ++ entry :: high) fun other member => words other (by grind)
      have long : (low ++ entry :: high).length = (low ++ high).length + 1 := by simp; omega
      rw [long, append_assoc, cons_append] at later
      rw [length_cons, range'_succ, foldlM_cons, foldl_cons, sunk, ok_bind, same, later]

/-- The buffer of the entries that were written is sorted to the buffer of the sorted entries. -/
theorem written_sorted {items : List Bytes} {written : List MemoryEntry} (made : items.mapM normalizeDescriptor = .ok written) :
    (List.range' 1 (written.length - 1)).foldlM sinkEntry (output written) =
      .ok (output (insertionSort MemoryEntry.start written)) := by
  have fits := (written_describes made).2
  cases written with
  | nil => rfl
  | cons first rest =>
    exact @sort_output rest [first] fun entry member => (Nat.le_add_right ..).trans_lt (fits entry member).small

end Buffer

section Coverage

/-- A byte of loader memory. -/
def Loaded (entries : List MemoryEntry) (byte : Nat) : Prop :=
  ∃ entry ∈ entries, entry.kind = memoryLoaderReserved ∧ entry.start ≤ byte ∧ byte < entry.stop

theorem loaded_cons {entry : MemoryEntry} {rest : List MemoryEntry} {byte : Nat} : Loaded (entry :: rest) byte ↔
    (entry.kind = memoryLoaderReserved ∧ entry.start ≤ byte ∧ byte < entry.stop) ∨ Loaded rest byte := by
  simp only [Loaded, mem_cons, exists_eq_or_imp]

theorem coveredFrom_iff {stop : Nat} : ∀ {entries : List MemoryEntry} {cursor : Nat}, (∀ entry ∈ entries, Fits entry) →
    (entries.Pairwise fun first second => first.stop ≤ second.start) → cursor < stop →
      (coveredFrom stop cursor entries = .ok true ↔ ∀ byte, cursor ≤ byte → byte < stop → Loaded entries byte)
  | [], cursor, _, _, less => by
      refine ⟨nofun, fun all => ?_⟩
      obtain ⟨_, absent, _⟩ := all cursor le_rfl less
      exact nomatch absent
  | entry :: rest, cursor, fits, disjoint, less => by
      obtain ⟨here, others⟩ := forall_mem_cons.mp fits
      obtain ⟨above, apart⟩ := pairwise_cons.mp disjoint
      have long : entry.start ≤ entry.stop := Nat.le_add_right ..
      -- no later entry holds a byte below the end of this one
      have beyond : ∀ byte, byte < entry.stop → ¬ Loaded rest byte := by
        rintro byte below ⟨other, member, _, low, _⟩
        exact absurd (above other member) (by omega)
      rw [coveredFrom, here.checkedEnd, ok_bind]
      simp only [loaded_cons]
      split
      · rename_i gap
        refine ⟨nofun, fun all => ?_⟩
        rcases all cursor le_rfl less with ⟨_, low, _⟩ | later
        · exact absurd gap (Nat.not_lt.mpr low)
        · exact absurd later (beyond cursor (by omega))
      · split
        · rename_i past
          rw [coveredFrom_iff others apart less]
          refine forall₃_congr fun byte low _ => ?_
          rw [or_iff_right fun inside => absurd inside.2.2 (by omega)]
        · split
          · rename_i foreign
            refine ⟨nofun, fun all => ?_⟩
            rcases all cursor le_rfl less with ⟨loader, _⟩ | later
            · exact absurd loader foreign
            · exact absurd later (beyond cursor (by omega))
          · rename_i loader
            rw [not_not] at loader
            split
            · exact ⟨fun _ byte low below => .inl ⟨loader, by omega, by omega⟩, fun _ => rfl⟩
            · rename_i short
              rw [min_eq_left (by omega), coveredFrom_iff others apart (by omega)]
              constructor
              · intro all byte low below
                by_cases inside : byte < entry.stop
                · exact .inl ⟨loader, by omega, inside⟩
                · exact .inr (all byte (by omega) below)
              · intro all byte low below
                exact (all byte (by omega) below).resolve_left fun inside => absurd inside.2.2 (by omega)

/-- The memory map is the descriptors, sorted and apart, and the test of a range is exact. -/
theorem memory_map_exact (raw : Bytes) (descriptorSize descriptorVersion outputBytes : Nat) :
    Spec (normalizeMemoryMap raw descriptorSize descriptorVersion outputBytes)
      (fun entries => Normalized raw descriptorSize entries ∧ ∀ start byteCount, 0 < byteCount →
        (loaderRangeCovered entries start byteCount = .ok true ↔
          ∀ byte, start ≤ byte → byte < start + byteCount → Loaded entries byte))
      (fun _ => True) := by
  cases made : normalizeMemoryMap raw descriptorSize descriptorVersion outputBytes with
  | error reason => trivial
  | ok entries =>
    unfold normalizeMemoryMap at made
    simp only [bind_eq_ok_iff, demand_eq_ok, exists_const, pure_eq_ok] at made
    obtain ⟨_, _, _, _, _, _, _, written, ran, _, checked, rfl⟩ := made
    obtain ⟨described, good⟩ := written_describes ran
    obtain ⟨perm, sorted⟩ := @insertionSort_sorted _ _ _ MemoryEntry.start written
    have fits : ∀ entry ∈ insertionSort MemoryEntry.start written, Fits entry :=
      fun entry member => good entry (perm.mem_iff.mp member)
    obtain ⟨-, disjoint⟩ := checked_disjoint fits (fun _ => rfl) checked
    refine ⟨⟨⟨written, described, perm⟩, sorted, disjoint, fits⟩, fun start byteCount some => ?_⟩
    unfold loaderRangeCovered
    by_cases small : start + byteCount < u64Values
    · have sum : checkedAdd u64Values start byteCount = .some (start + byteCount) := checkedAdd_eq_some.mpr ⟨small, rfl⟩
      rw [sum, orError_some, ok_bind, coveredFrom_iff fits disjoint (by omega)]
    · rw [checkedAdd_eq_none.mpr (Nat.le_of_not_lt small), orError_none, error_bind]
      -- the ends of entries are words, so none reaches the last byte of the range
      refine ⟨nofun, fun all => ?_⟩
      obtain ⟨entry, member, _, _, below⟩ := all (start + byteCount - 1) (by omega) (by omega)
      exact absurd (fits entry member).small (by omega)

end Coverage

end PooleOS.LiveHandoff
