import PooleOS.Elf.Model

/- What the checks make sure of. None of them panics: each offset that is added to
is inside the file by then, or was bounded by an earlier check. -/
namespace PooleOS.Elf

open Nat Function
open List
open Bytes (word)

variable {bytes : Bytes}

section Rules

variable {done : Nat → Prop} {error : Error}

theorem spec_toUsize {value : Nat} (pass : done value) : Spec (toUsize value error) done Refusal := by
  unfold toUsize
  rw [spec_bind]
  exact spec_require (fun _ => pass)

theorem spec_toU32 {value : Nat} (pass : done value) : Spec (toU32 value) done Refusal := by
  unfold toU32
  rw [spec_bind]
  exact spec_require (fun _ => pass)

variable {offset : Nat}

/-- A read that does not overflow returns the word, or the error where it leaves the file. -/
theorem spec_readWord {width : Nat} (small : offset + width < u64Values)
    (pass : offset + width ≤ bytes.length → done (word bytes offset width)) :
    Spec (readWord width bytes offset error) done Refusal := by
  unfold readWord
  rw [spec_bind]
  refine spec_plus small ?_
  rw [spec_bind]
  refine spec_orRefuse (fun source found => ?_)
  obtain ⟨_, inside, rfl⟩ := Bytes.range?_eq_some.mp found
  have same : offset + width - offset = width := by omega
  rw [spec_pure, same]
  exact pass inside

/-- A read inside the file returns the word. -/
theorem spec_readWord_inside {failed : Stop → Prop} {width : Nat}
    (small : bytes.length < u64Values) (inside : offset + width ≤ bytes.length)
    (pass : done (word bytes offset width)) : Spec (readWord width bytes offset error) done failed := by
  unfold readWord
  rw [spec_bind]
  refine spec_plus (by omega) ?_
  rw [spec_bind, Bytes.range?_some (Nat.le_add_right ..) inside]
  have same : offset + width - offset = width := by omega
  rw [same]
  exact pass

theorem spec_readI64 {done : Int → Prop} (small : offset + 8 < u64Values)
    (pass : offset + 8 ≤ bytes.length → done (asI64 (word bytes offset 8))) :
    Spec (readI64 bytes offset error) done Refusal := by
  unfold readI64
  rw [spec_bind]
  exact spec_readWord small pass

end Rules

section Headers

/-- The program header with this number, as the file has it. -/
def headerAt (bytes : Bytes) (index : Nat) : ProgramHeader :=
  let base := elfHeaderBytes + programHeaderBytes * index
  ⟨word bytes base 4, word bytes (base + 4) 4, word bytes (base + 8) 8, word bytes (base + 16) 8,
    word bytes (base + 24) 8, word bytes (base + 32) 8, word bytes (base + 40) 8, word bytes (base + 48) 8⟩

theorem spec_parseProgramHeader {done : ProgramHeader → Prop} {index : Nat} (few : index < 7)
    (pass : done (headerAt bytes index)) : Spec (parseProgramHeader bytes index) done Refusal := by
  have small : elfHeaderBytes + programHeaderBytes * index + 56 < u64Values := by
    unfold elfHeaderBytes programHeaderBytes u64Values
    omega
  unfold parseProgramHeader readU32 readU64
  simp only [spec_bind]
  refine spec_timesOr (fun _ => spec_addOr (fun _ => spec_toUsize ?_))
  refine spec_readWord (by omega) (fun _ => ?_)
  refine spec_plus (by omega) (spec_readWord (by omega) (fun _ => ?_))
  refine spec_plus (by omega) (spec_readWord (by omega) (fun _ => ?_))
  refine spec_plus (by omega) (spec_readWord (by omega) (fun _ => ?_))
  refine spec_plus (by omega) (spec_readWord (by omega) (fun _ => ?_))
  refine spec_plus (by omega) (spec_readWord (by omega) (fun _ => ?_))
  refine spec_plus (by omega) (spec_readWord (by omega) (fun _ => ?_))
  exact spec_plus (by omega) (spec_readWord (by omega) (fun _ => pass))

theorem spec_validateIdent {done : Unit → Prop} (long : elfHeaderBytes ≤ bytes.length) (pass : done ()) :
    Spec (validateIdent bytes) done Refusal := by
  have long' : 64 ≤ bytes.length := long
  unfold validateIdent
  simp only [spec_bind]
  refine spec_slice (by omega) (by omega) (spec_require (fun _ => ?_))
  refine spec_byteAt (by omega) (fun _ => spec_require (fun _ => ?_))
  refine spec_byteAt (by omega) (fun _ => spec_require (fun _ => ?_))
  refine spec_byteAt (by omega) (fun _ => spec_require (fun _ => ?_))
  refine spec_byteAt (by omega) (fun _ => spec_require (fun _ => ?_))
  refine spec_byteAt (by omega) (fun _ => spec_require (fun _ => ?_))
  exact spec_slice (by omega) (by omega) (spec_require (fun _ => pass))

/-- An accepted header is that of a short file, and the program headers have the expected types. -/
theorem spec_validateHeader : Spec (validateHeader bytes)
    (fun result => bytes.length ≤ maxFileBytes ∧ ∀ index, result.2 index = headerAt bytes index.val ∧
      (headerAt bytes index.val).segmentType = expectedTypes index) Refusal := by
  have wide : 64 < u64Values := by decide
  unfold validateHeader readU16 readU32 readU64
  simp only [spec_bind]
  refine spec_require (fun _ => spec_require (fun long => spec_require (fun short => ?_)))
  refine spec_validateIdent (Nat.le_of_not_lt long) ?_
  refine spec_readWord (by omega) (fun _ => spec_require (fun _ => ?_))
  refine spec_readWord (by omega) (fun _ => spec_require (fun _ => ?_))
  refine spec_readWord (by omega) (fun _ => spec_require (fun _ => ?_))
  refine spec_readWord (by omega) (fun _ => ?_)
  refine spec_readWord (by omega) (fun _ => spec_require (fun _ => ?_))
  refine spec_readWord (by omega) (fun _ => ?_)
  refine spec_readWord (by omega) (fun _ => spec_require (fun _ => ?_))
  refine spec_readWord (by omega) (fun _ => spec_require (fun _ => ?_))
  refine spec_readWord (by omega) (fun _ => spec_require (fun _ => ?_))
  refine spec_readWord (by omega) (fun _ => spec_require (fun _ => ?_))
  refine spec_readWord (by omega) (fun _ => ?_)
  refine spec_readWord (by omega) (fun _ => ?_)
  refine spec_readWord (by omega) (fun _ => spec_require (fun _ => ?_))
  refine spec_timesOr (fun _ => spec_addOr (fun _ => spec_require (fun _ => ?_)))
  have parsed : Spec ((finRange 7).foldlM (fun headers index => do
      let header ← parseProgramHeader bytes index.val
      require (SupportedType header.segmentType) .unsupportedSegment
      return update headers index header) (fun _ => ProgramHeader.empty))
      (fun headers => ∀ index, headers index = headerAt bytes index.val) Refusal := by
    have whole := @spec_foldlM _ _ _ Refusal (fun (headers : Fin 7 → ProgramHeader) (index : Fin 7) => do
      let header ← parseProgramHeader bytes index.val
      require (SupportedType header.segmentType) .unsupportedSegment
      return update headers index header)
      (fun rest headers => ∀ index, index ∉ rest → headers index = headerAt bytes index.val)
      (by
        intro index rest headers known
        simp only [spec_bind]
        refine spec_parseProgramHeader index.isLt (spec_require (fun _ => ?_))
        intro other later
        by_cases same : other = index
        · subst same
          rw [update_self]
        · rw [update_of_ne same]
          exact known other (by simp [same, later]))
      (finRange 7) (fun _ => ProgramHeader.empty)
      (fun index outside => absurd (mem_finRange index) outside)
    exact whole.imp (fun headers known index => known index not_mem_nil)
  refine parsed.imp (fun headers known => ?_)
  have typed : Spec ((finRange 7).forM (fun index =>
      require ((headers index).segmentType = expectedTypes index) Error.programHeaderOrder))
      (fun _ => ∀ index ∈ finRange 7, (headers index).segmentType = expectedTypes index) Refusal :=
    spec_forM (fun index _ => spec_require (fun same => same))
  refine typed.imp (fun _ same => ⟨Nat.le_of_not_lt short, fun index => ⟨known index, ?_⟩⟩)
  rw [← known index]
  exact same index (mem_finRange index)

end Headers

section Segments

variable {headers : Fin 7 → ProgramHeader} {loads : Fin 3 → ProgramHeader} {imageSize : Nat}

/-- The layout of the load segments: one after the other, in the file as in memory. -/
structure Laid (bytes : Bytes) (loads : Fin 3 → ProgramHeader) (imageSize : Nat) : Prop where
  first : (loads 0).offset = 0 ∧ (loads 0).virtualAddress = 0 ∧ (loads 0).fileSize = (loads 0).memorySize
  second : (loads 1).offset = (loads 0).memorySize ∧ (loads 1).virtualAddress = (loads 0).memorySize ∧
    (loads 1).fileSize = (loads 1).memorySize
  third : (loads 2).offset = (loads 2).virtualAddress ∧
    (loads 2).virtualAddress = (loads 0).memorySize + (loads 1).memorySize ∧
      (loads 2).fileSize ≤ (loads 2).memorySize
  file : (loads 2).offset + (loads 2).fileSize = bytes.length
  image : (loads 2).virtualAddress + (loads 2).memorySize = imageSize
  small : imageSize ≤ maxImageBytes

theorem spec_validateLoad {load : ProgramHeader} {flags : Nat} : Spec (validateLoad bytes load flags)
      (fun _ => load.offset = load.virtualAddress ∧ load.fileSize ≤ load.memorySize) Refusal := by
  unfold validateLoad
  simp only [spec_bind]
  refine spec_require (fun _ => spec_require (fun aligned => spec_require (fun _ => ?_)))
  refine spec_require (fun sized => spec_addOr (fun _ => spec_addOr (fun _ => spec_require (fun _ => ?_))))
  simp only [not_or, not_not] at aligned sized
  exact ⟨aligned.2.2.2, Nat.le_of_not_lt sized.2.2.1⟩

theorem spec_validateLoads : Spec (validateLoads bytes headers)
    (fun result => result.1 = ![headers 1, headers 2, headers 3] ∧ Laid bytes result.1 result.2) Refusal := by
  unfold validateLoads
  generalize (![headers 1, headers 2, headers 3] : Fin 3 → ProgramHeader) = loads
  simp only [spec_bind]
  have each : Spec ((finRange 3).forM (fun index => validateLoad bytes (loads index) (expectedFlags index)))
      (fun _ => ∀ index ∈ finRange 3, (loads index).offset = (loads index).virtualAddress ∧
        (loads index).fileSize ≤ (loads index).memorySize) Refusal :=
    spec_forM (fun index _ => spec_validateLoad)
  refine each.imp (fun _ fits => ?_)
  refine spec_require (fun start => spec_require (fun whole => ?_))
  simp only [not_or, not_not] at start whole
  refine spec_addOr (fun _ => spec_require (fun next => ?_))
  refine spec_addOr (fun _ => spec_require (fun last => ?_))
  refine spec_require (fun front => ?_)
  refine spec_addOr (fun _ => spec_require (fun _ => ?_))
  refine spec_times (by decide) (spec_addOr (fun _ => spec_require (fun _ => ?_)))
  refine spec_addOr (fun _ => spec_require (fun covered => ?_))
  refine spec_addOr (fun _ => spec_require (fun room => ?_))
  rw [not_or] at room
  obtain ⟨third, sized⟩ := fits 2 (mem_finRange 2)
  refine ⟨rfl, ⟨start.2, start.1, whole.1⟩, ⟨?_, ?_, whole.2⟩, ⟨third, ?_, sized⟩, covered, rfl,
    Nat.le_of_not_lt room.2⟩
  · rw [← front, whole.1]
  · rw [← next, start.1, zero_add]
  · rw [← last, ← next, start.1, zero_add]

end Segments

section Dynamic

variable {dynamic relro stack writable : ProgramHeader}

/-- Where the relocation table and the pages after relocation lie. -/
structure Placed (bytes : Bytes) (dynamic relro writable : ProgramHeader)
    (relocationAddress relocationSize relocationCount : Nat) : Prop where
  shared : dynamic.offset = writable.offset
  inner : writable.virtualAddress + dynamicBytes ≤ relro.virtualAddress + relro.memorySize
  address : relocationAddress = word bytes (dynamic.offset + 8) 8
  size : relocationSize = word bytes (dynamic.offset + 24) 8
  count : relocationCount = relocationSize / relaEntryBytes
  whole : relocationSize = relocationCount * relaEntryBytes
  table : relocationAddress + relocationSize ≤ writable.virtualAddress + writable.fileSize
  few : relocationCount ≤ maxRelocations
  pages : relro.virtualAddress = writable.virtualAddress ∧ relro.memorySize ≤ writable.fileSize

theorem spec_readDynamic {dynamicOffset : Nat} {values : Fin 4 → Nat} {index : Fin 4}
    (small : dynamicOffset + dynamicBytes < u64Values) : Spec (readDynamic bytes dynamicOffset values index)
      (fun next => next = update values index
        (word bytes (dynamicOffset + index.val * dynamicEntryBytes + 8) 8)) Refusal := by
  have inside : index.val * dynamicEntryBytes + 16 ≤ dynamicBytes := by
    unfold dynamicBytes dynamicEntryBytes dynamicEntryCount
    omega
  unfold readDynamic readU64
  simp only [spec_bind]
  refine spec_times (by omega) (spec_plus (by omega) ?_)
  refine spec_readI64 (by omega) (fun _ => spec_require (fun _ => ?_))
  exact spec_plus (by omega) (spec_readWord (by omega) (fun _ => rfl))

/-- The values of the dynamic entries. -/
theorem spec_readDynamics {dynamicOffset : Nat} (small : dynamicOffset + dynamicBytes < u64Values) :
    Spec ((finRange 4).foldlM (readDynamic bytes dynamicOffset) (fun _ => 0)) (fun values => ∀ index : Fin 4,
        values index = word bytes (dynamicOffset + index.val * dynamicEntryBytes + 8) 8) Refusal := by
  have whole := @spec_foldlM _ _ _ Refusal (readDynamic bytes dynamicOffset)
    (fun rest values => ∀ index, index ∉ rest →
      values index = word bytes (dynamicOffset + index.val * dynamicEntryBytes + 8) 8)
    (by
      intro index rest values known
      refine (spec_readDynamic small).imp (fun next stored => ?_)
      subst stored
      intro other later
      by_cases same : other = index
      · subst same
        rw [update_self]
      · rw [update_of_ne same]
        exact known other (by simp [same, later]))
    (finRange 4) (fun _ => 0) (fun index outside => absurd (mem_finRange index) outside)
  exact whole.imp (fun values known index => known index not_mem_nil)

theorem spec_validateDynamicAndRelro (small : writable.offset + dynamicBytes < u64Values) :
    Spec (validateDynamicAndRelro bytes dynamic relro stack writable)
      (fun result => Placed bytes dynamic relro writable result.1 result.2.1 result.2.2) Refusal := by
  unfold validateDynamicAndRelro validateRelro validateStack validateDynamicSegment
  simp only [spec_bind]
  refine spec_require (fun relroFits => spec_require (fun _ => spec_require (fun dynamicFits => ?_)))
  simp only [not_or, not_not] at relroFits dynamicFits
  rw [dynamicFits.2.1]
  refine spec_toUsize ((spec_readDynamics small).imp (fun values known => ?_))
  refine spec_require (fun _ => spec_require (fun _ => spec_require (fun sized => ?_)))
  refine spec_require (fun counted => spec_require (fun placed => ?_))
  simp only [not_or, not_not] at sized counted placed
  have address := known 0
  have size := known 1
  refine ⟨dynamicFits.2.1, ?_, ?_, ?_, rfl, ?_, placed.2.2.2.2.2.2, Nat.le_of_not_lt counted.2,
    relroFits.2.2.1, Nat.le_of_not_lt relroFits.2.2.2.2.2.2.2.2.2⟩
  · rw [← dynamicFits.2.2.1, ← dynamicFits.2.2.2.2.2.1]
    exact dynamicFits.2.2.2.2.2.2.2.2.2.2
  · rw [address, dynamicFits.2.1]
    rfl
  · rw [size, dynamicFits.2.1]
    rfl
  · exact (Nat.div_mul_cancel (Nat.dvd_of_mod_eq_zero sized.2)).symm

end Dynamic

section Relocations

/-- The target of a relocation of the table at an address. -/
def targetAt (bytes : Bytes) (table index : Nat) : Nat := word bytes (table + index * relaEntryBytes) 8

def addendAt (bytes : Bytes) (table index : Nat) : Nat := word bytes (table + index * relaEntryBytes + 16) 8

/-- A relocation that is in place. -/
structure Fits (context : RelocationContext) (index : Nat) : Prop where
  aligned : targetAt context.bytes context.relocationAddress index % 8 = 0
  inside : targetAt context.bytes context.relocationAddress index + 8 ≤
    context.relro.virtualAddress + context.relro.memorySize
  addend : addendAt context.bytes context.relocationAddress index < i64Bound
  value : context.virtualBase + addendAt context.bytes context.relocationAddress index < u64Values

/-- The rounds before the cursor: every relocation is in place, and the targets ascend. -/
structure Ascending (context : RelocationContext) (cursor : Nat) (previous : Option Nat) : Prop where
  fits : ∀ index, index < cursor → Fits context index
  ordered : ∀ index other, index < other → other < cursor →
    targetAt context.bytes context.relocationAddress index <
      targetAt context.bytes context.relocationAddress other
  last : ∀ index, index < cursor → ∃ target ∈ previous,
    targetAt context.bytes context.relocationAddress index ≤ target

theorem asI64_nonneg {value : Nat} (small : value < u64Values) (positive : 0 ≤ asI64 value) :
    value < i64Bound ∧ (asI64 value).toNat = value := by
  unfold asI64 at positive ⊢
  split
  · rename_i low
    exact ⟨low, Int.toNat_natCast value⟩
  · omega

theorem spec_validateRelocation {context : RelocationContext} {cursor : Nat} {previous : Option Nat}
    (room : context.relocationAddress + (cursor + 1) * relaEntryBytes < u64Values)
    (before : Ascending context cursor previous) :
    Spec (validateRelocation context previous cursor) (Ascending context (cursor + 1)) Refusal := by
  have entry : relaEntryBytes = 24 := rfl
  have next : (cursor + 1) * relaEntryBytes = cursor * relaEntryBytes + relaEntryBytes := succ_mul ..
  unfold validateRelocation readU64
  simp only [spec_bind]
  refine spec_timesOr (fun _ => spec_addOr (fun _ => spec_toUsize ?_))
  refine spec_readWord (by omega) (fun _ => ?_)
  refine spec_plus (by omega) (spec_readWord (by omega) (fun _ => ?_))
  refine spec_plus (by omega) (spec_readI64 (by omega) (fun _ => ?_))
  refine spec_require (fun _ => spec_require (fun _ => spec_require (fun ascends => ?_)))
  refine spec_require (fun placed => spec_toUsize ?_)
  simp only [not_or, not_not] at placed
  obtain ⟨aligned, inside, _⟩ := placed
  refine spec_plus inside.2.1 (spec_orRefuse (fun _ _ => spec_require (fun _ => ?_)))
  refine spec_require (fun positive => spec_require (fun _ => ?_))
  obtain ⟨low, plain⟩ := asI64_nonneg (Bytes.word_lt ..) positive
  rw [plain]
  refine spec_addOr (fun value => spec_require (fun _ => spec_addOr (fun _ => spec_require (fun _ => ?_))))
  have fits : Fits context cursor := ⟨aligned, inside.2.2.2, low, value⟩
  refine ⟨fun index earlier => ?_, fun index other less earlier => ?_, fun index earlier => ?_⟩
  · rcases Nat.lt_succ_iff_lt_or_eq.mp earlier with old | rfl
    · exact before.fits index old
    · exact fits
  · rcases Nat.lt_succ_iff_lt_or_eq.mp earlier with old | rfl
    · exact before.ordered index other less old
    · obtain ⟨target, known, below⟩ := before.last index less
      have above : ¬ targetAt context.bytes context.relocationAddress other ≤ target :=
        fun reached => ascends ⟨target, known, reached⟩
      omega
  · refine ⟨_, rfl, ?_⟩
    rcases Nat.lt_succ_iff_lt_or_eq.mp earlier with old | rfl
    · obtain ⟨target, known, below⟩ := before.last index old
      have above : ¬ targetAt context.bytes context.relocationAddress cursor ≤ target :=
        fun reached => ascends ⟨target, known, reached⟩
      have here : targetAt context.bytes context.relocationAddress cursor =
        word context.bytes (context.relocationAddress + cursor * relaEntryBytes) 8 := rfl
      omega
    · exact le_rfl

theorem spec_validateRelocations {context : RelocationContext}
    (room : context.relocationAddress + context.relocationCount * relaEntryBytes < u64Values) :
    Spec (validateRelocations context)
      (fun _ => ∃ previous, Ascending context context.relocationCount previous) Refusal := by
  unfold validateRelocations
  rw [spec_bind]
  refine (spec_foldlM_range (Ascending context) (fun cursor previous within before => ?_) ?_).imp
    (fun previous all => ⟨previous, all⟩)
  · refine spec_validateRelocation ?_ before
    have fewer : (cursor + 1) * relaEntryBytes ≤ context.relocationCount * relaEntryBytes :=
      mul_le_mul_right relaEntryBytes within
    omega
  · exact ⟨fun _ never => absurd never (not_lt_zero _), fun _ _ _ never => absurd never (not_lt_zero _),
      fun _ never => absurd never (not_lt_zero _)⟩

end Relocations

end PooleOS.Elf
