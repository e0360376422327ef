import PooleOS.Elf.Checks

/- The image that a file stands for, and the load: it returns an error and leaves
the destination alone, or puts exactly that image at its start. -/
namespace PooleOS.Elf

open List Op Nat Bytes


variable {bytes destination memory : Bytes}

section Image

def relocationTable (bytes : Bytes) : Nat := word bytes ((headerAt bytes 4).offset + 8) 8

def relocationCount (bytes : Bytes) : Nat := word bytes ((headerAt bytes 4).offset + 24) 8 / relaEntryBytes

/-- The relocation writes the byte at this offset. -/
def Relocates (bytes : Bytes) (index offset : Nat) : Prop :=
  targetAt bytes (relocationTable bytes) index ≤ offset ∧
    offset < targetAt bytes (relocationTable bytes) index + 8

/-- The load segment has a byte of the file at this offset. -/
def Covers (segment : ProgramHeader) (offset : Nat) : Prop :=
  segment.segmentType = ptLoad ∧ segment.virtualAddress ≤ offset ∧
    offset < segment.virtualAddress + segment.fileSize

/-- The reference image: the relocated words, else the bytes of the load segments, else zero. -/
structure IsImage (bytes : Bytes) (virtualBase imageSize : Nat) (image : Bytes) : Prop where
  length : image.length = imageSize
  spans : (∀ index < programHeaderCount, (headerAt bytes index).segmentType = ptLoad →
      (headerAt bytes index).virtualAddress + (headerAt bytes index).memorySize ≤ imageSize) ∧
    ∃ index < programHeaderCount, (headerAt bytes index).segmentType = ptLoad ∧
      (headerAt bytes index).virtualAddress + (headerAt bytes index).memorySize = imageSize
  relocated : ∀ index < relocationCount bytes, ∀ place < 8,
    image[targetAt bytes (relocationTable bytes) index + place]? =
      (Bytes.ofWord 8 (virtualBase + addendAt bytes (relocationTable bytes) index))[place]?
  copied : ∀ offset, (∀ index < relocationCount bytes, ¬ Relocates bytes index offset) →
    ∀ index < programHeaderCount, Covers (headerAt bytes index) offset → image[offset]? =
      bytes[(headerAt bytes index).offset + (offset - (headerAt bytes index).virtualAddress)]?
  zero : ∀ offset < imageSize, (∀ index < relocationCount bytes, ¬ Relocates bytes index offset) →
    (∀ index < programHeaderCount, ¬ Covers (headerAt bytes index) offset) → image[offset]? = some 0

end Image

section Inspect

/-- What an accepted file is known to be. -/
structure Inspected (bytes : Bytes) (virtualBase : Nat) (plan : ImagePlan) : Prop where
  types : ∀ index : Fin 7, (headerAt bytes index.val).segmentType = expectedTypes index
  laid : Laid bytes ![headerAt bytes 1, headerAt bytes 2, headerAt bytes 3] plan.imageSize
  segments : ∀ index : Fin 3, (plan.segments index).fileOffset = (headerAt bytes (index.val + 1)).offset ∧
    (plan.segments index).virtualOffset = (headerAt bytes (index.val + 1)).virtualAddress ∧
      (plan.segments index).fileSize = (headerAt bytes (index.val + 1)).fileSize
  short : bytes.length ≤ maxFileBytes
  shared : (headerAt bytes 4).offset = (headerAt bytes 3).offset
  dynamic : (headerAt bytes 4).offset + dynamicBytes ≤ bytes.length
  count : plan.relocationCount = relocationCount bytes
  table : relocationTable bytes + relocationCount bytes * relaEntryBytes ≤ bytes.length
  ordered : ∀ index other, index < other → other < relocationCount bytes →
    targetAt bytes (relocationTable bytes) index < targetAt bytes (relocationTable bytes) other
  fits : ∀ index < relocationCount bytes,
    targetAt bytes (relocationTable bytes) index % 8 = 0 ∧
    targetAt bytes (relocationTable bytes) index + 8 ≤ bytes.length ∧
    addendAt bytes (relocationTable bytes) index < i64Bound ∧
      virtualBase + addendAt bytes (relocationTable bytes) index < u64Values

theorem spec_segmentPlan {load : ProgramHeader} {permissions : Permissions} {done : SegmentPlan → Prop}
    (pass : done ⟨load.offset, load.virtualAddress, load.fileSize, load.memorySize, permissions⟩) :
    Spec (segmentPlan load permissions) done Refusal := by
  unfold segmentPlan
  simp only [spec_bind]
  exact spec_toU32 (spec_toU32 (spec_toU32 (spec_toU32 pass)))

theorem spec_mappingPlan {offset size : Nat} {permissions : Permissions} {done : MappingPlan → Prop}
    (pass : done ⟨offset, size, permissions⟩) : Spec (mappingPlan offset size permissions) done Refusal := by
  unfold mappingPlan
  simp only [spec_bind]
  exact spec_toU32 (spec_toU32 pass)

theorem spec_validateBaseAddresses {physicalBase virtualBase imageSize : Nat} {done : Unit → Prop}
    (pass : done ()) : Spec (validateBaseAddresses physicalBase virtualBase imageSize) done Refusal := by
  unfold validateBaseAddresses
  simp only [spec_bind]
  exact spec_require (fun _ => spec_addOr (fun _ => spec_require (fun _ => spec_require (fun _ =>
    spec_addOr (fun _ => spec_require (fun _ => pass))))))

theorem spec_inspect (physicalBase virtualBase : Nat) :
    Spec (inspect bytes physicalBase virtualBase) (Inspected bytes virtualBase) Refusal := by
  unfold inspect
  simp only [spec_bind]
  refine spec_validateHeader.imp ?_
  rintro ⟨entry, headers⟩ ⟨short, known⟩
  obtain rfl : headers = fun index => headerAt bytes index.val := funext (fun index => (known index).1)
  unfold validatePhdr
  simp only [spec_bind]
  refine spec_timesOr (fun _ => spec_require (fun _ => spec_validateLoads.imp ?_))
  rintro ⟨loads, imageSize⟩ ⟨rfl, laid⟩
  dsimp only at laid ⊢
  obtain ⟨_, second, third, file, image, small⟩ := id laid
  have start : (headerAt bytes 3).offset = (headerAt bytes 3).virtualAddress := third.1
  have ended : (headerAt bytes 3).offset + (headerAt bytes 3).fileSize = bytes.length := file
  have bounds : maxImageBytes + dynamicBytes < u64Values := by decide
  refine spec_validateBaseAddresses (spec_require (fun _ => ?_))
  refine (spec_validateDynamicAndRelro (show (headerAt bytes 3).offset + dynamicBytes < u64Values by
    omega)).imp ?_
  rintro ⟨address, size, count⟩ ⟨shared, inner, located, counted, divided, whole, inside, few, pages, fits⟩
  dsimp only at shared inner located counted divided whole inside few pages fits ⊢
  have shared' : (headerAt bytes 4).offset = (headerAt bytes 3).offset := shared
  have pages' : (headerAt bytes 5).virtualAddress = (headerAt bytes 3).virtualAddress := pages
  have fits' : (headerAt bytes 5).memorySize ≤ (headerAt bytes 3).fileSize := fits
  refine (spec_validateRelocations (show address + count * relaEntryBytes < u64Values by
    omega)).imp ?_
  rintro _ ⟨previous, ⟨relocations, ordered, _⟩⟩
  refine spec_segmentPlan (spec_segmentPlan (spec_segmentPlan (spec_addOr (fun _ => spec_addOr (fun _ => ?_)))))
  refine spec_mappingPlan (spec_mappingPlan (spec_mappingPlan (spec_minus ?_ (spec_mappingPlan ?_))))
  · omega
  refine spec_toU32 (spec_toU32 (spec_toU32 (spec_addOr (fun _ => spec_addOr (fun _ => spec_toU32 ?_)))))
  refine spec_toU32 (spec_toU32 ?_)
  have table : address = relocationTable bytes := located
  have total : count = relocationCount bytes := by
    rw [divided, counted]
    rfl
  subst table total
  refine ⟨fun index => (known index).2, laid, ?_, short, shared', by omega, rfl, ?_, ordered, fun index less => ?_⟩
  · intro index
    fin_cases index <;> exact ⟨rfl, rfl, rfl⟩
  · omega
  · obtain ⟨aligned, below, addend, value⟩ := relocations index less
    have below' : targetAt bytes (relocationTable bytes) index + 8 ≤
      (headerAt bytes 5).virtualAddress + (headerAt bytes 5).memorySize := below
    exact ⟨aligned, by omega, addend, value⟩

end Inspect

section Copy

variable {imageSize filled : Nat} {failed : Stop → Bytes → Prop}

theorem wp_copyFromSlice {done : Unit → Bytes → Prop} {first last : Nat} {source : Bytes} (fits : last ≤ memory.length)
    (size : first + source.length = last) (pass : done () (memory.blit first source)) :
    wp (copyFromSlice first last source) done failed memory := by
  unfold copyFromSlice
  simp only [wp_bind, wp_read, wp_update]
  exact wp_ensure_intro (fun _ => pass) (fun wrong => absurd ⟨by omega, fits, by omega⟩ wrong)

/-- The file up to `filled`, zeros up to the end of the image, and the destination behind it. -/
structure Filled (bytes destination : Bytes) (imageSize filled : Nat) (memory : Bytes) : Prop where
  length : memory.length = destination.length
  copied : ∀ offset, offset < filled → memory[offset]? = bytes[offset]?
  zero : ∀ offset, filled ≤ offset → offset < imageSize → memory[offset]? = some 0
  behind : ∀ offset, imageSize ≤ offset → memory[offset]? = destination[offset]?

theorem wp_fillZero (room : imageSize ≤ destination.length) :
    wp (fillZero imageSize) (fun _ => Filled bytes destination imageSize 0) failed destination := by
  have size : (replicate imageSize (0 : UInt8)).length = imageSize := length_replicate
  refine wp_copyFromSlice room (by omega) ⟨?_, ?_, ?_, ?_⟩
  · exact blit_length (by omega)
  · exact fun offset never => absurd never (not_lt_zero _)
  · intro offset _ inside
    rw [blit_inside (by omega) (zero_le _) (by omega), getElem?_replicate, if_pos (by omega)]
  · intro offset beyond
    exact blit_outside (by omega) (.inr (by omega))

/-- A segment continues what is filled. -/
theorem wp_copySegment {segment : SegmentPlan} (before : Filled bytes destination imageSize filled memory)
    (source : segment.fileOffset = filled) (target : segment.virtualOffset = filled)
    (file : filled + segment.fileSize ≤ bytes.length) (image : filled + segment.fileSize ≤ imageSize)
    (room : imageSize ≤ destination.length) (small : bytes.length < u64Values) : wp (copySegment bytes segment)
      (fun _ => Filled bytes destination imageSize (filled + segment.fileSize)) failed memory := by
  have size : ((bytes.drop filled).take (filled + segment.fileSize - filled)).length = segment.fileSize := by
    rw [length_take, length_drop]
    omega
  obtain ⟨length, copied, zero, behind⟩ := before
  unfold copySegment
  rw [source, target]
  simp only [wp_bind]
  refine wp_of_spec (spec_plus (by omega) (wp_of_spec (spec_plus (by omega) ?_)))
  refine wp_of_spec (spec_slice (by omega) file (wp_copyFromSlice (by omega) (by omega) ?_))
  refine ⟨?_, ?_, ?_, ?_⟩
  · rw [blit_length (by omega), length]
  · intro offset inside
    by_cases old : offset < filled
    · rw [blit_outside (by omega) (.inl old)]
      exact copied offset old
    · rw [blit_inside (by omega) (by omega) (by omega), getElem?_range _ (by omega)]
      congr 1
      omega
  · intro offset beyond inside
    rw [blit_outside (by omega) (.inr (by omega))]
    exact zero offset (by omega) inside
  · intro offset beyond
    rw [blit_outside (by omega) (.inr (by omega))]
    exact behind offset beyond

end Copy

section Relocation

variable {virtualBase cursor : Nat} {base : Bytes} {failed : Stop → Bytes → Prop}

/-- The first relocations are written, and every other byte is as it was. -/
structure Relocated (bytes : Bytes) (virtualBase : Nat) (base : Bytes) (cursor : Nat) (memory : Bytes) : Prop where
  length : memory.length = base.length
  written : ∀ index < cursor, ∀ place < 8,
    memory[targetAt bytes (relocationTable bytes) index + place]? =
      (Bytes.ofWord 8 (virtualBase + addendAt bytes (relocationTable bytes) index))[place]?
  other : ∀ offset, (∀ index < cursor, ¬ Relocates bytes index offset) → memory[offset]? = base[offset]?

theorem asU64_asI64 {value : Nat} (low : value < i64Bound) : asU64 (asI64 value) = value := by
  have wide : i64Bound < u64Values := by decide
  unfold asU64 asI64
  rw [if_pos low, Int.emod_eq_of_lt (by omega) (by omega), Int.toNat_natCast]

theorem wp_relocate {plan : ImagePlan} (inspected : Inspected bytes virtualBase plan)
    (less : cursor < relocationCount bytes) (room : bytes.length ≤ base.length)
    (before : Relocated bytes virtualBase base cursor memory) :
    wp (relocate bytes (relocationTable bytes) virtualBase cursor)
      (fun _ => Relocated bytes virtualBase base (cursor + 1)) failed memory := by
  obtain ⟨aligned, below, addend, value⟩ := inspected.fits cursor less
  obtain ⟨length, written, other⟩ := before
  have short := inspected.short
  have table := inspected.table
  have wide : maxFileBytes < u64Values := by decide
  have next : (cursor + 1) * relaEntryBytes ≤ relocationCount bytes * relaEntryBytes :=
    mul_le_mul_right _ less
  have step : (cursor + 1) * relaEntryBytes = cursor * relaEntryBytes + 24 := succ_mul ..
  have size : (ofWord 8 (virtualBase + addendAt bytes (relocationTable bytes) cursor)).length = 8 :=
    ofWord_length ..
  have start : relocationTable bytes + cursor * relaEntryBytes + 8 ≤ bytes.length := by omega
  have final : relocationTable bytes + cursor * relaEntryBytes + 16 + 8 ≤ bytes.length := by omega
  -- An earlier target is eight bytes before this one, since both are multiples of eight.
  have apart : ∀ index < cursor, targetAt bytes (relocationTable bytes) index + 8 ≤
      targetAt bytes (relocationTable bytes) cursor := by
    intro index earlier
    have ascends := inspected.ordered index cursor earlier less
    have aligned' := (inspected.fits index (earlier.trans less)).1
    omega
  unfold relocate
  simp only [wp_bind]
  refine wp_of_spec ?_
  rw [spec_bind]
  refine spec_times (by omega) (spec_plus (by omega) (wp_of_spec ?_))
  refine spec_readWord_inside (by omega) start (wp_of_spec ?_)
  have named : word bytes (relocationTable bytes + cursor * relaEntryBytes) 8 =
    targetAt bytes (relocationTable bytes) cursor := rfl
  rw [named]
  unfold readI64
  simp only [spec_bind]
  refine spec_plus (by omega) (spec_readWord_inside (by omega) final (wp_of_spec ?_))
  change Spec (plus virtualBase (asU64 (asI64 (addendAt bytes (relocationTable bytes) cursor)))) _ _
  rw [asU64_asI64 addend]
  refine spec_plus value (wp_of_spec (spec_plus (by omega) ?_))
  refine wp_copyFromSlice ?_ (by omega) ⟨?_, ?_, ?_⟩
  · omega
  · rw [blit_length (by omega), length]
  · intro index earlier place within
    rcases Nat.lt_succ_iff_lt_or_eq.mp earlier with old | rfl
    · have far := apart index old
      rw [blit_outside (by omega) (.inl (by omega))]
      exact written index old place within
    · rw [blit_inside (by omega) (by omega) (by omega), Nat.add_sub_cancel_left]
  · intro offset none_
    have here := none_ cursor (lt_succ_self _)
    unfold Relocates at here
    rw [blit_outside (by omega) (by omega)]
    exact other offset (fun index earlier => none_ index (earlier.trans (lt_succ_self _)))

end Relocation

section Load

variable {virtualBase : Nat} {plan : ImagePlan} {base : Bytes}

section

variable (inspected : Inspected bytes virtualBase plan)
include inspected

/-- The layout, by the program headers of the file. -/
theorem Inspected.layout :
    ((headerAt bytes 1).offset = 0 ∧ (headerAt bytes 1).virtualAddress = 0 ∧
      (headerAt bytes 1).fileSize = (headerAt bytes 1).memorySize) ∧
    ((headerAt bytes 2).offset = (headerAt bytes 1).memorySize ∧
      (headerAt bytes 2).virtualAddress = (headerAt bytes 1).memorySize ∧
      (headerAt bytes 2).fileSize = (headerAt bytes 2).memorySize) ∧
    ((headerAt bytes 3).offset = (headerAt bytes 3).virtualAddress ∧
      (headerAt bytes 3).virtualAddress = (headerAt bytes 1).memorySize + (headerAt bytes 2).memorySize ∧
      (headerAt bytes 3).fileSize ≤ (headerAt bytes 3).memorySize) ∧
    (headerAt bytes 3).offset + (headerAt bytes 3).fileSize = bytes.length ∧
      (headerAt bytes 3).virtualAddress + (headerAt bytes 3).memorySize = plan.imageSize :=
  ⟨inspected.laid.first, inspected.laid.second, inspected.laid.third, inspected.laid.file, inspected.laid.image⟩

/-- The load segments are the second, third and fourth program header. -/
theorem load_segment {index : Nat} (few : index < programHeaderCount)
    (load : (headerAt bytes index).segmentType = ptLoad) : index = 1 ∨ index = 2 ∨ index = 3 := by
  have only : ∀ place : Fin 7, expectedTypes place = ptLoad →
      place.val = 1 ∨ place.val = 2 ∨ place.val = 3 := by decide
  exact only ⟨index, few⟩ ((inspected.types ⟨index, few⟩).symm.trans load)

/-- What is filled and then relocated is the image. -/
theorem isImage (room : plan.imageSize ≤ destination.length)
    (filled : Filled bytes destination plan.imageSize bytes.length base)
    (relocated : Relocated bytes virtualBase base (relocationCount bytes) memory) :
    IsImage bytes virtualBase plan.imageSize (memory.take plan.imageSize) := by
  obtain ⟨first, second, third, file, image⟩ := inspected.layout
  have within : ∀ offset, offset < plan.imageSize →
      (memory.take plan.imageSize)[offset]? = memory[offset]? :=
    fun offset inside => getElem?_take_of_lt inside
  have length := relocated.length.trans filled.length
  refine ⟨?_, ⟨fun index few load => ?_, 3, by decide, inspected.types 3, image⟩, ?_, ?_, ?_⟩
  · rw [length_take]
    omega
  · rcases load_segment inspected few load with rfl | rfl | rfl <;> omega
  · intro index less place small
    have below := (inspected.fits index less).2.1
    rw [within _ (by omega)]
    exact relocated.written index less place small
  · intro offset none_ index few covers
    have same : offset < bytes.length ∧
        (headerAt bytes index).offset + (offset - (headerAt bytes index).virtualAddress) = offset := by
      obtain ⟨load, after, before⟩ := covers
      rcases load_segment inspected few load with rfl | rfl | rfl <;> omega
    rw [within offset (by omega), relocated.other offset none_, filled.copied offset same.1, same.2]
  · intro offset inside none_ uncovered
    have beyond : bytes.length ≤ offset := by
      have outside : ∀ index, index = 1 ∨ index = 2 ∨ index = 3 →
          ¬ ((headerAt bytes index).virtualAddress ≤ offset ∧
            offset < (headerAt bytes index).virtualAddress + (headerAt bytes index).fileSize) := by
        intro index place covered
        have type : (headerAt bytes index).segmentType = ptLoad := by
          rcases place with rfl | rfl | rfl
          · exact inspected.types 1
          · exact inspected.types 2
          · exact inspected.types 3
        refine uncovered index ?_ ⟨type, covered⟩
        unfold programHeaderCount
        omega
      have one := outside 1 (.inl rfl)
      have two := outside 2 (.inr (.inl rfl))
      have three := outside 3 (.inr (.inr rfl))
      omega
    rw [within offset inside, relocated.other offset none_]
    exact filled.zero offset beyond inside

/-- The three segments fill the image with the whole file. -/
theorem wp_copySegments (room : plan.imageSize ≤ destination.length)
    {failed : Stop → Bytes → Prop} (before : Filled bytes destination plan.imageSize 0 memory) :
    wp (forEach (finRange 3) (fun index => copySegment bytes (plan.segments index)))
      (fun _ => Filled bytes destination plan.imageSize bytes.length) failed memory := by
  obtain ⟨first, second, third, file, image⟩ := inspected.layout
  have short := inspected.short
  have wide : maxFileBytes < u64Values := by decide
  obtain ⟨offset0, target0, size0⟩ : (plan.segments 0).fileOffset = (headerAt bytes 1).offset ∧
    (plan.segments 0).virtualOffset = (headerAt bytes 1).virtualAddress ∧
      (plan.segments 0).fileSize = (headerAt bytes 1).fileSize := inspected.segments 0
  obtain ⟨offset1, target1, size1⟩ : (plan.segments 1).fileOffset = (headerAt bytes 2).offset ∧
    (plan.segments 1).virtualOffset = (headerAt bytes 2).virtualAddress ∧
      (plan.segments 1).fileSize = (headerAt bytes 2).fileSize := inspected.segments 1
  obtain ⟨offset2, target2, size2⟩ : (plan.segments 2).fileOffset = (headerAt bytes 3).offset ∧
    (plan.segments 2).virtualOffset = (headerAt bytes 3).virtualAddress ∧
      (plan.segments 2).fileSize = (headerAt bytes 3).fileSize := inspected.segments 2
  have items : finRange 3 = [0, 1, 2] := rfl
  rw [items]
  simp only [forEach, wp_bind, wp_pure]
  refine wp_mono (wp_copySegment before (by omega) (by omega) (by omega) (by omega) room (by omega))
    (fun _ one filled => ?_) (fun _ _ fine => fine)
  refine wp_mono (wp_copySegment filled (by omega) (by omega) (by omega) (by omega) room (by omega))
    (fun _ two filled' => ?_) (fun _ _ fine => fine)
  refine wp_mono (wp_copySegment filled' (by omega) (by omega) (by omega) (by omega) room (by omega))
    (fun _ three filled'' => ?_) (fun _ _ fine => fine)
  have whole : 0 + (plan.segments 0).fileSize + (plan.segments 1).fileSize + (plan.segments 2).fileSize =
    bytes.length := by omega
  rw [← whole]
  exact filled''

end

theorem relocated_start : Relocated bytes virtualBase base 0 base :=
  ⟨rfl, fun _ never => absurd never (not_lt_zero _), fun _ _ => rfl⟩

/-- A load that fails returns an error and leaves the destination alone; a load that succeeds puts
the image at the start of the destination and leaves the rest alone. Neither panics. -/
theorem load_exact (bytes : Bytes) (physicalBase virtualBase : Nat) (destination : Bytes) :
    wp (load bytes physicalBase virtualBase)
      (fun plan after => plan.imageSize ≤ destination.length ∧ after.length = destination.length ∧
        IsImage bytes virtualBase plan.imageSize (after.take plan.imageSize) ∧
        ∀ offset, plan.imageSize ≤ offset → after[offset]? = destination[offset]?)
      (fun stop after => (∃ reason, stop = .refused reason) ∧ after = destination) destination := by
  unfold load
  simp only [wp_bind, wp_read]
  refine wp_of_spec ((spec_inspect physicalBase virtualBase).mono ?_ (fun stop refusal => ⟨refusal, rfl⟩))
  intro plan inspected
  refine wp_ensure_intro (fun fits => ?_) (fun _ => ⟨⟨_, rfl⟩, rfl⟩)
  have room : plan.imageSize ≤ destination.length := Nat.le_of_not_lt fits
  have long : bytes.length ≤ plan.imageSize := by
    obtain ⟨_, _, third, file, image, _⟩ := inspected.laid
    omega
  have short := inspected.short
  have wide : maxFileBytes < u64Values := by decide
  refine wp_mono (@wp_fillZero bytes destination _ (fun _ _ => False) room) ?_ (fun _ _ never => never.elim)
  intro _ zeroed start
  refine wp_mono (@wp_copySegments _ _ _ _ _ inspected room (fun _ _ => False) start) ?_
    (fun _ _ never => never.elim)
  intro _ base filled
  refine wp_of_spec ?_
  have dynamic : (plan.segments 2).fileOffset = (headerAt bytes 4).offset :=
    (inspected.segments 2).1.trans inspected.shared.symm
  rw [spec_bind, dynamic, inspected.count]
  have inside := inspected.dynamic
  have entries : dynamicBytes = 64 := rfl
  refine spec_plus (by omega) (spec_readWord_inside (by omega) (by omega) ?_)
  have grown : bytes.length ≤ base.length := by
    rw [filled.length]
    omega
  have loop := @Op.wp_forEach_range _ _ base (relocate bytes (relocationTable bytes) virtualBase)
    (relocationCount bytes) (fun _ _ => False) (Relocated bytes virtualBase base)
    (fun cursor memory less before => wp_relocate inspected less grown before) relocated_start
  refine wp_mono loop ?_ (fun _ _ never => never.elim)
  intro _ after relocated
  refine ⟨room, relocated.length.trans filled.length, isImage inspected room filled relocated, ?_⟩
  intro offset beyond
  rw [relocated.other offset, filled.behind offset beyond]
  intro index less covers
  have below := (inspected.fits index less).2.1
  have before := covers.2
  omega

end Load

end PooleOS.Elf
