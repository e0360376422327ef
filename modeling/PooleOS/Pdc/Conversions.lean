import PooleOS.Pdc.Native

/- Every route of conversions from a dense field to a dense field returns the field it
started from, and a native snapshot holds the items of its buffer. -/
namespace PooleOS.Pdc.Representation

open List Bytes
open Strides

section Placements

variable {picture : Picture} {shape : List Nat} {count : Nat}

/-- The strides with padding, before any overflow. -/
def Placement.paddedStrides (placement : Placement) : List Nat → List Nat
  | [sx, _] => [1, sx + placement.rowPaddingBytes]
  | [sx, sy, _] =>
    [1, sx + placement.rowPaddingBytes, (sx + placement.rowPaddingBytes) * sy + placement.slicePaddingBytes]
  | _ => []

/-- The padding keeps the span below `sys.maxsize`, and the alignment is one. -/
structure Placement.Fits (placement : Placement) (shape : List Nat) : Prop where
  span : placement.byteOffset + last shape (placement.paddedStrides shape) + 1 < maxSize
  alignment : placement.declaredBaseAlignment ≠ 0 ∧ placement.declaredBaseAlignment ≤ 4096 ∧
    placement.declaredBaseAlignment &&& (placement.declaredBaseAlignment - 1) = 0

theorem Placement.strides_ok {placement : Placement} (accepted : normalizeShape shape = .ok count)
    (fits : placement.Fits shape) : placement.strides shape = .ok (placement.paddedStrides shape) ∧
      Fitting shape 1 (placement.paddedStrides shape) := by
  have span := fits.span.le.trans (by decide : maxSize ≤ maxU64)
  have more : ∀ {extent : Nat} (stride : Nat), 3 ≤ extent → stride ≤ (extent - 1) * stride :=
    fun stride wide => Nat.le_mul_of_pos_left stride (by omega)
  rcases shape_cases accepted with ⟨sx, sy, rfl, wide, high⟩ | ⟨sx, sy, sz, rfl, wide, high, deep⟩
  · have row := more (sx + placement.rowPaddingBytes) high
    simp only [Placement.paddedStrides, last] at span
    have sum : checkedU64Add sx placement.rowPaddingBytes = .ok (sx + placement.rowPaddingBytes) :=
      checkedU64Add_ok.mpr ⟨rfl, by omega⟩
    refine ⟨?_, rfl, ?_, rfl, ?_, trivial⟩
    · simp only [Placement.strides, getD_cons_zero, sum, ok_bind]
      rfl
    · simp [Placement.paddedStrides]
      omega
    · omega
  · have slice := more ((sx + placement.rowPaddingBytes) * sy + placement.slicePaddingBytes) deep
    have whole : sx + placement.rowPaddingBytes ≤ (sx + placement.rowPaddingBytes) * sy :=
      Nat.le_mul_of_pos_right _ (by omega)
    simp only [Placement.paddedStrides, last] at span
    have sum : checkedU64Add sx placement.rowPaddingBytes = .ok (sx + placement.rowPaddingBytes) :=
      checkedU64Add_ok.mpr ⟨rfl, by omega⟩
    have product : checkedU64Multiply (sx + placement.rowPaddingBytes) sy =
        .ok ((sx + placement.rowPaddingBytes) * sy) := checkedU64Multiply_ok.mpr ⟨rfl, by omega⟩
    have total : checkedU64Add ((sx + placement.rowPaddingBytes) * sy) placement.slicePaddingBytes =
        .ok ((sx + placement.rowPaddingBytes) * sy + placement.slicePaddingBytes) :=
      checkedU64Add_ok.mpr ⟨rfl, by omega⟩
    refine ⟨?_, rfl, ?_, rfl, ?_, ?_, trivial⟩
    · simp only [Placement.strides, getD_cons_zero, getD_cons_succ, sum, product, total, ok_bind]
      rfl
    · simp [Placement.paddedStrides]
      omega
    · omega
    · omega

/-- A dense field is copied to its rows and read back. -/
theorem nativeSnapshotFromDense_ok {placement : Placement} (field : DenseBinaryField)
    (fits : placement.Fits field.shape) : ∃ snapshot, nativeSnapshotFromDense placement field = .ok snapshot ∧
      snapshot.shape = field.shape ∧ snapshot.dtype = .u8 ∧ snapshot.logicalPayload = field.payload := by
  obtain ⟨accepted, binary⟩ := dense_valid.mp field.valid
  obtain ⟨strided, fitting⟩ := Placement.strides_ok accepted fits
  have small := fits.span
  generalize placement.paddedStrides field.shape = strides at strided fitting small
  have span : requiredNativeSpan field.shape .u8 placement.byteOffset strides =
      .ok (placement.byteOffset + last field.shape strides + 1) :=
    (requiredNativeSpan_ok rfl accepted).mpr ⟨fitting, rfl, small.le.trans (by decide)⟩
  have row := @row_within _ _ _ placement.byteOffset _ accepted fitting
  generalize placement.byteOffset + last field.shape strides + 1 = required at small span row
  have whole : (rowStarts placement.byteOffset field.shape strides).length * field.shape.getD 0 0 =
      field.payload.length := by
    rw [rowStarts_length accepted fitting, Nat.mul_comm, shape_prod accepted]
  have within : ∀ start ∈ rowStarts placement.byteOffset field.shape strides,
      start + field.shape.getD 0 0 ≤ (replicate required (0 : UInt8)).length := by
    intro start member
    have inside := (row member).2
    rw [Nat.mul_one] at inside
    rw [length_replicate]
    exact inside
  have ordered := @rowStarts_ordered _ _ _ placement.byteOffset _ accepted fitting
  simp only [Nat.mul_one] at ordered
  have room : 0 + (rowStarts placement.byteOffset field.shape strides).length * field.shape.getD 0 0 ≤
      field.payload.length := by omega
  have back := gather_scatter room within ordered
  obtain ⟨length, _⟩ := @Bytes.scatter_before _ _ _ _ _ room within 0 0 (fun _ _ => Nat.zero_le _)
  rw [whole, slice_whole] at back
  rw [length_replicate] at length
  have read : ∀ descriptor : Descriptor, descriptor.shape = field.shape →
      descriptor.byteOffset = placement.byteOffset →
        rowPayload (scatter field.payload (field.shape.getD 0 0) (rowStarts placement.byteOffset field.shape strides)
          (replicate required 0, 0)).1 descriptor strides 1 = field.payload := by
    intro descriptor shape offset
    rw [rowPayload, shape, offset, Nat.mul_one]
    exact back
  have aligned : validateAlignment .u8 placement.byteOffset strides placement.declaredBaseAlignment = .ok () := by
    obtain ⟨positive, small, power⟩ := fits.alignment
    simp only [validateAlignment, nativeItemSize, ok_bind]
    rw [demand_pass (by rintro (zero | large | mixed) <;> omega), ok_bind,
      demand_pass (by rintro (zero | odd) <;> omega), ok_bind]
    exact demand_pass (fun stride _ => Nat.mod_one stride)
  rw [nativeSnapshotFromDense, strided, ok_bind, span, ok_bind, bytearray_ok small, ok_bind]
  refine ⟨_, makeNativeBufferSnapshot_ok.mpr ⟨strides, 1, field.payload.length, _,
    ⟨accepted, rfl, rfl, aligned, span, rfl, Nat.le_of_eq length.symm, by simp, mem_cons_self .., ?_⟩, rfl⟩,
    rfl, rfl, ?_⟩
  · change validatePayload .u8 (rowPayload (scatter ..).1 _ _ _) = _
    rw [read _ rfl rfl, validatePayload, demand_pass (fun _ => binary), ok_bind]
    exact demand_pass (by simp)
  · exact read _ rfl rfl

end Placements

section Routes

/-- The forms of one binary field. -/
inductive Form
  | dense
  | sparse
  | bitPacked
  | native
deriving DecidableEq, Repr

def Form.Value : Form → Type
  | dense => DenseBinaryField
  | sparse => SparseBinaryField
  | bitPacked => BitPackedBinaryField
  | native => NativeBufferSnapshot

inductive Conversion : Form → Form → Type
  | sparseFromDense : Conversion .dense .sparse
  | denseFromSparse : Conversion .sparse .dense
  | bitpackedFromDense : Conversion .dense .bitPacked
  | bitpackedFromSparse : Conversion .sparse .bitPacked
  | denseFromBitpacked : Conversion .bitPacked .dense
  | nativeSnapshotFromDense (placement : Placement) : Conversion .dense .native
  | denseFromNative : Conversion .native .dense

def Conversion.convert : ∀ ⦃first last : Form⦄, Conversion first last → first.Value → Except Error last.Value
  | _, _, sparseFromDense => Representation.sparseFromDense
  | _, _, denseFromSparse => Representation.denseFromSparse
  | _, _, bitpackedFromDense => Representation.bitpackedFromDense
  | _, _, bitpackedFromSparse => Representation.bitpackedFromSparse
  | _, _, denseFromBitpacked => Representation.denseFromBitpacked
  | _, _, nativeSnapshotFromDense placement => Representation.nativeSnapshotFromDense placement
  | _, _, denseFromNative => Representation.denseFromNative

/-- Only a placement has a condition. -/
def Conversion.Admits : ∀ ⦃first last : Form⦄, Conversion first last → Picture → Prop
  | _, _, nativeSnapshotFromDense placement, picture => placement.Fits picture.shape
  | _, _, _, _ => True

def NativeBufferSnapshot.Shows (snapshot : NativeBufferSnapshot) (picture : Picture) : Prop :=
  snapshot.dtype = .u8 ∧ ∃ field : DenseBinaryField,
    field.shape = snapshot.shape ∧ field.payload = snapshot.logicalPayload ∧ field.Shows picture

def Form.Shows : ∀ ⦃form : Form⦄, form.Value → Picture → Prop
  | .dense => DenseBinaryField.Shows
  | .sparse => SparseBinaryField.Shows
  | .bitPacked => BitPackedBinaryField.Shows
  | .native => NativeBufferSnapshot.Shows

theorem nativeSnapshotFromDense_keeps {picture : Picture} {field : DenseBinaryField} {placement : Placement}
    (shows_ : field.Shows picture) (fits : placement.Fits picture.shape) :
    ∃ result, nativeSnapshotFromDense placement field = .ok result ∧ result.Shows picture := by
  obtain ⟨snapshot, taken, shape, dtype, payload⟩ := nativeSnapshotFromDense_ok field (shows_.1 ▸ fits)
  exact ⟨snapshot, taken, dtype, field, shape.symm, payload.symm, shows_⟩

theorem denseFromNative_keeps {picture : Picture} {snapshot : NativeBufferSnapshot} (shows_ : snapshot.Shows picture) :
    ∃ result, denseFromNative snapshot = .ok result ∧ result.Shows picture := by
  obtain ⟨dtype, field, shape, payload, same⟩ := shows_
  refine ⟨field, ?_, same⟩
  rw [denseFromNative, demand_pass dtype, ok_bind, ← shape, ← payload]
  exact DenseBinaryField.make_ok field.valid

/-- No conversion that is admitted raises, and each keeps the picture. -/
theorem Conversion.keeps ⦃first last : Form⦄ (conversion : Conversion first last) {value : first.Value}
    {picture : Picture} (shows_ : Form.Shows value picture) (admits : conversion.Admits picture) :
    ∃ result, conversion.convert value = .ok result ∧ Form.Shows result picture := by
  cases conversion with
  | sparseFromDense => exact sparseFromDense_keeps shows_
  | denseFromSparse => exact denseFromSparse_keeps shows_
  | bitpackedFromDense => exact bitpackedFromDense_keeps shows_
  | bitpackedFromSparse => exact bitpackedFromSparse_keeps shows_
  | denseFromBitpacked => exact denseFromBitpacked_keeps shows_
  | nativeSnapshotFromDense placement => exact nativeSnapshotFromDense_keeps shows_ admits
  | denseFromNative => exact denseFromNative_keeps shows_

/-- What a dense field stands for. -/
def DenseBinaryField.picture (field : DenseBinaryField) : Picture :=
  ⟨field.shape, {index | field.payload[index]? = some 1}⟩

theorem route_returns (field : DenseBinaryField) (route : Route Conversion .dense .dense)
    (admitted : route.Admitted Conversion.Admits field.picture) : route.run Conversion.convert field = .ok field := by
  obtain ⟨result, ran, shows_⟩ :=
    @Route.run_keeps Form Form.Value Conversion Error Picture Conversion.convert Conversion.Admits Form.Shows
      Conversion.keeps field.picture _ _ route field field.shows admitted
  rw [ran]
  exact congrArg _ (dense_unique shows_ field.shows)

theorem sparse_round_trip (field : SparseBinaryField) :
    ∃ dense, denseFromSparse field = .ok dense ∧ sparseFromDense dense = .ok field := by
  obtain ⟨dense, converted, shows_⟩ := denseFromSparse_keeps field.shows
  obtain ⟨back, returned, same⟩ := sparseFromDense_keeps shows_
  exact ⟨dense, converted, returned.trans (congrArg _ (sparse_unique same field.shows))⟩

theorem bitpacked_round_trip (field : BitPackedBinaryField) :
    ∃ dense, denseFromBitpacked field = .ok dense ∧ bitpackedFromDense dense = .ok field := by
  obtain ⟨dense, converted, shows_⟩ := denseFromBitpacked_keeps field.shows
  obtain ⟨back, returned, same⟩ := bitpackedFromDense_keeps shows_
  exact ⟨dense, converted, returned.trans (congrArg _ (bitpacked_unique same field.shows))⟩

/-- Packing the indices and packing the dense field give the same bytes. -/
theorem bitpacked_agrees (field : SparseBinaryField) : ∃ dense packed, denseFromSparse field = .ok dense ∧
    bitpackedFromDense dense = .ok packed ∧ bitpackedFromSparse field = .ok packed := by
  obtain ⟨dense, converted, shows_⟩ := denseFromSparse_keeps field.shows
  obtain ⟨packed, first, same⟩ := bitpackedFromDense_keeps shows_
  obtain ⟨other, second, same'⟩ := bitpackedFromSparse_keeps field.shows
  exact ⟨dense, packed, converted, first, second.trans (congrArg _ (bitpacked_unique same' same))⟩

end Routes

section Snapshots

/-- A snapshot holds the items of its buffer: what is read of the buffer, that items do
not overlap, and where the item of each cell goes. -/
structure Faithful (view : Buffer) (descriptor : Descriptor) (snapshot : NativeBufferSnapshot)
    (itemSize required : Nat) : Prop where
  item : nativeItemSize descriptor.dtype = .ok itemSize
  span : requiredNativeSpan descriptor.shape descriptor.dtype descriptor.byteOffset snapshot.strides = .ok required
  covered : required ≤ view.bytes.length
  rows : ∀ start ∈ rowStarts descriptor.byteOffset descriptor.shape snapshot.strides,
    descriptor.byteOffset ≤ start ∧ start + descriptor.shape.getD 0 0 * itemSize ≤ required
  confined : ∀ other : Buffer, other.bytes.length = view.bytes.length → other.contiguous = view.contiguous →
    other.readonly = view.readonly →
      (∀ place, descriptor.byteOffset ≤ place → place < required → other.bytes[place]? = view.bytes[place]?) →
        makeNativeBufferSnapshot (some other) descriptor = .ok snapshot
  apart : ∀ cell cell' : List Nat, Strides.Inside descriptor.shape cell → Strides.Inside descriptor.shape cell' →
    cell ≠ cell' → Apart (descriptor.byteOffset + position snapshot.strides cell, itemSize)
      (descriptor.byteOffset + position snapshot.strides cell', itemSize)
  items : ∀ cell : List Nat, Strides.Inside descriptor.shape cell →
    snapshot.logicalPayload.slice (flatIndex descriptor.shape cell * itemSize) itemSize =
      storedItem descriptor.dtype (view.bytes.slice (descriptor.byteOffset + position snapshot.strides cell) itemSize)

theorem snapshot_faithful {view : Buffer} {descriptor : Descriptor} {snapshot : NativeBufferSnapshot}
    (made : makeNativeBufferSnapshot (some view) descriptor = .ok snapshot) :
    ∃ itemSize required, Faithful view descriptor snapshot itemSize required := by
  obtain ⟨strides, itemSize, count, required, accepts, rfl⟩ := makeNativeBufferSnapshot_ok.mp made
  refine ⟨itemSize, required, accepts.item, accepts.span, accepts.covered, fun start member => accepts.row member, ?_,
    fun cell cell' => items_apart accepts, fun cell => storedPayload_item accepts⟩
  intro other length contiguous readonly same
  obtain ⟨accepted, rows⟩ := accepts.congr length contiguous same
  refine makeNativeBufferSnapshot_ok.mpr ⟨strides, itemSize, count, required, accepted, ?_⟩
  rw [rows, Descriptor.stored, Descriptor.stored, readonly, length]

/-- The representations are views of one field, and a native snapshot is its buffer's
items with negative zeros made positive. -/
theorem representations_lossless : (∀ (field : DenseBinaryField) (route : Route Conversion .dense .dense),
      route.Admitted Conversion.Admits field.picture → route.run Conversion.convert field = .ok field) ∧
    (∀ field : SparseBinaryField, ∃ dense, denseFromSparse field = .ok dense ∧ sparseFromDense dense = .ok field) ∧
    (∀ field : BitPackedBinaryField,
      ∃ dense, denseFromBitpacked field = .ok dense ∧ bitpackedFromDense dense = .ok field) ∧
    (∀ field : SparseBinaryField, ∃ dense packed, denseFromSparse field = .ok dense ∧
      bitpackedFromDense dense = .ok packed ∧ bitpackedFromSparse field = .ok packed) ∧
    ∀ (view : Buffer) (descriptor : Descriptor) (snapshot : NativeBufferSnapshot),
      makeNativeBufferSnapshot (some view) descriptor = .ok snapshot →
        ∃ itemSize required, Faithful view descriptor snapshot itemSize required :=
  ⟨route_returns, sparse_round_trip, bitpacked_round_trip, bitpacked_agrees, fun _ _ _ made => snapshot_faithful made⟩

/-- Nine cells, so that the last packed byte has padding. -/
def cornerField : DenseBinaryField := ⟨[3, 3], [1, 0, 0, 0, 1, 0, 0, 0, 1], by decide +kernel⟩

/-- Through every form, with rows four bytes apart. -/
theorem cornerField_returns :
    (Route.next Conversion.sparseFromDense (.next .bitpackedFromSparse (.next .denseFromBitpacked
      (.next (.nativeSnapshotFromDense ⟨1, 1, 0, 8⟩) (.next .denseFromNative .stay))))).run Conversion.convert
        cornerField = .ok cornerField :=
  representations_lossless.1 cornerField _ ⟨trivial, trivial, trivial, ⟨by decide, by decide⟩, trivial, trivial⟩

/-- Nine doubles in a row; the first is a negative zero. -/
def doubleBuffer : Buffer := ⟨negativeZero ++ List.replicate 64 0, true, true⟩

def doubleDescriptor : Descriptor where
  shape := [3, 3]
  dtype := .f64
  byteOffset := 0
  strides := none
  sourceOwnership := .runtimeOwned
  declaredBaseAlignment := 8
  snapshotBorrowed := false

/-- The item of a cell is not always the item of the buffer. -/
theorem negative_zero_is_replaced : ∃ snapshot, makeNativeBufferSnapshot (some doubleBuffer) doubleDescriptor = .ok snapshot ∧
    snapshot.logicalPayload.slice (flatIndex doubleDescriptor.shape [0, 0] * 8) 8 ≠
      doubleBuffer.bytes.slice (doubleDescriptor.byteOffset + position snapshot.strides [0, 0]) 8 := by
  refine ⟨doubleDescriptor.stored doubleBuffer [8, 24] (replicate 72 0), ?_, ?_⟩
  · decide +kernel
  · decide +kernel

end Snapshots

end PooleOS.Pdc.Representation
