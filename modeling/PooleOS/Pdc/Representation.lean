import PooleOS.Lib.Binary64
import PooleOS.Lib.Masks
import PooleOS.Lib.Packing
import PooleOS.Lib.Result
import PooleOS.Pdc.Model

/- The representations of a binary field (`runtime/pdc_representation.py`) and the conversions between them.
-/
namespace PooleOS.Pdc.Representation

/-- `allocation` is the `OverflowError` of `bytearray`, or its `MemoryError` at `sys.maxsize`. -/
inductive Error
  | reference (reason : Pdc.Error)
  | representation
  | conversion
  | stride
  | alignment
  | ownership
  | allocation
deriving DecidableEq, Repr

def maxU64 : Nat := 2 ^ 64 - 1

/-- `sys.maxsize`. -/
def maxSize : Nat := 2 ^ 63 - 1

def supportedDimensions : List Nat := [2, 3]

section Checked

/-- The number of cells of a shape. -/
def normalizeShape (shape : List Nat) : Except Error Nat := do
  demand (shape.length ∈ supportedDimensions) (.reference .shape)
  (validatePeriodicShape shape shape.length).mapError .reference

def checkedU64Add (left right : Nat) : Except Error Nat := do
  demand (¬ (maxU64 : Int) - right < left) (.reference .overflow)
  return left + right

def checkedU64Multiply (left right : Nat) : Except Error Nat := do
  demand (¬ (left ≠ 0 ∧ maxU64 / left < right)) (.reference .overflow)
  return left * right

/-- `bytearray(count)`: there is none of `sys.maxsize` bytes or more, whatever the memory. -/
def bytearray (count : Nat) : Except Error Bytes := do
  demand (count < maxSize) .allocation
  return List.replicate count 0

end Checked

section Fields

def DenseBinaryField.postInit (shape : List Nat) (payload : Bytes) : Except Error Unit := do
  let count ← normalizeShape shape
  demand (payload.length = count) (.reference .shape)
  demand (∀ value ∈ payload, value = 0 ∨ value = 1) .representation

structure DenseBinaryField where
  shape : List Nat
  payload : Bytes
  valid : DenseBinaryField.postInit shape payload = .ok ()

def DenseBinaryField.make (shape : List Nat) (payload : Bytes) : Except Error DenseBinaryField := do
  let passed ← certified (DenseBinaryField.postInit shape payload)
  return ⟨shape, payload, passed.down⟩

def SparseBinaryField.postInit (shape activeIndices : List Nat) : Except Error Unit := do
  let count ← normalizeShape shape
  let _ ← activeIndices.foldlM (fun (previous : Int) index => do
    demand (index < count) (.reference .shape)
    demand (¬ (index : Int) ≤ previous) Error.representation
    return (index : Int)) (-1)

structure SparseBinaryField where
  shape : List Nat
  activeIndices : List Nat
  valid : SparseBinaryField.postInit shape activeIndices = .ok ()

def SparseBinaryField.make (shape activeIndices : List Nat) : Except Error SparseBinaryField := do
  let passed ← certified (SparseBinaryField.postInit shape activeIndices)
  return ⟨shape, activeIndices, passed.down⟩

def BitPackedBinaryField.postInit (shape : List Nat) (payload : Bytes) : Except Error Unit := do
  let count ← normalizeShape shape
  let expected := (count + 7) / 8
  demand (payload.length = expected) (.reference .shape)
  let remainder := count % 8
  demand (¬ (remainder ≠ 0 ∧ ∃ last ∈ payload.getLast?, without last.toNat (2 ^ remainder - 1) ≠ 0))
    .representation

structure BitPackedBinaryField where
  shape : List Nat
  payload : Bytes
  valid : BitPackedBinaryField.postInit shape payload = .ok ()

def BitPackedBinaryField.make (shape : List Nat) (payload : Bytes) : Except Error BitPackedBinaryField := do
  let passed ← certified (BitPackedBinaryField.postInit shape payload)
  return ⟨shape, payload, passed.down⟩

end Fields

section Conversions

def sparseFromDense (field : DenseBinaryField) : Except Error SparseBinaryField :=
  SparseBinaryField.make field.shape ((field.payload.zipIdx.filter (fun item => item.1 ≠ 0)).map (·.2))

def denseFromSparse (field : SparseBinaryField) : Except Error DenseBinaryField := do
  let count ← normalizeShape field.shape
  let payload ← bytearray count
  DenseBinaryField.make field.shape (field.activeIndices.foldl (fun payload index => payload.set index 1) payload)

def bitpackedFromDense (field : DenseBinaryField) : Except Error BitPackedBinaryField := do
  let packed ← bytearray ((field.payload.length + 7) / 8)
  BitPackedBinaryField.make field.shape
    (field.payload.zipIdx.foldl (fun packed item => packed.mark item.2 item.1) packed)

def bitpackedFromSparse (field : SparseBinaryField) : Except Error BitPackedBinaryField := do
  let count ← normalizeShape field.shape
  let packed ← bytearray ((count + 7) / 8)
  BitPackedBinaryField.make field.shape
    (field.activeIndices.foldl (fun packed index => packed.mark index 1) packed)

/-- `_UNPACKED_BYTES[value]`. -/
def unpackedBytes (value : UInt8) : Bytes :=
  (List.range 8).map (fun bit => (value >>> UInt8.ofNat bit) &&& 1)

def denseFromBitpacked (field : BitPackedBinaryField) : Except Error DenseBinaryField := do
  let count ← normalizeShape field.shape
  DenseBinaryField.make field.shape ((field.payload.flatMap unpackedBytes).take count)

end Conversions

section Descriptors

/-- `other` is any other text. -/
inductive DType
  | u8
  | f64
  | other
deriving DecidableEq, Repr

inductive SourceOwnership
  | runtimeOwned
  | callerBorrowed
  | other
deriving DecidableEq, Repr

inductive SourceMutability
  | readOnly
  | mutableSnapshotted
  | other
deriving DecidableEq, Repr

def nativeItemSize : DType → Except Error Nat
  | .u8 => .ok 1
  | .f64 => .ok 8
  | .other => .error .representation

def contiguousStrides (shape : List Nat) (dtype : DType) : Except Error (List Nat) := do
  let _ ← normalizeShape shape
  let itemSize ← nativeItemSize dtype
  shape.dropLast.foldlM (fun strides extent => do
    return strides ++ [← checkedU64Multiply (strides.getLastD 0) extent]) [itemSize]

def validateStrides (shape : List Nat) (dtype : DType) (strides : List Nat) : Except Error Unit := do
  let itemSize ← nativeItemSize dtype
  strides.forM (fun value => demand (0 < value) .stride)
  demand (strides.getD 0 0 = itemSize) .stride
  shape.dropLast.zipIdx.forM (fun item => do
    let minimum ← checkedU64Multiply (strides.getD item.2 0) item.1
    demand (¬ strides.getD (item.2 + 1) 0 < minimum) .stride)

def validateAlignment (dtype : DType) (byteOffset : Nat) (strides : List Nat) (declaredBaseAlignment : Nat) :
    Except Error Unit := do
  let itemSize ← nativeItemSize dtype
  demand (¬ (declaredBaseAlignment = 0 ∨ 4096 < declaredBaseAlignment ∨
    declaredBaseAlignment &&& (declaredBaseAlignment - 1) ≠ 0)) .alignment
  demand (¬ (declaredBaseAlignment < itemSize ∨ byteOffset % itemSize ≠ 0)) .alignment
  demand (∀ stride ∈ strides, stride % itemSize = 0) .alignment

def requiredNativeSpan (shape : List Nat) (dtype : DType) (byteOffset : Nat) (strides : List Nat) :
    Except Error Nat := do
  let _ ← normalizeShape shape
  demand (strides.length = shape.length) .stride
  validateStrides shape dtype strides
  let last ← (shape.zip strides).foldlM (fun last axis => do
    checkedU64Add last (← checkedU64Multiply (axis.1 - 1) axis.2)) byteOffset
  checkedU64Add last (← nativeItemSize dtype)

end Descriptors

section Snapshots

/-- The items of a payload as words. -/
def doubles (payload : Bytes) : List Nat :=
  (List.range (payload.length / 8)).map (fun index => payload.word (8 * index) 8)

/-- The payload with each negative zero replaced. -/
def canonicalPayload (payload : Bytes) : Bytes :=
  (doubles payload).flatMap (fun word => Bytes.ofWord 8 (Binary64.canonical word))

/-- What a payload of this type may hold. -/
def validatePayload (dtype : DType) (payload : Bytes) : Except Error Unit := do
  demand (dtype = .u8 → ∀ value ∈ payload, value = 0 ∨ value = 1) .representation
  demand (dtype = .f64 → ∀ word ∈ doubles payload, Binary64.Fraction word) .representation

structure NativeBufferSnapshot where
  shape : List Nat
  dtype : DType
  byteOffset : Nat
  strides : List Nat
  sourceOwnership : SourceOwnership
  sourceMutability : SourceMutability
  declaredBaseAlignment : Nat
  sourceNbytes : Nat
  logicalPayload : Bytes
deriving DecidableEq, Repr

def NativeBufferSnapshot.postInit (self : NativeBufferSnapshot) : Except Error NativeBufferSnapshot := do
  let count ← normalizeShape self.shape
  let itemSize ← nativeItemSize self.dtype
  demand (self.strides.length = self.shape.length) .stride
  demand (self.logicalPayload.length = (← checkedU64Multiply count itemSize)) (.reference .shape)
  demand (self.sourceOwnership ∈ [SourceOwnership.runtimeOwned, .callerBorrowed]) .ownership
  demand (self.sourceMutability ∈ [SourceMutability.readOnly, .mutableSnapshotted]) .ownership
  validateAlignment self.dtype self.byteOffset self.strides self.declaredBaseAlignment
  validateStrides self.shape self.dtype self.strides
  let required ← requiredNativeSpan self.shape self.dtype self.byteOffset self.strides
  demand (¬ self.sourceNbytes < required) (.reference .shape)
  validatePayload self.dtype self.logicalPayload
  return if self.dtype = .f64 then { self with logicalPayload := canonicalPayload self.logicalPayload } else self

/-- An object with the buffer protocol. -/
structure Buffer where
  bytes : Bytes
  contiguous : Bool
  readonly : Bool
deriving DecidableEq, Repr

/-- The arguments of `make_native_buffer_snapshot` but the buffer. -/
structure Descriptor where
  shape : List Nat
  dtype : DType
  byteOffset : Nat
  strides : Option (List Nat)
  sourceOwnership : SourceOwnership
  declaredBaseAlignment : Nat
  snapshotBorrowed : Bool
deriving DecidableEq, Repr

/-- Where the rows start, in the order of the loops. -/
def rowStarts (byteOffset : Nat) : List Nat → List Nat → List Nat
  | [_, sy], [_, row] => (List.range sy).map (fun y => byteOffset + y * row)
  | [_, sy, sz], [_, row, slice] => (List.range sz).flatMap (fun z =>
    (List.range sy).map (fun y => byteOffset + z * slice + y * row))
  | _, _ => []

def Descriptor.normalizedStrides (descriptor : Descriptor) : Except Error (List Nat) :=
  match descriptor.strides with
  | some strides => .ok strides
  | none => contiguousStrides descriptor.shape descriptor.dtype

/-- `none` is an object without the buffer protocol. -/
def makeNativeBufferSnapshot (buffer : Option Buffer) (descriptor : Descriptor) :
    Except Error NativeBufferSnapshot := do
  let _ ← normalizeShape descriptor.shape
  let strides ← descriptor.normalizedStrides
  validateAlignment descriptor.dtype descriptor.byteOffset strides descriptor.declaredBaseAlignment
  let required ← requiredNativeSpan descriptor.shape descriptor.dtype descriptor.byteOffset strides
  let view ← orError buffer .representation
  demand view.contiguous .stride
  demand (¬ view.bytes.length < required) (.reference .shape)
  demand (¬ (descriptor.sourceOwnership = .callerBorrowed ∧ ¬ descriptor.snapshotBorrowed)) .ownership
  demand (descriptor.sourceOwnership ∈ [SourceOwnership.runtimeOwned, .callerBorrowed]) .ownership
  let itemSize ← nativeItemSize descriptor.dtype
  let rowBytes ← checkedU64Multiply (descriptor.shape.getD 0 0) itemSize
  let payload := (rowStarts descriptor.byteOffset descriptor.shape strides).foldl
    (fun logical start => logical ++ view.bytes.slice start rowBytes) []
  validatePayload descriptor.dtype payload
  NativeBufferSnapshot.postInit {
    shape := descriptor.shape
    dtype := descriptor.dtype
    byteOffset := descriptor.byteOffset
    strides := strides
    sourceOwnership := descriptor.sourceOwnership
    sourceMutability := if view.readonly then .readOnly else .mutableSnapshotted
    declaredBaseAlignment := descriptor.declaredBaseAlignment
    sourceNbytes := view.bytes.length
    logicalPayload := payload }

/-- The keyword arguments of `native_snapshot_from_dense`. -/
structure Placement where
  byteOffset : Nat
  rowPaddingBytes : Nat
  slicePaddingBytes : Nat
  declaredBaseAlignment : Nat
deriving DecidableEq, Repr

/-- The strides of a shape with this padding. -/
def Placement.strides (placement : Placement) (shape : List Nat) : Except Error (List Nat) := do
  let rowStride ← checkedU64Add (shape.getD 0 0) placement.rowPaddingBytes
  match shape.drop 2 with
  | [] => return [1, rowStride]
  | _ :: _ =>
    let sliceStride ← checkedU64Add (← checkedU64Multiply rowStride (shape.getD 1 0)) placement.slicePaddingBytes
    return [1, rowStride, sliceStride]

def nativeSnapshotFromDense (placement : Placement) (field : DenseBinaryField) : Except Error NativeBufferSnapshot := do
  let strides ← placement.strides field.shape
  let required ← requiredNativeSpan field.shape .u8 placement.byteOffset strides
  let zeros ← bytearray required
  let rowBytes := field.shape.getD 0 0
  let (backing, _) := (rowStarts placement.byteOffset field.shape strides).foldl
    (fun (copied : Bytes × Nat) destination =>
      (copied.1.blit destination (field.payload.slice copied.2 rowBytes), copied.2 + rowBytes))
    (zeros, 0)
  makeNativeBufferSnapshot (some ⟨backing, true, false⟩) {
    shape := field.shape
    dtype := .u8
    byteOffset := placement.byteOffset
    strides := some strides
    sourceOwnership := .runtimeOwned
    declaredBaseAlignment := placement.declaredBaseAlignment
    snapshotBorrowed := false }

def denseFromNative (snapshot : NativeBufferSnapshot) : Except Error DenseBinaryField := do
  demand (snapshot.dtype = .u8) .conversion
  DenseBinaryField.make snapshot.shape snapshot.logicalPayload

end Snapshots

end PooleOS.Pdc.Representation
