import PooleOS.Lib.Layout
import PooleOS.Lib.Rows
import PooleOS.Lib.Strides
import PooleOS.Pdc.Lossless

/- Native buffers: what the checks of a descriptor mean for the items of its cells,
and what a snapshot holds. -/
namespace PooleOS.Pdc.Representation

open Nat Option Bytes
open List
open Strides

section Arithmetic

variable {left right total : Nat}

theorem checkedU64Add_ok : checkedU64Add left right = .ok total ↔ total = left + right ∧ left + right ≤ maxU64 := by
  rw [checkedU64Add, demand_bind_eq_ok, pure_eq_ok]
  constructor
  · rintro ⟨fits, same⟩
    exact ⟨same, by omega⟩
  · rintro ⟨same, fits⟩
    exact ⟨by omega, same⟩

theorem checkedU64Multiply_ok : checkedU64Multiply left right = .ok total ↔
    total = left * right ∧ left * right ≤ maxU64 := by
  have fits : ¬ (left ≠ 0 ∧ maxU64 / left < right) ↔ left * right ≤ maxU64 := by
    rcases Nat.eq_zero_or_pos left with rfl | positive
    · simp
    · rw [div_lt_iff_lt_mul positive, mul_comm right]
      constructor
      · intro not
        exact Nat.le_of_not_lt (fun more => not ⟨Nat.ne_of_gt positive, more⟩)
      · exact fun within both => Nat.not_lt_of_le within both.2
  rw [checkedU64Multiply, demand_bind_eq_ok, pure_eq_ok, fits, and_comm]

end Arithmetic

section Spans

variable {shape strides : List Nat} {dtype : DType} {itemSize byteOffset required count : Nat}

/-- The two kinds of shape. -/
theorem shape_cases (accepted : normalizeShape shape = .ok count) : (∃ sx sy, shape = [sx, sy] ∧ 3 ≤ sx ∧ 3 ≤ sy) ∨
      ∃ sx sy sz, shape = [sx, sy, sz] ∧ 3 ≤ sx ∧ 3 ≤ sy ∧ 3 ≤ sz := by
  obtain ⟨length, wide, _⟩ := normalizeShape_ok accepted
  rcases length with two | three
  · obtain ⟨sx, sy, rfl⟩ := length_eq_two.mp two
    simp only [forall_mem_cons] at wide
    exact .inl ⟨sx, sy, rfl, wide.1, wide.2.1⟩
  · obtain ⟨sx, sy, sz, rfl⟩ := length_eq_three.mp three
    simp only [forall_mem_cons] at wide
    exact .inr ⟨sx, sy, sz, rfl, wide.1, wide.2.1, wide.2.2.1⟩

/-- The strides that fit a shape and an item size. -/
structure Fitting (shape : List Nat) (itemSize : Nat) (strides : List Nat) : Prop where
  length : strides.length = shape.length
  positive : ∀ stride ∈ strides, 0 < stride
  items : strides.head? = some itemSize
  spaced : Spaced shape strides

theorem fitting_iff : Fitting shape itemSize strides ↔ strides.length = shape.length ∧
    (∀ stride ∈ strides, 0 < stride) ∧ strides.head? = some itemSize ∧ Spaced shape strides :=
  ⟨fun fitting => ⟨fitting.length, fitting.positive, fitting.items, fitting.spaced⟩,
    fun ⟨length, positive, items, spaced⟩ => ⟨length, positive, items, spaced⟩⟩

theorem validateStrides_ok (item : nativeItemSize dtype = .ok itemSize) (accepted : normalizeShape shape = .ok count)
    (length : strides.length = shape.length) : validateStrides shape dtype strides = .ok () ↔
      Fitting shape itemSize strides ∧ ∀ axis ∈ shape.dropLast.zipIdx, strides.getD axis.2 0 * axis.1 ≤ maxU64 := by
  have checks : validateStrides shape dtype strides = .ok () ↔ (∀ stride ∈ strides, 0 < stride) ∧
      strides.getD 0 0 = itemSize ∧ ∀ axis ∈ shape.dropLast.zipIdx,
        strides.getD axis.2 0 * axis.1 ≤ maxU64 ∧ ¬ strides.getD (axis.2 + 1) 0 < strides.getD axis.2 0 * axis.1 := by
    rw [validateStrides, item, ok_bind, unit_bind_eq_ok, demand_bind_eq_ok]
    simp only [forM_eq_ok, bind_eq_ok_iff, checkedU64Multiply_ok, demand_eq_ok]
    refine and_congr_right (fun _ => and_congr_right (fun _ => forall₂_congr (fun axis _ => ?_)))
    constructor
    · rintro ⟨_, ⟨rfl, fits⟩, covered⟩
      exact ⟨fits, covered⟩
    · rintro ⟨fits, covered⟩
      exact ⟨_, ⟨rfl, fits⟩, covered⟩
  rw [checks, fitting_iff]
  rcases shape_cases accepted with ⟨sx, sy, rfl, _⟩ | ⟨sx, sy, sz, rfl, _⟩
  · obtain ⟨first, second, rfl⟩ := length_eq_two.mp length
    simp [Spaced]
    omega
  · obtain ⟨first, second, third, rfl⟩ := length_eq_three.mp length
    simp [Spaced]
    omega

/-- The loop over the axes adds up to the last item. -/
theorem span_loop : ∀ {shape strides : List Nat} {start total : Nat}, (shape.zip strides).foldlM (fun last axis => do
      checkedU64Add last (← checkedU64Multiply (axis.1 - 1) axis.2)) start = .ok total →
        total = start + last shape strides
  | [], strides, start, total, run => by
      cases run
      rfl
  | _ :: _, [], start, total, run => by
      cases run
      rfl
  | extent :: shape, stride :: strides, start, total, run => by
      rw [zip_cons_cons, foldlM_cons] at run
      obtain ⟨next, first, later⟩ := bind_eq_ok run
      obtain ⟨product, multiplied, added⟩ := bind_eq_ok first
      obtain ⟨rfl, _⟩ := checkedU64Multiply_ok.mp multiplied
      obtain ⟨rfl, _⟩ := checkedU64Add_ok.mp added
      rw [span_loop later, last]
      exact add_assoc ..

theorem span_loop_runs : ∀ {shape strides : List Nat} {start : Nat}, start + last shape strides ≤ maxU64 →
    (shape.zip strides).foldlM (fun last axis => do
      checkedU64Add last (← checkedU64Multiply (axis.1 - 1) axis.2)) start = .ok (start + last shape strides)
  | [], _, _, _ => rfl
  | _ :: _, [], _, _ => rfl
  | extent :: shape, stride :: strides, start, bound => by
      rw [last, ← add_assoc] at bound ⊢
      have product : checkedU64Multiply (extent - 1) stride = .ok ((extent - 1) * stride) :=
        checkedU64Multiply_ok.mpr ⟨rfl, by omega⟩
      have sum : checkedU64Add start ((extent - 1) * stride) = .ok (start + (extent - 1) * stride) :=
        checkedU64Add_ok.mpr ⟨rfl, by omega⟩
      rw [zip_cons_cons, foldlM_cons, product, ok_bind, sum, ok_bind]
      exact span_loop_runs bound

/-- The span is exact, and the checks before it overflow only when it does. -/
theorem requiredNativeSpan_ok (item : nativeItemSize dtype = .ok itemSize)
    (accepted : normalizeShape shape = .ok count) :
    requiredNativeSpan shape dtype byteOffset strides = .ok required ↔
      Fitting shape itemSize strides ∧ required = byteOffset + last shape strides + itemSize ∧ required ≤ maxU64 := by
  rw [requiredNativeSpan, accepted, ok_bind, demand_bind_eq_ok, unit_bind_eq_ok, item]
  constructor
  · rintro ⟨length, strided, run⟩
    obtain ⟨total, looped, added⟩ := bind_eq_ok run
    obtain ⟨rfl, bound⟩ := checkedU64Add_ok.mp added
    rw [span_loop looped] at bound ⊢
    exact ⟨((validateStrides_ok item accepted length).mp strided).1, rfl, bound⟩
  · rintro ⟨fitting, rfl, bound⟩
    refine ⟨fitting.length, (validateStrides_ok item accepted fitting.length).mpr ⟨fitting, ?_⟩, ?_⟩
    · -- An axis of at least three cells needs more room than one of its strides.
      have spaced := fitting.spaced
      have more : ∀ {extent : Nat} (stride : Nat), 3 ≤ extent → stride ≤ (extent - 1) * stride :=
        fun stride wide => Nat.le_mul_of_pos_left stride (by omega)
      rcases shape_cases accepted with ⟨sx, sy, rfl, _, wide⟩ | ⟨sx, sy, sz, rfl, _, wide, high⟩
      · obtain ⟨first, second, rfl⟩ := length_eq_two.mp fitting.length
        have row := more second wide
        simp [Spaced, last] at spaced bound ⊢
        omega
      · obtain ⟨first, second, third, rfl⟩ := length_eq_three.mp fitting.length
        have row := more second wide
        have slice := more third high
        simp [Spaced, last] at spaced bound ⊢
        omega
    · rw [span_loop_runs (by omega), ok_bind]
      exact checkedU64Add_ok.mpr ⟨rfl, bound⟩

end Spans

section Rows

variable {shape strides : List Nat} {itemSize byteOffset count : Nat}

section

variable (accepted : normalizeShape shape = .ok count) (fitting : Fitting shape itemSize strides)
include accepted fitting

/-- The row of a cell is the one its other axes select. -/
theorem rowStarts_cell
    {cell : List Nat} (inside : Strides.Inside shape.tail cell) :
    (rowStarts byteOffset shape strides)[flatIndex shape.tail cell]? =
      some (byteOffset + position strides.tail cell) := by
  rcases shape_cases accepted with ⟨sx, sy, rfl, _⟩ | ⟨sx, sy, sz, rfl, _⟩
  · obtain ⟨first, second, rfl⟩ := length_eq_two.mp fitting.length
    obtain ⟨y, rest, less, none, rfl⟩ := forall₂_cons_right_iff.mp inside
    have here : (range sy)[y]? = some y := getElem?_range less
    simp [rowStarts, flatIndex, position, here]
  · obtain ⟨first, second, third, rfl⟩ := length_eq_three.mp fitting.length
    obtain ⟨y, rest, less, more, rfl⟩ := forall₂_cons_right_iff.mp inside
    obtain ⟨z, rest, less', none, rfl⟩ := forall₂_cons_right_iff.mp more
    have row := @getElem?_flatMap_width Nat Nat sy
      (fun z => (range sy).map (fun y => byteOffset + z * third + y * second)) (range sz)
      (fun z _ => by simp) z y less
    simp only [rowStarts, tail_cons, flatIndex, position, mul_zero, add_zero]
    rw [add_comm y, mul_comm sy, row, getElem?_range less', bind_some, getElem?_map,
      getElem?_range less, map_some]
    congr 1
    omega

/-- A cell is a place in one row. -/
theorem Fitting.row {cell : List Nat} (inside : Strides.Inside shape cell) :
    ∃ x rest, x < shape.getD 0 0 ∧ Strides.Inside shape.tail rest ∧
      flatIndex shape cell = x + shape.getD 0 0 * flatIndex shape.tail rest ∧
        position strides cell = x * itemSize + position strides.tail rest := by
  have items := fitting.items
  cases inside with
  | nil => rcases shape_cases accepted with ⟨_, _, none, _⟩ | ⟨_, _, _, none, _⟩ <;> cases none
  | @cons x sx rest shape less inner =>
    cases strides with
    | nil => cases items
    | cons first strides =>
      obtain rfl := some.inj items
      exact ⟨x, rest, less, inner, rfl, rfl⟩

theorem rowStarts_length :
    (rowStarts byteOffset shape strides).length = shape.tail.prod := by
  rcases shape_cases accepted with ⟨sx, sy, rfl, _⟩ | ⟨sx, sy, sz, rfl, _⟩
  · obtain ⟨first, second, rfl⟩ := length_eq_two.mp fitting.length
    simp [rowStarts]
  · obtain ⟨first, second, third, rfl⟩ := length_eq_three.mp fitting.length
    simp [rowStarts, mul_comm]

/-- A row starts at its first cell. -/
theorem rowStarts_mem
    {start : Nat} (member : start ∈ rowStarts byteOffset shape strides) :
    ∃ cell, Strides.Inside shape.tail cell ∧ start = byteOffset + position strides.tail cell := by
  rcases shape_cases accepted with ⟨sx, sy, rfl, _⟩ | ⟨sx, sy, sz, rfl, _⟩
  · obtain ⟨first, second, rfl⟩ := length_eq_two.mp fitting.length
    obtain ⟨y, less, rfl⟩ := mem_map.mp member
    exact ⟨[y], .cons (mem_range.mp less) .nil, rfl⟩
  · obtain ⟨first, second, third, rfl⟩ := length_eq_three.mp fitting.length
    obtain ⟨z, less', inner⟩ := mem_flatMap.mp member
    obtain ⟨y, less, rfl⟩ := mem_map.mp inner
    refine ⟨[y, z], .cons (mem_range.mp less) (.cons (mem_range.mp less') .nil), ?_⟩
    simp only [tail_cons, position]
    omega

/-- A row and the bytes of its items lie in the span. -/
theorem row_within
    {start : Nat} (member : start ∈ rowStarts byteOffset shape strides) :
    byteOffset ≤ start ∧ start + shape.getD 0 0 * itemSize ≤ byteOffset + last shape strides + itemSize := by
  obtain ⟨cell, inside, rfl⟩ := rowStarts_mem accepted fitting member
  have least := @position_le_last shape.tail strides.tail cell inside
  have items := fitting.items
  cases shape with
  | nil => rcases shape_cases accepted with ⟨_, _, none, _⟩ | ⟨_, _, _, none, _⟩ <;> cases none
  | cons sx shape =>
    cases strides with
    | nil => cases items
    | cons first strides =>
      obtain rfl := some.inj items
      have wide : 3 ≤ sx := (normalizeShape_ok accepted).2.1 sx (mem_cons_self ..)
      have whole : sx * first = (sx - 1) * first + first := by
        rw [← Nat.succ_mul, Nat.succ_eq_add_one, Nat.sub_add_cancel (by omega)]
      simp only [getD_cons_zero, tail_cons, last] at least ⊢
      omega

/-- A row ends before the one after it starts. -/
theorem rowStarts_ordered :
    (rowStarts byteOffset shape strides).Pairwise (fun start later => start + shape.getD 0 0 * itemSize ≤ later) := by
  have spaced := fitting.spaced
  have items := fitting.items
  have near : ∀ {low high : Nat} (stride : Nat), low < high → low * stride + stride ≤ high * stride := by
    intro low high stride lower
    rw [← succ_mul]
    exact mul_le_mul_right _ lower
  rcases shape_cases accepted with ⟨sx, sy, rfl, _⟩ | ⟨sx, sy, sz, rfl, _⟩
  · obtain ⟨first, second, rfl⟩ := length_eq_two.mp fitting.length
    obtain rfl := some.inj items
    refine pairwise_map.mpr (pairwise_lt_range.imp (fun {low high} lower => ?_))
    have rows := near second lower
    have covers : first * sx ≤ second := spaced.1
    rw [getD_cons_zero, mul_comm sx]
    omega
  · obtain ⟨first, second, third, rfl⟩ := length_eq_three.mp fitting.length
    obtain rfl := some.inj items
    obtain ⟨covers, covers', _⟩ := spaced
    rw [getD_cons_zero, mul_comm sx]
    refine pairwise_flatMap.mpr ⟨fun z _ => ?_, ?_⟩
    · refine pairwise_map.mpr (pairwise_lt_range.imp (fun {low high} lower => ?_))
      have rows := near second lower
      omega
    · refine pairwise_lt_range.imp (fun {low high} lower => ?_)
      intro start member later member'
      obtain ⟨y, less, rfl⟩ := mem_map.mp member
      obtain ⟨y', _, rfl⟩ := mem_map.mp member'
      have slices := near third lower
      have rows := near second (mem_range.mp less)
      rw [mul_comm] at covers'
      omega

end

end Rows

section Accepted

variable {view : Buffer} {descriptor : Descriptor} {snapshot : NativeBufferSnapshot} {strides : List Nat}
  {itemSize count required : Nat}

/-- The bytes of the rows. -/
def rowPayload (bytes : Bytes) (descriptor : Descriptor) (strides : List Nat) (itemSize : Nat) : Bytes :=
  bytes.gather (descriptor.shape.getD 0 0 * itemSize) (rowStarts descriptor.byteOffset descriptor.shape strides)

/-- The payload as `__post_init__` stores it. -/
def storedPayload (dtype : DType) (payload : Bytes) : Bytes :=
  if dtype = .f64 then canonicalPayload payload else payload

/-- The snapshot of a payload. -/
def Descriptor.stored (descriptor : Descriptor) (view : Buffer) (strides : List Nat) (payload : Bytes) :
    NativeBufferSnapshot where
  shape := descriptor.shape
  dtype := descriptor.dtype
  byteOffset := descriptor.byteOffset
  strides := strides
  sourceOwnership := descriptor.sourceOwnership
  sourceMutability := if view.readonly then .readOnly else .mutableSnapshotted
  declaredBaseAlignment := descriptor.declaredBaseAlignment
  sourceNbytes := view.bytes.length
  logicalPayload := payload

/-- What an accepted buffer and descriptor have passed. -/
structure Accepts (view : Buffer) (descriptor : Descriptor) (strides : List Nat) (itemSize count required : Nat) :
    Prop where
  cells : normalizeShape descriptor.shape = .ok count
  strided : descriptor.normalizedStrides = .ok strides
  item : nativeItemSize descriptor.dtype = .ok itemSize
  aligned : validateAlignment descriptor.dtype descriptor.byteOffset strides descriptor.declaredBaseAlignment = .ok ()
  span : requiredNativeSpan descriptor.shape descriptor.dtype descriptor.byteOffset strides = .ok required
  contiguous : view.contiguous = true
  covered : required ≤ view.bytes.length
  borrowed : ¬ (descriptor.sourceOwnership = .callerBorrowed ∧ ¬ descriptor.snapshotBorrowed)
  owned : descriptor.sourceOwnership ∈ [SourceOwnership.runtimeOwned, .callerBorrowed]
  payload : validatePayload descriptor.dtype (rowPayload view.bytes descriptor strides itemSize) = .ok ()

theorem Accepts.fitting (accepts : Accepts view descriptor strides itemSize count required) :
    Fitting descriptor.shape itemSize strides ∧
      required = descriptor.byteOffset + last descriptor.shape strides + itemSize ∧ required ≤ maxU64 :=
  (requiredNativeSpan_ok accepts.item accepts.cells).mp accepts.span

/-- The rows that are read lie in the span. -/
theorem Accepts.row (accepts : Accepts view descriptor strides itemSize count required) {start : Nat}
    (member : start ∈ rowStarts descriptor.byteOffset descriptor.shape strides) :
    descriptor.byteOffset ≤ start ∧ start + descriptor.shape.getD 0 0 * itemSize ≤ required := by
  obtain ⟨fitting, rfl, _⟩ := accepts.fitting
  exact row_within accepts.cells fitting member

theorem shape_prod {shape : List Nat} (accepted : normalizeShape shape = .ok count) :
    shape.getD 0 0 * shape.tail.prod = count := by
  obtain ⟨_, _, total, _⟩ := normalizeShape_ok accepted
  rcases shape_cases accepted with ⟨sx, sy, rfl, _⟩ | ⟨sx, sy, sz, rfl, _⟩
  · exact total.symm
  · exact total.symm

theorem rowPayload_length (accepts : Accepts view descriptor strides itemSize count required) :
    (rowPayload view.bytes descriptor strides itemSize).length = count * itemSize := by
  have same : ∀ start ∈ rowStarts descriptor.byteOffset descriptor.shape strides,
      (view.bytes.slice start (descriptor.shape.getD 0 0 * itemSize)).length = descriptor.shape.getD 0 0 * itemSize :=
    fun start member => slice_length (le_trans (accepts.row member).2 accepts.covered)
  rw [rowPayload, Bytes.gather, length_flatMap_width same, rowStarts_length accepts.cells accepts.fitting.1,
    ← shape_prod accepts.cells]
  ring

theorem itemSize_le {dtype : DType} (item : nativeItemSize dtype = .ok itemSize) :
    dtype ≠ .other ∧ itemSize ≤ 8 ∧ 0 < itemSize := by
  cases dtype with
  | u8 =>
    cases item
    exact ⟨nofun, by decide, by decide⟩
  | f64 =>
    cases item
    exact ⟨nofun, by decide, by decide⟩
  | other => cases item

/-- `__post_init__` only canonicalises the payload. -/
theorem postInit_stores {self : NativeBufferSnapshot} (passed : self.postInit = .ok snapshot) :
    snapshot = { self with logicalPayload := storedPayload self.dtype self.logicalPayload } := by
  obtain ⟨_, _, passed⟩ := bind_eq_ok passed
  obtain ⟨_, _, passed⟩ := bind_eq_ok passed
  obtain ⟨_, passed⟩ := demand_bind_eq_ok.mp passed
  obtain ⟨_, _, passed⟩ := bind_eq_ok passed
  obtain ⟨_, _, _, passed⟩ := demand_bind_eq_ok.mp passed |>.imp_right (fun rest =>
    demand_bind_eq_ok.mp rest |>.imp_right (fun rest => demand_bind_eq_ok.mp rest))
  obtain ⟨_, _, passed⟩ := bind_eq_ok passed
  obtain ⟨_, _, passed⟩ := bind_eq_ok passed
  obtain ⟨_, _, passed⟩ := bind_eq_ok passed
  obtain ⟨_, passed⟩ := demand_bind_eq_ok.mp passed
  obtain ⟨_, _, passed⟩ := bind_eq_ok passed
  obtain rfl := Except.ok.inj passed
  unfold storedPayload
  split <;> rfl

/-- What passes is accepted once more by the snapshot itself. -/
theorem postInit_accepts (accepts : Accepts view descriptor strides itemSize count required) {payload : Bytes}
    (read : payload = rowPayload view.bytes descriptor strides itemSize) :
    (descriptor.stored view strides payload).postInit =
      .ok (descriptor.stored view strides (storedPayload descriptor.dtype payload)) := by
  obtain ⟨fitting, _⟩ := accepts.fitting
  obtain ⟨_, _, _, bound⟩ := normalizeShape_ok accepts.cells
  obtain ⟨_, small, _⟩ := itemSize_le accepts.item
  have items : checkedU64Multiply count itemSize = .ok (count * itemSize) := by
    refine checkedU64Multiply_ok.mpr ⟨rfl, Nat.le_trans (Nat.mul_le_mul bound small) (by decide)⟩
  have strided : validateStrides descriptor.shape descriptor.dtype strides = .ok () := by
    have span := accepts.span
    rw [requiredNativeSpan, accepts.cells, ok_bind, demand_bind_eq_ok, unit_bind_eq_ok] at span
    exact span.2.1
  have mutability : (if view.readonly then SourceMutability.readOnly else .mutableSnapshotted) ∈
      [SourceMutability.readOnly, .mutableSnapshotted] := by
    cases view.readonly <;> decide
  have payload_ok := accepts.payload
  rw [← read] at payload_ok
  have length := rowPayload_length accepts
  rw [← read] at length
  unfold NativeBufferSnapshot.postInit Descriptor.stored
  simp only [accepts.cells, accepts.item, ok_bind, items, accepts.aligned, strided, accepts.span,
    payload_ok, demand_pass fitting.length, demand_pass length, demand_pass accepts.owned, demand_pass mutability,
    demand_pass (not_lt.mpr accepts.covered)]
  rw [storedPayload, pure_eq_ok]
  by_cases double : descriptor.dtype = .f64
  · rw [if_pos double, if_pos double]
  · rw [if_neg double, if_neg double]

/-- `make_native_buffer_snapshot` accepts exactly what passes, and stores its rows. -/
theorem makeNativeBufferSnapshot_ok : makeNativeBufferSnapshot (some view) descriptor = .ok snapshot ↔
    ∃ strides itemSize count required, Accepts view descriptor strides itemSize count required ∧
      snapshot = descriptor.stored view strides
        (storedPayload descriptor.dtype (rowPayload view.bytes descriptor strides itemSize)) := by
  constructor
  · intro made
    obtain ⟨count, cells, made⟩ := bind_eq_ok made
    obtain ⟨strides, strided, made⟩ := bind_eq_ok made
    obtain ⟨_, aligned, made⟩ := bind_eq_ok made
    obtain ⟨required, span, made⟩ := bind_eq_ok made
    rw [orError_some, ok_bind, demand_bind_eq_ok, demand_bind_eq_ok, demand_bind_eq_ok, demand_bind_eq_ok] at made
    obtain ⟨contiguous, covered, borrowed, owned, made⟩ := made
    obtain ⟨itemSize, item, made⟩ := bind_eq_ok made
    obtain ⟨rowBytes, multiplied, made⟩ := bind_eq_ok made
    obtain ⟨rfl, _⟩ := checkedU64Multiply_ok.mp multiplied
    rw [foldl_gather, nil_append] at made
    obtain ⟨_, payload, made⟩ := bind_eq_ok made
    exact ⟨strides, itemSize, count, required,
      ⟨cells, strided, item, aligned, span, contiguous, Nat.le_of_not_lt covered, borrowed, owned, payload⟩,
      postInit_stores made⟩
  · rintro ⟨strides, itemSize, count, required, accepts, rfl⟩
    have row : checkedU64Multiply (descriptor.shape.getD 0 0) itemSize = .ok (descriptor.shape.getD 0 0 * itemSize) := by
      refine checkedU64Multiply_ok.mpr ⟨rfl, ?_⟩
      obtain ⟨_, small, _⟩ := itemSize_le accepts.item
      obtain ⟨_, _, _, limit⟩ := normalizeShape_ok accepts.cells
      have cells := shape_prod accepts.cells
      have positive : 0 < descriptor.shape.tail.prod :=
        prod_pos (fun extent member =>
          lt_of_lt_of_le (by decide) ((normalizeShape_ok accepts.cells).2.1 extent (mem_of_mem_tail member)))
      have within : descriptor.shape.getD 0 0 ≤ count := cells ▸ Nat.le_mul_of_pos_right _ positive
      exact Nat.le_trans (Nat.mul_le_mul (within.trans limit) small) (by decide)
    unfold makeNativeBufferSnapshot
    simp only [accepts.cells, accepts.strided, accepts.aligned, accepts.span, ok_bind, orError_some,
      demand_pass accepts.contiguous, demand_pass (not_lt.mpr accepts.covered), demand_pass accepts.borrowed,
      demand_pass accepts.owned, accepts.item, row]
    rw [foldl_gather, nil_append]
    change (validatePayload _ (rowPayload _ _ _ _) >>= fun _ => _) = _
    rw [accepts.payload, ok_bind]
    exact postInit_accepts accepts rfl

section

variable (accepts : Accepts view descriptor strides itemSize count required)
include accepts

/-- A byte of an item, in the buffer and in the payload. -/
theorem rowPayload_item {cell : List Nat}
    (inside : Strides.Inside descriptor.shape cell) :
    (rowPayload view.bytes descriptor strides itemSize).slice (flatIndex descriptor.shape cell * itemSize) itemSize =
      view.bytes.slice (descriptor.byteOffset + position strides cell) itemSize := by
  obtain ⟨fitting, _⟩ := accepts.fitting
  have same : ∀ start ∈ rowStarts descriptor.byteOffset descriptor.shape strides,
      (view.bytes.slice start (descriptor.shape.getD 0 0 * itemSize)).length = descriptor.shape.getD 0 0 * itemSize :=
    fun start member => slice_length (le_trans (accepts.row member).2 accepts.covered)
  obtain ⟨x, rest, less, inner, flat, placed⟩ := fitting.row accepts.cells inside
  have start := @rowStarts_cell _ _ _ descriptor.byteOffset _ accepts.cells fitting _ inner
  apply slice_congr
  intro place within
  have row : x * itemSize + place < descriptor.shape.getD 0 0 * itemSize := by
    have whole : (x + 1) * itemSize ≤ descriptor.shape.getD 0 0 * itemSize := mul_le_mul_right _ less
    rw [succ_mul] at whole
    omega
  have split : flatIndex descriptor.shape cell * itemSize + place =
      flatIndex descriptor.shape.tail rest * (descriptor.shape.getD 0 0 * itemSize) + (x * itemSize + place) := by
    rw [flat]
    ring
  rw [rowPayload, Bytes.gather, split, getElem?_flatMap_width same _ row, start, bind_some,
    getElem?_slice row, placed]
  congr 1
  omega

/-- The items of distinct cells do not overlap. -/
theorem items_apart {cell other : List Nat}
    (inside : Strides.Inside descriptor.shape cell) (inside' : Strides.Inside descriptor.shape other)
    (distinct : cell ≠ other) : Apart (descriptor.byteOffset + position strides cell, itemSize)
      (descriptor.byteOffset + position strides other, itemSize) := by
  obtain ⟨fitting, _⟩ := accepts.fitting
  have length := fitting.length
  have items := fitting.items
  have spaced := fitting.spaced
  cases strides with
  | nil => cases items
  | cons first strides =>
    obtain rfl := some.inj items
    rcases position_apart length.symm spaced inside inside' distinct with before | after
    · exact .inl (by dsimp only; omega)
    · exact .inr (by dsimp only; omega)

/-- Bytes outside the span are not looked at. -/
theorem Accepts.congr {other : Buffer}
    (length : other.bytes.length = view.bytes.length) (contiguous : other.contiguous = view.contiguous)
    (same : ∀ place, descriptor.byteOffset ≤ place → place < required → other.bytes[place]? = view.bytes[place]?) :
    Accepts other descriptor strides itemSize count required ∧
      rowPayload other.bytes descriptor strides itemSize = rowPayload view.bytes descriptor strides itemSize := by
  have rows : rowPayload other.bytes descriptor strides itemSize =
      rowPayload view.bytes descriptor strides itemSize := by
    apply flatMap_congr
    intro start member
    obtain ⟨after, before⟩ := accepts.row member
    apply slice_congr
    exact fun place inside => same _ (by omega) (by omega)
  refine ⟨{ accepts with contiguous := ?_, covered := ?_, payload := ?_ }, rows⟩
  · rw [contiguous]
    exact accepts.contiguous
  · rw [length]
    exact accepts.covered
  · rw [rows]
    exact accepts.payload

end

/-- `-0.0`. -/
def negativeZero : Bytes := [0, 0, 0, 0, 0, 0, 0, 0x80]

/-- An item as it is stored. -/
def storedItem (dtype : DType) (item : Bytes) : Bytes :=
  if dtype = .f64 ∧ item = negativeZero then List.replicate 8 0 else item

theorem canonicalPayload_item {payload : Bytes} {index : Nat} (inside : index * 8 + 8 ≤ payload.length) :
    (canonicalPayload payload).slice (index * 8) 8 = storedItem .f64 (payload.slice (index * 8) 8) := by
  have width : ∀ word ∈ doubles payload, (ofWord 8 (Binary64.canonical word)).length = 8 :=
    fun word _ => ofWord_length ..
  have found : (doubles payload)[index]? = some (payload.word (index * 8) 8) := by
    have within : index < payload.length / 8 := by omega
    rw [doubles, getElem?_map, getElem?_range within, map_some, mul_comm]
  have item : (payload.slice (index * 8) 8).length = 8 := slice_length inside
  have small : payload.word (index * 8) 8 < 2 ^ 64 := word_lt ..
  have same : (canonicalPayload payload).slice (index * 8) 8 =
      ofWord 8 (Binary64.canonical (payload.word (index * 8) 8)) := by
    have whole : (ofWord 8 (Binary64.canonical (payload.word (index * 8) 8))).slice 0 8 =
        ofWord 8 (Binary64.canonical (payload.word (index * 8) 8)) := by
      have all := @Bytes.slice_whole (ofWord 8 (Binary64.canonical (payload.word (index * 8) 8)))
      exact all
    rw [← whole]
    apply slice_congr
    intro place within
    rw [canonicalPayload, getElem?_flatMap_width width index within, found, bind_some, zero_add]
  have back : ofWord 8 (payload.word (index * 8) 8) = payload.slice (index * 8) 8 := by
    have round := ofWord_little (payload.slice (index * 8) 8)
    rw [item] at round
    exact round
  rw [same, Binary64.canonical_eq small, storedItem]
  by_cases zero : payload.word (index * 8) 8 = 2 ^ 63
  · have pattern : payload.slice (index * 8) 8 = negativeZero := by
      rw [← back, zero]
      decide
    rw [if_pos zero, if_pos ⟨rfl, pattern⟩]
    decide
  · have other : ¬ payload.slice (index * 8) 8 = negativeZero := by
      intro pattern
      apply zero
      rw [word, pattern]
      decide
    rw [if_neg zero, if_neg (fun both => other both.2), back]

/-- The item of a cell in the stored payload. -/
theorem storedPayload_item (accepts : Accepts view descriptor strides itemSize count required) {cell : List Nat}
    (inside : Strides.Inside descriptor.shape cell) :
    (storedPayload descriptor.dtype (rowPayload view.bytes descriptor strides itemSize)).slice
        (flatIndex descriptor.shape cell * itemSize) itemSize =
      storedItem descriptor.dtype (view.bytes.slice (descriptor.byteOffset + position strides cell) itemSize) := by
  have read := rowPayload_item accepts inside
  by_cases double : descriptor.dtype = .f64
  · have item := accepts.item
    rw [double] at item
    cases item
    have room : flatIndex descriptor.shape cell * 8 + 8 ≤
        (rowPayload view.bytes descriptor strides 8).length := by
      have less := flatIndex_lt inside
      rw [rowPayload_length accepts, (normalizeShape_ok accepts.cells).2.2.1]
      omega
    rw [storedPayload, if_pos double, canonicalPayload_item room, read, double]
  · rw [storedPayload, if_neg double, read, storedItem, if_neg (fun both => double both.1)]

end Accepted

end PooleOS.Pdc.Representation
