import PooleOS.Lib.Views
import PooleOS.Pdc.Agree
import PooleOS.Pdc.Representation

/- What a representation stands for is a shape and a set of active cells, and a conversion keeps both. -/
namespace PooleOS.Pdc.Representation

open List

/-- The active cells of a field of this shape. -/
structure Picture where
  shape : List Nat
  active : Set Nat

section Valid

variable {shape activeIndices : List Nat} {payload : Bytes} {count : Nat}

theorem normalizeShape_ok (accepted : normalizeShape shape = .ok count) :
    (shape.length = 2 ∨ shape.length = 3) ∧ (∀ extent ∈ shape, 3 ≤ extent) ∧ count = shape.prod ∧
      count ≤ maxReferenceCells := by
  unfold normalizeShape at accepted
  rw [demand_bind_eq_ok, mapError_eq_ok] at accepted
  obtain ⟨wide, total, bound, _⟩ := validate_ok accepted.2
  refine ⟨?_, wide, total, bound⟩
  simpa [supportedDimensions] using accepted.1

theorem bytearray_ok (small : count < maxSize) : bytearray count = .ok (replicate count 0) := by
  rw [bytearray, demand_pass small]
  rfl

/-- The buffers for the cells of a shape can be made. -/
theorem bytearray_cells (accepted : normalizeShape shape = .ok count) {size : Nat} (few : size ≤ count) :
    bytearray size = .ok (replicate size 0) := by
  obtain ⟨_, _, _, bound⟩ := normalizeShape_ok accepted
  have limit : maxReferenceCells < maxSize := by decide
  exact bytearray_ok (by omega)

theorem dense_valid : DenseBinaryField.postInit shape payload = .ok () ↔
    normalizeShape shape = .ok payload.length ∧ ∀ value ∈ payload, value = 0 ∨ value = 1 := by
  rw [DenseBinaryField.postInit, bind_eq_ok_iff]
  simp only [demand_bind_eq_ok, demand_eq_ok]
  constructor
  · rintro ⟨count, accepted, rfl, binary⟩
    exact ⟨accepted, binary⟩
  · rintro ⟨accepted, binary⟩
    exact ⟨payload.length, accepted, rfl, binary⟩

/-- The loop over the indices carries the one before. -/
theorem indices_loop : ∀ {indices : List Nat} {previous : Int},
    (∃ last, indices.foldlM (fun (previous : Int) index => do
      demand (index < count) (Error.reference .shape)
      demand (¬ (index : Int) ≤ previous) Error.representation
      return (index : Int)) previous = .ok last) ↔
      (∀ index ∈ indices, index < count ∧ previous < index) ∧ indices.Pairwise (· < ·)
  | [], previous => by simp [pure, Except.pure]
  | index :: rest, previous => by
      simp only [foldlM_cons, bind_assoc, demand_bind_eq_ok, pure_bind, exists_and_left,
        @indices_loop rest index, forall_mem_cons, pairwise_cons]
      constructor
      · rintro ⟨inside, after, others, sorted⟩
        refine ⟨⟨⟨inside, by omega⟩, fun other member => ?_⟩, fun other member => ?_, sorted⟩
        · exact ⟨(others other member).1, by have := (others other member).2; omega⟩
        · exact Int.ofNat_lt.mp (others other member).2
      · rintro ⟨⟨⟨inside, after⟩, others⟩, above, sorted⟩
        refine ⟨inside, by omega, fun other member => ?_, sorted⟩
        exact ⟨(others other member).1, Int.ofNat_lt.mpr (above other member)⟩

theorem sparse_valid : SparseBinaryField.postInit shape activeIndices = .ok () ↔
    ∃ count, normalizeShape shape = .ok count ∧ (∀ index ∈ activeIndices, index < count) ∧
      activeIndices.Pairwise (· < ·) := by
  simp only [SparseBinaryField.postInit, bind_eq_ok_iff, pure_eq_ok, and_true]
  refine exists_congr (fun count => and_congr_right (fun _ => ?_))
  rw [indices_loop]
  refine and_congr_left (fun _ => forall₂_congr (fun index _ => ?_))
  omega

/-- The padding of a packed payload holds no cell. -/
theorem padding_clear (length : payload.length = (count + 7) / 8) :
    ¬ (count % 8 ≠ 0 ∧ ∃ last ∈ payload.getLast?, without last.toNat (2 ^ (count % 8) - 1) ≠ 0) ↔
      ∀ index, count ≤ index → payload.bit index = false := by
  by_cases whole : count % 8 = 0
  · have none : ∀ index, count ≤ index → payload.bit index = false :=
      fun index after => Bytes.bit_outside (by omega)
    exact iff_of_true (fun both => both.1 whole) none
  · have end_ : count / 8 < payload.length := by omega
    have last : payload.getLast? = some (payload[count / 8]) := by
      rw [getLast?_eq_getElem?, getElem?_eq_some_iff]
      refine ⟨by omega, ?_⟩
      congr 1
      omega
    simp only [last, Option.mem_some_iff, exists_eq_left', ne_eq, whole, not_false_eq_true, true_and, not_not,
      without_low]
    constructor
    · intro small index after
      by_cases inside : index / 8 = count / 8
      · have byte : payload.getD (index / 8) 0 = payload[count / 8] := by
          rw [inside, getD_eq_getElem _ _ end_]
        rw [Bytes.bit, byte]
        apply Nat.testBit_lt_two_pow
        exact small.trans_le (Nat.pow_le_pow_right (by decide) (by omega))
      · exact Bytes.bit_outside (by omega)
    · intro clear
      apply Nat.lt_pow_two_of_testBit
      intro power above
      by_cases low : power < 8
      · have here := clear (8 * (count / 8) + power) (by omega)
        have high : (8 * (count / 8) + power) / 8 = count / 8 := by omega
        have rest : (8 * (count / 8) + power) % 8 = power := by omega
        rw [Bytes.bit, high, rest, getD_eq_getElem _ _ end_] at here
        exact here
      · apply Nat.testBit_lt_two_pow
        exact Nat.lt_of_lt_of_le (UInt8.toNat_lt _) (Nat.pow_le_pow_right (by decide) (Nat.le_of_not_lt low))

theorem bitpacked_valid : BitPackedBinaryField.postInit shape payload = .ok () ↔
    ∃ count, normalizeShape shape = .ok count ∧ payload.length = (count + 7) / 8 ∧
      ∀ index, count ≤ index → payload.bit index = false := by
  rw [BitPackedBinaryField.postInit, bind_eq_ok_iff]
  simp only [demand_bind_eq_ok, demand_eq_ok]
  refine exists_congr (fun count => and_congr_right (fun _ => and_congr_right (fun length => ?_)))
  exact padding_clear length

theorem DenseBinaryField.make_ok (valid : DenseBinaryField.postInit shape payload = .ok ()) :
    DenseBinaryField.make shape payload = .ok ⟨shape, payload, valid⟩ := by
  rw [DenseBinaryField.make, certified_pass valid]
  rfl

theorem SparseBinaryField.make_ok (valid : SparseBinaryField.postInit shape activeIndices = .ok ()) :
    SparseBinaryField.make shape activeIndices = .ok ⟨shape, activeIndices, valid⟩ := by
  rw [SparseBinaryField.make, certified_pass valid]
  rfl

theorem BitPackedBinaryField.make_ok (valid : BitPackedBinaryField.postInit shape payload = .ok ()) :
    BitPackedBinaryField.make shape payload = .ok ⟨shape, payload, valid⟩ := by
  rw [BitPackedBinaryField.make, certified_pass valid]
  rfl

end Valid

section Pictures

variable {picture : Picture}

def DenseBinaryField.Shows (field : DenseBinaryField) (picture : Picture) : Prop :=
  field.shape = picture.shape ∧ ∀ index, index ∈ picture.active ↔ field.payload[index]? = some 1

def SparseBinaryField.Shows (field : SparseBinaryField) (picture : Picture) : Prop :=
  field.shape = picture.shape ∧ ∀ index, index ∈ picture.active ↔ index ∈ field.activeIndices

def BitPackedBinaryField.Shows (field : BitPackedBinaryField) (picture : Picture) : Prop :=
  field.shape = picture.shape ∧ ∀ index, index ∈ picture.active ↔ field.payload.bit index = true

theorem DenseBinaryField.shows (field : DenseBinaryField) :
    field.Shows ⟨field.shape, {index | field.payload[index]? = some 1}⟩ := ⟨rfl, fun _ => .rfl⟩

theorem SparseBinaryField.shows (field : SparseBinaryField) :
    field.Shows ⟨field.shape, {index | index ∈ field.activeIndices}⟩ := ⟨rfl, fun _ => .rfl⟩

theorem BitPackedBinaryField.shows (field : BitPackedBinaryField) :
    field.Shows ⟨field.shape, {index | field.payload.bit index = true}⟩ := ⟨rfl, fun _ => .rfl⟩

theorem dense_unique {first second : DenseBinaryField} (one : first.Shows picture) (two : second.Shows picture) :
    first = second := by
  obtain ⟨shape, payload, valid⟩ := first
  obtain ⟨shape', payload', valid'⟩ := second
  obtain ⟨rfl, cells⟩ := one
  obtain ⟨rfl, cells'⟩ := two
  obtain ⟨count, binary⟩ := dense_valid.mp valid
  obtain ⟨count', binary'⟩ := dense_valid.mp valid'
  have length : payload.length = payload'.length := Except.ok.inj (count.symm.trans count')
  have same : payload = payload' := by
    apply ext_getElem length
    intro index inside inside'
    have both : payload[index] = 1 ↔ payload'[index] = 1 := by
      have here := (cells index).symm.trans (cells' index)
      simpa [getElem?_eq_getElem inside, getElem?_eq_getElem inside'] using here
    rcases binary _ (getElem_mem inside) with zero | one
    · rcases binary' _ (getElem_mem inside') with zero' | one'
      · rw [zero, zero']
      · rw [both.mpr one', one']
    · rw [one, both.mp one]
  subst same
  rfl

theorem sparse_unique {first second : SparseBinaryField} (one : first.Shows picture) (two : second.Shows picture) :
    first = second := by
  obtain ⟨shape, indices, valid⟩ := first
  obtain ⟨shape', indices', valid'⟩ := second
  obtain ⟨rfl, cells⟩ := one
  obtain ⟨rfl, cells'⟩ := two
  obtain ⟨_, _, _, sorted⟩ := sparse_valid.mp valid
  obtain ⟨_, _, _, sorted'⟩ := sparse_valid.mp valid'
  have same : indices = indices' :=
    List.Pairwise.eq_of_mem_iff sorted sorted' (fun index => (cells index).symm.trans (cells' index))
  subst same
  rfl

theorem bitpacked_unique {first second : BitPackedBinaryField} (one : first.Shows picture)
    (two : second.Shows picture) : first = second := by
  obtain ⟨shape, payload, valid⟩ := first
  obtain ⟨shape', payload', valid'⟩ := second
  obtain ⟨rfl, cells⟩ := one
  obtain ⟨rfl, cells'⟩ := two
  obtain ⟨count, accepted, length, _⟩ := bitpacked_valid.mp valid
  obtain ⟨count', accepted', length', _⟩ := bitpacked_valid.mp valid'
  obtain rfl := Except.ok.inj (accepted.symm.trans accepted')
  have same : payload = payload' := by
    apply Bytes.ext_bit (length.trans length'.symm)
    intro index
    exact Bool.eq_iff_iff.mpr ((cells index).symm.trans (cells' index))
  subst same
  rfl

end Pictures

section Conversions

variable {picture : Picture}

/-- The cells of a picture lie in its shape. -/
theorem DenseBinaryField.Shows.cells {field : DenseBinaryField} (shows_ : field.Shows picture) :
    normalizeShape picture.shape = .ok field.payload.length ∧
      ∀ index ∈ picture.active, index < field.payload.length := by
  obtain ⟨accepted, _⟩ := dense_valid.mp field.valid
  refine ⟨shows_.1 ▸ accepted, fun index active => ?_⟩
  obtain ⟨inside, _⟩ := List.getElem?_eq_some_iff.mp ((shows_.2 index).mp active)
  exact inside

/-- A dense field whose payload is computed from the cells. -/
theorem dense_of_cells {payload : Bytes} {count : Nat} (accepted : normalizeShape picture.shape = .ok count)
    (length : payload.length = count) (binary : ∀ value ∈ payload, value = 0 ∨ value = 1)
    (cells : ∀ index, index ∈ picture.active ↔ payload[index]? = some 1) :
    ∃ field, DenseBinaryField.make picture.shape payload = .ok field ∧ field.Shows picture :=
  ⟨_, DenseBinaryField.make_ok (dense_valid.mpr ⟨length ▸ accepted, binary⟩), rfl, cells⟩

/-- A packed field whose payload is computed by marking cells. -/
theorem bitpacked_of_marks {items : List (UInt8 × Nat)} {count : Nat}
    (accepted : normalizeShape picture.shape = .ok count)
    (fits : ∀ item ∈ items, item.2 < count ∧ (item.1 = 0 ∨ item.1 = 1))
    (cells : ∀ index, index ∈ picture.active ↔ (1, index) ∈ items) : ∃ field, BitPackedBinaryField.make picture.shape
      (items.foldl (fun packed item => packed.mark item.2 item.1) (replicate ((count + 7) / 8) 0)) = .ok field ∧
        field.Shows picture := by
  have marked : ∀ wanted, Bytes.bit (items.foldl (fun packed item => packed.mark item.2 item.1)
      (replicate ((count + 7) / 8) 0)) wanted = true ↔ (1, wanted) ∈ items := by
    intro wanted
    rw [Bytes.bit_marks, Bytes.bit_zeros]
    · simp
    · intro item member
      obtain ⟨inside, binary⟩ := fits item member
      rw [length_replicate]
      exact ⟨by omega, binary⟩
  have valid : BitPackedBinaryField.postInit picture.shape (items.foldl (fun packed item =>
      packed.mark item.2 item.1) (replicate ((count + 7) / 8) 0)) = .ok () := by
    refine bitpacked_valid.mpr ⟨count, accepted, ?_, fun index after => ?_⟩
    · rw [Bytes.marks_length, length_replicate]
    · rw [Bool.eq_false_iff, ne_eq, marked]
      intro member
      have inside := (fits _ member).1
      omega
  exact ⟨_, BitPackedBinaryField.make_ok valid, rfl, fun index => (cells index).trans (marked index).symm⟩

theorem sparseFromDense_keeps {field : DenseBinaryField} (shows_ : field.Shows picture) :
    ∃ result, sparseFromDense field = .ok result ∧ result.Shows picture := by
  obtain ⟨accepted, _⟩ := shows_.cells
  obtain ⟨_, binary⟩ := dense_valid.mp field.valid
  have member : ∀ index, index ∈ (field.payload.zipIdx.filter (fun item => item.1 ≠ 0)).map (·.2) ↔
      field.payload[index]? = some 1 := by
    intro index
    simp only [mem_map, mem_filter, mem_zipIdx_iff_getElem?, decide_eq_true_eq]
    constructor
    · rintro ⟨⟨value, place⟩, ⟨found, set⟩, rfl⟩
      rcases binary value (mem_of_getElem? found) with zero | one
      · exact absurd zero set
      · exact one ▸ found
    · exact fun found => ⟨(1, index), ⟨found, by simp⟩, rfl⟩
  have sorted : ((field.payload.zipIdx.filter (fun item => item.1 ≠ 0)).map (·.2)).Pairwise (· < ·) := by
    refine List.Pairwise.sublist (filter_sublist.map _) ?_
    rw [zipIdx_map_snd, ← range_eq_range']
    exact pairwise_lt_range
  have valid : SparseBinaryField.postInit field.shape
      ((field.payload.zipIdx.filter (fun item => item.1 ≠ 0)).map (·.2)) = .ok () := by
    refine sparse_valid.mpr ⟨_, shows_.1 ▸ accepted, fun index found => ?_, sorted⟩
    obtain ⟨inside, _⟩ := List.getElem?_eq_some_iff.mp ((member index).mp found)
    exact inside
  exact ⟨_, SparseBinaryField.make_ok valid, shows_.1, fun index => (shows_.2 index).trans (member index).symm⟩

theorem getElem?_foldl_set_one {indices : List Nat} {cells : Bytes} (index : Nat) :
    (indices.foldl (fun payload index => payload.set index 1) cells)[index]? =
      if index ∈ indices ∧ index < cells.length then some 1 else cells[index]? := by
  induction indices generalizing cells with
  | nil => simp
  | cons first rest ih =>
    rw [foldl_cons, ih, length_set, getElem?_set]
    by_cases here : first = index
    · subst here
      by_cases inside : first < cells.length
      · simp [inside]
      · simp [inside]
    · have other : index ≠ first := fun same => here same.symm
      simp [here, other]

theorem denseFromSparse_keeps {field : SparseBinaryField} (shows_ : field.Shows picture) :
    ∃ result, denseFromSparse field = .ok result ∧ result.Shows picture := by
  obtain ⟨count, accepted, inside, _⟩ := sparse_valid.mp field.valid
  have length : ∀ {indices : List Nat} {cells : Bytes},
      (indices.foldl (fun payload index => payload.set index 1) cells).length = cells.length := by
    intro indices
    induction indices with
    | nil => exact rfl
    | cons first rest ih => exact ih.trans length_set
  have cell := @getElem?_foldl_set_one field.activeIndices (replicate count 0)
  rw [denseFromSparse, accepted, ok_bind, bytearray_cells accepted le_rfl, ok_bind, shows_.1]
  apply dense_of_cells (shows_.1 ▸ accepted) (length.trans length_replicate)
  · intro value member
    obtain ⟨index, found⟩ := getElem?_of_mem member
    rw [cell, getElem?_replicate] at found
    split at found
    · exact .inr (Option.some.inj found).symm
    · split at found
      · exact .inl (Option.some.inj found).symm
      · cases found
  · intro index
    rw [shows_.2, cell, length_replicate, getElem?_replicate]
    constructor
    · exact fun member => if_pos ⟨member, inside index member⟩
    · intro found
      split at found
      · rename_i both
        exact both.1
      · split at found
        · exact absurd (Option.some.inj found) (by decide)
        · cases found

theorem bitpackedFromDense_keeps {field : DenseBinaryField} (shows_ : field.Shows picture) :
    ∃ result, bitpackedFromDense field = .ok result ∧ result.Shows picture := by
  obtain ⟨accepted, _⟩ := shows_.cells
  obtain ⟨_, binary⟩ := dense_valid.mp field.valid
  rw [bitpackedFromDense, bytearray_cells accepted (by omega), ok_bind, shows_.1]
  apply bitpacked_of_marks accepted
  · intro item member
    have found := mem_zipIdx_iff_getElem?.mp member
    obtain ⟨inside, _⟩ := List.getElem?_eq_some_iff.mp found
    exact ⟨inside, binary _ (mem_of_getElem? found)⟩
  · intro index
    rw [shows_.2, mem_zipIdx_iff_getElem?]

theorem bitpackedFromSparse_keeps {field : SparseBinaryField} (shows_ : field.Shows picture) :
    ∃ result, bitpackedFromSparse field = .ok result ∧ result.Shows picture := by
  obtain ⟨count, accepted, inside, _⟩ := sparse_valid.mp field.valid
  have paired : ∀ {indices : List Nat} {packed : Bytes},
      indices.foldl (fun packed index => packed.mark index 1) packed =
        (indices.map (fun index => ((1 : UInt8), index))).foldl (fun packed item => packed.mark item.2 item.1)
          packed := by
    intro indices packed
    rw [foldl_map]
  rw [bitpackedFromSparse, accepted, ok_bind, bytearray_cells accepted (by omega), ok_bind, shows_.1, paired]
  apply bitpacked_of_marks (shows_.1 ▸ accepted)
  · intro item member
    obtain ⟨index, found, rfl⟩ := mem_map.mp member
    exact ⟨inside index found, .inr rfl⟩
  · intro index
    rw [shows_.2]
    simp

/-- A byte spread over eight. -/
theorem unpackedBytes_bit (value : UInt8) {power : Nat} (low : power < 8) :
    (unpackedBytes value)[power]? = some (if value.toNat.testBit power then 1 else 0) := by
  have places : (UInt8.ofNat power).toNat % 8 = power := by
    rw [UInt8.toNat_ofNat']
    omega
  have lone : ((value >>> UInt8.ofNat power) &&& 1).toNat = if value.toNat.testBit power then 1 else 0 := by
    have one : (1 : UInt8).toNat = 1 := rfl
    rw [UInt8.toNat_and, UInt8.toNat_shiftRight, places, one, Nat.and_one_is_mod, Nat.testBit_eq_decide_div_mod_eq,
      Nat.shiftRight_eq_div_pow]
    have two := Nat.mod_two_eq_zero_or_one (value.toNat / 2 ^ power)
    rcases two with even | odd
    · simp [even]
    · simp [odd]
  unfold unpackedBytes
  rw [getElem?_map, getElem?_range low, Option.map_some, Option.some.injEq]
  apply UInt8.toNat_inj.mp
  rw [lone]
  split <;> rfl

theorem denseFromBitpacked_keeps {field : BitPackedBinaryField} (shows_ : field.Shows picture) :
    ∃ result, denseFromBitpacked field = .ok result ∧ result.Shows picture := by
  obtain ⟨count, accepted, length, clear⟩ := bitpacked_valid.mp field.valid
  have width : ∀ value ∈ field.payload, (unpackedBytes value).length = 8 := fun value _ => by
    simp [unpackedBytes]
  have room : count ≤ (field.payload.flatMap unpackedBytes).length := by
    rw [length_flatMap_width width]
    omega
  have cell : ∀ index, index < count → ((field.payload.flatMap unpackedBytes).take count)[index]? =
      some (if field.payload.bit index then 1 else 0) := by
    intro index inside
    have whole : index / 8 * 8 + index % 8 = index := Nat.div_add_mod' index 8
    have within : index / 8 < field.payload.length := by omega
    have spread := getElem?_flatMap_width width (index / 8) (Nat.mod_lt index (by decide : 0 < 8))
    rw [whole, getElem?_eq_getElem within, Option.bind_some,
      unpackedBytes_bit _ (Nat.mod_lt index (by decide))] at spread
    rw [getElem?_take_of_lt inside, spread, Bytes.bit, getD_eq_getElem _ _ within]
  rw [denseFromBitpacked, accepted, ok_bind, shows_.1]
  apply dense_of_cells (shows_.1 ▸ accepted)
  · rw [length_take, Nat.min_eq_left room]
  · intro value member
    obtain ⟨index, found⟩ := getElem?_of_mem member
    have inside : index < count := by
      have taken := (List.getElem?_eq_some_iff.mp found).1
      rw [length_take] at taken
      omega
    rw [cell index inside] at found
    cases Option.some.inj found
    split
    · exact .inr rfl
    · exact .inl rfl
  · intro index
    rw [shows_.2]
    by_cases inside : index < count
    · rw [cell index inside]
      cases field.payload.bit index <;> simp
    · rw [clear index (Nat.le_of_not_lt inside), getElem?_take_eq_none (Nat.le_of_not_lt inside)]
      simp

end Conversions

end PooleOS.Pdc.Representation
