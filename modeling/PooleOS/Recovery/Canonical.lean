import PooleOS.Recovery.Record

/- The parser accepts the encoding of each valid state and no other bytes. -/
namespace PooleOS.Recovery

open List Bytes

variable {sha : Sha256} {state : State} {data data' : Bytes}

/-- Equally long records that hold the same words in all their places. -/
theorem take_eq_of_covered {places : List (Nat × Nat)} {size : Nat} (length : data.length = data'.length)
    (covered : ∀ index < size, ∃ place ∈ places, place.1 ≤ index ∧ index < place.1 + place.2)
    (same : ∀ place ∈ places, data.word place.1 place.2 = data'.word place.1 place.2) : data.take size = data'.take size := by
  refine ext_getElem? fun index => ?_
  rw [getElem?_take, getElem?_take]
  split
  · rename_i inside
    obtain ⟨⟨offset, width⟩, member, after, before⟩ := covered index inside
    have long : (data.slice offset width).length = (data'.slice offset width).length := by
      simp only [Bytes.slice, length_take, length_drop, length]
    have slices : data.slice offset width = data'.slice offset width := by
      rw [← ofWord_little (data.slice offset width), long, show little _ = little _ from same _ member, ofWord_little]
    have read := congrArg (·[index - offset]?) slices
    simpa only [Bytes.slice, getElem?_drop, getElem?_take_of_lt (show index - offset < width by omega),
      Nat.add_sub_cancel' after] using read
  · rfl

/-- Words, magic and reserved bytes leave no gap before the checksum. -/
theorem places_cover : ∀ index < 112, ∃ place ∈ (0, 8) :: (42, 2) :: (71, 1) :: (104, 8) :: places,
    place.1 ≤ index ∧ index < place.1 + place.2 := by
  decide

theorem IsRecord.unique (first : IsRecord sha state data) (second : IsRecord sha state data') : data = data' := by
  have front : data.take 112 = data'.take 112 := by
    refine take_eq_of_covered (first.length.trans second.length.symm) places_cover ?_
    simp only [forall_mem_cons]
    refine ⟨congrArg little (first.magic.trans second.magic.symm), first.failure.trans second.failure.symm,
      first.byte.trans second.byte.symm, first.word.trans second.word.symm, fun place member => ?_⟩
    rw [← @places_eq state] at member
    obtain ⟨field, found, rfl⟩ := mem_map.mp member
    exact (first.words field found).trans (second.words field found).symm
  have back : ∀ {bytes : Bytes}, IsRecord sha state bytes → bytes.drop 112 = (sha.digest (bytes.take 112)).take 16 := by
    intro bytes isRecord
    rw [← isRecord.checksum, Bytes.slice, take_of_length_le (by rw [length_drop, isRecord.length])]
  rw [← take_append_drop 112 data, ← take_append_drop 112 data', back first, back second, front]

theorem isRecord_of_parseState (parsed : parseState sha data = .ok state) : IsRecord sha state data ∧ state.Typed := by
  unfold parseState stateChecksum at parsed
  simp only [unit_bind_eq_ok, demand_eq_ok] at parsed
  obtain ⟨-, length, magic, ⟨major, minor⟩, size, -, -, -, -, -, -, -, -, ⟨-, failure⟩, -, -, -,
    ⟨byte, word⟩, rest⟩ := parsed
  obtain ⟨checksum, made, last⟩ := bind_eq_ok rest
  simp only [unit_bind_eq_ok, demand_eq_ok] at made last
  obtain ⟨same, equal⟩ := last
  obtain rfl := Except.ok.inj equal
  obtain rfl := Except.ok.inj made.2
  have typed : ∀ field ∈ (readState data).fields, data.word field.offset field.width = field.value := by
    simp [State.fields, readState, major, minor, size]
  exact ⟨⟨length, magic, typed, failure, byte, word, same⟩, fun field member => typed field member ▸ word_lt ..⟩

/-- The accepted byte strings are the encodings of the valid states, one for each. -/
theorem parseState_canonical : parseState sha data = .ok state ↔ state.Typed ∧ state.Valid ∧ data = encodeState sha state := by
  constructor
  · intro parsed
    obtain ⟨isRecord, typed⟩ := isRecord_of_parseState parsed
    exact ⟨typed, (isRecord.parse_iff.mp parsed).2, isRecord.unique (encodeState_isRecord sha typed)⟩
  · rintro ⟨typed, valid, same⟩
    rw [same]
    exact (parseState_encodeState sha typed).mpr ⟨rfl, valid⟩

end PooleOS.Recovery
