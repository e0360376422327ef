import PooleOS.Lib.Bytes

/- Records at fixed offsets: little-endian words written to places that do not
overlap are all read back. -/
namespace PooleOS

open List

/-- One word of a record. -/
structure Field where
  offset : Nat
  width : Nat
  value : Nat

namespace Field

/-- Where the field lies. -/
def place (field : Field) : Nat × Nat := (field.offset, field.width)

end Field

/-- Two places, each an offset and a width, do not overlap. -/
def Apart (first second : Nat × Nat) : Prop :=
  first.1 + first.2 ≤ second.1 ∨ second.1 + second.2 ≤ first.1

instance (first second : Nat × Nat) : Decidable (Apart first second) :=
  inferInstanceAs (Decidable (_ ∨ _))

/-- The places of a record of this many bytes. -/
structure Layout (size : Nat) (places : List (Nat × Nat)) : Prop where
  inside : ∀ place ∈ places, place.1 + place.2 ≤ size
  apart : places.Pairwise Apart

instance (size : Nat) (places : List (Nat × Nat)) : Decidable (Layout size places) :=
  decidable_of_iff ((∀ place ∈ places, place.1 + place.2 ≤ size) ∧ places.Pairwise Apart)
    ⟨fun both => ⟨both.1, both.2⟩, fun layout => ⟨layout.inside, layout.apart⟩⟩

namespace Bytes

/-- The bytes after each piece is copied to its place. -/
def place (bytes : Bytes) (pieces : List (Nat × Bytes)) : Bytes :=
  pieces.foldl (fun bytes piece => bytes.blit piece.1 piece.2) bytes

/-- Where the pieces lie. -/
def places (pieces : List (Nat × Bytes)) : List (Nat × Nat) := pieces.map (fun piece => (piece.1, piece.2.length))

section Pieces

variable {bytes data : Bytes} {pieces : List (Nat × Bytes)} {offset width : Nat}

theorem place_length (inside : ∀ piece ∈ pieces, piece.1 + piece.2.length ≤ bytes.length) :
    (bytes.place pieces).length = bytes.length := by
  induction pieces generalizing bytes with
  | nil => rfl
  | cons piece rest ih =>
    have first := blit_length (inside piece (mem_cons_self ..))
    change ((bytes.blit _ _).place rest).length = _
    rw [ih (fun other member => first ▸ inside other (mem_cons_of_mem _ member)), first]

/-- The pieces leave what lies apart from all of them. -/
theorem slice_place_apart (inside : ∀ piece ∈ pieces, piece.1 + piece.2.length ≤ bytes.length)
    (apart : ∀ piece ∈ pieces, Apart (offset, width) (piece.1, piece.2.length)) :
    (bytes.place pieces).slice offset width = bytes.slice offset width := by
  induction pieces generalizing bytes with
  | nil => rfl
  | cons piece rest ih =>
    have fits := inside piece (mem_cons_self ..)
    have first := blit_length fits
    change ((bytes.blit _ _).place rest).slice _ _ = _
    rw [ih (fun other member => first ▸ inside other (mem_cons_of_mem _ member))
      (fun other member => apart other (mem_cons_of_mem _ member))]
    exact slice_blit_apart fits (apart piece (mem_cons_self ..))

/-- A piece reads back. -/
theorem slice_place (layout : Layout bytes.length (places pieces)) {piece : Nat × Bytes} (member : piece ∈ pieces) :
    (bytes.place pieces).slice piece.1 piece.2.length = piece.2 := by
  induction pieces generalizing bytes with
  | nil => exact nomatch member
  | cons head rest ih =>
    have inside : ∀ other ∈ head :: rest, other.1 + other.2.length ≤ bytes.length :=
      fun other member => layout.inside _ (mem_map_of_mem member)
    have fits := inside head (mem_cons_self ..)
    have same := blit_length fits
    have separate := layout.apart
    rw [places, map_cons, pairwise_cons] at separate
    rcases mem_cons.mp member with rfl | later
    · change ((bytes.blit _ _).place rest).slice _ _ = _
      rw [slice_place_apart (fun other member => same ▸ inside other (mem_cons_of_mem _ member))
        (fun other member => separate.1 _ (mem_map_of_mem member))]
      exact slice_blit fits
    · apply ih ⟨?_, separate.2⟩ later
      intro place found
      rw [same]
      exact layout.inside place (mem_cons_of_mem _ found)

end Pieces

/-- The bytes after each field is written to its place. -/
def lay (bytes : Bytes) (fields : List Field) : Bytes :=
  fields.foldl (fun bytes field => bytes.blit field.offset (ofWord field.width field.value)) bytes

variable {bytes : Bytes} {fields : List Field} {offset width : Nat}

/-- The piece that holds a field. -/
def pieceOf (field : Field) : Nat × Bytes := (field.offset, ofWord field.width field.value)

theorem lay_eq_place : bytes.lay fields = bytes.place (fields.map pieceOf) := by
  rw [place, foldl_map]
  rfl

theorem places_pieceOf : places (fields.map pieceOf) = fields.map Field.place := by
  rw [places, map_map]
  refine map_congr_left (fun field _ => ?_)
  change (field.offset, (ofWord _ _).length) = (field.offset, field.width)
  rw [ofWord_length]

theorem pieceOf_inside {size : Nat} (inside : ∀ field ∈ fields, field.offset + field.width ≤ size) :
    ∀ piece ∈ fields.map pieceOf, piece.1 + piece.2.length ≤ size := by
  intro piece member
  obtain ⟨field, held, rfl⟩ := mem_map.mp member
  rw [pieceOf, ofWord_length]
  exact inside field held

theorem lay_length (inside : ∀ field ∈ fields, field.offset + field.width ≤ bytes.length) :
    (bytes.lay fields).length = bytes.length := by
  rw [lay_eq_place]
  exact place_length (pieceOf_inside inside)

/-- The fields leave what lies apart from all of them. -/
theorem slice_lay_apart (inside : ∀ field ∈ fields, field.offset + field.width ≤ bytes.length)
    (apart : ∀ field ∈ fields, Apart (offset, width) field.place) :
    (bytes.lay fields).slice offset width = bytes.slice offset width := by
  rw [lay_eq_place]
  refine slice_place_apart (pieceOf_inside inside) (fun piece member => ?_)
  obtain ⟨field, held, rfl⟩ := mem_map.mp member
  rw [pieceOf, ofWord_length]
  exact apart field held

/-- A field of a record reads back. -/
theorem word_lay {field : Field} (layout : Layout bytes.length (fields.map Field.place)) (member : field ∈ fields)
    (small : field.value < 256 ^ field.width) : (bytes.lay fields).word field.offset field.width = field.value := by
  rw [← places_pieceOf] at layout
  have read := slice_place layout (mem_map_of_mem member)
  rw [← lay_eq_place, pieceOf, ofWord_length] at read
  rw [word, read, little_ofWord small]

end Bytes

end PooleOS
