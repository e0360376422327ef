import Mathlib

/- Byte strings: ranges of them, little-endian words in them, and copies into them. -/
namespace PooleOS

open List

abbrev Bytes : Type := List UInt8

instance : LawfulBEq Bytes := inferInstance

namespace Bytes

/-- `bytes.get(first..last)`. -/
def range? (bytes : Bytes) (first last : Nat) : Option Bytes :=
  if first ≤ last ∧ last ≤ bytes.length then some ((bytes.drop first).take (last - first)) else none

/-- `from_le_bytes`. -/
def little (bytes : Bytes) : Nat := bytes.foldr (fun byte rest => byte.toNat + 256 * rest) 0

/-- `to_le_bytes` of a type of this many bytes. -/
def ofWord : Nat → Nat → Bytes
  | 0, _ => []
  | width + 1, value => UInt8.ofNat value :: ofWord width (value / 256)

/-- `bytes[start..start + width]`. -/
def slice (bytes : Bytes) (start width : Nat) : Bytes := (bytes.drop start).take width

/-- The word of this many bytes at an offset. -/
def word (bytes : Bytes) (offset width : Nat) : Nat := little (bytes.slice offset width)

/-- The bytes after a copy of `source` to `start`. -/
def blit (bytes : Bytes) (start : Nat) (source : Bytes) : Bytes :=
  bytes.take start ++ source ++ bytes.drop (start + source.length)

section Ranges

variable {bytes source : Bytes} {first last : Nat}

theorem range?_some (ordered : first ≤ last) (inside : last ≤ bytes.length) :
    bytes.range? first last = some ((bytes.drop first).take (last - first)) :=
  if_pos ⟨ordered, inside⟩

theorem range?_eq_some : bytes.range? first last = some source ↔
    first ≤ last ∧ last ≤ bytes.length ∧ source = (bytes.drop first).take (last - first) := by
  unfold range?
  split
  · rename_i fits
    simp only [Option.some.injEq, fits, true_and]
    exact eq_comm
  · rename_i outside
    simp only [reduceCtorEq, false_iff]
    exact fun all => outside ⟨all.1, all.2.1⟩

theorem getElem?_range (offset : Nat) (within : first + offset < last) :
    ((bytes.drop first).take (last - first))[offset]? = bytes[first + offset]? := by
  rw [getElem?_take_of_lt (by omega), getElem?_drop]

end Ranges

section Words

@[simp] theorem little_cons (byte : UInt8) (rest : Bytes) :
    little (byte :: rest) = byte.toNat + 256 * little rest := rfl

theorem little_lt (bytes : Bytes) : little bytes < 256 ^ bytes.length := by
  induction bytes with
  | nil => exact Nat.one_pos
  | cons byte rest ih =>
    have small := byte.toNat_lt
    rw [little_cons, length_cons, Nat.pow_succ]
    omega

theorem word_lt (bytes : Bytes) (offset width : Nat) : word bytes offset width < 256 ^ width := by
  refine Nat.lt_of_lt_of_le (little_lt _) (Nat.pow_le_pow_right (by decide) ?_)
  exact length_take_le ..

@[simp] theorem ofWord_length (width value : Nat) : (ofWord width value).length = width := by
  induction width generalizing value with
  | zero => rfl
  | succ width ih => rw [ofWord, length_cons, ih]

theorem little_ofWord {width value : Nat} (small : value < 256 ^ width) : little (ofWord width value) = value := by
  induction width generalizing value with
  | zero =>
    have zero : value = 0 := by simpa using small
    rw [zero]
    rfl
  | succ width ih =>
    have less : value / 256 < 256 ^ width := by
      rw [Nat.div_lt_iff_lt_mul (by decide), ← Nat.pow_succ]
      exact small
    have low : (UInt8.ofNat value).toNat = value % 256 := UInt8.toNat_ofNat'
    rw [ofWord, little_cons, ih less, low]
    omega

theorem ofWord_little (bytes : Bytes) : ofWord bytes.length (little bytes) = bytes := by
  induction bytes with
  | nil => rfl
  | cons byte rest ih =>
    have small := byte.toNat_lt
    have low : UInt8.ofNat (byte.toNat + 256 * little rest) = byte := by
      apply UInt8.toNat_inj.mp
      rw [UInt8.toNat_ofNat']
      omega
    have high : (byte.toNat + 256 * little rest) / 256 = little rest := by omega
    rw [length_cons, little_cons, ofWord, low, high, ih]

end Words

section Copies

variable {bytes source : Bytes} {start offset : Nat}

section

variable (inside : start + source.length ≤ bytes.length)
include inside

theorem blit_length :
    (bytes.blit start source).length = bytes.length := by
  unfold blit
  rw [length_append, length_append, length_take, length_drop]
  omega

theorem blit_inside (after : start ≤ offset)
    (before : offset < start + source.length) : (bytes.blit start source)[offset]? = source[offset - start]? := by
  have front : (bytes.take start).length = start := by
    rw [length_take]
    omega
  unfold blit
  rw [append_assoc, getElem?_append_right (by omega), front,
    getElem?_append_left (by omega)]

theorem blit_outside
    (outside : offset < start ∨ start + source.length ≤ offset) :
    (bytes.blit start source)[offset]? = bytes[offset]? := by
  have front : (bytes.take start).length = start := by
    rw [length_take]
    omega
  unfold blit
  rcases outside with before | after
  · rw [append_assoc, getElem?_append_left (by omega), getElem?_take_of_lt before]
  · rw [getElem?_append_right (by rw [length_append]; omega), getElem?_drop]
    congr 1
    rw [length_append]
    omega

theorem slice_blit :
    (bytes.blit start source).slice start source.length = source := by
  have front : (bytes.take start).length = start := by
    rw [length_take]
    omega
  unfold slice blit
  rw [append_assoc, drop_append_of_le_length (by omega), drop_of_length_le (by omega),
    nil_append, take_append_of_le_length le_rfl, take_length]

theorem slice_blit_apart {width : Nat}
    (apart : offset + width ≤ start ∨ start + source.length ≤ offset) :
    (bytes.blit start source).slice offset width = bytes.slice offset width := by
  apply ext_getElem?
  intro index
  unfold slice
  rw [getElem?_take, getElem?_take, getElem?_drop, getElem?_drop]
  split
  · exact blit_outside inside (by omega)
  · rfl

end

end Copies

/-- `data.iter().all(|byte| *byte == 0)`. -/
def allZero (bytes : Bytes) : Bool := bytes.all (· == 0)

end Bytes

/-- The hash of the `sha2` crate, and of `hashlib`: 32 bytes, whatever the input. -/
structure Sha256 where
  digest : Bytes → Bytes
  digest_length : ∀ data, (digest data).length = 32

/-- A hash that is known on some inputs only. Each digest is a little-endian number. -/
def Sha256.ofTable (table : List (Bytes × Nat)) : Sha256 where
  digest data := Bytes.ofWord 32 ((table.lookup data).getD 0)
  digest_length _ := Bytes.ofWord_length ..

end PooleOS
