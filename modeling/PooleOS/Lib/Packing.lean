import PooleOS.Lib.Bytes

/- Bits in a byte string, the least significant bit of a byte first. -/
namespace PooleOS.Bytes

open List

/-- The bit at a place; past the end there is none. -/
def bit (bytes : Bytes) (place : Nat) : Bool := (bytes.getD (place / 8) 0).toNat.testBit (place % 8)

/-- `bytes[place / 8] |= value << (place % 8)`. -/
def mark (bytes : Bytes) (place : Nat) (value : UInt8) : Bytes :=
  bytes.modify (place / 8) (· ||| (value <<< UInt8.ofNat (place % 8)))

variable {bytes other : Bytes} {place : Nat} {value : UInt8}

theorem bit_outside (outside : 8 * bytes.length ≤ place) : bytes.bit place = false := by
  have absent : bytes.getD (place / 8) 0 = 0 := by
    rw [getD_eq_getElem?_getD, getElem?_eq_none (by omega)]
    rfl
  rw [bit, absent]
  exact Nat.zero_testBit _

/-- Two byte strings with the same bits are the same. -/
theorem ext_bit (length : bytes.length = other.length) (same : ∀ place, bytes.bit place = other.bit place) :
    bytes = other := by
  apply ext_getElem length
  intro index first second
  apply UInt8.toNat_inj.mp
  apply Nat.eq_of_testBit_eq
  intro power
  by_cases low : power < 8
  · have here := same (8 * index + power)
    have high : (8 * index + power) / 8 = index := by omega
    have rest : (8 * index + power) % 8 = power := by omega
    rw [bit, bit, high, rest, getD_eq_getElem _ _ first, getD_eq_getElem _ _ second] at here
    exact here
  · have small : 2 ^ 8 ≤ 2 ^ power := Nat.pow_le_pow_right (by decide) (by omega)
    rw [Nat.testBit_lt_two_pow (Nat.lt_of_lt_of_le (UInt8.toNat_lt _) small),
      Nat.testBit_lt_two_pow (Nat.lt_of_lt_of_le (UInt8.toNat_lt _) small)]

/-- A single bit shifted to its place in a byte. -/
theorem testBit_shifted (binary : value = 0 ∨ value = 1) {shift power : Nat} (small : shift < 8) (low : power < 8) :
    (value <<< UInt8.ofNat shift).toNat.testBit power = (decide (power = shift) && decide (value = 1)) := by
  have table : ∀ shift < 8, ∀ power < 8,
      ((1 : UInt8) <<< UInt8.ofNat shift).toNat.testBit power = decide (power = shift) := by
    decide
  rcases binary with rfl | rfl
  · simp
  · rw [table shift small power low]
    exact (Bool.and_true _).symm

@[simp] theorem mark_length (bytes : Bytes) (place : Nat) (value : UInt8) :
    (bytes.mark place value).length = bytes.length := length_modify ..

theorem bit_mark (inside : place / 8 < bytes.length) (binary : value = 0 ∨ value = 1) (wanted : Nat) :
    (bytes.mark place value).bit wanted = (bytes.bit wanted || (decide (wanted = place) && decide (value = 1))) := by
  unfold bit mark
  rw [getD_eq_getElem?_getD, getElem?_modify]
  by_cases byte : place / 8 = wanted / 8
  · have found : bytes[wanted / 8]? = some (bytes.get ⟨wanted / 8, by omega⟩) := getElem?_eq_getElem _
    have same : (wanted % 8 = place % 8) ↔ wanted = place := by omega
    simp only [byte, if_true, found, Option.map_eq_map, Option.map_some, Option.getD_some, getD_eq_getElem?_getD]
    rw [UInt8.toNat_or, Nat.testBit_or, testBit_shifted binary (Nat.mod_lt _ (by decide)) (Nat.mod_lt _ (by decide))]
    simp only [same]
  · have other : ¬ wanted = place := fun equal => byte (by rw [equal])
    simp only [byte, if_false, Option.map_eq_map, other, decide_false, Bool.false_and, Bool.or_false,
      getD_eq_getElem?_getD, Option.map_id']

/-- The loop that marks every item. -/
theorem bit_marks : ∀ {items : List (UInt8 × Nat)} {bytes : Bytes},
    (∀ item ∈ items, item.2 / 8 < bytes.length ∧ (item.1 = 0 ∨ item.1 = 1)) → ∀ wanted,
      (items.foldl (fun packed item => packed.mark item.2 item.1) bytes).bit wanted = true ↔
        bytes.bit wanted = true ∨ (1, wanted) ∈ items
  | [], bytes, _, wanted => by simp
  | item :: rest, bytes, fits, wanted => by
      obtain ⟨inside, binary⟩ := fits item (mem_cons_self ..)
      have later : ∀ other ∈ rest, other.2 / 8 < (bytes.mark item.2 item.1).length ∧ (other.1 = 0 ∨ other.1 = 1) := by
        intro other member
        rw [mark_length]
        exact fits other (mem_cons_of_mem _ member)
      rw [foldl_cons, bit_marks later, bit_mark inside binary, Bool.or_eq_true, Bool.and_eq_true,
        decide_eq_true_eq, decide_eq_true_eq, mem_cons, or_assoc]
      have here : (wanted = item.2 ∧ item.1 = 1) ↔ (1, wanted) = item := by
        rw [Prod.ext_iff]
        exact ⟨fun both => ⟨both.2.symm, both.1⟩, fun both => ⟨both.2, both.1.symm⟩⟩
      rw [here]

theorem marks_length {items : List (UInt8 × Nat)} {bytes : Bytes} :
    (items.foldl (fun packed item => packed.mark item.2 item.1) bytes).length = bytes.length := by
  induction items generalizing bytes with
  | nil => rfl
  | cons item rest ih => rw [foldl_cons, ih, mark_length]

@[simp] theorem bit_zeros (count place : Nat) : bit (replicate count 0) place = false := by
  have zero : (replicate count (0 : UInt8)).getD (place / 8) 0 = 0 := by
    rw [getD_eq_getElem?_getD, getElem?_replicate]
    split <;> rfl
  rw [bit, zero]
  exact Nat.zero_testBit _

end PooleOS.Bytes
