import PooleOS.Lib.Bytes

/- Numbers and bytes in text. A decimal number has one spelling when it may not start
with a zero, and so have bytes in hexadecimal when the letters are upper case. -/
namespace PooleOS

open Nat
open List

/-- The bytes of a text of ASCII letters. -/
def ascii (text : String) : Bytes := text.toList.map fun letter => UInt8.ofNat letter.toNat

section Letters

variable (byte : UInt8)

/-- `u8::is_ascii_digit`. -/
def isDigit : Bool := 48 ≤ byte && byte ≤ 57

/-- `u8::is_ascii_uppercase`. -/
def isUpper : Bool := 65 ≤ byte && byte ≤ 90

/-- `u8::is_ascii_lowercase`. -/
def isLower : Bool := 97 ≤ byte && byte ≤ 122

end Letters

section Decimal

/-- The digit of a number below ten. -/
def digit (value : Nat) : UInt8 := UInt8.ofNat (48 + value)

/-- The number that a digit stands for. -/
def digitValue (byte : UInt8) : Nat := (byte - 48).toNat

/-- A number in decimal, without a zero in front. -/
def decimal (value : Nat) : Bytes :=
  if value = 0 then [digit 0] else (Nat.digits 10 value).reverse.map digit

/-- The number that digits stand for, behind a number that was read already. -/
def decimalValue (read : Nat) : Bytes → Nat
  | [] => read
  | byte :: rest => decimalValue (read * 10 + digitValue byte) rest

variable {text : Bytes} {byte : UInt8} {value read : Nat}

theorem isDigit_iff : isDigit byte = true ↔ 48 ≤ byte.toNat ∧ byte.toNat ≤ 57 := by
  simp only [isDigit, Bool.and_eq_true, decide_eq_true_eq, UInt8.le_iff_toNat_le]
  rfl

theorem digit_toNat (small : value < 10) : (digit value).toNat = 48 + value := by
  rw [digit, UInt8.toNat_ofNat']
  omega

theorem digitValue_eq (low : 48 ≤ byte.toNat) : digitValue byte = byte.toNat - 48 :=
  UInt8.toNat_sub_of_le byte 48 (UInt8.le_iff_toNat_le.mpr low)

theorem digitValue_digit (small : value < 10) : digitValue (digit value) = value := by
  have same := digit_toNat small
  rw [digitValue_eq (by omega)]
  omega

theorem digit_digitValue (digits : isDigit byte = true) : digit (digitValue byte) = byte := by
  obtain ⟨low, high⟩ := isDigit_iff.mp digits
  rw [digitValue_eq low]
  apply UInt8.toNat_inj.mp
  rw [digit_toNat (by omega)]
  omega

theorem isDigit_digit (small : value < 10) : isDigit (digit value) = true := by
  rw [isDigit_iff, digit_toNat small]
  omega

theorem digitValue_lt (digits : isDigit byte = true) : digitValue byte < 10 := by
  obtain ⟨low, high⟩ := isDigit_iff.mp digits
  rw [digitValue_eq low]
  omega

@[simp] theorem decimalValue_nil : decimalValue read [] = read := rfl

@[simp] theorem decimalValue_cons (rest : Bytes) :
    decimalValue read (byte :: rest) = decimalValue (read * 10 + digitValue byte) rest := rfl

theorem le_decimalValue (text : Bytes) : ∀ {read : Nat}, read ≤ decimalValue read text := by
  induction text with
  | nil => exact le_refl _
  | cons byte rest ih =>
    exact le_trans (by omega) ih

theorem decimalValue_eq_ofDigits (text : Bytes) (read : Nat) :
    decimalValue read text = ofDigits 10 ((text.map digitValue).reverse ++ [read]) := by
  induction text generalizing read with
  | nil => rfl
  | cons byte rest ih =>
    rw [decimalValue_cons, ih, map_cons, reverse_cons, append_assoc, ofDigits_append,
      ofDigits_append, singleton_append, ofDigits_cons, ofDigits_cons, ofDigits_nil,
      ofDigits_cons, ofDigits_nil]
    congr 2
    omega

theorem decimalValue_zero (text : Bytes) : decimalValue 0 text = ofDigits 10 (text.map digitValue).reverse := by
  rw [decimalValue_eq_ofDigits, ofDigits_append, ofDigits_singleton, mul_zero, add_zero]

theorem map_digitValue {digits : List Nat} (small : ∀ each ∈ digits, each < 10) :
    (digits.map digit).map digitValue = digits := by
  rw [map_map]
  calc
    digits.map (digitValue ∘ digit) = digits.map id :=
      map_congr_left fun each member => digitValue_digit (small each member)
    _ = digits := map_id _

theorem map_digit (digits : ∀ byte ∈ text, isDigit byte = true) : (text.map digitValue).map digit = text := by
  rw [map_map]
  calc
    text.map (digit ∘ digitValue) = text.map id :=
      map_congr_left fun byte member => digit_digitValue (digits byte member)
    _ = text := map_id _

theorem decimalValue_decimal (value : Nat) : decimalValue 0 (decimal value) = value := by
  unfold decimal
  split
  · rename_i zero
    rw [zero]
    rfl
  · rw [decimalValue_zero, map_reverse, map_reverse, reverse_reverse,
      map_digitValue fun each member => digits_lt_base (by decide) member, ofDigits_digits]

/-- Spellings without a zero in front. -/
structure IsDecimal (text : Bytes) : Prop where
  spelled : text ≠ []
  digits : ∀ byte ∈ text, isDigit byte = true
  canonical : 1 < text.length → text.head? ≠ some 48

theorem isDecimal_decimal (value : Nat) : IsDecimal (decimal value) := by
  unfold decimal
  split
  · exact ⟨nofun, fun byte member => mem_singleton.mp member ▸ rfl, fun long => absurd long (by simp)⟩
  · rename_i positive
    have some : digits 10 value ≠ [] := digits_ne_nil_iff_ne_zero.mpr positive
    refine ⟨by simpa using some, fun byte member => ?_, fun _ => ?_⟩
    · obtain ⟨each, inside, rfl⟩ := mem_map.mp member
      exact isDigit_digit (digits_lt_base (by decide) (mem_reverse.mp inside))
    · have top := getLast_digit_ne_zero 10 positive
      have small : (digits 10 value).getLast some < 10 :=
        digits_lt_base (by decide) (getLast_mem some)
      rw [head?_map, head?_reverse, getLast?_eq_some_getLast some, Option.map_some]
      intro zero
      have same := congrArg UInt8.toNat (Option.some.inj zero)
      rw [digit_toNat small] at same
      exact top (by simpa using same)

theorem decimal_decimalValue (spelled : IsDecimal text) : decimal (decimalValue 0 text) = text := by
  obtain ⟨some, digits, canonical⟩ := spelled
  cases text with
  | nil => exact absurd rfl some
  | cons first rest =>
    by_cases zero : first = 48
    · cases rest with
      | nil =>
        rw [zero]
        rfl
      | cons second rest => exact absurd (congrArg Option.some zero) (canonical (by simp))
    · have low := isDigit_iff.mp (digits first (mem_cons_self ..))
      have other : first.toNat ≠ 48 := fun same => zero (UInt8.toNat_inj.mp same)
      have top : digitValue first ≠ 0 := by
        rw [digitValue_eq low.1]
        omega
      have positive : decimalValue 0 (first :: rest) ≠ 0 := by
        have more := @le_decimalValue rest (0 * 10 + digitValue first)
        rw [decimalValue_cons]
        omega
      rw [decimal, if_neg positive, decimalValue_zero, digits_ofDigits 10 (by decide), reverse_reverse,
        map_digit digits]
      · intro each member
        obtain ⟨byte, inside, rfl⟩ := mem_map.mp (mem_reverse.mp member)
        exact digitValue_lt (digits byte inside)
      · intro _
        rw [getLast_reverse]
        exact top

/-- The spellings without a zero in front are those of the numbers. -/
theorem eq_decimal_iff : text = decimal value ↔ IsDecimal text ∧ value = decimalValue 0 text := by
  constructor
  · rintro rfl
    exact ⟨isDecimal_decimal value, (decimalValue_decimal value).symm⟩
  · rintro ⟨spelled, rfl⟩
    exact (decimal_decimalValue spelled).symm

theorem decimal_length_le {width : Nat} (small : value < 10 ^ width) (wide : 1 ≤ width) :
    (decimal value).length ≤ width := by
  unfold decimal
  split
  · exact wide
  · rw [length_map, length_reverse]
    exact (digits_length_le_iff (by decide) value).mpr small

end Decimal

section Hexadecimal

/-- An upper-case hexadecimal digit, for a number below sixteen. -/
def nibble (value : UInt8) : UInt8 := if value < 10 then 48 + value else 55 + value

/-- The number below sixteen that an upper-case hexadecimal digit stands for. -/
def nibbleValue (byte : UInt8) : Option UInt8 :=
  if isDigit byte then some (byte - 48)
  else if 65 ≤ byte && byte ≤ 70 then some (byte - 65 + 10)
  else none

/-- The two digits of a byte. -/
def hexByte (byte : UInt8) : Bytes := [nibble (byte >>> 4), nibble (byte &&& 15)]

/-- Bytes in upper-case hexadecimal. -/
def hexUpper (bytes : Bytes) : Bytes := bytes.flatMap hexByte

variable {bytes text : Bytes} {byte first second high low : UInt8}

/-- A fact about every byte, checked on each. -/
theorem byte_cases {fact : UInt8 → Prop} (each : ∀ value : Fin 256, fact (UInt8.ofFin value)) (byte : UInt8) :
    fact byte := by
  have same : UInt8.ofFin byte.toFin = byte := rfl
  exact same ▸ each byte.toFin

theorem nibble_nibbleValue : nibbleValue byte = some low → low < 16 ∧ byte = nibble low := by
  revert low
  refine @byte_cases (fun byte => ∀ {low}, nibbleValue byte = some low → low < 16 ∧ byte = nibble low) ?_ byte
  intro value
  have each : ∀ value : Fin 256, (nibbleValue (UInt8.ofFin value)).all fun low =>
      decide (low < 16 ∧ UInt8.ofFin value = nibble low) := by decide +kernel
  intro low found
  have holds := each value
  rw [found] at holds
  exact of_decide_eq_true holds

theorem nibbleValue_nibble (small : low < 16) : nibbleValue (nibble low) = some low := by
  revert small
  refine @byte_cases (fun low => low < 16 → nibbleValue (nibble low) = some low) ?_ low
  decide +kernel

/-- Two digits spell a byte. -/
theorem eq_hexByte_iff : [first, second] = hexByte byte ↔
    ∃ high low, nibbleValue first = some high ∧ nibbleValue second = some low ∧ byte = high <<< 4 ||| low := by
  constructor
  · intro same
    obtain ⟨rfl, rest⟩ := cons.inj same
    obtain ⟨rfl, -⟩ := cons.inj rest
    have halves : ∀ byte : UInt8, byte >>> 4 < 16 ∧ byte &&& 15 < 16 ∧
        byte = (byte >>> 4) <<< 4 ||| (byte &&& 15) := byte_cases (by decide +kernel)
    obtain ⟨top, bottom, whole⟩ := halves byte
    exact ⟨_, _, nibbleValue_nibble top, nibbleValue_nibble bottom, whole⟩
  · rintro ⟨high, low, front, back, rfl⟩
    obtain ⟨top, rfl⟩ := nibble_nibbleValue front
    obtain ⟨bottom, rfl⟩ := nibble_nibbleValue back
    have joined : ∀ high low : Fin 16, (UInt8.ofNat high <<< 4 ||| UInt8.ofNat low) >>> 4 = UInt8.ofNat high ∧
        (UInt8.ofNat high <<< 4 ||| UInt8.ofNat low) &&& 15 = UInt8.ofNat low := by decide +kernel
    obtain ⟨one, two⟩ := joined ⟨high.toNat, UInt8.lt_iff_toNat_lt.mp top⟩ ⟨low.toNat, UInt8.lt_iff_toNat_lt.mp bottom⟩
    simp only [UInt8.ofNat_toNat] at one two
    rw [hexByte, one, two]

@[simp] theorem hexByte_length (byte : UInt8) : (hexByte byte).length = 2 := rfl

theorem hexUpper_length (bytes : Bytes) : (hexUpper bytes).length = 2 * bytes.length := by
  rw [hexUpper, length_flatMap]
  simp [mul_comm]

theorem isSome_nibbleValue : (nibbleValue byte).isSome = (isDigit byte || (65 ≤ byte && byte ≤ 70)) := by
  unfold nibbleValue
  split
  · rename_i digits
    rw [digits]
    rfl
  · rename_i other
    rw [Bool.eq_false_of_not_eq_true other]
    split
    · rename_i letter
      rw [letter]
      rfl
    · rename_i neither
      rw [Bool.eq_false_of_not_eq_true neither]
      rfl

theorem isSome_of_mem_hexUpper (member : byte ∈ hexUpper bytes) : (nibbleValue byte).isSome = true := by
  obtain ⟨one, -, inside⟩ := mem_flatMap.mp member
  obtain ⟨high, low, front, back, -⟩ := eq_hexByte_iff.mp (show [_, _] = hexByte one from rfl)
  simp only [hexByte, mem_cons, not_mem_nil, or_false] at inside
  rcases inside with rfl | rfl
  · rw [front]
    rfl
  · rw [back]
    rfl

/-- Digits, two for each byte, spell bytes. -/
theorem exists_hexUpper : ∀ {count : Nat} {text : Bytes}, (∀ byte ∈ text, (nibbleValue byte).isSome = true) →
    text.length = 2 * count → ∃ bytes : Bytes, bytes.length = count ∧ text = hexUpper bytes
  | 0, text, _, length => ⟨[], rfl, length_eq_zero_iff.mp length⟩
  | more + 1, [], _, length => absurd length (by simp)
  | more + 1, [_], _, length => absurd length (by simp; omega)
  | more + 1, first :: second :: rest, digits, length => by
      simp only [forall_mem_cons] at digits
      obtain ⟨front, back, others⟩ := digits
      obtain ⟨high, one⟩ := Option.isSome_iff_exists.mp front
      obtain ⟨low, two⟩ := Option.isSome_iff_exists.mp back
      obtain ⟨bytes, full, rfl⟩ := @exists_hexUpper more _ others (by simpa [mul_add] using length)
      refine ⟨(high <<< 4 ||| low) :: bytes, by rw [length_cons, full], ?_⟩
      have pair := eq_hexByte_iff.mpr ⟨high, low, one, two, rfl⟩
      exact congrArg (· ++ hexUpper bytes) pair

end Hexadecimal

end PooleOS
