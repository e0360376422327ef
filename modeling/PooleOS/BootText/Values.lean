import PooleOS.BootText.Model

/- What each reader of a value accepts: numbers in their one decimal spelling, keys of
records made of a group, an identifier and a field. -/
namespace PooleOS.BootText

open List

section Numbers

variable {value : Bytes} {number read minimum maximum : Nat}

theorem pushDigit_eq_ok {byte : UInt8} : pushDigit read byte = .ok number ↔
    read * 10 + digitValue byte ≤ u64Max ∧ number = read * 10 + digitValue byte := by
  unfold pushDigit
  rw [demand_bind_eq_ok, demand_bind_eq_ok, pure_eq_ok, ← and_assoc]
  exact and_congr_left fun _ => ⟨fun both => both.2, fun small => ⟨by omega, small⟩⟩

theorem oracle_pushDigit_eq_ok {byte : UInt8} (digits : isDigit byte = true) : Oracle.pushDigit read byte = .ok number ↔
      read * 10 + digitValue byte ≤ u64Max ∧ number = read * 10 + digitValue byte := by
  unfold Oracle.pushDigit
  rw [demand_bind_eq_ok, pure_eq_ok]
  have small := digitValue_lt digits
  have large : 9 ≤ u64Max := by decide
  omega

/-- Digits that are taken one by one, each checked against 64 bits. -/
theorem foldlM_digits {push : Nat → UInt8 → Except Error Nat} :
    ∀ {value : Bytes} {read : Nat}, (∀ byte ∈ value, ∀ read number, push read byte = .ok number ↔
        read * 10 + digitValue byte ≤ u64Max ∧ number = read * 10 + digitValue byte) → read ≤ u64Max →
      (value.foldlM push read = .ok number ↔ decimalValue read value ≤ u64Max ∧ number = decimalValue read value)
  | [], read, _, small => by
      rw [foldlM_nil, pure_eq_ok, decimalValue_nil]
      exact ⟨fun same => ⟨small, same⟩, fun both => both.2⟩
  | byte :: rest, read, each, small => by
      have further : ∀ other ∈ rest, ∀ read number, push read other = .ok number ↔
          read * 10 + digitValue other ≤ u64Max ∧ number = read * 10 + digitValue other :=
        fun other member => each other (mem_cons_of_mem _ member)
      rw [foldlM_cons, bind_eq_ok_iff, decimalValue_cons]
      constructor
      · rintro ⟨middle, first, ran⟩
        obtain ⟨fits, rfl⟩ := (each byte (mem_cons_self ..) read middle).mp first
        exact (foldlM_digits further fits).mp ran
      · rintro ⟨fits, same⟩
        have first : read * 10 + digitValue byte ≤ u64Max := Nat.le_trans (le_decimalValue rest) fits
        exact ⟨_, (each byte (mem_cons_self ..) read _).mpr ⟨first, rfl⟩,
          (foldlM_digits further first).mpr ⟨fits, same⟩⟩

theorem isDecimal_iff : IsDecimal value ↔
    (value ≠ [] ∧ value.all isDigit = true) ∧ ¬ (1 < value.length ∧ value.head? = some 48) := by
  rw [all_eq_true]
  constructor
  · exact fun spelled => ⟨⟨spelled.spelled, spelled.digits⟩, fun both => spelled.canonical both.1 both.2⟩
  · exact fun all => ⟨all.1.1, all.1.2, fun long zero => all.2 ⟨long, zero⟩⟩

theorem parseNumber_eq_ok : parseNumber value = .ok number ↔ number ≤ u64Max ∧ value = decimal number := by
  unfold parseNumber
  rw [demand_bind_eq_ok, demand_bind_eq_ok, ← and_assoc, ← isDecimal_iff, eq_decimal_iff,
    foldlM_digits (fun _ _ _ _ => pushDigit_eq_ok) (Nat.zero_le _)]
  constructor
  · rintro ⟨spelled, small, rfl⟩
    exact ⟨small, spelled, rfl⟩
  · rintro ⟨small, spelled, rfl⟩
    exact ⟨spelled, small, rfl⟩

theorem oracle_parseNumber_eq_ok :
    Oracle.parseNumber value = .ok number ↔ number ≤ u64Max ∧ value = decimal number := by
  unfold Oracle.parseNumber
  rw [demand_bind_eq_ok, demand_bind_eq_ok, ← and_assoc, ← isDecimal_iff, eq_decimal_iff]
  constructor
  · rintro ⟨spelled, ran⟩
    obtain ⟨small, rfl⟩ := (foldlM_digits (fun byte member _ _ => oracle_pushDigit_eq_ok (spelled.digits byte member))
      (Nat.zero_le _)).mp ran
    exact ⟨small, spelled, rfl⟩
  · rintro ⟨small, spelled, rfl⟩
    exact ⟨spelled, (foldlM_digits (fun byte member _ _ => oracle_pushDigit_eq_ok (spelled.digits byte member))
      (Nat.zero_le _)).mpr ⟨small, rfl⟩⟩

theorem parseRange_eq_ok (fits : maximum ≤ u64Max) : parseRange value minimum maximum = .ok number ↔
    (minimum ≤ number ∧ number ≤ maximum) ∧ value = decimal number := by
  unfold parseRange
  simp only [bind_eq_ok_iff, parseNumber_eq_ok, demand_eq_ok, pure_eq_ok]
  constructor
  · rintro ⟨_, ⟨small, rfl⟩, _, bounds, rfl⟩
    exact ⟨bounds, rfl⟩
  · rintro ⟨bounds, rfl⟩
    exact ⟨number, ⟨bounds.2.trans fits, rfl⟩, (), bounds, rfl⟩

theorem oracle_parseRange_eq_ok (fits : maximum ≤ u64Max) : Oracle.parseRange value minimum maximum = .ok number ↔
    (minimum ≤ number ∧ number ≤ maximum) ∧ value = decimal number := by
  unfold Oracle.parseRange
  simp only [bind_eq_ok_iff, oracle_parseNumber_eq_ok, demand_eq_ok, pure_eq_ok]
  constructor
  · rintro ⟨_, ⟨small, rfl⟩, _, bounds, rfl⟩
    exact ⟨bounds, rfl⟩
  · rintro ⟨bounds, rfl⟩
    exact ⟨number, ⟨bounds.2.trans fits, rfl⟩, (), bounds, rfl⟩

theorem manifestNumber_eq_ok : Oracle.manifestNumber value minimum maximum = .ok number ↔
    (minimum ≤ number ∧ number ≤ maximum) ∧ value = decimal number := by
  unfold Oracle.manifestNumber
  rw [demand_bind_eq_ok, demand_bind_eq_ok, ← and_assoc, ← isDecimal_iff, eq_decimal_iff]
  simp only [demand_bind_eq_ok, pure_eq_ok]
  constructor
  · rintro ⟨spelled, bounds, rfl⟩
    exact ⟨bounds, spelled, rfl⟩
  · rintro ⟨bounds, spelled, rfl⟩
    exact ⟨spelled, bounds, rfl⟩

end Numbers

section Keys

/-- The line of a key and a value. -/
def keyLine (entry : Bytes × Bytes) : Bytes := entry.1 ++ equals :: entry.2

/-- Keys and values around which a line is split at its one equals sign. -/
structure Split (entry : Bytes × Bytes) : Prop where
  key : entry.1 ≠ []
  value : entry.2 ≠ []
  front : equals ∉ entry.1
  back : equals ∉ entry.2

/-- The key of a field of a record. -/
def fieldKey (format : Format) (identifier field : Bytes) : Bytes :=
  format.group ++ identifier ++ dot :: field

variable {format : Format} {line key value identifier field rest : Bytes} {entry : Bytes × Bytes}

theorem splitKeyValue_eq_ok : splitKeyValue line = .ok entry ↔ Split entry ∧ line = keyLine entry := by
  obtain ⟨key, value⟩ := entry
  unfold splitKeyValue
  rw [bind_eq_ok_iff]
  simp only [demand_bind_eq_ok, pure_eq_ok, Prod.exists, Prod.mk.injEq, orError_eq_ok, splitOnce_eq_some]
  constructor
  · rintro ⟨_, _, ⟨front, rfl⟩, whole, rfl, rfl⟩
    simp only [not_or] at whole
    exact ⟨⟨whole.1, whole.2.1, front, whole.2.2⟩, rfl⟩
  · rintro ⟨split, same⟩
    refine ⟨key, value, ⟨split.front, same⟩, ?_, rfl, rfl⟩
    rintro (none | none | twice)
    · exact split.key none
    · exact split.value none
    · exact split.back twice

theorem oracle_keyValue_eq_ok : Oracle.keyValue line = .ok entry ↔ Split entry ∧ line = keyLine entry := by
  obtain ⟨key, value⟩ := entry
  unfold Oracle.keyValue
  rw [demand_bind_eq_ok, bind_eq_ok_iff]
  simp only [demand_bind_eq_ok, pure_eq_ok, Prod.exists, Prod.mk.injEq, orError_eq_ok, splitOnce_eq_some]
  have once : ∀ {key value : Bytes}, (key ++ equals :: value).count equals = key.count equals + value.count equals + 1 := by
    intro key value
    rw [count_append, count_cons_self]
    omega
  constructor
  · rintro ⟨single, _, _, ⟨front, rfl⟩, whole, rfl, rfl⟩
    simp only [not_or] at whole
    have none := count_eq_zero.mpr front
    rw [once, none] at single
    have absent : value.count equals = 0 := by omega
    exact ⟨⟨whole.1, whole.2, front, count_eq_zero.mp absent⟩, rfl⟩
  · rintro ⟨split, rfl⟩
    refine ⟨?_, key, value, ⟨split.front, rfl⟩, ?_, rfl, rfl⟩
    · rw [keyLine, once, count_eq_zero.mpr split.front, count_eq_zero.mpr split.back]
    · rintro (none | none)
      · exact split.key none
      · exact split.value none

theorem stripStart_eq_some {start : Bytes} : stripStart start key = some rest ↔ key = start ++ rest := by
  unfold stripStart
  constructor
  · intro found
    split at found
    · rename_i begins
      obtain ⟨more, rfl⟩ := begins
      rw [drop_left] at found
      rw [Option.some.inj found]
    · exact nomatch found
  · rintro rfl
    rw [if_pos (prefix_append ..), drop_left]

theorem dot_not_mem_of_valid (valid : validLowerIdentifier identifier = true) : dot ∉ identifier := by
  cases identifier with
  | nil => exact not_mem_nil
  | cons first rest =>
    unfold validLowerIdentifier at valid
    simp only [Bool.and_eq_true, decide_eq_true_eq, all_eq_true] at valid
    intro member
    rcases mem_cons.mp member with rfl | later
    · exact absurd valid.1.2 (by decide)
    · exact absurd (valid.2 dot later) (by decide)

theorem recordKey_eq_ok (known : field ∈ format.fields) : recordKey format key field = .ok identifier ↔
    validLowerIdentifier identifier = true ∧ key = fieldKey format identifier field := by
  unfold recordKey fieldKey
  simp only [bind_eq_ok_iff, demand_eq_ok, pure_eq_ok, Prod.exists, orError_eq_ok, stripStart_eq_some,
    splitOnce_eq_some, exists_const]
  constructor
  · rintro ⟨_, rfl, other, name, ⟨clean, rfl⟩, valid, -, rfl, rfl⟩
    exact ⟨valid, (append_assoc ..).symm⟩
  · rintro ⟨valid, rfl⟩
    exact ⟨identifier ++ dot :: field, append_assoc .., identifier, field, ⟨dot_not_mem_of_valid valid, rfl⟩, valid,
      known, rfl, rfl⟩

theorem fieldKey_inj {other name : Bytes} (valid : dot ∉ identifier) (clean : dot ∉ other)
    (same : fieldKey format identifier field = fieldKey format other name) : identifier = other ∧ field = name := by
  unfold fieldKey at same
  rw [append_assoc, append_assoc] at same
  exact split_inj valid clean (append_cancel_left same)

end Keys

end PooleOS.BootText
