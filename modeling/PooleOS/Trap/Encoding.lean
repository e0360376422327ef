import PooleOS.Lib.Bytes
import PooleOS.Lib.Result

/- The encoding of PGB2 trap programs (`runtime/pgb2_trap_encoding.py`) and the loop of
`runtime/pgb2_trap_execution.py` that decodes a program. Instructions are not framed: where one
ends is known only from the lengths of its operands. -/
namespace PooleOS.Trap

open List Option Bytes

inductive Error
  | operandTooLong
  | unsupportedTrapOpcode (opcode : String)
  | truncatedOperandLength
  | truncatedOperandValue
  | invalidText
  | emptyInstruction
  | unsupportedEncodedOpcode (value : UInt8)
  | truncatedExpectedTrap
  | invalidExpectedTrap (value : UInt8)
  | didNotAdvance
deriving DecidableEq, Repr

def opcodeTable : List (String × UInt8) :=
  [("ASSERT_REGION_CAP", 0xE0), ("SNAPSHOT_REGION", 0xE1), ("ASSERT_MATRIX_PERMISSION", 0xE2)]

/-- An operation as the encoder receives it: a dictionary, whose keys may be missing. -/
structure Operation where
  opcode : Option String
  region : Option String
  source : Option String
  target : Option String
  capability : Option String
  expectedTrap : Option Bool
  trapCode : Option String
deriving DecidableEq, Repr

structure Decoded where
  opcode : String
  region : String
  source : String
  target : String
  capability : String
  expectedTrap : Bool
  trapCode : String
deriving DecidableEq, Repr

/-- `_expected_decoded`. -/
def expectedDecoded (operation : Operation) : Decoded where
  opcode := operation.opcode.getD ""
  region := operation.region.getD ""
  source := operation.source.getD ""
  target := operation.target.getD ""
  capability := operation.capability.getD ""
  expectedTrap := operation.expectedTrap = some true
  trapCode := operation.trapCode.getD ""

/-- A decoded operation is again a dictionary. -/
def Decoded.asOperation (decoded : Decoded) : Operation where
  opcode := some decoded.opcode
  region := some decoded.region
  source := some decoded.source
  target := some decoded.target
  capability := some decoded.capability
  expectedTrap := some decoded.expectedTrap
  trapCode := some decoded.trapCode

/-- `value.encode("utf-8")`. -/
def utf8 (value : String) : Bytes := value.toUTF8.data.toList

/-- `raw.decode("utf-8")`. -/
def decodeUtf8 (raw : Bytes) : Option String := String.fromUTF8? ⟨raw.toArray⟩

def writeTextOperand (buffer : Bytes) (value : String) : Except Error Bytes := do
  let raw := utf8 value
  demand (raw.length ≤ 65535) Error.operandTooLong
  return buffer ++ (Bytes.ofWord 2 raw.length ++ raw)

def readTextOperand (data : Bytes) (offset : Nat) : Except Error (String × Nat) := do
  demand (offset + 2 ≤ data.length) Error.truncatedOperandLength
  let length := data.word offset 2
  let offset := offset + 2
  demand (offset + length ≤ data.length) Error.truncatedOperandValue
  let value ← orError (decodeUtf8 (data.slice offset length)) .invalidText
  return (value, offset + length)

def encodeOperation (operation : Operation) : Except Error Bytes := do
  let opcode := operation.opcode.getD ""
  let code ← orError (opcodeTable.lookup opcode) (.unsupportedTrapOpcode opcode)
  let buffer ← writeTextOperand [code] (operation.region.getD "")
  let buffer ← writeTextOperand buffer (operation.source.getD "")
  let buffer ← writeTextOperand buffer (operation.target.getD "")
  let buffer ← writeTextOperand buffer (operation.capability.getD "")
  let buffer := buffer ++ [if operation.expectedTrap = some true then 1 else 0]
  writeTextOperand buffer (operation.trapCode.getD "")

/-- The first name of the table with this value. -/
def opcodeName (value : UInt8) : Option String := (opcodeTable.find? (·.2 = value)).map (·.1)

def decodeInstructionAt (data : Bytes) (offset : Nat) : Except Error (Decoded × Nat) := do
  let value ← orError data[offset]? .emptyInstruction
  let opcode ← orError (opcodeName value) (.unsupportedEncodedOpcode value)
  let (region, offset) ← readTextOperand data (offset + 1)
  let (source, offset) ← readTextOperand data offset
  let (target, offset) ← readTextOperand data offset
  let (capability, offset) ← readTextOperand data offset
  let flag ← orError data[offset]? .truncatedExpectedTrap
  demand (flag = 0 ∨ flag = 1) (Error.invalidExpectedTrap flag)
  let (trapCode, offset) ← readTextOperand data (offset + 1)
  return ({ opcode, region, source, target, capability, expectedTrap := flag = 1, trapCode }, offset)

/-- How far the decode loop has come. -/
structure Progress where
  executed : List Decoded
  decodeError : Option Error
  offset : Nat
deriving DecidableEq, Repr

def Progress.after (decoded : Decoded) (progress : Progress) : Progress :=
  { progress with executed := decoded :: progress.executed }

/-- The loop of `make_pgb2_trap_execution`. -/
def decodeLoop (data : Bytes) (offset : Nat) : Progress :=
  if offset < data.length then
    match decodeInstructionAt data offset with
    | .error reason => ⟨[], some reason, offset⟩
    | .ok (decoded, next) =>
      if next ≤ offset then ⟨[], some .didNotAdvance, offset⟩
      else (decodeLoop data next).after decoded
  else ⟨[], none, offset⟩
termination_by data.length - offset

section Text

variable {raw buffer bytes data chunk first second : Bytes} {value : String} {byte : UInt8} {offset next : Nat}

theorem decodeUtf8_eq_some : decodeUtf8 raw = some value ↔ raw = utf8 value := by
  unfold decodeUtf8 utf8 String.fromUTF8?
  split
  · rw [some.injEq, ← String.toByteArray_inj]
    constructor
    · intro same
      change raw = value.toByteArray.data.toList
      rw [← same]
      rfl
    · rintro rfl
      rfl
  · rename_i invalid
    refine iff_of_false nofun ?_
    rintro rfl
    exact invalid value.isValidUTF8

/-- The data holds this chunk from the offset up to the next one. -/
def Reads (data : Bytes) (offset : Nat) (chunk : Bytes) (next : Nat) : Prop :=
  data.drop offset = chunk ++ data.drop next ∧ next = offset + chunk.length

theorem reads_append : Reads data offset (first ++ second) next ↔
    ∃ middle, Reads data offset first middle ∧ Reads data middle second next := by
  constructor
  · rintro ⟨held, rfl⟩
    refine ⟨_, ⟨?_, rfl⟩, ?_, by rw [length_append, Nat.add_assoc]⟩
    · rw [← drop_drop, held, append_assoc, drop_left]
    · rw [← drop_drop, held, append_assoc, drop_left]
  · rintro ⟨_, ⟨held, rfl⟩, later, rfl⟩
    exact ⟨by rw [held, later, append_assoc], by rw [length_append, Nat.add_assoc]⟩

theorem reads_byte : Reads data offset [byte] next ↔ data[offset]? = some byte ∧ next = offset + 1 := by
  unfold Reads
  rw [length_singleton, and_congr_left_iff]
  rintro rfl
  constructor
  · intro held
    have found := congrArg (·[0]?) held
    simpa [getElem?_drop] using found
  · intro found
    obtain ⟨inside, rfl⟩ := List.getElem?_eq_some_iff.mp found
    exact drop_eq_getElem_cons inside

theorem reads_slice (width : Nat) (inside : offset + width ≤ data.length) :
    Reads data offset (data.slice offset width) (offset + width) := by
  have length : (data.slice offset width).length = width := by
    unfold Bytes.slice
    rw [length_take, length_drop]
    omega
  refine ⟨?_, by rw [length]⟩
  unfold Bytes.slice
  rw [← drop_drop, take_append_drop]

theorem Reads.slice (reads : Reads data offset chunk next) : data.slice offset chunk.length = chunk := by
  unfold Bytes.slice
  rw [reads.1, take_left]

theorem Reads.inside (reads : Reads data offset chunk next) (filled : chunk ≠ []) : next ≤ data.length := by
  obtain ⟨held, rfl⟩ := reads
  have lengths := congrArg length held
  have positive := length_pos_iff.mpr filled
  rw [length_append, length_drop, length_drop] at lengths
  omega

def operandBytes (value : String) : Bytes := Bytes.ofWord 2 (utf8 value).length ++ utf8 value

theorem writeTextOperand_eq_ok : writeTextOperand buffer value = .ok bytes ↔
    (utf8 value).length ≤ 65535 ∧ bytes = buffer ++ operandBytes value := by
  unfold writeTextOperand
  rw [demand_bind_eq_ok, pure_eq_ok]
  rfl

theorem readTextOperand_eq_ok : readTextOperand data offset = .ok (value, next) ↔
    (utf8 value).length ≤ 65535 ∧ Reads data offset (operandBytes value) next := by
  unfold readTextOperand operandBytes
  rw [demand_bind_eq_ok, demand_bind_eq_ok, reads_append]
  simp only [bind_eq_ok_iff, orError_eq_ok, decodeUtf8_eq_some, pure_eq_ok, Prod.mk.injEq]
  constructor
  · rintro ⟨inside, within, _, text, rfl, rfl⟩
    have header := reads_slice 2 inside
    have body := reads_slice _ within
    rw [text] at body
    have length : (utf8 value).length = data.word offset 2 := by
      have ends := body.2
      omega
    have spelled : ofWord 2 (data.word offset 2) = data.slice offset 2 := by
      have width : (data.slice offset 2).length = 2 := by
        have ends := header.2
        omega
      have same := ofWord_little (data.slice offset 2)
      rw [width] at same
      exact same
    have small := data.word_lt offset 2
    rw [length, spelled]
    exact ⟨by omega, _, header, body⟩
  · rintro ⟨small, middle, header, body⟩
    have width := header.2
    rw [ofWord_length] at width
    subst width
    have length : data.word offset 2 = (utf8 value).length := by
      have front := header.slice
      rw [ofWord_length] at front
      rw [word, front, little_ofWord (by omega)]
    have inside := header.inside (ne_nil_of_length_pos (by rw [ofWord_length]; decide))
    rw [length, body.slice]
    refine ⟨inside, ?_, _, rfl, rfl, body.2⟩
    have ends := body.2
    by_cases empty : utf8 value = []
    · rw [empty]
      exact inside
    · exact ends ▸ body.inside empty

end Text

section Instructions

variable {data bytes : Bytes} {decoded : Decoded} {operation : Operation} {offset next : Nat}

/-- What the encoding can express. -/
structure Encodable (decoded : Decoded) : Prop where
  known : (opcodeTable.lookup decoded.opcode).isSome
  operands : ∀ operand ∈ [decoded.region, decoded.source, decoded.target, decoded.capability, decoded.trapCode],
    (utf8 operand).length ≤ 65535

def encoded (decoded : Decoded) : Bytes :=
  [(opcodeTable.lookup decoded.opcode).getD 0] ++ operandBytes decoded.region ++ operandBytes decoded.source ++
    operandBytes decoded.target ++ operandBytes decoded.capability ++ [if decoded.expectedTrap then 1 else 0] ++
    operandBytes decoded.trapCode

theorem expectedDecoded_asOperation (decoded : Decoded) : expectedDecoded decoded.asOperation = decoded := by
  simp [expectedDecoded, Decoded.asOperation]

theorem encodeOperation_eq_ok : encodeOperation operation = .ok bytes ↔
    Encodable (expectedDecoded operation) ∧ bytes = encoded (expectedDecoded operation) := by
  unfold encodeOperation
  simp only [bind_eq_ok_iff, orError_eq_ok, writeTextOperand_eq_ok]
  constructor
  · rintro ⟨code, known, _, ⟨region, rfl⟩, _, ⟨source, rfl⟩, _, ⟨target, rfl⟩, _, ⟨capability, rfl⟩, trapCode, rfl⟩
    have found : opcodeTable.lookup (expectedDecoded operation).opcode = some code := known
    refine ⟨⟨by rw [found]; rfl, ?_⟩, ?_⟩
    · simpa [expectedDecoded] using ⟨region, source, target, capability, trapCode⟩
    · rw [encoded, found]
      simp [expectedDecoded]
  · rintro ⟨⟨known, operands⟩, rfl⟩
    obtain ⟨code, found⟩ := isSome_iff_exists.mp known
    simp only [forall_mem_cons] at operands
    obtain ⟨region, source, target, capability, trapCode, -⟩ := operands
    refine ⟨code, found, _, ⟨region, rfl⟩, _, ⟨source, rfl⟩, _, ⟨target, rfl⟩, _, ⟨capability, rfl⟩, trapCode, ?_⟩
    rw [encoded, found]
    simp [expectedDecoded]

/-- Each code of the table has one name, and each name one code. -/
theorem opcodeName_eq_some {value : UInt8} {opcode : String} :
    opcodeName value = some opcode ↔ opcodeTable.lookup opcode = some value := by
  have entries : ∀ {entry : String × UInt8}, entry ∈ opcodeTable → entry = ("ASSERT_REGION_CAP", 0xE0) ∨
      entry = ("SNAPSHOT_REGION", 0xE1) ∨ entry = ("ASSERT_MATRIX_PERMISSION", 0xE2) := by
    intro entry member
    simpa [opcodeTable] using member
  constructor
  · intro named
    obtain ⟨entry, found, rfl⟩ := map_eq_some_iff.mp named
    have code := find?_some found
    obtain rfl := of_decide_eq_true code
    rcases entries (mem_of_find?_eq_some found) with rfl | rfl | rfl <;> decide
  · intro known
    obtain ⟨front, back, split, -⟩ := lookup_eq_some_iff.mp known
    have member : (opcode, value) ∈ opcodeTable := by simp [split]
    rcases entries member with same | same | same <;> obtain ⟨rfl, rfl⟩ := Prod.mk.inj same <;> decide

theorem decodeInstructionAt_eq_ok : decodeInstructionAt data offset = .ok (decoded, next) ↔
    Encodable decoded ∧ Reads data offset (encoded decoded) next := by
  unfold decodeInstructionAt encoded
  simp only [bind_eq_ok_iff, orError_eq_ok, opcodeName_eq_some, Prod.exists, readTextOperand_eq_ok, reads_append,
    reads_byte]
  constructor
  · rintro ⟨code, found, opcode, known, region, _, ⟨regionFits, regionRead⟩, source, _, ⟨sourceFits, sourceRead⟩,
      target, _, ⟨targetFits, targetRead⟩, capability, _, ⟨capabilityFits, capabilityRead⟩, flag, flagged, _, boolean,
      trapCode, _, ⟨trapFits, trapRead⟩, made⟩
    obtain ⟨rfl, rfl⟩ := made
    rw [demand_eq_ok] at boolean
    refine ⟨⟨by rw [known]; rfl, by simp [regionFits, sourceFits, targetFits, capabilityFits, trapFits]⟩, _, ⟨_, ⟨_,
      ⟨_, ⟨_, ⟨_, ⟨?_, rfl⟩, regionRead⟩, sourceRead⟩, targetRead⟩, capabilityRead⟩, ?_, rfl⟩, trapRead⟩
    · rw [known]
      exact found
    · rw [flagged]
      rcases boolean with rfl | rfl <;> rfl
  · rintro ⟨⟨known, operands⟩, _, ⟨_, ⟨_, ⟨_, ⟨_, ⟨_, ⟨found, rfl⟩, regionRead⟩, sourceRead⟩, targetRead⟩,
      capabilityRead⟩, flagged, rfl⟩, trapRead⟩
    obtain ⟨code, named⟩ := isSome_iff_exists.mp known
    rw [named] at found
    simp only [forall_mem_cons] at operands
    obtain ⟨region, source, target, capability, trapCode, -⟩ := operands
    refine ⟨code, found, _, named, _, _, ⟨region, regionRead⟩, _, _, ⟨source, sourceRead⟩, _, _, ⟨target, targetRead⟩,
      _, _, ⟨capability, capabilityRead⟩, _, flagged, (), ?_, _, _, ⟨trapCode, trapRead⟩, ?_⟩
    · rw [demand_eq_ok]
      cases decoded.expectedTrap
      · exact .inl rfl
      · exact .inr rfl
    · obtain ⟨_, _, _, _, _, expectedTrap, _⟩ := decoded
      cases expectedTrap <;> rfl

end Instructions

section Programs

variable {data : Bytes} {offset : Nat} {executed : List Decoded}

theorem encoded_filled (decoded : Decoded) : encoded decoded ≠ [] := by simp [encoded]

theorem flatten_filled : ∀ {executed : List Decoded}, (executed.map encoded).flatten = [] → executed = []
  | [], _ => rfl
  | decoded :: rest, empty => by
    rw [map_cons, flatten_cons, append_eq_nil_iff] at empty
    exact absurd empty.1 (encoded_filled decoded)

/-- The first operation that is left to decode. -/
theorem exists_first (less : offset < data.length) (held : data.drop offset = (executed.map encoded).flatten) :
    ∃ first rest, executed = first :: rest ∧ Reads data offset (encoded first) (offset + (encoded first).length) ∧
      data.drop (offset + (encoded first).length) = (rest.map encoded).flatten := by
  cases executed with
  | nil =>
    have ended := drop_eq_nil_iff.mp held
    omega
  | cons first rest =>
    rw [map_cons, flatten_cons] at held
    have behind : data.drop (offset + (encoded first).length) = (rest.map encoded).flatten := by
      rw [← drop_drop, held, drop_left]
    exact ⟨first, rest, rfl, ⟨by rw [behind, held], rfl⟩, behind⟩

/-- The loop has consumed the data exactly when the rest of it is what the decoded operations encode to. -/
theorem decodeLoop_eq (inside : offset ≤ data.length) : decodeLoop data offset = ⟨executed, none, data.length⟩ ↔
    (∀ decoded ∈ executed, Encodable decoded) ∧ data.drop offset = (executed.map encoded).flatten := by
  induction offset using decodeLoop.induct data generalizing executed with
  | case1 offset less reason failed =>
    rw [decodeLoop, if_pos less, failed]
    refine iff_of_false nofun ?_
    rintro ⟨encodable, held⟩
    obtain ⟨first, rest, rfl, reads, -⟩ := exists_first less held
    have decodes := decodeInstructionAt_eq_ok.mpr ⟨encodable first mem_cons_self, reads⟩
    rw [failed] at decodes
    cases decodes
  | case2 offset less decoded next found stuck =>
    obtain ⟨-, reads⟩ := decodeInstructionAt_eq_ok.mp found
    have ends := reads.2
    have positive := length_pos_iff.mpr (encoded_filled decoded)
    omega
  | case3 offset less decoded next found moves ih =>
    obtain ⟨encodable, reads⟩ := decodeInstructionAt_eq_ok.mp found
    have within := reads.inside (encoded_filled decoded)
    rw [decodeLoop, if_pos less, found]
    dsimp only
    rw [if_neg moves]
    constructor
    · intro run
      obtain ⟨later, stop⟩ : decodeLoop data next = ⟨executed.tail, none, data.length⟩ ∧
          executed = decoded :: executed.tail := by
        obtain ⟨rfl, none, last⟩ := Progress.mk.inj run
        exact ⟨by rw [← none, ← last]; rfl, rfl⟩
      obtain ⟨fits, held⟩ := (ih within).mp later
      rw [stop]
      refine ⟨forall_mem_cons.mpr ⟨encodable, fits⟩, ?_⟩
      rw [map_cons, flatten_cons, reads.1, held]
    · rintro ⟨fits, held⟩
      obtain ⟨first, rest, rfl, firstReads, behind⟩ := exists_first less held
      have again := decodeInstructionAt_eq_ok.mpr ⟨fits first mem_cons_self, firstReads⟩
      rw [found] at again
      obtain ⟨rfl, rfl⟩ := Prod.mk.inj (Except.ok.inj again)
      rw [(ih within).mpr ⟨(forall_mem_cons.mp fits).2, behind⟩]
      rfl
  | case4 offset done =>
    obtain rfl : offset = data.length := by omega
    rw [decodeLoop, if_neg done, drop_length]
    constructor
    · intro run
      obtain ⟨rfl, -, -⟩ := Progress.mk.inj run
      exact ⟨nofun, rfl⟩
    · rintro ⟨-, empty⟩
      rw [flatten_filled empty.symm]

/-- Programs and the operations that they decode to determine each other. -/
theorem programs_decode_exactly :
    (∀ operations : List Operation, (∀ operation ∈ operations, Encodable (expectedDecoded operation)) →
      ∃ chunks, operations.mapM encodeOperation = .ok chunks ∧
        decodeLoop chunks.flatten 0 = ⟨operations.map expectedDecoded, none, chunks.flatten.length⟩) ∧
    (∀ data executed, decodeLoop data 0 = ⟨executed, none, data.length⟩ →
      ∃ chunks, (executed.map Decoded.asOperation).mapM encodeOperation = .ok chunks ∧ chunks.flatten = data) ∧
    ∀ one two executed, decodeLoop one 0 = ⟨executed, none, one.length⟩ →
      decodeLoop two 0 = ⟨executed, none, two.length⟩ → one = two := by
  have encodes : ∀ (operations : List Operation) chunks, operations.mapM encodeOperation = .ok chunks ↔
      (∀ operation ∈ operations, Encodable (expectedDecoded operation)) ∧
        chunks = operations.map (fun operation => encoded (expectedDecoded operation)) :=
    fun operations => mapM_closed (fun _ _ _ => encodeOperation_eq_ok)
  refine ⟨fun operations fits => ?_, fun data executed run => ?_, fun one two executed first second => ?_⟩
  · refine ⟨_, (encodes operations _).mpr ⟨fits, rfl⟩, (decodeLoop_eq (Nat.zero_le _)).mpr ⟨?_, ?_⟩⟩
    · exact forall_mem_map.mpr fits
    · rw [List.drop_zero, List.map_map]
      rfl
  · obtain ⟨fits, held⟩ := (decodeLoop_eq (Nat.zero_le _)).mp run
    refine ⟨_, (encodes _ _).mpr ⟨?_, rfl⟩, ?_⟩
    · refine forall_mem_map.mpr (fun decoded member => ?_)
      rw [expectedDecoded_asOperation]
      exact fits decoded member
    · rw [List.drop_zero] at held
      simp only [held, List.map_map, Function.comp_def, expectedDecoded_asOperation]
  · have front := (decodeLoop_eq (Nat.zero_le _)).mp first
    have back := (decodeLoop_eq (Nat.zero_le _)).mp second
    rw [drop_zero] at front back
    rw [front.2, back.2]

end Programs

end PooleOS.Trap
