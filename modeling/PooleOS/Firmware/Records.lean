import PooleOS.Firmware.Oracle
import PooleOS.Lib.Rows

/- What the two parsers ask of the header and of each record. -/
namespace PooleOS.Firmware

open Nat Bytes
open List

section Reads

variable {bytes value : Bytes} {offset width : Nat} {reason : Error}

theorem range_ok : orError (bytes.range? offset (offset + width)) reason = .ok value ↔
    offset + width ≤ bytes.length ∧ value = bytes.slice offset width := by
  rw [orError_eq_ok, range?_eq_some, Nat.add_sub_cancel_left]
  constructor
  · exact fun all => ⟨all.2.1, all.2.2⟩
  · exact fun both => ⟨Nat.le_add_right .., both.1, both.2⟩

theorem digestNonzero_ok : digestNonzero bytes offset reason = .ok () ↔
    offset + 32 ≤ bytes.length ∧ ¬ (bytes.slice offset 32).allZero := by
  unfold digestNonzero
  rw [bind_eq_ok_iff]
  simp only [range_ok, demand_eq_ok]
  constructor
  · rintro ⟨_, ⟨inside, rfl⟩, some⟩
    exact ⟨inside, some⟩
  · exact fun both => ⟨_, ⟨both.1, rfl⟩, both.2⟩

theorem nonzeroDigest_bind {α : Type} {next : Bytes → Except Error α} {result : α}
    (inside : offset + 32 ≤ bytes.length) : (Oracle.nonzeroDigest bytes offset reason >>= next) = .ok result ↔
      ¬ (bytes.slice offset 32).allZero ∧ next (bytes.slice offset 32) = .ok result := by
  unfold Oracle.nonzeroDigest
  rw [bind_assoc, demand_bind_eq_ok, pure_bind]
  simp only [slice_length inside, true_and]

theorem readWord_ok {word : Nat} : Bundle.readWord bytes offset width = .ok word ↔
    offset + width ≤ bytes.length ∧ word = bytes.word offset width := by
  unfold Bundle.readWord
  rw [bind_eq_ok_iff]
  simp only [range_ok, pure_eq_ok]
  constructor
  · rintro ⟨_, ⟨inside, rfl⟩, rfl⟩
    exact ⟨inside, rfl⟩
  · exact fun both => ⟨_, ⟨both.1, rfl⟩, both.2⟩

end Reads

section Components

variable {bytes : Bytes} {offset : Nat}

/-- What the record of a component holds. -/
structure ComponentRule (record : Bytes) : Prop where
  componentId : record.word 0 4 ≠ 0
  kind : record.word 4 2 = kindPlatformFirmware ∨ record.word 4 2 = kindControllerFirmware ∨
    record.word 4 2 = kindDeviceFirmware
  transport : record.word 6 2 = transportUefiCapsuleEsrt ∨ record.word 6 2 = transportDevicePlugin ∨
    record.word 6 2 = transportPldm
  mapping : transportAllowed (record.word 4 2) (record.word 6 2)
  flags : record.word 16 4 = componentRequiredFlags
  reserved : record.word 20 4 = 0
  guid : ¬ (record.slice 24 16).allZero
  hardware : record.word 40 8 ≠ 0
  versions : 0 < record.word 64 8 ∧ record.word 64 8 ≤ record.word 72 8 ∧ record.word 72 8 ≤ record.word 80 8 ∧
    record.word 80 8 ≤ record.word 48 8 ∧ record.word 48 8 < record.word 56 8
  payload : ¬ (record.word 88 8 = 0 ∨ maxExternalPayloadBytes < record.word 88 8)
  digests : ∀ offset ∈ [96, 128, 160, 192, 224], ¬ (record.slice offset 32).allZero

/-- The words of a component. -/
def componentOf (record : Bytes) : Component where
  componentId := record.word 0 4
  kind := record.word 4 2
  transport := record.word 6 2
  phase := record.word 8 2
  dependencyCount := record.word 10 2
  dependencyStart := record.word 12 4
  flags := record.word 16 4
  resourceGuid := record.slice 24 16
  hardwareInstance := record.word 40 8
  currentVersion := record.word 48 8
  targetVersion := record.word 56 8
  lowestSupportedVersion := record.word 64 8
  rollbackFloor := record.word 72 8
  knownGoodVersion := record.word 80 8
  externalPayloadBytes := record.word 88 8

def Oracle.componentOf (record : Bytes) : Oracle.Component where
  componentId := record.word 0 4
  kind := record.word 4 2
  transport := record.word 6 2
  phase := record.word 8 2
  dependencyStart := record.word 12 4
  dependencyCount := record.word 10 2
  flags := record.word 16 4
  resourceGuid := record.slice 24 16
  hardwareInstance := record.word 40 8
  currentVersion := record.word 48 8
  targetVersion := record.word 56 8
  lowestSupportedVersion := record.word 64 8
  rollbackFloor := record.word 72 8
  knownGoodVersion := record.word 80 8
  externalPayloadBytes := record.word 88 8
  deviceIdentitySha256 := record.slice 96 32
  externalPayloadSha256 := record.slice 128 32
  vendorSignerSha256 := record.slice 160 32
  updaterPluginSha256 := record.slice 192 32
  recoveryIdentitySha256 := record.slice 224 32

theorem parseComponent_ok {component : Component} : parseComponent bytes offset = .ok component ↔
    offset + componentRecordBytes ≤ bytes.length ∧ ComponentRule (bytes.slice offset componentRecordBytes) ∧
      component = componentOf (bytes.slice offset componentRecordBytes) := by
  unfold parseComponent
  rw [bind_eq_ok_iff]
  simp only [range_ok, unit_bind_eq_ok, demand_eq_ok, forM_eq_ok, digestNonzero_ok, pure_eq_ok]
  constructor
  · rintro ⟨record, ⟨inside, rfl⟩, id, kind, transport, mapping, flags, reserved, guid, hardware, versions, payload,
      digests, rfl⟩
    exact ⟨inside, ⟨id, kind, transport, mapping, flags, reserved, guid, hardware, versions, payload,
      fun offset member => (digests offset member).2⟩, rfl⟩
  · rintro ⟨inside, rule, rfl⟩
    refine ⟨_, ⟨inside, rfl⟩, rule.componentId, rule.kind, rule.transport, rule.mapping, rule.flags, rule.reserved,
      rule.guid, rule.hardware, rule.versions, rule.payload, fun offset member => ⟨?_, rule.digests offset member⟩, rfl⟩
    rw [slice_length inside]
    revert offset
    decide

theorem oracle_parseComponent_ok {component : Oracle.Component} (inside : offset + componentRecordBytes ≤ bytes.length) :
    Oracle.parseComponent bytes offset = .ok component ↔
      ComponentRule (bytes.slice offset componentRecordBytes) ∧
        component = Oracle.componentOf (bytes.slice offset componentRecordBytes) := by
  have length := slice_length inside
  have room : ∀ {place}, place + 32 ≤ 256 → place + 32 ≤ (bytes.slice offset componentRecordBytes).length :=
    fun within => le_trans within (le_of_eq length.symm)
  unfold Oracle.parseComponent
  simp only [unit_bind_eq_ok, demand_eq_ok, nonzeroDigest_bind (room (by decide : 96 + 32 ≤ 256)),
    nonzeroDigest_bind (room (by decide : 128 + 32 ≤ 256)), nonzeroDigest_bind (room (by decide : 160 + 32 ≤ 256)),
    nonzeroDigest_bind (room (by decide : 192 + 32 ≤ 256)), nonzeroDigest_bind (room (by decide : 224 + 32 ≤ 256)),
    pure_eq_ok, length, true_and]
  constructor
  · rintro ⟨id, kind, transport, mapping, flags, reserved, guid, hardware, versions, payload, device, external, vendor,
      plugin, recovery, rfl⟩
    refine ⟨⟨id, ?_, ?_, mapping, flags, reserved, guid, hardware, versions, payload, ?_⟩, rfl⟩
    · simpa using kind
    · simpa using transport
    · simp only [forall_mem_cons]
      exact ⟨device, external, vendor, plugin, recovery, nofun⟩
  · rintro ⟨rule, rfl⟩
    have digests := rule.digests
    simp only [forall_mem_cons] at digests
    obtain ⟨device, external, vendor, plugin, recovery, _⟩ := digests
    refine ⟨rule.componentId, ?_, ?_, rule.mapping, rule.flags, rule.reserved, rule.guid, rule.hardware, rule.versions,
      rule.payload, device, external, vendor, plugin, recovery, rfl⟩
    · simpa using rule.kind
    · simpa using rule.transport

end Components

section Headers

variable (sha : Sha256) (data : Bytes)

/-- What the first 512 bytes hold. -/
structure HeaderRule : Prop where
  length : headerBytes ≤ data.length
  small : data.length ≤ maxManifestBytes
  magic : data.take 8 = Firmware.magic
  version : data.word 8 2 = majorVersion ∧ data.word 10 2 = minorVersion
  headerSize : data.word 12 2 = headerBytes
  recordSize : data.word 14 2 = componentRecordBytes ∧ data.word 16 2 = dependencyRecordBytes
  profile : data.word 18 2 = profileSyntheticQualification
  flags : data.word 20 4 = requiredFlags
  manifestVersion : data.word 24 8 ≠ 0
  components : 1 ≤ data.word 32 4 ∧ data.word 32 4 ≤ maxComponents
  dependencies : data.word 36 4 ≤ maxDependencies
  tables : data.word 40 8 = headerBytes ∧ data.word 48 8 = headerBytes + data.word 32 4 * componentRecordBytes
  total : data.word 56 8 =
    headerBytes + data.word 32 4 * componentRecordBytes + data.word 36 4 * dependencyRecordBytes
  whole : data.length =
    headerBytes + data.word 32 4 * componentRecordBytes + data.word 36 4 * dependencyRecordBytes
  limits : ¬ (data.word 64 8 = 0 ∨ maxExternalPayloadBytes < data.word 64 8 ∨ data.word 72 4 ≠ 1 ∨
    ¬ (1 ≤ data.word 76 2 ∧ data.word 76 2 ≤ 100) ∨ maxRetryLimit < data.word 78 2 ∨
    ¬ (1 ≤ data.word 80 4 ∧ data.word 80 4 ≤ maxApplyTimeoutMs) ∨
    ¬ (1 ≤ data.word 84 4 ∧ data.word 84 4 ≤ maxResetTimeoutMs))
  digests : ∀ step < 10, ¬ (data.slice (88 + 32 * step) 32).allZero
  manifestId : manifestIdValid data = true
  reserved : (data.slice 448 (headerBytes - 448)).allZero = true
  body : sha.digest (data.drop headerBytes) = data.slice 376 32

/-- The words of a header. -/
def bundleOf : Bundle where
  raw := data
  manifestVersion := data.word 24 8
  profile := data.word 18 2
  flags := data.word 20 4
  componentCount := data.word 32 4
  dependencyCount := data.word 36 4
  maximumExternalPayloadBytes := data.word 64 8
  maximumTransactionComponents := data.word 72 4
  requiredBatteryPercent := data.word 76 2
  retryLimit := data.word 78 2
  applyTimeoutMs := data.word 80 4
  resetTimeoutMs := data.word 84 4
  bodySha256 := data.slice 376 32

/-- The text in front of the padding. -/
def manifestIdOf : Bytes := (data.slice 408 40).takeWhile (· != 0)

def Oracle.headerOf : Oracle.Bundle where
  raw := data
  manifestVersion := data.word 24 8
  manifestId := manifestIdOf data
  profile := data.word 18 2
  flags := data.word 20 4
  maximumExternalPayloadBytes := data.word 64 8
  maximumTransactionComponents := data.word 72 4
  requiredBatteryPercent := data.word 76 2
  retryLimit := data.word 78 2
  applyTimeoutMs := data.word 80 4
  resetTimeoutMs := data.word 84 4
  targetProfileSha256 := data.slice 88 32
  inventorySchemaSha256 := data.slice 120 32
  packagePolicySha256 := data.slice 152 32
  licenseManifestSha256 := data.slice 184 32
  revocationStateSha256 := data.slice 216 32
  recoveryProfileSha256 := data.slice 248 32
  updaterAllowlistSha256 := data.slice 280 32
  trustPolicySha256 := data.slice 312 32
  receiptSchemaSha256 := data.slice 344 32
  bodySha256 := data.slice 376 32
  components := []
  dependencies := []

variable {sha data}

theorem parseHeader_ok {bundle : Bundle} :
    parseHeader sha data = .ok bundle ↔ HeaderRule sha data ∧ bundle = bundleOf data := by
  unfold parseHeader
  simp only [unit_bind_eq_ok, demand_eq_ok, forM_eq_ok, digestNonzero_ok, pure_eq_ok]
  constructor
  · rintro ⟨length, small, magic, version, headerSize, recordSize, profile, flags, manifestVersion, counts, tables,
      total, trailing, limits, digests, manifestId, reserved, body, rfl⟩
    refine ⟨⟨length, Nat.le_of_not_lt small, magic, version, headerSize, recordSize, profile, flags, manifestVersion,
      by omega, by omega, tables, total.1, by omega, limits,
      fun step less => (digests step (mem_range.mpr less)).2, manifestId, reserved, body⟩, rfl⟩
  · rintro ⟨rule, rfl⟩
    have components := rule.components
    have dependencies := rule.dependencies
    have whole := rule.whole
    have length := rule.length
    refine ⟨length, not_lt.mpr rule.small, rule.magic, rule.version, rule.headerSize, rule.recordSize,
      rule.profile, rule.flags, rule.manifestVersion, by omega, rule.tables, ⟨rule.total, by omega⟩, by omega,
      rule.limits, fun step member => ⟨?_, rule.digests step (mem_range.mp member)⟩, rule.manifestId,
      rule.reserved, rule.body, rfl⟩
    have less := mem_range.mp member
    have room : 512 ≤ data.length := length
    omega

end Headers

section Names

variable {data value id : Bytes}

/-- Behind the first byte the loop over the name does not look at the place. -/
theorem all_behind {rest : Bytes} : ∀ {place : Nat}, 0 < place → (rest.zipIdx place).all (fun item =>
    isUppercase item.1 || isDigit item.1 || (decide (0 < item.2) && isPunctuation item.1)) =
      rest.all (fun byte => Oracle.isFirst byte || isPunctuation byte) := by
  induction rest with
  | nil => exact fun _ => rfl
  | cons byte rest ih =>
    intro place positive
    rw [zipIdx_cons, all_cons, all_cons, ih (succ_pos place), decide_eq_true positive,
      Bool.true_and, Oracle.isFirst]

theorem ascii {byte : UInt8} (allowed : (Oracle.isFirst byte || isPunctuation byte) = true) : byte < 0x80 := by
  simp only [Oracle.isFirst, isUppercase, isDigit, isPunctuation, Bool.or_eq_true, Bool.and_eq_true,
    decide_eq_true_eq, beq_iff_eq] at allowed
  rcases allowed with (⟨_, upper⟩ | ⟨_, digit⟩) | (rfl | rfl) | rfl
  · exact UInt8.lt_of_le_of_lt upper (by decide)
  · exact UInt8.lt_of_le_of_lt digit (by decide)
  all_goals decide

/-- A name that is allowed by the loop and one that matches the pattern. -/
theorem name_agrees (short : value.length ≤ 39) : (value ≠ [] ∧ value.zipIdx.all (fun item =>
    isUppercase item.1 || isDigit item.1 || (decide (0 < item.2) && isPunctuation item.1)) = true) ↔
      (∀ byte ∈ value, byte < 0x80) ∧ Oracle.fullmatch value = true := by
  cases value with
  | nil => exact ⟨fun both => absurd rfl both.1, fun both => nomatch both.2⟩
  | cons first rest =>
    have length : rest.length ≤ 38 := le_of_succ_le_succ short
    have whole : (zipIdx (first :: rest)).all (fun item =>
        isUppercase item.1 || isDigit item.1 || (decide (0 < item.2) && isPunctuation item.1)) =
          Oracle.fullmatch (first :: rest) := by
      rw [zipIdx_cons, all_cons, all_behind (succ_pos 0), Oracle.fullmatch, decide_eq_true length,
        Bool.and_true, Oracle.isFirst]
      simp
    rw [whole]
    refine ⟨fun both => ⟨fun byte member => ?_, both.2⟩, fun both => ⟨nofun, both.2⟩⟩
    have matched := both.2
    rw [Oracle.fullmatch, Bool.and_eq_true, Bool.and_eq_true] at matched
    rcases mem_cons.mp member with rfl | later
    · exact ascii (by rw [matched.1.1]; rfl)
    · exact ascii (all_eq_true.mp matched.2 byte later)

theorem manifestId_ok (room : 448 ≤ data.length) :
    Oracle.manifestId data = .ok id ↔ manifestIdValid data = true ∧ id = manifestIdOf data := by
  have found : data.range? 408 448 = some (data.slice 408 40) :=
    range?_eq_some.mpr ⟨by decide, room, rfl⟩
  have length : (data.slice 408 40).length = 40 := slice_length (by omega)
  unfold Oracle.manifestId manifestIdValid manifestIdOf
  rw [found]
  dsimp only
  cases place : (data.slice 408 40).findIdx? (· == 0) with
  | none => simp [orError]
  | some nul =>
    obtain ⟨inside, here⟩ := findIdx?_eq_some_iff_findIdx_eq.mp place
    have front : (data.slice 408 40).takeWhile (· != 0) = (data.slice 408 40).take nul := by
      rw [takeWhile_eq_take_findIdx_not, ← here]
      congr 2
      funext byte
      exact Bool.not_not _
    have short : ((data.slice 408 40).take nul).length = nul := by
      rw [length_take]
      omega
    have agrees := @name_agrees ((data.slice 408 40).take nul) (by omega)
    have empty : (data.slice 408 40).take nul ≠ [] ↔ nul ≠ 0 := by
      rw [ne_eq, ← length_eq_zero_iff, short]
    rw [orError_some, ok_bind, front]
    simp only [unit_bind_eq_ok, demand_eq_ok, pure_eq_ok]
    rw [empty] at agrees
    have bound : ¬ 39 < nul := by omega
    simp only [bound, false_or]
    by_cases zero : nul = 0
    · simp [zero]
    · by_cases clean : allZero ((data.slice 408 40).drop nul) = true
      · simp only [zero, clean, not_true_eq_false, or_self, not_false_eq_true, true_and, if_false]
        rw [← and_assoc, ← agrees]
        simp only [ne_eq, zero, not_false_eq_true, true_and]
      · simp [zero, clean]

end Names

section Headers

variable {sha : Sha256} {data : Bytes}

theorem oracle_parseHeader_ok {bundle : Oracle.Bundle} :
    Oracle.parseHeader sha data = .ok bundle ↔ HeaderRule sha data ∧ bundle = Oracle.headerOf data := by
  by_cases length : headerBytes ≤ data.length
  · have room : ∀ {place}, place + 32 ≤ headerBytes → place + 32 ≤ data.length :=
      fun within => le_trans within length
    have name : ∀ {next : Bytes → Except Error Oracle.Bundle}, (Oracle.manifestId data >>= next) = .ok bundle ↔
        manifestIdValid data = true ∧ next (manifestIdOf data) = .ok bundle := by
      intro next
      rw [bind_eq_ok_iff]
      simp only [manifestId_ok (le_trans (by decide : 448 ≤ headerBytes) length), and_assoc,
        exists_and_left]
      exact and_congr_right (fun _ => ⟨fun ⟨_, same, rest⟩ => same ▸ rest, fun rest => ⟨_, rfl, rest⟩⟩)
    unfold Oracle.parseHeader
    simp only [unit_bind_eq_ok, demand_eq_ok, name, pure_eq_ok,
      nonzeroDigest_bind (room (by decide : 88 + 32 ≤ headerBytes)),
      nonzeroDigest_bind (room (by decide : 120 + 32 ≤ headerBytes)),
      nonzeroDigest_bind (room (by decide : 152 + 32 ≤ headerBytes)),
      nonzeroDigest_bind (room (by decide : 184 + 32 ≤ headerBytes)),
      nonzeroDigest_bind (room (by decide : 216 + 32 ≤ headerBytes)),
      nonzeroDigest_bind (room (by decide : 248 + 32 ≤ headerBytes)),
      nonzeroDigest_bind (room (by decide : 280 + 32 ≤ headerBytes)),
      nonzeroDigest_bind (room (by decide : 312 + 32 ≤ headerBytes)),
      nonzeroDigest_bind (room (by decide : 344 + 32 ≤ headerBytes)),
      nonzeroDigest_bind (room (by decide : 376 + 32 ≤ headerBytes))]
    constructor
    · rintro ⟨_, small, magic, version, headerSize, recordSize, profile, flags, manifestVersion, counts, tables,
        total, trailing, limits, d0, d1, d2, d3, d4, d5, d6, d7, d8, d9, manifestId, reserved, body, rfl⟩
      refine ⟨⟨length, Nat.le_of_not_lt small, magic, Prod.ext_iff.mp version, headerSize, recordSize, profile, flags,
        manifestVersion, counts.1, Nat.le_of_not_lt counts.2, tables, total.1, by omega, limits, ?_, manifestId,
        reserved, body⟩, rfl⟩
      intro step less
      interval_cases step <;> assumption
    · rintro ⟨rule, rfl⟩
      have whole := rule.whole
      have total := rule.total
      exact ⟨length, not_lt.mpr rule.small, rule.magic, Prod.ext rule.version.1 rule.version.2, rule.headerSize,
        rule.recordSize, rule.profile, rule.flags, rule.manifestVersion,
        ⟨rule.components, not_lt.mpr rule.dependencies⟩, rule.tables, ⟨total, by omega⟩, by omega, rule.limits,
        rule.digests 0 (by decide), rule.digests 1 (by decide), rule.digests 2 (by decide), rule.digests 3 (by decide),
        rule.digests 4 (by decide), rule.digests 5 (by decide), rule.digests 6 (by decide), rule.digests 7 (by decide),
        rule.digests 8 (by decide), rule.digests 9 (by decide), rule.manifestId, rule.reserved, rule.body, rfl⟩
  · constructor
    · intro parsed
      rw [Oracle.parseHeader, demand_stop length] at parsed
      cases parsed
    · exact fun both => absurd both.1.length length

end Headers

end PooleOS.Firmware
