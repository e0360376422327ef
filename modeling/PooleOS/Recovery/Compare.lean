import PooleOS.Recovery.Oracle
import PooleOS.Recovery.Runs

/- The two parsers: on one policy they agree on everything the transitions read, and
the oracle's second look at a state asks what `State.Valid` asks. -/
namespace PooleOS.Recovery

open List Option Except

/-- What the transitions read of a policy, in both forms of it. -/
structure Same (sha : Sha256) (policy : Bundle) (bundle : Oracle.Bundle) : Prop where
  sound : policy.Sound
  parsed : Oracle.parse sha bundle.raw = .ok bundle
  version : bundle.bundleVersion = policy.bundleVersion
  floor : bundle.minimumSecureVersion = policy.minimumSecureVersion
  generation : bundle.stateGenerationFloor = policy.stateGenerationFloor
  attempts : bundle.maxAttempts = policy.maxAttempts
  slots : ∀ slot, IsSlot slot → ∃ record, bundle.slots[slot - 1]? = some record ∧
    record.flags = slotRequiredFlags ∧ record.version = policy.slotVersion slot
  rules : ∀ failureId, IsFailure failureId → ∃ rule, bundle.failureRules[failureId - 1]? = some rule ∧
    rule.primaryAction = (ruleOf failureId).primaryAction ∧
    rule.fallbackAction = (ruleOf failureId).fallbackAction ∧ rule.flags = (ruleOf failureId).flags

section Policies

variable {sha : Sha256} {data : Bytes} {policy : Bundle} {bundle : Oracle.Bundle}

/-- A slot record that the oracle accepts is appended as it was read. -/
theorem oracle_parseSlot {bundleVersion floor index : Nat} {seen next : Oracle.Seen}
    (parsed : Oracle.parseSlot data bundleVersion floor seen index = .ok next) :
    ∃ record, next.slots = seen.slots ++ [record] ∧ record.flags = slotRequiredFlags ∧
      record.version = data.word (slotOffset + index * slotBytes + 8) 8 := by
  unfold Oracle.parseSlot at parsed
  simp only [unit_bind_eq_ok, demand_eq_ok] at parsed
  obtain ⟨-, flags, -, -, -, -, same⟩ := parsed
  rw [← ok.inj same]
  exact ⟨_, rfl, flags, rfl⟩

theorem oracle_parseFailure {expected : FailureRow} {index : Nat} {rule : Oracle.FailureRule}
    (parsed : Oracle.parseFailure data expected index = .ok rule) :
    rule.primaryAction = expected.primaryAction ∧ rule.fallbackAction = expected.fallbackAction ∧
      rule.flags = expected.flags := by
  unfold Oracle.parseFailure at parsed
  simp only [unit_bind_eq_ok, demand_eq_ok] at parsed
  obtain ⟨-, row, -, -, -, same⟩ := parsed
  rw [← ok.inj same, ← row]
  exact ⟨rfl, rfl, rfl⟩

/-- The words of the header that a native policy copies. -/
theorem parse_words (parsed : parse sha data = .ok policy) :
    policy.bundleVersion = data.word 24 8 ∧ policy.minimumSecureVersion = data.word 32 8 ∧
      policy.maxAttempts = data.word 48 2 ∧ policy.stateGenerationFloor = data.word 96 8 ∧ policy.raw = data := by
  unfold parse at parsed
  simp only [unit_bind_eq_ok] at parsed
  obtain ⟨-, -, -, -, -, -, -, -, -, -, -, -, -, -, -, -, -, -, -, -, -, -, -, -, -, -, -, tables⟩ := parsed
  obtain ⟨_, -, rules⟩ := bind_eq_ok tables
  simp only [unit_bind_eq_ok] at rules
  obtain ⟨-, -, same⟩ := rules
  rw [← ok.inj same]
  exact ⟨rfl, rfl, rfl, rfl, rfl⟩

/-- The two slot records of a policy that the oracle accepts. -/
theorem oracle_slots {bundleVersion floor : Nat} {seen : Oracle.Seen}
    (parsed : (range slotCount).foldlM (Oracle.parseSlot data bundleVersion floor) ⟨[], [], []⟩ =
      .ok seen) {slot : Nat} (isSlot : IsSlot slot) : ∃ record, seen.slots[slot - 1]? = some record ∧ record.flags =
    slotRequiredFlags ∧ record.version = data.word (slotOffset + (slot - 1) * slotBytes + 8) 8 := by
  obtain ⟨middle, first, parsed⟩ := bind_eq_ok parsed
  obtain ⟨last, second, same⟩ := bind_eq_ok parsed
  obtain rfl := ok.inj same
  obtain ⟨one, middleSlots, oneFlags, oneVersion⟩ := oracle_parseSlot first
  obtain ⟨two, lastSlots, twoFlags, twoVersion⟩ := oracle_parseSlot second
  rw [lastSlots, middleSlots]
  obtain rfl | rfl : slot = 1 ∨ slot = 2 := by
    obtain ⟨low, high⟩ := isSlot
    omega
  · exact ⟨one, rfl, oneFlags, oneVersion⟩
  · exact ⟨two, rfl, twoFlags, twoVersion⟩

theorem oracle_rules {rules : List Oracle.FailureRule}
    (parsed : (failureRows.zipIdx.mapM fun (expected, index) => Oracle.parseFailure data expected index) =
      .ok rules) {failureId : Nat} (known : IsFailure failureId) : ∃ rule, rules[failureId - 1]? = some rule ∧
    rule.primaryAction = (ruleOf failureId).primaryAction ∧ rule.fallbackAction = (ruleOf failureId).fallbackAction ∧
    rule.flags = (ruleOf failureId).flags := by
  obtain ⟨index, rfl⟩ : ∃ index, failureId = index + 1 := ⟨failureId - 1, by have := known.1; omega⟩
  have inside : index < failureCount := Nat.lt_of_succ_le known.2
  have found : failureRows.zipIdx[index]? = some (ruleOf (index + 1), index) := by
    have each : ∀ index < failureCount, failureRows.zipIdx[index]? = some (ruleOf (index + 1), index) := by
      decide
    exact each index inside
  obtain ⟨rule, at_index, read⟩ := mapM_eq_ok parsed index _ found
  exact ⟨rule, at_index, oracle_parseFailure read⟩

theorem parsed_same (native : parse sha data = .ok policy) (oracle : Oracle.parse sha data = .ok bundle) :
    Same sha policy bundle := by
  obtain ⟨version, floor, attempts, generation, raw⟩ := parse_words native
  have parsed := oracle
  unfold Oracle.parse at parsed
  simp only [unit_bind_eq_ok] at parsed
  obtain ⟨-, -, -, -, -, -, -, -, -, -, -, -, -, -, -, -, -, -, -, -, -, -, -, -, -, -, -, tables⟩ := parsed
  obtain ⟨seen, slots, rest⟩ := bind_eq_ok tables
  obtain ⟨failures, rules, rest⟩ := bind_eq_ok rest
  obtain ⟨authorities, -, same⟩ := bind_eq_ok rest
  have whole := ok.inj same
  have slotsSame := fun slot isSlot => @oracle_slots data _ _ seen slots slot isSlot
  have rulesSame := fun failureId known => @oracle_rules data failures rules failureId known
  rw [← whole] at oracle ⊢
  exact {
    sound := parse_sound native
    parsed := oracle
    version := version.symm
    floor := floor.symm
    generation := generation.symm
    attempts := attempts.symm
    slots := fun slot isSlot => by
      rw [Bundle.slotVersion, raw]
      exact slotsSame slot isSlot
    rules := rulesSame }

end Policies

section Records

variable {sha : Sha256} {state result : State} {data : Bytes} {policy : Bundle} {bundle : Oracle.Bundle}

/-- Where the oracle writes words. -/
def packedPlaces : List (Nat × Nat) :=
  [(8, 2), (10, 2), (12, 2), (14, 2), (16, 8), (24, 8), (32, 1), (33, 1), (34, 1), (35, 1), (36, 1),
    (37, 1), (38, 1), (39, 1), (40, 2), (42, 2), (44, 8), (52, 8), (60, 8), (68, 1), (69, 1), (70, 1),
    (71, 1), (72, 8), (80, 8), (88, 8), (96, 8), (104, 8)]

theorem packedPlaces_eq : (Oracle.packed state).map Field.place = packedPlaces := rfl

theorem packedPlaces_layout : Layout 112 packedPlaces := by decide

/-- The reserved words always fit. -/
theorem packed_typed : (∀ field ∈ Oracle.packed state, field.value < 256 ^ field.width) ↔ state.Typed := by
  unfold Oracle.packed State.Typed State.fields
  simp only [forall_mem_cons, Nat.pow_pos (show 0 < 256 by decide), true_and]

theorem packed_isRecord (typed : state.Typed) : IsRecord sha state (sealed sha (Oracle.packed state)) := by
  have layout : Layout 112 ((Oracle.packed state).map Field.place) :=
    packedPlaces_eq ▸ packedPlaces_layout
  have small := packed_typed.mpr typed
  have word := fun field member => @sealed_word sha _ layout field member (small field member)
  have inside : ∀ field ∈ state.fields, field ∈ Oracle.packed state := by
    simp [State.fields, Oracle.packed]
  exact {
    length := sealed_length sha layout
    magic := sealed_magic sha layout (packedPlaces_eq ▸ (by decide))
    words := fun field member => word field (inside field member)
    failure := word ⟨42, 2, 0⟩ (by simp [Oracle.packed])
    byte := word ⟨71, 1, 0⟩ (by simp [Oracle.packed])
    word := word ⟨104, 8, 0⟩ (by simp [Oracle.packed])
    checksum := sealed_checksum sha layout }

/-- What the oracle asks of a state under a policy. -/
structure OracleBound (bundle : Oracle.Bundle) (state : State) : Prop where
  generation : bundle.stateGenerationFloor ≤ state.generation
  floor : bundle.minimumSecureVersion ≤ state.minimumSecureVersion
  version : state.policyVersion = bundle.bundleVersion
  attemptsA : state.attemptsA ≤ bundle.maxAttempts
  attemptsB : state.attemptsB ≤ bundle.maxAttempts

theorem mem_slots {slot : Nat} : slot ∈ [1, 2] ↔ IsSlot slot := by
  unfold IsSlot
  simp only [mem_cons, not_mem_nil, or_false]
  omega

theorem mem_modeNames {mode : Nat} : mode ∈ Oracle.modeNames ↔ modeNormal ≤ mode ∧ mode ≤ modeFirmware := by
  unfold Oracle.modeNames modeNormal modeSafe modePrevious modeRecovery modeDiagnostic modeFirmware
  simp only [mem_cons, not_mem_nil, or_false]
  omega

theorem mem_failureNames {failureId : Nat} : failureId ∈ Oracle.failureNames ↔ IsFailure failureId := by
  unfold Oracle.failureNames IsFailure failureCount
  simp only [mem_cons, not_mem_nil, or_false]
  omega

theorem mem_modes {mode : Nat} : mode ∈ 0 :: Oracle.modeNames ↔ mode ≤ modeFirmware := by
  rw [mem_cons, mem_modeNames]
  unfold modeNormal modeFirmware
  omega

theorem mem_failures {failureId : Nat} : failureId ∈ 0 :: Oracle.failureNames ↔ failureId ≤ failureCount := by
  rw [mem_cons, mem_failureNames]
  unfold IsFailure failureCount
  omega

theorem mem_pending {slot : Nat} : slot ∈ [0, 1, 2] ↔ slot ≤ 2 := by
  simp only [mem_cons, not_mem_nil, or_false]
  omega

theorem oracle_checkInflight : Oracle.checkInflight state = .ok () ↔ checkInflight state = .ok () := by
  unfold Oracle.checkInflight checkInflight
  simp only [mem_slots, mem_modeNames]
  split
  · rw [demand_eq_ok, demand_eq_ok]
    rfl
  · rw [demand_eq_ok, demand_eq_ok]

theorem oracle_stateChecksum (isRecord : IsRecord sha state data) :
    Oracle.stateChecksum sha data = .ok (data.slice 112 16) := by
  have long : stateBytes - stateChecksumBytes ≤ data.length := by
    rw [isRecord.length]
    decide
  rw [Oracle.stateChecksum, demand_pass long, isRecord.checksum]
  rfl

/-- The oracle's parser returns the valid states that the policy binds, unchanged. -/
theorem oracle_parseState (isRecord : IsRecord sha state data) {policy : Option Oracle.Bundle}
    (cap : ∀ bundle ∈ policy, bundle.maxAttempts ≤ maxAttemptsLimit) : Oracle.parseState sha data policy = .ok result ↔
      result = state ∧ state.Valid ∧ ∀ bundle ∈ policy, OracleBound bundle state := by
  obtain ⟨major, minor, size⟩ := isRecord.frame
  unfold Oracle.parseState
  simp only [isRecord.read, oracle_stateChecksum isRecord, isRecord.magic, major, minor, size,
    isRecord.failure, isRecord.byte, isRecord.word, isRecord.length, ok_bind, unit_bind_eq_ok,
    demand_eq_ok, oracle_checkInflight, checkInflight_ok, without_flags, without_slots, mem_slots,
    mem_modes, mem_failures, mem_pending]
  constructor
  · rintro ⟨-, -, -, -, -, flags, ⟨generation, floor⟩, ⟨active, pending, distinct⟩,
      ⟨-, known, unbootable, safe⟩, disjoint, activeKnown, ⟨attemptsA, attemptsB⟩, mode, ⟨failure, -⟩,
      ⟨success, succeeded, past⟩, ⟨policyVersion, epoch, evidence⟩, binding, ⟨flying, idle⟩, -, -, same⟩
    have limit : ((policy.map Oracle.Bundle.maxAttempts).getD maxAttemptsLimit) ≤ maxAttemptsLimit := by
      cases policy with
      | none => exact le_rfl
      | some bundle => exact cap bundle rfl
    refine ⟨(ok.inj same).symm, ⟨flags, generation, floor, active, pending, distinct, known,
      unbootable, safe, disjoint, activeKnown, attemptsA.trans limit, attemptsB.trans limit,
      mode, failure, success, succeeded, past, policyVersion, epoch, evidence, flying, idle⟩, ?_⟩
    intro bundle found
    obtain rfl := mem_def.mp found
    obtain ⟨generation, floor, version⟩ := binding bundle found
    exact ⟨generation, floor, version, attemptsA, attemptsB⟩
  · rintro ⟨rfl, valid, bound⟩
    have some_known : result.knownGoodMask ≠ 0 := by
      intro none
      exact valid.activeKnown (by rw [none, Nat.zero_and])
    have attempts : result.attemptsA ≤ (policy.map Oracle.Bundle.maxAttempts).getD maxAttemptsLimit ∧
        result.attemptsB ≤ (policy.map Oracle.Bundle.maxAttempts).getD maxAttemptsLimit := by
      cases policy with
      | none => exact ⟨valid.attemptsA, valid.attemptsB⟩
      | some bundle => exact ⟨(bound bundle rfl).attemptsA, (bound bundle rfl).attemptsB⟩
    exact ⟨by decide, rfl, trivial, ⟨trivial, trivial⟩, trivial, valid.flags,
      ⟨valid.generation, valid.floor⟩, ⟨valid.active, valid.pending, valid.distinct⟩,
      ⟨some_known, valid.known, valid.unbootable, valid.safe⟩, valid.disjoint, valid.activeKnown,
      attempts, valid.mode, ⟨valid.failure, trivial⟩,
      ⟨valid.success, valid.succeeded, valid.past⟩, ⟨valid.policy, valid.epoch, valid.evidence⟩,
      fun bundle found => ⟨(bound bundle found).generation, (bound bundle found).floor, (bound bundle found).version⟩,
      ⟨valid.flying, valid.idle⟩, ⟨trivial, trivial⟩, trivial, rfl⟩

theorem forall_mem_none {α : Type} {fact : α → Prop} : ∀ value ∈ (none : Option α), fact value :=
  fun _ found => absurd found (not_mem_none _)

/-- A state that is encoded and parsed again. -/
theorem reparse_iff {policy : Option Oracle.Bundle} (cap : ∀ bundle ∈ policy, bundle.maxAttempts ≤ maxAttemptsLimit) :
    Oracle.reparse sha state policy = .ok result ↔
      result = state ∧ state.Typed ∧ state.Valid ∧ ∀ bundle ∈ policy, OracleBound bundle state := by
  unfold Oracle.reparse
  constructor
  · intro ok
    obtain ⟨bytes, encoded, parsed⟩ := bind_eq_ok ok
    obtain ⟨fits, encoded⟩ := demand_bind_eq_ok.mp encoded
    obtain ⟨_, -, same⟩ := bind_eq_ok encoded
    have typed := packed_typed.mp fits
    obtain rfl : sealed sha (Oracle.packed state) = bytes := Except.ok.inj same
    obtain ⟨rfl, valid, bound⟩ := (oracle_parseState (packed_isRecord typed) cap).mp parsed
    exact ⟨rfl, typed, valid, bound⟩
  · rintro ⟨rfl, typed, valid, bound⟩
    have isRecord := @packed_isRecord sha result typed
    have plain : Oracle.parseState sha (sealed sha (Oracle.packed result)) none = .ok result :=
      (oracle_parseState isRecord forall_mem_none).mpr ⟨rfl, valid, forall_mem_none⟩
    have encoded : Oracle.encodeState sha result = .ok (sealed sha (Oracle.packed result)) := by
      unfold Oracle.encodeState
      rw [demand_pass (packed_typed.mpr typed), ok_bind]
      change (Oracle.parseState sha (sealed sha (Oracle.packed result)) none >>= _) = _
      rw [plain]
      rfl
    rw [encoded, ok_bind]
    exact (oracle_parseState isRecord cap).mpr ⟨rfl, valid, bound⟩

theorem Same.bound_iff (same : Same sha policy bundle) : OracleBound bundle state ↔ state.Bound policy := by
  constructor
  · rintro ⟨generation, floor, version, attemptsA, attemptsB⟩
    rw [same.generation] at generation
    rw [same.floor] at floor
    rw [same.version] at version
    rw [same.attempts] at attemptsA attemptsB
    exact ⟨generation, floor, version, attemptsA, attemptsB⟩
  · rintro ⟨generation, floor, version, attemptsA, attemptsB⟩
    rw [← same.generation] at generation
    rw [← same.floor] at floor
    rw [← same.version] at version
    rw [← same.attempts] at attemptsA attemptsB
    exact ⟨generation, floor, version, attemptsA, attemptsB⟩

/-- The first line of every transition of the oracle accepts what the native check accepts. -/
theorem Same.reparse_iff (same : Same sha policy bundle) : Oracle.reparse sha state (some bundle) = .ok result ↔
      result = state ∧ state.Typed ∧ state.Accepted policy := by
  have cap : ∀ other ∈ some bundle, other.maxAttempts ≤ maxAttemptsLimit := by
    intro other found
    obtain rfl := some.inj found
    rw [same.attempts]
    exact same.sound.attempts
  rw [Recovery.reparse_iff cap]
  constructor
  · rintro ⟨rfl, typed, valid, bound⟩
    exact ⟨rfl, typed, valid, same.bound_iff.mp (bound bundle rfl)⟩
  · rintro ⟨rfl, typed, valid, bound⟩
    refine ⟨rfl, typed, valid, ?_⟩
    intro other found
    obtain rfl := some.inj found
    exact same.bound_iff.mpr bound

theorem reparse_none : Oracle.reparse sha state none = .ok result ↔ result = state ∧ state.Typed ∧ state.Valid := by
  rw [Recovery.reparse_iff forall_mem_none]
  exact ⟨fun ⟨same, typed, valid, _⟩ => ⟨same, typed, valid⟩,
    fun ⟨same, typed, valid⟩ => ⟨same, typed, valid, forall_mem_none⟩⟩

end Records

end PooleOS.Recovery
