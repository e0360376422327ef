import PooleOS.Recovery.Model

/- A record that is encoded and parsed again: the checks of the parser become a
predicate on the state itself. -/
namespace PooleOS.Recovery

open List Bytes

/-- A boot that was selected and not reported on. -/
def State.Inflight (state : State) : Prop := state.flags &&& stateInflight ≠ 0

instance (state : State) : Decidable state.Inflight := inferInstanceAs (Decidable (_ ≠ _))

/-- One of the two slots. -/
def IsSlot (slot : Nat) : Prop := 1 ≤ slot ∧ slot ≤ 2

instance (slot : Nat) : Decidable (IsSlot slot) := inferInstanceAs (Decidable (_ ∧ _))

/-- The bit of a slot in the masks. -/
def bitOf (slot : Nat) : Nat := 1 <<< (slot - 1)

/-- What the parser checks of a state. -/
structure State.Valid (state : State) : Prop where
  flags : state.flags < 8
  generation : state.generation ≠ 0
  floor : state.minimumSecureVersion ≠ 0
  active : IsSlot state.activeSlot
  pending : state.pendingSlot ≤ 2
  distinct : state.pendingSlot ≠ state.activeSlot
  known : state.knownGoodMask < 4
  unbootable : state.unbootableMask < 4
  safe : state.safeAttemptedMask < 4
  disjoint : state.knownGoodMask &&& state.unbootableMask = 0
  activeKnown : state.knownGoodMask &&& bitOf state.activeSlot ≠ 0
  attemptsA : state.attemptsA ≤ maxAttemptsLimit
  attemptsB : state.attemptsB ≤ maxAttemptsLimit
  mode : state.currentMode ≤ modeFirmware
  failure : state.lastFailure ≤ failureCount
  success : IsSlot state.lastSuccessSlot
  succeeded : state.lastSuccessGeneration ≠ 0
  past : state.lastSuccessGeneration ≤ state.generation
  policy : state.policyVersion ≠ 0
  epoch : state.stateStoreEpoch ≠ 0
  evidence : state.evidenceSequence ≠ 0
  flying : state.Inflight → state.bootNonce ≠ 0 ∧ state.inflightGeneration = state.generation ∧
    IsSlot state.inflightSlot ∧ (modeNormal ≤ state.inflightMode ∧ state.inflightMode ≤ modeFirmware) ∧
    state.currentMode = state.inflightMode
  idle : ¬ state.Inflight → state.bootNonce = 0 ∧ state.inflightGeneration = 0 ∧
    state.inflightSlot = 0 ∧ state.inflightMode = 0

/-- What the policy asks of a state. -/
structure State.Bound (policy : Bundle) (state : State) : Prop where
  generation : policy.stateGenerationFloor ≤ state.generation
  floor : policy.minimumSecureVersion ≤ state.minimumSecureVersion
  version : state.policyVersion = policy.bundleVersion
  attemptsA : state.attemptsA ≤ policy.maxAttempts
  attemptsB : state.attemptsB ≤ policy.maxAttempts

/-- A state that `validate_state_for_policy` accepts. -/
structure State.Accepted (policy : Bundle) (state : State) : Prop where
  valid : state.Valid
  bound : state.Bound policy

section Sealed

variable (sha : Sha256) {fields : List Field}

/-- The bytes before any word is written. -/
def blank : Bytes := Bytes.blit (List.replicate stateBytes 0) 0 stateMagic

/-- The bytes before the checksum is written. -/
def body (fields : List Field) : Bytes := blank.lay fields

def sealed (fields : List Field) : Bytes :=
  (body fields).blit 112 ((sha.digest ((body fields).take 112)).take 16)

theorem blank_length : blank.length = 128 :=
  (blit_length (by rw [length_replicate]; decide)).trans length_replicate

theorem checksum_length (data : Bytes) : ((sha.digest data).take 16).length = 16 := by
  rw [length_take, sha.digest_length]
  rfl

variable (layout : Layout 112 (fields.map Field.place))

include layout

theorem fields_inside : ∀ field ∈ fields, field.offset + field.width ≤ blank.length := by
  intro field member
  have inside := layout.inside field.place (mem_map_of_mem member)
  rw [blank_length]
  exact Nat.le_trans inside (by decide)

theorem body_length : (body fields).length = 128 := by
  rw [body, lay_length (fields_inside layout), blank_length]

theorem checksum_inside : 112 + ((sha.digest ((body fields).take 112)).take 16).length ≤ (body fields).length := by
  rw [checksum_length, body_length layout]

theorem sealed_length : (sealed sha fields).length = 128 := by
  rw [← body_length layout]
  exact blit_length (checksum_inside sha layout)

/-- Before the checksum the record is its body. -/
theorem sealed_slice {offset width : Nat} (before : offset + width ≤ 112) :
    (sealed sha fields).slice offset width = (body fields).slice offset width :=
  slice_blit_apart (checksum_inside sha layout) (Or.inl before)

theorem sealed_checksum : (sealed sha fields).slice 112 16 = (sha.digest ((sealed sha fields).take 112)).take 16 := by
  have same : (sealed sha fields).take 112 = (body fields).take 112 :=
    @sealed_slice sha fields layout 0 112 (Nat.le_refl _)
  have whole := slice_blit (checksum_inside sha layout)
  rw [checksum_length] at whole
  rw [same]
  exact whole

theorem sealed_word {field : Field} (member : field ∈ fields) (small : field.value < 256 ^ field.width) :
    (sealed sha fields).word field.offset field.width = field.value := by
  have inside : field.offset + field.width ≤ 112 := layout.inside field.place (mem_map_of_mem member)
  rw [word, sealed_slice sha layout inside]
  refine word_lay ⟨?_, layout.apart⟩ member small
  intro place found
  rw [blank_length]
  exact Nat.le_trans (layout.inside place found) (by decide)

/-- What lies between the words keeps its first value. -/
theorem sealed_blank {offset width : Nat} (before : offset + width ≤ 112)
    (apart : ∀ place ∈ fields.map Field.place, Apart (offset, width) place) :
    (sealed sha fields).slice offset width = blank.slice offset width := by
  rw [sealed_slice sha layout before]
  exact slice_lay_apart (fields_inside layout)
    (fun field member => apart field.place (mem_map_of_mem member))

theorem sealed_magic (apart : ∀ place ∈ fields.map Field.place, Apart (0, 8) place) :
    (sealed sha fields).slice 0 8 = stateMagic := by
  rw [sealed_blank sha layout (by decide) apart]
  exact slice_blit (by rw [length_replicate]; decide)

end Sealed

section Codec

variable (sha : Sha256) {state : State} {data : Bytes}

/-- The bytes of a state, whoever wrote them. -/
structure IsRecord (state : State) (data : Bytes) : Prop where
  length : data.length = 128
  magic : data.slice 0 8 = stateMagic
  words : ∀ field ∈ state.fields, data.word field.offset field.width = field.value
  failure : data.word 42 2 = 0
  byte : data.word 71 1 = 0
  word : data.word 104 8 = 0
  checksum : data.slice 112 16 = (sha.digest (data.take 112)).take 16

/-- Where the words of a record lie. -/
def places : List (Nat × Nat) :=
  [(8, 2), (10, 2), (12, 2), (14, 2), (16, 8), (24, 8), (32, 1), (33, 1), (34, 1), (35, 1), (36, 1),
    (37, 1), (38, 1), (39, 1), (40, 2), (44, 8), (52, 8), (60, 8), (68, 1), (69, 1), (70, 1), (72, 8),
    (80, 8), (88, 8), (96, 8)]

theorem places_eq : state.fields.map Field.place = places := rfl

theorem places_layout : Layout 112 places := by decide

theorem encodeState_isRecord (typed : state.Typed) : IsRecord sha state (encodeState sha state) := by
  have layout : Layout 112 (state.fields.map Field.place) := places_eq ▸ places_layout
  have zero : ∀ {offset width : Nat}, offset + width ≤ 112 → blank.word offset width = 0 →
      (∀ place ∈ places, Apart (offset, width) place) →
      (sealed sha state.fields).word offset width = 0 := by
    intro offset width before none apart
    rw [word, sealed_blank sha layout before (places_eq ▸ apart)]
    exact none
  exact {
    length := sealed_length sha layout
    magic := sealed_magic sha layout (places_eq ▸ (by decide))
    words := fun field member => sealed_word sha layout member (typed field member)
    failure := zero (by decide) (by decide) (by decide)
    byte := zero (by decide) (by decide) (by decide)
    word := zero (by decide) (by decide) (by decide)
    checksum := sealed_checksum sha layout }

variable {sha}

/-- A record is read as its state. -/
theorem IsRecord.read (isRecord : IsRecord sha state data) : readState data = state := by
  have words := isRecord.words
  simp only [State.fields, forall_mem_cons] at words
  obtain ⟨-, -, -, flags, generation, floor, active, pending, known, unbootable, attemptsA, attemptsB,
    safe, mode, failure, transaction, nonce, flight, slot, flightMode, success, succeeded, policy,
    epoch, evidence, -⟩ := words
  exact State.ext flags generation floor active pending known unbootable attemptsA attemptsB safe mode
    failure transaction nonce flight slot flightMode success succeeded policy epoch evidence

theorem IsRecord.frame (isRecord : IsRecord sha state data) : data.word 8 2 = majorVersion ∧
    data.word 10 2 = minorVersion ∧ data.word 12 2 = stateBytes :=
  ⟨isRecord.words ⟨8, 2, majorVersion⟩ (by simp [State.fields]),
    isRecord.words ⟨10, 2, minorVersion⟩ (by simp [State.fields]),
    isRecord.words ⟨12, 2, stateBytes⟩ (by simp [State.fields])⟩

theorem IsRecord.stateChecksum_eq (isRecord : IsRecord sha state data) :
    stateChecksum sha data = .ok (data.slice 112 16) := by
  have long : stateBytes - stateChecksumBytes ≤ data.length := by
    rw [isRecord.length]
    decide
  rw [stateChecksum, demand, if_pos long, isRecord.checksum]
  rfl

theorem without_flags {flags : Nat} : without flags stateKnownFlags = 0 ↔ flags < 8 :=
  @without_low flags 3

theorem without_slots {mask : Nat} : without mask 0x3 = 0 ↔ mask < 4 := @without_low mask 2

theorem checkInflight_ok : checkInflight state = .ok () ↔
    (state.Inflight → state.bootNonce ≠ 0 ∧ state.inflightGeneration = state.generation ∧ IsSlot state.inflightSlot ∧
      (modeNormal ≤ state.inflightMode ∧ state.inflightMode ≤ modeFirmware) ∧ state.currentMode = state.inflightMode) ∧
    (¬ state.Inflight → state.bootNonce = 0 ∧ state.inflightGeneration = 0 ∧
      state.inflightSlot = 0 ∧ state.inflightMode = 0) := by
  unfold checkInflight
  split
  · rename_i inflight
    rw [demand_eq_ok]
    exact ⟨fun fields => ⟨fun _ => fields, fun idle => absurd inflight idle⟩, fun both => both.1 inflight⟩
  · rename_i idle
    rw [demand_eq_ok]
    exact ⟨fun fields => ⟨fun flying => absurd flying idle, fun _ => fields⟩, fun both => both.2 idle⟩

/-- The parser returns exactly the valid states, unchanged. -/
theorem IsRecord.parse_iff (isRecord : IsRecord sha state data) {result : State} :
    parseState sha data = .ok result ↔ result = state ∧ state.Valid := by
  obtain ⟨major, minor, size⟩ := isRecord.frame
  unfold parseState
  simp only [isRecord.read, isRecord.stateChecksum_eq, isRecord.magic, major, minor, size,
    isRecord.failure, isRecord.byte, isRecord.word, isRecord.length, ok_bind, unit_bind_eq_ok,
    demand_eq_ok, checkInflight_ok, without_flags, without_slots]
  constructor
  · rintro ⟨-, -, -, -, -, flags, ⟨generation, floor⟩, ⟨active, pending, distinct⟩,
      ⟨-, known, unbootable, safe⟩, disjoint, activeKnown, ⟨attemptsA, attemptsB⟩, mode, ⟨failure, -⟩,
      ⟨success, succeeded, past⟩, ⟨policy, epoch, evidence⟩, ⟨flying, idle⟩, -, -, same⟩
    exact ⟨(Except.ok.inj same).symm, flags, generation, floor, active, pending, distinct, known,
      unbootable, safe, disjoint, activeKnown, attemptsA, attemptsB, mode, failure, success, succeeded,
      past, policy, epoch, evidence, flying, idle⟩
  · rintro ⟨rfl, valid⟩
    have some_known : result.knownGoodMask ≠ 0 := by
      intro none
      exact valid.activeKnown (by rw [none, Nat.zero_and])
    exact ⟨by decide, rfl, trivial, ⟨trivial, trivial⟩, trivial, valid.flags,
      ⟨valid.generation, valid.floor⟩, ⟨valid.active, valid.pending, valid.distinct⟩,
      ⟨some_known, valid.known, valid.unbootable, valid.safe⟩, valid.disjoint, valid.activeKnown,
      ⟨valid.attemptsA, valid.attemptsB⟩, valid.mode, ⟨valid.failure, trivial⟩,
      ⟨valid.success, valid.succeeded, valid.past⟩, ⟨valid.policy, valid.epoch, valid.evidence⟩,
      ⟨valid.flying, valid.idle⟩, ⟨trivial, trivial⟩, trivial, rfl⟩

variable (sha)

theorem parseState_encodeState (typed : state.Typed) {result : State} :
    parseState sha (encodeState sha state) = .ok result ↔ result = state ∧ state.Valid :=
  (encodeState_isRecord sha typed).parse_iff

theorem validate_iff (typed : state.Typed) {policy : Bundle} :
    validateStateForPolicy sha policy state = .ok () ↔ state.Accepted policy := by
  unfold validateStateForPolicy
  constructor
  · intro accepted
    obtain ⟨same, parsed, checked⟩ := bind_eq_ok accepted
    obtain ⟨generation, floor, version, attemptsA, attemptsB⟩ := demand_eq_ok.mp checked
    exact ⟨((parseState_encodeState sha typed).mp parsed).2, ⟨generation, floor, version, attemptsA, attemptsB⟩⟩
  · rintro ⟨valid, bound⟩
    rw [(parseState_encodeState sha typed).mpr ⟨rfl, valid⟩, ok_bind, demand_eq_ok]
    exact ⟨bound.generation, bound.floor, bound.version, bound.attemptsA, bound.attemptsB⟩

end Codec

/-- The row of a failure id. -/
def ruleOf (failureId : Nat) : FailureRow := failureRows.getD (failureId - 1) ⟨0, 0, 0, 0, 0⟩

/-- The version of a slot, wherever the policy is long enough to hold it. -/
def Bundle.slotVersion (policy : Bundle) (slot : Nat) : Nat :=
  policy.raw.word (slotOffset + (slot - 1) * slotBytes + 8) 8

/-- A policy that came out of the parser. -/
structure Bundle.Sound (policy : Bundle) : Prop where
  length : policy.raw.length = totalBytes
  version : policy.bundleVersion ≠ 0
  floor : policy.minimumSecureVersion ≠ 0
  versionTyped : policy.bundleVersion < 2 ^ 64
  floorTyped : policy.minimumSecureVersion < 2 ^ 64
  attempts : policy.maxAttempts ≤ maxAttemptsLimit
  rules : ∀ index < failureCount,
    policy.raw.word (failureOffset + index * failureBytes + 2) 2 = (ruleOf (index + 1)).primaryAction ∧
    policy.raw.word (failureOffset + index * failureBytes + 4) 2 = (ruleOf (index + 1)).fallbackAction ∧
    policy.raw.word (failureOffset + index * failureBytes + 6) 2 = (ruleOf (index + 1)).flags

theorem failureRows_mem : ∀ index < failureCount, (ruleOf (index + 1), index) ∈ failureRows.zipIdx := by
  decide

theorem parseFailure_ok {data : Bytes} {expected : FailureRow} {index : Nat}
    (parsed : parseFailure data expected index = .ok ()) :
    data.word (failureOffset + index * failureBytes + 2) 2 = expected.primaryAction ∧
      data.word (failureOffset + index * failureBytes + 4) 2 = expected.fallbackAction ∧
      data.word (failureOffset + index * failureBytes + 6) 2 = expected.flags := by
  unfold parseFailure at parsed
  simp only [unit_bind_eq_ok, demand_eq_ok] at parsed
  obtain ⟨-, ⟨same, -⟩, -⟩ := parsed
  exact ⟨congrArg FailureRow.primaryAction same, congrArg FailureRow.fallbackAction same,
    congrArg FailureRow.flags same⟩

variable {sha : Sha256} {data : Bytes} {policy : Bundle}

theorem parse_sound (parsed : parse sha data = .ok policy) : policy.Sound := by
  unfold parse at parsed
  simp only [unit_bind_eq_ok, demand_eq_ok] at parsed
  obtain ⟨-, length, -, -, -, -, -, -, ⟨version, floor, -⟩, -, ⟨-, attempts, -⟩, -, -, -, -, -, -, -, -,
    -, -, -, -, -, -, -, -, tables⟩ := parsed
  obtain ⟨_, -, rules⟩ := bind_eq_ok tables
  simp only [unit_bind_eq_ok] at rules
  obtain ⟨failures, -, same⟩ := rules
  rw [← Except.ok.inj same]
  refine ⟨length, version, floor, Nat.lt_of_lt_of_eq (word_lt data 24 8) (by norm_num),
    Nat.lt_of_lt_of_eq (word_lt data 32 8) (by norm_num), attempts, ?_⟩
  intro index inside
  have row := forM_eq_ok.mp failures (ruleOf (index + 1), index) (failureRows_mem index inside)
  exact parseFailure_ok row

theorem Bundle.Sound.slotVersion_eq (sound : policy.Sound) {slot : Nat} (isSlot : IsSlot slot) :
    Recovery.slotVersion policy slot = .ok (policy.slotVersion slot) := by
  obtain ⟨one, two⟩ := isSlot
  have length := sound.length
  unfold Recovery.slotVersion wordAt
  rw [demand, if_pos ?_]
  · rfl
  · rw [length]
    simp only [slotOffset, headerBytes, slotBytes, totalBytes]
    omega

theorem Bundle.Sound.failureRule_eq (sound : policy.Sound) {failureId : Nat}
    (known : 1 ≤ failureId ∧ failureId ≤ failureCount) : failureRule policy failureId =
      .ok ((ruleOf failureId).primaryAction, (ruleOf failureId).fallbackAction, (ruleOf failureId).flags) := by
  have length := sound.length
  have room : failureOffset + (failureId - 1) * failureBytes + 6 + 2 ≤ policy.raw.length := by
    rw [length]
    simp only [failureOffset, slotOffset, headerBytes, slotCount, slotBytes, failureBytes,
      failureCount, totalBytes] at known ⊢
    omega
  obtain ⟨index, rfl⟩ : ∃ index, failureId = index + 1 := ⟨failureId - 1, by omega⟩
  obtain ⟨primary, fallback, flags⟩ := sound.rules index (by omega)
  rw [Nat.add_sub_cancel] at room
  unfold failureRule wordAt
  simp only [demand, if_pos known, ok_bind, Nat.add_sub_cancel, if_pos (show
    failureOffset + index * failureBytes + 2 + 2 ≤ policy.raw.length by omega), if_pos (show
    failureOffset + index * failureBytes + 4 + 2 ≤ policy.raw.length by omega), if_pos room,
    primary, fallback, flags]
  rfl

section Canonical

/-- The records of `canonical_bundle()`. -/
def canonicalBody : Bytes :=
  let word := Bytes.ofWord
  word 2 1 ++ word 2 slotRequiredFlags ++ word 4 15 ++ word 8 2 ++ word 8 1 ++
    word 32 0xa946f807ded6e9ef6ca00cba814f9ded95d608c7309b78fed637a9a48d6a8047 ++
    word 32 0xba4aba2789763b8f2248786ad2b5bc5aa9958cd96733f62bd2ca306147c561e1 ++ word 8 0 ++
  word 2 2 ++ word 2 slotRequiredFlags ++ word 4 14 ++ word 8 1 ++ word 8 1 ++
    word 32 0xfd53f8b7d4207afbe36ebb585b5f993e9ea66675baee5e570dd86e4ab047dc4a ++
    word 32 0xa4a86cceb170c2f584f3d69559ec1cda7a1224d3afeaf75ab5105ea3e4402544 ++ word 8 0 ++
  failureRows.zipIdx.flatMap (fun (row, index) =>
    word 2 (index + 1) ++ word 2 row.primaryAction ++ word 2 row.fallbackAction ++ word 2 row.flags ++
      word 2 row.maxRetries ++ word 2 (101 + index) ++ word 4 row.allowedModes ++ word 16 0) ++
  authorityRows.zipIdx.flatMap (fun (row, index) =>
    word 2 (index + 1) ++ word 2 row.flags ++ word 4 row.factors ++ word 4 prohibitAmbientAll ++
      word 4 row.allowedModes ++ word 2 row.maxOperations ++ word 2 0 ++ word 4 row.evidenceCode ++
      word 8 0)

/-- The hash of those records. -/
def canonicalDigest : Nat := 0x128ac37618616aeb42fc0c8a4d6d7afe497713721de79897550ed71de7287d5c

/-- The bytes of `canonical_bundle()`. -/
def canonicalBundle : Bytes :=
  let word := Bytes.ofWord
  magic ++ word 2 1 ++ word 2 0 ++ word 2 headerBytes ++ word 2 recordAlignment ++
    word 4 totalBytes ++ word 4 requiredFlags ++ word 8 1 ++ word 8 1 ++
    word 2 1 ++ word 2 0 ++ word 2 1 ++ word 2 0 ++ word 2 3 ++ word 2 1 ++ word 4 300 ++
    word 2 stateBytes ++ word 2 stateChecksumBytes ++ word 2 slotCount ++ word 2 failureCount ++
    word 2 authorityCount ++ word 2 stateWriteRecovery ++ word 4 slotOffset ++ word 4 failureOffset ++
    word 4 authorityOffset ++ word 4 modeMaskAll ++ word 4 failureMaskAll ++ word 4 actionMaskAll ++
    word 4 requiredHandoffFields ++ word 8 11 ++ word 32 canonicalDigest ++
    word 32 0x86dc6bf5b729626739408e4f5c4642b2a7a4d73b928cccba38a14e4d01af78b7 ++
    word 16 0xbfb61af52565660b8a7c5b3965059602 ++ word 2 actionPrevious ++ word 2 actionRecovery ++
    word 2 actionRecovery ++ word 2 actionRecovery ++ word 4 authorityCeiling ++
    word 4 requiredTransports ++ word 56 0 ++ canonicalBody

/-- What it parses to. -/
def canonicalPolicy : Bundle where
  bundleVersion := 1
  minimumSecureVersion := 1
  requiredPbpMajor := 1
  minimumPbpMinor := 0
  requiredKernelAbiMajor := 1
  minimumKernelAbiMinor := 0
  maxAttempts := 3
  maxSafeAttempts := 1
  successDeadlineSeconds := 300
  stateGenerationFloor := 11
  bodySha256 := Bytes.ofWord 32 canonicalDigest
  raw := canonicalBundle

/-- `canonical_state()`: the second slot is active, the first one is on trial. -/
def canonicalState : State where
  flags := 0
  generation := 11
  minimumSecureVersion := 1
  activeSlot := 2
  pendingSlot := 1
  knownGoodMask := 2
  unbootableMask := 0
  attemptsA := 3
  attemptsB := 3
  safeAttemptedMask := 0
  currentMode := 0
  lastFailure := 0
  transactionId := 0x504f4f4c0000000b
  bootNonce := 0
  inflightGeneration := 0
  inflightSlot := 0
  inflightMode := 0
  lastSuccessSlot := 2
  lastSuccessGeneration := 11
  policyVersion := 1
  stateStoreEpoch := 1
  evidenceSequence := 1

/-- A trial of the first slot is in flight. -/
def trialState : State :=
  { canonicalState with
    flags := 4
    generation := 12
    attemptsA := 2
    currentMode := 1
    bootNonce := 1
    inflightGeneration := 12
    inflightSlot := 1
    inflightMode := 1
    evidenceSequence := 2 }

/-- A diagnostic boot of the active slot is in flight. -/
def diagnosticState : State :=
  { canonicalState with
    flags := 4
    generation := 12
    currentMode := 5
    bootNonce := 1
    inflightGeneration := 12
    inflightSlot := 2
    inflightMode := 5
    evidenceSequence := 2 }

/-- The signature of the active slot was found invalid. -/
def retiredState : State :=
  { canonicalState with
    generation := 13
    knownGoodMask := 0
    unbootableMask := 2
    currentMode := 4
    lastFailure := 3
    evidenceSequence := 3 }

/-- The evidence numbers are used up. -/
def wornState : State := { canonicalState with evidenceSequence := u64Max }

/-- SHA-256 on the bytes above. -/
def canonicalSha : Sha256 :=
  let hashed := fun (state : State) => (body state.fields).take 112
  .ofTable [(canonicalBody, canonicalDigest),
    (hashed canonicalState, 0xf4184aa47905918352a0b44e5e4c72fc89325e112e3e031da0886e057018b583),
    (hashed trialState, 0x60f34c505c60b8163cb24b7364cf48c82e9c2045f88d9376e119de0b36069e33),
    (hashed diagnosticState, 0x216d3b21276de9a7a860f6c4e9fabba0073dd8c68b91b70ac5e64390db1e1d72),
    (hashed retiredState, 0xcb9194ca18fb8fc4da084d04224357afa488e6dc7b172440e440d48e64564d6a),
    (hashed wornState, 0xc0216960c05040794aa63bebcc025b319e0fde0c0736f04a15e0cdfcf8557ecb)]

theorem canonical_parsed : parse canonicalSha canonicalBundle = .ok canonicalPolicy := by
  decide +kernel

end Canonical

/-- The rules that retire the slot they are about. -/
def Marks (failureId : Nat) : Prop := (ruleOf failureId).flags &&& failureMarkUnbootable ≠ 0

instance (failureId : Nat) : Decidable (Marks failureId) := inferInstanceAs (Decidable (_ ≠ _))

end PooleOS.Recovery
