import PooleOS.Recovery.Record

/- The qualification oracle of the recovery core (`runtime/native_recovery.py`). Its
integers are unbounded: a field that does not fit is an error of `struct.pack_into`. -/
namespace PooleOS.Recovery.Oracle

/-- What a function can raise. A `RecoveryError` carries one of the codes of the native core, or
the one that only the oracle has. -/
inductive Raised
  | code (error : Error)
  | transitionMode
  | structError
  | indexError
  | keyError
deriving DecidableEq, Repr

structure Slot where
  slotId : Nat
  flags : Nat
  priority : Nat
  version : Nat
  minimumRecoveryVersion : Nat
  manifestSha256 : Bytes
  kernelSha256 : Bytes
deriving DecidableEq, Repr

structure FailureRule where
  failureId : Nat
  primaryAction : Nat
  fallbackAction : Nat
  flags : Nat
  maxRetries : Nat
  evidenceCode : Nat
  allowedModes : Nat
deriving DecidableEq, Repr

structure AuthorityRule where
  authorityId : Nat
  flags : Nat
  requiredFactors : Nat
  prohibitedAmbient : Nat
  allowedModes : Nat
  maxOperations : Nat
  evidenceCode : Nat
deriving DecidableEq, Repr

structure Bundle where
  bundleVersion : Nat
  minimumSecureVersion : Nat
  requiredPbpMajor : Nat
  minimumPbpMinor : Nat
  requiredKernelAbiMajor : Nat
  minimumKernelAbiMinor : Nat
  maxAttempts : Nat
  maxSafeAttempts : Nat
  successDeadlineSeconds : Nat
  stateGenerationFloor : Nat
  recoveryComponentSha256 : Bytes
  stateStoreId : Bytes
  slots : List Slot
  failureRules : List FailureRule
  authorityRules : List AuthorityRule
  bodySha256 : Bytes
  raw : Bytes
deriving DecidableEq, Repr

/-- The keys of `MODE_NAMES`. -/
def modeNames : List Nat :=
  [modeNormal, modeSafe, modePrevious, modeRecovery, modeDiagnostic, modeFirmware]

/-- The keys of `FAILURE_NAMES`. -/
def failureNames : List Nat := [1, 2, 3, 4, 5, 6, 7, 8, 9, 10]

def modeBit (mode : Nat) : Except Raised Nat := do
  demand (mode ∈ modeNames) (.code .mode)
  return 1 <<< (mode - 1)

/-- What the loop over the slots carries. -/
structure Seen where
  slots : List Slot
  manifests : List Bytes
  kernels : List Bytes

/-- The round of `parse` for one slot record. -/
def parseSlot (data : Bytes) (bundleVersion minimumSecureVersion : Nat) (seen : Seen) (index : Nat) :
    Except Raised Seen := do
  let offset := slotOffset + index * slotBytes
  let slotId := data.word offset 2
  let flags := data.word (offset + 2) 2
  let priority := data.word (offset + 4) 4
  let version := data.word (offset + 8) 8
  let minimumRecovery := data.word (offset + 16) 8
  let manifest := data.slice (offset + 24) 32
  let kernel := data.slice (offset + 56) 32
  demand (slotId = index + 1) (.code .slotId)
  demand (flags = slotRequiredFlags) (.code .slotFlags)
  demand (priority ≠ 0 ∧
    (index ≠ 0 → seen.slots[index - 1]?.all (fun previous => decide (priority < previous.priority))))
    (.code .slotPriority)
  demand (minimumSecureVersion ≤ version ∧ minimumRecovery ≠ 0 ∧ minimumRecovery ≤ bundleVersion)
    (.code .slotVersion)
  demand (¬ manifest.allZero ∧ ¬ kernel.allZero ∧ manifest ∉ seen.manifests ∧ kernel ∉ seen.kernels)
    (.code .slotDigest)
  demand (data.slice (offset + 88) (slotBytes - 88)).allZero (.code .slotReserved)
  return {
    slots := seen.slots ++ [⟨slotId, flags, priority, version, minimumRecovery, manifest, kernel⟩]
    manifests := manifest :: seen.manifests
    kernels := kernel :: seen.kernels }

/-- The round of `parse` for one failure rule. -/
def parseFailure (data : Bytes) (expected : FailureRow) (index : Nat) : Except Raised FailureRule := do
  let offset := failureOffset + index * failureBytes
  let failureId := data.word offset 2
  let actual : FailureRow := ⟨data.word (offset + 2) 2, data.word (offset + 4) 2,
    data.word (offset + 6) 2, data.word (offset + 8) 2, data.word (offset + 12) 4⟩
  let evidenceCode := data.word (offset + 10) 2
  demand (failureId = index + 1) (.code .failureId)
  demand (actual = expected) (.code .failureRule)
  demand (evidenceCode = 100 + failureId) (.code .failureEvidence)
  demand (without actual.flags failureKnownFlags = 0) (.code .failureRule)
  demand (data.slice (offset + 16) (failureBytes - 16)).allZero (.code .failureReserved)
  return ⟨failureId, actual.primaryAction, actual.fallbackAction, actual.flags, actual.maxRetries,
    evidenceCode, actual.allowedModes⟩

/-- The round of `parse` for one authority rule. -/
def parseAuthority (data : Bytes) (expected : AuthorityRow) (index : Nat) : Except Raised AuthorityRule := do
  let offset := authorityOffset + index * authorityBytes
  let authorityId := data.word offset 2
  let actual : AuthorityRow := ⟨data.word (offset + 2) 2, data.word (offset + 4) 4,
    data.word (offset + 12) 4, data.word (offset + 16) 2, data.word (offset + 20) 4⟩
  let prohibited := data.word (offset + 8) 4
  let reserved := data.word (offset + 18) 2
  demand (authorityId = index + 1) (.code .authorityId)
  demand (actual = expected) (.code .authorityRule)
  demand (without actual.flags authKnownFlags = 0 ∧ without actual.factors factorKnownMask = 0)
    (.code .authorityRule)
  demand (prohibited = prohibitAmbientAll) (.code .authorityAmbient)
  demand ((data.slice (offset + 24) (authorityBytes - 24)).allZero ∧ reserved = 0)
    (.code .authorityReserved)
  return ⟨authorityId, actual.flags, actual.factors, prohibited, actual.allowedModes,
    actual.maxOperations, actual.evidenceCode⟩

variable (sha : Sha256)

def parse (data : Bytes) : Except Raised Bundle := do
  demand (headerBytes ≤ data.length) (.code .truncated)
  demand (data.length = totalBytes) (.code .totalSize)
  demand (data.slice 0 8 = magic) (.code .magic)
  demand (data.word 8 2 = majorVersion ∧ data.word 10 2 = minorVersion) (.code .version)
  demand (data.word 12 2 = headerBytes) (.code .headerSize)
  demand (data.word 14 2 = recordAlignment) (.code .alignment)
  demand (data.word 16 4 = totalBytes) (.code .totalSize)
  demand (data.word 20 4 = requiredFlags) (.code .flags)
  let bundleVersion := data.word 24 8
  let minimumSecureVersion := data.word 32 8
  demand (bundleVersion ≠ 0 ∧ minimumSecureVersion ≠ 0 ∧ minimumSecureVersion ≤ bundleVersion)
    (.code .versionFloor)
  let requiredPbpMajor := data.word 40 2
  let minimumPbpMinor := data.word 42 2
  let requiredKernelAbiMajor := data.word 44 2
  let minimumKernelAbiMinor := data.word 46 2
  demand (requiredPbpMajor ≠ 0 ∧ requiredKernelAbiMajor ≠ 0) (.code .abi)
  let maxAttempts := data.word 48 2
  let maxSafeAttempts := data.word 50 2
  let successDeadlineSeconds := data.word 52 4
  demand ((1 ≤ maxAttempts ∧ maxAttempts ≤ maxAttemptsLimit) ∧ maxSafeAttempts = 1)
    (.code .attemptPolicy)
  demand (1 ≤ successDeadlineSeconds ∧ successDeadlineSeconds ≤ 3600) (.code .successDeadline)
  demand (data.word 56 2 = stateBytes ∧ data.word 58 2 = stateChecksumBytes) (.code .stateGeometry)
  demand (data.word 60 2 = slotCount ∧ data.word 62 2 = failureCount ∧
    data.word 64 2 = authorityCount) (.code .recordCount)
  demand (data.word 66 2 = stateWriteRecovery) (.code .stateWritePolicy)
  demand (data.word 68 4 = slotOffset ∧ data.word 72 4 = failureOffset ∧
    data.word 76 4 = authorityOffset) (.code .tableLayout)
  demand (data.word 80 4 = modeMaskAll) (.code .modes)
  demand (data.word 84 4 = failureMaskAll ∧ data.word 88 4 = actionMaskAll) (.code .failureActionMask)
  demand (data.word 92 4 = requiredHandoffFields) (.code .handoffFields)
  let stateGenerationFloor := data.word 96 8
  demand (stateGenerationFloor ≠ 0) (.code .stateGenerationFloor)
  let expectedBody := data.slice 104 32
  demand (sha.digest (data.drop headerBytes) = expectedBody) (.code .bodyDigest)
  let recoveryComponent := data.slice 136 32
  demand (¬ recoveryComponent.allZero) (.code .recoveryComponentDigest)
  let stateStoreId := data.slice 168 16
  demand (¬ stateStoreId.allZero) (.code .stateStoreId)
  demand (data.word 184 2 = actionPrevious ∧ data.word 186 2 = actionRecovery ∧
    data.word 188 2 = actionRecovery ∧ data.word 190 2 = actionRecovery) (.code .fallbackPolicy)
  demand (data.word 192 4 = authorityCeiling) (.code .authorityCeiling)
  demand (data.word 196 4 = requiredTransports) (.code .transportPolicy)
  demand (data.slice 200 (headerBytes - 200)).allZero (.code .reserved)
  let seen ← (List.range slotCount).foldlM (parseSlot data bundleVersion minimumSecureVersion) ⟨[], [], []⟩
  let failureRules ← failureRows.zipIdx.mapM fun (expected, index) => parseFailure data expected index
  let authorityRules ←
    authorityRows.zipIdx.mapM fun (expected, index) => parseAuthority data expected index
  return {
    bundleVersion, minimumSecureVersion, requiredPbpMajor, minimumPbpMinor, requiredKernelAbiMajor,
    minimumKernelAbiMinor, maxAttempts, maxSafeAttempts, successDeadlineSeconds,
    stateGenerationFloor, recoveryComponentSha256 := recoveryComponent, stateStoreId,
    slots := seen.slots, failureRules, authorityRules, bodySha256 := expectedBody, raw := data }

def stateChecksum (data : Bytes) : Except Raised Bytes := do
  demand (stateBytes - stateChecksumBytes ≤ data.length) (.code .stateTruncated)
  return (sha.digest (data.take (stateBytes - stateChecksumBytes))).take stateChecksumBytes

/-- The fields of a boot in flight, or of none. -/
def checkInflight (state : State) : Except Raised Unit :=
  if state.flags &&& stateInflight ≠ 0 then
    demand (state.bootNonce ≠ 0 ∧ state.inflightGeneration = state.generation ∧
      state.inflightSlot ∈ [1, 2] ∧ state.inflightMode ∈ modeNames ∧
      state.currentMode = state.inflightMode) (.code .stateInflight)
  else
    demand (state.bootNonce = 0 ∧ state.inflightGeneration = 0 ∧ state.inflightSlot = 0 ∧
      state.inflightMode = 0) (.code .stateInflight)

def parseState (data : Bytes) (policy : Option Bundle) : Except Raised State := do
  demand (stateBytes ≤ data.length) (.code .stateTruncated)
  demand (data.length = stateBytes) (.code .stateSize)
  demand (data.slice 0 8 = stateMagic) (.code .stateMagic)
  demand (data.word 8 2 = majorVersion ∧ data.word 10 2 = minorVersion) (.code .stateVersion)
  demand (data.word 12 2 = stateBytes) (.code .stateSize)
  let state := readState data
  demand (without state.flags stateKnownFlags = 0) (.code .stateFlags)
  demand (state.generation ≠ 0 ∧ state.minimumSecureVersion ≠ 0) (.code .stateFloor)
  demand (state.activeSlot ∈ [1, 2] ∧ state.pendingSlot ∈ [0, 1, 2] ∧
    state.pendingSlot ≠ state.activeSlot) (.code .stateSlot)
  demand (state.knownGoodMask ≠ 0 ∧ without state.knownGoodMask 0x3 = 0 ∧
    without state.unbootableMask 0x3 = 0 ∧ without state.safeAttemptedMask 0x3 = 0)
    (.code .stateMask)
  demand (state.knownGoodMask &&& state.unbootableMask = 0) (.code .stateMaskConflict)
  demand (state.knownGoodMask &&& (1 <<< (state.activeSlot - 1)) ≠ 0) (.code .stateActiveKnownGood)
  let attemptLimit := (policy.map Bundle.maxAttempts).getD maxAttemptsLimit
  demand (state.attemptsA ≤ attemptLimit ∧ state.attemptsB ≤ attemptLimit) (.code .stateAttempts)
  demand (state.currentMode ∈ 0 :: modeNames) (.code .stateMode)
  demand (state.lastFailure ∈ 0 :: failureNames ∧ data.word 42 2 = 0) (.code .stateFailure)
  demand (state.lastSuccessSlot ∈ [1, 2] ∧ state.lastSuccessGeneration ≠ 0 ∧
    state.lastSuccessGeneration ≤ state.generation) (.code .stateSuccess)
  demand (state.policyVersion ≠ 0 ∧ state.stateStoreEpoch ≠ 0 ∧ state.evidenceSequence ≠ 0)
    (.code .stateMetadata)
  demand (∀ bundle ∈ policy, bundle.stateGenerationFloor ≤ state.generation ∧
    bundle.minimumSecureVersion ≤ state.minimumSecureVersion ∧
    state.policyVersion = bundle.bundleVersion) (.code .statePolicyBinding)
  checkInflight state
  demand (data.word 71 1 = 0 ∧ data.word 104 8 = 0) (.code .stateReserved)
  let checksum ← stateChecksum sha data
  demand (data.slice 112 16 = checksum) (.code .stateChecksum)
  return state

/-- The words that `struct.pack_into` writes, the reserved ones among them. -/
def packed (state : State) : List Field :=
  [ ⟨8, 2, majorVersion⟩, ⟨10, 2, minorVersion⟩, ⟨12, 2, stateBytes⟩, ⟨14, 2, state.flags⟩, ⟨16, 8, state.generation⟩,
    ⟨24, 8, state.minimumSecureVersion⟩,
    ⟨32, 1, state.activeSlot⟩,
    ⟨33, 1, state.pendingSlot⟩,
    ⟨34, 1, state.knownGoodMask⟩,
    ⟨35, 1, state.unbootableMask⟩,
    ⟨36, 1, state.attemptsA⟩,
    ⟨37, 1, state.attemptsB⟩,
    ⟨38, 1, state.safeAttemptedMask⟩,
    ⟨39, 1, state.currentMode⟩,
    ⟨40, 2, state.lastFailure⟩,
    ⟨42, 2, 0⟩,
    ⟨44, 8, state.transactionId⟩,
    ⟨52, 8, state.bootNonce⟩,
    ⟨60, 8, state.inflightGeneration⟩,
    ⟨68, 1, state.inflightSlot⟩,
    ⟨69, 1, state.inflightMode⟩,
    ⟨70, 1, state.lastSuccessSlot⟩,
    ⟨71, 1, 0⟩,
    ⟨72, 8, state.lastSuccessGeneration⟩,
    ⟨80, 8, state.policyVersion⟩,
    ⟨88, 8, state.stateStoreEpoch⟩,
    ⟨96, 8, state.evidenceSequence⟩,
    ⟨104, 8, 0⟩ ]

def encodeState (state : State) : Except Raised Bytes := do
  demand (∀ field ∈ packed state, field.value < 256 ^ field.width) .structError
  let output := Bytes.lay (Bytes.blit (List.replicate stateBytes 0) 0 stateMagic) (packed state)
  let result := Bytes.blit output 112 ((sha.digest (output.take 112)).take 16)
  let _ ← parseState sha result none
  return result

/-- `parse_state(encode_state(state), policy)`. -/
def reparse (state : State) (policy : Option Bundle) : Except Raised State := do
  let data ← encodeState sha state
  parseState sha data policy

def slotBit (slot : Nat) : Except Raised Nat := do
  demand (slot ∈ [1, 2]) (.code .transitionSlot)
  return 1 <<< (slot - 1)

def slotRecord (policy : Bundle) (slot : Nat) : Except Raised Slot :=
  orError policy.slots[slot - 1]? .indexError

def eligible (policy : Bundle) (state : State) (slot : Nat) (knownGood : Bool) : Except Raised Bool := do
  let bit ← slotBit slot
  let record ← slotRecord policy slot
  if record.flags &&& slotBootable = 0 ∨ state.unbootableMask &&& bit ≠ 0 then return false
  if record.version < max policy.minimumSecureVersion state.minimumSecureVersion then return false
  return !knownGood || decide (state.knownGoodMask &&& bit ≠ 0)

def nextGeneration (state : State) : Except Raised Nat := do
  demand (state.generation ≠ 2 ^ 64 - 1) (.code .transitionGeneration)
  return state.generation + 1

def recoveryDecision (state : State) (reason : Nat) : Except Raised Decision := do
  let generation ← nextGeneration state
  let nextState := { state with
    flags := without state.flags (stateInflight ||| stateSafeRequested)
    generation
    currentMode := modeRecovery
    lastFailure := reason
    bootNonce := 0
    inflightGeneration := 0
    inflightSlot := 0
    inflightMode := 0
    evidenceSequence := state.evidenceSequence + 1 }
  let nextState ← reparse sha nextState none
  return ⟨modeRecovery, 0, false, true, reason, nextState⟩

def selectSlot (state : State) (slot mode : Nat) (trial : Bool) (nonce : Nat)
    (safeAttemptedMask : Option Nat) : Except Raised Decision := do
  demand (nonce ≠ 0) (.code .transitionNonce)
  let generation ← nextGeneration state
  let nextState := { state with
    flags := without (state.flags ||| stateInflight) (stateRecoveryRequested ||| stateSafeRequested)
    generation
    currentMode := mode
    bootNonce := nonce
    inflightGeneration := generation
    inflightSlot := slot
    inflightMode := mode
    safeAttemptedMask := safeAttemptedMask.getD state.safeAttemptedMask
    evidenceSequence := state.evidenceSequence + 1 }
  let nextState ← reparse sha nextState none
  return ⟨mode, slot, trial, true, 0, nextState⟩

def selectSafe (policy : Bundle) (state : State) (bootNonce : Nat) : List Nat → Except Raised Decision
  | [] => recoveryDecision sha state failAttemptExhausted
  | slot :: rest => do
      let bit ← slotBit slot
      if (← eligible policy state slot true) ∧ state.safeAttemptedMask &&& bit = 0 then
        selectSlot sha state slot modeSafe false bootNonce (some (state.safeAttemptedMask ||| bit))
      else
        selectSafe policy state bootNonce rest

def selectKnownGood (policy : Bundle) (state : State) (mode bootNonce : Nat) :
    List Nat → Except Raised Decision
  | [] => recoveryDecision sha state failAttemptExhausted
  | slot :: rest => do
      if (← eligible policy state slot true) then
        selectSlot sha state slot mode false bootNonce none
      else
        selectKnownGood policy state mode bootNonce rest

/-- The part of `select_boot` after the pending slot was dealt with. -/
def selectFallback (policy : Bundle) (state : State) (mode bootNonce : Nat) : Except Raised Decision :=
  if mode = modeSafe then
    selectSafe sha policy state bootNonce [state.activeSlot, 3 - state.activeSlot]
  else if mode = modePrevious then
    selectKnownGood sha policy state mode bootNonce [3 - state.activeSlot, state.activeSlot]
  else
    selectKnownGood sha policy state mode bootNonce [state.activeSlot, 3 - state.activeSlot]

/-- The branch of `select_boot` for the firmware. -/
def selectFirmware (state : State) (physicalPresence : Bool) : Except Raised Decision := do
  demand (physicalPresence = true) (.code .transitionPhysicalPresence)
  let generation ← nextGeneration state
  let nextState := { state with
    generation
    currentMode := modeFirmware
    evidenceSequence := state.evidenceSequence + 1 }
  let nextState ← reparse sha nextState none
  return ⟨modeFirmware, 0, false, true, 0, nextState⟩

/-- The branch of `select_boot` for a mode that boots a slot: the pending slot comes first. -/
def selectPending (policy : Bundle) (state : State) (mode bootNonce : Nat) : Except Raised Decision :=
  if mode = modeNormal ∧ state.pendingSlot ≠ 0 then do
    let slot := state.pendingSlot
    if (← eligible policy state slot false) ∧ 0 < attempts state slot then
      selectSlot sha (setAttempts state slot (attempts state slot - 1)) slot mode true bootNonce none
    else
      let bit ← slotBit slot
      let retired := { state with
        pendingSlot := 0
        unbootableMask := state.unbootableMask ||| bit
        knownGoodMask := without state.knownGoodMask bit
        lastFailure := failAttemptExhausted }
      selectFallback sha policy retired modePrevious bootNonce
  else
    selectFallback sha policy state mode bootNonce

def selectBoot (policy : Bundle) (state : State) (requestedMode : Nat) (physicalPresence : Bool)
    (bootNonce : Nat) (stateAuthenticated stateWritable : Bool) : Except Raised Decision := do
  let _ ← parse sha policy.raw
  let _ ← reparse sha state (some policy)
  demand (stateAuthenticated = true) (.code .transitionStateAuth)
  demand (state.flags &&& stateInflight = 0) (.code .transitionInflight)
  if stateWritable then
    let mode := requested state requestedMode
    let bit ← modeBit mode
    demand (modeMaskAll &&& bit ≠ 0) .transitionMode
    if mode = modeFirmware then
      selectFirmware sha state physicalPresence
    else if mode = modeRecovery then
      recoveryDecision sha state state.lastFailure
    else
      selectPending sha policy state mode bootNonce
  else
    return ⟨modeRecovery, 0, false, false, failStateInvalid, state⟩

def reportBootSuccess (policy : Bundle) (state : State) (receipt : SuccessReceipt) : Except Raised State := do
  let _ ← reparse sha state (some policy)
  demand (receipt.authenticated = true) (.code .receiptAuth)
  demand (state.flags &&& stateInflight ≠ 0) (.code .receiptInflight)
  demand (receipt.generation = state.inflightGeneration ∧ receipt.slot = state.inflightSlot ∧
    receipt.mode = state.inflightMode ∧ receipt.bootNonce = state.bootNonce) (.code .receiptBinding)
  let bit ← slotBit receipt.slot
  let generation ← nextGeneration state
  let nextState := { state with
    flags := without state.flags (stateInflight ||| stateRecoveryRequested ||| stateSafeRequested)
    generation
    minimumSecureVersion := max state.minimumSecureVersion policy.minimumSecureVersion
    activeSlot := receipt.slot
    pendingSlot := if state.pendingSlot = receipt.slot then 0 else state.pendingSlot
    knownGoodMask := state.knownGoodMask ||| bit
    unbootableMask := without state.unbootableMask bit
    attemptsA := if receipt.slot = 1 then policy.maxAttempts else state.attemptsA
    attemptsB := if receipt.slot = 2 then policy.maxAttempts else state.attemptsB
    currentMode := receipt.mode
    lastFailure := 0
    bootNonce := 0
    inflightGeneration := 0
    inflightSlot := 0
    inflightMode := 0
    lastSuccessSlot := receipt.slot
    lastSuccessGeneration := generation
    policyVersion := policy.bundleVersion
    evidenceSequence := state.evidenceSequence + 1 }
  reparse sha nextState (some policy)

/-- The table of the modes of the actions. -/
def actionMode (action : Nat) : Except Raised Nat :=
  orError ([(actionRetryCandidate, modeNormal), (actionSafe, modeSafe), (actionPrevious, modePrevious),
    (actionRecovery, modeRecovery), (actionFirmware, modeFirmware),
    (actionHalt, modeRecovery)].lookup action) .keyError

/-- The action, or recovery where it asks for the other slot and that slot cannot be booted. -/
def withPrevious (policy : Bundle) (state : State) (slot action : Nat) : Except Raised Nat :=
  if action = actionPrevious then do
    let other := 3 - slot
    if (← eligible policy state other true) then return action else return actionRecovery
  else return action

def reportBootFailure (policy : Bundle) (state : State) (failureId : Nat) (authenticated : Bool) :
    Except Raised FailureDecision := do
  let _ ← reparse sha state (some policy)
  demand (authenticated = true) (.code .failureReceiptAuth)
  demand (state.flags &&& stateInflight ≠ 0) (.code .failureReceiptInflight)
  demand (failureId ∈ failureNames) (.code .failureReceiptId)
  let rule ← orError policy.failureRules[failureId - 1]? .indexError
  let slot := state.inflightSlot
  let bit ← slotBit slot
  let trial := state.pendingSlot = slot ∧ state.knownGoodMask &&& bit = 0
  let marks := rule.flags &&& failureMarkUnbootable ≠ 0
  let ruled := { state with
    unbootableMask := if marks then state.unbootableMask ||| bit else state.unbootableMask
    knownGoodMask := if marks then without state.knownGoodMask bit else state.knownGoodMask
    pendingSlot :=
      if rule.flags &&& failureClearPending ≠ 0 ∧ state.pendingSlot = slot then 0 else state.pendingSlot }
  let action :=
    if rule.primaryAction = actionRetryCandidate ∧ (¬ trial ∨ attempts state slot = 0) then
      rule.fallbackAction
    else rule.primaryAction
  let action :=
    if action = actionSafe ∧ state.safeAttemptedMask &&& bit ≠ 0 then rule.fallbackAction else action
  -- The masks of the rule are seen by the check of the other slot, the pending slot is not read there.
  let action ← withPrevious policy
    { state with unbootableMask := ruled.unbootableMask, knownGoodMask := ruled.knownGoodMask } slot action
  let generation ← nextGeneration state
  let currentMode ← actionMode action
  let nextState := { ruled with
    flags := without state.flags stateInflight
    generation
    currentMode
    lastFailure := failureId
    bootNonce := 0
    inflightGeneration := 0
    inflightSlot := 0
    inflightMode := 0
    evidenceSequence := state.evidenceSequence + 1 }
  let nextState ← reparse sha nextState none
  return { action, state := nextState }

end PooleOS.Recovery.Oracle
