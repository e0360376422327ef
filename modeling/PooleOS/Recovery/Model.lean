import PooleOS.Lib.Layout
import PooleOS.Lib.Masks
import PooleOS.Lib.Result

/- The PREC1 recovery policy and the persisted A/B boot state
(`native/recovery/src/lib.rs`). A fixed-width field is a natural number, and
`State.Typed` says that it fits. -/
namespace PooleOS.Recovery

inductive Error
  | truncated
  | totalSize
  | magic
  | version
  | headerSize
  | alignment
  | flags
  | versionFloor
  | abi
  | attemptPolicy
  | successDeadline
  | stateGeometry
  | recordCount
  | stateWritePolicy
  | tableLayout
  | modes
  | failureActionMask
  | handoffFields
  | stateGenerationFloor
  | bodyDigest
  | recoveryComponentDigest
  | stateStoreId
  | fallbackPolicy
  | authorityCeiling
  | transportPolicy
  | reserved
  | slotId
  | slotFlags
  | slotPriority
  | slotVersion
  | slotDigest
  | slotReserved
  | failureId
  | failureRule
  | failureEvidence
  | failureReserved
  | authorityId
  | authorityRule
  | authorityAmbient
  | authorityReserved
  | stateTruncated
  | stateSize
  | stateMagic
  | stateVersion
  | stateFlags
  | stateFloor
  | stateSlot
  | stateMask
  | stateMaskConflict
  | stateActiveKnownGood
  | stateAttempts
  | stateMode
  | stateFailure
  | stateSuccess
  | stateMetadata
  | statePolicyBinding
  | stateInflight
  | stateReserved
  | stateChecksum
  | mode
  | transitionSlot
  | transitionGeneration
  | transitionNonce
  | transitionStateAuth
  | transitionInflight
  | transitionPhysicalPresence
  | receiptAuth
  | receiptInflight
  | receiptBinding
  | failureReceiptAuth
  | failureReceiptInflight
  | failureReceiptId
deriving DecidableEq, Repr

/-- `*b"PREC1\0\0\0"`. -/
def magic : Bytes := [80, 82, 69, 67, 49, 0, 0, 0]
/-- `*b"PRECST1\0"`. -/
def stateMagic : Bytes := [80, 82, 69, 67, 83, 84, 49, 0]
def majorVersion : Nat := 1
def minorVersion : Nat := 0
def headerBytes : Nat := 256
def totalBytes : Nat := 992
def stateBytes : Nat := 128
def stateChecksumBytes : Nat := 16
def recordAlignment : Nat := 8
def slotCount : Nat := 2
def slotBytes : Nat := 96
def failureCount : Nat := 10
def failureBytes : Nat := 32
def authorityCount : Nat := 7
def authorityBytes : Nat := 32
def slotOffset : Nat := headerBytes
def failureOffset : Nat := slotOffset + slotCount * slotBytes
def authorityOffset : Nat := failureOffset + failureCount * failureBytes
def maxAttemptsLimit : Nat := 7
def u32Max : Nat := 2 ^ 32 - 1
def u64Max : Nat := 2 ^ 64 - 1

/-- `REQUIRED_FLAGS`, the fourteen policy flags. -/
def requiredFlags : Nat := 0x3fff

def modeNormal : Nat := 1
def modeSafe : Nat := 2
def modePrevious : Nat := 3
def modeRecovery : Nat := 4
def modeDiagnostic : Nat := 5
def modeFirmware : Nat := 6
def modeMaskAll : Nat := 0x3f

def failStateInvalid : Nat := 2
def failAttemptExhausted : Nat := 8
def failureMaskAll : Nat := (1 <<< failureCount) - 1

def actionRetryCandidate : Nat := 1
def actionSafe : Nat := 2
def actionPrevious : Nat := 3
def actionRecovery : Nat := 4
def actionFirmware : Nat := 5
def actionHalt : Nat := 6
def actionMaskAll : Nat := (1 <<< 6) - 1

def slotBootable : Nat := 1 <<< 0
def slotCandidateAllowed : Nat := 1 <<< 1
def slotSafeEligible : Nat := 1 <<< 2
def slotFallbackEligible : Nat := 1 <<< 3
def slotRequiredFlags : Nat :=
  slotBootable ||| slotCandidateAllowed ||| slotSafeEligible ||| slotFallbackEligible

def failurePreserveEvidence : Nat := 1 <<< 0
def failureClearPending : Nat := 1 <<< 1
def failureMarkUnbootable : Nat := 1 <<< 2
def failureRequirePhysicalPresence : Nat := 1 <<< 3
def failureKnownFlags : Nat :=
  failurePreserveEvidence ||| failureClearPending ||| failureMarkUnbootable |||
    failureRequirePhysicalPresence

def authReadOnly : Nat := 1 <<< 0
def authDestructive : Nat := 1 <<< 1
def authOfflineOnly : Nat := 1 <<< 2
def authAudited : Nat := 1 <<< 3
def authKnownFlags : Nat := authReadOnly ||| authDestructive ||| authOfflineOnly ||| authAudited
def factorPhysicalPresence : Nat := 1 <<< 0
def factorOperatorAuth : Nat := 1 <<< 1
def factorVerifiedBackup : Nat := 1 <<< 2
def factorSignatureVerified : Nat := 1 <<< 3
def factorVolumeUnlocked : Nat := 1 <<< 4
def factorKnownMask : Nat := (1 <<< 5) - 1
def prohibitAmbientAll : Nat := 0x7
def authorityCeiling : Nat := authorityCount

def stateWriteRecovery : Nat := 1
def requiredTransports : Nat := 0x3
def requiredHandoffFields : Nat := 0x3f

def stateRecoveryRequested : Nat := 1 <<< 0
def stateSafeRequested : Nat := 1 <<< 1
def stateInflight : Nat := 1 <<< 2
def stateKnownFlags : Nat := stateRecoveryRequested ||| stateSafeRequested ||| stateInflight

structure Bundle where
  bundleVersion : Nat
  minimumSecureVersion : Nat
  requiredPbpMajor : Nat
  minimumPbpMinor : Nat
  requiredKernelAbiMajor : Nat
  minimumKernelAbiMinor : Nat
  maxAttempts : Nat
  maxSafeAttempts : Nat
  successDeadlineSeconds : Nat
  stateGenerationFloor : Nat
  bodySha256 : Bytes
  raw : Bytes
deriving DecidableEq, Repr

@[ext]
structure State where
  flags : Nat
  generation : Nat
  minimumSecureVersion : Nat
  activeSlot : Nat
  pendingSlot : Nat
  knownGoodMask : Nat
  unbootableMask : Nat
  attemptsA : Nat
  attemptsB : Nat
  safeAttemptedMask : Nat
  currentMode : Nat
  lastFailure : Nat
  transactionId : Nat
  bootNonce : Nat
  inflightGeneration : Nat
  inflightSlot : Nat
  inflightMode : Nat
  lastSuccessSlot : Nat
  lastSuccessGeneration : Nat
  policyVersion : Nat
  stateStoreEpoch : Nat
  evidenceSequence : Nat
deriving DecidableEq, Repr

structure Decision where
  mode : Nat
  slot : Nat
  trial : Bool
  persistenceRequired : Bool
  reason : Nat
  state : State
deriving DecidableEq, Repr

structure FailureDecision where
  action : Nat
  state : State
deriving DecidableEq, Repr

structure SuccessReceipt where
  authenticated : Bool
  generation : Nat
  slot : Nat
  mode : Nat
  bootNonce : Nat
deriving DecidableEq, Repr

def modeBit (mode : Nat) : Except Error Nat := do
  demand (modeNormal ≤ mode ∧ mode ≤ modeFirmware) .mode
  return 1 <<< (mode - 1)

/-- A row of `FAILURE_ROWS`. -/
structure FailureRow where
  primaryAction : Nat
  fallbackAction : Nat
  flags : Nat
  maxRetries : Nat
  allowedModes : Nat
deriving DecidableEq, Repr

def failureRows : List FailureRow :=
  let preserve := failurePreserveEvidence
  let retire := failurePreserveEvidence ||| failureClearPending ||| failureMarkUnbootable
  [ ⟨actionRecovery, actionHalt, preserve, 0, modeMaskAll⟩, ⟨actionRecovery, actionHalt, preserve, 0, modeMaskAll⟩,
    ⟨actionRecovery, actionHalt, retire, 0, modeMaskAll⟩,
    ⟨actionPrevious, actionRecovery, retire, 0, modeMaskAll⟩,
    ⟨actionPrevious, actionRecovery, retire, 0, modeMaskAll⟩,
    ⟨actionSafe, actionPrevious, preserve, 1, modeMaskAll⟩,
    ⟨actionRetryCandidate, actionPrevious, preserve, 2, modeMaskAll⟩,
    ⟨actionPrevious, actionRecovery, retire, 0, modeMaskAll⟩,
    ⟨actionSafe, actionRecovery, preserve, 1, modeMaskAll⟩,
    ⟨actionRecovery, actionFirmware, preserve, 0, modeMaskAll⟩ ]

/-- A row of `AUTHORITY_ROWS`. -/
structure AuthorityRow where
  flags : Nat
  factors : Nat
  allowedModes : Nat
  maxOperations : Nat
  evidenceCode : Nat
deriving DecidableEq, Repr

def authorityRows : List AuthorityRow :=
  let offline := authOfflineOnly ||| authAudited
  let destructive := factorPhysicalPresence ||| factorOperatorAuth ||| factorVerifiedBackup |||
    factorSignatureVerified
  [ ⟨authReadOnly ||| offline, 0, 0x18, 0, 201⟩, ⟨authReadOnly ||| offline, factorOperatorAuth, 0x08, 0, 202⟩,
    ⟨offline, factorPhysicalPresence ||| factorOperatorAuth, 0x08, 1, 203⟩,
    ⟨offline, factorOperatorAuth, 0x08, 1, 204⟩,
    ⟨offline, factorPhysicalPresence ||| factorOperatorAuth ||| factorVolumeUnlocked, 0x08, 3, 205⟩,
    ⟨authDestructive ||| offline, destructive, 0x08, 1, 206⟩,
    ⟨authDestructive ||| offline, destructive, 0x08, 1, 207⟩ ]

/-- The round of `parse` for one slot record; the result is the next `previous_priority`. -/
def parseSlot (data : Bytes) (bundleVersion minimumSecureVersion previousPriority index : Nat) : Except Error Nat := do
  let offset := slotOffset + index * slotBytes
  demand (data.word offset 2 = index + 1) .slotId
  demand (data.word (offset + 2) 2 = slotRequiredFlags) .slotFlags
  let priority := data.word (offset + 4) 4
  demand (priority ≠ 0 ∧ priority < previousPriority) .slotPriority
  let version := data.word (offset + 8) 8
  let minimumRecovery := data.word (offset + 16) 8
  demand (minimumSecureVersion ≤ version ∧ minimumRecovery ≠ 0 ∧ minimumRecovery ≤ bundleVersion)
    .slotVersion
  demand (¬ (data.slice (offset + 24) 32).allZero ∧ ¬ (data.slice (offset + 56) 32).allZero) .slotDigest
  demand (¬ (index = 1 ∧ (data.slice (offset + 24) 32 = data.slice (slotOffset + 24) 32 ∨
    data.slice (offset + 56) 32 = data.slice (slotOffset + 56) 32))) .slotDigest
  demand (data.slice (offset + 88) (slotBytes - 88)).allZero .slotReserved
  return priority

/-- The round of `parse` for one failure rule. -/
def parseFailure (data : Bytes) (expected : FailureRow) (index : Nat) : Except Error Unit := do
  let offset := failureOffset + index * failureBytes
  demand (data.word offset 2 = index + 1) .failureId
  let actual : FailureRow := ⟨data.word (offset + 2) 2, data.word (offset + 4) 2,
    data.word (offset + 6) 2, data.word (offset + 8) 2, data.word (offset + 12) 4⟩
  demand (actual = expected ∧ without actual.flags failureKnownFlags = 0) .failureRule
  demand (data.word (offset + 10) 2 = 101 + index) .failureEvidence
  demand (data.slice (offset + 16) (failureBytes - 16)).allZero .failureReserved

/-- The round of `parse` for one authority rule. -/
def parseAuthority (data : Bytes) (expected : AuthorityRow) (index : Nat) : Except Error Unit := do
  let offset := authorityOffset + index * authorityBytes
  demand (data.word offset 2 = index + 1) .authorityId
  let actual : AuthorityRow := ⟨data.word (offset + 2) 2, data.word (offset + 4) 4,
    data.word (offset + 12) 4, data.word (offset + 16) 2, data.word (offset + 20) 4⟩
  demand (actual = expected ∧ without actual.flags authKnownFlags = 0 ∧
    without actual.factors factorKnownMask = 0) .authorityRule
  demand (data.word (offset + 8) 4 = prohibitAmbientAll) .authorityAmbient
  demand (data.word (offset + 18) 2 = 0 ∧ (data.slice (offset + 24) (authorityBytes - 24)).allZero) .authorityReserved

variable (sha : Sha256)

/-- The policy of a byte string. Once the length is checked every read is inside it. -/
def parse (data : Bytes) : Except Error Bundle := do
  demand (headerBytes ≤ data.length) .truncated
  demand (data.length = totalBytes) .totalSize
  demand (data.slice 0 8 = magic) .magic
  demand (data.word 8 2 = majorVersion ∧ data.word 10 2 = minorVersion) .version
  demand (data.word 12 2 = headerBytes) .headerSize
  demand (data.word 14 2 = recordAlignment) .alignment
  demand (data.word 16 4 = totalBytes) .totalSize
  demand (data.word 20 4 = requiredFlags) .flags
  let bundleVersion := data.word 24 8
  let minimumSecureVersion := data.word 32 8
  demand (bundleVersion ≠ 0 ∧ minimumSecureVersion ≠ 0 ∧ minimumSecureVersion ≤ bundleVersion)
    .versionFloor
  let requiredPbpMajor := data.word 40 2
  let minimumPbpMinor := data.word 42 2
  let requiredKernelAbiMajor := data.word 44 2
  let minimumKernelAbiMinor := data.word 46 2
  demand (requiredPbpMajor ≠ 0 ∧ requiredKernelAbiMajor ≠ 0) .abi
  let maxAttempts := data.word 48 2
  let maxSafeAttempts := data.word 50 2
  demand (1 ≤ maxAttempts ∧ maxAttempts ≤ maxAttemptsLimit ∧ maxSafeAttempts = 1) .attemptPolicy
  let successDeadlineSeconds := data.word 52 4
  demand (1 ≤ successDeadlineSeconds ∧ successDeadlineSeconds ≤ 3600) .successDeadline
  demand (data.word 56 2 = stateBytes ∧ data.word 58 2 = stateChecksumBytes) .stateGeometry
  demand (data.word 60 2 = slotCount ∧ data.word 62 2 = failureCount ∧ data.word 64 2 = authorityCount) .recordCount
  demand (data.word 66 2 = stateWriteRecovery) .stateWritePolicy
  demand (data.word 68 4 = slotOffset ∧ data.word 72 4 = failureOffset ∧ data.word 76 4 = authorityOffset) .tableLayout
  demand (data.word 80 4 = modeMaskAll) .modes
  demand (data.word 84 4 = failureMaskAll ∧ data.word 88 4 = actionMaskAll) .failureActionMask
  demand (data.word 92 4 = requiredHandoffFields) .handoffFields
  let stateGenerationFloor := data.word 96 8
  demand (stateGenerationFloor ≠ 0) .stateGenerationFloor
  let bodySha256 := data.slice 104 32
  demand (sha.digest (data.drop headerBytes) = bodySha256) .bodyDigest
  demand (¬ (data.slice 136 32).allZero) .recoveryComponentDigest
  demand (¬ (data.slice 168 16).allZero) .stateStoreId
  demand (data.word 184 2 = actionPrevious ∧ data.word 186 2 = actionRecovery ∧
    data.word 188 2 = actionRecovery ∧ data.word 190 2 = actionRecovery) .fallbackPolicy
  demand (data.word 192 4 = authorityCeiling) .authorityCeiling
  demand (data.word 196 4 = requiredTransports) .transportPolicy
  demand (data.slice 200 (headerBytes - 200)).allZero .reserved
  let _ ← (List.range slotCount).foldlM (parseSlot data bundleVersion minimumSecureVersion) u32Max
  failureRows.zipIdx.forM fun (expected, index) => parseFailure data expected index
  authorityRows.zipIdx.forM fun (expected, index) => parseAuthority data expected index
  return {
    bundleVersion, minimumSecureVersion, requiredPbpMajor, minimumPbpMinor, requiredKernelAbiMajor,
    minimumKernelAbiMinor, maxAttempts, maxSafeAttempts, successDeadlineSeconds,
    stateGenerationFloor, bodySha256, raw := data }

/-- The first sixteen bytes of the hash of everything before the checksum. -/
def stateChecksum (data : Bytes) : Except Error Bytes := do
  demand (stateBytes - stateChecksumBytes ≤ data.length) .stateTruncated
  return (sha.digest (data.take (stateBytes - stateChecksumBytes))).take stateChecksumBytes

/-- The fields of a record, before they are checked. -/
def readState (data : Bytes) : State where
  flags := data.word 14 2
  generation := data.word 16 8
  minimumSecureVersion := data.word 24 8
  activeSlot := data.word 32 1
  pendingSlot := data.word 33 1
  knownGoodMask := data.word 34 1
  unbootableMask := data.word 35 1
  attemptsA := data.word 36 1
  attemptsB := data.word 37 1
  safeAttemptedMask := data.word 38 1
  currentMode := data.word 39 1
  lastFailure := data.word 40 2
  transactionId := data.word 44 8
  bootNonce := data.word 52 8
  inflightGeneration := data.word 60 8
  inflightSlot := data.word 68 1
  inflightMode := data.word 69 1
  lastSuccessSlot := data.word 70 1
  lastSuccessGeneration := data.word 72 8
  policyVersion := data.word 80 8
  stateStoreEpoch := data.word 88 8
  evidenceSequence := data.word 96 8

/-- The fields of a boot in flight, or of none. -/
def checkInflight (state : State) : Except Error Unit :=
  if state.flags &&& stateInflight ≠ 0 then
    demand (state.bootNonce ≠ 0 ∧ state.inflightGeneration = state.generation ∧
      (1 ≤ state.inflightSlot ∧ state.inflightSlot ≤ 2) ∧
      (modeNormal ≤ state.inflightMode ∧ state.inflightMode ≤ modeFirmware) ∧
      state.currentMode = state.inflightMode) .stateInflight
  else
    demand (state.bootNonce = 0 ∧ state.inflightGeneration = 0 ∧ state.inflightSlot = 0 ∧
      state.inflightMode = 0) .stateInflight

def parseState (data : Bytes) : Except Error State := do
  demand (stateBytes ≤ data.length) .stateTruncated
  demand (data.length = stateBytes) .stateSize
  demand (data.slice 0 8 = stateMagic) .stateMagic
  demand (data.word 8 2 = majorVersion ∧ data.word 10 2 = minorVersion) .stateVersion
  demand (data.word 12 2 = stateBytes) .stateSize
  let state := readState data
  demand (without state.flags stateKnownFlags = 0) .stateFlags
  demand (state.generation ≠ 0 ∧ state.minimumSecureVersion ≠ 0) .stateFloor
  demand ((1 ≤ state.activeSlot ∧ state.activeSlot ≤ 2) ∧ state.pendingSlot ≤ 2 ∧
    state.pendingSlot ≠ state.activeSlot) .stateSlot
  demand (state.knownGoodMask ≠ 0 ∧ without state.knownGoodMask 0x3 = 0 ∧
    without state.unbootableMask 0x3 = 0 ∧ without state.safeAttemptedMask 0x3 = 0) .stateMask
  demand (state.knownGoodMask &&& state.unbootableMask = 0) .stateMaskConflict
  demand (state.knownGoodMask &&& (1 <<< (state.activeSlot - 1)) ≠ 0) .stateActiveKnownGood
  demand (state.attemptsA ≤ maxAttemptsLimit ∧ state.attemptsB ≤ maxAttemptsLimit) .stateAttempts
  demand (state.currentMode ≤ modeFirmware) .stateMode
  demand (state.lastFailure ≤ failureCount ∧ data.word 42 2 = 0) .stateFailure
  demand ((1 ≤ state.lastSuccessSlot ∧ state.lastSuccessSlot ≤ 2) ∧ state.lastSuccessGeneration ≠ 0 ∧
    state.lastSuccessGeneration ≤ state.generation) .stateSuccess
  demand (state.policyVersion ≠ 0 ∧ state.stateStoreEpoch ≠ 0 ∧ state.evidenceSequence ≠ 0)
    .stateMetadata
  checkInflight state
  demand (data.word 71 1 = 0 ∧ data.word 104 8 = 0) .stateReserved
  let checksum ← stateChecksum sha data
  demand (data.slice 112 16 = checksum) .stateChecksum
  return state

/-- The words of an encoded state. What lies between them stays zero. -/
def State.fields (state : State) : List Field :=
  [ ⟨8, 2, majorVersion⟩, ⟨10, 2, minorVersion⟩, ⟨12, 2, stateBytes⟩, ⟨14, 2, state.flags⟩, ⟨16, 8, state.generation⟩,
    ⟨24, 8, state.minimumSecureVersion⟩,
    ⟨32, 1, state.activeSlot⟩,
    ⟨33, 1, state.pendingSlot⟩,
    ⟨34, 1, state.knownGoodMask⟩,
    ⟨35, 1, state.unbootableMask⟩,
    ⟨36, 1, state.attemptsA⟩,
    ⟨37, 1, state.attemptsB⟩,
    ⟨38, 1, state.safeAttemptedMask⟩,
    ⟨39, 1, state.currentMode⟩,
    ⟨40, 2, state.lastFailure⟩,
    ⟨44, 8, state.transactionId⟩,
    ⟨52, 8, state.bootNonce⟩,
    ⟨60, 8, state.inflightGeneration⟩,
    ⟨68, 1, state.inflightSlot⟩,
    ⟨69, 1, state.inflightMode⟩,
    ⟨70, 1, state.lastSuccessSlot⟩,
    ⟨72, 8, state.lastSuccessGeneration⟩,
    ⟨80, 8, state.policyVersion⟩,
    ⟨88, 8, state.stateStoreEpoch⟩,
    ⟨96, 8, state.evidenceSequence⟩ ]

/-- Every field of the state fits its type. -/
def State.Typed (state : State) : Prop := ∀ field ∈ state.fields, field.value < 256 ^ field.width

instance (state : State) : Decidable state.Typed := List.decidableBAll ..

def encodeState (state : State) : Bytes :=
  let output := Bytes.lay (Bytes.blit (List.replicate stateBytes 0) 0 stateMagic) state.fields
  Bytes.blit output 112 ((sha.digest (output.take 112)).take 16)

def validateStateForPolicy (policy : Bundle) (state : State) : Except Error Unit := do
  let _ ← parseState sha (encodeState sha state)
  demand (policy.stateGenerationFloor ≤ state.generation ∧ policy.minimumSecureVersion ≤ state.minimumSecureVersion ∧
    state.policyVersion = policy.bundleVersion ∧ state.attemptsA ≤ policy.maxAttempts ∧
    state.attemptsB ≤ policy.maxAttempts) .statePolicyBinding

def nextGeneration (state : State) : Except Error Nat := do
  demand (state.generation < u64Max) .transitionGeneration
  return state.generation + 1

/-- `evidence_sequence.wrapping_add(1)`. -/
def nextEvidence (state : State) : Nat := (state.evidenceSequence + 1) % 2 ^ 64

def slotBit (slot : Nat) : Except Error Nat := do
  demand (1 ≤ slot ∧ slot ≤ 2) .transitionSlot
  return 1 <<< (slot - 1)

/-- `u16_at` and `u64_at`. -/
def wordAt (data : Bytes) (offset width : Nat) : Except Error Nat := do
  demand (offset + width ≤ data.length) .truncated
  return data.word offset width

def slotVersion (policy : Bundle) (slot : Nat) : Except Error Nat :=
  wordAt policy.raw (slotOffset + (slot - 1) * slotBytes + 8) 8

def eligible (policy : Bundle) (state : State) (slot : Nat) (knownGood : Bool) : Except Error Bool := do
  let bit ← slotBit slot
  if state.unbootableMask &&& bit ≠ 0 then return false
  let version ← slotVersion policy slot
  if version < max policy.minimumSecureVersion state.minimumSecureVersion then return false
  return !knownGood || decide (state.knownGoodMask &&& bit ≠ 0)

def attempts (state : State) (slot : Nat) : Nat :=
  if slot = 1 then state.attemptsA else state.attemptsB

def setAttempts (state : State) (slot value : Nat) : State :=
  if slot = 1 then { state with attemptsA := value } else { state with attemptsB := value }

def recoveryDecision (state : State) (reason : Nat) : Except Error Decision := do
  let generation ← nextGeneration state
  return {
    mode := modeRecovery, slot := 0, trial := false, persistenceRequired := true, reason,
    state := { state with
      flags := without state.flags (stateInflight ||| stateSafeRequested)
      generation
      currentMode := modeRecovery
      lastFailure := reason
      bootNonce := 0
      inflightGeneration := 0
      inflightSlot := 0
      inflightMode := 0
      evidenceSequence := nextEvidence state } }

def selectSlot (state : State) (slot mode : Nat) (trial : Bool) (nonce : Nat) (safeMask : Option Nat) :
    Except Error Decision := do
  demand (nonce ≠ 0) .transitionNonce
  let generation ← nextGeneration state
  return {
    mode, slot, trial, persistenceRequired := true, reason := 0,
    state := { state with
      flags := without (state.flags ||| stateInflight) (stateRecoveryRequested ||| stateSafeRequested)
      generation
      currentMode := mode
      bootNonce := nonce
      inflightGeneration := generation
      inflightSlot := slot
      inflightMode := mode
      safeAttemptedMask := safeMask.getD state.safeAttemptedMask
      evidenceSequence := nextEvidence state } }

/-- The candidates of safe mode, in order: the first one that was not tried in it. -/
def selectSafe (policy : Bundle) (next : State) (bootNonce : Nat) : List Nat → Except Error Decision
  | [] => recoveryDecision next failAttemptExhausted
  | slot :: rest => do
      let bit ← slotBit slot
      if (← eligible policy next slot true) ∧ next.safeAttemptedMask &&& bit = 0 then
        selectSlot next slot modeSafe false bootNonce (some (next.safeAttemptedMask ||| bit))
      else
        selectSafe policy next bootNonce rest

/-- The candidates of the other modes, in order. -/
def selectKnownGood (policy : Bundle) (next : State) (mode bootNonce : Nat) :
    List Nat → Except Error Decision
  | [] => recoveryDecision next failAttemptExhausted
  | slot :: rest => do
      if (← eligible policy next slot true) then
        selectSlot next slot mode false bootNonce none
      else
        selectKnownGood policy next mode bootNonce rest

/-- The part of `select_boot` after the pending slot was dealt with. -/
def selectFallback (policy : Bundle) (next : State) (mode bootNonce : Nat) : Except Error Decision :=
  if mode = modeSafe then
    selectSafe policy next bootNonce [next.activeSlot, 3 - next.activeSlot]
  else if mode = modePrevious then
    selectKnownGood policy next mode bootNonce [3 - next.activeSlot, next.activeSlot]
  else
    selectKnownGood policy next mode bootNonce [next.activeSlot, 3 - next.activeSlot]

/-- The mode that a request asks for, once the flags of the state are heard. -/
def requested (state : State) (requestedMode : Nat) : Nat :=
  if state.flags &&& stateRecoveryRequested ≠ 0 then modeRecovery
  else if state.flags &&& stateSafeRequested ≠ 0 then modeSafe
  else if requestedMode = 0 then modeNormal
  else requestedMode

/-- The branch of `select_boot` for the firmware. -/
def selectFirmware (state : State) (physicalPresence : Bool) : Except Error Decision := do
  demand (physicalPresence = true) .transitionPhysicalPresence
  let generation ← nextGeneration state
  return {
    mode := modeFirmware, slot := 0, trial := false, persistenceRequired := true, reason := 0,
    state := { state with
      generation
      currentMode := modeFirmware
      evidenceSequence := nextEvidence state } }

/-- The branch of `select_boot` for a mode that boots a slot: the pending slot comes first. -/
def selectPending (policy : Bundle) (state : State) (mode bootNonce : Nat) : Except Error Decision :=
  if mode = modeNormal ∧ state.pendingSlot ≠ 0 then do
    let slot := state.pendingSlot
    if (← eligible policy state slot false) ∧ 0 < attempts state slot then
      selectSlot (setAttempts state slot (attempts state slot - 1)) slot mode true bootNonce none
    else
      let bit ← slotBit slot
      let next := { state with
        pendingSlot := 0
        unbootableMask := state.unbootableMask ||| bit
        knownGoodMask := without state.knownGoodMask bit
        lastFailure := failAttemptExhausted }
      selectFallback policy next modePrevious bootNonce
  else
    selectFallback policy state mode bootNonce

def selectBoot (policy : Bundle) (state : State) (requestedMode : Nat) (physicalPresence : Bool)
    (bootNonce : Nat) (stateAuthenticated stateWritable : Bool) : Except Error Decision := do
  validateStateForPolicy sha policy state
  demand (stateAuthenticated = true) .transitionStateAuth
  demand (state.flags &&& stateInflight = 0) .transitionInflight
  if stateWritable then
    let mode := requested state requestedMode
    let _ ← modeBit mode
    if mode = modeFirmware then
      selectFirmware state physicalPresence
    else if mode = modeRecovery then
      recoveryDecision state state.lastFailure
    else
      selectPending policy state mode bootNonce
  else
    return {
      mode := modeRecovery, slot := 0, trial := false, persistenceRequired := false,
      reason := failStateInvalid, state }

def reportBootSuccess (policy : Bundle) (state : State) (receipt : SuccessReceipt) : Except Error State := do
  validateStateForPolicy sha policy state
  demand (receipt.authenticated = true) .receiptAuth
  demand (state.flags &&& stateInflight ≠ 0) .receiptInflight
  demand (receipt.generation = state.inflightGeneration ∧ receipt.slot = state.inflightSlot ∧
    receipt.mode = state.inflightMode ∧ receipt.bootNonce = state.bootNonce) .receiptBinding
  let bit ← slotBit receipt.slot
  let generation ← nextGeneration state
  let next := { state with
    flags := without state.flags (stateInflight ||| stateRecoveryRequested ||| stateSafeRequested)
    generation
    minimumSecureVersion := max state.minimumSecureVersion policy.minimumSecureVersion
    activeSlot := receipt.slot
    pendingSlot := if state.pendingSlot = receipt.slot then 0 else state.pendingSlot
    knownGoodMask := state.knownGoodMask ||| bit
    unbootableMask := without state.unbootableMask bit }
  return { setAttempts next receipt.slot policy.maxAttempts with
    currentMode := receipt.mode
    lastFailure := 0
    bootNonce := 0
    inflightGeneration := 0
    inflightSlot := 0
    inflightMode := 0
    lastSuccessSlot := receipt.slot
    lastSuccessGeneration := generation
    policyVersion := policy.bundleVersion
    evidenceSequence := nextEvidence state }

/-- The two actions and the flags of a rule. -/
def failureRule (policy : Bundle) (failureId : Nat) : Except Error (Nat × Nat × Nat) := do
  demand (1 ≤ failureId ∧ failureId ≤ failureCount) .failureReceiptId
  let offset := failureOffset + (failureId - 1) * failureBytes
  let action ← wordAt policy.raw (offset + 2) 2
  let fallback ← wordAt policy.raw (offset + 4) 2
  let flags ← wordAt policy.raw (offset + 6) 2
  return (action, fallback, flags)

/-- The mode that an action leads to. -/
def actionMode (action : Nat) : Except Error Nat :=
  if action = actionRetryCandidate then return modeNormal
  else if action = actionSafe then return modeSafe
  else if action = actionPrevious then return modePrevious
  else if action = actionRecovery ∨ action = actionHalt then return modeRecovery
  else if action = actionFirmware then return modeFirmware
  else throw .failureRule

/-- The action, or recovery where it asks for the other slot and that slot cannot be booted. -/
def withPrevious (policy : Bundle) (next : State) (slot action : Nat) : Except Error Nat :=
  if action = actionPrevious then do
    let other := 3 - slot
    if (← eligible policy next other true) then return action else return actionRecovery
  else return action

def reportBootFailure (policy : Bundle) (state : State) (failureId : Nat) (authenticated : Bool) :
    Except Error FailureDecision := do
  validateStateForPolicy sha policy state
  demand (authenticated = true) .failureReceiptAuth
  demand (state.flags &&& stateInflight ≠ 0) .failureReceiptInflight
  let (primary, fallback, ruleFlags) ← failureRule policy failureId
  let slot := state.inflightSlot
  let bit ← slotBit slot
  let trial := state.pendingSlot = slot ∧ state.knownGoodMask &&& bit = 0
  let marks := ruleFlags &&& failureMarkUnbootable ≠ 0
  let next := { state with
    unbootableMask := if marks then state.unbootableMask ||| bit else state.unbootableMask
    knownGoodMask := if marks then without state.knownGoodMask bit else state.knownGoodMask
    pendingSlot :=
      if ruleFlags &&& failureClearPending ≠ 0 ∧ state.pendingSlot = slot then 0 else state.pendingSlot }
  let action := if primary = actionRetryCandidate ∧ (¬ trial ∨ attempts next slot = 0) then fallback
    else primary
  let action := if action = actionSafe ∧ next.safeAttemptedMask &&& bit ≠ 0 then fallback else action
  let action ← withPrevious policy next slot action
  let generation ← nextGeneration next
  let currentMode ← actionMode action
  return {
    action
    state := { next with
      flags := without state.flags stateInflight
      generation
      currentMode
      lastFailure := failureId
      bootNonce := 0
      inflightGeneration := 0
      inflightSlot := 0
      inflightMode := 0
      evidenceSequence := nextEvidence state } }

end PooleOS.Recovery
