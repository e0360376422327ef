import PooleOS.Lib.Bytes
import PooleOS.Lib.Masks
import PooleOS.Lib.Result

/- The PBTS1 state record (`native/trust/src/lib.rs`) and the two copies of it behind a
monotonic anchor (`native/trust/src/backend.rs`). -/
namespace PooleOS.Trust

/-- What `parse_state` answers. -/
inductive Error
  | stateTruncated
  | stateSize
  | stateMagic
  | stateVersion
  | stateFlags
  | stateCopy
  | stateCommit
  | stateAuthProfile
  | stateNumbers
  | stateDigest
  | statePrevious
  | stateBodyDigest
deriving DecidableEq, Repr

inductive BackendError
  | anchorAuthentication
  | anchorMonotonicity
  | anchorNumbers
  | requirements
  | anchorRollback
  | noAuthenticatedCopy
  | previousState
  | anchorDigest
  | futureState
  | stateRollback
  | backendWritable
  | repairCapacity
  | generationOverflow
  | migrationRollback
deriving DecidableEq, Repr

/-- `PBTS1`, padded with zeros. -/
def stateMagic : Bytes := [0x50, 0x42, 0x54, 0x53, 0x31, 0, 0, 0]
def majorVersion : Nat := 1
def minorVersion : Nat := 0
def stateBytes : Nat := 256
def stateBodyBytes : Nat := 224
def stateFlagDevelopmentCandidate : Nat := 1
def stateFlagCommitted : Nat := 2
def stateFlagAuthenticatedBackend : Nat := 4
def stateKnownFlags : Nat :=
  stateFlagDevelopmentCandidate ||| stateFlagCommitted ||| stateFlagAuthenticatedBackend
def copyCount : Nat := 2
def commitComplete : Nat := 1
def redundantCopyMask : Nat := 3
def transitionStepCount : Nat := 9
def u64Max : Nat := 2 ^ 64 - 1

/-- `POOLEOS/PBTS1/LOGICAL/V1`, and a zero. -/
def logicalDigestDomain : Bytes :=
  [0x50, 0x4f, 0x4f, 0x4c, 0x45, 0x4f, 0x53, 0x2f, 0x50, 0x42, 0x54, 0x53, 0x31, 0x2f, 0x4c, 0x4f,
    0x47, 0x49, 0x43, 0x41, 0x4c, 0x2f, 0x56, 0x31, 0]

structure State where
  flags : Nat
  copyIndex : Nat
  authProfile : Nat
  stateGeneration : Nat
  storeEpoch : Nat
  minimumSecureVersion : Nat
  acceptedManifestVersion : Nat
  acceptedPolicyVersion : Nat
  policySha256 : Bytes
  manifestSha256 : Bytes
  kernelSha256 : Bytes
  retainedSetSha256 : Bytes
  previousStateSha256 : Bytes
  bodySha256 : Bytes
  raw : Bytes
deriving DecidableEq, Repr

/-- `count_ones` of a `u16`. -/
def countOnes (value : Nat) : Nat := ((List.range 16).filter value.testBit).length

def parseState (sha : Sha256) (data : Bytes) : Except Error State := do
  demand (stateBytes ≤ data.length) .stateTruncated
  demand (data.length = stateBytes ∧ data.word 12 2 = stateBytes) .stateSize
  demand (data.take 8 = stateMagic) .stateMagic
  demand (data.word 8 2 = majorVersion ∧ data.word 10 2 = minorVersion) .stateVersion
  let flags := data.word 14 2
  let profileFlags := flags &&& (stateFlagDevelopmentCandidate ||| stateFlagAuthenticatedBackend)
  demand (without flags stateKnownFlags = 0 ∧ flags &&& stateFlagCommitted ≠ 0 ∧ countOnes profileFlags = 1) .stateFlags
  let copyIndex := data.word 16 1
  demand (copyIndex < copyCount ∧ data.word 17 1 = copyCount) .stateCopy
  demand (data.word 18 2 = commitComplete) .stateCommit
  let authProfile := data.word 20 2
  demand (data.word 22 2 = 0 ∧ (profileFlags = stateFlagDevelopmentCandidate → authProfile = 0) ∧
    (profileFlags = stateFlagAuthenticatedBackend → authProfile ≠ 0)) .stateAuthProfile
  let stateGeneration := data.word 24 8
  let storeEpoch := data.word 32 8
  let minimumSecureVersion := data.word 40 8
  let acceptedManifestVersion := data.word 48 8
  let acceptedPolicyVersion := data.word 56 8
  demand (stateGeneration ≠ 0 ∧ storeEpoch ≠ 0 ∧ minimumSecureVersion ≠ 0 ∧
    acceptedManifestVersion ≠ 0 ∧ acceptedPolicyVersion ≠ 0 ∧
    minimumSecureVersion ≤ acceptedManifestVersion) .stateNumbers
  let policySha256 := data.slice 64 32
  let manifestSha256 := data.slice 96 32
  let kernelSha256 := data.slice 128 32
  let retainedSetSha256 := data.slice 160 32
  demand (∀ value ∈ [policySha256, manifestSha256, kernelSha256, retainedSetSha256], ¬ value.allZero)
    .stateDigest
  let previousStateSha256 := data.slice 192 32
  demand (stateGeneration = 1 ↔ previousStateSha256.allZero) .statePrevious
  let bodySha256 := data.slice 224 32
  demand (sha.digest (data.take stateBodyBytes) = bodySha256) .stateBodyDigest
  return {
    flags, copyIndex, authProfile, stateGeneration, storeEpoch, minimumSecureVersion,
    acceptedManifestVersion, acceptedPolicyVersion, policySha256, manifestSha256, kernelSha256,
    retainedSetSha256, previousStateSha256, bodySha256, raw := data }

structure MonotonicAnchor where
  authenticated : Bool
  monotonic : Bool
  stateGeneration : Nat
  storeEpoch : Nat
  authProfile : Nat
  logicalStateSha256 : Bytes
  previousStateSha256 : Bytes
deriving DecidableEq, Repr

structure BackendRequirements where
  minimumStateGeneration : Nat
  minimumStoreEpoch : Nat
  targetStoreEpoch : Nat
  targetAuthProfile : Nat
deriving DecidableEq, Repr

structure BackendAccess where
  writable : Bool
  repairCapacity : Bool
deriving DecidableEq, Repr

structure BackendCopy where
  bytes : Option Bytes
  authenticationVerified : Bool
deriving DecidableEq, Repr

structure BackendSelection where
  selectedCopy : Nat
  presentCopyMask : Nat
  parsedCopyMask : Nat
  authenticatedCopyMask : Nat
  anchoredCopyMask : Nat
  repairCopyMask : Nat
  staleCopyMask : Nat
  futureCopyMask : Nat
  stateGeneration : Nat
  storeEpoch : Nat
  authProfile : Nat
  logicalStateSha256 : Bytes
  previousStateSha256 : Bytes
  targetStoreEpoch : Nat
  targetAuthProfile : Nat
  migrationRequired : Bool
  authorityGrants : Nat
  stateWrites : Nat
deriving DecidableEq, Repr

structure BackendTransitionPlan where
  sourceCopy : Nat
  targetCopy : Nat
  nextGeneration : Nat
  targetStoreEpoch : Nat
  targetAuthProfile : Nat
  previousStateSha256 : Bytes
  orderedStepCount : Nat
  stateWritesPerformed : Nat
  anchorWritesPerformed : Nat
  authorityGrants : Nat
deriving DecidableEq, Repr

structure Candidate where
  state : State
  logicalSha256 : Bytes
deriving DecidableEq, Repr

/-- Both copies of the state. -/
abbrev Copies : Type := Fin 2 → BackendCopy

/-- What `logical_state_sha256` hashes: all of the state but the copy that it is. -/
def logicalMessage (state : State) : Bytes :=
  let word := Bytes.ofWord
  logicalDigestDomain ++ word 2 majorVersion ++ word 2 minorVersion ++
    word 2 (stateFlagCommitted ||| stateFlagAuthenticatedBackend) ++ word 2 state.authProfile ++
    word 8 state.stateGeneration ++ word 8 state.storeEpoch ++ word 8 state.minimumSecureVersion ++
    word 8 state.acceptedManifestVersion ++ word 8 state.acceptedPolicyVersion ++
    state.policySha256 ++ state.manifestSha256 ++ state.kernelSha256 ++ state.retainedSetSha256 ++
    state.previousStateSha256

def logicalStateSha256 (sha : Sha256) (state : State) : Bytes := sha.digest (logicalMessage state)

def validateAnchor (anchor : MonotonicAnchor) (requirements : BackendRequirements) : Except BackendError Unit := do
  demand (anchor.authenticated = true) .anchorAuthentication
  demand (anchor.monotonic = true) .anchorMonotonicity
  demand (anchor.stateGeneration ≠ 0 ∧ anchor.storeEpoch ≠ 0 ∧ anchor.authProfile ≠ 0 ∧
    ¬ anchor.logicalStateSha256.allZero ∧
    (anchor.stateGeneration = 1 ↔ anchor.previousStateSha256.allZero)) .anchorNumbers
  demand (requirements.minimumStateGeneration ≠ 0 ∧ requirements.minimumStoreEpoch ≠ 0 ∧
    requirements.targetStoreEpoch ≠ 0 ∧ requirements.targetAuthProfile ≠ 0 ∧
    requirements.minimumStoreEpoch ≤ requirements.targetStoreEpoch ∧
    anchor.storeEpoch ≤ requirements.targetStoreEpoch) .requirements
  demand (requirements.minimumStateGeneration ≤ anchor.stateGeneration ∧
    requirements.minimumStoreEpoch ≤ anchor.storeEpoch) .anchorRollback

/-- What the loop over the copies of `select_backend_state` collects. -/
structure Scan where
  candidates : Fin 2 → Option Candidate
  presentMask : Nat
  parsedMask : Nat
  authenticatedMask : Nat
  anchoredMask : Nat
  staleMask : Nat
  futureMask : Nat
  previousMismatchMask : Nat
  digestMismatchMask : Nat

def Scan.empty : Scan where
  candidates := fun _ => none
  presentMask := 0
  parsedMask := 0
  authenticatedMask := 0
  anchoredMask := 0
  staleMask := 0
  futureMask := 0
  previousMismatchMask := 0
  digestMismatchMask := 0

/-- How an authenticated copy stands to the anchor. -/
def classify (anchor : MonotonicAnchor) (candidate : Candidate) (bit : Nat) (scan : Scan) : Scan :=
  let state := candidate.state
  if state.stateGeneration < anchor.stateGeneration ∨ state.storeEpoch < anchor.storeEpoch then
    { scan with staleMask := scan.staleMask ||| bit }
  else if anchor.stateGeneration < state.stateGeneration ∨ anchor.storeEpoch < state.storeEpoch then
    { scan with futureMask := scan.futureMask ||| bit }
  else if state.previousStateSha256 ≠ anchor.previousStateSha256 then
    { scan with previousMismatchMask := scan.previousMismatchMask ||| bit }
  else if state.authProfile ≠ anchor.authProfile ∨
      candidate.logicalSha256 ≠ anchor.logicalStateSha256 then
    { scan with digestMismatchMask := scan.digestMismatchMask ||| bit }
  else
    { scan with anchoredMask := scan.anchoredMask ||| bit }

/-- One round of the loop. -/
def examine (sha : Sha256) (copies : Copies) (anchor : MonotonicAnchor) (scan : Scan) (index : Fin 2) : Scan :=
  let bit := 1 <<< index.val
  match (copies index).bytes with
  | none => scan
  | some bytes =>
    let scan := { scan with presentMask := scan.presentMask ||| bit }
    match parseState sha bytes with
    | .error _ => scan
    | .ok state =>
      if state.copyIndex ≠ index.val then scan
      else
        let scan := { scan with parsedMask := scan.parsedMask ||| bit }
        if (copies index).authenticationVerified = false ∨
            state.flags &&& stateFlagAuthenticatedBackend = 0 then scan
        else
          let candidate := { state, logicalSha256 := logicalStateSha256 sha state }
          classify anchor candidate bit { scan with
            authenticatedMask := scan.authenticatedMask ||| bit
            candidates := Function.update scan.candidates index (some candidate) }

def scanCopies (sha : Sha256) (copies : Copies) (anchor : MonotonicAnchor) : Scan :=
  [(0 : Fin 2), 1].foldl (examine sha copies anchor) Scan.empty

/-- Why no copy is anchored. -/
def unanchored (scan : Scan) : BackendError :=
  if scan.previousMismatchMask ≠ 0 then .previousState
  else if scan.digestMismatchMask ≠ 0 then .anchorDigest
  else if scan.futureMask ≠ 0 then .futureState
  else if scan.staleMask ≠ 0 then .stateRollback
  else .noAuthenticatedCopy

def selectBackendState (sha : Sha256) (copies : Copies) (anchor : MonotonicAnchor) (requirements : BackendRequirements)
    (access : BackendAccess) : Except BackendError BackendSelection := do
  validateAnchor anchor requirements
  let scan := scanCopies sha copies anchor
  demand (scan.anchoredMask ≠ 0) (unanchored scan)
  demand (access.writable = true) .backendWritable
  let repairMask := without redundantCopyMask scan.anchoredMask
  demand (repairMask ≠ 0 → access.repairCapacity = true) .repairCapacity
  let selectedCopy : Fin 2 := if scan.anchoredMask &&& 1 ≠ 0 then 0 else 1
  let selected ← orError (scan.candidates selectedCopy) .anchorDigest
  return {
    selectedCopy := selectedCopy.val
    presentCopyMask := scan.presentMask
    parsedCopyMask := scan.parsedMask
    authenticatedCopyMask := scan.authenticatedMask
    anchoredCopyMask := scan.anchoredMask
    repairCopyMask := repairMask
    staleCopyMask := scan.staleMask
    futureCopyMask := scan.futureMask
    stateGeneration := selected.state.stateGeneration
    storeEpoch := selected.state.storeEpoch
    authProfile := selected.state.authProfile
    logicalStateSha256 := selected.logicalSha256
    previousStateSha256 := selected.state.previousStateSha256
    targetStoreEpoch := requirements.targetStoreEpoch
    targetAuthProfile := requirements.targetAuthProfile
    migrationRequired := decide (selected.state.storeEpoch < requirements.targetStoreEpoch ∨
      selected.state.authProfile ≠ requirements.targetAuthProfile)
    authorityGrants := 0
    stateWrites := 0 }

def planBackendTransition (selection : BackendSelection) : Except BackendError BackendTransitionPlan := do
  let anchoredMask := selection.anchoredCopyMask
  let expectedRepairMask := without redundantCopyMask anchoredMask
  let expectedMigration := decide (selection.storeEpoch < selection.targetStoreEpoch ∨
    selection.authProfile ≠ selection.targetAuthProfile)
  demand (selection.selectedCopy < 2 ∧ anchoredMask ≠ 0 ∧ without anchoredMask redundantCopyMask = 0 ∧
    anchoredMask &&& 1 <<< selection.selectedCopy ≠ 0 ∧
    selection.repairCopyMask = expectedRepairMask ∧ selection.stateGeneration ≠ 0 ∧
    selection.storeEpoch ≠ 0 ∧ selection.authProfile ≠ 0 ∧ ¬ selection.logicalStateSha256.allZero ∧
    (selection.stateGeneration = 1 ↔ selection.previousStateSha256.allZero) ∧
    selection.migrationRequired = expectedMigration ∧ selection.authorityGrants = 0 ∧
    selection.stateWrites = 0) .requirements
  demand (selection.storeEpoch ≤ selection.targetStoreEpoch ∧ selection.targetAuthProfile ≠ 0)
    .migrationRollback
  demand (selection.stateGeneration < u64Max) .generationOverflow
  return {
    sourceCopy := selection.selectedCopy
    targetCopy :=
      if selection.anchoredCopyMask = 1 then 1
      else if selection.anchoredCopyMask = 2 then 0
      else 1 - selection.selectedCopy
    nextGeneration := selection.stateGeneration + 1
    targetStoreEpoch := selection.targetStoreEpoch
    targetAuthProfile := selection.targetAuthProfile
    previousStateSha256 := selection.logicalStateSha256
    orderedStepCount := transitionStepCount
    stateWritesPerformed := 0
    anchorWritesPerformed := 0
    authorityGrants := 0 }

end PooleOS.Trust
