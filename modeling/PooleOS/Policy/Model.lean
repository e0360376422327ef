import PooleOS.InitSys.Model

/- The PPOL1 policy bundle (`native/policy/src/lib.rs`): the six boot modes, the
capability rules, the binding to a launch bundle, and the dry-run decision. -/
namespace PooleOS.Policy

inductive Error
  | truncated
  | oversized
  | magic
  | version
  | recordSize
  | profile
  | flags
  | versionFloor
  | counts
  | requiredModes
  | tableLayout
  | trailingBytes
  | limits
  | defaultCeiling
  | digest
  | bodyDigest
  | policyId
  | reserved
  | modeOrder
  | modeFlags
  | modeReserved
  | modeCapabilityCount
  | modeEffects
  | modeProhibitedEffects
  | modeEvidence
  | modeResourceCeiling
  | modeCapabilityFlags
  | modeRights
  | modeArtifacts
  | modeTransitions
  | modeAudit
  | safeFloor
  | recoveryFloor
  | firmwareBoundary
  | capabilityOrder
  | capabilityParent
  | capabilityRoute
  | capabilityDeclaredRights
  | capabilityCeilingRights
  | capabilityDeclaredFlags
  | capabilityCeilingFlags
  | capabilityRevokeGroup
  | capabilityModes
  | capabilityEffects
  | capabilityAvailability
  | capabilityGeneration
  | capabilityParentAttenuation
  | pinitParse
  | pinitDigest
  | pinitCapabilityCount
  | pinitCapabilityRoute
  | pinitCapabilityAmplification
  | pinitCapabilityEffects
  | activationOuterSignature
  | activationOuterRole
  | activationOuterVersion
  | activationOuterPayloadDigest
  | activationOuterFileDigest
  | activationPolicySignature
  | activationManifestSignature
  | activationArtifactSignatures
  | activationTargetProfile
  | activationInitialSystemDigest
  | activationRecoveryDigest
  | activationSymbolsDigest
  | activationMicrocodeDigest
  | activationFirmwareDigest
  | activationTrustPolicy
  | activationRevocationState
  | activationRollbackState
  | activationAuditSchema
  | activationInnerContracts
  | activationInitialSystemCrossBinding
  | activationKernelAbi
  | activationPbp
  | activationMode
  | activationModeAuthority
  | activationTransitionAuthority
  | activationCapabilityAllocator
  | activationResourceBroker
  | activationAuditSink
  | activationReceiptStore
  | activationPhysicalPresence
  | activationSeparateAuthority
  | activationCapability
  | activationCapabilityMode
  | activationCapabilityRevoked
  | activationGeneration
  | activationIssuedRights
  | activationRequestedRights
  | activationRequestedEffects
  | activationNotQualificationOnly
  | activationLiveExecutionRequested
  | activationPersistentWriteRequested
  | activationFirmwareCallRequested
  | activationDriverLoadRequested
  | activationPhysicalMediaWriteRequested
  | activationStateMutationRequested
deriving DecidableEq, Repr

/-- `PPOL1`, padded with zeros. -/
def magic : Bytes := [0x50, 0x50, 0x4f, 0x4c, 0x31, 0, 0, 0]
def majorVersion : Nat := 1
def minorVersion : Nat := 0
def headerBytes : Nat := 512
def modeRecordBytes : Nat := 128
def capabilityRecordBytes : Nat := 64
def maxBundleBytes : Nat := 64 * 1024
def maxCapabilityRules : Nat := 256
def modeCount : Nat := 6
def outerRolePolicyBundle : Nat := 7
def profileSyntheticQualification : Nat := 1

def modeNormal : Nat := 1
def modeSafe : Nat := 2
def modePrevious : Nat := 3
def modeRecovery : Nat := 4
def modeDiagnostic : Nat := 5
def modeFirmware : Nat := 6
def allModeMask : Nat := 0x3f
/-- The modes normal, safe, previous and diagnostic. -/
def pinitModeMask : Nat := 0x17

def requiredFlags : Nat := 0x3fffff
def modeFlagDefaultDeny : Nat := 1
def modeFlagAuditRequired : Nat := 2
def modeFlagReceiptRequired : Nat := 4
def modeFlagQualificationOnly : Nat := 8
def modeFlagSafeFloor : Nat := 16
def modeFlagRecoveryFloor : Nat := 32
def modeFlagDisablePdc : Nat := 64
def modeFlagRecoveryIndependent : Nat := 128
def modeFlagPhysicalPresence : Nat := 256
def modeFlagSeparateAuthority : Nat := 512
def modeBaseFlags : Nat := modeFlagDefaultDeny ||| modeFlagAuditRequired ||| modeFlagReceiptRequired |||
  modeFlagQualificationOnly
def modeKnownFlags : Nat := 0x3ff

def effectAudit : Nat := 1
def effectReadState : Nat := 2
def effectWriteVolatile : Nat := 4
def effectWritePersistent : Nat := 8
def effectExecute : Nat := 16
def effectIpc : Nat := 32
def effectDeviceIo : Nat := 128
def effectPdcCompute : Nat := 1024
def effectPdcActuate : Nat := 2048
def effectPower : Nat := 32768
def knownEffects : Nat := 0xffff
def capabilityEffectCeiling : Nat := effectAudit ||| effectReadState ||| effectWriteVolatile |||
  effectExecute ||| effectIpc

def evidencePhysicalPresence : Nat := 0x1000
def evidenceSeparateAuthority : Nat := 0x2000
def knownEvidence : Nat := 0x3ffff
def baseEvidence : Nat := without knownEvidence (evidencePhysicalPresence ||| evidenceSeparateAuthority)
def artifactRoleMask : Nat := 0x7c
def knownRights : Nat := 0x1f
def knownCapabilityFlags : Nat := 0xf
def requiredCapabilityFlags : Nat := 0x9
def knownAuditEvents : Nat := 0x3f
def safeEffectFloor : Nat := effectAudit ||| effectReadState ||| effectWriteVolatile ||| effectExecute |||
  effectIpc ||| effectDeviceIo
def recoveryEffectFloor : Nat := safeEffectFloor ||| effectWritePersistent ||| effectPower

structure ModePolicy where
  mode : Nat
  flags : Nat
  allowedCapabilityCount : Nat
  allowedEffects : Nat
  requiredEvidence : Nat
  prohibitedEffects : Nat
  maxMemoryPages : Nat
  maxThreadSlots : Nat
  maxEndpointSlots : Nat
  maxRestarts : Nat
  maxPdcUnits : Nat
  maxNetworkSessions : Nat
  allowedCapabilityFlags : Nat
  allowedRights : Nat
  requiredArtifactMask : Nat
  transitionMask : Nat
  auditEventMask : Nat
  generation : Nat
deriving DecidableEq, Repr

structure CapabilityRule where
  capabilityId : Nat
  parentId : Nat
  holderServiceId : Nat
  resourceId : Nat
  declaredRights : Nat
  ceilingRights : Nat
  declaredFlags : Nat
  ceilingFlags : Nat
  revokeGroup : Nat
  allowedModeMask : Nat
  effectMask : Nat
  availability : Nat
  maxDerivations : Nat
  resourceGeneration : Nat
deriving DecidableEq, Repr

structure Bundle where
  raw : Bytes
  policyVersion : Nat
  minimumSecureVersion : Nat
  capabilityCount : Nat
  maxAuditReceipts : Nat
  maxGenerationAdvance : Nat
  defaultEffectCeiling : Nat
  targetProfileSha256 : Bytes
  initialSystemSha256 : Bytes
  recoverySha256 : Bytes
  symbolsSha256 : Bytes
  microcodeSha256 : Bytes
  firmwareSha256 : Bytes
  trustPolicySha256 : Bytes
  revocationSchemaSha256 : Bytes
  rollbackSchemaSha256 : Bytes
  auditSchemaSha256 : Bytes
  bodySha256 : Bytes
deriving DecidableEq, Repr

structure ActivationContext where
  outerRole : Nat
  outerVersion : Nat
  outerPayloadSha256 : Bytes
  outerFileSha256 : Bytes
  expectedOuterFileSha256 : Bytes
  selectedMode : Nat
  previousMode : Nat
  capabilityId : Nat
  issuedRights : Nat
  requestedRights : Nat
  requestedEffects : Nat
  issuedGeneration : Nat
  currentGeneration : Nat
  outerSignatureVerified : Bool
  policySignatureVerified : Bool
  manifestSignatureVerified : Bool
  artifactSignaturesVerified : Bool
  targetProfileVerified : Bool
  initialSystemDigestVerified : Bool
  recoveryDigestVerified : Bool
  symbolsDigestVerified : Bool
  microcodeDigestVerified : Bool
  firmwareDigestVerified : Bool
  trustPolicyAuthenticated : Bool
  revocationStateAuthenticated : Bool
  rollbackStateAuthenticated : Bool
  auditSchemaVerified : Bool
  innerContractsVerified : Bool
  initialSystemCrossBound : Bool
  kernelAbiVerified : Bool
  pbpVerified : Bool
  modeAuthorized : Bool
  transitionAuthorized : Bool
  capabilityAllocatorReady : Bool
  resourceBrokerReady : Bool
  auditSinkReady : Bool
  receiptStoreReady : Bool
  physicalPresenceVerified : Bool
  separateAuthorityVerified : Bool
  capabilityRevoked : Bool
  qualificationOnly : Bool
  liveExecutionRequested : Bool
  persistentWriteRequested : Bool
  firmwareCallRequested : Bool
  driverLoadRequested : Bool
  physicalMediaWriteRequested : Bool
  stateMutationRequested : Bool

structure DryRunDecision where
  policySha256 : Bytes
  mode : Nat
  capabilityId : Nat
  effectiveRights : Nat
  effectiveEffects : Nat
  modeGeneration : Nat
  capabilityGeneration : Nat
  allowedCapabilityCount : Nat
  auditReceiptRequired : Bool
  qualificationOnly : Bool
deriving DecidableEq, Repr

/-- A digest that must not be all zeros. -/
def readDigest (data : Bytes) (offset : Nat) (reason : Error) : Except Error Bytes := do
  demand (¬ (data.slice offset 32).allZero) reason
  return data.slice offset 32

def modeBit (mode : Nat) : Nat :=
  if modeNormal ≤ mode ∧ mode ≤ modeFirmware then 2 ^ (mode - 1) else 0

def isUppercase (byte : UInt8) : Bool := 0x41 ≤ byte && byte ≤ 0x5a
def isDigit (byte : UInt8) : Bool := 0x30 ≤ byte && byte ≤ 0x39
def isPunctuation (byte : UInt8) : Bool := byte == 0x2e || byte == 0x5f || byte == 0x2d

def validPolicyId (field : Bytes) : Bool :=
  let end' := field.findIdx (· == 0)
  decide (end' < field.length ∧ end' ≠ 0 ∧ end' ≤ 39) && Bytes.allZero (field.drop end') &&
    (field.take end').zipIdx.all (fun (byte, index) =>
      isUppercase byte || isDigit byte || (decide (0 < index) && isPunctuation byte))

def parseMode (record : Bytes) (expected capabilityCount : Nat) : Except Error ModePolicy := do
  demand (record.length = modeRecordBytes) .truncated
  let mode := record.word 0 2
  let flags := record.word 2 2
  let allowedCapabilityCount := record.word 4 2
  demand (mode = expected) .modeOrder
  demand (without flags modeKnownFlags = 0 ∧ flags &&& modeBaseFlags = modeBaseFlags) .modeFlags
  demand (record.word 6 2 = 0 ∧ Bytes.allZero (record.drop 88)) .modeReserved
  demand (allowedCapabilityCount ≤ capabilityCount) .modeCapabilityCount
  let allowedEffects := record.word 8 8
  let requiredEvidence := record.word 16 8
  let prohibitedEffects := record.word 24 8
  demand (allowedEffects ≠ 0 ∧ without allowedEffects knownEffects = 0) .modeEffects
  demand (prohibitedEffects = knownEffects ^^^ allowedEffects) .modeProhibitedEffects
  let firmwareEvidence := evidencePhysicalPresence ||| evidenceSeparateAuthority
  let expectedEvidence := baseEvidence ||| if mode = modeFirmware then firmwareEvidence else 0
  demand (requiredEvidence = expectedEvidence) .modeEvidence
  let maxMemoryPages := record.word 32 4
  let maxThreadSlots := record.word 36 4
  let maxEndpointSlots := record.word 40 4
  let maxRestarts := record.word 44 4
  let maxPdcUnits := record.word 48 4
  let maxNetworkSessions := record.word 52 4
  demand (maxMemoryPages ≤ 65536 ∧ maxThreadSlots ≤ 1024 ∧ maxEndpointSlots ≤ 4096 ∧ maxRestarts ≤ 1024 ∧
    maxPdcUnits ≤ 1024 ∧ maxNetworkSessions ≤ 4096) .modeResourceCeiling
  let allowedCapabilityFlags := record.word 56 4
  let allowedRights := record.word 60 4
  let requiredArtifactMask := record.word 64 4
  let transitionMask := record.word 68 4
  let auditEventMask := record.word 72 8
  let generation := record.word 80 8
  demand (without allowedCapabilityFlags knownCapabilityFlags = 0) .modeCapabilityFlags
  demand (without allowedRights knownRights = 0 ∧ (allowedCapabilityCount = 0 ↔ allowedRights = 0)) .modeRights
  demand (requiredArtifactMask = artifactRoleMask) .modeArtifacts
  demand (transitionMask ≠ 0 ∧ without transitionMask allModeMask = 0) .modeTransitions
  demand (auditEventMask = knownAuditEvents ∧ generation ≠ 0) .modeAudit
  let safeFlags := modeFlagSafeFloor ||| modeFlagDisablePdc
  demand (¬ (mode = modeSafe ∧ (flags &&& safeFlags ≠ safeFlags ∨ without allowedEffects safeEffectFloor ≠ 0)))
    .safeFloor
  let recoveryFlags := modeFlagRecoveryFloor ||| modeFlagDisablePdc ||| modeFlagRecoveryIndependent
  demand (¬ (mode = modeRecovery ∧ (flags &&& recoveryFlags ≠ recoveryFlags ∨
    without allowedEffects recoveryEffectFloor ≠ 0 ∨ allowedCapabilityCount ≠ 0 ∨ allowedRights ≠ 0)))
    .recoveryFloor
  let firmwareFlags := modeFlagPhysicalPresence ||| modeFlagSeparateAuthority ||| modeFlagDisablePdc
  demand (¬ (mode = modeFirmware ∧ (flags &&& firmwareFlags ≠ firmwareFlags ∨ allowedCapabilityCount ≠ 0 ∨
    allowedRights ≠ 0))) .firmwareBoundary
  demand (¬ (mode ≠ modeFirmware ∧ flags &&& (modeFlagPhysicalPresence ||| modeFlagSeparateAuthority) ≠ 0))
    .modeFlags
  return {
    mode, flags, allowedCapabilityCount, allowedEffects, requiredEvidence, prohibitedEffects, maxMemoryPages,
    maxThreadSlots, maxEndpointSlots, maxRestarts, maxPdcUnits, maxNetworkSessions, allowedCapabilityFlags,
    allowedRights, requiredArtifactMask, transitionMask, auditEventMask, generation }

/-- A child has no more than its parent. -/
def checkAttenuation (rule parent : CapabilityRule) : Except Error Unit :=
  demand (without rule.ceilingRights parent.ceilingRights = 0 ∧ without rule.ceilingFlags parent.ceilingFlags = 0 ∧
    without rule.allowedModeMask parent.allowedModeMask = 0 ∧ without rule.effectMask parent.effectMask = 0)
    .capabilityParentAttenuation

/-- `parse_rule`, given how the bundle reads the parent by its index. -/
def parseRule (record : Bytes) (expected : Nat) (capability : Nat → Except Error CapabilityRule) :
    Except Error CapabilityRule := do
  demand (record.length = capabilityRecordBytes) .truncated
  let capabilityId := record.word 0 4
  let parentId := record.word 4 4
  let holderServiceId := record.word 8 4
  let resourceId := record.word 12 4
  demand (capabilityId = expected) .capabilityOrder
  demand (parentId < capabilityId) .capabilityParent
  demand (holderServiceId ≠ 0 ∧ resourceId ≠ 0) .capabilityRoute
  let declaredRights := record.word 16 8
  let ceilingRights := record.word 24 8
  demand (declaredRights ≠ 0 ∧ without declaredRights knownRights = 0) .capabilityDeclaredRights
  demand (ceilingRights ≠ 0 ∧ without ceilingRights declaredRights = 0) .capabilityCeilingRights
  let declaredFlags := record.word 32 4
  let ceilingFlags := record.word 36 4
  let revokeGroup := record.word 40 4
  let allowedModeMask := record.word 44 4
  demand (without declaredFlags knownCapabilityFlags = 0 ∧
    declaredFlags &&& requiredCapabilityFlags = requiredCapabilityFlags) .capabilityDeclaredFlags
  demand (without ceilingFlags declaredFlags = 0 ∧
    ceilingFlags &&& requiredCapabilityFlags = requiredCapabilityFlags) .capabilityCeilingFlags
  demand (revokeGroup ≠ 0) .capabilityRevokeGroup
  demand (allowedModeMask ≠ 0 ∧ without allowedModeMask allModeMask = 0 ∧
    without allowedModeMask pinitModeMask = 0) .capabilityModes
  let effectMask := record.word 48 8
  let availability := record.word 56 2
  let maxDerivations := record.word 58 2
  let resourceGeneration := record.word 60 4
  demand (effectMask ≠ 0 ∧ without effectMask capabilityEffectCeiling = 0) .capabilityEffects
  demand (availability = 1 ∨ availability = 2) .capabilityAvailability
  demand (resourceGeneration ≠ 0) .capabilityGeneration
  let result : CapabilityRule := {
    capabilityId, parentId, holderServiceId, resourceId, declaredRights, ceilingRights, declaredFlags,
    ceilingFlags, revokeGroup, allowedModeMask, effectMask, availability, maxDerivations, resourceGeneration }
  if parentId ≠ 0 then
    checkAttenuation result (← capability (parentId - 1))
  return result

namespace Bundle

def modeRecord (bundle : Bundle) (index : Nat) : Bytes :=
  bundle.raw.slice (headerBytes + index * modeRecordBytes) modeRecordBytes

def capabilityRecord (bundle : Bundle) (index : Nat) : Bytes :=
  bundle.raw.slice (headerBytes + modeCount * modeRecordBytes + index * capabilityRecordBytes)
    capabilityRecordBytes

def mode (bundle : Bundle) (index : Nat) : Except Error ModePolicy := do
  demand (index < modeCount) .modeOrder
  parseMode (bundle.modeRecord index) (index + 1) bundle.capabilityCount

/-- `capability` with a bound on how deep the parents are followed. A parent has a smaller
number than its child, so that a rule is never deeper than its index. -/
def capabilityWithin (bundle : Bundle) : Nat → Nat → Except Error CapabilityRule
  | 0, _ => .error .capabilityParent
  | depth + 1, index => do
      demand (index < bundle.capabilityCount) .capabilityOrder
      parseRule (bundle.capabilityRecord index) (index + 1) (bundle.capabilityWithin depth)

def capability (bundle : Bundle) (index : Nat) : Except Error CapabilityRule :=
  bundle.capabilityWithin (index + 1) index

/-- How many rules allow the mode. -/
def countRules (bundle : Bundle) (mode : Nat) : Except Error Nat :=
  (List.range bundle.capabilityCount).foldlM (fun actual index => do
    let rule ← bundle.capability index
    return if rule.allowedModeMask &&& modeBit mode ≠ 0 then actual + 1 else actual) 0

def checkModeCount (bundle : Bundle) (index : Nat) : Except Error Unit := do
  let mode ← bundle.mode index
  let actual ← bundle.countRules mode.mode
  demand (actual = mode.allowedCapabilityCount) .modeCapabilityCount

end Bundle

variable (sha : Sha256)

def parse (data : Bytes) : Except Error Bundle := do
  demand (headerBytes ≤ data.length) .truncated
  demand (data.length ≤ maxBundleBytes) .oversized
  demand (data.take 8 = magic) .magic
  demand (data.word 8 2 = majorVersion ∧ data.word 10 2 = minorVersion) .version
  demand (data.word 12 2 = headerBytes ∧ data.word 14 2 = modeRecordBytes ∧ data.word 16 2 = capabilityRecordBytes)
    .recordSize
  demand (data.word 18 2 = profileSyntheticQualification) .profile
  demand (data.word 20 4 = requiredFlags) .flags
  let policyVersion := data.word 24 8
  let minimumSecureVersion := data.word 32 8
  demand (policyVersion ≠ 0 ∧ minimumSecureVersion ≠ 0 ∧ minimumSecureVersion ≤ policyVersion) .versionFloor
  let capabilityCount := data.word 42 2
  demand (data.word 40 2 = modeCount ∧ capabilityCount ≠ 0 ∧ capabilityCount ≤ maxCapabilityRules) .counts
  demand (data.word 44 4 = allModeMask) .requiredModes
  let modeOffset := data.word 48 8
  let capabilityOffset := data.word 56 8
  let totalBytes := data.word 64 8
  let expectedCapabilityOffset := headerBytes + modeCount * modeRecordBytes
  let expectedTotal := expectedCapabilityOffset + capabilityCount * capabilityRecordBytes
  demand (modeOffset = headerBytes ∧ capabilityOffset = expectedCapabilityOffset) .tableLayout
  demand (totalBytes ≤ data.length) .truncated
  demand (totalBytes = expectedTotal) .tableLayout
  demand (data.length ≤ totalBytes) .trailingBytes
  let maxAuditReceipts := data.word 72 4
  let maxGenerationAdvance := data.word 76 4
  let defaultEffectCeiling := data.word 80 8
  demand ((1 ≤ maxAuditReceipts ∧ maxAuditReceipts ≤ 1000000) ∧ maxGenerationAdvance = 1) .limits
  demand (defaultEffectCeiling = knownEffects ∧ data.word 88 8 = 0) .defaultCeiling
  let targetProfileSha256 ← readDigest data 96 .digest
  let initialSystemSha256 ← readDigest data 128 .digest
  let recoverySha256 ← readDigest data 160 .digest
  let symbolsSha256 ← readDigest data 192 .digest
  let microcodeSha256 ← readDigest data 224 .digest
  let firmwareSha256 ← readDigest data 256 .digest
  let trustPolicySha256 ← readDigest data 288 .digest
  let revocationSchemaSha256 ← readDigest data 320 .digest
  let rollbackSchemaSha256 ← readDigest data 352 .digest
  let auditSchemaSha256 ← readDigest data 384 .digest
  let bodySha256 ← readDigest data 416 .bodyDigest
  demand (sha.digest (data.drop headerBytes) = bodySha256) .bodyDigest
  demand (validPolicyId (data.slice 448 40)) .policyId
  demand (data.slice 488 (headerBytes - 488)).allZero .reserved
  let bundle : Bundle := {
    raw := data, policyVersion, minimumSecureVersion, capabilityCount, maxAuditReceipts, maxGenerationAdvance,
    defaultEffectCeiling, targetProfileSha256, initialSystemSha256, recoverySha256, symbolsSha256,
    microcodeSha256, firmwareSha256, trustPolicySha256, revocationSchemaSha256, rollbackSchemaSha256,
    auditSchemaSha256, bodySha256 }
  (List.range modeCount).forM (fun index => do let _ ← bundle.mode index)
  (List.range capabilityCount).forM (fun index => do let _ ← bundle.capability index)
  (List.range modeCount).forM bundle.checkModeCount
  return bundle

def pinitResourceEffects (rights kind : Nat) : Nat :=
  let effects := (if kind = 5 then effectAudit else 0) |||
    (if rights &&& 1 ≠ 0 then effectReadState else 0) |||
    (if rights &&& 2 ≠ 0 ∧ kind ≠ 5 then effectWriteVolatile else 0) |||
    (if rights &&& 4 ≠ 0 ∧ kind = 2 then effectExecute else 0) |||
    (if rights &&& 4 ≠ 0 ∧ kind = 3 then effectIpc else 0)
  if effects = 0 then effectAudit else effects

/-- One round of the comparison of a rule with the capability of the launch bundle. -/
def checkPinitCapability (bundle : Bundle) (initial : InitSys.Bundle) (bytes : Bytes) (index : Nat) :
    Except Error Unit := do
  let rule ← bundle.capability index
  let cap ← orError (bytes.range? (bytes.word 84 4 + index * InitSys.capabilityBytes)
    (bytes.word 84 4 + index * InitSys.capabilityBytes + InitSys.capabilityBytes)) .pinitParse
  let resourceId := cap.word 12 4
  demand (resourceId ≠ 0 ∧ resourceId ≤ initial.resourceCount) .pinitCapabilityRoute
  let resourceStart := bytes.word 80 4 + (resourceId - 1) * InitSys.resourceBytes
  let resource ← orError (bytes.range? resourceStart (resourceStart + InitSys.resourceBytes)) .pinitParse
  demand (rule.capabilityId = cap.word 0 4 ∧ rule.parentId = cap.word 4 4 ∧ rule.holderServiceId = cap.word 8 4 ∧
    rule.resourceId = resourceId ∧ rule.declaredRights = cap.word 16 8 ∧ rule.declaredFlags = cap.word 24 4 ∧
    rule.revokeGroup = cap.word 28 4 ∧ rule.availability = cap.word 38 2 ∧ rule.maxDerivations = cap.word 36 2 ∧
    rule.resourceGeneration = resource.word 40 4) .pinitCapabilityRoute
  demand (without rule.ceilingRights (cap.word 16 8) = 0 ∧ without rule.ceilingFlags (cap.word 24 4) = 0)
    .pinitCapabilityAmplification
  demand (rule.effectMask = pinitResourceEffects (cap.word 16 8) (resource.word 14 2)) .pinitCapabilityEffects

/-- `validate_initial_system` after the launch bundle is parsed. -/
def checkInitialSystem (bundle : Bundle) (bytes : Bytes) (initial : InitSys.Bundle) : Except Error Unit := do
  demand (sha.digest bytes = bundle.initialSystemSha256) .pinitDigest
  demand (initial.capabilityCount = bundle.capabilityCount) .pinitCapabilityCount
  (List.range bundle.capabilityCount).forM (checkPinitCapability bundle initial bytes)

/-- A panic of the parser of launch bundles is not an error that `map_err` turns. -/
def validateInitialSystem (bundle : Bundle) (bytes : Bytes) : Outcome Error Unit :=
  match InitSys.parse sha bytes with
  | .ok initial => (checkInitialSystem sha bundle bytes initial).mapError .refused
  | .error (.refused _) => .error (.refused .pinitParse)
  | .error .panicked => .error .panicked

def modePolicy (bundle : Bundle) (mode : Nat) : Except Error ModePolicy := do
  demand (modeNormal ≤ mode ∧ mode ≤ modeFirmware) .activationMode
  bundle.mode (mode - 1)

def capabilityRule (bundle : Bundle) (capabilityId : Nat) : Except Error CapabilityRule := do
  demand (capabilityId ≠ 0 ∧ capabilityId ≤ bundle.capabilityCount) .activationCapability
  bundle.capability (capabilityId - 1)

/-- A list of conditions with the error of each: the first that fails decides. -/
def checkAll (checks : List (Bool × Error)) : Except Error Unit :=
  checks.forM (fun check => demand (check.1 = true) check.2)

/-- The evidence that does not depend on the mode. -/
def evidenceChecks (bundle : Bundle) (context : ActivationContext) : List (Bool × Error) :=
  [(context.outerSignatureVerified, .activationOuterSignature),
    (context.outerRole == outerRolePolicyBundle, .activationOuterRole),
    (context.outerVersion == bundle.policyVersion, .activationOuterVersion),
    (context.outerPayloadSha256 == sha.digest bundle.raw, .activationOuterPayloadDigest),
    (context.outerFileSha256 == context.expectedOuterFileSha256, .activationOuterFileDigest),
    (context.policySignatureVerified, .activationPolicySignature),
    (context.manifestSignatureVerified, .activationManifestSignature),
    (context.artifactSignaturesVerified, .activationArtifactSignatures),
    (context.targetProfileVerified, .activationTargetProfile),
    (context.initialSystemDigestVerified, .activationInitialSystemDigest),
    (context.recoveryDigestVerified, .activationRecoveryDigest),
    (context.symbolsDigestVerified, .activationSymbolsDigest),
    (context.microcodeDigestVerified, .activationMicrocodeDigest),
    (context.firmwareDigestVerified, .activationFirmwareDigest),
    (context.trustPolicyAuthenticated, .activationTrustPolicy),
    (context.revocationStateAuthenticated, .activationRevocationState),
    (context.rollbackStateAuthenticated, .activationRollbackState),
    (context.auditSchemaVerified, .activationAuditSchema),
    (context.innerContractsVerified, .activationInnerContracts),
    (context.initialSystemCrossBound, .activationInitialSystemCrossBinding),
    (context.kernelAbiVerified, .activationKernelAbi),
    (context.pbpVerified, .activationPbp)]

def serviceChecks (context : ActivationContext) : List (Bool × Error) :=
  [(context.capabilityAllocatorReady, .activationCapabilityAllocator),
    (context.resourceBrokerReady, .activationResourceBroker),
    (context.auditSinkReady, .activationAuditSink),
    (context.receiptStoreReady, .activationReceiptStore)]

def requestChecks (context : ActivationContext) : List (Bool × Error) :=
  [(context.qualificationOnly, .activationNotQualificationOnly),
    (!context.liveExecutionRequested, .activationLiveExecutionRequested),
    (!context.persistentWriteRequested, .activationPersistentWriteRequested),
    (!context.firmwareCallRequested, .activationFirmwareCallRequested),
    (!context.driverLoadRequested, .activationDriverLoadRequested),
    (!context.physicalMediaWriteRequested, .activationPhysicalMediaWriteRequested),
    (!context.stateMutationRequested, .activationStateMutationRequested)]

/-- A decision without a capability. -/
def checkNoCapability (mode : ModePolicy) (context : ActivationContext) : Except Error Unit := do
  demand (mode.allowedCapabilityCount = 0) .activationCapability
  demand (context.capabilityRevoked = false) .activationCapabilityRevoked
  demand (context.issuedGeneration = 0 ∧ context.currentGeneration = 0) .activationGeneration
  demand (context.issuedRights = 0 ∧ context.requestedRights = 0) .activationIssuedRights
  demand (context.requestedEffects ≠ 0 ∧ without context.requestedEffects mode.allowedEffects = 0)
    .activationRequestedEffects

/-- A decision about a capability. -/
def checkCapability (bundle : Bundle) (mode : ModePolicy) (context : ActivationContext) : Except Error Unit := do
  let rule ← (capabilityRule bundle context.capabilityId).mapError (fun _ => .activationCapability)
  demand (rule.allowedModeMask &&& modeBit context.selectedMode ≠ 0) .activationCapabilityMode
  demand (context.capabilityRevoked = false) .activationCapabilityRevoked
  demand (context.issuedGeneration = rule.resourceGeneration ∧
    context.currentGeneration = rule.resourceGeneration) .activationGeneration
  let ceiling := rule.ceilingRights &&& mode.allowedRights
  demand (context.issuedRights ≠ 0 ∧ without context.issuedRights ceiling = 0) .activationIssuedRights
  demand (context.requestedRights ≠ 0 ∧ without context.requestedRights context.issuedRights = 0)
    .activationRequestedRights
  demand (context.requestedEffects ≠ 0 ∧
    without context.requestedEffects (rule.effectMask &&& mode.allowedEffects) = 0) .activationRequestedEffects

/-- `activation_error`; an error that it finds is `Some`. -/
def activationError (bundle : Bundle) (context : ActivationContext) : Except Error Unit := do
  checkAll (evidenceChecks sha bundle context)
  let mode ← (modePolicy bundle context.selectedMode).mapError (fun _ => .activationMode)
  demand (context.modeAuthorized = true) .activationModeAuthority
  demand (context.transitionAuthorized = true ∧ mode.transitionMask &&& modeBit context.previousMode ≠ 0)
    .activationTransitionAuthority
  checkAll (serviceChecks context)
  demand (¬ (context.selectedMode = modeFirmware ∧ context.physicalPresenceVerified = false))
    .activationPhysicalPresence
  demand (¬ (context.selectedMode = modeFirmware ∧ context.separateAuthorityVerified = false))
    .activationSeparateAuthority
  if context.capabilityId = 0 then checkNoCapability mode context
  else checkCapability bundle mode context
  checkAll (requestChecks context)

/-- The rights, the effects and the generation of a decision. -/
def effective (bundle : Bundle) (mode : ModePolicy) (context : ActivationContext) : Except Error (Nat × Nat × Nat) := do
  if context.capabilityId = 0 then
    return (0, context.requestedEffects &&& mode.allowedEffects, 0)
  else
    let rule ← capabilityRule bundle context.capabilityId
    return (context.requestedRights &&& context.issuedRights &&& rule.ceilingRights &&& mode.allowedRights,
      context.requestedEffects &&& rule.effectMask &&& mode.allowedEffects, rule.resourceGeneration)

def authorizeDryRunDecision (bundle : Bundle) (context : ActivationContext) : Except Error DryRunDecision := do
  activationError sha bundle context
  let mode ← modePolicy bundle context.selectedMode
  let (rights, effects, generation) ← effective bundle mode context
  return {
    policySha256 := sha.digest bundle.raw
    mode := mode.mode
    capabilityId := context.capabilityId
    effectiveRights := rights
    effectiveEffects := effects
    modeGeneration := mode.generation
    capabilityGeneration := generation
    allowedCapabilityCount := mode.allowedCapabilityCount
    auditReceiptRequired := true
    qualificationOnly := true }

end PooleOS.Policy
