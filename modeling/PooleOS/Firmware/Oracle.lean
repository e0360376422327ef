import PooleOS.Firmware.Model

/- The oracle for PFWM1 (`runtime/native_firmware.py`). A code it raises is named like the
answer of the native parser. A digest, which it keeps as text, and text that decodes as ASCII
are bytes here. -/
namespace PooleOS.Firmware.Oracle

structure Component where
  componentId : Nat
  kind : Nat
  transport : Nat
  phase : Nat
  dependencyStart : Nat
  dependencyCount : Nat
  flags : Nat
  resourceGuid : Bytes
  hardwareInstance : Nat
  currentVersion : Nat
  targetVersion : Nat
  lowestSupportedVersion : Nat
  rollbackFloor : Nat
  knownGoodVersion : Nat
  externalPayloadBytes : Nat
  deviceIdentitySha256 : Bytes
  externalPayloadSha256 : Bytes
  vendorSignerSha256 : Bytes
  updaterPluginSha256 : Bytes
  recoveryIdentitySha256 : Bytes
deriving DecidableEq, Repr

structure Bundle where
  raw : Bytes
  manifestVersion : Nat
  manifestId : Bytes
  profile : Nat
  flags : Nat
  maximumExternalPayloadBytes : Nat
  maximumTransactionComponents : Nat
  requiredBatteryPercent : Nat
  retryLimit : Nat
  applyTimeoutMs : Nat
  resetTimeoutMs : Nat
  targetProfileSha256 : Bytes
  inventorySchemaSha256 : Bytes
  packagePolicySha256 : Bytes
  licenseManifestSha256 : Bytes
  revocationStateSha256 : Bytes
  recoveryProfileSha256 : Bytes
  updaterAllowlistSha256 : Bytes
  trustPolicySha256 : Bytes
  receiptSchemaSha256 : Bytes
  bodySha256 : Bytes
  components : List Component
  dependencies : List Dependency
deriving DecidableEq, Repr

def nonzeroDigest (data : Bytes) (offset : Nat) (reason : Error) : Except Error Bytes := do
  let value := data.slice offset 32
  demand (value.length = 32 ∧ ¬ value.allZero) reason
  return value

/-- `[A-Z0-9]`. -/
def isFirst (byte : UInt8) : Bool := isUppercase byte || isDigit byte

/-- `^[A-Z0-9][A-Z0-9._-]{0,38}$`. -/
def fullmatch : Bytes → Bool
  | [] => false
  | first :: rest =>
    isFirst first && decide (rest.length ≤ 38) && rest.all (fun byte => isFirst byte || isPunctuation byte)

/-- `_manifest_id`. -/
def manifestId (data : Bytes) : Except Error Bytes := do
  let field := data.slice 408 40
  let nul ← orError (field.findIdx? (· == 0)) .manifestId
  demand (¬ (nul = 0 ∨ ¬ Bytes.allZero (field.drop nul))) .manifestId
  let value := field.take nul
  demand (∀ byte ∈ value, byte < 0x80) .manifestId
  demand (fullmatch value) .manifestId
  return value

/-- `_parse_component`. -/
def parseComponent (data : Bytes) (offset : Nat) : Except Error Component := do
  let record := data.slice offset componentRecordBytes
  demand (record.length = componentRecordBytes) .truncated
  let componentId := record.word 0 4
  let kind := record.word 4 2
  let transport := record.word 6 2
  let phase := record.word 8 2
  let dependencyCount := record.word 10 2
  let dependencyStart := record.word 12 4
  let flags := record.word 16 4
  demand (componentId ≠ 0) .componentId
  demand (kind ∈ [kindPlatformFirmware, kindControllerFirmware, kindDeviceFirmware]) .componentKind
  demand (transport ∈ [transportUefiCapsuleEsrt, transportDevicePlugin, transportPldm]) .componentTransport
  demand (transportAllowed kind transport) .componentMapping
  demand (flags = componentRequiredFlags) .componentFlags
  demand (record.word 20 4 = 0) .componentReserved
  let resourceGuid := record.slice 24 16
  demand (¬ resourceGuid.allZero) .componentGuid
  let hardwareInstance := record.word 40 8
  demand (hardwareInstance ≠ 0) .componentHardwareInstance
  let currentVersion := record.word 48 8
  let targetVersion := record.word 56 8
  let lowestSupportedVersion := record.word 64 8
  let rollbackFloor := record.word 72 8
  let knownGoodVersion := record.word 80 8
  demand (0 < lowestSupportedVersion ∧ lowestSupportedVersion ≤ rollbackFloor ∧ rollbackFloor ≤ knownGoodVersion ∧
    knownGoodVersion ≤ currentVersion ∧ currentVersion < targetVersion) .componentVersions
  let externalPayloadBytes := record.word 88 8
  demand (¬ (externalPayloadBytes = 0 ∨ maxExternalPayloadBytes < externalPayloadBytes)) .componentPayloadSize
  return {
    componentId, kind, transport, phase, dependencyStart, dependencyCount, flags, resourceGuid, hardwareInstance,
    currentVersion, targetVersion, lowestSupportedVersion, rollbackFloor, knownGoodVersion, externalPayloadBytes
    deviceIdentitySha256 := ← nonzeroDigest record 96 .componentDigest
    externalPayloadSha256 := ← nonzeroDigest record 128 .componentDigest
    vendorSignerSha256 := ← nonzeroDigest record 160 .componentDigest
    updaterPluginSha256 := ← nonzeroDigest record 192 .componentDigest
    recoveryIdentitySha256 := ← nonzeroDigest record 224 .componentDigest }

/-- What the loop over the components carries. -/
structure Scan where
  previousKey : Option (Nat × Nat)
  resourceKeys : Finset (Bytes × Nat)
  componentIds : Finset Nat
  expectedDependencyStart : Nat
  seenPhases : Finset Nat
deriving DecidableEq

/-- `key <= other` of two tuples. -/
def keyLe (key other : Nat × Nat) : Prop := key.1 < other.1 ∨ (key.1 = other.1 ∧ key.2 ≤ other.2)

instance (key other : Nat × Nat) : Decidable (keyLe key other) := inferInstanceAs (Decidable (_ ∨ _))

/-- One round of the loop over the components. -/
def scanComponent (dependencyCount maximumExternalPayloadBytes : Nat) (scan : Scan) (component : Component) :
    Except Error Scan := do
  let key := (component.phase, component.componentId)
  demand (¬ ∃ previous ∈ scan.previousKey, keyLe key previous) .componentOrder
  demand (¬ maxComponents ≤ component.phase) .phaseOrder
  demand (component.componentId ∉ scan.componentIds) .componentId
  let resourceKey := (component.resourceGuid, component.hardwareInstance)
  demand (resourceKey ∉ scan.resourceKeys) .componentGuid
  demand (component.dependencyStart = scan.expectedDependencyStart) .dependencyLayout
  let expectedDependencyStart := scan.expectedDependencyStart + component.dependencyCount
  demand (¬ dependencyCount < expectedDependencyStart) .dependencyLayout
  demand (¬ maximumExternalPayloadBytes < component.externalPayloadBytes) .componentPayloadSize
  return {
    previousKey := some key
    resourceKeys := insert resourceKey scan.resourceKeys
    componentIds := insert component.componentId scan.componentIds
    expectedDependencyStart
    seenPhases := insert component.phase scan.seenPhases }

/-- `component_by_id.get(id)`; of two items with one key the later one stays. -/
def componentById (components : List Component) (componentId : Nat) : Option Component :=
  components.reverse.find? (fun item => item.componentId = componentId)

/-- One round of the loop over the dependencies. Two items of the dictionary are one object
when they have one key. -/
def parseDependency (data : Bytes) (dependencyOffset : Nat) (components : List Component)
    (dependencies : List Dependency) (index : Nat) : Except Error (List Dependency) := do
  let offset := dependencyOffset + index * dependencyRecordBytes
  let dependency : Dependency := ⟨data.word offset 4, data.word (offset + 4) 4, data.word (offset + 8) 8⟩
  let source ← orError (componentById components dependency.componentId) .dependencyId
  let required ← orError (componentById components dependency.requiredComponentId) .dependencyId
  demand (source.componentId ≠ required.componentId) .dependencyId
  let localIndex : Int := index - source.dependencyStart
  demand (0 ≤ localIndex ∧ localIndex < source.dependencyCount) .dependencyLayout
  demand (¬ (localIndex ≠ 0 ∧ ∃ last ∈ dependencies.getLast?,
    dependency.requiredComponentId ≤ last.requiredComponentId)) .dependencyOrder
  demand (dependency.minimumVersion = required.targetVersion) .dependencyVersion
  demand (¬ source.phase ≤ required.phase) .dependencyPhase
  return dependencies ++ [dependency]

variable (sha : Sha256)

/-- What `parse` reads before its loops. -/
def parseHeader (data : Bytes) : Except Error Bundle := do
  demand (headerBytes ≤ data.length) .truncated
  demand (¬ maxManifestBytes < data.length) .oversized
  demand (data.take 8 = magic) .magic
  demand ((data.word 8 2, data.word 10 2) = (majorVersion, minorVersion)) .version
  demand (data.word 12 2 = headerBytes) .headerSize
  demand (data.word 14 2 = componentRecordBytes ∧ data.word 16 2 = dependencyRecordBytes) .recordSize
  let profile := data.word 18 2
  demand (profile = profileSyntheticQualification) .profile
  let flags := data.word 20 4
  demand (flags = requiredFlags) .flags
  let manifestVersion := data.word 24 8
  demand (manifestVersion ≠ 0) .manifestVersion
  let componentCount := data.word 32 4
  let dependencyCount := data.word 36 4
  demand ((1 ≤ componentCount ∧ componentCount ≤ maxComponents) ∧ ¬ maxDependencies < dependencyCount) .counts
  let componentOffset := data.word 40 8
  let dependencyOffset := data.word 48 8
  let totalBytes := data.word 56 8
  let expectedDependencyOffset := headerBytes + componentCount * componentRecordBytes
  let expectedTotal := expectedDependencyOffset + dependencyCount * dependencyRecordBytes
  demand (componentOffset = headerBytes ∧ dependencyOffset = expectedDependencyOffset) .tableLayout
  demand (totalBytes = expectedTotal ∧ ¬ data.length < totalBytes) .truncated
  demand (¬ totalBytes < data.length) .trailingBytes
  let maximumExternalPayloadBytes := data.word 64 8
  let maximumTransactionComponents := data.word 72 4
  let requiredBatteryPercent := data.word 76 2
  let retryLimit := data.word 78 2
  let applyTimeoutMs := data.word 80 4
  let resetTimeoutMs := data.word 84 4
  demand (¬ (maximumExternalPayloadBytes = 0 ∨ maxExternalPayloadBytes < maximumExternalPayloadBytes ∨
    maximumTransactionComponents ≠ 1 ∨ ¬ (1 ≤ requiredBatteryPercent ∧ requiredBatteryPercent ≤ 100) ∨
    maxRetryLimit < retryLimit ∨ ¬ (1 ≤ applyTimeoutMs ∧ applyTimeoutMs ≤ maxApplyTimeoutMs) ∨
    ¬ (1 ≤ resetTimeoutMs ∧ resetTimeoutMs ≤ maxResetTimeoutMs))) .limits
  let targetProfileSha256 ← nonzeroDigest data 88 .digestZero
  let inventorySchemaSha256 ← nonzeroDigest data 120 .digestZero
  let packagePolicySha256 ← nonzeroDigest data 152 .digestZero
  let licenseManifestSha256 ← nonzeroDigest data 184 .digestZero
  let revocationStateSha256 ← nonzeroDigest data 216 .digestZero
  let recoveryProfileSha256 ← nonzeroDigest data 248 .digestZero
  let updaterAllowlistSha256 ← nonzeroDigest data 280 .digestZero
  let trustPolicySha256 ← nonzeroDigest data 312 .digestZero
  let receiptSchemaSha256 ← nonzeroDigest data 344 .digestZero
  let bodySha256 ← nonzeroDigest data 376 .digestZero
  let manifestId ← manifestId data
  demand ((data.slice 448 (headerBytes - 448)).allZero) .reserved
  demand (sha.digest (data.drop headerBytes) = bodySha256) .bodyDigest
  return {
    raw := data, manifestVersion, manifestId, profile, flags, maximumExternalPayloadBytes, maximumTransactionComponents
    requiredBatteryPercent, retryLimit, applyTimeoutMs, resetTimeoutMs, targetProfileSha256, inventorySchemaSha256
    packagePolicySha256, licenseManifestSha256, revocationStateSha256, recoveryProfileSha256, updaterAllowlistSha256
    trustPolicySha256, receiptSchemaSha256, bodySha256
    components := []
    dependencies := [] }

def parse (data : Bytes) : Except Error Bundle := do
  let header ← parseHeader sha data
  let componentCount := data.word 32 4
  let dependencyCount := data.word 36 4
  let components ← (List.range componentCount).mapM
    (fun index => parseComponent data (headerBytes + index * componentRecordBytes))
  let scan ← components.foldlM (scanComponent dependencyCount header.maximumExternalPayloadBytes)
    ⟨none, ∅, ∅, 0, ∅⟩
  demand (scan.expectedDependencyStart = dependencyCount) .dependencyLayout
  demand (scan.seenPhases = Finset.range (scan.seenPhases.sup id + 1)) .phaseOrder
  let dependencies ← (List.range dependencyCount).foldlM
    (parseDependency data (headerBytes + componentCount * componentRecordBytes) components) []
  return { header with components, dependencies }

end PooleOS.Firmware.Oracle
