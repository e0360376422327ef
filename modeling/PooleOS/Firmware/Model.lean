import PooleOS.Lib.Bytes
import PooleOS.Lib.Result

/- The PFWM1 firmware manifest (`native/firmware/src/lib.rs`). The reads of the header come
after the check of its length, so they are total here. -/
namespace PooleOS.Firmware

/-- What `parse` answers. -/
inductive Error
  | truncated
  | oversized
  | magic
  | version
  | headerSize
  | recordSize
  | profile
  | flags
  | manifestVersion
  | counts
  | tableLayout
  | trailingBytes
  | limits
  | digestZero
  | manifestId
  | reserved
  | bodyDigest
  | componentId
  | componentOrder
  | componentKind
  | componentTransport
  | componentMapping
  | componentFlags
  | componentReserved
  | componentGuid
  | componentHardwareInstance
  | componentVersions
  | componentPayloadSize
  | componentDigest
  | dependencyLayout
  | dependencyId
  | dependencyOrder
  | dependencyVersion
  | dependencyPhase
  | phaseOrder
deriving DecidableEq, Repr

/-- `PFWM1`, padded with zeros. -/
def magic : Bytes := [0x50, 0x46, 0x57, 0x4d, 0x31, 0, 0, 0]
def majorVersion : Nat := 1
def minorVersion : Nat := 0
def headerBytes : Nat := 512
def componentRecordBytes : Nat := 256
def dependencyRecordBytes : Nat := 16
def maxManifestBytes : Nat := 64 * 1024
def maxComponents : Nat := 32
def maxDependencies : Nat := 128
def maxExternalPayloadBytes : Nat := 64 * 1024 * 1024
def maxApplyTimeoutMs : Nat := 30 * 60 * 1000
def maxResetTimeoutMs : Nat := 15 * 60 * 1000
def maxRetryLimit : Nat := 3

def profileSyntheticQualification : Nat := 1

def kindPlatformFirmware : Nat := 1
def kindControllerFirmware : Nat := 2
def kindDeviceFirmware : Nat := 3
def transportUefiCapsuleEsrt : Nat := 1
def transportDevicePlugin : Nat := 2
def transportPldm : Nat := 3

def requiredFlags : Nat := (1 <<< 20) - 1
def componentRequiredFlags : Nat := (1 <<< 19) - 1

structure Component where
  componentId : Nat
  kind : Nat
  transport : Nat
  phase : Nat
  dependencyCount : Nat
  dependencyStart : Nat
  flags : Nat
  resourceGuid : Bytes
  hardwareInstance : Nat
  currentVersion : Nat
  targetVersion : Nat
  lowestSupportedVersion : Nat
  rollbackFloor : Nat
  knownGoodVersion : Nat
  externalPayloadBytes : Nat
deriving DecidableEq, Repr

structure Dependency where
  componentId : Nat
  requiredComponentId : Nat
  minimumVersion : Nat
deriving DecidableEq, Repr

structure Bundle where
  raw : Bytes
  manifestVersion : Nat
  profile : Nat
  flags : Nat
  componentCount : Nat
  dependencyCount : Nat
  maximumExternalPayloadBytes : Nat
  maximumTransactionComponents : Nat
  requiredBatteryPercent : Nat
  retryLimit : Nat
  applyTimeoutMs : Nat
  resetTimeoutMs : Nat
  bodySha256 : Bytes
deriving DecidableEq, Repr

section Checks

def isUppercase (byte : UInt8) : Bool := 0x41 ≤ byte && byte ≤ 0x5a
def isDigit (byte : UInt8) : Bool := 0x30 ≤ byte && byte ≤ 0x39
def isPunctuation (byte : UInt8) : Bool := byte == 0x2e || byte == 0x5f || byte == 0x2d

def digestNonzero (bytes : Bytes) (offset : Nat) (reason : Error) : Except Error Unit := do
  let value ← orError (bytes.range? offset (offset + 32)) .truncated
  demand (¬ value.allZero) reason

def manifestIdValid (bytes : Bytes) : Bool :=
  match bytes.range? 408 448 with
  | none => false
  | some field =>
    match field.findIdx? (· == 0) with
    | none => false
    | some nul =>
      if nul = 0 ∨ 39 < nul ∨ ¬ Bytes.allZero (field.drop nul) then false
      else (field.take nul).zipIdx.all (fun item =>
        isUppercase item.1 || isDigit item.1 || (decide (0 < item.2) && isPunctuation item.1))

def transportAllowed (kind transport : Nat) : Prop :=
  (kind = kindPlatformFirmware ∧ transport = transportUefiCapsuleEsrt) ∨
    (kind = kindControllerFirmware ∧ transport = transportDevicePlugin) ∨
    (kind = kindDeviceFirmware ∧ (transport = transportDevicePlugin ∨ transport = transportPldm))

instance (kind transport : Nat) : Decidable (transportAllowed kind transport) :=
  inferInstanceAs (Decidable (_ ∨ _))

def parseComponent (bytes : Bytes) (offset : Nat) : Except Error Component := do
  let record ← orError (bytes.range? offset (offset + componentRecordBytes)) .truncated
  let componentId := record.word 0 4
  let kind := record.word 4 2
  let transport := record.word 6 2
  let phase := record.word 8 2
  let dependencyCount := record.word 10 2
  let dependencyStart := record.word 12 4
  let flags := record.word 16 4
  demand (componentId ≠ 0) .componentId
  demand (kind = kindPlatformFirmware ∨ kind = kindControllerFirmware ∨ kind = kindDeviceFirmware) .componentKind
  demand (transport = transportUefiCapsuleEsrt ∨ transport = transportDevicePlugin ∨ transport = transportPldm)
    .componentTransport
  demand (transportAllowed kind transport) .componentMapping
  demand (flags = componentRequiredFlags) .componentFlags
  demand (record.word 20 4 = 0) .componentReserved
  let resourceGuid := record.slice 24 16
  demand (¬ resourceGuid.allZero) .componentGuid
  let hardwareInstance := record.word 40 8
  demand (hardwareInstance ≠ 0) .componentHardwareInstance
  let currentVersion := record.word 48 8
  let targetVersion := record.word 56 8
  let lowestSupportedVersion := record.word 64 8
  let rollbackFloor := record.word 72 8
  let knownGoodVersion := record.word 80 8
  demand (0 < lowestSupportedVersion ∧ lowestSupportedVersion ≤ rollbackFloor ∧ rollbackFloor ≤ knownGoodVersion ∧
    knownGoodVersion ≤ currentVersion ∧ currentVersion < targetVersion) .componentVersions
  let externalPayloadBytes := record.word 88 8
  demand (¬ (externalPayloadBytes = 0 ∨ maxExternalPayloadBytes < externalPayloadBytes)) .componentPayloadSize
  [96, 128, 160, 192, 224].forM (fun offset => digestNonzero record offset .componentDigest)
  return {
    componentId, kind, transport, phase, dependencyCount, dependencyStart, flags, resourceGuid, hardwareInstance,
    currentVersion, targetVersion, lowestSupportedVersion, rollbackFloor, knownGoodVersion, externalPayloadBytes }

end Checks

namespace Bundle

def component (self : Bundle) (index : Nat) : Except Error Component := do
  demand (index < self.componentCount) .componentId
  parseComponent self.raw (headerBytes + index * componentRecordBytes)

/-- `read_u32` and `read_u64` at an offset. -/
def readWord (bytes : Bytes) (offset width : Nat) : Except Error Nat := do
  let value ← orError (bytes.range? offset (offset + width)) .truncated
  return value.little

def dependency (self : Bundle) (index : Nat) : Except Error Dependency := do
  demand (index < self.dependencyCount) .dependencyId
  let offset := headerBytes + self.componentCount * componentRecordBytes + index * dependencyRecordBytes
  return {
    componentId := ← readWord self.raw offset 4
    requiredComponentId := ← readWord self.raw (offset + 4) 4
    minimumVersion := ← readWord self.raw (offset + 8) 8 }

/-- The loop of `component_by_id` from this index on. -/
def componentFrom (self : Bundle) (componentId : Nat) : List Nat → Except Error Component
  | [] => .error .dependencyId
  | index :: rest => do
      let component ← self.component index
      if component.componentId = componentId then return component
      else componentFrom self componentId rest

def componentById (self : Bundle) (componentId : Nat) : Except Error Component :=
  self.componentFrom componentId (List.range self.componentCount)

end Bundle

section Parse

variable (sha : Sha256)

/-- What `parse` reads before its loops. -/
def parseHeader (bytes : Bytes) : Except Error Bundle := do
  demand (headerBytes ≤ bytes.length) .truncated
  demand (¬ maxManifestBytes < bytes.length) .oversized
  demand (bytes.take 8 = magic) .magic
  demand (bytes.word 8 2 = majorVersion ∧ bytes.word 10 2 = minorVersion) .version
  demand (bytes.word 12 2 = headerBytes) .headerSize
  demand (bytes.word 14 2 = componentRecordBytes ∧ bytes.word 16 2 = dependencyRecordBytes) .recordSize
  let profile := bytes.word 18 2
  demand (profile = profileSyntheticQualification) .profile
  let flags := bytes.word 20 4
  demand (flags = requiredFlags) .flags
  let manifestVersion := bytes.word 24 8
  demand (manifestVersion ≠ 0) .manifestVersion
  let componentCount := bytes.word 32 4
  let dependencyCount := bytes.word 36 4
  demand (¬ (componentCount = 0 ∨ maxComponents < componentCount ∨ maxDependencies < dependencyCount)) .counts
  let expectedDependencyOffset := headerBytes + componentCount * componentRecordBytes
  let expectedTotal := expectedDependencyOffset + dependencyCount * dependencyRecordBytes
  demand (bytes.word 40 8 = headerBytes ∧ bytes.word 48 8 = expectedDependencyOffset) .tableLayout
  demand (bytes.word 56 8 = expectedTotal ∧ expectedTotal ≤ bytes.length) .truncated
  demand (¬ expectedTotal < bytes.length) .trailingBytes
  let maximumExternalPayloadBytes := bytes.word 64 8
  let maximumTransactionComponents := bytes.word 72 4
  let requiredBatteryPercent := bytes.word 76 2
  let retryLimit := bytes.word 78 2
  let applyTimeoutMs := bytes.word 80 4
  let resetTimeoutMs := bytes.word 84 4
  demand (¬ (maximumExternalPayloadBytes = 0 ∨ maxExternalPayloadBytes < maximumExternalPayloadBytes ∨
    maximumTransactionComponents ≠ 1 ∨ ¬ (1 ≤ requiredBatteryPercent ∧ requiredBatteryPercent ≤ 100) ∨
    maxRetryLimit < retryLimit ∨ ¬ (1 ≤ applyTimeoutMs ∧ applyTimeoutMs ≤ maxApplyTimeoutMs) ∨
    ¬ (1 ≤ resetTimeoutMs ∧ resetTimeoutMs ≤ maxResetTimeoutMs))) .limits
  -- `(88..408).step_by(32)`
  (List.range 10).forM (fun step => digestNonzero bytes (88 + 32 * step) .digestZero)
  demand (manifestIdValid bytes) .manifestId
  demand ((bytes.slice 448 (headerBytes - 448)).allZero) .reserved
  let bodySha256 := bytes.slice 376 32
  demand (sha.digest (bytes.drop headerBytes) = bodySha256) .bodyDigest
  return {
    raw := bytes, manifestVersion, profile, flags, componentCount, dependencyCount, maximumExternalPayloadBytes,
    maximumTransactionComponents, requiredBatteryPercent, retryLimit, applyTimeoutMs, resetTimeoutMs, bodySha256 }

/-- What the loop over the components carries. -/
structure Scan where
  previousPhase : Nat
  previousId : Nat
  expectedDependencyStart : Nat
  seenPhaseMask : Nat
deriving DecidableEq, Repr

/-- One round of the loop over the components. -/
def scanComponent (bundle : Bundle) (scan : Scan) (index : Nat) : Except Error Scan := do
  let component ← bundle.component index
  demand (¬ (0 < index ∧ (component.phase < scan.previousPhase ∨
    (component.phase = scan.previousPhase ∧ component.componentId ≤ scan.previousId)))) .componentOrder
  (List.range index).forM (fun earlier => do
    let item ← bundle.component earlier
    demand (item.componentId ≠ component.componentId) .componentId
    demand (¬ (item.resourceGuid = component.resourceGuid ∧ item.hardwareInstance = component.hardwareInstance))
      Error.componentGuid)
  demand (component.dependencyStart = scan.expectedDependencyStart) .dependencyLayout
  let expectedDependencyStart ←
    orError (checkedAdd (2 ^ 32) scan.expectedDependencyStart component.dependencyCount) .dependencyLayout
  demand (¬ bundle.dependencyCount < expectedDependencyStart) .dependencyLayout
  demand (¬ bundle.maximumExternalPayloadBytes < component.externalPayloadBytes) .componentPayloadSize
  demand (¬ maxComponents ≤ component.phase) .phaseOrder
  return {
    previousPhase := component.phase
    previousId := component.componentId
    expectedDependencyStart
    seenPhaseMask := scan.seenPhaseMask ||| 1 <<< component.phase }

/-- One round of the loop over the dependencies. -/
def checkDependency (bundle : Bundle) (index : Nat) : Except Error Unit := do
  let dependency ← bundle.dependency index
  let source ← bundle.componentById dependency.componentId
  let required ← bundle.componentById dependency.requiredComponentId
  demand (source.componentId ≠ required.componentId) .dependencyId
  let start := source.dependencyStart
  demand (start ≤ index ∧ index < start + source.dependencyCount) .dependencyLayout
  if start < index then
    let previous ← bundle.dependency (index - 1)
    demand (¬ dependency.requiredComponentId ≤ previous.requiredComponentId) .dependencyOrder
  demand (dependency.minimumVersion = required.targetVersion) .dependencyVersion
  demand (¬ source.phase ≤ required.phase) .dependencyPhase

def parse (bytes : Bytes) : Except Error Bundle := do
  let bundle ← parseHeader sha bytes
  let scan ← (List.range bundle.componentCount).foldlM (scanComponent bundle) ⟨0, 0, 0, 0⟩
  demand (scan.expectedDependencyStart = bundle.dependencyCount) .dependencyLayout
  demand (scan.seenPhaseMask = (1 <<< (scan.previousPhase + 1)) - 1) .phaseOrder
  (List.range bundle.dependencyCount).forM (checkDependency bundle)
  return bundle

end Parse

end PooleOS.Firmware
