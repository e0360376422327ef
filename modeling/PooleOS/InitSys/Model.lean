import PooleOS.Lib.Masks
import PooleOS.Lib.Panic
import PooleOS.Lib.Saturate
import PooleOS.Lib.Sorting

/- The PINIT1 launch bundle (`native/initsys/src/lib.rs`). The arithmetic that the source
checks is on counts that it bounds first, and stays far below the width of its types; the one
subtraction that can go below zero panics. -/
namespace PooleOS.InitSys

open Function (update)

/-- What `parse` answers. -/
inductive Error
  | truncated
  | oversized
  | magic
  | version
  | headerSize
  | totalSize
  | flags
  | versionFloor
  | rootService
  | bootModes
  | abi
  | reserved
  | count
  | tableSize
  | tableLayout
  | tableBounds
  | padding
  | bodyDigest
  | name
  | stringBounds
  | stringTerminator
  | stringTable
  | nameDuplicate
  | componentRecord
  | componentKind
  | componentImageSize
  | componentAlignment
  | componentBlobSize
  | componentBlobBounds
  | componentDigest
  | serviceRecord
  | serviceFlags
  | timeout
  | restartPolicy
  | failurePolicy
  | lifecycle
  | healthPolicy
  | stateSchema
  | serviceBudget
  | dependencyRecord
  | dependencyKind
  | dependencyCycle
  | dependencyReachability
  | dependencyAvailability
  | startupRank
  | resourceRecord
  | resourceFlags
  | resourceBounds
  | capabilityRecord
  | capabilityParent
  | capabilityRights
  | capabilityFlags
  | capabilityLifecycle
  | capabilityAvailability
  | capabilitySource
  | capabilityAttenuation
  | capabilityRevocation
  | capabilityRoute
deriving DecidableEq, Repr

/-- `PINIT1`, padded with zeros. -/
def magic : Bytes := [0x50, 0x49, 0x4e, 0x49, 0x54, 0x31, 0, 0]
def majorVersion : Nat := 1
def minorVersion : Nat := 0
def headerBytes : Nat := 192
def recordAlignment : Nat := 8
def componentBytes : Nat := 80
def serviceBytes : Nat := 96
def dependencyBytes : Nat := 16
def resourceBytes : Nat := 48
def capabilityBytes : Nat := 48
def maxBundleBytes : Nat := 1024 * 1024 - 96
def maxComponents : Nat := 32
def maxServices : Nat := 32
def maxDependencies : Nat := 128
def maxResources : Nat := 128
def maxCapabilities : Nat := 256
def maxStringBytes : Nat := 8192
def maxNameBytes : Nat := 63
def maxComponentBlobBytes : Nat := 512 * 1024
def maxComponentImageBytes : Nat := 64 * 1024 * 1024

def requiredFlags : Nat := 0xff
def knownBootModes : Nat := 0xf

def componentExecutable : Nat := 1
def componentData : Nat := 2
def componentRequired : Nat := 1
def componentReadOnly : Nat := 2
def componentExecutableFlag : Nat := 4
/-- `PXABI1` and `PINITD1`, padded with zeros. -/
def pxabi1 : Bytes := [0x50, 0x58, 0x41, 0x42, 0x49, 0x31, 0, 0]
def pinitd1 : Bytes := [0x50, 0x49, 0x4e, 0x49, 0x54, 0x44, 0x31, 0]

def serviceRequired : Nat := 1
def serviceCritical : Nat := 2
def serviceBootstrap : Nat := 4
def serviceDropBootstrap : Nat := 8
def serviceAllowDegraded : Nat := 16
def serviceStateless : Nat := 32
def serviceKnownFlags : Nat := serviceRequired ||| serviceCritical ||| serviceBootstrap |||
  serviceDropBootstrap ||| serviceAllowDegraded ||| serviceStateless
def rootServiceFlags : Nat := serviceRequired ||| serviceCritical ||| serviceBootstrap |||
  serviceDropBootstrap ||| serviceStateless

def restartNever : Nat := 0
def restartOnFailure : Nat := 1
def restartAlways : Nat := 2
def failureRollbackBundle : Nat := 1
def failureContinueDegraded : Nat := 2
def readinessImmediate : Nat := 0
def readinessExplicit : Nat := 1
def shutdownReverseDependency : Nat := 1
def dependencyStrong : Nat := 1
def dependencyWeak : Nat := 2

def resourceMemoryPages : Nat := 1
def resourceThreadSlots : Nat := 2
def resourceEndpointSlots : Nat := 3
def resourceAddressSpace : Nat := 4
def resourceLogSink : Nat := 5
def resourceRequired : Nat := 1
def resourceRevocable : Nat := 2
def resourceZeroOnRevoke : Nat := 4
def resourceShareable : Nat := 8
def resourceExclusive : Nat := 16
def resourceKnownFlags : Nat := resourceRequired ||| resourceRevocable ||| resourceZeroOnRevoke |||
  resourceShareable ||| resourceExclusive

def rightRead : Nat := 1
def rightWrite : Nat := 2
def rightMapOrBind : Nat := 4
def rightManageOrGrant : Nat := 8

def capRevocable : Nat := 1
def capDerivable : Nat := 2
def capTransferable : Nat := 4
def capLifecycleBound : Nat := 8
def capKnownFlags : Nat := capRevocable ||| capDerivable ||| capTransferable ||| capLifecycleBound
def availabilityRequired : Nat := 1
def availabilityOptional : Nat := 2

structure Bundle where
  bundleVersion : Nat
  minimumSecureVersion : Nat
  rootServiceId : Nat
  allowedBootModes : Nat
  requiredKernelAbiMajor : Nat
  minimumKernelAbiMinor : Nat
  requiredPbpMajor : Nat
  minimumPbpMinor : Nat
  startTimeoutMs : Nat
  rollbackTimeoutMs : Nat
  maxTotalRestarts : Nat
  componentCount : Nat
  serviceCount : Nat
  dependencyCount : Nat
  resourceCount : Nat
  capabilityCount : Nat
  /-- Padded with zeros. -/
  startOrder : List Nat
  bodySha256 : Bytes
  raw : Bytes
deriving DecidableEq, Repr

structure Header where
  bundleVersion : Nat
  minimumSecureVersion : Nat
  rootServiceId : Nat
  allowedBootModes : Nat
  kernelMajor : Nat
  kernelMinor : Nat
  pbpMajor : Nat
  pbpMinor : Nat
  componentCount : Nat
  serviceCount : Nat
  dependencyCount : Nat
  resourceCount : Nat
  capabilityCount : Nat
  componentOffset : Nat
  serviceOffset : Nat
  dependencyOffset : Nat
  resourceOffset : Nat
  capabilityOffset : Nat
  stringOffset : Nat
  stringBytes : Nat
  blobOffset : Nat
  blobBytes : Nat
  startTimeoutMs : Nat
  rollbackTimeoutMs : Nat
  maxTotalRestarts : Nat
  bodySha256 : Bytes
deriving DecidableEq, Repr

structure NameRef where
  offset : Nat
  bytes : Nat
deriving DecidableEq, Repr

structure ServiceMeta where
  flags : Nat
  restartPolicy : Nat
  readyResourceId : Nat
  capabilityCount : Nat
  resourceCount : Nat
  dependencyCount : Nat
  startupRank : Nat
  maxRestarts : Nat
deriving DecidableEq, Repr

def emptyService : ServiceMeta := ⟨0, 0, 0, 0, 0, 0, 0, 0⟩

structure DependencyMeta where
  dependent : Nat
  prerequisite : Nat
  kind : Nat
deriving DecidableEq, Repr

structure ResourceMeta where
  provider : Nat
  kind : Nat
deriving DecidableEq, Repr

def emptyResource : ResourceMeta := ⟨0, 0⟩

structure CapabilityMeta where
  holder : Nat
  resource : Nat
  rights : Nat
  flags : Nat
  revokeGroup : Nat
  availability : Nat
deriving DecidableEq, Repr

def emptyCapability : CapabilityMeta := ⟨0, 0, 0, 0, 0, 0⟩

/-- A failed check. -/
abbrev check (condition : Prop) [Decidable condition] (reason : Error) : Outcome Error Unit :=
  demand condition (.refused reason)

def align (value : Nat) : Nat := without (value + (recordAlignment - 1)) (recordAlignment - 1)

def table (data : Bytes) (offset count size : Nat) : Outcome Error Bytes := do
  check (headerBytes ≤ offset ∧ offset + count * size ≤ data.length) .tableBounds
  return data.slice offset (count * size)

variable (sha : Sha256)

def parseHeader (data : Bytes) : Outcome Error Header := do
  check (headerBytes ≤ data.length) .truncated
  check (data.length ≤ maxBundleBytes) .oversized
  check (data.take 8 = magic) .magic
  check (data.word 8 2 = majorVersion ∧ data.word 10 2 = minorVersion) .version
  check (data.word 12 2 = headerBytes ∧ data.word 14 2 = recordAlignment) .headerSize
  check (data.word 16 4 = data.length) .totalSize
  check (data.word 20 4 = requiredFlags) .flags
  let bundleVersion := data.word 24 8
  let minimumSecureVersion := data.word 32 8
  check (bundleVersion ≠ 0 ∧ minimumSecureVersion ≠ 0 ∧ minimumSecureVersion ≤ bundleVersion)
    .versionFloor
  let rootServiceId := data.word 40 4
  check (rootServiceId ≠ 0) .rootService
  let allowedBootModes := data.word 44 4
  check (allowedBootModes ≠ 0 ∧ without allowedBootModes knownBootModes = 0) .bootModes
  let kernelMajor := data.word 48 2
  let kernelMinor := data.word 50 2
  let pbpMajor := data.word 52 2
  let pbpMinor := data.word 54 2
  check (kernelMajor ≠ 0 ∧ pbpMajor ≠ 0) .abi
  let componentCount := data.word 56 2
  let serviceCount := data.word 58 2
  let dependencyCount := data.word 60 2
  let resourceCount := data.word 62 2
  let capabilityCount := data.word 64 2
  check (data.word 66 2 = 0) .reserved
  check ((1 ≤ componentCount ∧ componentCount ≤ maxComponents) ∧
    (1 ≤ serviceCount ∧ serviceCount ≤ maxServices) ∧ dependencyCount ≤ maxDependencies ∧
    (1 ≤ resourceCount ∧ resourceCount ≤ maxResources) ∧
    (1 ≤ capabilityCount ∧ capabilityCount ≤ maxCapabilities)) .count
  let componentOffset := data.word 68 4
  let serviceOffset := data.word 72 4
  let dependencyOffset := data.word 76 4
  let resourceOffset := data.word 80 4
  let capabilityOffset := data.word 84 4
  let stringOffset := data.word 88 4
  let stringBytes := data.word 92 4
  let blobOffset := data.word 96 4
  let blobBytes := data.word 100 4
  check (stringBytes ≠ 0 ∧ stringBytes ≤ maxStringBytes ∧ blobBytes ≠ 0) .tableSize
  check (blobBytes ≤ maxComponentBlobBytes) .componentBlobSize
  let startTimeoutMs := data.word 104 4
  let rollbackTimeoutMs := data.word 108 4
  let maxTotalRestarts := data.word 112 4
  check ((1 ≤ startTimeoutMs ∧ startTimeoutMs ≤ 300000) ∧ (1 ≤ rollbackTimeoutMs ∧ rollbackTimeoutMs ≤ 300000)) .timeout
  check (maxTotalRestarts ≤ 1024) .lifecycle
  check (data.word 116 4 = 0 ∧ (data.slice 152 (headerBytes - 152)).allZero) .reserved
  let expectedComponent := headerBytes
  let expectedService := expectedComponent + componentCount * componentBytes
  let expectedDependency := expectedService + serviceCount * serviceBytes
  let expectedResource := expectedDependency + dependencyCount * dependencyBytes
  let expectedCapability := expectedResource + resourceCount * resourceBytes
  let expectedString := expectedCapability + capabilityCount * capabilityBytes
  let expectedBlob := align (expectedString + stringBytes)
  check ([componentOffset, serviceOffset, dependencyOffset, resourceOffset, capabilityOffset,
      stringOffset] = [expectedComponent, expectedService, expectedDependency, expectedResource,
      expectedCapability, expectedString] ∧ blobOffset = expectedBlob ∧
    blobOffset + blobBytes = data.length) .tableLayout
  let padding ← orRefuse (data.range? (stringOffset + stringBytes) blobOffset) .tableBounds
  check padding.allZero .padding
  let bodySha256 := data.slice 120 32
  check (sha.digest (data.drop headerBytes) = bodySha256) .bodyDigest
  return {
    bundleVersion, minimumSecureVersion, rootServiceId, allowedBootModes, kernelMajor, kernelMinor,
    pbpMajor, pbpMinor, componentCount, serviceCount, dependencyCount, resourceCount, capabilityCount,
    componentOffset, serviceOffset, dependencyOffset, resourceOffset, capabilityOffset, stringOffset,
    stringBytes, blobOffset, blobBytes, startTimeoutMs, rollbackTimeoutMs, maxTotalRestarts, bodySha256 }

def isLowercase (byte : UInt8) : Bool := 0x61 ≤ byte && byte ≤ 0x7a
def isDigit (byte : UInt8) : Bool := 0x30 ≤ byte && byte ≤ 0x39
def isPunctuation (byte : UInt8) : Bool := byte == 0x2e || byte == 0x5f || byte == 0x2d

/-- Two dots in a row. -/
def dotDot (bytes : Bytes) : Bool := (bytes.zip bytes.tail).any (· == (0x2e, 0x2e))

def validName (bytes : Bytes) : Bool :=
  match bytes.head?, bytes.getLast? with
  | some first, some last =>
    decide (bytes.length ≤ maxNameBytes) && isLowercase first && (isLowercase last || isDigit last) &&
      bytes.all (fun byte => isLowercase byte || isDigit byte || isPunctuation byte) && !dotDot bytes
  | _, _ => false

/-- `table[offset..offset + bytes]`. -/
def NameRef.text (table : Bytes) (name : NameRef) : Bytes := table.slice name.offset name.bytes

def nameRef (table : Bytes) (offset bytes : Nat) : Outcome Error NameRef := do
  check (bytes ≠ 0 ∧ bytes ≤ maxNameBytes ∧ offset + bytes < table.length) .stringBounds
  check (table[offset + bytes]? = some 0) .stringTerminator
  check (validName (table.slice offset bytes)) .name
  return ⟨offset, bytes⟩

def pushName (names : List NameRef) (value : NameRef) (table : Bytes) : Outcome Error (List NameRef) := do
  check (∀ existing ∈ names, existing.text table ≠ value.text table) .nameDuplicate
  return names ++ [value]

/-- The names are sorted, and must then follow each other in the table. -/
def validateStringTable (names : List NameRef) (table : Bytes) : Outcome Error Unit := do
  let sorted := selectionSort (fun name : NameRef => (name.text table).key) names.length names
  let cursor ← sorted.foldlM (fun cursor value => do
    check (value.offset = cursor) .stringTable
    return cursor + (value.bytes + 1)) 0
  check (cursor = table.length) .stringTable

def resourceLimit (kind : Nat) : Option Nat :=
  if kind = resourceMemoryPages then some 65536
  else if kind = resourceThreadSlots then some 1024
  else if kind = resourceEndpointSlots then some 4096
  else if kind = resourceAddressSpace ∨ kind = resourceLogSink then some 1
  else none

def resourceRights (kind : Nat) : Nat :=
  if kind = resourceMemoryPages ∨ kind = resourceThreadSlots ∨ kind = resourceEndpointSlots then
    rightRead ||| rightWrite ||| rightMapOrBind ||| rightManageOrGrant
  else if kind = resourceAddressSpace then rightRead ||| rightWrite ||| rightMapOrBind
  else if kind = resourceLogSink then rightWrite
  else 0

def hasDependency (dependencies : List DependencyMeta) (dependent prerequisite : Nat) : Bool :=
  dependencies.any (fun item => item.dependent == dependent && item.prerequisite == prerequisite)

/-- `is_power_of_two` of a `u32`. -/
def isPowerOfTwo (value : Nat) : Bool := (List.range 32).any (fun bit => value == 2 ^ bit)

/-- What the loop over the components collects. -/
structure ComponentScan where
  kinds : List Nat
  cursor : Nat
  names : List NameRef
deriving DecidableEq

def checkComponentKind (kind flags : Nat) (formatId : Bytes) (imageBytes : Nat) : Outcome Error Unit := do
  if kind = componentExecutable then
    check (flags = componentRequired ||| componentReadOnly ||| componentExecutableFlag ∧
      formatId = pxabi1) .componentKind
    check (imageBytes ≠ 0 ∧ imageBytes ≤ maxComponentImageBytes) .componentImageSize
  else if kind = componentData then
    check (flags = componentRequired ||| componentReadOnly ∧ formatId = pinitd1 ∧ imageBytes = 0)
      .componentKind
  else
    .error (.refused .componentKind)

/-- One round of the loop over the components. -/
def parseComponent (stringTable blob componentTable : Bytes) (scan : ComponentScan) (index : Nat) :
    Outcome Error ComponentScan := do
  let record := componentTable.slice (index * componentBytes) componentBytes
  check (record.word 0 4 = index + 1 ∧ record.word 14 2 = 0 ∧ Bytes.allZero (record.drop 72)) .componentRecord
  let kind := record.word 4 2
  checkComponentKind kind (record.word 6 2) (record.slice 16 8) (record.word 32 4)
  let destinationAlignment := record.word 36 4
  check (destinationAlignment ≠ 0 ∧ destinationAlignment ≤ 4096 ∧ isPowerOfTwo destinationAlignment)
    .componentAlignment
  let expected := align scan.cursor
  let padding ← orRefuse (blob.range? scan.cursor expected) .componentBlobBounds
  check padding.allZero .padding
  let relativeOffset := record.word 24 4
  let blobBytes := record.word 28 4
  check (relativeOffset = expected ∧ blobBytes ≠ 0) .componentBlobBounds
  let componentBlob ← orRefuse (blob.range? relativeOffset (relativeOffset + blobBytes)) .componentBlobBounds
  check (sha.digest componentBlob = record.slice 40 32) .componentDigest
  let name ← nameRef stringTable (record.word 8 4) (record.word 12 2)
  let names ← pushName scan.names name stringTable
  return { kinds := scan.kinds ++ [kind], cursor := relativeOffset + blobBytes, names }

def parseComponents (data : Bytes) (header : Header) (stringTable blob : Bytes) : Outcome Error ComponentScan := do
  let componentTable ← table data header.componentOffset header.componentCount componentBytes
  let scan ← (List.range header.componentCount).foldlM
    (parseComponent sha stringTable blob componentTable) ⟨[], 0, []⟩
  check (scan.cursor = blob.length) .componentBlobBounds
  return scan

/-- What a loop over records with names collects. -/
structure NamedScan (α : Type) where
  items : List α
  names : List NameRef

/-- The checks of the fields of a service record. -/
def checkService (header : Header) (kinds : List Nat) (index : Nat) (record : Bytes) : Outcome Error ServiceMeta := do
  let componentId := record.word 4 4
  check (record.word 0 4 = index + 1 ∧ componentId ≠ 0 ∧ componentId ≤ header.componentCount ∧
    kinds.getD (componentId - 1) 0 = componentExecutable ∧ Bytes.allZero (record.drop 68)) .serviceRecord
  let flags := record.word 14 2
  check (without flags serviceKnownFlags = 0 ∧ ¬ (flags &&& serviceCritical ≠ 0 ∧ flags &&& serviceRequired = 0) ∧
    ¬ (flags &&& serviceRequired ≠ 0 ∧ flags &&& serviceAllowDegraded ≠ 0)) .serviceFlags
  let startupTimeout := record.word 16 4
  let stopTimeout := record.word 20 4
  check (startupTimeout ≠ 0 ∧ startupTimeout ≤ header.startTimeoutMs ∧ stopTimeout ≠ 0 ∧
    stopTimeout ≤ header.rollbackTimeoutMs) .timeout
  let restartPolicy := record.word 24 2
  let failurePolicy := record.word 26 2
  let readinessPolicy := record.word 28 2
  check (restartPolicy ∈ [restartNever, restartOnFailure, restartAlways]) .restartPolicy
  check (failurePolicy ∈ [failureRollbackBundle, failureContinueDegraded]) .failurePolicy
  check (readinessPolicy ∈ [readinessImmediate, readinessExplicit] ∧
    record.word 30 2 = shutdownReverseDependency) .lifecycle
  check (¬ (flags &&& serviceRequired ≠ 0 ∧ failurePolicy ≠ failureRollbackBundle) ∧
    ¬ (flags &&& serviceRequired = 0 ∧ failurePolicy ≠ failureContinueDegraded)) .failurePolicy
  let maxRestarts := record.word 32 4
  let restartWindow := record.word 36 4
  let backoffInitial := record.word 40 4
  let backoffMax := record.word 44 4
  if restartPolicy = restartNever then
    check (maxRestarts = 0 ∧ restartWindow = 0 ∧ backoffInitial = 0 ∧ backoffMax = 0) .restartPolicy
  else
    check ((1 ≤ maxRestarts ∧ maxRestarts ≤ 64) ∧ backoffInitial ≠ 0 ∧ backoffInitial ≤ backoffMax ∧
      backoffMax ≤ restartWindow ∧ restartWindow ≤ 3600000) .restartPolicy
  let healthTimeout := record.word 48 4
  let readyResourceId := record.word 52 4
  check (healthTimeout ≠ 0 ∧ healthTimeout ≤ startupTimeout ∧
    ¬ (readinessPolicy = readinessExplicit ∧ readyResourceId = 0)) .healthPolicy
  let stateSchemaVersion := record.word 64 4
  check (flags &&& serviceStateless ≠ 0 ↔ stateSchemaVersion = 0) .stateSchema
  return {
    flags, restartPolicy, readyResourceId
    capabilityCount := record.word 56 2
    resourceCount := record.word 58 2
    dependencyCount := record.word 60 2
    startupRank := record.word 62 2
    maxRestarts }

/-- One round of the loop over the services. -/
def parseService (header : Header) (kinds : List Nat) (stringTable serviceTable : Bytes)
    (scan : NamedScan ServiceMeta) (index : Nat) : Outcome Error (NamedScan ServiceMeta) := do
  let record := serviceTable.slice (index * serviceBytes) serviceBytes
  let service ← checkService header kinds index record
  let name ← nameRef stringTable (record.word 8 4) (record.word 12 2)
  let names ← pushName scan.names name stringTable
  return ⟨scan.items ++ [service], names⟩

def parseServices (data : Bytes) (header : Header) (kinds : List Nat) (stringTable : Bytes)
    (names : List NameRef) : Outcome Error (NamedScan ServiceMeta) := do
  let serviceTable ← table data header.serviceOffset header.serviceCount serviceBytes
  (List.range header.serviceCount).foldlM (parseService header kinds stringTable serviceTable) ⟨[], names⟩

/-- `pair <= previous_pair` does not hold. -/
def pairLess (first second : Nat × Nat) : Prop :=
  first.1 < second.1 ∨ first.1 = second.1 ∧ first.2 < second.2

instance (first second : Nat × Nat) : Decidable (pairLess first second) :=
  inferInstanceAs (Decidable (_ ∨ _))

/-- One round of the loop over the dependencies: the records so far, and the last pair. -/
def parseDependency (header : Header) (dependencyTable : Bytes)
    (scan : List DependencyMeta × (Nat × Nat)) (index : Nat) :
    Outcome Error (List DependencyMeta × (Nat × Nat)) := do
  let record := dependencyTable.slice (index * dependencyBytes) dependencyBytes
  let dependent := record.word 0 4
  let prerequisite := record.word 4 4
  let pair := (dependent, prerequisite)
  check (pairLess scan.2 pair ∧ dependent ≠ prerequisite ∧ dependent ≠ 0 ∧ prerequisite ≠ 0 ∧
    dependent ≤ header.serviceCount ∧ prerequisite ≤ header.serviceCount) .dependencyRecord
  let kind := record.word 8 2
  check (kind ∈ [dependencyStrong, dependencyWeak] ∧ record.word 10 2 = 0 ∧ record.word 12 4 = 0)
    .dependencyKind
  return (scan.1 ++ [⟨dependent, prerequisite, kind⟩], pair)

def parseDependencies (data : Bytes) (header : Header) : Outcome Error (List DependencyMeta) := do
  let dependencyTable ← table data header.dependencyOffset header.dependencyCount dependencyBytes
  let scan ← (List.range header.dependencyCount).foldlM (parseDependency header dependencyTable) ([], (0, 0))
  return scan.1

/-- The checks of the fields of a resource record. -/
def checkResource (header : Header) (index : Nat) (record : Bytes) : Outcome Error ResourceMeta := do
  let provider := record.word 4 4
  let kind := record.word 14 2
  check (record.word 0 4 = index + 1 ∧ provider ≤ header.serviceCount ∧ record.word 20 4 = 0 ∧
    record.word 44 4 = 0) .resourceRecord
  let limit ← orRefuse (resourceLimit kind) .resourceRecord
  let flags := record.word 16 4
  check (without flags resourceKnownFlags = 0 ∧ flags &&& resourceRevocable ≠ 0 ∧
    ¬ (flags &&& resourceShareable ≠ 0 ↔ flags &&& resourceExclusive ≠ 0) ∧
    ¬ (kind ≠ resourceMemoryPages ∧ flags &&& resourceZeroOnRevoke ≠ 0)) .resourceFlags
  let minimum := record.word 24 8
  let maximum := record.word 32 8
  check (minimum ≠ 0 ∧ minimum ≤ maximum ∧ maximum ≤ limit ∧ record.word 40 4 ≠ 0 ∧
    ¬ (kind ∈ [resourceAddressSpace, resourceLogSink] ∧ (minimum ≠ 1 ∨ maximum ≠ 1))) .resourceBounds
  return { provider, kind }

/-- One round of the loop over the resources. -/
def parseResource (header : Header) (stringTable resourceTable : Bytes) (scan : NamedScan ResourceMeta)
    (index : Nat) : Outcome Error (NamedScan ResourceMeta) := do
  let record := resourceTable.slice (index * resourceBytes) resourceBytes
  let resource ← checkResource header index record
  let name ← nameRef stringTable (record.word 8 4) (record.word 12 2)
  let names ← pushName scan.names name stringTable
  return ⟨scan.items ++ [resource], names⟩

def parseResources (data : Bytes) (header : Header) (stringTable : Bytes) (names : List NameRef) :
    Outcome Error (NamedScan ResourceMeta) := do
  let resourceTable ← table data header.resourceOffset header.resourceCount resourceBytes
  (List.range header.resourceCount).foldlM (parseResource header stringTable resourceTable) ⟨[], names⟩

/-- A capability that is not derived must be held by the root service or by the provider. -/
def checkSource (header : Header) (resource : ResourceMeta) (holder : Nat) : Outcome Error Unit :=
  check (¬ (resource.provider = 0 ∧ holder ≠ header.rootServiceId ∨
    resource.provider ≠ 0 ∧ holder ≠ header.rootServiceId ∧ holder ≠ resource.provider)) .capabilitySource

/-- A derived capability has no more than its parent. -/
def checkParent (parent : CapabilityMeta) (resource rights revokeGroup availability : Nat) : Outcome Error Unit := do
  check (parent.flags &&& capDerivable ≠ 0 ∧ parent.resource = resource ∧ without rights parent.rights = 0)
    .capabilityAttenuation
  check (revokeGroup = parent.revokeGroup) .capabilityRevocation
  check (¬ (availability = availabilityRequired ∧ parent.availability ≠ availabilityRequired))
    .capabilityAvailability

/-- One round of the loop over the capabilities. -/
def parseCapability (header : Header) (resources : List ResourceMeta) (capabilityTable : Bytes)
    (capabilities : List CapabilityMeta) (index : Nat) : Outcome Error (List CapabilityMeta) := do
  let record := capabilityTable.slice (index * capabilityBytes) capabilityBytes
  let capabilityId := record.word 0 4
  let parent := record.word 4 4
  let holder := record.word 8 4
  let resource := record.word 12 4
  check (capabilityId = index + 1 ∧ holder ≠ 0 ∧ holder ≤ header.serviceCount ∧ resource ≠ 0 ∧
    resource ≤ header.resourceCount ∧ Bytes.allZero (record.drop 40)) .capabilityRecord
  check (parent < capabilityId) .capabilityParent
  let resourceMeta := resources.getD (resource - 1) emptyResource
  let rights := record.word 16 8
  check (rights ≠ 0 ∧ without rights (resourceRights resourceMeta.kind) = 0) .capabilityRights
  let flags := record.word 24 4
  check (without flags capKnownFlags = 0 ∧
    flags &&& (capRevocable ||| capLifecycleBound) = capRevocable ||| capLifecycleBound) .capabilityFlags
  let revokeGroup := record.word 28 4
  let availability := record.word 38 2
  check (revokeGroup ≠ 0 ∧ record.word 32 4 = 0 ∧ record.word 36 2 ≤ maxCapabilities) .capabilityLifecycle
  check (availability ∈ [availabilityRequired, availabilityOptional]) .capabilityAvailability
  if parent = 0 then
    checkSource header resourceMeta holder
  else
    checkParent (capabilities.getD (parent - 1) emptyCapability) resource rights revokeGroup availability
  return capabilities ++ [⟨holder, resource, rights, flags, revokeGroup, availability⟩]

def parseCapabilities (data : Bytes) (header : Header) (resources : List ResourceMeta) :
    Outcome Error (List CapabilityMeta) := do
  let capabilityTable ← table data header.capabilityOffset header.capabilityCount capabilityBytes
  (List.range header.capabilityCount).foldlM (parseCapability header resources capabilityTable) []

/-- What the tables of a bundle say. -/
structure Tables where
  services : List ServiceMeta
  dependencies : List DependencyMeta
  resources : List ResourceMeta
  capabilities : List CapabilityMeta
  names : List NameRef

/-- The first part of `parse`: the five tables. -/
def parseTables (data : Bytes) (header : Header) (stringTable blob : Bytes) : Outcome Error Tables := do
  let components ← parseComponents sha data header stringTable blob
  let services ← parseServices data header components.kinds stringTable components.names
  let dependencies ← parseDependencies data header
  let resources ← parseResources data header stringTable services.names
  let capabilities ← parseCapabilities data header resources.items
  return ⟨services.items, dependencies, resources.items, capabilities, resources.names⟩

/-- The root service, which alone holds the bootstrap flags and depends on nothing. -/
def checkRoot (header : Header) (tables : Tables) : Outcome Error Unit := do
  let rootIndex := header.rootServiceId - 1
  let root := tables.services.getD rootIndex emptyService
  check (rootIndex < header.serviceCount ∧ root.flags = rootServiceFlags ∧ root.restartPolicy = restartNever)
    .rootService
  check (∀ index < header.serviceCount, ¬ (index ≠ rootIndex ∧
    (tables.services.getD index emptyService).flags &&& (serviceBootstrap ||| serviceDropBootstrap) ≠ 0))
    .rootService
  check (¬ ∃ item ∈ tables.dependencies, item.dependent = header.rootServiceId) .rootService

/-- One round of the loop that counts the prerequisites of each service. -/
def countDependency (services : List ServiceMeta) (indegree : Nat → Nat) (item : DependencyMeta) :
    Outcome Error (Nat → Nat) := do
  let dependent := item.dependent - 1
  check (¬ (item.kind = dependencyStrong ∧ (services.getD dependent emptyService).flags &&& serviceRequired ≠ 0 ∧
    (services.getD (item.prerequisite - 1) emptyService).flags &&& serviceRequired = 0))
    .dependencyAvailability
  return update indegree dependent (indegree dependent + 1)

structure StartScan where
  startOrder : List Nat
  selected : Nat → Bool
  indegree : Nat → Nat

/-- One dependency is met. -/
def release (serviceId : Nat) (indegree : Nat → Nat) (item : DependencyMeta) : Outcome Error (Nat → Nat) := do
  if item.prerequisite = serviceId then
    let dependent := item.dependent - 1
    check (1 ≤ indegree dependent) .dependencyRecord
    return update indegree dependent (indegree dependent - 1)
  else
    return indegree

/-- One round of the loop that makes the start order: the first service that is ready. -/
def startNext (header : Header) (tables : Tables) (scan : StartScan) (rank : Nat) : Outcome Error StartScan := do
  let ready ← orRefuse ((List.range header.serviceCount).find?
    (fun service => !scan.selected service && scan.indegree service == 0)) .dependencyCycle
  let serviceId := ready + 1
  check ((tables.services.getD ready emptyService).startupRank = rank) .startupRank
  let indegree ← tables.dependencies.foldlM (release serviceId) scan.indegree
  return {
    startOrder := scan.startOrder ++ [serviceId]
    selected := update scan.selected ready true
    indegree }

def makeStartOrder (header : Header) (tables : Tables) : Outcome Error (List Nat) := do
  let indegree ← tables.dependencies.foldlM (countDependency tables.services) (fun _ => 0)
  let scan ← (List.range header.serviceCount).foldlM (startNext header tables) ⟨[], fun _ => false, indegree⟩
  return scan.startOrder

/-- The flags of the services that are reachable. -/
def reachableFlags : Marking (Nat → Bool) Nat where
  has := fun flags service => flags service
  add := fun flags service => update flags service true
  has_add := by
    intro flags service other
    by_cases same : other = service
    · simp [same]
    · simp [same]

/-- The strong dependencies, from a prerequisite to what depends on it. -/
def strongEdges (dependencies : List DependencyMeta) : List (Nat × Nat) :=
  (dependencies.filter (·.kind = dependencyStrong)).map (fun item => (item.prerequisite - 1, item.dependent - 1))

/-- Every service is reachable from the root. The loop ends when a pass changes nothing, which it
does after as many passes as there are services at the latest. -/
def checkReachable (header : Header) (tables : Tables) : Outcome Error Unit := do
  let rootIndex := header.rootServiceId - 1
  let reachable := reachableFlags.saturate (strongEdges tables.dependencies) (header.serviceCount + 1)
    (update (fun _ => false) rootIndex true)
  check (∀ index < header.serviceCount, reachable index = true) .dependencyReachability

structure HeldScan where
  heldCount : Nat
  resourceSeen : Nat → Bool
  heldResources : Nat

/-- One capability in the count of what a service holds. -/
def countHeld (serviceId : Nat) (scan : HeldScan) (capability : CapabilityMeta) : HeldScan :=
  if capability.holder = serviceId then
    let resource := capability.resource - 1
    if scan.resourceSeen resource then { scan with heldCount := scan.heldCount + 1 }
    else {
      heldCount := scan.heldCount + 1
      resourceSeen := update scan.resourceSeen resource true
      heldResources := scan.heldResources + 1 }
  else scan

/-- One round of the loop over the budgets of the services, which adds up the restarts. -/
def checkBudget (header : Header) (tables : Tables) (totalRestarts index : Nat) : Outcome Error Nat := do
  let serviceId := index + 1
  let service := tables.services.getD index emptyService
  let held := tables.capabilities.foldl (countHeld serviceId) ⟨0, fun _ => false, 0⟩
  let incoming := (tables.dependencies.filter (·.dependent = serviceId)).length
  check (service.capabilityCount = held.heldCount ∧ service.resourceCount = held.heldResources ∧
    service.dependencyCount = incoming) .serviceBudget
  -- `ready_resource_id - 1` is a checked subtraction
  demand (service.readyResourceId ≠ 0) .panicked
  let readyResource := service.readyResourceId - 1
  check (readyResource < header.resourceCount ∧
    (tables.resources.getD readyResource emptyResource).kind = resourceEndpointSlots) .healthPolicy
  check (totalRestarts + service.maxRestarts < u32Values) .lifecycle
  return totalRestarts + service.maxRestarts

/-- One capability on what another service provides. -/
def checkRoute (tables : Tables) (ranks : Nat → Nat) (capability : CapabilityMeta) : Outcome Error Unit := do
  let resource := tables.resources.getD (capability.resource - 1) emptyResource
  if resource.provider ≠ 0 ∧ resource.provider ≠ capability.holder then
    check (hasDependency tables.dependencies capability.holder resource.provider) .capabilityRoute
    check (ranks (resource.provider - 1) < ranks (capability.holder - 1)) .capabilityRoute

/-- The ranks of the services, by index. -/
def ranksOf (startOrder : List Nat) : Nat → Nat :=
  startOrder.zipIdx.foldl (fun ranks (serviceId, rank) => update ranks (serviceId - 1) rank) (fun _ => 0)

def checkBudgets (header : Header) (tables : Tables) (startOrder : List Nat) : Outcome Error Unit := do
  let totalRestarts ← (List.range header.serviceCount).foldlM (checkBudget header tables) 0
  check (totalRestarts = header.maxTotalRestarts) .lifecycle
  tables.capabilities.forM (checkRoute tables (ranksOf startOrder))

def parse (data : Bytes) : Outcome Error Bundle := do
  let header ← parseHeader sha data
  let stringTable ← orRefuse (data.range? header.stringOffset (header.stringOffset + header.stringBytes))
    .tableBounds
  let blob ← orRefuse (data.range? header.blobOffset (header.blobOffset + header.blobBytes)) .tableBounds
  let tables ← parseTables sha data header stringTable blob
  validateStringTable tables.names stringTable
  checkRoot header tables
  let startOrder ← makeStartOrder header tables
  checkReachable header tables
  checkBudgets header tables startOrder
  return {
    bundleVersion := header.bundleVersion
    minimumSecureVersion := header.minimumSecureVersion
    rootServiceId := header.rootServiceId
    allowedBootModes := header.allowedBootModes
    requiredKernelAbiMajor := header.kernelMajor
    minimumKernelAbiMinor := header.kernelMinor
    requiredPbpMajor := header.pbpMajor
    minimumPbpMinor := header.pbpMinor
    startTimeoutMs := header.startTimeoutMs
    rollbackTimeoutMs := header.rollbackTimeoutMs
    maxTotalRestarts := header.maxTotalRestarts
    componentCount := header.componentCount
    serviceCount := header.serviceCount
    dependencyCount := header.dependencyCount
    resourceCount := header.resourceCount
    capabilityCount := header.capabilityCount
    startOrder := startOrder ++ List.replicate (maxServices - startOrder.length) 0
    bodySha256 := header.bodySha256
    raw := data }

end PooleOS.InitSys
