import PooleOS.InitSys.Model

/- The oracle for PINIT1 (`runtime/native_initial_system.py`). A code it raises is named like
the answer of the native parser. Text that decodes as ASCII is kept as bytes, a set as the list of
its elements, and a dictionary as a function. -/
namespace PooleOS.InitSys.Oracle

structure Component where
  componentId : Nat
  kind : Nat
  flags : Nat
  name : Bytes
  formatId : Bytes
  blob : Bytes
  imageBytes : Nat
  destinationAlignment : Nat
  sha256 : Bytes
deriving DecidableEq

structure Service where
  serviceId : Nat
  componentId : Nat
  name : Bytes
  flags : Nat
  startupTimeoutMs : Nat
  stopTimeoutMs : Nat
  restartPolicy : Nat
  failurePolicy : Nat
  readinessPolicy : Nat
  shutdownPolicy : Nat
  maxRestarts : Nat
  restartWindowMs : Nat
  backoffInitialMs : Nat
  backoffMaxMs : Nat
  healthTimeoutMs : Nat
  readyResourceId : Nat
  capabilityCount : Nat
  resourceCount : Nat
  dependencyCount : Nat
  startupRank : Nat
  stateSchemaVersion : Nat
deriving DecidableEq

structure Dependency where
  dependentServiceId : Nat
  prerequisiteServiceId : Nat
  kind : Nat
deriving DecidableEq

structure Resource where
  resourceId : Nat
  providerServiceId : Nat
  name : Bytes
  kind : Nat
  flags : Nat
  minimum : Nat
  maximum : Nat
  generation : Nat
deriving DecidableEq

structure Capability where
  capabilityId : Nat
  parentId : Nat
  holderServiceId : Nat
  resourceId : Nat
  rights : Nat
  flags : Nat
  revokeGroup : Nat
  leaseMs : Nat
  maxDerivations : Nat
  availability : Nat
deriving DecidableEq

structure Bundle where
  bundleVersion : Nat
  minimumSecureVersion : Nat
  rootServiceId : Nat
  allowedBootModes : Nat
  requiredKernelAbiMajor : Nat
  minimumKernelAbiMinor : Nat
  requiredPbpMajor : Nat
  minimumPbpMinor : Nat
  startTimeoutMs : Nat
  rollbackTimeoutMs : Nat
  maxTotalRestarts : Nat
  components : List Component
  services : List Service
  dependencies : List Dependency
  resources : List Resource
  capabilities : List Capability
  startOrder : List Nat
  bodySha256 : Bytes
  raw : Bytes
deriving DecidableEq

abbrev check (condition : Prop) [Decidable condition] (reason : Error) : Except Error Unit :=
  demand condition reason

/-- `_name_bytes`, on text that was ASCII. -/
def nameBytes (name : Bytes) : Except Error Bytes := do
  check (¬ name.isEmpty ∧ name.length ≤ maxNameBytes) .name
  let first := name.headD 0
  let last := name.getLastD 0
  check (isLowercase first ∧ (isDigit last ∨ isLowercase last)) .name
  check (∀ byte ∈ name, isDigit byte ∨ isLowercase byte ∨ isPunctuation byte) .name
  check (¬ dotDot name ∧ (0x2f : UInt8) ∉ name ∧ (0x5c : UInt8) ∉ name) .name
  return name

/-- `_read_name`. Bytes that are not ASCII fail to decode, as they would fail the next check. -/
def readName (table : Bytes) (offset length : Nat) : Except Error Bytes := do
  check (length ≠ 0 ∧ length ≤ maxNameBytes ∧ offset + length < table.length) .stringBounds
  let data := table.slice offset length
  check (table[offset + length]? = some 0) .stringTerminator
  check (∀ byte ∈ data, byte < 0x80) .name
  let name ← nameBytes data
  check (name = data) .name
  return name

def boundedCount (value minimum maximum : Nat) : Except Error Unit :=
  check (minimum ≤ value ∧ value ≤ maximum) .count

/-- `_table`. -/
def table (data : Bytes) (offset count size : Nat) : Except Error Bytes := do
  check (headerBytes ≤ offset ∧ offset + count * size ≤ data.length) .tableBounds
  return data.slice offset (count * size)

variable (sha : Sha256)

/-- `_parse_header`. -/
def parseHeader (data : Bytes) : Except Error Header := do
  check (headerBytes ≤ data.length) .truncated
  check (data.length ≤ maxBundleBytes) .oversized
  check (data.take 8 = magic) .magic
  check (data.word 8 2 = majorVersion ∧ data.word 10 2 = minorVersion) .version
  check (data.word 12 2 = headerBytes ∧ data.word 14 2 = recordAlignment) .headerSize
  let totalBytes := data.word 16 4
  check (totalBytes = data.length) .totalSize
  check (data.word 20 4 = requiredFlags) .flags
  let bundleVersion := data.word 24 8
  let minimumSecureVersion := data.word 32 8
  let rootServiceId := data.word 40 4
  let allowedBootModes := data.word 44 4
  let kernelMajor := data.word 48 2
  let kernelMinor := data.word 50 2
  let pbpMajor := data.word 52 2
  let pbpMinor := data.word 54 2
  let componentCount := data.word 56 2
  let serviceCount := data.word 58 2
  let dependencyCount := data.word 60 2
  let resourceCount := data.word 62 2
  let capabilityCount := data.word 64 2
  check (bundleVersion ≠ 0 ∧ minimumSecureVersion ≠ 0 ∧ minimumSecureVersion ≤ bundleVersion)
    .versionFloor
  check (rootServiceId ≠ 0) .rootService
  check (allowedBootModes ≠ 0 ∧ without allowedBootModes knownBootModes = 0) .bootModes
  check (kernelMajor ≠ 0 ∧ pbpMajor ≠ 0) .abi
  check (data.word 66 2 = 0) .reserved
  boundedCount componentCount 1 maxComponents
  boundedCount serviceCount 1 maxServices
  boundedCount dependencyCount 0 maxDependencies
  boundedCount resourceCount 1 maxResources
  boundedCount capabilityCount 1 maxCapabilities
  let componentOffset := data.word 68 4
  let serviceOffset := data.word 72 4
  let dependencyOffset := data.word 76 4
  let resourceOffset := data.word 80 4
  let capabilityOffset := data.word 84 4
  let stringOffset := data.word 88 4
  let stringBytes := data.word 92 4
  let blobOffset := data.word 96 4
  let blobBytes := data.word 100 4
  let startTimeoutMs := data.word 104 4
  let rollbackTimeoutMs := data.word 108 4
  let maxTotalRestarts := data.word 112 4
  check ((1 ≤ startTimeoutMs ∧ startTimeoutMs ≤ 300000) ∧ (1 ≤ rollbackTimeoutMs ∧ rollbackTimeoutMs ≤ 300000)) .timeout
  check (maxTotalRestarts ≤ 1024) .lifecycle
  check (data.word 116 4 = 0) .reserved
  check (data.slice 152 (headerBytes - 152)).allZero .reserved
  check (stringBytes ≠ 0 ∧ stringBytes ≤ maxStringBytes ∧ blobBytes ≠ 0) .tableSize
  check (blobBytes ≤ maxComponentBlobBytes) .componentBlobSize
  let expectedService := headerBytes + componentCount * componentBytes
  let expectedDependency := headerBytes + componentCount * componentBytes + serviceCount * serviceBytes
  let expectedResource := expectedDependency + dependencyCount * dependencyBytes
  let expectedCapability := expectedResource + resourceCount * resourceBytes
  let expectedString := expectedCapability + capabilityCount * capabilityBytes
  let expectedBlob := align (expectedString + stringBytes)
  check ([componentOffset, serviceOffset, dependencyOffset, resourceOffset, capabilityOffset,
      stringOffset] = [headerBytes, expectedService, expectedDependency, expectedResource,
      expectedCapability, expectedString]) .tableLayout
  check (blobOffset = expectedBlob ∧ blobOffset + blobBytes = totalBytes) .tableLayout
  check (data.slice (stringOffset + stringBytes) (blobOffset - (stringOffset + stringBytes))).allZero .padding
  let bodySha256 := data.slice 120 32
  check (sha.digest (data.drop headerBytes) = bodySha256) .bodyDigest
  return {
    bundleVersion, minimumSecureVersion, rootServiceId, allowedBootModes, kernelMajor, kernelMinor,
    pbpMajor, pbpMinor, componentCount, serviceCount, dependencyCount, resourceCount, capabilityCount,
    componentOffset, serviceOffset, dependencyOffset, resourceOffset, capabilityOffset, stringOffset,
    stringBytes, blobOffset, blobBytes, startTimeoutMs, rollbackTimeoutMs, maxTotalRestarts, bodySha256 }

/-- What the loop over the components collects. -/
structure ComponentScan where
  components : List Component
  expectedBlobOffset : Nat
  referencedNames : List Bytes

/-- A name that was not used before. -/
def addName (referencedNames : List Bytes) (name : Bytes) : Except Error (List Bytes) := do
  check (name ∉ referencedNames) .nameDuplicate
  return referencedNames ++ [name]

def checkComponentKind (kind flags : Nat) (formatId : Bytes) (imageBytes : Nat) : Except Error Unit := do
  if kind = componentExecutable then
    check (flags = componentRequired ||| componentReadOnly ||| componentExecutableFlag ∧
      formatId = pxabi1) .componentKind
    check (imageBytes ≠ 0 ∧ imageBytes ≤ maxComponentImageBytes) .componentImageSize
  else if kind = componentData then
    check (flags = componentRequired ||| componentReadOnly ∧ formatId = pinitd1 ∧ imageBytes = 0)
      .componentKind
  else
    .error .componentKind

/-- One round of the loop over the components. -/
def parseComponent (stringTable blob componentTable : Bytes) (scan : ComponentScan) (index : Nat) :
    Except Error ComponentScan := do
  let record := componentTable.slice (index * componentBytes) componentBytes
  let componentId := record.word 0 4
  let kind := record.word 4 2
  let flags := record.word 6 2
  let formatId := record.slice 16 8
  let relativeOffset := record.word 24 4
  let blobBytes := record.word 28 4
  let imageBytes := record.word 32 4
  let destinationAlignment := record.word 36 4
  let digest := record.slice 40 32
  check (componentId = index + 1 ∧ record.word 14 2 = 0 ∧ Bytes.allZero (record.drop 72)) .componentRecord
  checkComponentKind kind flags formatId imageBytes
  check (destinationAlignment ≠ 0 ∧ destinationAlignment ≤ 4096 ∧
    destinationAlignment &&& (destinationAlignment - 1) = 0) .componentAlignment
  let expectedBlobOffset := align scan.expectedBlobOffset
  check (relativeOffset = expectedBlobOffset ∧ blobBytes ≠ 0 ∧ relativeOffset + blobBytes ≤ blob.length)
    .componentBlobBounds
  let componentBlob := blob.slice relativeOffset blobBytes
  check (sha.digest componentBlob = digest) .componentDigest
  let name ← readName stringTable (record.word 8 4) (record.word 12 2)
  let referencedNames ← addName scan.referencedNames name
  let component := {
    componentId, kind, flags, name, formatId, blob := componentBlob, imageBytes, destinationAlignment,
    sha256 := digest }
  let expectedBlobOffset := expectedBlobOffset + blobBytes
  let nextOffset := align expectedBlobOffset
  check (blob.slice expectedBlobOffset (nextOffset - expectedBlobOffset)).allZero .padding
  return { components := scan.components ++ [component], expectedBlobOffset, referencedNames }

def parseComponents (data : Bytes) (header : Header) (stringTable blob : Bytes) : Except Error ComponentScan := do
  let componentTable ← table data header.componentOffset header.componentCount componentBytes
  let scan ← (List.range header.componentCount).foldlM
    (parseComponent sha stringTable blob componentTable) ⟨[], 0, []⟩
  check (scan.expectedBlobOffset = blob.length) .componentBlobBounds
  return scan

/-- What a loop over records with names collects. -/
structure NamedScan (α : Type) where
  items : List α
  names : List Bytes

/-- The fields of a service record. -/
def serviceOf (record name : Bytes) : Service where
  serviceId := record.word 0 4
  componentId := record.word 4 4
  name := name
  flags := record.word 14 2
  startupTimeoutMs := record.word 16 4
  stopTimeoutMs := record.word 20 4
  restartPolicy := record.word 24 2
  failurePolicy := record.word 26 2
  readinessPolicy := record.word 28 2
  shutdownPolicy := record.word 30 2
  maxRestarts := record.word 32 4
  restartWindowMs := record.word 36 4
  backoffInitialMs := record.word 40 4
  backoffMaxMs := record.word 44 4
  healthTimeoutMs := record.word 48 4
  readyResourceId := record.word 52 4
  capabilityCount := record.word 56 2
  resourceCount := record.word 58 2
  dependencyCount := record.word 60 2
  startupRank := record.word 62 2
  stateSchemaVersion := record.word 64 4

/-- The checks of the fields of a service record. -/
def checkService (header : Header) (components : List Component) (index : Nat) (record : Bytes) :
    Except Error Unit := do
  let service := serviceOf record []
  check (service.serviceId = index + 1 ∧ service.componentId ≠ 0 ∧ service.componentId ≤ components.length ∧
    (components.map Component.kind).getD (service.componentId - 1) 0 = componentExecutable ∧
    Bytes.allZero (record.drop 68)) .serviceRecord
  check (without service.flags serviceKnownFlags = 0) .serviceFlags
  let required := service.flags &&& serviceRequired ≠ 0
  let critical := service.flags &&& serviceCritical ≠ 0
  let degraded := service.flags &&& serviceAllowDegraded ≠ 0
  let stateless := service.flags &&& serviceStateless ≠ 0
  check (¬ (critical ∧ ¬ required ∨ required ∧ degraded)) .serviceFlags
  check ((1 ≤ service.startupTimeoutMs ∧ service.startupTimeoutMs ≤ header.startTimeoutMs) ∧
    (1 ≤ service.stopTimeoutMs ∧ service.stopTimeoutMs ≤ header.rollbackTimeoutMs)) .timeout
  check (service.restartPolicy ∈ [restartNever, restartOnFailure, restartAlways]) .restartPolicy
  check (service.failurePolicy ∈ [failureRollbackBundle, failureContinueDegraded]) .failurePolicy
  check (service.readinessPolicy ∈ [readinessImmediate, readinessExplicit] ∧
    service.shutdownPolicy = shutdownReverseDependency) .lifecycle
  check (¬ (required ∧ service.failurePolicy ≠ failureRollbackBundle ∨
    ¬ required ∧ service.failurePolicy ≠ failureContinueDegraded)) .failurePolicy
  if service.restartPolicy = restartNever then
    check (∀ value ∈ [service.maxRestarts, service.restartWindowMs, service.backoffInitialMs,
      service.backoffMaxMs], value = 0) .restartPolicy
  else
    check ((1 ≤ service.maxRestarts ∧ service.maxRestarts ≤ 64) ∧ 1 ≤ service.backoffInitialMs ∧
      service.backoffInitialMs ≤ service.backoffMaxMs ∧ service.backoffMaxMs ≤ service.restartWindowMs ∧
      service.restartWindowMs ≤ 3600000) .restartPolicy
  check (1 ≤ service.healthTimeoutMs ∧ service.healthTimeoutMs ≤ service.startupTimeoutMs) .healthPolicy
  check (¬ (service.readinessPolicy = readinessExplicit ∧ service.readyResourceId = 0)) .healthPolicy
  check (stateless ↔ service.stateSchemaVersion = 0) .stateSchema

/-- One round of the loop over the services. -/
def parseService (header : Header) (components : List Component) (stringTable serviceTable : Bytes)
    (scan : NamedScan Service) (index : Nat) : Except Error (NamedScan Service) := do
  let record := serviceTable.slice (index * serviceBytes) serviceBytes
  checkService header components index record
  let name ← readName stringTable (record.word 8 4) (record.word 12 2)
  let names ← addName scan.names name
  return ⟨scan.items ++ [serviceOf record name], names⟩

def parseServices (data : Bytes) (header : Header) (components : List Component) (stringTable : Bytes)
    (names : List Bytes) : Except Error (NamedScan Service) := do
  let serviceTable ← table data header.serviceOffset header.serviceCount serviceBytes
  (List.range header.serviceCount).foldlM (parseService header components stringTable serviceTable)
    ⟨[], names⟩

/-- One round of the loop over the dependencies. -/
def parseDependency (serviceCount : Nat) (dependencyTable : Bytes)
    (scan : List Dependency × (Nat × Nat)) (index : Nat) :
    Except Error (List Dependency × (Nat × Nat)) := do
  let record := dependencyTable.slice (index * dependencyBytes) dependencyBytes
  let dependent := record.word 0 4
  let prerequisite := record.word 4 4
  let kind := record.word 8 2
  let pair := (dependent, prerequisite)
  check (pairLess scan.2 pair ∧ dependent ≠ prerequisite ∧ (1 ≤ dependent ∧ dependent ≤ serviceCount) ∧
    (1 ≤ prerequisite ∧ prerequisite ≤ serviceCount)) .dependencyRecord
  check (kind ∈ [dependencyStrong, dependencyWeak] ∧ record.word 10 2 = 0 ∧ record.word 12 4 = 0)
    .dependencyKind
  return (scan.1 ++ [⟨dependent, prerequisite, kind⟩], pair)

def parseDependencies (data : Bytes) (header : Header) (serviceCount : Nat) : Except Error (List Dependency) := do
  let dependencyTable ← table data header.dependencyOffset header.dependencyCount dependencyBytes
  let scan ← (List.range header.dependencyCount).foldlM (parseDependency serviceCount dependencyTable)
    ([], (0, 0))
  return scan.1

def resourceKinds : List Nat :=
  [resourceMemoryPages, resourceThreadSlots, resourceEndpointSlots, resourceAddressSpace, resourceLogSink]

/-- `RESOURCE_MAXIMUMS` and `RESOURCE_RIGHTS`. -/
def resourceMaximums : List (Nat × Nat) :=
  [(resourceMemoryPages, 65536), (resourceThreadSlots, 1024), (resourceEndpointSlots, 4096),
    (resourceAddressSpace, 1), (resourceLogSink, 1)]

def resourceRights : List (Nat × Nat) :=
  [(resourceMemoryPages, rightRead ||| rightWrite ||| rightMapOrBind ||| rightManageOrGrant),
    (resourceThreadSlots, rightRead ||| rightWrite ||| rightMapOrBind ||| rightManageOrGrant),
    (resourceEndpointSlots, rightRead ||| rightWrite ||| rightMapOrBind ||| rightManageOrGrant),
    (resourceAddressSpace, rightRead ||| rightWrite ||| rightMapOrBind), (resourceLogSink, rightWrite)]

/-- The fields of a resource record. -/
def resourceOf (record name : Bytes) : Resource where
  resourceId := record.word 0 4
  providerServiceId := record.word 4 4
  name := name
  kind := record.word 14 2
  flags := record.word 16 4
  minimum := record.word 24 8
  maximum := record.word 32 8
  generation := record.word 40 4

/-- The checks of the fields of a resource record. -/
def checkResource (serviceCount index : Nat) (record : Bytes) : Except Error Unit := do
  let resource := resourceOf record []
  check (resource.resourceId = index + 1 ∧ resource.providerServiceId ≤ serviceCount ∧
    resource.kind ∈ resourceKinds ∧ record.word 20 4 = 0 ∧ record.word 44 4 = 0) .resourceRecord
  check (without resource.flags resourceKnownFlags = 0 ∧ resource.flags &&& resourceRevocable ≠ 0)
    .resourceFlags
  check (¬ (resource.flags &&& resourceShareable ≠ 0 ↔ resource.flags &&& resourceExclusive ≠ 0))
    .resourceFlags
  check (¬ (resource.kind ≠ resourceMemoryPages ∧ resource.flags &&& resourceZeroOnRevoke ≠ 0))
    .resourceFlags
  check (resource.minimum ≠ 0 ∧ resource.minimum ≤ resource.maximum ∧
    resource.maximum ≤ (resourceMaximums.lookup resource.kind).getD 0 ∧ resource.generation ≠ 0)
    .resourceBounds
  check (¬ (resource.kind ∈ [resourceAddressSpace, resourceLogSink] ∧
    (resource.minimum, resource.maximum) ≠ (1, 1))) .resourceBounds

/-- One round of the loop over the resources. -/
def parseResource (serviceCount : Nat) (stringTable resourceTable : Bytes) (scan : NamedScan Resource)
    (index : Nat) : Except Error (NamedScan Resource) := do
  let record := resourceTable.slice (index * resourceBytes) resourceBytes
  checkResource serviceCount index record
  let name ← readName stringTable (record.word 8 4) (record.word 12 2)
  let names ← addName scan.names name
  return ⟨scan.items ++ [resourceOf record name], names⟩

def parseResources (data : Bytes) (header : Header) (serviceCount : Nat) (stringTable : Bytes)
    (names : List Bytes) : Except Error (NamedScan Resource) := do
  let resourceTable ← table data header.resourceOffset header.resourceCount resourceBytes
  (List.range header.resourceCount).foldlM (parseResource serviceCount stringTable resourceTable) ⟨[], names⟩

/-- What an array of records holds at an index that no check let through. -/
def emptyResource : Resource := ⟨0, 0, [], 0, 0, 0, 0, 0⟩
def emptyService : Service := serviceOf [] []
def emptyCapability : Capability := ⟨0, 0, 0, 0, 0, 0, 0, 0, 0, 0⟩

/-- The fields of a capability record. -/
def capabilityOf (record : Bytes) : Capability where
  capabilityId := record.word 0 4
  parentId := record.word 4 4
  holderServiceId := record.word 8 4
  resourceId := record.word 12 4
  rights := record.word 16 8
  flags := record.word 24 4
  revokeGroup := record.word 28 4
  leaseMs := record.word 32 4
  maxDerivations := record.word 36 2
  availability := record.word 38 2

/-- One round of the loop over the capabilities. -/
def parseCapability (header : Header) (serviceCount : Nat) (resources : List Resource) (capabilityTable : Bytes)
    (capabilities : List Capability) (index : Nat) : Except Error (List Capability) := do
  let record := capabilityTable.slice (index * capabilityBytes) capabilityBytes
  let capability := capabilityOf record
  check (capability.capabilityId = index + 1 ∧ capability.holderServiceId ≠ 0 ∧
    capability.holderServiceId ≤ serviceCount ∧ capability.resourceId ≠ 0 ∧
    capability.resourceId ≤ resources.length ∧ Bytes.allZero (record.drop 40)) .capabilityRecord
  check (capability.parentId < capability.capabilityId) .capabilityParent
  let resource := resources.getD (capability.resourceId - 1) emptyResource
  check (capability.rights ≠ 0 ∧
    without capability.rights ((resourceRights.lookup resource.kind).getD 0) = 0) .capabilityRights
  check (without capability.flags capKnownFlags = 0 ∧
    capability.flags &&& (capRevocable ||| capLifecycleBound) = capRevocable ||| capLifecycleBound)
    .capabilityFlags
  check (capability.revokeGroup ≠ 0 ∧ capability.leaseMs = 0 ∧ capability.maxDerivations ≤ maxCapabilities)
    .capabilityLifecycle
  check (capability.availability ∈ [availabilityRequired, availabilityOptional]) .capabilityAvailability
  if capability.parentId = 0 then
    check (capability.holderServiceId ∈ [header.rootServiceId, resource.providerServiceId] ∧
      ¬ (resource.providerServiceId = 0 ∧ capability.holderServiceId ≠ header.rootServiceId))
      .capabilitySource
  else
    let parent := capabilities.getD (capability.parentId - 1) emptyCapability
    check (parent.flags &&& capDerivable ≠ 0 ∧ parent.resourceId = capability.resourceId ∧
      without capability.rights parent.rights = 0) .capabilityAttenuation
    check (capability.revokeGroup = parent.revokeGroup) .capabilityRevocation
    check (¬ (capability.availability = availabilityRequired ∧ parent.availability ≠ availabilityRequired))
      .capabilityAvailability
  return capabilities ++ [capability]

def parseCapabilities (data : Bytes) (header : Header) (serviceCount : Nat) (resources : List Resource) :
    Except Error (List Capability) := do
  let capabilityTable ← table data header.capabilityOffset header.capabilityCount capabilityBytes
  (List.range header.capabilityCount).foldlM (parseCapability header serviceCount resources capabilityTable) []

/-- `b"".join(_name_bytes(name) + b"\0" for name in sorted(referenced_names))`. -/
def canonicalStrings (referencedNames : List Bytes) : Bytes :=
  (referencedNames.insertionSort (fun first second => first.key ≤ second.key)).flatMap (· ++ [0])

structure Tables where
  components : List Component
  services : List Service
  dependencies : List Dependency
  resources : List Resource
  capabilities : List Capability
  names : List Bytes

/-- The first part of `parse`: the five tables. -/
def parseTables (data : Bytes) (header : Header) (stringTable blob : Bytes) : Except Error Tables := do
  let components ← parseComponents sha data header stringTable blob
  let services ← parseServices data header components.components stringTable components.referencedNames
  let dependencies ← parseDependencies data header services.items.length
  let resources ← parseResources data header services.items.length stringTable services.names
  let capabilities ← parseCapabilities data header services.items.length resources.items
  return ⟨components.components, services.items, dependencies, resources.items, capabilities, resources.names⟩

/-- The root service, which alone holds the bootstrap flags and depends on nothing. -/
def checkRoot (header : Header) (tables : Tables) : Except Error Unit := do
  check (header.rootServiceId ≤ tables.services.length) .rootService
  let root := tables.services.getD (header.rootServiceId - 1) emptyService
  check (root.flags = rootServiceFlags ∧ root.restartPolicy = restartNever) .rootService
  check (¬ ∃ service ∈ tables.services, service.serviceId ≠ root.serviceId ∧
    service.flags &&& (serviceBootstrap ||| serviceDropBootstrap) ≠ 0) .rootService
  check (¬ ∃ dependency ∈ tables.dependencies, dependency.dependentServiceId = root.serviceId) .rootService

structure TopologicalScan where
  order : List Nat
  indegree : Nat → Int

/-- One round of the loop of `_topological_order`, which ends after one round for each service. -/
def takeReady (serviceIds : List Nat) (dependencies : List Dependency) (scan : TopologicalScan) :
    Except Error TopologicalScan := do
  let ready := ((serviceIds.filter (fun serviceId => scan.indegree serviceId = 0 ∧ serviceId ∉ scan.order)).min?).getD 0
  check (ready ≠ 0) .dependencyCycle
  let outgoing := (dependencies.filter (·.prerequisiteServiceId = ready)).map Dependency.dependentServiceId
  return {
    order := scan.order ++ [ready]
    indegree := outgoing.foldl (fun indegree dependent => Function.update indegree dependent (indegree dependent - 1))
      scan.indegree }

/-- `_topological_order`. -/
def topologicalOrder (serviceIds : List Nat) (dependencies : List Dependency) : Except Error (List Nat) := do
  let indegree := dependencies.foldl (fun indegree dependency =>
    Function.update indegree dependency.dependentServiceId (indegree dependency.dependentServiceId + 1))
    (fun _ => (0 : Int))
  let scan ← (List.range serviceIds.length).foldlM (fun scan _ => takeReady serviceIds dependencies scan)
    ⟨[], indegree⟩
  return scan.order

/-- The set of the services that are reachable. -/
def reachableSet : Marking (List Nat) Nat where
  has := fun marked service => decide (service ∈ marked)
  add := fun marked service => service :: marked
  has_add := by simp

/-- The strong dependencies, from a prerequisite to what depends on it. -/
def strongEdges (dependencies : List Dependency) : List (Nat × Nat) :=
  (dependencies.filter (·.kind = dependencyStrong)).map
    (fun item => (item.prerequisiteServiceId, item.dependentServiceId))

/-- Every service is reachable from the root. The loop ends when a pass changes nothing, which it
does after as many passes as there are services at the latest. -/
def checkReachable (header : Header) (tables : Tables) : Except Error Unit := do
  let root := tables.services.getD (header.rootServiceId - 1) emptyService
  let strongReachable := reachableSet.saturate (strongEdges tables.dependencies)
    (tables.services.length + 1) [root.serviceId]
  let serviceIds := tables.services.map Service.serviceId
  check ((∀ serviceId ∈ strongReachable, serviceId ∈ serviceIds) ∧
    ∀ serviceId ∈ serviceIds, serviceId ∈ strongReachable) .dependencyReachability

/-- A required service does not depend strongly on one that is not. -/
def checkAvailability (tables : Tables) (dependency : Dependency) : Except Error Unit := do
  let dependent := tables.services.getD (dependency.dependentServiceId - 1) emptyService
  let prerequisite := tables.services.getD (dependency.prerequisiteServiceId - 1) emptyService
  check (¬ (dependency.kind = dependencyStrong ∧ dependent.flags &&& serviceRequired ≠ 0 ∧
    prerequisite.flags &&& serviceRequired = 0)) .dependencyAvailability

/-- One service in the loop over the budgets. -/
def checkBudget (tables : Tables) (service : Service) : Except Error Unit := do
  let held := tables.capabilities.filter (·.holderServiceId = service.serviceId)
  let heldResources := (held.map Capability.resourceId).dedup
  let incoming := tables.dependencies.filter (·.dependentServiceId = service.serviceId)
  check ((service.capabilityCount, service.resourceCount, service.dependencyCount) =
    (held.length, heldResources.length, incoming.length)) .serviceBudget
  let resourceIds := tables.resources.map Resource.resourceId
  check (service.readyResourceId ∈ resourceIds ∧
    (tables.resources.getD (service.readyResourceId - 1) emptyResource).kind = resourceEndpointSlots)
    .healthPolicy

/-- One capability on what another service provides. -/
def checkRoute (tables : Tables) (ranks : Nat → Nat) (capability : Capability) : Except Error Unit := do
  let resource := tables.resources.getD (capability.resourceId - 1) emptyResource
  let provider := resource.providerServiceId
  if provider ≠ 0 ∧ provider ≠ capability.holderServiceId then
    check ((capability.holderServiceId, provider) ∈
        tables.dependencies.map (fun item => (item.dependentServiceId, item.prerequisiteServiceId)) ∧
      ranks provider < ranks capability.holderServiceId) .capabilityRoute

/-- The services in the order they are started in, and the rank of each of them. -/
def makeStartOrder (tables : Tables) : Except Error (List Nat) := do
  let startOrder ← topologicalOrder (tables.services.map Service.serviceId) tables.dependencies
  check (∀ service ∈ tables.services, service.startupRank = startOrder.idxOf service.serviceId) .startupRank
  return startOrder

def parse (data : Bytes) : Except Error Bundle := do
  let header ← parseHeader sha data
  let stringTable := data.slice header.stringOffset header.stringBytes
  let blob := data.slice header.blobOffset header.blobBytes
  let tables ← parseTables sha data header stringTable blob
  check (stringTable = canonicalStrings tables.names) .stringTable
  checkRoot header tables
  let startOrder ← makeStartOrder tables
  checkReachable header tables
  tables.dependencies.forM (checkAvailability tables)
  tables.services.forM (checkBudget tables)
  tables.capabilities.forM (checkRoute tables startOrder.idxOf)
  check ((tables.services.map Service.maxRestarts).sum = header.maxTotalRestarts) .lifecycle
  return {
    bundleVersion := header.bundleVersion
    minimumSecureVersion := header.minimumSecureVersion
    rootServiceId := header.rootServiceId
    allowedBootModes := header.allowedBootModes
    requiredKernelAbiMajor := header.kernelMajor
    minimumKernelAbiMinor := header.kernelMinor
    requiredPbpMajor := header.pbpMajor
    minimumPbpMinor := header.pbpMinor
    startTimeoutMs := header.startTimeoutMs
    rollbackTimeoutMs := header.rollbackTimeoutMs
    maxTotalRestarts := header.maxTotalRestarts
    components := tables.components
    services := tables.services
    dependencies := tables.dependencies
    resources := tables.resources
    capabilities := tables.capabilities
    startOrder
    bodySha256 := header.bodySha256
    raw := data }

end PooleOS.InitSys.Oracle
