import PooleOS.Lib.Arrays
import PooleOS.InitSys.Model

/- The native parser again, with everything that could panic in it: each index, each slice, each
plain sum, product and difference, and a loop that might not end. Conversions from a `u32` to a
`usize` keep the value. -/
namespace PooleOS.InitSys.Strict

def u16Values : Nat := 65536

/-- `MAX_COMPONENTS + MAX_SERVICES + MAX_RESOURCES`. -/
def maxNames : Nat := maxComponents + maxServices + maxResources

def emptyName : NameRef := ⟨0, 0⟩
def emptyDependency : DependencyMeta := ⟨0, 0, 0⟩

/-- `read_u16`, `read_u32` and `read_u64`: the bytes are picked one by one. -/
def read (width : Nat) (bytes : Bytes) (offset : Nat) : Outcome Error Nat := do
  let last ← plus offset width
  let value ← orRefuse (bytes.range? offset last) .truncated
  let picked ← (List.range width).mapM (byteAt value)
  return Bytes.little picked

/-- `u32::try_from(value).map_err(|_| reason)`. -/
def toU32 (value : Nat) (reason : Error) : Outcome Error Nat :=
  orRefuse (if value < u32Values then some value else none) reason

/-- `bytes[first..]`. -/
def tail (bytes : Bytes) (first : Nat) : Outcome Error Bytes := slice bytes first bytes.length

def align (value : Nat) : Outcome Error Nat := do
  let raised ← addOr value (recordAlignment - 1) .tableLayout
  return without raised (recordAlignment - 1)

def table (data : Bytes) (offset count size : Nat) : Outcome Error Bytes := do
  let bytes ← timesOr count size .tableBounds
  let last ← addOr offset bytes .tableBounds
  check (headerBytes ≤ offset) .tableBounds
  orRefuse (data.range? offset last) .tableBounds

/-- `table[index * size..(index + 1) * size]`. -/
def recordOf (table : Bytes) (index size : Nat) : Outcome Error Bytes := do
  let first ← times index size
  let next ← plus index 1
  let last ← times next size
  slice table first last

/-- `expected.checked_add(count.checked_mul(size).ok_or(..)?).ok_or(..)?`. -/
def offsetAfter (expected count size : Nat) : Outcome Error Nat := do
  let bytes ← timesOr count size .tableLayout
  addOr expected bytes .tableLayout

variable (sha : Sha256)

def parseHeader (data : Bytes) : Outcome Error Header := do
  check (headerBytes ≤ data.length) .truncated
  check (data.length ≤ maxBundleBytes) .oversized
  let start ← slice data 0 8
  check (start = magic) .magic
  let major ← read 2 data 8
  let minor ← read 2 data 10
  check (major = majorVersion ∧ minor = minorVersion) .version
  let size ← read 2 data 12
  let alignment ← read 2 data 14
  check (size = headerBytes ∧ alignment = recordAlignment) .headerSize
  let total ← read 4 data 16
  check (total = data.length) .totalSize
  let flags ← read 4 data 20
  check (flags = requiredFlags) .flags
  let bundleVersion ← read 8 data 24
  let minimumSecureVersion ← read 8 data 32
  check (bundleVersion ≠ 0 ∧ minimumSecureVersion ≠ 0 ∧ minimumSecureVersion ≤ bundleVersion) .versionFloor
  let rootServiceId ← read 4 data 40
  check (rootServiceId ≠ 0) .rootService
  let allowedBootModes ← read 4 data 44
  check (allowedBootModes ≠ 0 ∧ without allowedBootModes knownBootModes = 0) .bootModes
  let kernelMajor ← read 2 data 48
  let kernelMinor ← read 2 data 50
  let pbpMajor ← read 2 data 52
  let pbpMinor ← read 2 data 54
  check (kernelMajor ≠ 0 ∧ pbpMajor ≠ 0) .abi
  let componentCount ← read 2 data 56
  let serviceCount ← read 2 data 58
  let dependencyCount ← read 2 data 60
  let resourceCount ← read 2 data 62
  let capabilityCount ← read 2 data 64
  let reserved ← read 2 data 66
  check (reserved = 0) .reserved
  check ((1 ≤ componentCount ∧ componentCount ≤ maxComponents) ∧
    (1 ≤ serviceCount ∧ serviceCount ≤ maxServices) ∧ dependencyCount ≤ maxDependencies ∧
    (1 ≤ resourceCount ∧ resourceCount ≤ maxResources) ∧
    (1 ≤ capabilityCount ∧ capabilityCount ≤ maxCapabilities)) .count
  let componentOffset ← read 4 data 68
  let serviceOffset ← read 4 data 72
  let dependencyOffset ← read 4 data 76
  let resourceOffset ← read 4 data 80
  let capabilityOffset ← read 4 data 84
  let stringOffset ← read 4 data 88
  let stringBytes ← read 4 data 92
  let blobOffset ← read 4 data 96
  let blobBytes ← read 4 data 100
  check (stringBytes ≠ 0 ∧ stringBytes ≤ maxStringBytes ∧ blobBytes ≠ 0) .tableSize
  check (blobBytes ≤ maxComponentBlobBytes) .componentBlobSize
  let startTimeoutMs ← read 4 data 104
  let rollbackTimeoutMs ← read 4 data 108
  let maxTotalRestarts ← read 4 data 112
  check ((1 ≤ startTimeoutMs ∧ startTimeoutMs ≤ 300000) ∧ (1 ≤ rollbackTimeoutMs ∧ rollbackTimeoutMs ≤ 300000)) .timeout
  check (maxTotalRestarts ≤ 1024) .lifecycle
  let unused ← read 4 data 116
  let zeros ← slice data 152 headerBytes
  check (unused = 0 ∧ zeros.allZero) .reserved
  let expectedComponent := headerBytes
  let expectedService ← offsetAfter expectedComponent componentCount componentBytes
  let expectedDependency ← offsetAfter expectedService serviceCount serviceBytes
  let expectedResource ← offsetAfter expectedDependency dependencyCount dependencyBytes
  let expectedCapability ← offsetAfter expectedResource resourceCount resourceBytes
  let expectedString ← offsetAfter expectedCapability capabilityCount capabilityBytes
  let stringsEnd ← addOr expectedString stringBytes .tableLayout
  let expectedBlob ← align stringsEnd
  let blobEnd ← addOr blobOffset blobBytes .tableLayout
  check ([componentOffset, serviceOffset, dependencyOffset, resourceOffset, capabilityOffset,
      stringOffset] = [expectedComponent, expectedService, expectedDependency, expectedResource,
      expectedCapability, expectedString] ∧ blobOffset = expectedBlob ∧ blobEnd = data.length) .tableLayout
  let paddingStart ← plus stringOffset stringBytes
  let padding ← orRefuse (data.range? paddingStart blobOffset) .tableBounds
  check padding.allZero .padding
  let bodySha256 ← slice data 120 152
  let body ← tail data headerBytes
  check (sha.digest body = bodySha256) .bodyDigest
  return {
    bundleVersion, minimumSecureVersion, rootServiceId, allowedBootModes, kernelMajor, kernelMinor,
    pbpMajor, pbpMinor, componentCount, serviceCount, dependencyCount, resourceCount, capabilityCount,
    componentOffset, serviceOffset, dependencyOffset, resourceOffset, capabilityOffset, stringOffset,
    stringBytes, blobOffset, blobBytes, startTimeoutMs, rollbackTimeoutMs, maxTotalRestarts, bodySha256 }

def validName (bytes : Bytes) : Outcome Error Bool := do
  if bytes.length = 0 ∨ maxNameBytes < bytes.length then
    return false
  else
    let first ← byteAt bytes 0
    let place ← minus bytes.length 1
    let last ← byteAt bytes place
    return isLowercase first && (isLowercase last || isDigit last) &&
      bytes.all (fun byte => isLowercase byte || isDigit byte || isPunctuation byte) && !dotDot bytes

def nameRef (table : Bytes) (offset bytes : Nat) : Outcome Error NameRef := do
  let last ← addOr offset bytes .stringBounds
  check (bytes ≠ 0 ∧ bytes ≤ maxNameBytes ∧ last < table.length) .stringBounds
  let terminator ← byteAt table last
  check (terminator = 0) .stringTerminator
  let text ← slice table offset last
  let valid ← validName text
  check (valid = true) .name
  return ⟨offset, bytes⟩

/-- `table[name.offset..name.offset + name.bytes]`. -/
def textOf (table : Bytes) (name : NameRef) : Outcome Error Bytes := do
  let last ← plus name.offset name.bytes
  slice table name.offset last

/-- The array of names and how many there are. -/
structure NameTable where
  names : List NameRef
  count : Nat

def pushName (names : NameTable) (value : NameRef) (table : Bytes) : Outcome Error NameTable := do
  let earlier ← front names.names names.count
  earlier.forM (fun existing => do
    let one ← textOf table existing
    let two ← textOf table value
    check (one ≠ two) .nameDuplicate)
  let stored ← store names.names names.count value
  let count ← plus names.count 1
  return ⟨stored, count⟩

/-- `compare_names(left, right, table) == Ordering::Less`. -/
def nameLess (table : Bytes) (left right : NameRef) : Outcome Error Bool := do
  let one ← textOf table left
  let two ← textOf table right
  return decide (one.key < two.key)

/-- `names.swap(first, second)`. -/
def swap (names : List NameRef) (first second : Nat) : Outcome Error (List NameRef) := do
  let one ← item names first
  let two ← item names second
  let names ← store names first two
  store names second one

/-- One round of the sort: the least name from `index` on comes to `index`. -/
def sortRound (table : Bytes) (count : Nat) (names : List NameRef) (index : Nat) : Outcome Error (List NameRef) := do
  let next ← plus index 1
  let smallest ← (List.range' next (count - next)).foldlM (fun smallest candidate => do
    let left ← item names candidate
    let right ← item names smallest
    let less ← nameLess table left right
    return if less then candidate else smallest) index
  swap names index smallest

def validateStringTable (names : NameTable) (table : Bytes) : Outcome Error Unit := do
  let sorted ← (List.range names.count).foldlM (sortRound table names.count) names.names
  let listed ← front sorted names.count
  let cursor ← listed.foldlM (fun cursor value => do
    check (value.offset = cursor) .stringTable
    let size ← plus value.bytes 1
    addOr cursor size .stringTable) 0
  check (cursor = table.length) .stringTable

/-- What the loop over the components changes. -/
structure ComponentScan where
  kinds : List Nat
  cursor : Nat
  names : NameTable

def parseComponent (stringTable blob componentTable : Bytes) (scan : ComponentScan) (index : Nat) :
    Outcome Error ComponentScan := do
  let record ← recordOf componentTable index componentBytes
  let identity ← read 4 record 0
  let number ← plus index 1
  let expectedId ← toU32 number .componentRecord
  let reserved ← read 2 record 14
  let zeros ← tail record 72
  check (identity = expectedId ∧ reserved = 0 ∧ zeros.allZero) .componentRecord
  let kind ← read 2 record 4
  let flags ← read 2 record 6
  let formatId ← slice record 16 24
  let imageBytes ← read 4 record 32
  checkComponentKind kind flags formatId imageBytes
  let kinds ← store scan.kinds index kind
  let destinationAlignment ← read 4 record 36
  check (destinationAlignment ≠ 0 ∧ destinationAlignment ≤ 4096 ∧ isPowerOfTwo destinationAlignment)
    .componentAlignment
  let expected ← align scan.cursor
  let padding ← orRefuse (blob.range? scan.cursor expected) .componentBlobBounds
  check padding.allZero .padding
  let relativeOffset ← read 4 record 24
  let blobBytes ← read 4 record 28
  check (relativeOffset = expected ∧ blobBytes ≠ 0) .componentBlobBounds
  let last ← addOr relativeOffset blobBytes .componentBlobBounds
  let componentBlob ← orRefuse (blob.range? relativeOffset last) .componentBlobBounds
  let digest ← slice record 40 72
  check (sha.digest componentBlob = digest) .componentDigest
  let nameOffset ← read 4 record 8
  let nameBytes ← read 2 record 12
  let name ← nameRef stringTable nameOffset nameBytes
  let names ← pushName scan.names name stringTable
  return { kinds, cursor := last, names }

def parseComponents (data : Bytes) (header : Header) (stringTable blob : Bytes) : Outcome Error ComponentScan := do
  let componentTable ← table data header.componentOffset header.componentCount componentBytes
  let scan ← (List.range header.componentCount).foldlM (parseComponent sha stringTable blob componentTable)
    ⟨List.replicate maxComponents 0, 0, ⟨List.replicate maxNames emptyName, 0⟩⟩
  check (scan.cursor = blob.length) .componentBlobBounds
  return scan

/-- What a loop over records with names changes. -/
structure NamedScan (α : Type) where
  items : List α
  names : NameTable

def checkService (header : Header) (kinds : List Nat) (index : Nat) (record : Bytes) : Outcome Error ServiceMeta := do
  let serviceId ← read 4 record 0
  let componentId ← read 4 record 4
  let number ← plus index 1
  let expectedId ← toU32 number .serviceRecord
  check (serviceId = expectedId ∧ componentId ≠ 0 ∧ componentId ≤ header.componentCount) .serviceRecord
  let place ← minus componentId 1
  let kind ← item kinds place
  let zeros ← tail record 68
  check (kind = componentExecutable ∧ zeros.allZero) .serviceRecord
  let flags ← read 2 record 14
  check (without flags serviceKnownFlags = 0 ∧ ¬ (flags &&& serviceCritical ≠ 0 ∧ flags &&& serviceRequired = 0) ∧
    ¬ (flags &&& serviceRequired ≠ 0 ∧ flags &&& serviceAllowDegraded ≠ 0)) .serviceFlags
  let startupTimeout ← read 4 record 16
  let stopTimeout ← read 4 record 20
  check (startupTimeout ≠ 0 ∧ startupTimeout ≤ header.startTimeoutMs ∧ stopTimeout ≠ 0 ∧
    stopTimeout ≤ header.rollbackTimeoutMs) .timeout
  let restartPolicy ← read 2 record 24
  let failurePolicy ← read 2 record 26
  let readinessPolicy ← read 2 record 28
  check (restartPolicy ∈ [restartNever, restartOnFailure, restartAlways]) .restartPolicy
  check (failurePolicy ∈ [failureRollbackBundle, failureContinueDegraded]) .failurePolicy
  let shutdown ← read 2 record 30
  check (readinessPolicy ∈ [readinessImmediate, readinessExplicit] ∧ shutdown = shutdownReverseDependency) .lifecycle
  check (¬ (flags &&& serviceRequired ≠ 0 ∧ failurePolicy ≠ failureRollbackBundle) ∧
    ¬ (flags &&& serviceRequired = 0 ∧ failurePolicy ≠ failureContinueDegraded)) .failurePolicy
  let maxRestarts ← read 4 record 32
  let restartWindow ← read 4 record 36
  let backoffInitial ← read 4 record 40
  let backoffMax ← read 4 record 44
  if restartPolicy = restartNever then
    check (maxRestarts = 0 ∧ restartWindow = 0 ∧ backoffInitial = 0 ∧ backoffMax = 0) .restartPolicy
  else
    check ((1 ≤ maxRestarts ∧ maxRestarts ≤ 64) ∧ backoffInitial ≠ 0 ∧ backoffInitial ≤ backoffMax ∧
      backoffMax ≤ restartWindow ∧ restartWindow ≤ 3600000) .restartPolicy
  let healthTimeout ← read 4 record 48
  let readyResourceId ← read 4 record 52
  check (healthTimeout ≠ 0 ∧ healthTimeout ≤ startupTimeout ∧
    ¬ (readinessPolicy = readinessExplicit ∧ readyResourceId = 0)) .healthPolicy
  let stateSchemaVersion ← read 4 record 64
  check (flags &&& serviceStateless ≠ 0 ↔ stateSchemaVersion = 0) .stateSchema
  let capabilityCount ← read 2 record 56
  let resourceCount ← read 2 record 58
  let dependencyCount ← read 2 record 60
  let startupRank ← read 2 record 62
  return {
    flags, restartPolicy, readyResourceId, capabilityCount, resourceCount, dependencyCount, startupRank,
    maxRestarts }

/-- The end of a round: the record is stored, and its name is pushed. -/
def keepNamed {α : Type} (stringTable record : Bytes) (scan : NamedScan α) (index : Nat) (value : α) :
    Outcome Error (NamedScan α) := do
  let items ← store scan.items index value
  let nameOffset ← read 4 record 8
  let nameBytes ← read 2 record 12
  let name ← nameRef stringTable nameOffset nameBytes
  let names ← pushName scan.names name stringTable
  return ⟨items, names⟩

def parseService (header : Header) (kinds : List Nat) (stringTable serviceTable : Bytes)
    (scan : NamedScan ServiceMeta) (index : Nat) : Outcome Error (NamedScan ServiceMeta) := do
  let record ← recordOf serviceTable index serviceBytes
  let service ← checkService header kinds index record
  keepNamed stringTable record scan index service

def parseServices (data : Bytes) (header : Header) (kinds : List Nat) (stringTable : Bytes)
    (names : NameTable) : Outcome Error (NamedScan ServiceMeta) := do
  let serviceTable ← table data header.serviceOffset header.serviceCount serviceBytes
  (List.range header.serviceCount).foldlM (parseService header kinds stringTable serviceTable)
    ⟨List.replicate maxServices emptyService, names⟩

def parseDependency (header : Header) (dependencyTable : Bytes)
    (scan : List DependencyMeta × (Nat × Nat)) (index : Nat) :
    Outcome Error (List DependencyMeta × (Nat × Nat)) := do
  let record ← recordOf dependencyTable index dependencyBytes
  let dependent ← read 4 record 0
  let prerequisite ← read 4 record 4
  let pair := (dependent, prerequisite)
  check (pairLess scan.2 pair ∧ dependent ≠ prerequisite ∧ dependent ≠ 0 ∧ prerequisite ≠ 0 ∧
    dependent ≤ header.serviceCount ∧ prerequisite ≤ header.serviceCount) .dependencyRecord
  let kind ← read 2 record 8
  let reserved ← read 2 record 10
  let unused ← read 4 record 12
  check (kind ∈ [dependencyStrong, dependencyWeak] ∧ reserved = 0 ∧ unused = 0) .dependencyKind
  let dependencies ← store scan.1 index ⟨dependent, prerequisite, kind⟩
  return (dependencies, pair)

def parseDependencies (data : Bytes) (header : Header) : Outcome Error (List DependencyMeta) := do
  let dependencyTable ← table data header.dependencyOffset header.dependencyCount dependencyBytes
  let scan ← (List.range header.dependencyCount).foldlM (parseDependency header dependencyTable)
    (List.replicate maxDependencies emptyDependency, (0, 0))
  return scan.1

def checkResource (header : Header) (index : Nat) (record : Bytes) : Outcome Error ResourceMeta := do
  let resourceId ← read 4 record 0
  let provider ← read 4 record 4
  let kind ← read 2 record 14
  let number ← plus index 1
  let expectedId ← toU32 number .resourceRecord
  let unused ← read 4 record 20
  let reserved ← read 4 record 44
  check (resourceId = expectedId ∧ provider ≤ header.serviceCount ∧ unused = 0 ∧ reserved = 0) .resourceRecord
  let limit ← orRefuse (resourceLimit kind) .resourceRecord
  let flags ← read 4 record 16
  check (without flags resourceKnownFlags = 0 ∧ flags &&& resourceRevocable ≠ 0 ∧
    ¬ (flags &&& resourceShareable ≠ 0 ↔ flags &&& resourceExclusive ≠ 0) ∧
    ¬ (kind ≠ resourceMemoryPages ∧ flags &&& resourceZeroOnRevoke ≠ 0)) .resourceFlags
  let minimum ← read 8 record 24
  let maximum ← read 8 record 32
  let generation ← read 4 record 40
  check (minimum ≠ 0 ∧ minimum ≤ maximum ∧ maximum ≤ limit ∧ generation ≠ 0 ∧
    ¬ (kind ∈ [resourceAddressSpace, resourceLogSink] ∧ (minimum ≠ 1 ∨ maximum ≠ 1))) .resourceBounds
  return { provider, kind }

def parseResource (header : Header) (stringTable resourceTable : Bytes) (scan : NamedScan ResourceMeta)
    (index : Nat) : Outcome Error (NamedScan ResourceMeta) := do
  let record ← recordOf resourceTable index resourceBytes
  let resource ← checkResource header index record
  keepNamed stringTable record scan index resource

def parseResources (data : Bytes) (header : Header) (stringTable : Bytes) (names : NameTable) :
    Outcome Error (NamedScan ResourceMeta) := do
  let resourceTable ← table data header.resourceOffset header.resourceCount resourceBytes
  (List.range header.resourceCount).foldlM (parseResource header stringTable resourceTable)
    ⟨List.replicate maxResources emptyResource, names⟩

def parseCapability (header : Header) (resources : List ResourceMeta) (capabilityTable : Bytes)
    (capabilities : List CapabilityMeta) (index : Nat) : Outcome Error (List CapabilityMeta) := do
  let record ← recordOf capabilityTable index capabilityBytes
  let capabilityId ← read 4 record 0
  let parent ← read 4 record 4
  let holder ← read 4 record 8
  let resource ← read 4 record 12
  let number ← plus index 1
  let expectedId ← toU32 number .capabilityRecord
  let zeros ← tail record 40
  check (capabilityId = expectedId ∧ holder ≠ 0 ∧ holder ≤ header.serviceCount ∧ resource ≠ 0 ∧
    resource ≤ header.resourceCount ∧ zeros.allZero) .capabilityRecord
  check (parent < capabilityId) .capabilityParent
  let place ← minus resource 1
  let resourceMeta ← item resources place
  let rights ← read 8 record 16
  check (rights ≠ 0 ∧ without rights (resourceRights resourceMeta.kind) = 0) .capabilityRights
  let flags ← read 4 record 24
  check (without flags capKnownFlags = 0 ∧
    flags &&& (capRevocable ||| capLifecycleBound) = capRevocable ||| capLifecycleBound) .capabilityFlags
  let revokeGroup ← read 4 record 28
  let availability ← read 2 record 38
  let unused ← read 4 record 32
  let maxDerivations ← read 2 record 36
  check (revokeGroup ≠ 0 ∧ unused = 0 ∧ maxDerivations ≤ maxCapabilities) .capabilityLifecycle
  check (availability ∈ [availabilityRequired, availabilityOptional]) .capabilityAvailability
  if parent = 0 then
    checkSource header resourceMeta holder
  else
    let parentPlace ← minus parent 1
    let parentMeta ← item capabilities parentPlace
    checkParent parentMeta resource rights revokeGroup availability
  store capabilities index ⟨holder, resource, rights, flags, revokeGroup, availability⟩

def parseCapabilities (data : Bytes) (header : Header) (resources : List ResourceMeta) :
    Outcome Error (List CapabilityMeta) := do
  let capabilityTable ← table data header.capabilityOffset header.capabilityCount capabilityBytes
  (List.range header.capabilityCount).foldlM (parseCapability header resources capabilityTable)
    (List.replicate maxCapabilities emptyCapability)

/-- The arrays after the five tables. -/
structure Tables where
  services : List ServiceMeta
  dependencies : List DependencyMeta
  resources : List ResourceMeta
  capabilities : List CapabilityMeta
  names : NameTable

def parseTables (data : Bytes) (header : Header) (stringTable blob : Bytes) : Outcome Error Tables := do
  let components ← parseComponents sha data header stringTable blob
  let services ← parseServices data header components.kinds stringTable components.names
  let dependencies ← parseDependencies data header
  let resources ← parseResources data header stringTable services.names
  let capabilities ← parseCapabilities data header resources.items
  return ⟨services.items, dependencies, resources.items, capabilities, resources.names⟩

def checkRoot (header : Header) (tables : Tables) : Outcome Error Unit := do
  let rootIndex ← minus header.rootServiceId 1
  check (rootIndex < header.serviceCount) .rootService
  let root ← item tables.services rootIndex
  check (root.flags = rootServiceFlags ∧ root.restartPolicy = restartNever) .rootService
  let services ← front tables.services header.serviceCount
  services.zipIdx.forM (fun (service, index) =>
    check (¬ (index ≠ rootIndex ∧ service.flags &&& (serviceBootstrap ||| serviceDropBootstrap) ≠ 0)) .rootService)
  let dependencies ← front tables.dependencies header.dependencyCount
  check (¬ ∃ item ∈ dependencies, item.dependent = header.rootServiceId) .rootService

/-- `kind == DEPENDENCY_STRONG && ..`: a required service depends on one that is not. -/
def checkAvailable (services : List ServiceMeta) (entry : DependencyMeta) (dependent : Nat) : Outcome Error Unit := do
  if entry.kind = dependencyStrong then
    let service ← item services dependent
    if service.flags &&& serviceRequired ≠ 0 then
      let place ← minus entry.prerequisite 1
      let prerequisite ← item services place
      check (prerequisite.flags &&& serviceRequired ≠ 0) .dependencyAvailability

def countDependency (services : List ServiceMeta) (indegree : List Nat) (entry : DependencyMeta) :
    Outcome Error (List Nat) := do
  let dependent ← minus entry.dependent 1
  let degree ← item indegree dependent
  let more ← orRefuse (checkedAdd u16Values degree 1) .dependencyRecord
  let indegree ← store indegree dependent more
  checkAvailable services entry dependent
  return indegree

structure StartScan where
  startOrder : List Nat
  selected : List Bool
  indegree : List Nat

/-- `for service in 0..header.service_count`: the first that is ready. -/
def findReady (selected : List Bool) (indegree : List Nat) : List Nat → Outcome Error (Option Nat)
  | [] => return none
  | service :: rest => do
      let taken ← item selected service
      if taken = false then
        let degree ← item indegree service
        if degree = 0 then return some service else findReady selected indegree rest
      else findReady selected indegree rest

def release (serviceId : Nat) (indegree : List Nat) (entry : DependencyMeta) : Outcome Error (List Nat) := do
  if entry.prerequisite = serviceId then
    let dependent ← minus entry.dependent 1
    let degree ← item indegree dependent
    let less ← orRefuse (if 1 ≤ degree then some (degree - 1) else none) .dependencyRecord
    store indegree dependent less
  else
    return indegree

def startNext (header : Header) (tables : Tables) (scan : StartScan) (rank : Nat) : Outcome Error StartScan := do
  let found ← findReady scan.selected scan.indegree (List.range header.serviceCount)
  let ready ← orRefuse found .dependencyCycle
  let selected ← store scan.selected ready true
  let number ← plus ready 1
  let serviceId ← toU32 number .dependencyCycle
  let startOrder ← store scan.startOrder rank serviceId
  let service ← item tables.services ready
  check (service.startupRank = rank) .startupRank
  let dependencies ← front tables.dependencies header.dependencyCount
  let indegree ← dependencies.foldlM (release serviceId) scan.indegree
  return { startOrder, selected, indegree }

def makeStartOrder (header : Header) (tables : Tables) : Outcome Error (List Nat) := do
  let dependencies ← front tables.dependencies header.dependencyCount
  let indegree ← dependencies.foldlM (countDependency tables.services) (List.replicate maxServices 0)
  -- `start_order.iter_mut().enumerate().take(header.service_count)`
  let scan ← ((List.range maxServices).take header.serviceCount).foldlM (startNext header tables)
    ⟨List.replicate maxServices 0, List.replicate maxServices false, indegree⟩
  return scan.startOrder

/-- One dependency in a pass of the loop that marks what is reachable. -/
def touch (marks : List Bool × Bool) (entry : DependencyMeta) : Outcome Error (List Bool × Bool) := do
  if entry.kind = dependencyStrong then
    let prerequisite ← minus entry.prerequisite 1
    let dependent ← minus entry.dependent 1
    let source ← item marks.1 prerequisite
    if source = true then
      let target ← item marks.1 dependent
      if target = false then
        let reachable ← store marks.1 dependent true
        return (reachable, true)
      else return marks
    else return marks
  else return marks

/-- `loop { .. if !changed { break; } }`; a loop that takes more passes than this counts as a panic. -/
def reachLoop (dependencies : List DependencyMeta) : Nat → List Bool → Outcome Error (List Bool)
  | 0, _ => .error .panicked
  | passes + 1, reachable => do
      let (next, changed) ← dependencies.foldlM touch (reachable, false)
      if changed = true then reachLoop dependencies passes next else return next

def checkReachable (header : Header) (tables : Tables) : Outcome Error Unit := do
  let rootIndex ← minus header.rootServiceId 1
  let start ← store (List.replicate maxServices false) rootIndex true
  let dependencies ← front tables.dependencies header.dependencyCount
  let reachable ← reachLoop dependencies (header.serviceCount + 1) start
  let listed ← front reachable header.serviceCount
  check (∀ reached ∈ listed, reached = true) .dependencyReachability

structure HeldScan where
  heldCount : Nat
  resourceSeen : List Bool
  heldResources : Nat

def countHeld (serviceId : Nat) (scan : HeldScan) (capability : CapabilityMeta) : Outcome Error HeldScan := do
  if capability.holder = serviceId then
    let heldCount ← plus scan.heldCount 1
    let resource ← minus capability.resource 1
    let seen ← item scan.resourceSeen resource
    if seen = true then return { scan with heldCount }
    else
      let resourceSeen ← store scan.resourceSeen resource true
      let heldResources ← plus scan.heldResources 1
      return { heldCount, resourceSeen, heldResources }
  else return scan

/-- One round of the loop over the budgets, for `service_id = index + 1`. -/
def checkBudget (header : Header) (tables : Tables) (totalRestarts index : Nat) : Outcome Error Nat := do
  let serviceId := index + 1
  let place ← minus serviceId 1
  let service ← item tables.services place
  let capabilities ← front tables.capabilities header.capabilityCount
  let held ← capabilities.foldlM (countHeld serviceId) ⟨0, List.replicate maxResources false, 0⟩
  let dependencies ← front tables.dependencies header.dependencyCount
  let incoming := (dependencies.filter (·.dependent = serviceId)).length
  check (service.capabilityCount = held.heldCount ∧ service.resourceCount = held.heldResources ∧
    service.dependencyCount = incoming) .serviceBudget
  let readyResource ← minus service.readyResourceId 1
  check (readyResource < header.resourceCount) .healthPolicy
  let resource ← item tables.resources readyResource
  check (resource.kind = resourceEndpointSlots) .healthPolicy
  orRefuse (checkedAdd u32Values totalRestarts service.maxRestarts) .lifecycle

def checkRoute (header : Header) (tables : Tables) (ranks : List Nat) (capability : CapabilityMeta) :
    Outcome Error Unit := do
  let place ← minus capability.resource 1
  let resource ← item tables.resources place
  if resource.provider ≠ 0 ∧ resource.provider ≠ capability.holder then
    let dependencies ← front tables.dependencies header.dependencyCount
    check (hasDependency dependencies capability.holder resource.provider) .capabilityRoute
    let provider ← minus resource.provider 1
    let holder ← minus capability.holder 1
    let one ← item ranks provider
    let two ← item ranks holder
    check (one < two) .capabilityRoute

def rankService (ranks : List Nat) (entry : Nat × Nat) : Outcome Error (List Nat) := do
  let place ← minus entry.1 1
  store ranks place entry.2

def checkBudgets (header : Header) (tables : Tables) (startOrder : List Nat) : Outcome Error Unit := do
  let started ← front startOrder header.serviceCount
  let ranks ← started.zipIdx.foldlM rankService (List.replicate maxServices 0)
  let totalRestarts ← (List.range header.serviceCount).foldlM (checkBudget header tables) 0
  check (totalRestarts = header.maxTotalRestarts) .lifecycle
  let capabilities ← front tables.capabilities header.capabilityCount
  capabilities.forM (checkRoute header tables ranks)

def parse (data : Bytes) : Outcome Error Bundle := do
  let header ← parseHeader sha data
  let stringEnd ← plus header.stringOffset header.stringBytes
  let stringTable ← orRefuse (data.range? header.stringOffset stringEnd) .tableBounds
  let blobEnd ← plus header.blobOffset header.blobBytes
  let blob ← orRefuse (data.range? header.blobOffset blobEnd) .tableBounds
  let tables ← parseTables sha data header stringTable blob
  validateStringTable tables.names stringTable
  checkRoot header tables
  let startOrder ← makeStartOrder header tables
  checkReachable header tables
  checkBudgets header tables startOrder
  return {
    bundleVersion := header.bundleVersion
    minimumSecureVersion := header.minimumSecureVersion
    rootServiceId := header.rootServiceId
    allowedBootModes := header.allowedBootModes
    requiredKernelAbiMajor := header.kernelMajor
    minimumKernelAbiMinor := header.kernelMinor
    requiredPbpMajor := header.pbpMajor
    minimumPbpMinor := header.pbpMinor
    startTimeoutMs := header.startTimeoutMs
    rollbackTimeoutMs := header.rollbackTimeoutMs
    maxTotalRestarts := header.maxTotalRestarts
    componentCount := header.componentCount
    serviceCount := header.serviceCount
    dependencyCount := header.dependencyCount
    resourceCount := header.resourceCount
    capabilityCount := header.capabilityCount
    startOrder
    bodySha256 := header.bodySha256
    raw := data }

end PooleOS.InitSys.Strict
