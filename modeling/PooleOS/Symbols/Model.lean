import PooleOS.Lib.Bytes
import PooleOS.Lib.Masks
import PooleOS.Lib.Result

/- The PSYM1 symbol bundle (`native/symbols/src/lib.rs`). The reads of the header come after
the check of its length, so they are total here. -/
namespace PooleOS.Symbols

/-- What `parse`, `lookup` and `authorize_consumption` answer. -/
inductive Error
  | truncated
  | oversized
  | magic
  | version
  | headerSize
  | recordSize
  | reserved
  | flags
  | profile
  | addressModel
  | nameEncoding
  | privacy
  | counts
  | totalSize
  | tableLayout
  | stringSize
  | bounds
  | lookupPolicy
  | imageSize
  | virtualWindow
  | slideAlignment
  | entryOffset
  | identity
  | bodyDigest
  | segmentId
  | segmentKind
  | segmentFlags
  | segmentOrder
  | segmentRange
  | segmentCoverage
  | symbolId
  | symbolSegment
  | symbolKind
  | symbolBinding
  | symbolVisibility
  | symbolPrivacy
  | symbolFlags
  | symbolNameLayout
  | symbolNameSize
  | symbolNameAscii
  | symbolNameFingerprint
  | symbolRange
  | symbolOrder
  | symbolSegmentRange
  | symbolPermissions
  | entrySymbol
  | stringCoverage
  | lookupBase
  | lookupAddress
  | lookupBound
  | activationOuterSignature
  | activationInnerSignature
  | activationManifestSignature
  | activationKernelSignature
  | activationOuterRole
  | activationOuterVersion
  | activationOuterPayloadDigest
  | activationOuterFileDigest
  | activationCanonicalIdentity
  | activationLoadedIdentity
  | activationBuildId
  | activationDebugIdentity
  | activationSourceIdentity
  | activationIdentityEvidence
  | activationStrippedCorrespondence
  | activationDwarf5
  | activationPublicPolicy
  | activationSourcePaths
  | activationPointerRedaction
  | activationDiagnosticsAuthority
  | activationRuntimeBase
  | activationSymbolCapacity
  | activationStringCapacity
  | activationLookupCapacity
  | activationAuthorityEffect
deriving DecidableEq, Repr

/-- `PSYM1`, padded with zeros. -/
def magic : Bytes := [0x50, 0x53, 0x59, 0x4d, 0x31, 0, 0, 0]
def majorVersion : Nat := 1
def minorVersion : Nat := 0
def headerBytes : Nat := 384
def segmentBytes : Nat := 32
def symbolBytes : Nat := 48
def maxBundleBytes : Nat := 512 * 1024
def maxImageBytes : Nat := 64 * 1024 * 1024
def maxSegments : Nat := 16
def maxSymbols : Nat := 4096
def maxNameBytes : Nat := 127
def maxStringBytes : Nat := 256 * 1024
def maxLookupSteps : Nat := 13

def profilePublicDiagnostic : Nat := 1
def addressImageRelative : Nat := 1
def nameAsciiOpaque : Nat := 1
def privacyPublic : Nat := 1
def lookupBinarySearch : Nat := 1
def manglingOpaqueLinker : Nat := 1
def pointerRedactRuntime : Nat := 1

/-- The fifteen flags of the header. -/
def requiredFlags : Nat := 0x7fff

def segmentRead : Nat := 1
def segmentWrite : Nat := 2
def segmentExecute : Nat := 4
def segmentRelro : Nat := 8
def segmentKnownFlags : Nat := segmentRead ||| segmentWrite ||| segmentExecute ||| segmentRelro
def segmentRodata : Nat := 1
def segmentText : Nat := 2
def segmentRelroData : Nat := 3
def segmentDataBss : Nat := 4

def symbolFunction : Nat := 1
def symbolObject : Nat := 2
def bindGlobal : Nat := 1
def visibilityDefault : Nat := 0
def symbolExecutable : Nat := 1
def symbolEntry : Nat := 2
def symbolPanicSafe : Nat := 4
def symbolDiagnosticPublic : Nat := 8
def symbolKnownFlags : Nat := symbolExecutable ||| symbolEntry ||| symbolPanicSafe ||| symbolDiagnosticPublic

/-- `poole_kernel_entry`. -/
def entryName : Bytes :=
  [0x70, 0x6f, 0x6f, 0x6c, 0x65, 0x5f, 0x6b, 0x65, 0x72, 0x6e, 0x65, 0x6c, 0x5f, 0x65, 0x6e, 0x74, 0x72, 0x79]

structure Identity where
  canonicalFileSha256 : Bytes
  preferredLoadedSha256 : Bytes
  buildIdSha256 : Bytes
  debugFileSha256 : Bytes
  sourceManifestSha256 : Bytes
deriving DecidableEq, Repr

structure Segment where
  segmentId : Nat
  kind : Nat
  flags : Nat
  startOffset : Nat
  byteCount : Nat
deriving DecidableEq, Repr

structure Symbol where
  symbolId : Nat
  segmentId : Nat
  kind : Nat
  binding : Nat
  visibility : Nat
  privacy : Nat
  flags : Nat
  startOffset : Nat
  byteCount : Nat
  name : Bytes
deriving DecidableEq, Repr

structure Bundle where
  raw : Bytes
  flags : Nat
  imageBytes : Nat
  preferredVirtualBase : Nat
  virtualWindowEndExclusive : Nat
  slideAlignment : Nat
  entryOffset : Nat
  identity : Identity
  bodySha256 : Bytes
  segmentCount : Nat
  symbolCount : Nat
  stringBytes : Nat
  segmentOffset : Nat
  symbolOffset : Nat
  stringOffset : Nat
deriving DecidableEq, Repr

structure LookupResult where
  symbol : Symbol
  symbolOffset : Nat
  steps : Nat
deriving DecidableEq, Repr

structure ConsumptionContext where
  outerRole : Nat
  outerVersion : Nat
  outerPayloadSha256 : Bytes
  outerFileSha256 : Bytes
  expectedOuterFileSha256 : Bytes
  outerSignatureVerified : Bool
  innerSignatureVerified : Bool
  manifestSignatureVerified : Bool
  kernelSignatureVerified : Bool
  canonicalFileSha256 : Bytes
  preferredLoadedSha256 : Bytes
  buildIdSha256 : Bytes
  debugFileSha256 : Bytes
  sourceManifestSha256 : Bytes
  identityEvidenceVerified : Bool
  strippedCorrespondenceVerified : Bool
  dwarf5Verified : Bool
  publicPolicyVerified : Bool
  sourcePathsAbsent : Bool
  pointerRedactionEnabled : Bool
  diagnosticsAuthorized : Bool
  runtimeBase : Nat
  symbolCapacity : Nat
  stringCapacity : Nat
  lookupStepCapacity : Nat
  authorityEffectRequested : Bool
deriving DecidableEq, Repr

section Checks

/-- `u16_at`, `u32_at` and `u64_at`. -/
def wordAt (data : Bytes) (offset width : Nat) : Except Error Nat := do
  let value ← orError (data.range? offset (offset + width)) .truncated
  return value.little

/-- `is_canonical_x86_64` of a `u64`. -/
def isCanonicalX8664 (value : Nat) : Prop :=
  value >>> 48 = if (value >>> 47) &&& 1 = 1 then 0xffff else 0

instance (value : Nat) : Decidable (isCanonicalX8664 value) := inferInstanceAs (Decidable (_ = _))

/-- `is_power_of_two` of a `u64`. -/
def isPowerOfTwo (value : Nat) : Prop := value ≠ 0 ∧ value &&& (value - 1) = 0

instance (value : Nat) : Decidable (isPowerOfTwo value) := inferInstanceAs (Decidable (_ ∧ _))

def checkedEnd (start count maximum : Nat) (reason : Error) : Except Error Nat := do
  demand (¬ (count = 0 ∨ maximum < start ∨ maximum - start < count)) reason
  return start + count

def expectedSegmentFlags (kind : Nat) : Except Error Nat :=
  if kind = segmentRodata then .ok segmentRead
  else if kind = segmentText then .ok (segmentRead ||| segmentExecute)
  else if kind = segmentRelroData then .ok (segmentRead ||| segmentRelro)
  else if kind = segmentDataBss then .ok (segmentRead ||| segmentWrite)
  else .error .segmentKind

def isAlphanumeric (byte : UInt8) : Bool :=
  (0x30 ≤ byte && byte ≤ 0x39) || (0x41 ≤ byte && byte ≤ 0x5a) || (0x61 ≤ byte && byte ≤ 0x7a)

/-- `_.$@-`. -/
def namePunctuation : Bytes := [0x5f, 0x2e, 0x24, 0x40, 0x2d]

/-- `.$@-`. -/
def leadingPunctuation : Bytes := [0x2e, 0x24, 0x40, 0x2d]

def nameAllowed (name : Bytes) : Bool :=
  !name.isEmpty && !leadingPunctuation.contains (name.headD 0) &&
    name.all (fun byte => isAlphanumeric byte || namePunctuation.contains byte)

variable (sha : Sha256)

def nameFingerprint (name : Bytes) : Nat := Bytes.little ((sha.digest name).take 4)

def segmentRaw (data : Bytes) (offset : Nat) : Except Error Segment := do
  return {
    segmentId := ← wordAt data offset 2
    kind := ← wordAt data (offset + 2) 2
    flags := ← wordAt data (offset + 4) 4
    startOffset := ← wordAt data (offset + 8) 8
    byteCount := ← wordAt data (offset + 16) 8 }

/-- The single bytes lie before a word that has been read by then. -/
def symbolRaw (data : Bytes) (offset stringOffset stringBytes : Nat) : Except Error Symbol := do
  let nameOffset ← wordAt data (offset + 12) 4
  let nameBytes ← wordAt data (offset + 16) 2
  demand (¬ (stringBytes < nameOffset ∨ stringBytes - nameOffset < nameBytes)) .symbolNameSize
  let absoluteName := stringOffset + nameOffset
  return {
    symbolId := ← wordAt data offset 4
    segmentId := ← wordAt data (offset + 4) 2
    kind := data.word (offset + 6) 1
    binding := data.word (offset + 7) 1
    visibility := data.word (offset + 8) 1
    privacy := data.word (offset + 9) 1
    flags := ← wordAt data (offset + 10) 2
    startOffset := ← wordAt data (offset + 24) 8
    byteCount := ← wordAt data (offset + 32) 8
    name := ← orError (data.range? absoluteName (absoluteName + nameBytes)) .truncated }

end Checks

namespace Bundle

def segment (self : Bundle) (index : Nat) : Except Error Segment := do
  demand (index < self.segmentCount) .segmentId
  segmentRaw self.raw (self.segmentOffset + index * segmentBytes)

def symbol (self : Bundle) (index : Nat) : Except Error Symbol := do
  demand (index < self.symbolCount) .symbolId
  symbolRaw self.raw (self.symbolOffset + index * symbolBytes) self.stringOffset self.stringBytes

end Bundle

section Parse

variable (sha : Sha256)

/-- What `parse` reads before its loops. -/
def parseHeader (data : Bytes) : Except Error Bundle := do
  demand (headerBytes ≤ data.length) .truncated
  demand (¬ maxBundleBytes < data.length) .oversized
  demand (data.take 8 = magic) .magic
  demand ((data.word 8 2, data.word 10 2) = (majorVersion, minorVersion)) .version
  demand (data.word 12 2 = headerBytes) .headerSize
  demand ((data.word 14 2, data.word 16 2) = (segmentBytes, symbolBytes)) .recordSize
  demand (data.word 18 2 = 0) .reserved
  let flags := data.word 20 4
  demand (flags = requiredFlags) .flags
  demand (data.word 24 2 = profilePublicDiagnostic) .profile
  demand (data.word 26 2 = addressImageRelative) .addressModel
  demand (data.word 28 2 = nameAsciiOpaque) .nameEncoding
  demand (data.word 30 2 = privacyPublic) .privacy
  let segmentCount := data.word 32 4
  let symbolCount := data.word 36 4
  demand ((1 ≤ segmentCount ∧ segmentCount ≤ maxSegments) ∧ (1 ≤ symbolCount ∧ symbolCount ≤ maxSymbols)) .counts
  let totalBytes := data.word 40 8
  demand (totalBytes = data.length) .totalSize
  let segmentOffset := data.word 48 8
  let symbolOffset := data.word 56 8
  let stringOffset := data.word 64 8
  let stringBytes := data.word 72 8
  let expectedSymbolOffset := headerBytes + segmentCount * segmentBytes
  let expectedStringOffset := expectedSymbolOffset + symbolCount * symbolBytes
  demand (¬ (segmentOffset ≠ headerBytes ∨ symbolOffset ≠ expectedSymbolOffset ∨
    stringOffset ≠ expectedStringOffset ∨ data.length < stringOffset)) .tableLayout
  demand (¬ (stringBytes = 0 ∨ maxStringBytes < stringBytes ∨ stringBytes ≠ data.length - stringOffset)) .stringSize
  demand ((data.word 120 4, data.word 124 4, data.word 128 4, data.word 132 4) =
    (maxSegments, maxSymbols, maxNameBytes, maxLookupSteps)) .bounds
  demand ((data.word 136 2, data.word 138 2, data.word 140 2) =
    (lookupBinarySearch, manglingOpaqueLinker, pointerRedactRuntime)) .lookupPolicy
  demand (data.word 142 2 = 0) .reserved
  let imageBytes := data.word 80 8
  demand (¬ (imageBytes = 0 ∨ maxImageBytes < imageBytes)) .imageSize
  let preferredVirtualBase := data.word 88 8
  let virtualWindowEndExclusive := data.word 96 8
  demand (¬ (virtualWindowEndExclusive ≤ preferredVirtualBase ∨ ¬ isCanonicalX8664 preferredVirtualBase ∨
    ¬ isCanonicalX8664 (virtualWindowEndExclusive - 1) ∨
    virtualWindowEndExclusive - preferredVirtualBase < imageBytes)) .virtualWindow
  let slideAlignment := data.word 104 8
  demand (¬ (slideAlignment < 4096 ∨ ¬ isPowerOfTwo slideAlignment ∨ preferredVirtualBase % slideAlignment ≠ 0))
    .slideAlignment
  let entryOffset := data.word 112 8
  demand (¬ imageBytes ≤ entryOffset) .entryOffset
  let identity : Identity := {
    canonicalFileSha256 := data.slice 144 32
    preferredLoadedSha256 := data.slice 176 32
    buildIdSha256 := data.slice 208 32
    debugFileSha256 := data.slice 240 32
    sourceManifestSha256 := data.slice 272 32 }
  demand (List.replicate 32 0 ∉ [identity.canonicalFileSha256, identity.preferredLoadedSha256,
    identity.buildIdSha256, identity.debugFileSha256, identity.sourceManifestSha256]) .identity
  demand ((data.slice 336 (headerBytes - 336)).allZero) .reserved
  let bodySha256 := data.slice 304 32
  demand (sha.digest (data.drop headerBytes) = bodySha256) .bodyDigest
  return {
    raw := data, flags, imageBytes, preferredVirtualBase, virtualWindowEndExclusive, slideAlignment, entryOffset
    identity, bodySha256, segmentCount, symbolCount, stringBytes, segmentOffset, symbolOffset, stringOffset }

/-- One round of the loop over the segments, which carries the end of the one before. -/
def checkSegment (bundle : Bundle) (previousEnd index : Nat) : Except Error Nat := do
  let offset := bundle.segmentOffset + index * segmentBytes
  let segment ← segmentRaw bundle.raw offset
  demand (segment.segmentId = index + 1) .segmentId
  let expectedFlags ← expectedSegmentFlags segment.kind
  demand (¬ (without segment.flags segmentKnownFlags ≠ 0 ∨ segment.flags ≠ expectedFlags ∨
    (segment.flags &&& segmentWrite ≠ 0 ∧ segment.flags &&& segmentExecute ≠ 0))) .segmentFlags
  demand (segment.startOffset = previousEnd) .segmentOrder
  let previousEnd ← checkedEnd segment.startOffset segment.byteCount bundle.imageBytes .segmentRange
  demand ((← wordAt bundle.raw (offset + 24) 8) = 0) .reserved
  return previousEnd

/-- What the loop over the symbols carries. -/
structure Scan where
  expectedNameOffset : Nat
  previousSymbolEnd : Nat
  entryCount : Nat
deriving DecidableEq, Repr

/-- One round of the loop over the symbols. -/
def checkSymbol (bundle : Bundle) (scan : Scan) (index : Nat) : Except Error Scan := do
  let data := bundle.raw
  let offset := bundle.symbolOffset + index * symbolBytes
  let symbolId ← wordAt data offset 4
  let segmentId ← wordAt data (offset + 4) 2
  let kind := data.word (offset + 6) 1
  let binding := data.word (offset + 7) 1
  let visibility := data.word (offset + 8) 1
  let privacy := data.word (offset + 9) 1
  let flags ← wordAt data (offset + 10) 2
  demand (symbolId = index + 1) .symbolId
  demand (¬ (segmentId = 0 ∨ bundle.segmentCount < segmentId)) .symbolSegment
  demand (kind = symbolFunction ∨ kind = symbolObject) .symbolKind
  demand (binding = bindGlobal) .symbolBinding
  demand (visibility = visibilityDefault) .symbolVisibility
  demand (privacy = privacyPublic) .symbolPrivacy
  demand (¬ (without flags symbolKnownFlags ≠ 0 ∨ flags &&& symbolDiagnosticPublic = 0)) .symbolFlags
  let nameOffset ← wordAt data (offset + 12) 4
  demand (nameOffset = scan.expectedNameOffset) .symbolNameLayout
  let nameBytes ← wordAt data (offset + 16) 2
  demand (¬ (nameBytes = 0 ∨ maxNameBytes < nameBytes ∨ bundle.stringBytes < nameOffset ∨
    bundle.stringBytes - nameOffset < nameBytes)) .symbolNameSize
  let symbol ← symbolRaw data offset bundle.stringOffset bundle.stringBytes
  demand (¬ ((← wordAt data (offset + 18) 2) ≠ 0 ∨ (← wordAt data (offset + 40) 8) ≠ 0)) .reserved
  demand (nameAllowed symbol.name) .symbolNameAscii
  demand ((← wordAt data (offset + 20) 4) = nameFingerprint sha symbol.name) .symbolNameFingerprint
  let finish ← checkedEnd symbol.startOffset symbol.byteCount bundle.imageBytes .symbolRange
  demand (¬ (index ≠ 0 ∧ symbol.startOffset < scan.previousSymbolEnd)) .symbolOrder
  let segment ← segmentRaw data (bundle.segmentOffset + (symbol.segmentId - 1) * segmentBytes)
  demand (¬ (symbol.startOffset < segment.startOffset ∨ segment.startOffset + segment.byteCount < finish))
    .symbolSegmentRange
  let executable := segment.flags &&& segmentExecute ≠ 0
  if symbol.kind = symbolFunction then
    demand (¬ (¬ executable ∨ symbol.flags &&& symbolExecutable = 0)) .symbolPermissions
  else
    demand (¬ (executable ∨ symbol.flags &&& symbolExecutable ≠ 0)) .symbolPermissions
  let entry := symbol.flags &&& symbolEntry ≠ 0
  demand (entry → ¬ (symbol.startOffset ≠ bundle.entryOffset ∨ symbol.kind ≠ symbolFunction ∨
    symbol.name ≠ entryName)) .entrySymbol
  return {
    expectedNameOffset := scan.expectedNameOffset + symbol.name.length
    previousSymbolEnd := finish
    entryCount := if entry then scan.entryCount + 1 else scan.entryCount }

def parse (data : Bytes) : Except Error Bundle := do
  let bundle ← parseHeader sha data
  let previousEnd ← (List.range bundle.segmentCount).foldlM (checkSegment bundle) 0
  demand (previousEnd = bundle.imageBytes) .segmentCoverage
  let scan ← (List.range bundle.symbolCount).foldlM (checkSymbol sha bundle) ⟨0, 0, 0⟩
  demand (scan.expectedNameOffset = bundle.stringBytes) .stringCoverage
  demand (scan.entryCount = 1) .entrySymbol
  return bundle

end Parse

section Lookup

/-- The binary search between two indices; each round narrows them. -/
def search (bundle : Bundle) (target low high steps : Nat) : Except Error (Option LookupResult) :=
  if low < high then do
    let steps := steps + 1
    demand (¬ maxLookupSteps < steps) .lookupBound
    let middle := low + (high - low) / 2
    let symbol ← bundle.symbol middle
    if target < symbol.startOffset then search bundle target low middle steps
    else if symbol.startOffset + symbol.byteCount ≤ target then search bundle target (middle + 1) high steps
    else return some { symbol, symbolOffset := target - symbol.startOffset, steps }
  else .ok none
termination_by high - low

def lookup (bundle : Bundle) (runtimeBase runtimeAddress : Nat) : Except Error (Option LookupResult) := do
  demand (¬ (runtimeBase < bundle.preferredVirtualBase ∨
    bundle.virtualWindowEndExclusive - bundle.imageBytes < runtimeBase ∨
    (runtimeBase - bundle.preferredVirtualBase) % bundle.slideAlignment ≠ 0 ∨ ¬ isCanonicalX8664 runtimeBase))
    .lookupBase
  let runtimeEnd ← orError (checkedAdd (2 ^ 64) runtimeBase bundle.imageBytes) .lookupAddress
  demand (¬ (runtimeAddress < runtimeBase ∨ runtimeEnd ≤ runtimeAddress ∨ ¬ isCanonicalX8664 runtimeAddress))
    .lookupAddress
  search bundle (runtimeAddress - runtimeBase) 0 bundle.symbolCount 0

end Lookup

section Consumption

variable (sha : Sha256)

/-- The checks of a consumption, in order. -/
def consumptionChecks (bundle : Bundle) (context : ConsumptionContext) : List (Bool × Error) :=
  [(context.outerSignatureVerified, .activationOuterSignature),
    (context.innerSignatureVerified, .activationInnerSignature),
    (context.manifestSignatureVerified, .activationManifestSignature),
    (context.kernelSignatureVerified, .activationKernelSignature),
    (context.outerRole == 4, .activationOuterRole),
    (context.outerVersion == majorVersion, .activationOuterVersion),
    (context.outerPayloadSha256 == sha.digest bundle.raw, .activationOuterPayloadDigest),
    (context.outerFileSha256 == context.expectedOuterFileSha256 && context.outerFileSha256 != List.replicate 32 0,
      .activationOuterFileDigest),
    (context.canonicalFileSha256 == bundle.identity.canonicalFileSha256, .activationCanonicalIdentity),
    (context.preferredLoadedSha256 == bundle.identity.preferredLoadedSha256, .activationLoadedIdentity),
    (context.buildIdSha256 == bundle.identity.buildIdSha256, .activationBuildId),
    (context.debugFileSha256 == bundle.identity.debugFileSha256, .activationDebugIdentity),
    (context.sourceManifestSha256 == bundle.identity.sourceManifestSha256, .activationSourceIdentity),
    (context.identityEvidenceVerified, .activationIdentityEvidence),
    (context.strippedCorrespondenceVerified, .activationStrippedCorrespondence),
    (context.dwarf5Verified, .activationDwarf5),
    (context.publicPolicyVerified, .activationPublicPolicy),
    (context.sourcePathsAbsent, .activationSourcePaths),
    (context.pointerRedactionEnabled, .activationPointerRedaction),
    (context.diagnosticsAuthorized, .activationDiagnosticsAuthority),
    (decide (bundle.preferredVirtualBase ≤ context.runtimeBase ∧
      context.runtimeBase ≤ bundle.virtualWindowEndExclusive - bundle.imageBytes ∧
      (context.runtimeBase - bundle.preferredVirtualBase) % bundle.slideAlignment = 0), .activationRuntimeBase),
    (decide (bundle.symbolCount ≤ context.symbolCapacity), .activationSymbolCapacity),
    (decide (bundle.stringBytes ≤ context.stringCapacity), .activationStringCapacity),
    (decide (maxLookupSteps ≤ context.lookupStepCapacity), .activationLookupCapacity),
    (!context.authorityEffectRequested, .activationAuthorityEffect)]

def authorizeConsumption (bundle : Bundle) (context : ConsumptionContext) : Except Error Unit :=
  (consumptionChecks sha bundle context).forM (fun check => demand (check.1 = true) check.2)

/-- `ConsumptionContext::synthetic_qualified`. -/
def ConsumptionContext.syntheticQualified (bundle : Bundle) : ConsumptionContext where
  outerRole := 4
  outerVersion := majorVersion
  outerPayloadSha256 := sha.digest bundle.raw
  outerFileSha256 := List.replicate 32 0xa5
  expectedOuterFileSha256 := List.replicate 32 0xa5
  outerSignatureVerified := true
  innerSignatureVerified := true
  manifestSignatureVerified := true
  kernelSignatureVerified := true
  canonicalFileSha256 := bundle.identity.canonicalFileSha256
  preferredLoadedSha256 := bundle.identity.preferredLoadedSha256
  buildIdSha256 := bundle.identity.buildIdSha256
  debugFileSha256 := bundle.identity.debugFileSha256
  sourceManifestSha256 := bundle.identity.sourceManifestSha256
  identityEvidenceVerified := true
  strippedCorrespondenceVerified := true
  dwarf5Verified := true
  publicPolicyVerified := true
  sourcePathsAbsent := true
  pointerRedactionEnabled := true
  diagnosticsAuthorized := true
  runtimeBase := bundle.preferredVirtualBase
  symbolCapacity := bundle.symbolCount
  stringCapacity := bundle.stringBytes
  lookupStepCapacity := maxLookupSteps
  authorityEffectRequested := false

end Consumption

end PooleOS.Symbols
