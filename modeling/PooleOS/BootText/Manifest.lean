import PooleOS.BootText.Paths

/- The system manifest PSM1: `native/manifest/src/lib.rs`, and its oracle
`runtime/native_system_manifest.py`. -/
namespace PooleOS.BootText

/-- `classify_key` knows the header keys and the fields of `artifact.<id>.<field>`. -/
def manifestFormat : Format where
  magic := ascii "POOLEOS-SYSTEM-MANIFEST/1.0"
  family := ascii "POOLEOS-SYSTEM-MANIFEST/"
  endMarker := ascii "end=PSM1"
  maxBytes := 64 * 1024
  maxLineBytes := 384
  maxLines := 192
  minLines := 15
  tooLarge := .manifestTooLarge
  headerKeys := [ascii "manifest_id", ascii "slot", ascii "manifest_version", ascii "minimum_secure_version",
    ascii "artifact_count"]
  group := ascii "artifact."
  fields := [ascii "type", ascii "format", ascii "version", ascii "path", ascii "file_bytes", ascii "image_bytes",
    ascii "sha256", ascii "entry_contract"]
  paired := by decide
  plain := by decide

def maxArtifacts : Nat := 16
def maxManifestIdBytes : Nat := 63
def maxFormatBytes : Nat := 16
def maxEntryContractBytes : Nat := 16
def maxFileBytes : Nat := 64 * 1024 * 1024
def maxImageBytes : Nat := 512 * 1024 * 1024
def maxSlot : Nat := 4

inductive ArtifactKind
  | kernel | initialSystem | recovery | symbols | microcode | firmware | policy | pooleGlyph
  deriving DecidableEq, Repr

def ArtifactKind.asStr : ArtifactKind → Bytes
  | .kernel => ascii "kernel"
  | .initialSystem => ascii "initial_system"
  | .recovery => ascii "recovery"
  | .symbols => ascii "symbols"
  | .microcode => ascii "microcode"
  | .firmware => ascii "firmware"
  | .policy => ascii "policy"
  | .pooleGlyph => ascii "pooleglyph"

def ArtifactKind.parse (value : Bytes) : Except Error ArtifactKind :=
  if value = ascii "kernel" then .ok .kernel
  else if value = ascii "initial_system" then .ok .initialSystem
  else if value = ascii "recovery" then .ok .recovery
  else if value = ascii "symbols" then .ok .symbols
  else if value = ascii "microcode" then .ok .microcode
  else if value = ascii "firmware" then .ok .firmware
  else if value = ascii "policy" then .ok .policy
  else if value = ascii "pooleglyph" then .ok .pooleGlyph
  else .error .artifactType

structure Artifact where
  id : Bytes
  kind : ArtifactKind
  format : Bytes
  version : Nat
  path : Bytes
  fileBytes : Nat
  imageBytes : Nat
  sha256 : Bytes
  entryContract : Bytes
  deriving DecidableEq

structure SystemManifest where
  manifestId : Bytes
  slot : Nat
  manifestVersion : Nat
  minimumSecureVersion : Nat
  artifacts : List Artifact
  deriving DecidableEq

section Parse

def hexNibble (byte : UInt8) : Except Error UInt8 := orError (nibbleValue byte) .digest

/-- One round of the loop of `parse_digest`. The digest is the bytes written so far. -/
def digestByte (value digest : Bytes) (index : Nat) : Except Error Bytes := do
  let high ← hexNibble (value.getD (index * 2) 0)
  let low ← hexNibble (value.getD (index * 2 + 1) 0)
  return digest ++ [high <<< 4 ||| low]

def parseDigest (value : Bytes) : Except Error Bytes := do
  demand (value.length = 64) .digest
  (List.range 32).foldlM (digestByte value) []

/-- What the loop over the artifacts carries. -/
structure Progress where
  previousId : Bytes
  kernelCount : Nat
  storage : List Artifact

/-- The checks of the values of an artifact. -/
def checkArtifact (minimumSecureVersion : Nat) (storage : List Artifact) (id typeValue formatValue versionValue pathValue
    fileValue imageValue digestValue entryValue : Bytes) : Except Error Artifact := do
  let kind ← ArtifactKind.parse typeValue
  demand (validUpperIdentifier formatValue maxFormatBytes = true) .format
  let version ← parseRange versionValue 1 u64Max
  demand (minimumSecureVersion ≤ version) .versionFloor
  validatePath pathValue
  storage.forM fun previous => demand (previous.path ≠ pathValue) .duplicatePath
  let fileBytes ← parseRange fileValue 1 maxFileBytes
  let imageBytes ← parseRange imageValue 0 maxImageBytes
  let digest ← parseDigest digestValue
  demand (entryValue = ascii "none" ∨ validUpperIdentifier entryValue maxEntryContractBytes = true) .entryContract
  if kind = .kernel then
    demand (¬ (formatValue ≠ ascii "PKELF1" ∨ entryValue ≠ ascii "PKENTRY1" ∨ imageBytes = 0)) .binding
  else demand (entryValue = ascii "none") .entryContract
  return ⟨id, kind, formatValue, version, pathValue, fileBytes, imageBytes, digest, entryValue⟩

/-- One round of the loop over the artifacts. `id <= previous_id` compares bytes. -/
def parseArtifact (bytes : Bytes) (minimumSecureVersion : Nat) (progress : Progress) (artifactIndex : Nat) :
    Except Error Progress := do
  let base := 6 + artifactIndex * 8
  let (typeKey, typeValue) ← pairAt bytes base
  let id ← recordKey manifestFormat typeKey (ascii "type")
  demand (¬ (progress.previousId ≠ [] ∧ ¬ progress.previousId < id)) .artifactOrder
  let (formatKey, formatValue) ← pairAt bytes (base + 1)
  let (versionKey, versionValue) ← pairAt bytes (base + 2)
  let (pathKey, pathValue) ← pairAt bytes (base + 3)
  let (fileKey, fileValue) ← pairAt bytes (base + 4)
  let (imageKey, imageValue) ← pairAt bytes (base + 5)
  let (digestKey, digestValue) ← pairAt bytes (base + 6)
  let (entryKey, entryValue) ← pairAt bytes (base + 7)
  [(formatKey, ascii "format"), (versionKey, ascii "version"), (pathKey, ascii "path"), (fileKey, ascii "file_bytes"),
    (imageKey, ascii "image_bytes"), (digestKey, ascii "sha256"), (entryKey, ascii "entry_contract")].forM
      fun (key, field) => do
        let other ← recordKey manifestFormat key field
        demand (other = id) .keyOrder
  let artifact ← checkArtifact minimumSecureVersion progress.storage id typeValue formatValue versionValue pathValue
    fileValue imageValue digestValue entryValue
  return ⟨id, progress.kernelCount + (if artifact.kind = .kernel then 1 else 0), progress.storage ++ [artifact]⟩

/-- `parse` with storage for so many artifacts. -/
def parseManifest (bytes : Bytes) (capacity : Nat) : Except Error SystemManifest := do
  let lineCount ← openText manifestFormat bytes
  let manifestId ← expectValue manifestFormat bytes 1 (ascii "manifest_id")
  demand (validUpperIdentifier manifestId maxManifestIdBytes = true) .identifier
  let slotValue ← expectValue manifestFormat bytes 2 (ascii "slot")
  let slot ← parseRange slotValue 1 maxSlot
  let versionValue ← expectValue manifestFormat bytes 3 (ascii "manifest_version")
  let manifestVersion ← parseRange versionValue 1 u64Max
  let floorValue ← expectValue manifestFormat bytes 4 (ascii "minimum_secure_version")
  let minimumSecureVersion ← parseRange floorValue 0 u64Max
  demand (minimumSecureVersion ≤ manifestVersion) .versionFloor
  let countValue ← expectValue manifestFormat bytes 5 (ascii "artifact_count")
  let artifactCount ← parseRange countValue 1 maxArtifacts
  checkLines manifestFormat bytes lineCount (7 + artifactCount * 8)
  demand (artifactCount ≤ capacity) .outputCapacity
  let progress ← (List.range artifactCount).foldlM (parseArtifact bytes minimumSecureVersion) ⟨[], 0, []⟩
  demand (progress.kernelCount = 1) .kernelCount
  return ⟨manifestId, slot, manifestVersion, minimumSecureVersion, progress.storage⟩

end Parse

namespace Oracle

/-- The oracle keeps the type and the digest as text. -/
structure Artifact where
  id : Bytes
  type : Bytes
  format : Bytes
  version : Nat
  path : Bytes
  fileBytes : Nat
  imageBytes : Nat
  sha256 : Bytes
  entryContract : Bytes
  deriving DecidableEq

structure SystemManifest where
  manifestId : Bytes
  slot : Nat
  manifestVersion : Nat
  minimumSecureVersion : Nat
  artifacts : List Artifact
  deriving DecidableEq

def artifactTypes : List Bytes :=
  [ascii "kernel", ascii "initial_system", ascii "recovery", ascii "symbols", ascii "microcode", ascii "firmware",
    ascii "policy", ascii "pooleglyph"]

/-- `_classify_key` of the manifest, which splits at every dot. -/
def classifyManifestKey (key : Bytes) : KeyClass :=
  if key ∈ manifestFormat.headerKeys then .known
  else if ¬ ascii "artifact." <+: key then .unknown
  else
    match key.splitOn dot with
    | [_, identifier, field] =>
      if ¬ validLowerIdentifier identifier then .invalidIdentifier
      else if field ∈ manifestFormat.fields then .known
      else .unknown
    | _ => .unknown

def expected (entries : List (Bytes × Bytes)) (index : Nat) (key : Bytes) : Except Error Bytes := do
  let (observed, value) ← orError entries[index]? .truncated
  demand (observed = key) (classifyManifestKey observed).error
  return value

/-- The identifier in the first key of an artifact. -/
def artifactId (key : Bytes) : Except Error Bytes :=
  let refused := if classifyManifestKey key = .invalidIdentifier then Error.identifier else .unknownKey
  match key.splitOn dot with
  | [group, identifier, field] => do
    demand (group = ascii "artifact" ∧ validLowerIdentifier identifier = true) refused
    demand (field = ascii "type") .keyOrder
    return identifier
  | _ => .error refused

/-- `re.fullmatch(r"[0-9A-F]{64}", digest)`. -/
def matchesDigest (digest : Bytes) : Bool :=
  digest.length = 64 && digest.all fun byte => isDigit byte || 65 ≤ byte && byte ≤ 70

structure Progress where
  previousId : Bytes
  paths : List Bytes
  artifacts : List Artifact

def checkArtifact (minimumSecureVersion : Nat) (paths : List Bytes) (artifactId typeValue formatValue versionValue
    pathValue fileValue imageValue digest entryContract : Bytes) : Except Error Artifact := do
  demand (typeValue ∈ artifactTypes) .artifactType
  demand (validUpperIdentifier formatValue maxFormatBytes = true) .format
  let version ← manifestNumber versionValue 1 (2 ^ 64 - 1)
  demand (minimumSecureVersion ≤ version) .versionFloor
  validatePath pathValue
  demand (pathValue ∉ paths) .duplicatePath
  let fileBytes ← manifestNumber fileValue 1 maxFileBytes
  let imageBytes ← manifestNumber imageValue 0 maxImageBytes
  demand (matchesDigest digest = true) .digest
  demand (entryContract = ascii "none" ∨ validUpperIdentifier entryContract maxEntryContractBytes = true) .entryContract
  if typeValue = ascii "kernel" then
    demand (¬ (formatValue ≠ ascii "PKELF1" ∨ entryContract ≠ ascii "PKENTRY1" ∨ imageBytes = 0)) .binding
  else demand (entryContract = ascii "none") .entryContract
  return ⟨artifactId, typeValue, formatValue, version, pathValue, fileBytes, imageBytes, digest, entryContract⟩

def parseArtifact (entries : List (Bytes × Bytes)) (minimumSecureVersion : Nat) (progress : Progress)
    (artifactIndex : Nat) : Except Error Progress := do
  let base := 5 + artifactIndex * 8
  let (firstKey, typeValue) ← orError entries[base]? .truncated
  let id ← artifactId firstKey
  demand (¬ (progress.previousId ≠ [] ∧ ¬ progress.previousId < id)) .artifactOrder
  let formatValue ← expected entries (base + 1) (fieldKey manifestFormat id (ascii "format"))
  let versionValue ← expected entries (base + 2) (fieldKey manifestFormat id (ascii "version"))
  let pathValue ← expected entries (base + 3) (fieldKey manifestFormat id (ascii "path"))
  let fileValue ← expected entries (base + 4) (fieldKey manifestFormat id (ascii "file_bytes"))
  let imageValue ← expected entries (base + 5) (fieldKey manifestFormat id (ascii "image_bytes"))
  let digest ← expected entries (base + 6) (fieldKey manifestFormat id (ascii "sha256"))
  let entryContract ← expected entries (base + 7) (fieldKey manifestFormat id (ascii "entry_contract"))
  let artifact ← checkArtifact minimumSecureVersion progress.paths id typeValue formatValue versionValue pathValue fileValue
    imageValue digest entryContract
  return ⟨id, progress.paths ++ [pathValue], progress.artifacts ++ [artifact]⟩

def parseManifest (data : Bytes) : Except Error SystemManifest := do
  let lines ← frame manifestFormat data
  let entries ← manifestPairs (inner lines)
  let manifestId ← expected entries 0 (ascii "manifest_id")
  demand (validUpperIdentifier manifestId maxManifestIdBytes = true) .identifier
  let slotValue ← expected entries 1 (ascii "slot")
  let slot ← manifestNumber slotValue 1 maxSlot
  let versionValue ← expected entries 2 (ascii "manifest_version")
  let manifestVersion ← manifestNumber versionValue 1 (2 ^ 64 - 1)
  let floorValue ← expected entries 3 (ascii "minimum_secure_version")
  let minimumSecureVersion ← manifestNumber floorValue 0 (2 ^ 64 - 1)
  demand (minimumSecureVersion ≤ manifestVersion) .versionFloor
  let countValue ← expected entries 4 (ascii "artifact_count")
  let artifactCount ← manifestNumber countValue 1 maxArtifacts
  demand (7 + artifactCount * 8 ≤ lines.length) .truncated
  let extra := (entries[5 + artifactCount * 8]?.map fun entry => classifyManifestKey entry.1).getD .known
  demand (lines.length = 7 + artifactCount * 8) extra.error
  let progress ← (List.range artifactCount).foldlM (parseArtifact entries minimumSecureVersion) ⟨[], [], []⟩
  demand ((progress.artifacts.filter fun artifact => artifact.type = ascii "kernel").length = 1) .kernelCount
  return ⟨manifestId, slot, manifestVersion, minimumSecureVersion, progress.artifacts⟩

end Oracle

end PooleOS.BootText
