import PooleOS.BootText.Manifest
import PooleOS.BootText.Text
import PooleOS.Lib.Collect

/- The grammar of the manifest: which manifests there are, how each is written, and that
both parsers accept exactly what is written so. -/
namespace PooleOS.BootText

open List

section Rule

/-- The lines of an artifact. -/
def Artifact.entries (artifact : Artifact) : List (Bytes × Bytes) :=
  [(fieldKey manifestFormat artifact.id (ascii "type"), artifact.kind.asStr),
    (fieldKey manifestFormat artifact.id (ascii "format"), artifact.format),
    (fieldKey manifestFormat artifact.id (ascii "version"), decimal artifact.version),
    (fieldKey manifestFormat artifact.id (ascii "path"), artifact.path),
    (fieldKey manifestFormat artifact.id (ascii "file_bytes"), decimal artifact.fileBytes),
    (fieldKey manifestFormat artifact.id (ascii "image_bytes"), decimal artifact.imageBytes),
    (fieldKey manifestFormat artifact.id (ascii "sha256"), hexUpper artifact.sha256),
    (fieldKey manifestFormat artifact.id (ascii "entry_contract"), artifact.entryContract)]

/-- The lines of the header. -/
def SystemManifest.header (manifest : SystemManifest) : List (Bytes × Bytes) :=
  [(ascii "manifest_id", manifest.manifestId), (ascii "slot", decimal manifest.slot),
    (ascii "manifest_version", decimal manifest.manifestVersion),
    (ascii "minimum_secure_version", decimal manifest.minimumSecureVersion),
    (ascii "artifact_count", decimal manifest.artifacts.length)]

def SystemManifest.entries (manifest : SystemManifest) : List (Bytes × Bytes) :=
  manifest.header ++ manifest.artifacts.flatMap Artifact.entries

/-- The one text of a manifest. -/
def SystemManifest.render (manifest : SystemManifest) : Bytes := textOf manifestFormat manifest.entries

/-- What the values of an artifact may be, for a floor of its version. -/
structure Artifact.Checked (floor : Nat) (artifact : Artifact) : Prop where
  format : validUpperIdentifier artifact.format maxFormatBytes = true
  version : 1 ≤ artifact.version ∧ artifact.version ≤ u64Max
  floor : floor ≤ artifact.version
  path : ArtifactPath artifact.path
  file : 1 ≤ artifact.fileBytes ∧ artifact.fileBytes ≤ maxFileBytes
  image : artifact.imageBytes ≤ maxImageBytes
  digest : artifact.sha256.length = 32
  kernel : artifact.kind = .kernel →
    artifact.format = ascii "PKELF1" ∧ artifact.entryContract = ascii "PKENTRY1" ∧ artifact.imageBytes ≠ 0
  other : artifact.kind ≠ .kernel → artifact.entryContract = ascii "none"

/-- The field rules of a manifest. -/
structure SystemManifest.Valid (manifest : SystemManifest) : Prop where
  manifestId : validUpperIdentifier manifest.manifestId maxManifestIdBytes = true
  slot : 1 ≤ manifest.slot ∧ manifest.slot ≤ maxSlot
  version : 1 ≤ manifest.manifestVersion ∧ manifest.manifestVersion ≤ u64Max
  floor : manifest.minimumSecureVersion ≤ manifest.manifestVersion
  count : 1 ≤ manifest.artifacts.length ∧ manifest.artifacts.length ≤ maxArtifacts
  ids : ∀ artifact ∈ manifest.artifacts, validLowerIdentifier artifact.id = true
  checked : ∀ artifact ∈ manifest.artifacts, artifact.Checked manifest.minimumSecureVersion
  ordered : manifest.artifacts.Pairwise fun first second => first.id < second.id
  paths : manifest.artifacts.Pairwise fun first second => first.path ≠ second.path
  kernel : manifest.artifacts.countP (fun artifact => artifact.kind = .kernel) = 1

end Rule

section Values

variable {value digest : Bytes} {kind : ArtifactKind}

theorem kind_parse_eq_ok : ArtifactKind.parse value = .ok kind ↔ value = kind.asStr := by
  constructor
  · intro parsed
    unfold ArtifactKind.parse at parsed
    simp only [ite_eq_ok, Except.ok.injEq, reduceCtorEq] at parsed
    by_contra other
    cases kind <;> simp_all [ArtifactKind.asStr]
  · rintro rfl
    cases kind <;> rfl

theorem mem_artifactTypes : value ∈ Oracle.artifactTypes ↔ ∃ kind : ArtifactKind, value = kind.asStr := by
  constructor
  · intro member
    simp only [Oracle.artifactTypes, mem_cons, not_mem_nil, or_false] at member
    rcases member with rfl | rfl | rfl | rfl | rfl | rfl | rfl | rfl
    exacts [⟨.kernel, rfl⟩, ⟨.initialSystem, rfl⟩, ⟨.recovery, rfl⟩, ⟨.symbols, rfl⟩, ⟨.microcode, rfl⟩,
      ⟨.firmware, rfl⟩, ⟨.policy, rfl⟩, ⟨.pooleGlyph, rfl⟩]
  · rintro ⟨kind, rfl⟩
    cases kind <;> decide

theorem asStr_inj {other : ArtifactKind} (same : kind.asStr = other.asStr) : kind = other := by
  have one := kind_parse_eq_ok.mpr (show kind.asStr = kind.asStr from rfl)
  rw [same, kind_parse_eq_ok.mpr (show other.asStr = other.asStr from rfl)] at one
  exact (Except.ok.inj one).symm

/-- Two digits of a digest. -/
theorem digit_pair {index : Nat} (inside : 2 * index + 2 ≤ value.length) :
    (value.drop (2 * index)).take 2 = [value.getD (index * 2) 0, value.getD (index * 2 + 1) 0] := by
  have first : index * 2 < value.length := by omega
  have second : index * 2 + 1 < value.length := by omega
  rw [Nat.mul_comm, drop_eq_getElem_cons first, drop_eq_getElem_cons second,
    getD_eq_getElem?_getD, getD_eq_getElem?_getD, getElem?_eq_getElem first,
    getElem?_eq_getElem second]
  rfl

theorem digestByte_eq_ok {front next : Bytes} (inside : 2 * front.length + 2 ≤ value.length) :
    digestByte value front front.length = .ok next ↔
      ∃ byte, (value.drop (2 * front.length)).take 2 = hexByte byte ∧ next = front ++ [byte] := by
  unfold digestByte hexNibble
  simp only [digit_pair inside, eq_hexByte_iff, bind_eq_ok_iff, orError_eq_ok, pure_eq_ok]
  constructor
  · rintro ⟨high, one, low, two, rfl⟩
    exact ⟨_, ⟨high, low, one, two, rfl⟩, rfl⟩
  · rintro ⟨_, ⟨high, low, one, two, rfl⟩, rfl⟩
    exact ⟨high, one, low, two, rfl⟩

/-- A digest is read two digits a byte. -/
def DigestRule (value front : Bytes) (byte : UInt8) : Prop :=
  (value.drop (2 * front.length)).take 2 = hexByte byte

theorem digest_loop_eq_ok (length : value.length = 64) : (range 32).foldlM (digestByte value) [] = .ok digest ↔
      ∃ items, (Collected (DigestRule value) items ∧ items.length = 32) ∧ digest = items :=
  @collect_eq_ok _ _ _ (DigestRule value) _ (fun front => front) 32
    (fun front next _ less => digestByte_eq_ok (by omega)) digest

theorem parseDigest_eq_ok : parseDigest value = .ok digest ↔ digest.length = 32 ∧ value = hexUpper digest := by
  unfold parseDigest
  rw [demand_bind_eq_ok]
  constructor
  · rintro ⟨length, ran⟩
    obtain ⟨items, ⟨collected, full⟩, rfl⟩ := (digest_loop_eq_ok length).mp ran
    refine ⟨full, ?_⟩
    have read := collected.chunks fun _ _ same => same
    rwa [full, take_of_length_le (by omega)] at read
  · rintro ⟨full, rfl⟩
    have length : (hexUpper digest).length = 64 := by
      rw [hexUpper_length, full]
    refine ⟨length, (digest_loop_eq_ok length).mpr
      ⟨digest, ⟨Collected.of_split fun front byte back same => ?_, full⟩, rfl⟩⟩
    rw [same]
    exact chunk_of_split hexByte_length front byte back

/-- The letters of a digest are those of some bytes. -/
theorem matchesDigest_iff :
    Oracle.matchesDigest value = true ↔ ∃ digest : Bytes, digest.length = 32 ∧ value = hexUpper digest := by
  unfold Oracle.matchesDigest
  simp only [← isSome_nibbleValue, Bool.and_eq_true, decide_eq_true_eq, all_eq_true]
  constructor
  · rintro ⟨length, digits⟩
    exact exists_hexUpper digits length
  · rintro ⟨digest, full, rfl⟩
    exact ⟨by rw [hexUpper_length, full], fun byte member => isSome_of_mem_hexUpper member⟩

end Values

section Artifacts

variable {floor : Nat} {artifact : Artifact}
  {id typeValue formatValue versionValue pathValue fileValue imageValue digestValue entryValue : Bytes}

/-- The values of an artifact as text. -/
structure Artifact.Spelled (artifact : Artifact) (typeValue formatValue versionValue pathValue fileValue imageValue
    digestValue entryValue : Bytes) : Prop where
  type : typeValue = artifact.kind.asStr
  format : formatValue = artifact.format
  version : versionValue = decimal artifact.version
  path : pathValue = artifact.path
  file : fileValue = decimal artifact.fileBytes
  image : imageValue = decimal artifact.imageBytes
  digest : digestValue = hexUpper artifact.sha256
  entry : entryValue = artifact.entryContract

/-- The check of the entry contract before the kind is looked at asks nothing more. -/
theorem Artifact.Checked.entry (checked : artifact.Checked floor) :
    artifact.entryContract = ascii "none" ∨ validUpperIdentifier artifact.entryContract maxEntryContractBytes = true := by
  by_cases kernel : artifact.kind = .kernel
  · right
    rw [(checked.kernel kernel).2.1]
    decide
  · exact .inl (checked.other kernel)

theorem checkArtifact_eq_ok {storage : List Artifact} :
    checkArtifact floor storage id typeValue formatValue versionValue pathValue fileValue imageValue digestValue
        entryValue = .ok artifact ↔
      (artifact.Checked floor ∧ ∀ previous ∈ storage, previous.path ≠ artifact.path) ∧ id = artifact.id ∧
        artifact.Spelled typeValue formatValue versionValue pathValue fileValue imageValue digestValue entryValue := by
  unfold checkArtifact
  simp only [bind_eq_ok_iff, kind_parse_eq_ok, demand_eq_ok, parseRange_eq_ok (Nat.le_refl u64Max),
    parseRange_eq_ok (show maxFileBytes ≤ u64Max by decide), parseRange_eq_ok (show maxImageBytes ≤ u64Max by decide),
    validatePath_eq_ok, forM_eq_ok, parseDigest_eq_ok, exists_const, ite_bind_eq_ok, pure_eq_ok]
  constructor
  · rintro ⟨kind, rfl, format, version, ⟨bounds, rfl⟩, above, path, fresh, fileBytes, ⟨file, rfl⟩, imageBytes,
      ⟨image, rfl⟩, digest, ⟨full, rfl⟩, -, ⟨binding, contract⟩, rfl⟩
    refine ⟨⟨⟨format, bounds, above, path, file, image.2, full, fun kernel => ?_, contract⟩, fresh⟩, rfl,
      ⟨rfl, rfl, rfl, rfl, rfl, rfl, rfl, rfl⟩⟩
    have holds := binding kernel
    simp only [not_or, not_not] at holds
    exact holds
  · rintro ⟨⟨checked, fresh⟩, rfl, ⟨rfl, rfl, rfl, rfl, rfl, rfl, rfl, rfl⟩⟩
    refine ⟨_, rfl, checked.format, _, ⟨checked.version, rfl⟩, checked.floor, checked.path, fresh, _, ⟨checked.file, rfl⟩, _,
      ⟨⟨Nat.zero_le _, checked.image⟩, rfl⟩, _, ⟨checked.digest, rfl⟩, checked.entry, ⟨fun kernel => ?_, checked.other⟩, rfl⟩
    simp only [not_or, not_not]
    exact checked.kernel kernel

/-- An artifact as the oracle keeps it. -/
def Artifact.view (artifact : Artifact) : Oracle.Artifact where
  id := artifact.id
  type := artifact.kind.asStr
  format := artifact.format
  version := artifact.version
  path := artifact.path
  fileBytes := artifact.fileBytes
  imageBytes := artifact.imageBytes
  sha256 := hexUpper artifact.sha256
  entryContract := artifact.entryContract

theorem isKernel_iff {kind : ArtifactKind} : kind.asStr = ascii "kernel" ↔ kind = .kernel :=
  ⟨fun same => asStr_inj same, fun same => congrArg _ same⟩

theorem oracle_checkArtifact_eq_ok {paths : List Bytes} {view : Oracle.Artifact} :
    Oracle.checkArtifact floor paths id typeValue formatValue versionValue pathValue fileValue imageValue digestValue
        entryValue = .ok view ↔
      ∃ artifact : Artifact, ((artifact.Checked floor ∧ artifact.path ∉ paths) ∧ id = artifact.id ∧
        artifact.Spelled typeValue formatValue versionValue pathValue fileValue imageValue digestValue entryValue) ∧
          view = artifact.view := by
  unfold Oracle.checkArtifact
  simp only [bind_eq_ok_iff, mem_artifactTypes, demand_eq_ok, manifestNumber_eq_ok, oracle_validatePath_eq_ok,
    matchesDigest_iff, exists_const, ite_bind_eq_ok, pure_eq_ok]
  constructor
  · rintro ⟨⟨kind, rfl⟩, format, version, ⟨bounds, rfl⟩, above, path, fresh, fileBytes, ⟨file, rfl⟩, imageBytes,
      ⟨image, rfl⟩, ⟨digest, full, rfl⟩, -, ⟨binding, contract⟩, rfl⟩
    simp only [isKernel_iff] at binding contract
    refine ⟨⟨id, kind, formatValue, version, pathValue, fileBytes, imageBytes, digest, entryValue⟩,
      ⟨⟨⟨format, bounds, above, path, file, image.2, full, fun kernel => ?_, contract⟩, fresh⟩, rfl,
        ⟨rfl, rfl, rfl, rfl, rfl, rfl, rfl, rfl⟩⟩, rfl⟩
    have holds := binding kernel
    simp only [not_or, not_not] at holds
    exact holds
  · rintro ⟨artifact, ⟨⟨checked, fresh⟩, rfl, ⟨rfl, rfl, rfl, rfl, rfl, rfl, rfl, rfl⟩⟩, rfl⟩
    simp only [isKernel_iff]
    refine ⟨⟨_, rfl⟩, checked.format, _, ⟨checked.version, rfl⟩, checked.floor, checked.path, fresh, _, ⟨checked.file, rfl⟩,
      _, ⟨⟨Nat.zero_le _, checked.image⟩, rfl⟩, ⟨_, checked.digest, rfl⟩, checked.entry, ⟨fun kernel => ?_, checked.other⟩, rfl⟩
    simp only [not_or, not_not]
    exact checked.kernel kernel

end Artifacts

section Keys

variable {key value identifier : Bytes} {entries : List (Bytes × Bytes)} {index : Nat}

theorem artifactId_eq_ok : Oracle.artifactId key = .ok identifier ↔
    validLowerIdentifier identifier = true ∧ key = fieldKey manifestFormat identifier (ascii "type") := by
  unfold Oracle.artifactId
  constructor
  · intro read
    simp only at read
    split at read
    · rename_i group name field split
      simp only [demand_bind_eq_ok, pure_eq_ok] at read
      obtain ⟨⟨rfl, valid⟩, rfl, rfl⟩ := read
      refine ⟨valid, ?_⟩
      have whole := (splitOn_eq_iff.mp split).2
      rw [whole, intercalate_cons_cons, intercalate_cons_cons, intercalate_singleton, append_assoc,
        append_assoc]
      rfl
    · cases read
  · rintro ⟨valid, rfl⟩
    have split : (fieldKey manifestFormat identifier (ascii "type")).splitOn dot =
        [ascii "artifact", identifier, ascii "type"] := by
      have front : fieldKey manifestFormat identifier (ascii "type") =
          ascii "artifact" ++ dot :: (identifier ++ dot :: ascii "type") := rfl
      rw [front, splitOn_append_cons_self_of_not_mem (by decide),
        splitOn_append_cons_self_of_not_mem (dot_not_mem_of_valid valid), splitOn_eq_singleton (by decide)]
    rw [split]
    simp only [demand_bind_eq_ok, pure_eq_ok, true_and, and_true]
    exact valid

theorem expected_eq_ok : Oracle.expected entries index key = .ok value ↔ entries[index]? = some (key, value) := by
  unfold Oracle.expected
  simp only [bind_eq_ok_iff, orError_eq_ok, Prod.exists, demand_eq_ok, pure_eq_ok, exists_const]
  constructor
  · rintro ⟨_, _, found, rfl, rfl⟩
    exact found
  · exact fun found => ⟨key, value, found, rfl, rfl⟩

end Keys

section Loop

/-- Eight entries in a row. -/
theorem exists_eight {entries : List (Bytes × Bytes)} {start : Nat} (inside : start + 8 ≤ entries.length) :
    ∃ one two three four five six seven eight,
      (entries.drop start).take 8 = [one, two, three, four, five, six, seven, eight] ∧
        ∀ step < 8, entries[start + step]? = [one, two, three, four, five, six, seven, eight][step]? := by
  have chunk : (entries.drop start).take 8 = [entries[start], entries[start + 1], entries[start + 2],
      entries[start + 3], entries[start + 4], entries[start + 5], entries[start + 6], entries[start + 7]] := by
    iterate 8 rw [drop_eq_getElem_cons (by omega)]
    rfl
  refine ⟨_, _, _, _, _, _, _, _, chunk, fun step less => ?_⟩
  rw [← chunk, getElem?_take_of_lt less, getElem?_drop]

/-- What a round asks of the artifact that it reads. -/
structure ArtifactRule (entries : List (Bytes × Bytes)) (floor : Nat) (front : List Artifact) (artifact : Artifact) :
    Prop where
  read : ((entries.drop 5).drop (8 * front.length)).take 8 = artifact.entries
  valid : validLowerIdentifier artifact.id = true
  checked : artifact.Checked floor
  above : ∀ last, front.getLast? = some last → last.id < artifact.id
  fresh : ∀ previous ∈ front, previous.path ≠ artifact.path

/-- The identifier of the last artifact, or the empty one. -/
def lastId (items : List Artifact) : Bytes := (items.getLast?.map Artifact.id).getD []

def progressOf (items : List Artifact) : Progress where
  previousId := lastId items
  kernelCount := items.countP fun artifact => artifact.kind = .kernel
  storage := items

def progressView (items : List Artifact) : Oracle.Progress where
  previousId := lastId items
  paths := items.map Artifact.path
  artifacts := items.map Artifact.view

variable {entries : List (Bytes × Bytes)} {floor : Nat} {front : List Artifact} {id : Bytes}

theorem lastId_concat {artifact : Artifact} : lastId (front ++ [artifact]) = artifact.id := by
  rw [lastId, getLast?_concat]
  rfl

/-- The order of identifiers, as both loops check it. -/
theorem order_iff (collected : Collected (ArtifactRule entries floor) front) :
    ¬ (lastId front ≠ [] ∧ ¬ lastId front < id) ↔ ∀ last, front.getLast? = some last → last.id < id := by
  refine collected.order_iff fun _ _ fits none => ?_
  have valid := fits.valid
  rw [none] at valid
  exact nomatch valid

/-- The keys of the lines of an artifact. -/
structure Keyed (id : Bytes) (type format version path file image digest entry : Bytes) : Prop where
  type : type = fieldKey manifestFormat id (ascii "type")
  format : format = fieldKey manifestFormat id (ascii "format")
  version : version = fieldKey manifestFormat id (ascii "version")
  path : path = fieldKey manifestFormat id (ascii "path")
  file : file = fieldKey manifestFormat id (ascii "file_bytes")
  image : image = fieldKey manifestFormat id (ascii "image_bytes")
  digest : digest = fieldKey manifestFormat id (ascii "sha256")
  entry : entry = fieldKey manifestFormat id (ascii "entry_contract")

theorem entries_eq_iff {type format version path file image digest entry : Bytes × Bytes} {artifact : Artifact} :
    [type, format, version, path, file, image, digest, entry] = artifact.entries ↔
      Keyed artifact.id type.1 format.1 version.1 path.1 file.1 image.1 digest.1 entry.1 ∧
        artifact.Spelled type.2 format.2 version.2 path.2 file.2 image.2 digest.2 entry.2 := by
  simp only [Artifact.entries, cons.injEq, Prod.ext_iff, and_true]
  constructor
  · rintro ⟨⟨one, a⟩, ⟨two, b⟩, ⟨three, c⟩, ⟨four, d⟩, ⟨five, e⟩, ⟨six, f⟩, ⟨seven, g⟩, ⟨eight, h⟩⟩
    exact ⟨⟨one, two, three, four, five, six, seven, eight⟩, ⟨a, b, c, d, e, f, g, h⟩⟩
  · rintro ⟨keyed, spelled⟩
    exact ⟨⟨keyed.type, spelled.type⟩, ⟨keyed.format, spelled.format⟩, ⟨keyed.version, spelled.version⟩,
      ⟨keyed.path, spelled.path⟩, ⟨keyed.file, spelled.file⟩, ⟨keyed.image, spelled.image⟩,
      ⟨keyed.digest, spelled.digest⟩, ⟨keyed.entry, spelled.entry⟩⟩

theorem parseArtifact_eq_ok {bytes : Bytes} (text : Text manifestFormat entries bytes)
    (collected : Collected (ArtifactRule entries floor) front) (inside : 5 + 8 * (front.length + 1) ≤ entries.length)
    {next : Progress} : parseArtifact bytes floor (progressOf front) front.length = .ok next ↔
      ∃ artifact, ArtifactRule entries floor front artifact ∧ next = progressOf (front ++ [artifact]) := by
  obtain ⟨type, format, version, path, file, image, digest, entry, chunk, found⟩ :=
    @exists_eight entries (5 + 8 * front.length) (by omega)
  rw [← drop_drop] at chunk
  have read : ∀ step pair, step < 8 → [type, format, version, path, file, image, digest, entry][step]? = some pair →
      pairAt bytes (6 + front.length * 8 + step) = .ok pair := by
    intro step pair less same
    rw [show 6 + front.length * 8 + step = 5 + 8 * front.length + step + 1 by omega]
    exact text.pairAt ((found step less).trans same)
  have pushed : ∀ artifact, progressOf (front ++ [artifact]) = ⟨artifact.id,
      (progressOf front).kernelCount + (if artifact.kind = .kernel then 1 else 0), front ++ [artifact]⟩ := by
    intro artifact
    rw [progressOf, lastId_concat, countP_append, countP_singleton]
    simp only [progressOf, decide_eq_true_eq]
  have first : pairAt bytes (6 + front.length * 8) = .ok type := read 0 type (by decide) rfl
  unfold parseArtifact
  simp only [first, read 1 format (by decide) rfl, read 2 version (by decide) rfl, read 3 path (by decide) rfl,
    read 4 file (by decide) rfl, read 5 image (by decide) rfl, read 6 digest (by decide) rfl,
    read 7 entry (by decide) rfl, ok_bind]
  simp only [bind_eq_ok_iff, recordKey_eq_ok (show ascii "type" ∈ manifestFormat.fields by decide),
    recordKey_eq_ok (show ascii "format" ∈ manifestFormat.fields by decide),
    recordKey_eq_ok (show ascii "version" ∈ manifestFormat.fields by decide),
    recordKey_eq_ok (show ascii "path" ∈ manifestFormat.fields by decide),
    recordKey_eq_ok (show ascii "file_bytes" ∈ manifestFormat.fields by decide),
    recordKey_eq_ok (show ascii "image_bytes" ∈ manifestFormat.fields by decide),
    recordKey_eq_ok (show ascii "sha256" ∈ manifestFormat.fields by decide),
    recordKey_eq_ok (show ascii "entry_contract" ∈ manifestFormat.fields by decide), demand_eq_ok, forM_eq_ok,
    checkArtifact_eq_ok, exists_const, pure_eq_ok, forall_mem_cons, not_mem_nil, false_implies, implies_true,
    and_true, exists_eq_right]
  constructor
  · rintro ⟨_, ⟨valid, one⟩, above, ⟨⟨-, two⟩, ⟨-, three⟩, ⟨-, four⟩, ⟨-, five⟩, ⟨-, six⟩, ⟨-, seven⟩, ⟨-, eight⟩⟩,
      artifact, ⟨⟨checked, fresh⟩, rfl, spelled⟩, rfl⟩
    refine ⟨artifact, ⟨?_, valid, checked, (order_iff collected).mp above, fresh⟩, (pushed artifact).symm⟩
    rw [chunk]
    exact entries_eq_iff.mpr ⟨⟨one, two, three, four, five, six, seven, eight⟩, spelled⟩
  · rintro ⟨artifact, rule, rfl⟩
    have same := rule.read
    rw [chunk] at same
    obtain ⟨keyed, spelled⟩ := entries_eq_iff.mp same
    have valid := rule.valid
    exact ⟨artifact.id, ⟨valid, keyed.type⟩, (order_iff collected).mpr rule.above,
      ⟨⟨valid, keyed.format⟩, ⟨valid, keyed.version⟩, ⟨valid, keyed.path⟩, ⟨valid, keyed.file⟩, ⟨valid, keyed.image⟩,
        ⟨valid, keyed.digest⟩, ⟨valid, keyed.entry⟩⟩,
      artifact, ⟨⟨rule.checked, rule.fresh⟩, rfl, spelled⟩, pushed artifact⟩

theorem oracle_parseArtifact_eq_ok (collected : Collected (ArtifactRule entries floor) front)
    (inside : 5 + 8 * (front.length + 1) ≤ entries.length) {next : Oracle.Progress} :
    Oracle.parseArtifact entries floor (progressView front) front.length = .ok next ↔
      ∃ artifact, ArtifactRule entries floor front artifact ∧ next = progressView (front ++ [artifact]) := by
  obtain ⟨type, format, version, path, file, image, digest, entry, chunk, found⟩ :=
    @exists_eight entries (5 + 8 * front.length) (by omega)
  rw [← drop_drop] at chunk
  have read : ∀ step pair, step < 8 → [type, format, version, path, file, image, digest, entry][step]? = some pair →
      entries[5 + front.length * 8 + step]? = some pair := by
    intro step pair less same
    rw [Nat.mul_comm front.length]
    exact (found step less).trans same
  have pushed : ∀ artifact : Artifact, progressView (front ++ [artifact]) = ⟨artifact.id,
      (progressView front).paths ++ [artifact.path], (progressView front).artifacts ++ [artifact.view]⟩ := by
    intro artifact
    rw [progressView, lastId_concat, map_append, map_append]
    rfl
  have first : entries[5 + front.length * 8]? = some type := read 0 type (by decide) rfl
  have fresh : ∀ {path : Bytes}, path ∉ (progressView front).paths ↔ ∀ previous ∈ front, previous.path ≠ path := by
    intro path
    rw [progressView, mem_map]
    exact ⟨fun absent previous member same => absent ⟨previous, member, same⟩,
      fun apart ⟨previous, member, same⟩ => apart previous member same⟩
  unfold Oracle.parseArtifact
  simp only [first, expected_eq_ok, read 1 format (by decide) rfl, read 2 version (by decide) rfl,
    read 3 path (by decide) rfl, read 4 file (by decide) rfl, read 5 image (by decide) rfl,
    read 6 digest (by decide) rfl, read 7 entry (by decide) rfl, orError_some, ok_bind, bind_eq_ok_iff, artifactId_eq_ok,
    demand_eq_ok, oracle_checkArtifact_eq_ok, exists_const, pure_eq_ok, Option.some.injEq, Prod.ext_iff, fresh]
  constructor
  · rintro ⟨_, ⟨valid, one⟩, above, _, ⟨two, rfl⟩, _, ⟨three, rfl⟩, _, ⟨four, rfl⟩, _, ⟨five, rfl⟩, _, ⟨six, rfl⟩, _,
      ⟨seven, rfl⟩, _, ⟨eight, rfl⟩, _, ⟨artifact, ⟨⟨checked, new⟩, rfl, spelled⟩, rfl⟩, rfl⟩
    refine ⟨artifact, ⟨?_, valid, checked, (order_iff collected).mp above, new⟩, ?_⟩
    · rw [chunk]
      exact entries_eq_iff.mpr ⟨⟨one, two, three, four, five, six, seven, eight⟩, spelled⟩
    · rw [pushed, spelled.path]
  · rintro ⟨artifact, rule, rfl⟩
    have same := rule.read
    rw [chunk] at same
    obtain ⟨keyed, spelled⟩ := entries_eq_iff.mp same
    refine ⟨artifact.id, ⟨rule.valid, keyed.type⟩, (order_iff collected).mpr rule.above, _, ⟨keyed.format, rfl⟩, _,
      ⟨keyed.version, rfl⟩, _, ⟨keyed.path, rfl⟩, _, ⟨keyed.file, rfl⟩, _, ⟨keyed.image, rfl⟩, _, ⟨keyed.digest, rfl⟩, _,
      ⟨keyed.entry, rfl⟩, _, ⟨artifact, ⟨⟨rule.checked, rule.fresh⟩, rfl, spelled⟩, rfl⟩, ?_⟩
    rw [pushed, spelled.path]

/-- The artifacts of a text, read one by one. -/
theorem collected_iff {items : List Artifact} (full : entries.length = 5 + 8 * items.length) :
    Collected (ArtifactRule entries floor) items ↔
      entries.drop 5 = items.flatMap Artifact.entries ∧ (∀ artifact ∈ items, validLowerIdentifier artifact.id = true) ∧
        (∀ artifact ∈ items, artifact.Checked floor) ∧ (items.Pairwise fun first second => first.id < second.id) ∧
          items.Pairwise fun first second => first.path ≠ second.path := by
  have length : (entries.drop 5).length = 8 * items.length := by
    rw [length_drop, full]
    omega
  constructor
  · intro collected
    refine ⟨?_, collected.all fun _ _ rule => rule.valid, collected.all fun _ _ rule => rule.checked, ?_, ?_⟩
    · have read := collected.chunks fun _ _ rule => rule.read
      rwa [take_of_length_le (by omega)] at read
    · exact collected.ascending (fun first second => first.id < second.id)
        (fun below above => List.lt_trans below above) fun _ _ rule => rule.above
    · exact collected.pairwise fun _ _ rule => rule.fresh
  · rintro ⟨read, valid, checked, ordered, paths⟩
    refine .of_split fun front item back same => ?_
    subst same
    have within : item ∈ front ++ item :: back := mem_append_right _ (mem_cons_self ..)
    have before : ∀ other ∈ front, other.id < item.id ∧ other.path ≠ item.path := fun other member =>
      ⟨(pairwise_append.mp ordered).2.2 other member item (mem_cons_self ..),
        (pairwise_append.mp paths).2.2 other member item (mem_cons_self ..)⟩
    refine ⟨?_, valid item within, checked item within, fun last final => ?_, fun other member => (before other member).2⟩
    · rw [read]
      exact chunk_of_split (show ∀ artifact : Artifact, artifact.entries.length = 8 from fun _ => rfl) front item back
    · exact (before last (mem_of_getLast? final)).1

end Loop

section Manifests

variable {bytes : Bytes} {entries : List (Bytes × Bytes)} {manifest : SystemManifest} {capacity : Nat}

theorem take_five {α : Type} {items : List α} {one two three four five : α} :
    (items[0]? = some one ∧ items[1]? = some two ∧ items[2]? = some three ∧ items[3]? = some four ∧
      items[4]? = some five) ↔ items.take 5 = [one, two, three, four, five] := by
  rcases items with _ | ⟨a, _ | ⟨b, _ | ⟨c, _ | ⟨d, _ | ⟨e, rest⟩⟩⟩⟩⟩ <;> simp

/-- The lines of a header and of the artifacts behind it. -/
theorem entries_eq_manifest : entries = manifest.entries ↔
    entries.take 5 = manifest.header ∧ entries.drop 5 = manifest.artifacts.flatMap Artifact.entries := by
  constructor
  · rintro rfl
    exact ⟨take_left' rfl, drop_left' rfl⟩
  · rintro ⟨front, back⟩
    rw [SystemManifest.entries, ← front, ← back, take_append_drop]

theorem manifest_entries_length : manifest.entries.length = 5 + 8 * manifest.artifacts.length := by
  rw [SystemManifest.entries, length_append, length_flatMap]
  have eight : manifest.artifacts.map (fun artifact => artifact.entries.length) =
      manifest.artifacts.map fun _ => 8 := map_congr_left fun _ _ => rfl
  rw [eight, map_const', sum_replicate_nat, Nat.mul_comm]
  rfl

/-- What both parsers find in the entries of a text. -/
structure ManifestRead (entries : List (Bytes × Bytes)) (manifest : SystemManifest) : Prop where
  manifestId : entries[0]? = some (ascii "manifest_id", manifest.manifestId)
  slot : entries[1]? = some (ascii "slot", decimal manifest.slot)
  version : entries[2]? = some (ascii "manifest_version", decimal manifest.manifestVersion)
  floor : entries[3]? = some (ascii "minimum_secure_version", decimal manifest.minimumSecureVersion)
  count : entries[4]? = some (ascii "artifact_count", decimal manifest.artifacts.length)
  full : entries.length = 5 + 8 * manifest.artifacts.length
  collected : Collected (ArtifactRule entries manifest.minimumSecureVersion) manifest.artifacts
  validId : validUpperIdentifier manifest.manifestId maxManifestIdBytes = true
  validSlot : 1 ≤ manifest.slot ∧ manifest.slot ≤ maxSlot
  validVersion : 1 ≤ manifest.manifestVersion ∧ manifest.manifestVersion ≤ u64Max
  below : manifest.minimumSecureVersion ≤ manifest.manifestVersion
  few : 1 ≤ manifest.artifacts.length ∧ manifest.artifacts.length ≤ maxArtifacts
  kernel : manifest.artifacts.countP (fun artifact => artifact.kind = .kernel) = 1

theorem manifestRead_iff : ManifestRead entries manifest ↔ entries = manifest.entries ∧ manifest.Valid := by
  constructor
  · intro read
    obtain ⟨back, ids, checked, ordered, paths⟩ := (collected_iff read.full).mp read.collected
    exact ⟨entries_eq_manifest.mpr ⟨take_five.mp ⟨read.manifestId, read.slot, read.version, read.floor, read.count⟩, back⟩,
      read.validId, read.validSlot, read.validVersion, read.below, read.few, ids, checked, ordered, paths, read.kernel⟩
  · rintro ⟨rfl, valid⟩
    obtain ⟨front, back⟩ := entries_eq_manifest.mp (show manifest.entries = manifest.entries from rfl)
    obtain ⟨one, two, three, four, five⟩ := take_five.mpr front
    exact ⟨one, two, three, four, five, manifest_entries_length,
      (collected_iff manifest_entries_length).mpr ⟨back, valid.ids, valid.checked, valid.ordered, valid.paths⟩,
      valid.manifestId, valid.slot, valid.version, valid.floor, valid.count, valid.kernel⟩

theorem manifest_loop_eq_ok (text : Text manifestFormat entries bytes) {floor count : Nat} {last : Progress}
    (full : entries.length = 5 + 8 * count) :
    (range count).foldlM (parseArtifact bytes floor) ⟨[], 0, []⟩ = .ok last ↔
      ∃ items, (Collected (ArtifactRule entries floor) items ∧ items.length = count) ∧ last = progressOf items :=
  collect_eq_ok (fun _ _ collected less => parseArtifact_eq_ok text collected (by omega)) last

theorem oracle_manifest_loop_eq_ok {floor count : Nat} {last : Oracle.Progress}
    (full : entries.length = 5 + 8 * count) :
    (range count).foldlM (Oracle.parseArtifact entries floor) ⟨[], [], []⟩ = .ok last ↔
      ∃ items, (Collected (ArtifactRule entries floor) items ∧ items.length = count) ∧ last = progressView items :=
  collect_eq_ok (fun _ _ collected less => oracle_parseArtifact_eq_ok collected (by omega)) last

/-- What both parsers accept: the lines of a manifest that keeps the field rules. -/
structure Accepts (bytes : Bytes) (manifest : SystemManifest) : Prop where
  text : Text manifestFormat manifest.entries bytes
  valid : manifest.Valid

theorem accepts_iff : Accepts bytes manifest ↔ ∃ entries, Text manifestFormat entries bytes ∧ ManifestRead entries manifest := by
  simp only [manifestRead_iff]
  constructor
  · exact fun accepts => ⟨_, accepts.text, rfl, accepts.valid⟩
  · rintro ⟨_, text, rfl, valid⟩
    exact ⟨text, valid⟩

theorem parseManifest_eq_ok :
    parseManifest bytes capacity = .ok manifest ↔ Accepts bytes manifest ∧ manifest.artifacts.length ≤ capacity := by
  rw [accepts_iff, ← exists_and_right]
  refine (opened_iff fun entries text => ?_).trans (exists_congr fun _ => and_assoc.symm)
  have long : 13 ≤ entries.length := by
    have many : 15 ≤ entries.length + 2 := text.many
    omega
  have read : ∀ index key value, index < 5 → (expectValue manifestFormat bytes (index + 1) key = .ok value ↔
      entries[index]? = some (key, value)) := fun index key value less => expectValue_eq_ok text (by omega)
  simp only [bind_eq_ok_iff, read 0 _ _ (by decide), read 1 _ _ (by decide), read 2 _ _ (by decide),
    read 3 _ _ (by decide), read 4 _ _ (by decide), demand_eq_ok, parseRange_eq_ok (Nat.le_refl u64Max),
    parseRange_eq_ok (show maxSlot ≤ u64Max by decide), parseRange_eq_ok (show maxArtifacts ≤ u64Max by decide),
    checkLines_eq_ok, exists_const, pure_eq_ok]
  constructor
  · rintro ⟨_, one, validId, _, two, _, ⟨slot, rfl⟩, _, three, _, ⟨version, rfl⟩, _, four, floor, ⟨-, rfl⟩, below, _, five,
      count, ⟨few, rfl⟩, length, fits, _, ran, kernel, rfl⟩
    have full : entries.length = 5 + 8 * count := by omega
    obtain ⟨items, ⟨collected, rfl⟩, rfl⟩ := (manifest_loop_eq_ok text full).mp ran
    exact ⟨⟨one, two, three, four, five, full, collected, validId, slot, version, below, few, kernel⟩, fits⟩
  · rintro ⟨found, fits⟩
    have full := found.full
    have small : manifest.minimumSecureVersion ≤ u64Max := found.below.trans found.validVersion.2
    exact ⟨_, found.manifestId, found.validId, _, found.slot, _, ⟨found.validSlot, rfl⟩, _, found.version, _,
      ⟨found.validVersion, rfl⟩, _, found.floor, _, ⟨⟨Nat.zero_le _, small⟩, rfl⟩, found.below, _, found.count, _,
      ⟨found.few, rfl⟩, by omega, fits, _,
      (manifest_loop_eq_ok text full).mpr ⟨_, ⟨found.collected, rfl⟩, rfl⟩, found.kernel, rfl⟩

/-- A manifest as the oracle keeps it. -/
def SystemManifest.view (manifest : SystemManifest) : Oracle.SystemManifest where
  manifestId := manifest.manifestId
  slot := manifest.slot
  manifestVersion := manifest.manifestVersion
  minimumSecureVersion := manifest.minimumSecureVersion
  artifacts := manifest.artifacts.map Artifact.view

theorem kernels_length (items : List Artifact) :
    ((items.map Artifact.view).filter fun artifact => artifact.type = ascii "kernel").length =
      items.countP fun artifact => artifact.kind = .kernel := by
  rw [← countP_eq_length_filter, countP_map]
  refine countP_congr fun artifact _ => ?_
  simp only [Function.comp_apply, Artifact.view, isKernel_iff]

theorem oracle_parseManifest_eq_ok {view : Oracle.SystemManifest} :
    Oracle.parseManifest bytes = .ok view ↔ ∃ manifest, Accepts bytes manifest ∧ view = manifest.view := by
  simp only [accepts_iff]
  have swap : (∃ manifest, (∃ entries, Text manifestFormat entries bytes ∧ ManifestRead entries manifest) ∧
      view = manifest.view) ↔ ∃ entries, Text manifestFormat entries bytes ∧
        ∃ manifest, ManifestRead entries manifest ∧ view = SystemManifest.view manifest := by
    constructor
    · rintro ⟨manifest, ⟨entries, text, found⟩, same⟩
      exact ⟨entries, text, manifest, found, same⟩
    · rintro ⟨entries, text, manifest, found, same⟩
      exact ⟨manifest, ⟨entries, text, found⟩, same⟩
  rw [swap]
  refine oracle_opened_iff (fun _ _ => manifestPairs_eq_ok) fun lines entries text length => ?_
  simp only [bind_eq_ok_iff, expected_eq_ok, demand_eq_ok, manifestNumber_eq_ok, exists_const, pure_eq_ok, length]
  constructor
  · rintro ⟨_, one, validId, _, two, slot, ⟨validSlot, rfl⟩, _, three, version, ⟨validVersion, rfl⟩, _, four, floor,
      ⟨-, rfl⟩, below, _, five, count, ⟨few, rfl⟩, -, whole, _, ran, kernel, rfl⟩
    have full : entries.length = 5 + 8 * count := by omega
    obtain ⟨items, ⟨collected, rfl⟩, rfl⟩ := (oracle_manifest_loop_eq_ok full).mp ran
    rw [progressView, kernels_length] at kernel
    exact ⟨⟨_, slot, version, floor, items⟩, ⟨one, two, three, four, five, full, collected, validId, validSlot,
      validVersion, below, few, kernel⟩, rfl⟩
  · rintro ⟨manifest, found, rfl⟩
    have full := found.full
    have small : manifest.minimumSecureVersion ≤ u64Max := found.below.trans found.validVersion.2
    refine ⟨_, found.manifestId, found.validId, _, found.slot, _, ⟨found.validSlot, rfl⟩, _, found.version, _,
      ⟨found.validVersion, rfl⟩, _, found.floor, _, ⟨⟨Nat.zero_le _, small⟩, rfl⟩, found.below, _, found.count, _,
      ⟨found.few, rfl⟩, by omega, by omega, _,
      (oracle_manifest_loop_eq_ok full).mpr ⟨_, ⟨found.collected, rfl⟩, rfl⟩, ?_, rfl⟩
    rw [progressView, kernels_length]
    exact found.kernel

end Manifests

end PooleOS.BootText
