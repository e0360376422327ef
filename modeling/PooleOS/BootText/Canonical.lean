import PooleOS.BootText.Text
import PooleOS.BootText.Paths
import PooleOS.BootText.ManifestRule
import PooleOS.BootText.ConfigRule

/- The lexical limits against the field rules: what is written for values that keep the
field rules always passes the lexer. -/
namespace PooleOS.BootText

open List

/-- A letter that may stand in a key or in a value. -/
def isTokenByte (byte : UInt8) : Bool := isPrintable byte && byte != equals

/-- Keys and values that can stand in a line. -/
structure Token (text : Bytes) : Prop where
  filled : text ≠ []
  letters : ∀ byte ∈ text, isTokenByte byte = true

section Bytes

variable {byte : UInt8}

/-- The classes of letters that identifiers, numbers and digests are spelled in. -/
theorem isTokenByte_of (letter : (isUpperLetter byte || isUpper byte || isLower byte || isDigit byte ||
    byte == 95 || (nibbleValue byte).isSome) = true) : isTokenByte byte = true := by
  revert letter
  refine @byte_cases (fun byte => (isUpperLetter byte || isUpper byte || isLower byte || isDigit byte ||
    byte == 95 || (nibbleValue byte).isSome) = true → isTokenByte byte = true) ?_ byte
  decide +kernel

theorem isTokenByte_upperLetter (letter : isUpperLetter byte = true) : isTokenByte byte = true :=
  isTokenByte_of (by simp [letter])

theorem isTokenByte_upper (letter : isUpper byte = true) : isTokenByte byte = true :=
  isTokenByte_of (by simp [letter])

theorem isTokenByte_lower (letter : isLower byte = true) : isTokenByte byte = true :=
  isTokenByte_of (by simp [letter])

theorem isTokenByte_digit (letter : isDigit byte = true) : isTokenByte byte = true :=
  isTokenByte_of (by simp [letter])

theorem isTokenByte_lowerLetter (letter : (isLower byte || isDigit byte || byte == 95) = true) :
    isTokenByte byte = true := by
  rw [Bool.or_eq_true, Bool.or_eq_true] at letter
  rcases letter with (lower | digit) | underscore
  · exact isTokenByte_lower lower
  · exact isTokenByte_digit digit
  · exact isTokenByte_of (by simp [underscore])

theorem isTokenByte_hex (letter : (nibbleValue byte).isSome = true) : isTokenByte byte = true :=
  isTokenByte_of (by simp [letter])

end Bytes

section Values

variable {value identifier field : Bytes} {maximum number : Nat}

theorem token_lower (valid : validLowerIdentifier value = true) : Token value ∧ value.length ≤ maxIdentifierBytes := by
  cases value with
  | nil => exact nomatch valid
  | cons first rest =>
    unfold validLowerIdentifier at valid
    simp only [Bool.and_eq_true, decide_eq_true_eq, all_eq_true] at valid
    refine ⟨⟨nofun, fun byte member => ?_⟩, valid.1.1⟩
    rcases mem_cons.mp member with rfl | later
    · exact isTokenByte_lower valid.1.2
    · exact isTokenByte_lowerLetter (valid.2 byte later)

theorem token_upper (valid : validUpperIdentifier value maximum = true) : Token value ∧ value.length ≤ maximum := by
  cases value with
  | nil => exact nomatch valid
  | cons first rest =>
    unfold validUpperIdentifier at valid
    simp only [Bool.and_eq_true, decide_eq_true_eq, all_eq_true] at valid
    refine ⟨⟨nofun, fun byte member => ?_⟩, valid.1.1⟩
    rcases mem_cons.mp member with rfl | later
    · exact isTokenByte_upper valid.1.2
    · exact isTokenByte_upperLetter (valid.2 byte later)

theorem token_decimal (small : number ≤ u64Max) : Token (decimal number) ∧ (decimal number).length ≤ 20 := by
  have spelled := isDecimal_decimal number
  refine ⟨⟨spelled.spelled, fun byte member => isTokenByte_digit (spelled.digits byte member)⟩, ?_⟩
  exact decimal_length_le (small.trans_lt (by decide)) (by decide)

theorem token_hex {digest : Bytes} (full : digest.length = 32) :
    Token (hexUpper digest) ∧ (hexUpper digest).length = 64 := by
  have length : (hexUpper digest).length = 64 := by rw [hexUpper_length, full]
  refine ⟨⟨?_, fun byte member => isTokenByte_hex (isSome_of_mem_hexUpper member)⟩, length⟩
  exact ne_nil_of_length_pos (by omega)

theorem token_fieldKey {format : Format} (group : Token format.group) (valid : validLowerIdentifier identifier = true)
    (known : Token field) : Token (fieldKey format identifier field) := by
  obtain ⟨name, -⟩ := token_lower valid
  refine ⟨by simp [fieldKey], fun byte member => ?_⟩
  rw [fieldKey, append_assoc] at member
  rcases mem_append.mp member with front | rest
  · exact group.letters byte front
  · rcases mem_append.mp rest with middle | back
    · exact name.letters byte middle
    · rcases mem_cons.mp back with rfl | last
      · decide
      · exact known.letters byte last

end Values

section Paths

variable {value : Bytes} {parts : List Bytes}

theorem token_pathOf (each : ∀ part ∈ parts, ∀ byte ∈ part, isTokenByte byte = true) : Token (pathOf parts) := by
  refine ⟨by simp [pathOf, show manifestRoot ≠ [] by decide], fun byte member => ?_⟩
  rcases mem_append.mp member with root | relative
  · have all : ∀ byte ∈ manifestRoot, isTokenByte byte = true := by decide +kernel
    exact all byte root
  · rcases mem_intercalate relative with rfl | ⟨part, inside, within⟩
    · decide
    · exact each part inside byte within

theorem letters_token {part : Bytes} (letters : Letters part) : ∀ byte ∈ part, isTokenByte byte = true :=
  fun byte member => isTokenByte_upperLetter (letters.2 byte member)

theorem token_artifactPath (path : ArtifactPath value) : Token value ∧ value.length ≤ maxPathBytes := by
  obtain ⟨short, parts, rfl, parted⟩ := path
  refine ⟨token_pathOf (parted.all (fun part folder => letters_token folder.1) fun part file => ?_), short⟩
  obtain ⟨-, name, extension, rfl, front, back⟩ := file
  intro byte member
  rcases mem_append.mp member with early | late
  · exact letters_token front byte early
  · rcases mem_cons.mp late with rfl | last
    · decide
    · exact letters_token back byte last

theorem token_manifestPath (path : ManifestPath value) : Token value ∧ value.length ≤ maxPathBytes := by
  obtain ⟨short, parts, rfl, parted⟩ := path
  refine ⟨token_pathOf (parted.all (fun part folder => letters_token folder.1.1) fun part file => ?_), short⟩
  obtain ⟨-, body, rfl, named⟩ := file
  intro byte member
  rcases mem_append.mp member with early | late
  · exact letters_token named.1 byte early
  · have all : ∀ byte ∈ pbm, isTokenByte byte = true := by decide +kernel
    exact all byte late

end Paths

section Texts

variable {format : Format} {entries : List (Bytes × Bytes)} {width : Nat}

/-- Entries that fit into lines of so many bytes. -/
structure Fits (width : Nat) (entry : Bytes × Bytes) : Prop where
  key : Token entry.1
  value : Token entry.2
  short : entry.1.length + 1 + entry.2.length ≤ width

theorem Token.printable {text : Bytes} (token : Token text) : ∀ byte ∈ text, isPrintable byte = true :=
  fun byte member => (Bool.and_eq_true_iff.mp (token.letters byte member)).1

theorem Token.no_equals {text : Bytes} (token : Token text) : equals ∉ text := fun member =>
  absurd (token.letters equals member) (by decide)

theorem Fits.split {entry : Bytes × Bytes} (fits : Fits width entry) : Split entry :=
  ⟨fits.key.filled, fits.value.filled, fits.key.no_equals, fits.value.no_equals⟩

/-- The first and the last line of a format, which fit too. -/
structure Framing (format : Format) (width : Nat) : Prop where
  magic : format.magic ≠ [] ∧ (∀ byte ∈ format.magic, isPrintable byte = true) ∧ format.magic.length ≤ width
  endMarker : format.endMarker ≠ [] ∧ (∀ byte ∈ format.endMarker, isPrintable byte = true) ∧
    format.endMarker.length ≤ width
  narrow : width ≤ format.maxLineBytes

/-- The text of entries passes the lexer when its lines are short enough for the limits. -/
theorem text_of_fits (framing : Framing format width) (fits : ∀ entry ∈ entries, Fits width entry)
    (distinct : (entries.map Prod.fst).Nodup) (many : format.minLines ≤ entries.length + 2)
    (few : entries.length + 2 ≤ format.maxLines) (small : (entries.length + 2) * (width + 1) ≤ format.maxBytes) :
    Text format entries (textOf format entries) := by
  have lines : ∀ line ∈ framed format.magic format.endMarker entries,
      line ≠ [] ∧ (∀ byte ∈ line, isPrintable byte = true) ∧ line.length ≤ width := by
    intro line member
    rcases mem_cons.mp member with rfl | later
    · exact framing.magic
    · rcases mem_append.mp later with inner | last
      · obtain ⟨entry, inside, rfl⟩ := mem_map.mp inner
        have holds := fits entry inside
        refine ⟨by simp [keyLine], fun byte within => ?_, ?_⟩
        · rcases mem_append.mp within with front | back
          · exact holds.key.printable byte front
          · rcases mem_cons.mp back with rfl | rest
            · decide
            · exact holds.value.printable byte rest
        · have short := holds.short
          rw [keyLine, length_append, length_cons]
          omega
      · rw [mem_singleton.mp last]
        exact framing.endMarker
  refine ⟨rfl, ⟨cons_ne_nil _ _, fun line member => (lines line member).1, fun line member => (lines line member).2.1,
    fun line member => Nat.le_trans (lines line member).2.2 framing.narrow, framed_length ▸ few, ?_⟩,
    fun entry member => (fits entry member).split, distinct, many⟩
  have total : (textOf format entries).length ≤ _ := length_unlines_le fun line member => (lines line member).2.2
  rw [framed_length] at total
  exact total.trans small

end Texts

section Keys

variable {format : Format} {ids : List Bytes}

theorem token_of_all {text : Bytes} (all : text ≠ [] ∧ text.all isTokenByte = true) : Token text :=
  ⟨all.1, all_eq_true.mp all.2⟩

/-- The keys of a text: those of the header, and those of the fields of each record. -/
theorem keys_nodup (header : format.headerKeys.Nodup) (fields : format.fields.Nodup)
    (apart : ∀ key ∈ format.headerKeys, ¬ format.group <+: key) (clean : ∀ id ∈ ids, dot ∉ id) (distinct : ids.Nodup) :
    (format.headerKeys ++ ids.flatMap fun id => format.fields.map (fieldKey format id)).Nodup := by
  refine nodup_append.mpr ⟨header, nodup_flatMap.mpr ⟨fun id member => ?_, ?_⟩, ?_⟩
  · exact fields.map fun one two same => (fieldKey_inj (clean id member) (clean id member) same).2
  · refine distinct.imp_of_mem fun {one two} first second other => ?_
    rintro key front back
    obtain ⟨field, -, rfl⟩ := mem_map.mp front
    obtain ⟨name, -, same⟩ := mem_map.mp back
    exact other (fieldKey_inj (clean two second) (clean one first) same).1.symm
  · rintro key front other back rfl
    obtain ⟨id, -, inside⟩ := mem_flatMap.mp back
    obtain ⟨field, -, rfl⟩ := mem_map.mp inside
    refine apart _ front ?_
    rw [fieldKey, append_assoc]
    exact prefix_append ..

theorem nodup_of_ascending (ordered : ids.Pairwise (· < ·)) : ids.Nodup := by
  refine ordered.imp fun {one two} below same => ?_
  rw [same] at below
  exact List.lt_irrefl two below

/-- A key of at most 59 bytes and a value of at most 240. -/
theorem fits_of {key value : Bytes} (one : Token key ∧ key.length ≤ 59) (two : Token value ∧ value.length ≤ 240) :
    Fits 300 (key, value) := by
  refine ⟨one.1, two.1, ?_⟩
  calc
    key.length + 1 + value.length ≤ 59 + 1 + 240 := Nat.add_le_add (Nat.succ_le_succ one.2) two.2
    _ = 300 := rfl

theorem fits_key {key value : Bytes} (one : (key ≠ [] ∧ key.all isTokenByte = true) ∧ key.length ≤ 59)
    (two : Token value ∧ value.length ≤ 240) : Fits 300 (key, value) :=
  fits_of ⟨token_of_all one.1, one.2⟩ two

theorem token_number {value : Nat} (small : value ≤ u64Max) : Token (decimal value) ∧ (decimal value).length ≤ 240 :=
  ⟨(token_decimal small).1, Nat.le_trans (token_decimal small).2 (by decide)⟩

theorem token_field {field : Bytes} (all : ∀ field ∈ format.fields,
    (field ≠ [] ∧ field.all isTokenByte = true) ∧ field.length ≤ 18) (member : field ∈ format.fields) :
    Token field ∧ field.length ≤ 18 :=
  ⟨token_of_all (all field member).1, (all field member).2⟩

/-- Keys of records, whose group and field are short. -/
theorem fits_field {id field value : Bytes} (group : Token format.group ∧ format.group.length ≤ 9)
    (valid : validLowerIdentifier id = true) (named : Token field ∧ field.length ≤ 18)
    (two : Token value ∧ value.length ≤ 240) : Fits 300 (fieldKey format id field, value) := by
  refine fits_of ⟨token_fieldKey group.1 valid named.1, ?_⟩ two
  have name : id.length ≤ 31 := (token_lower valid).2
  have front := group.2
  have back := named.2
  rw [fieldKey, length_append, length_append, length_cons]
  omega

end Keys

section Manifests

variable {bytes other : Bytes} {manifest : SystemManifest} {artifact : Artifact} {capacity room floor : Nat}

theorem kind_token (kind : ArtifactKind) : Token kind.asStr ∧ kind.asStr.length ≤ 240 := by
  cases kind <;> exact ⟨token_of_all (by decide), by decide⟩

theorem manifest_framing : Framing manifestFormat 300 where
  magic := by decide +kernel
  endMarker := by decide +kernel
  narrow := by decide

theorem manifest_group : Token manifestFormat.group ∧ manifestFormat.group.length ≤ 9 :=
  ⟨token_of_all (by decide), by decide⟩

theorem Artifact.Checked.token_entry (checked : artifact.Checked floor) :
    Token artifact.entryContract ∧ artifact.entryContract.length ≤ 240 := by
  rcases checked.entry with none | valid
  · rw [none]
    exact ⟨token_of_all (by decide), by decide⟩
  · exact ⟨(token_upper valid).1, Nat.le_trans (token_upper valid).2 (by decide)⟩

theorem artifact_fits (valid : validLowerIdentifier artifact.id = true) (checked : artifact.Checked floor) :
    ∀ entry ∈ artifact.entries, Fits 300 entry := by
  have field : ∀ {name value : Bytes}, name ∈ manifestFormat.fields → Token value ∧ value.length ≤ 240 →
      Fits 300 (fieldKey manifestFormat artifact.id name, value) :=
    fun known two => fits_field manifest_group valid (token_field (by decide) known) two
  have format := token_upper checked.format
  have digest := token_hex checked.digest
  simp only [Artifact.entries, forall_mem_cons, not_mem_nil, false_implies, implies_true, and_true]
  refine ⟨field (by decide) (kind_token _), field (by decide) ⟨format.1, format.2.trans (by decide)⟩,
    field (by decide) (token_number checked.version.2), field (by decide) (token_artifactPath checked.path),
    field (by decide) (token_number (checked.file.2.trans (by decide))),
    field (by decide) (token_number (checked.image.trans (by decide))),
    field (by decide) ⟨digest.1, Nat.le_trans (Nat.le_of_eq digest.2) (by decide)⟩,
    field (by decide) checked.token_entry⟩

theorem header_fits (valid : manifest.Valid) : ∀ entry ∈ manifest.header, Fits 300 entry := by
  have name := token_upper valid.manifestId
  simp only [SystemManifest.header, forall_mem_cons, not_mem_nil, false_implies, implies_true, and_true]
  exact ⟨fits_key (by decide) ⟨name.1, name.2.trans (by decide)⟩,
    fits_key (by decide) (token_number (valid.slot.2.trans (by decide))),
    fits_key (by decide) (token_number valid.version.2),
    fits_key (by decide) (token_number (valid.floor.trans valid.version.2)),
    fits_key (by decide) (token_number (valid.count.2.trans (by decide)))⟩

theorem manifest_keys : manifest.entries.map Prod.fst = manifestFormat.headerKeys ++
    (manifest.artifacts.map Artifact.id).flatMap fun id => manifestFormat.fields.map (fieldKey manifestFormat id) := by
  rw [SystemManifest.entries, map_append, map_flatMap, flatMap_map]
  rfl

/-- The lexer lets every rendering of a valid manifest through. -/
theorem manifest_text (valid : manifest.Valid) : Text manifestFormat manifest.entries manifest.render := by
  have length := @manifest_entries_length manifest
  have count : 1 ≤ manifest.artifacts.length ∧ manifest.artifacts.length ≤ 16 := valid.count
  have total : (manifest.entries.length + 2) * 301 ≤ 64 * 1024 := by omega
  refine text_of_fits manifest_framing (fun entry member => ?_) ?_ (show 15 ≤ _ by omega) (show _ ≤ 192 by omega) total
  · rcases mem_append.mp member with front | back
    · exact header_fits valid entry front
    · obtain ⟨artifact, inside, within⟩ := mem_flatMap.mp back
      exact artifact_fits (valid.ids artifact inside) (valid.checked artifact inside) entry within
  · rw [manifest_keys]
    refine keys_nodup (by decide) (by decide) (by decide) (fun id member => ?_)
      (nodup_of_ascending (pairwise_map.mpr valid.ordered))
    obtain ⟨artifact, inside, rfl⟩ := mem_map.mp member
    exact dot_not_mem_of_valid (valid.ids artifact inside)

theorem accepts_iff_render : Accepts bytes manifest ↔ manifest.Valid ∧ bytes = manifest.render := by
  constructor
  · exact fun accepts => ⟨accepts.valid, accepts.text.written⟩
  · rintro ⟨valid, rfl⟩
    exact ⟨manifest_text valid, valid⟩

theorem manifest_lexical (valid : manifest.Valid) :
    validateLexical manifestFormat manifest.render = .ok (7 + 8 * manifest.artifacts.length) := by
  refine validateLexical_eq_ok.mpr ⟨_, ⟨rfl, (manifest_text valid).lexical⟩, ?_⟩
  rw [framed_length, manifest_entries_length]
  omega

end Manifests

section Configs

variable {bytes other : Bytes} {config : BootConfig} {entry : Entry} {capacity room : Nat}

theorem mode_token (mode : BootMode) : Token mode.asStr ∧ mode.asStr.length ≤ 240 := by
  cases mode <;> exact ⟨token_of_all (by decide), by decide⟩

theorem config_framing : Framing configFormat 300 where
  magic := by decide +kernel
  endMarker := by decide +kernel
  narrow := by decide

theorem entry_fits (valid : validLowerIdentifier entry.id = true) (checked : entry.Checked) :
    ∀ line ∈ entry.lines, Fits 300 line := by
  have field : ∀ {name value : Bytes}, name ∈ configFormat.fields → Token value ∧ value.length ≤ 240 →
      Fits 300 (fieldKey configFormat entry.id name, value) :=
    fun known two => fits_field ⟨token_of_all (by decide), by decide⟩ valid (token_field (by decide) known) two
  simp only [Entry.lines, forall_mem_cons, not_mem_nil, false_implies, implies_true, and_true]
  exact ⟨field (by decide) (mode_token _), field (by decide) (token_number (checked.slot.2.trans (by decide))),
    field (by decide) (token_manifestPath checked.manifest),
    field (by decide) (token_number (checked.limit.2.trans (by decide)))⟩

theorem config_header_fits (valid : config.Valid) : ∀ line ∈ config.header, Fits 300 line := by
  have name := token_lower valid.default
  simp only [BootConfig.header, forall_mem_cons, not_mem_nil, false_implies, implies_true, and_true]
  exact ⟨fits_key (by decide) (token_number (valid.count.2.trans (by decide))),
    fits_key (by decide) ⟨name.1, name.2.trans (by decide)⟩,
    fits_key (by decide) (token_number (valid.timeout.trans (by decide))),
    fits_key (by decide) (token_number (valid.attempts.2.trans (by decide)))⟩

theorem config_keys : config.lines.map Prod.fst = configFormat.headerKeys ++
    (config.entries.map Entry.id).flatMap fun id => configFormat.fields.map (fieldKey configFormat id) := by
  rw [BootConfig.lines, map_append, map_flatMap, flatMap_map]
  rfl

/-- The lexer lets every rendering of a valid configuration through. -/
theorem config_text (valid : config.Valid) : Text configFormat config.lines config.render := by
  have length := @config_lines_length config
  have count : 1 ≤ config.entries.length ∧ config.entries.length ≤ 8 := valid.count
  have total : (config.lines.length + 2) * 301 ≤ 16 * 1024 := by omega
  refine text_of_fits config_framing (fun line member => ?_) ?_ (show 6 ≤ _ by omega) (show _ ≤ 64 by omega) total
  · rcases mem_append.mp member with front | back
    · exact config_header_fits valid line front
    · obtain ⟨entry, inside, within⟩ := mem_flatMap.mp back
      exact entry_fits (valid.ids entry inside) (valid.checked entry inside) line within
  · rw [config_keys]
    refine keys_nodup (by decide) (by decide) (by decide) (fun id member => ?_)
      (nodup_of_ascending (pairwise_map.mpr valid.ordered))
    obtain ⟨entry, inside, rfl⟩ := mem_map.mp member
    exact dot_not_mem_of_valid (valid.ids entry inside)

theorem acceptsConfig_iff_render : AcceptsConfig bytes config ↔ config.Valid ∧ bytes = config.render := by
  constructor
  · exact fun accepts => ⟨accepts.valid, accepts.text.written⟩
  · rintro ⟨valid, rfl⟩
    exact ⟨config_text valid, valid⟩

theorem config_lexical (valid : config.Valid) :
    validateLexical configFormat config.render = .ok (6 + 4 * config.entries.length) := by
  refine validateLexical_eq_ok.mpr ⟨_, ⟨rfl, (config_text valid).lexical⟩, ?_⟩
  rw [framed_length, config_lines_length]
  omega

end Configs

/-- Each parser accepts exactly the renderings of the values that keep the field rules and
fit into the storage. The lexical limits never matter for these, and a value is read from
one text only. -/
theorem grammars_exact : ((∀ bytes capacity manifest, parseManifest bytes capacity = .ok manifest ↔
        (manifest.Valid ∧ manifest.artifacts.length ≤ capacity) ∧ bytes = manifest.render) ∧
      (∀ bytes capacity config, parseConfig bytes capacity = .ok config ↔
        (config.Valid ∧ config.entries.length ≤ capacity) ∧ bytes = config.render)) ∧
    ((∀ manifest : SystemManifest, manifest.Valid →
        validateLexical manifestFormat manifest.render = .ok (7 + 8 * manifest.artifacts.length)) ∧
      (∀ config : BootConfig, config.Valid →
        validateLexical configFormat config.render = .ok (6 + 4 * config.entries.length))) ∧
    ((∀ bytes other capacity room manifest, parseManifest bytes capacity = .ok manifest →
        parseManifest other room = .ok manifest → bytes = other) ∧
      (∀ bytes other capacity room config, parseConfig bytes capacity = .ok config →
        parseConfig other room = .ok config → bytes = other)) := by
  have manifests : ∀ bytes capacity manifest, parseManifest bytes capacity = .ok manifest ↔
      (manifest.Valid ∧ manifest.artifacts.length ≤ capacity) ∧ bytes = manifest.render := by
    intro bytes capacity manifest
    rw [parseManifest_eq_ok, accepts_iff_render, and_right_comm]
  have configs : ∀ bytes capacity config, parseConfig bytes capacity = .ok config ↔
      (config.Valid ∧ config.entries.length ≤ capacity) ∧ bytes = config.render := by
    intro bytes capacity config
    rw [parseConfig_eq_ok, acceptsConfig_iff_render, and_right_comm]
  refine ⟨⟨manifests, configs⟩, ⟨fun _ valid => manifest_lexical valid, fun _ valid => config_lexical valid⟩, ?_, ?_⟩
  · intro bytes other capacity room manifest one two
    rw [((manifests ..).mp one).2, ((manifests ..).mp two).2]
  · intro bytes other capacity room config one two
    rw [((configs ..).mp one).2, ((configs ..).mp two).2]

/-- The parsers of each format accept the same texts and read the same fields from them. -/
theorem parsers_interchangeable : (∀ bytes view, Oracle.parseManifest bytes = .ok view ↔
      ∃ manifest, parseManifest bytes maxArtifacts = .ok manifest ∧ view = manifest.view) ∧
    (∀ bytes, (∃ manifest, parseManifest bytes maxArtifacts = .ok manifest) ↔
      ∃ view, Oracle.parseManifest bytes = .ok view) ∧ (∀ bytes view, Oracle.parseConfig bytes maxEntries = .ok view ↔
      ∃ config, parseConfig bytes maxEntries = .ok config ∧ view = config.view) ∧
    (∀ bytes, (∃ config, parseConfig bytes maxEntries = .ok config) ↔
      ∃ view, Oracle.parseConfig bytes maxEntries = .ok view) := by
  have manifests : ∀ bytes view, Oracle.parseManifest bytes = .ok view ↔
      ∃ manifest, parseManifest bytes maxArtifacts = .ok manifest ∧ view = manifest.view := by
    intro bytes view
    simp only [oracle_parseManifest_eq_ok, parseManifest_eq_ok]
    exact exists_congr fun manifest => and_congr_left fun _ =>
      ⟨fun accepts => ⟨accepts, accepts.valid.count.2⟩, fun both => both.1⟩
  have configs : ∀ bytes view, Oracle.parseConfig bytes maxEntries = .ok view ↔
      ∃ config, parseConfig bytes maxEntries = .ok config ∧ view = config.view := by
    intro bytes view
    simp only [oracle_parseConfig_eq_ok, parseConfig_eq_ok]
  refine ⟨manifests, fun bytes => ?_, configs, fun bytes => ?_⟩
  · simp only [manifests]
    exact ⟨fun ⟨manifest, parsed⟩ => ⟨_, manifest, parsed, rfl⟩, fun ⟨_, manifest, parsed, _⟩ => ⟨manifest, parsed⟩⟩
  · simp only [configs]
    exact ⟨fun ⟨config, parsed⟩ => ⟨_, config, parsed, rfl⟩, fun ⟨_, config, parsed, _⟩ => ⟨config, parsed⟩⟩

end PooleOS.BootText
