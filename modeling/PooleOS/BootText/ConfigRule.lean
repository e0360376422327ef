import PooleOS.BootText.Config
import PooleOS.BootText.Text
import PooleOS.Lib.Collect

/- The grammar of the boot configuration: which configurations there are, how each is
written, and that both parsers accept exactly what is written so. -/
namespace PooleOS.BootText

open List

section Rule

/-- The lines of an entry. -/
def Entry.lines (entry : Entry) : List (Bytes × Bytes) :=
  [(fieldKey configFormat entry.id (ascii "mode"), entry.mode.asStr),
    (fieldKey configFormat entry.id (ascii "slot"), decimal entry.slot),
    (fieldKey configFormat entry.id (ascii "manifest"), entry.manifest),
    (fieldKey configFormat entry.id (ascii "manifest_max_bytes"), decimal entry.manifestMaxBytes)]

/-- The lines of the header. -/
def BootConfig.header (config : BootConfig) : List (Bytes × Bytes) :=
  [(ascii "entry_count", decimal config.entries.length), (ascii "default_entry", config.defaultEntry),
    (ascii "timeout_ms", decimal config.timeoutMs),
    (ascii "boot_attempt_limit", decimal config.bootAttemptLimit)]

def BootConfig.lines (config : BootConfig) : List (Bytes × Bytes) :=
  config.header ++ config.entries.flatMap Entry.lines

/-- The one text of a configuration. -/
def BootConfig.render (config : BootConfig) : Bytes := textOf configFormat config.lines

/-- What the values of an entry may be. -/
structure Entry.Checked (entry : Entry) : Prop where
  slot : 1 ≤ entry.slot ∧ entry.slot ≤ maxEntrySlot
  manifest : ManifestPath entry.manifest
  limit : 1 ≤ entry.manifestMaxBytes ∧ entry.manifestMaxBytes ≤ maxManifestBytes

/-- The field rules of a configuration. -/
structure BootConfig.Valid (config : BootConfig) : Prop where
  count : 1 ≤ config.entries.length ∧ config.entries.length ≤ maxEntries
  default : validLowerIdentifier config.defaultEntry = true
  timeout : config.timeoutMs ≤ maxTimeoutMs
  attempts : 1 ≤ config.bootAttemptLimit ∧ config.bootAttemptLimit ≤ maxBootAttempts
  ids : ∀ entry ∈ config.entries, validLowerIdentifier entry.id = true
  checked : ∀ entry ∈ config.entries, entry.Checked
  ordered : config.entries.Pairwise fun first second => first.id < second.id
  found : config.defaultEntry ∈ config.entries.map Entry.id

end Rule

section Values

variable {value key field identifier : Bytes} {mode : BootMode} {pairs : List (Bytes × Bytes)} {index : Nat}

theorem mode_parse_eq_ok : BootMode.parse value = .ok mode ↔ value = mode.asStr := by
  constructor
  · intro parsed
    unfold BootMode.parse at parsed
    simp only [ite_eq_ok, Except.ok.injEq, reduceCtorEq] at parsed
    by_contra other
    cases mode <;> simp_all [BootMode.asStr]
  · rintro rfl
    cases mode <;> rfl

theorem mem_modes : value ∈ Oracle.modes ↔ ∃ mode : BootMode, value = mode.asStr := by
  constructor
  · intro member
    simp only [Oracle.modes, mem_cons, not_mem_nil, or_false] at member
    rcases member with rfl | rfl | rfl | rfl | rfl
    exacts [⟨.normal, rfl⟩, ⟨.safe, rfl⟩, ⟨.previous, rfl⟩, ⟨.recovery, rfl⟩, ⟨.diagnostic, rfl⟩]
  · rintro ⟨mode, rfl⟩
    cases mode <;> decide

theorem splitOn_fieldKey (valid : validLowerIdentifier identifier = true) (plain : dot ∉ field) :
    (fieldKey configFormat identifier field).splitOn dot = [ascii "entry", identifier, field] := by
  have front : fieldKey configFormat identifier field =
      ascii "entry" ++ dot :: (identifier ++ dot :: field) := rfl
  rw [front, splitOn_append_cons_self_of_not_mem (by decide),
    splitOn_append_cons_self_of_not_mem (dot_not_mem_of_valid valid), splitOn_eq_singleton plain]

/-- Known keys of entries are those of their fields. -/
theorem classify_known (entry : ascii "entry." <+: key) (known : classifyKey configFormat key = .known) :
    ∃ identifier field, (validLowerIdentifier identifier = true ∧ field ∈ configFormat.fields) ∧
      key = fieldKey configFormat identifier field := by
  have header : ∀ other ∈ configFormat.headerKeys, ¬ ascii "entry." <+: other := by decide
  unfold classifyKey at known
  rw [if_neg fun member => header key member entry] at known
  split at known
  · exact nomatch known
  · rename_i rest stripped
    split at known
    · exact nomatch known
    · rename_i identifier field found
      split at known
      · exact nomatch known
      · rename_i valid
        split at known
        · rename_i member
          refine ⟨identifier, field, ⟨not_not.mp valid, member⟩, ?_⟩
          rw [stripStart_eq_some.mp stripped, (splitOnce_eq_some.mp found).2, fieldKey, append_assoc]
        · exact nomatch known

theorem classify_fieldKey (valid : validLowerIdentifier identifier = true) (member : field ∈ configFormat.fields) :
    classifyKey configFormat (fieldKey configFormat identifier field) = .known := by
  unfold classifyKey
  split
  · rfl
  · have stripped : stripStart configFormat.group (fieldKey configFormat identifier field) =
        some (identifier ++ dot :: field) := stripStart_eq_some.mpr (append_assoc ..)
    rw [stripped]
    simp only [splitOnce_append (dot_not_mem_of_valid valid), valid, not_true_eq_false, if_false, member, if_true]

theorem entryKey_eq_ok (known : field ∈ configFormat.fields) : Oracle.entryKey key field = .ok identifier ↔
    validLowerIdentifier identifier = true ∧ key = fieldKey configFormat identifier field := by
  unfold Oracle.entryKey
  simp only [demand_bind_eq_ok]
  constructor
  · rintro ⟨named, found, entry, read⟩
    have class_known : classifyKey configFormat key = .known := by
      cases same : classifyKey configFormat key with
      | known => rfl
      | invalidIdentifier => exact absurd same named
      | unknown => exact absurd same found
    obtain ⟨name, other, ⟨valid, member⟩, rfl⟩ := classify_known entry class_known
    rw [splitOn_fieldKey valid (configFormat.plain other member)] at read
    simp only [demand_bind_eq_ok, pure_eq_ok] at read
    obtain ⟨rfl, rfl⟩ := read
    exact ⟨valid, rfl⟩
  · rintro ⟨valid, rfl⟩
    have class_known := classify_fieldKey valid known
    refine ⟨by simp [class_known], by simp [class_known], ?_, ?_⟩
    · exact List.prefix_append ..
    · rw [splitOn_fieldKey valid (configFormat.plain field known)]
      simp only [demand_bind_eq_ok, true_and]
      rfl

theorem expect_eq_ok : Oracle.expect pairs (index + 1) key = .ok value ↔ pairs[index]? = some (key, value) := by
  unfold Oracle.expect
  simp only [bind_eq_ok_iff, orError_eq_ok, Prod.exists, demand_eq_ok, pure_eq_ok, exists_const]
  constructor
  · rintro ⟨_, _, found, rfl, rfl⟩
    exact found
  · exact fun found => ⟨key, value, found, rfl, rfl⟩

end Values

section Loop

/-- Four entries in a row. -/
theorem exists_four {pairs : List (Bytes × Bytes)} {start : Nat} (inside : start + 4 ≤ pairs.length) :
    ∃ one two three four, (pairs.drop start).take 4 = [one, two, three, four] ∧
      ∀ step < 4, pairs[start + step]? = [one, two, three, four][step]? := by
  have chunk : (pairs.drop start).take 4 = [pairs[start], pairs[start + 1], pairs[start + 2], pairs[start + 3]] := by
    iterate 4 rw [drop_eq_getElem_cons (by omega)]
    rfl
  refine ⟨_, _, _, _, chunk, fun step less => ?_⟩
  rw [← chunk, getElem?_take_of_lt less, getElem?_drop]

/-- What a round asks of the entry that it reads. -/
structure EntryRule (pairs : List (Bytes × Bytes)) (front : List Entry) (entry : Entry) : Prop where
  read : ((pairs.drop 4).drop (4 * front.length)).take 4 = entry.lines
  valid : validLowerIdentifier entry.id = true
  checked : entry.Checked
  above : ∀ last, front.getLast? = some last → last.id < entry.id

/-- The identifier of the last entry, or the empty one. -/
def previousId (items : List Entry) : Bytes := (items.getLast?.map Entry.id).getD []

def scanOf (defaultEntry : Bytes) (items : List Entry) : Scan where
  previousId := previousId items
  defaultFound := items.any fun entry => entry.id = defaultEntry
  storage := items

/-- An entry as the oracle keeps it. -/
def Entry.view (entry : Entry) : Oracle.Entry where
  id := entry.id
  mode := entry.mode.asStr
  slot := entry.slot
  manifest := entry.manifest
  manifestMaxBytes := entry.manifestMaxBytes

def scanView (items : List Entry) : Oracle.Scan where
  previous := previousId items
  entries := items.map Entry.view

variable {pairs : List (Bytes × Bytes)} {front : List Entry} {id defaultEntry : Bytes}

theorem previousId_concat {entry : Entry} : previousId (front ++ [entry]) = entry.id := by
  rw [previousId, getLast?_concat]
  rfl

/-- The order of identifiers, as both loops check it. -/
theorem entry_order_iff (collected : Collected (EntryRule pairs) front) :
    ¬ (previousId front ≠ [] ∧ ¬ previousId front < id) ↔ ∀ last, front.getLast? = some last → last.id < id := by
  refine collected.order_iff fun _ _ fits none => ?_
  have valid := fits.valid
  rw [none] at valid
  exact nomatch valid

theorem lines_eq_iff {mode slot manifest limit : Bytes × Bytes} {entry : Entry} :
    [mode, slot, manifest, limit] = entry.lines ↔
      (mode.1 = fieldKey configFormat entry.id (ascii "mode") ∧ slot.1 = fieldKey configFormat entry.id (ascii "slot") ∧
        manifest.1 = fieldKey configFormat entry.id (ascii "manifest") ∧
          limit.1 = fieldKey configFormat entry.id (ascii "manifest_max_bytes")) ∧
      mode.2 = entry.mode.asStr ∧ slot.2 = decimal entry.slot ∧ manifest.2 = entry.manifest ∧
        limit.2 = decimal entry.manifestMaxBytes := by
  simp only [Entry.lines, cons.injEq, Prod.ext_iff, and_true]
  constructor
  · rintro ⟨⟨one, a⟩, ⟨two, b⟩, ⟨three, c⟩, ⟨four, d⟩⟩
    exact ⟨⟨one, two, three, four⟩, a, b, c, d⟩
  · rintro ⟨⟨one, two, three, four⟩, a, b, c, d⟩
    exact ⟨⟨one, a⟩, ⟨two, b⟩, ⟨three, c⟩, ⟨four, d⟩⟩

theorem parseEntry_eq_ok {bytes : Bytes} (text : Text configFormat pairs bytes)
    (collected : Collected (EntryRule pairs) front) (inside : 4 + 4 * (front.length + 1) ≤ pairs.length)
    {next : Scan} : parseEntry bytes defaultEntry (scanOf defaultEntry front) front.length = .ok next ↔
      ∃ entry, EntryRule pairs front entry ∧ next = scanOf defaultEntry (front ++ [entry]) := by
  obtain ⟨mode, slot, manifest, limit, chunk, found⟩ := @exists_four pairs (4 + 4 * front.length) (by omega)
  rw [← drop_drop] at chunk
  have read : ∀ step pair, step < 4 → [mode, slot, manifest, limit][step]? = some pair →
      pairAt bytes (5 + front.length * 4 + step) = .ok pair := by
    intro step pair less same
    rw [show 5 + front.length * 4 + step = 4 + 4 * front.length + step + 1 by omega]
    exact text.pairAt ((found step less).trans same)
  have first : pairAt bytes (5 + front.length * 4) = .ok mode := read 0 mode (by decide) rfl
  have pushed : ∀ entry : Entry, scanOf defaultEntry (front ++ [entry]) = ⟨entry.id,
      (scanOf defaultEntry front).defaultFound || entry.id = defaultEntry, front ++ [entry]⟩ := by
    intro entry
    rw [scanOf, previousId_concat, any_append, any_cons, any_nil, Bool.or_false]
    rfl
  unfold parseEntry
  simp only [first, read 1 slot (by decide) rfl, read 2 manifest (by decide) rfl, read 3 limit (by decide) rfl, ok_bind]
  simp only [bind_eq_ok_iff, recordKey_eq_ok (show ascii "mode" ∈ configFormat.fields by decide),
    recordKey_eq_ok (show ascii "slot" ∈ configFormat.fields by decide),
    recordKey_eq_ok (show ascii "manifest" ∈ configFormat.fields by decide),
    recordKey_eq_ok (show ascii "manifest_max_bytes" ∈ configFormat.fields by decide), demand_eq_ok, forM_eq_ok,
    validateManifestPath_eq_ok, parseRange_eq_ok (show maxManifestBytes ≤ u64Max by decide),
    parseRange_eq_ok (show maxEntrySlot ≤ u64Max by decide), mode_parse_eq_ok, exists_const, pure_eq_ok,
    forall_mem_cons, not_mem_nil, false_implies, implies_true, and_true, exists_eq_right]
  constructor
  · rintro ⟨id, ⟨valid, one⟩, above, ⟨⟨-, two⟩, ⟨-, three⟩, ⟨-, four⟩⟩, path, bytes, ⟨limited, e⟩, kind, a, number,
      ⟨slotted, b⟩, rfl⟩
    refine ⟨⟨id, kind, number, manifest.2, bytes⟩, ⟨?_, valid, ⟨slotted, path, limited⟩,
      (entry_order_iff collected).mp above⟩, (pushed ⟨id, kind, number, manifest.2, bytes⟩).symm⟩
    rw [chunk]
    exact lines_eq_iff.mpr ⟨⟨one, two, three, four⟩, a, b, rfl, e⟩
  · rintro ⟨entry, rule, rfl⟩
    have same := rule.read
    rw [chunk] at same
    obtain ⟨⟨one, two, three, four⟩, a, b, c, e⟩ := lines_eq_iff.mp same
    have valid := rule.valid
    have path := rule.checked.manifest
    refine ⟨entry.id, ⟨valid, one⟩, (entry_order_iff collected).mpr rule.above,
      ⟨⟨valid, two⟩, ⟨valid, three⟩, ⟨valid, four⟩⟩, by rwa [c], _, ⟨rule.checked.limit, e⟩, _, a, _,
      ⟨rule.checked.slot, b⟩, ?_⟩
    rw [pushed, c]
    rfl

theorem oracle_parseEntry_eq_ok (collected : Collected (EntryRule pairs) front)
    (inside : 4 + 4 * (front.length + 1) ≤ pairs.length) {next : Oracle.Scan} :
    Oracle.parseEntry pairs (scanView front) front.length = .ok next ↔
      ∃ entry, EntryRule pairs front entry ∧ next = scanView (front ++ [entry]) := by
  obtain ⟨mode, slot, manifest, limit, chunk, found⟩ := @exists_four pairs (4 + 4 * front.length) (by omega)
  rw [← drop_drop] at chunk
  have read : ∀ step pair, step < 4 → [mode, slot, manifest, limit][step]? = some pair →
      pairs[4 + front.length * 4 + step]? = some pair := by
    intro step pair less same
    rw [Nat.mul_comm front.length]
    exact (found step less).trans same
  have first : pairs[4 + front.length * 4]? = some mode := read 0 mode (by decide) rfl
  have pushed : ∀ entry : Entry, scanView (front ++ [entry]) = ⟨entry.id, (scanView front).entries ++ [entry.view]⟩ := by
    intro entry
    rw [scanView, previousId_concat, map_append]
    rfl
  unfold Oracle.parseEntry
  simp only [first, read 1 slot (by decide) rfl, read 2 manifest (by decide) rfl, read 3 limit (by decide) rfl,
    orError_some, ok_bind]
  simp only [bind_eq_ok_iff, entryKey_eq_ok (show ascii "mode" ∈ configFormat.fields by decide),
    entryKey_eq_ok (show ascii "slot" ∈ configFormat.fields by decide),
    entryKey_eq_ok (show ascii "manifest" ∈ configFormat.fields by decide),
    entryKey_eq_ok (show ascii "manifest_max_bytes" ∈ configFormat.fields by decide), demand_eq_ok, forM_eq_ok,
    oracle_validateManifestPath_eq_ok, oracle_parseRange_eq_ok (show maxManifestBytes ≤ u64Max by decide),
    oracle_parseRange_eq_ok (show maxEntrySlot ≤ u64Max by decide), mem_modes, exists_const, pure_eq_ok,
    forall_mem_cons, not_mem_nil, false_implies, implies_true, and_true, exists_eq_right]
  constructor
  · rintro ⟨id, ⟨valid, one⟩, above, ⟨⟨-, two⟩, ⟨-, three⟩, ⟨-, four⟩⟩, ⟨kind, a⟩, number, ⟨slotted, b⟩, path, bytes,
      ⟨limited, e⟩, rfl⟩
    refine ⟨⟨id, kind, number, manifest.2, bytes⟩, ⟨?_, valid, ⟨slotted, path, limited⟩,
      (entry_order_iff collected).mp above⟩, ?_⟩
    · rw [chunk]
      exact lines_eq_iff.mpr ⟨⟨one, two, three, four⟩, a, b, rfl, e⟩
    · rw [pushed, Entry.view, a]
  · rintro ⟨entry, rule, rfl⟩
    have same := rule.read
    rw [chunk] at same
    obtain ⟨⟨one, two, three, four⟩, a, b, c, e⟩ := lines_eq_iff.mp same
    have valid := rule.valid
    have path := rule.checked.manifest
    refine ⟨entry.id, ⟨valid, one⟩, (entry_order_iff collected).mpr rule.above,
      ⟨⟨valid, two⟩, ⟨valid, three⟩, ⟨valid, four⟩⟩, ⟨_, a⟩, _, ⟨rule.checked.slot, b⟩, by rwa [c], _,
      ⟨rule.checked.limit, e⟩, ?_⟩
    rw [pushed, Entry.view, a, c]

/-- The entries of a text, read one by one. -/
theorem entries_collected_iff {items : List Entry} (full : pairs.length = 4 + 4 * items.length) :
    Collected (EntryRule pairs) items ↔
      pairs.drop 4 = items.flatMap Entry.lines ∧ (∀ entry ∈ items, validLowerIdentifier entry.id = true) ∧
        (∀ entry ∈ items, entry.Checked) ∧ items.Pairwise fun first second => first.id < second.id := by
  have length : (pairs.drop 4).length = 4 * items.length := by
    rw [length_drop, full]
    omega
  constructor
  · intro collected
    refine ⟨?_, collected.all fun _ _ rule => rule.valid, collected.all fun _ _ rule => rule.checked, ?_⟩
    · have read := collected.chunks fun _ _ rule => rule.read
      rwa [take_of_length_le (by omega)] at read
    · exact collected.ascending (fun first second => first.id < second.id)
        (fun below above => List.lt_trans below above) fun _ _ rule => rule.above
  · rintro ⟨read, valid, checked, ordered⟩
    refine .of_split fun front item back same => ?_
    subst same
    have within : item ∈ front ++ item :: back := mem_append_right _ (mem_cons_self ..)
    refine ⟨?_, valid item within, checked item within, fun last final => ?_⟩
    · rw [read]
      exact chunk_of_split (show ∀ entry : Entry, entry.lines.length = 4 from fun _ => rfl) front item back
    · exact (pairwise_append.mp ordered).2.2 last (mem_of_getLast? final) item (mem_cons_self ..)

end Loop

section Configs

variable {bytes : Bytes} {pairs : List (Bytes × Bytes)} {config : BootConfig} {capacity : Nat}

theorem take_four {α : Type} {items : List α} {one two three four : α} :
    (items[0]? = some one ∧ items[1]? = some two ∧ items[2]? = some three ∧ items[3]? = some four) ↔
      items.take 4 = [one, two, three, four] := by
  rcases items with _ | ⟨a, _ | ⟨b, _ | ⟨c, _ | ⟨d, rest⟩⟩⟩⟩ <;> simp

theorem lines_eq_config : pairs = config.lines ↔
    pairs.take 4 = config.header ∧ pairs.drop 4 = config.entries.flatMap Entry.lines := by
  constructor
  · rintro rfl
    exact ⟨take_left' rfl, drop_left' rfl⟩
  · rintro ⟨front, back⟩
    rw [BootConfig.lines, ← front, ← back, take_append_drop]

theorem config_lines_length : config.lines.length = 4 + 4 * config.entries.length := by
  rw [BootConfig.lines, length_append, length_flatMap]
  have four : config.entries.map (fun entry => entry.lines.length) = config.entries.map fun _ => 4 :=
    map_congr_left fun _ _ => rfl
  rw [four, map_const', sum_replicate_nat, Nat.mul_comm]
  rfl

/-- What both parsers find in the entries of a text. -/
structure ConfigRead (pairs : List (Bytes × Bytes)) (config : BootConfig) : Prop where
  count : pairs[0]? = some (ascii "entry_count", decimal config.entries.length)
  default : pairs[1]? = some (ascii "default_entry", config.defaultEntry)
  timeout : pairs[2]? = some (ascii "timeout_ms", decimal config.timeoutMs)
  attempts : pairs[3]? = some (ascii "boot_attempt_limit", decimal config.bootAttemptLimit)
  full : pairs.length = 4 + 4 * config.entries.length
  collected : Collected (EntryRule pairs) config.entries
  few : 1 ≤ config.entries.length ∧ config.entries.length ≤ maxEntries
  validDefault : validLowerIdentifier config.defaultEntry = true
  validTimeout : config.timeoutMs ≤ maxTimeoutMs
  validAttempts : 1 ≤ config.bootAttemptLimit ∧ config.bootAttemptLimit ≤ maxBootAttempts
  found : config.defaultEntry ∈ config.entries.map Entry.id

theorem configRead_iff : ConfigRead pairs config ↔ pairs = config.lines ∧ config.Valid := by
  constructor
  · intro read
    obtain ⟨back, ids, checked, ordered⟩ := (entries_collected_iff read.full).mp read.collected
    exact ⟨lines_eq_config.mpr ⟨take_four.mp ⟨read.count, read.default, read.timeout, read.attempts⟩, back⟩,
      read.few, read.validDefault, read.validTimeout, read.validAttempts, ids, checked, ordered, read.found⟩
  · rintro ⟨rfl, valid⟩
    obtain ⟨front, back⟩ := lines_eq_config.mp (show config.lines = config.lines from rfl)
    obtain ⟨one, two, three, four⟩ := take_four.mpr front
    exact ⟨one, two, three, four, config_lines_length,
      (entries_collected_iff config_lines_length).mpr ⟨back, valid.ids, valid.checked, valid.ordered⟩,
      valid.count, valid.default, valid.timeout, valid.attempts, valid.found⟩

theorem config_loop_eq_ok (text : Text configFormat pairs bytes) {count : Nat} {defaultEntry : Bytes} {last : Scan}
    (full : pairs.length = 4 + 4 * count) :
    (range count).foldlM (parseEntry bytes defaultEntry) ⟨[], false, []⟩ = .ok last ↔
      ∃ items, (Collected (EntryRule pairs) items ∧ items.length = count) ∧ last = scanOf defaultEntry items :=
  collect_eq_ok (fun _ _ collected less => parseEntry_eq_ok text collected (by omega)) last

theorem oracle_config_loop_eq_ok {count : Nat} {last : Oracle.Scan} (full : pairs.length = 4 + 4 * count) :
    (range count).foldlM (Oracle.parseEntry pairs) ⟨[], []⟩ = .ok last ↔
      ∃ items, (Collected (EntryRule pairs) items ∧ items.length = count) ∧ last = scanView items :=
  collect_eq_ok (fun _ _ collected less => oracle_parseEntry_eq_ok collected (by omega)) last

/-- What both parsers accept: the lines of a configuration that keeps the field rules. -/
structure AcceptsConfig (bytes : Bytes) (config : BootConfig) : Prop where
  text : Text configFormat config.lines bytes
  valid : config.Valid

theorem acceptsConfig_iff :
    AcceptsConfig bytes config ↔ ∃ pairs, Text configFormat pairs bytes ∧ ConfigRead pairs config := by
  simp only [configRead_iff]
  constructor
  · exact fun accepts => ⟨_, accepts.text, rfl, accepts.valid⟩
  · rintro ⟨_, text, rfl, valid⟩
    exact ⟨text, valid⟩

theorem any_id_iff {items : List Entry} {defaultEntry : Bytes} :
    (items.any fun entry => entry.id = defaultEntry) = true ↔ defaultEntry ∈ items.map Entry.id := by
  simp only [any_eq_true, decide_eq_true_eq, mem_map]

theorem parseConfig_eq_ok :
    parseConfig bytes capacity = .ok config ↔ AcceptsConfig bytes config ∧ config.entries.length ≤ capacity := by
  rw [acceptsConfig_iff, ← exists_and_right]
  refine (opened_iff fun pairs text => ?_).trans (exists_congr fun _ => and_assoc.symm)
  have long : 4 ≤ pairs.length := by
    have many : 6 ≤ pairs.length + 2 := text.many
    omega
  have read : ∀ index key value, index < 4 → (expectValue configFormat bytes (index + 1) key = .ok value ↔
      pairs[index]? = some (key, value)) := fun index key value less => expectValue_eq_ok text (by omega)
  simp only [bind_eq_ok_iff, read 0 _ _ (by decide), read 1 _ _ (by decide), read 2 _ _ (by decide),
    read 3 _ _ (by decide), demand_eq_ok, parseRange_eq_ok (show maxEntries ≤ u64Max by decide),
    parseRange_eq_ok (show maxTimeoutMs ≤ u64Max by decide), parseRange_eq_ok (show maxBootAttempts ≤ u64Max by decide),
    checkLines_eq_ok, exists_const, pure_eq_ok]
  constructor
  · rintro ⟨_, one, count, ⟨few, rfl⟩, length, fits, _, two, valid, _, three, timeout, ⟨timed, rfl⟩, _, four, attempts,
      ⟨tried, rfl⟩, _, ran, found, rfl⟩
    have full : pairs.length = 4 + 4 * count := by omega
    obtain ⟨items, ⟨collected, rfl⟩, rfl⟩ := (config_loop_eq_ok text full).mp ran
    exact ⟨⟨one, two, three, four, full, collected, few, valid, timed.2, tried, any_id_iff.mp found⟩, fits⟩
  · rintro ⟨found, fits⟩
    have full := found.full
    exact ⟨_, found.count, _, ⟨found.few, rfl⟩, by omega, fits, _, found.default, found.validDefault, _, found.timeout, _,
      ⟨⟨Nat.zero_le _, found.validTimeout⟩, rfl⟩, _, found.attempts, _, ⟨found.validAttempts, rfl⟩, _,
      (config_loop_eq_ok text full).mpr ⟨_, ⟨found.collected, rfl⟩, rfl⟩, any_id_iff.mpr found.found, rfl⟩

/-- A configuration as the oracle keeps it. -/
def BootConfig.view (config : BootConfig) : Oracle.Config where
  defaultEntry := config.defaultEntry
  timeoutMs := config.timeoutMs
  bootAttemptLimit := config.bootAttemptLimit
  entries := config.entries.map Entry.view

theorem map_view_id (items : List Entry) : (items.map Entry.view).map Oracle.Entry.id = items.map Entry.id :=
  map_map

theorem oracle_parseConfig_eq_ok {view : Oracle.Config} : Oracle.parseConfig bytes capacity = .ok view ↔
      ∃ config, (AcceptsConfig bytes config ∧ config.entries.length ≤ capacity) ∧ view = config.view := by
  simp only [acceptsConfig_iff]
  have swap : (∃ config, ((∃ pairs, Text configFormat pairs bytes ∧ ConfigRead pairs config) ∧
      config.entries.length ≤ capacity) ∧ view = config.view) ↔ ∃ pairs, Text configFormat pairs bytes ∧
        ∃ config : BootConfig, (ConfigRead pairs config ∧ config.entries.length ≤ capacity) ∧ view = config.view := by
    constructor
    · rintro ⟨config, ⟨⟨pairs, text, found⟩, fits⟩, same⟩
      exact ⟨pairs, text, config, ⟨found, fits⟩, same⟩
    · rintro ⟨pairs, text, config, ⟨found, fits⟩, same⟩
      exact ⟨config, ⟨⟨pairs, text, found⟩, fits⟩, same⟩
  rw [swap]
  refine oracle_opened_iff (fun _ _ => configPairs_eq_ok) fun lines pairs text length => ?_
  have read : ∀ {index key value}, Oracle.expect pairs (index + 1) key = .ok value ↔
      pairs[index]? = some (key, value) := expect_eq_ok
  simp only [bind_eq_ok_iff, @read 0, @read 1, @read 2, @read 3, demand_eq_ok,
    oracle_parseRange_eq_ok (show maxEntries ≤ u64Max by decide),
    oracle_parseRange_eq_ok (show maxTimeoutMs ≤ u64Max by decide),
    oracle_parseRange_eq_ok (show maxBootAttempts ≤ u64Max by decide), exists_const, pure_eq_ok, length]
  constructor
  · rintro ⟨_, one, count, ⟨few, rfl⟩, -, whole, fits, _, two, valid, _, three, timeout, ⟨timed, rfl⟩, _, four, attempts,
      ⟨tried, rfl⟩, _, ran, found, rfl⟩
    have full : pairs.length = 4 + 4 * count := by omega
    obtain ⟨items, ⟨collected, rfl⟩, rfl⟩ := (oracle_config_loop_eq_ok full).mp ran
    rw [scanView, map_view_id] at found
    exact ⟨⟨_, timeout, attempts, items⟩, ⟨⟨one, two, three, four, full, collected, few, valid, timed.2, tried, found⟩,
      fits⟩, rfl⟩
  · rintro ⟨config, ⟨found, fits⟩, rfl⟩
    have full := found.full
    refine ⟨_, found.count, _, ⟨found.few, rfl⟩, by omega, by omega, fits, _, found.default, found.validDefault, _,
      found.timeout, _, ⟨⟨Nat.zero_le _, found.validTimeout⟩, rfl⟩, _, found.attempts, _, ⟨found.validAttempts, rfl⟩, _,
      (oracle_config_loop_eq_ok full).mpr ⟨_, ⟨found.collected, rfl⟩, rfl⟩, ?_, rfl⟩
    rw [scanView, map_view_id]
    exact found.found

end Configs

end PooleOS.BootText
