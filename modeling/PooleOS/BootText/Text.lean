import PooleOS.BootText.Values

/- The texts that both lexers let through: a first line, lines of a key and a value with
no key twice, and a last line. -/
namespace PooleOS.BootText

open List

variable {format : Format} {bytes : Bytes} {items : List Bytes} {count : Nat}
  {entries : List (Bytes × Bytes)}

/-- Lines that keep the lexical limits. -/
structure Lexical (format : Format) (items : List Bytes) : Prop where
  written : items ≠ []
  filled : ∀ line ∈ items, line ≠ []
  printable : ∀ line ∈ items, ∀ byte ∈ line, isPrintable byte = true
  short : ∀ line ∈ items, line.length ≤ format.maxLineBytes
  few : items.length ≤ format.maxLines
  small : (unlines lf items).length ≤ format.maxBytes

theorem Lexical.clean (lexical : Lexical format items) : ∀ line ∈ items, lf ∉ line := by
  intro line member inside
  exact absurd (lexical.printable line member lf inside) (by decide)

theorem countLine_eq_ok {line : Bytes} {next : Nat} : countLine format count line = .ok next ↔
    ((line ≠ [] ∧ line.length ≤ format.maxLineBytes) ∧ count + 1 ≤ format.maxLines) ∧ next = count + 1 := by
  unfold countLine
  rw [demand_bind_eq_ok, demand_bind_eq_ok, demand_bind_eq_ok, pure_eq_ok]
  simp only [and_assoc]

theorem foldlM_countLine : ∀ {items : List Bytes} {count last : Nat}, count ≤ format.maxLines →
    (items.foldlM (countLine format) count = .ok last ↔
      ((∀ line ∈ items, line ≠ [] ∧ line.length ≤ format.maxLineBytes) ∧ count + items.length ≤ format.maxLines) ∧
        last = count + items.length)
  | [], count, last, small => by
      rw [foldlM_nil, pure_eq_ok]
      exact ⟨fun same => ⟨⟨fun _ member => absurd member not_mem_nil, small⟩, same⟩, fun both => both.2⟩
  | line :: rest, count, last, small => by
      rw [foldlM_cons, bind_eq_ok_iff, forall_mem_cons, length_cons]
      constructor
      · rintro ⟨_, first, ran⟩
        obtain ⟨⟨fine, room⟩, rfl⟩ := countLine_eq_ok.mp first
        obtain ⟨⟨others, fits⟩, rfl⟩ := (foldlM_countLine room).mp ran
        exact ⟨⟨⟨fine, others⟩, by omega⟩, by omega⟩
      · rintro ⟨⟨⟨fine, others⟩, fits⟩, rfl⟩
        have room : count + 1 ≤ format.maxLines := by omega
        exact ⟨count + 1, countLine_eq_ok.mpr ⟨⟨fine, room⟩, rfl⟩,
          (foldlM_countLine room).mpr ⟨⟨others, by omega⟩, by omega⟩⟩

section Written

variable (all : ∀ byte ∈ bytes, byte = lf ∨ isPrintable byte = true) (last : bytes.getLast? = some lf)

include last in
theorem lines_written : unlines lf (lines lf bytes) = bytes := unlines_lines last

include all last in
theorem lines_printable : ∀ line ∈ lines lf bytes, ∀ byte ∈ line, isPrintable byte = true := by
  intro line member byte inside
  have within : byte ∈ bytes := by
    rw [← lines_written last]
    exact mem_unlines.mpr ⟨line, member, .inl inside⟩
  refine (all byte within).resolve_left fun feed => not_mem_lines member (feed ▸ inside)

end Written

theorem Lexical.all (lexical : Lexical format items) :
    ∀ byte ∈ unlines lf items, byte = lf ∨ isPrintable byte = true := by
  intro byte inside
  obtain ⟨line, member, within | feed⟩ := mem_unlines.mp inside
  · exact .inr (lexical.printable line member byte within)
  · exact .inl feed

theorem unlines_ne_nil (some : items ≠ []) : unlines lf items ≠ [] := by
  cases items with
  | nil => exact absurd rfl some
  | cons line rest => simp

theorem unlines_getLast? (some : items ≠ []) : (unlines lf items).getLast? = Option.some lf := by
  induction items with
  | nil => exact absurd rfl some
  | cons line rest ih =>
    rw [unlines_cons]
    cases rest with
    | nil => rw [unlines_nil, getLast?_concat]
    | cons second others =>
      rw [getLast?_append, getLast?_cons, ih (by simp)]
      rfl

theorem validateLexical_eq_ok : validateLexical format bytes = .ok count ↔
    ∃ items, (bytes = unlines lf items ∧ Lexical format items) ∧ count = items.length := by
  unfold validateLexical
  simp only [demand_bind_eq_ok, foldlM_countLine (Nat.zero_le format.maxLines), Nat.zero_add]
  constructor
  · rintro ⟨some, small, last, all, ⟨fine, few⟩, rfl⟩
    have same := lines_written last
    refine ⟨lines lf bytes, ⟨same.symm, ?_, fun line member => (fine line member).1, lines_printable all last,
      fun line member => (fine line member).2, few, same.symm ▸ small⟩, rfl⟩
    intro none
    rw [none] at same
    exact some same.symm
  · rintro ⟨items, ⟨rfl, lexical⟩, rfl⟩
    rw [lines_unlines lexical.clean]
    exact ⟨unlines_ne_nil lexical.written, lexical.small, unlines_getLast? lexical.written, lexical.all,
      ⟨fun line member => ⟨lexical.filled line member, lexical.short line member⟩, lexical.few⟩, rfl⟩

theorem oracle_lex_eq_ok : Oracle.lex format bytes = .ok items ↔ bytes = unlines lf items ∧ Lexical format items := by
  unfold Oracle.lex
  simp only [demand_bind_eq_ok, pure_eq_ok]
  constructor
  · rintro ⟨some, small, last, all, filled, short, few, rfl⟩
    have same := lines_written last
    have written : lines lf bytes ≠ [] := fun none => some (by rw [← same, none, unlines_nil])
    have split : bytes.dropLast.splitOn lf = lines lf bytes := by
      conv_lhs => rw [← same]
      exact splitOn_dropLast written fun line member => not_mem_lines member
    rw [split] at filled short few ⊢
    exact ⟨same.symm, written, filled, lines_printable all last, short, few, same.symm ▸ small⟩
  · rintro ⟨rfl, lexical⟩
    rw [splitOn_dropLast lexical.written lexical.clean]
    exact ⟨unlines_ne_nil lexical.written, lexical.small, unlines_getLast? lexical.written, lexical.all,
      lexical.filled, lexical.short, lexical.few, rfl⟩

/-- The lines of entries between the first line and the last. -/
def framed (first last : Bytes) (entries : List (Bytes × Bytes)) : List Bytes :=
  first :: (entries.map keyLine ++ [last])

/-- The text of entries. -/
def textOf (format : Format) (entries : List (Bytes × Bytes)) : Bytes :=
  unlines lf (framed format.magic format.endMarker entries)

/-- What both parsers ask of a text before they look at the keys. -/
structure Text (format : Format) (entries : List (Bytes × Bytes)) (bytes : Bytes) : Prop where
  written : bytes = textOf format entries
  lexical : Lexical format (framed format.magic format.endMarker entries)
  split : ∀ entry ∈ entries, Split entry
  distinct : (entries.map Prod.fst).Nodup
  many : format.minLines ≤ entries.length + 2

variable {first last : Bytes} {middle : List Bytes}

@[simp] theorem framed_length : (framed first last entries).length = entries.length + 2 := by
  rw [framed, length_cons, length_append, length_map]
  rfl

section Access

variable {index : Nat}

theorem lineAt_unlines (lexical : Lexical format items) :
    lineAt (unlines lf items) index = orError items[index]? .truncated := by
  rw [lineAt, lines_unlines lexical.clean]

theorem lineAt_eq_ok {line : Bytes} (lexical : Lexical format items) :
    lineAt (unlines lf items) index = .ok line ↔ items[index]? = some line := by
  rw [lineAt_unlines lexical, orError_eq_ok]

variable {entry : Bytes × Bytes}

theorem pairAt_eq_ok (lexical : Lexical format items) :
    pairAt (unlines lf items) index = .ok entry ↔ Split entry ∧ items[index]? = some (keyLine entry) := by
  unfold pairAt
  simp only [bind_eq_ok_iff, lineAt_eq_ok lexical, splitKeyValue_eq_ok]
  constructor
  · rintro ⟨_, found, split, rfl⟩
    exact ⟨split, found⟩
  · rintro ⟨split, found⟩
    exact ⟨_, found, split, rfl⟩

theorem framed_getElem? (found : entries[index]? = some entry) :
    (framed first last entries)[index + 1]? = some (keyLine entry) := by
  have inside := (List.getElem?_eq_some_iff.mp found).1
  rw [framed, List.getElem?_cons_succ, List.getElem?_append_left (by rwa [List.length_map]), List.getElem?_map, found]
  rfl

theorem pairAt_framed (lexical : Lexical format (framed first last entries)) (split : ∀ entry ∈ entries, Split entry)
    (found : entries[index]? = some entry) : pairAt (unlines lf (framed first last entries)) (index + 1) = .ok entry :=
  (pairAt_eq_ok lexical).mpr ⟨split entry (mem_of_getElem? found), framed_getElem? found⟩

theorem Text.pairAt (text : Text format entries bytes) (found : entries[index]? = some entry) :
    BootText.pairAt bytes (index + 1) = .ok entry := by
  rw [text.written]
  exact pairAt_framed text.lexical text.split found

end Access

section Duplicates

/-- Lines that all split are the lines of entries. -/
theorem exists_entries (each : ∀ line ∈ middle, ∃ entry, Split entry ∧ line = keyLine entry) :
    ∃ entries : List (Bytes × Bytes), middle = entries.map keyLine ∧ ∀ entry ∈ entries, Split entry := by
  induction middle with
  | nil => exact ⟨[], rfl, fun _ member => nomatch member⟩
  | cons line rest ih =>
    rw [forall_mem_cons] at each
    obtain ⟨entry, split, rfl⟩ := each.1
    obtain ⟨entries, rfl, others⟩ := ih each.2
    exact ⟨entry :: entries, rfl, forall_mem_cons.mpr ⟨split, others⟩⟩

theorem keys_nodup_iff : (entries.map Prod.fst).Nodup ↔
    ∀ (left right : Nat) (one two : Bytes × Bytes), entries[left]? = some one → entries[right]? = some two →
      left < right → one.1 ≠ two.1 := by
  rw [List.Nodup, pairwise_map, pairwise_iff_getElem]
  constructor
  · intro distinct left right one two front back less
    obtain ⟨inside, rfl⟩ := List.getElem?_eq_some_iff.mp front
    obtain ⟨within, rfl⟩ := List.getElem?_eq_some_iff.mp back
    exact distinct left right inside within less
  · intro distinct left right inside within less
    exact distinct left right _ _ (getElem?_eq_getElem inside) (getElem?_eq_getElem within) less

theorem validateDuplicateKeys_eq_ok (lexical : Lexical format (first :: (middle ++ [last]))) :
    validateDuplicateKeys (unlines lf (first :: (middle ++ [last]))) (middle.length + 2) = .ok () ↔
      ∃ entries : List (Bytes × Bytes), (middle = entries.map keyLine ∧ ∀ entry ∈ entries, Split entry) ∧
        (entries.map Prod.fst).Nodup := by
  unfold validateDuplicateKeys
  simp only [forM_eq_ok, mem_range'_1, bind_eq_ok_iff, demand_eq_ok, exists_const]
  constructor
  · rintro ⟨-, each⟩
    have split : ∀ line ∈ middle, ∃ entry, Split entry ∧ line = keyLine entry := by
      intro line member
      obtain ⟨index, inside, rfl⟩ := getElem_of_mem member
      obtain ⟨entry, read, -⟩ := each (index + 1) (by omega)
      obtain ⟨split, found⟩ := (pairAt_eq_ok lexical).mp read
      rw [getElem?_cons_succ, getElem?_append_left inside, getElem?_eq_getElem inside] at found
      exact ⟨entry, split, Option.some.inj found⟩
    obtain ⟨entries, rfl, all⟩ := exists_entries split
    refine ⟨entries, ⟨rfl, all⟩, keys_nodup_iff.mpr fun left right one two front back less => ?_⟩
    have within := (List.getElem?_eq_some_iff.mp back).1
    rw [length_map] at each
    obtain ⟨entry, read, others⟩ := each (left + 1) (by omega)
    obtain ⟨other, later, apart⟩ := others (right + 1) (by omega)
    have one_read := read.symm.trans (pairAt_framed lexical all front)
    have two_read := later.symm.trans (pairAt_framed lexical all back)
    rwa [Except.ok.inj one_read, Except.ok.inj two_read] at apart
  · rintro ⟨entries, ⟨rfl, split⟩, distinct⟩
    rw [length_map]
    refine ⟨by omega, fun left bounds => ?_⟩
    obtain ⟨left, rfl⟩ := Nat.exists_eq_add_of_le' bounds.1
    have inside : left < entries.length := by omega
    refine ⟨_, pairAt_framed lexical split (getElem?_eq_getElem inside), fun right more => ?_⟩
    obtain ⟨right, rfl⟩ := Nat.exists_eq_add_of_le' (Nat.le_trans (Nat.le_add_left 1 _) more.1)
    have within : right < entries.length := by omega
    exact ⟨_, pairAt_framed lexical split (getElem?_eq_getElem within), keys_nodup_iff.mp distinct left right _ _
      (getElem?_eq_getElem inside) (getElem?_eq_getElem within) (by omega)⟩

end Duplicates

section Frame

/-- At least two lines: a first one, a last one, and what is between. -/
theorem exists_frame {items : List Bytes} (two : 2 ≤ items.length) :
    ∃ first middle last, items = first :: (middle ++ [last]) := by
  cases items with
  | nil => exact absurd two (by simp)
  | cons first rest =>
    rcases eq_nil_or_concat rest with rfl | ⟨middle, last, rfl⟩
    · exact absurd two (by simp)
    · exact ⟨first, middle, last, by rw [concat_eq_append]⟩

theorem framed_last {index : Nat} (same : index = middle.length + 1) :
    (first :: (middle ++ [last]))[index]? = some last := by
  rw [same, getElem?_cons_succ, getElem?_append_right le_rfl, Nat.sub_self]
  rfl

theorem openText_eq_ok : openText format bytes = .ok count ↔
    ∃ entries, Text format entries bytes ∧ count = entries.length + 2 := by
  unfold openText
  simp only [bind_eq_ok_iff, validateLexical_eq_ok, demand_eq_ok, pure_eq_ok, exists_const]
  have room := format.paired
  constructor
  · rintro ⟨_, ⟨items, ⟨rfl, lexical⟩, rfl⟩, line, front, rfl, many, line', back, rfl, ⟨⟩, distinct, rfl⟩
    obtain ⟨first, middle, last, rfl⟩ := exists_frame (room.trans many)
    have length : (first :: (middle ++ [last])).length = middle.length + 2 := by simp
    rw [lineAt_eq_ok lexical] at front back
    rw [framed_last (by rw [length]; omega)] at back
    obtain rfl := Option.some.inj front
    obtain rfl := Option.some.inj back
    rw [length, validateDuplicateKeys_eq_ok lexical] at distinct
    obtain ⟨entries, ⟨rfl, split⟩, nodup⟩ := distinct
    rw [length, length_map] at many
    exact ⟨entries, ⟨rfl, lexical, split, nodup, many⟩, framed_length⟩
  · rintro ⟨entries, text, rfl⟩
    have lexical := text.lexical
    rw [text.written]
    refine ⟨_, ⟨_, ⟨rfl, lexical⟩, rfl⟩, _, (lineAt_eq_ok lexical).mpr rfl, rfl, ?_, format.endMarker,
      (lineAt_eq_ok lexical).mpr (framed_last ?_), rfl, (), ?_, framed_length.symm⟩
    · exact framed_length ▸ text.many
    · rw [framed_length, length_map]
      omega
    · have length : (framed format.magic format.endMarker entries).length = (entries.map keyLine).length + 2 := by
        rw [framed_length, length_map]
      rw [length]
      exact (validateDuplicateKeys_eq_ok lexical).mpr ⟨entries, ⟨rfl, text.split⟩, text.distinct⟩

theorem checkLines_eq_ok {expected : Nat} {done : Unit} :
    checkLines format bytes count expected = .ok done ↔ count = expected := by
  cases done
  unfold checkLines
  rw [demand_bind_eq_ok]
  split
  · rename_i extra
    simp only [bind_eq_ok_iff, throw, throwThe, MonadExceptOf.throw]
    constructor
    · rintro ⟨-, _, -, refused⟩
      exact nomatch refused
    · exact fun same => absurd same (by omega)
  · exact ⟨fun both => by omega, fun same => ⟨by omega, rfl⟩⟩

end Frame

section Oracle

theorem oracle_frame_eq_ok : Oracle.frame format bytes = .ok items ↔
    ∃ middle, items = format.magic :: (middle ++ [format.endMarker]) ∧
      (bytes = unlines lf items ∧ Lexical format items) ∧ format.minLines ≤ items.length := by
  unfold Oracle.frame
  simp only [bind_eq_ok_iff, oracle_lex_eq_ok, demand_eq_ok, pure_eq_ok, exists_const]
  have room := format.paired
  constructor
  · rintro ⟨_, text, front, many, back, rfl⟩
    obtain ⟨first, middle, last, rfl⟩ := exists_frame (room.trans many)
    obtain rfl : first = format.magic := front
    obtain rfl : last = format.endMarker := by
      rw [← back, ← cons_append, getLastD_concat]
    exact ⟨middle, rfl, text, many⟩
  · rintro ⟨middle, rfl, text, many⟩
    refine ⟨_, text, rfl, many, ?_, rfl⟩
    rw [← cons_append, getLastD_concat]

@[simp] theorem inner_framed : Oracle.inner (first :: (middle ++ [last])) = middle := dropLast_concat

/-- A new key behind keys that differ. -/
theorem keys_snoc {key value : Bytes} (distinct : (entries.map Prod.fst).Nodup) :
    ((entries ++ [(key, value)]).map Prod.fst).Nodup ↔ key ∉ entries.map Prod.fst := by
  rw [map_append, map_singleton, nodup_append_comm, singleton_append, nodup_cons]
  exact ⟨fun both => both.1, fun fresh => ⟨fresh, distinct⟩⟩

theorem foldlM_manifestPairs : ∀ {middle : List Bytes} {read entries : List (Bytes × Bytes)},
    (read.map Prod.fst).Nodup → (middle.foldlM (fun entries line => do
        let (key, value) ← Oracle.keyValue line
        demand (key ∉ entries.map Prod.fst) .duplicateKey
        return entries ++ [(key, value)]) read = .ok entries ↔
      ∃ later, entries = read ++ later ∧ (middle = later.map keyLine ∧ ∀ entry ∈ later, Split entry) ∧
        (entries.map Prod.fst).Nodup)
  | [], read, entries, distinct => by
      rw [foldlM_nil, pure_eq_ok]
      constructor
      · rintro rfl
        exact ⟨[], (append_nil _).symm, ⟨rfl, fun _ member => absurd member not_mem_nil⟩, distinct⟩
      · rintro ⟨later, rfl, ⟨same, -⟩, -⟩
        rw [map_eq_nil_iff.mp same.symm, append_nil]
  | line :: rest, read, entries, distinct => by
      rw [foldlM_cons, bind_eq_ok_iff]
      simp only [bind_eq_ok_iff, oracle_keyValue_eq_ok, demand_eq_ok, pure_eq_ok, exists_const]
      constructor
      · rintro ⟨_, ⟨⟨key, value⟩, ⟨split, rfl⟩, fresh, rfl⟩, ran⟩
        obtain ⟨later, rfl, ⟨rfl, others⟩, nodup⟩ := (foldlM_manifestPairs ((keys_snoc distinct).mpr fresh)).mp ran
        exact ⟨(key, value) :: later, by rw [append_assoc, singleton_append],
          ⟨rfl, forall_mem_cons.mpr ⟨split, others⟩⟩, nodup⟩
      · rintro ⟨later, rfl, ⟨same, split⟩, nodup⟩
        cases later with
        | nil => cases same
        | cons entry later =>
          obtain ⟨rfl, rfl⟩ := cons.inj same
          rw [forall_mem_cons] at split
          rw [← singleton_append, ← append_assoc] at nodup ⊢
          have fresh : ((read ++ [entry]).map Prod.fst).Nodup := by
            rw [map_append] at nodup
            exact (nodup_append.mp nodup).1
          exact ⟨_, ⟨entry, ⟨split.1, rfl⟩, (keys_snoc distinct).mp fresh, rfl⟩,
            (foldlM_manifestPairs fresh).mpr ⟨later, rfl, ⟨rfl, split.2⟩, nodup⟩⟩

theorem manifestPairs_eq_ok : Oracle.manifestPairs middle = .ok entries ↔
    (middle = entries.map keyLine ∧ ∀ entry ∈ entries, Split entry) ∧ (entries.map Prod.fst).Nodup := by
  unfold Oracle.manifestPairs
  rw [@foldlM_manifestPairs _ [] _ nodup_nil]
  constructor
  · rintro ⟨later, rfl, rest⟩
    exact rest
  · exact fun rest => ⟨entries, rfl, rest⟩

theorem mapM_keyValue : ∀ {middle : List Bytes} {entries : List (Bytes × Bytes)},
    middle.mapM Oracle.keyValue = .ok entries ↔ middle = entries.map keyLine ∧ ∀ entry ∈ entries, Split entry
  | [], entries => by
      rw [mapM_nil, pure_eq_ok]
      constructor
      · rintro rfl
        exact ⟨rfl, fun _ member => nomatch member⟩
      · exact fun both => map_eq_nil_iff.mp both.1.symm
  | line :: rest, entries => by
      rw [mapM_cons]
      simp only [bind_eq_ok_iff, oracle_keyValue_eq_ok, mapM_keyValue, pure_eq_ok]
      constructor
      · rintro ⟨entry, ⟨split, rfl⟩, others, ⟨rfl, more⟩, rfl⟩
        exact ⟨rfl, forall_mem_cons.mpr ⟨split, more⟩⟩
      · rintro ⟨same, split⟩
        cases entries with
        | nil => exact nomatch same
        | cons entry entries =>
          obtain ⟨rfl, rfl⟩ := cons.inj same
          rw [forall_mem_cons] at split
          exact ⟨entry, ⟨split.1, rfl⟩, entries, ⟨rfl, split.2⟩, rfl⟩

theorem foldlM_seen : ∀ {entries : List (Bytes × Bytes)} {seen : List Bytes}, seen.Nodup →
    ((∃ last, entries.foldlM (fun seen pair => do
        demand (pair.1 ∉ seen) Error.duplicateKey
        return seen ++ [pair.1]) seen = .ok last) ↔ (seen ++ entries.map Prod.fst).Nodup)
  | [], seen, distinct => by
      rw [map_nil, append_nil]
      exact ⟨fun _ => distinct, fun _ => ⟨seen, rfl⟩⟩
  | entry :: rest, seen, distinct => by
      have fresh : (seen ++ [entry.1]).Nodup ↔ entry.1 ∉ seen := by
        rw [nodup_append_comm, singleton_append, nodup_cons]
        exact ⟨fun both => both.1, fun outside => ⟨outside, distinct⟩⟩
      have moved : seen ++ (entry :: rest).map Prod.fst = seen ++ [entry.1] ++ rest.map Prod.fst := by simp
      rw [moved]
      simp only [foldlM_cons, bind_eq_ok_iff, demand_eq_ok, pure_eq_ok, exists_const]
      constructor
      · rintro ⟨last, _, ⟨outside, rfl⟩, ran⟩
        exact (foldlM_seen (fresh.mpr outside)).mp ⟨last, ran⟩
      · intro nodup
        have outside := (nodup_append.mp nodup).1
        obtain ⟨last, ran⟩ := (foldlM_seen outside).mpr nodup
        exact ⟨last, _, ⟨fresh.mp outside, rfl⟩, ran⟩

theorem configPairs_eq_ok : Oracle.configPairs middle = .ok entries ↔
    (middle = entries.map keyLine ∧ ∀ entry ∈ entries, Split entry) ∧ (entries.map Prod.fst).Nodup := by
  unfold Oracle.configPairs
  simp only [bind_eq_ok_iff, mapM_keyValue, pure_eq_ok]
  constructor
  · rintro ⟨_, text, last, ran, rfl⟩
    exact ⟨text, by simpa using (foldlM_seen nodup_nil).mp ⟨last, ran⟩⟩
  · rintro ⟨text, distinct⟩
    obtain ⟨last, ran⟩ := (@foldlM_seen entries _ nodup_nil).mpr (by simpa using distinct)
    exact ⟨entries, text, last, ran, rfl⟩

/-- The text that either oracle reads entries from. -/
theorem oracle_text_iff {pairs : List Bytes → Except Error (List (Bytes × Bytes))}
    (known : ∀ middle entries, pairs middle = .ok entries ↔
      (middle = entries.map keyLine ∧ ∀ entry ∈ entries, Split entry) ∧ (entries.map Prod.fst).Nodup) :
    (∃ items, Oracle.frame format bytes = .ok items ∧ pairs (Oracle.inner items) = .ok entries ∧
        count = items.length) ↔ Text format entries bytes ∧ count = entries.length + 2 := by
  simp only [oracle_frame_eq_ok, known]
  constructor
  · rintro ⟨_, ⟨middle, rfl, ⟨rfl, lexical⟩, many⟩, ⟨⟨same, split⟩, distinct⟩, rfl⟩
    rw [inner_framed] at same
    subst same
    have length : (framed format.magic format.endMarker entries).length = entries.length + 2 := framed_length
    exact ⟨⟨rfl, lexical, split, distinct, length ▸ many⟩, length⟩
  · rintro ⟨text, rfl⟩
    refine ⟨framed format.magic format.endMarker entries, ⟨_, rfl, ⟨text.written, text.lexical⟩, ?_⟩,
      ⟨⟨inner_framed, text.split⟩, text.distinct⟩, framed_length.symm⟩
    exact framed_length ▸ text.many

end Oracle

section Opened

theorem expectValue_eq_ok {key value : Bytes} {index : Nat} (text : Text format entries bytes)
    (inside : index < entries.length) :
    expectValue format bytes (index + 1) key = .ok value ↔ entries[index]? = some (key, value) := by
  unfold expectValue
  rw [text.pairAt (getElem?_eq_getElem inside), ok_bind, getElem?_eq_getElem inside, Option.some_inj]
  simp only [demand_bind_eq_ok, pure_eq_ok, Prod.ext_iff]
  exact and_congr_right fun _ => eq_comm

/-- Texts whose entries are known, and what is read from the entries. -/
theorem opened_iff {α : Type} {rest : Nat → Except Error α} {value : α} {rule : List (Bytes × Bytes) → Prop}
    (known : ∀ entries, Text format entries bytes → (rest (entries.length + 2) = .ok value ↔ rule entries)) :
    (openText format bytes >>= rest) = .ok value ↔ ∃ entries, Text format entries bytes ∧ rule entries := by
  rw [bind_eq_ok_iff]
  simp only [openText_eq_ok]
  constructor
  · rintro ⟨_, ⟨entries, text, rfl⟩, read⟩
    exact ⟨entries, text, (known entries text).mp read⟩
  · rintro ⟨entries, text, holds⟩
    exact ⟨_, ⟨entries, text, rfl⟩, (known entries text).mpr holds⟩

theorem oracle_opened_iff {α : Type} {pairs : List Bytes → Except Error (List (Bytes × Bytes))}
    {rest : List Bytes → List (Bytes × Bytes) → Except Error α} {value : α} {rule : List (Bytes × Bytes) → Prop}
    (read : ∀ middle entries, pairs middle = .ok entries ↔
      (middle = entries.map keyLine ∧ ∀ entry ∈ entries, Split entry) ∧ (entries.map Prod.fst).Nodup)
    (known : ∀ lines entries, Text format entries bytes → lines.length = entries.length + 2 →
      (rest lines entries = .ok value ↔ rule entries)) :
    (Oracle.frame format bytes >>= fun lines => pairs (Oracle.inner lines) >>= rest lines) = .ok value ↔ ∃ entries, Text
    format entries bytes ∧ rule entries := by
  simp only [bind_eq_ok_iff]
  constructor
  · rintro ⟨lines, framed, entries, inside, ran⟩
    obtain ⟨text, length⟩ := (oracle_text_iff read).mp ⟨lines, framed, inside, rfl⟩
    exact ⟨entries, text, (known lines entries text length).mp ran⟩
  · rintro ⟨entries, text, holds⟩
    obtain ⟨lines, framed, inside, length⟩ := (oracle_text_iff read).mpr ⟨text, rfl⟩
    exact ⟨lines, framed, entries, inside, (known lines entries text length.symm).mpr holds⟩

end Opened

end PooleOS.BootText
