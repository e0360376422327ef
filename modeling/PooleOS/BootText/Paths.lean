import PooleOS.BootText.Values

/- The paths that the two formats name files by. All four validators walk the components
between backslashes; what a component may be depends on whether it is the last. -/
namespace PooleOS.BootText

open List Nat Option

def manifestRoot : Bytes := ascii "\\EFI\\POOLEOS\\"
def maxPathBytes : Nat := 240
def backslash : UInt8 := 92
def slash : UInt8 := 47

section Manifest

/-- One round of the loop over the bytes of a component, with `enumerate`. -/
def componentByte (last : Bool) (length dotCount : Nat) (byte : UInt8 × Nat) : Except Error Nat :=
  if byte.1 = dot then do
    demand (¬ (last = false ∨ byte.2 = 0 ∨ byte.2 + 1 = length)) .path
    return dotCount + 1
  else do
    demand (isUpperLetter byte.1 = true) .path
    return dotCount

def validateComponent (component : Bytes) (last : Bool) : Except Error Unit := do
  demand (¬ (component = [] ∨ component = [dot] ∨ component = [dot, dot] ∨ 64 < component.length)) .path
  let dotCount ← component.zipIdx.foldlM (componentByte last component.length) 0
  demand (¬ (last = true ∧ dotCount ≠ 1)) .path
  demand (¬ (last = false ∧ dotCount ≠ 0)) .path

/-- The loop over the components. `peek` sees whether there are more. -/
def walkComponents (validate : Bytes → Bool → Except Error Unit) : List Bytes → Except Error Unit
  | [] => return ()
  | component :: rest => do
    validate component rest.isEmpty
    walkComponents validate rest

def validatePath (value : Bytes) : Except Error Unit := do
  demand (¬ (maxPathBytes < value.length ∨ ¬ manifestRoot <+: value)) .path
  let relative := value.drop manifestRoot.length
  demand (¬ (relative = [] ∨ slash ∈ relative)) .path
  walkComponents validateComponent (relative.splitOn backslash)

end Manifest

section Config

/-- `.PBM`. -/
def pbm : Bytes := ascii ".PBM"

/-- `str::strip_suffix`. -/
def stripEnd (ending text : Bytes) : Option Bytes :=
  if ending <:+ text then some (text.take (text.length - ending.length)) else none

def validateManifestComponent (component : Bytes) (last : Bool) : Except Error Unit := do
  demand (¬ (component = [] ∨ component = [dot] ∨ component = [dot, dot] ∨ 64 < component.length)) .path
  let body ← if last = true then orError (stripEnd pbm component) .path else pure component
  demand (¬ (body = [] ∨ ¬ isUpper (body.headD 0) = true ∨ ¬ body.all isUpperLetter = true)) .path

def validateManifestPath (value : Bytes) : Except Error Unit := do
  demand (¬ (maxPathBytes < value.length ∨ ¬ manifestRoot <+: value)) .path
  let relative := value.drop manifestRoot.length
  demand (¬ (relative = [] ∨ slash ∈ relative ∨ ¬ pbm <:+ relative)) .path
  walkComponents validateManifestComponent (relative.splitOn backslash)

end Config

namespace Oracle

/-- `re.fullmatch(r"[A-Z0-9_-]+", text)`. -/
def matchesLetters (text : Bytes) : Bool := text ≠ [] && text.all isUpperLetter

/-- `re.fullmatch(r"[A-Z0-9_-]+\.[A-Z0-9_-]+", text)`. No letter is a dot, so the match is
around the first one. -/
def matchesFile (text : Bytes) : Bool :=
  match splitOnce dot text with
  | none => false
  | some (name, extension) => matchesLetters name && matchesLetters extension

def validateComponent (component : Bytes) (last : Bool) : Except Error Unit := do
  demand (¬ (component = [dot] ∨ component = [dot, dot])) .path
  if last = true then
    demand (¬ (component.count dot ≠ 1 ∨ component.head? = some dot ∨ component.getLast? = some dot)) .path
    demand (matchesFile component = true) .path
  else
    demand (dot ∉ component) .path
    demand (matchesLetters component = true) .path

/-- `for index, component in enumerate(components)`. -/
def eachComponent (validate : Bytes → Bool → Except Error Unit) (components : List Bytes) : Except Error Unit :=
  components.zipIdx.forM fun item => validate item.1 (item.2 + 1 = components.length)

def validatePath (value : Bytes) : Except Error Unit := do
  demand (¬ (maxPathBytes < value.length ∨ ¬ manifestRoot <+: value ∨ slash ∈ value)) .path
  let components := (value.drop manifestRoot.length).splitOn backslash
  demand (¬ (components = [] ∨ ∃ component ∈ components, component = [] ∨ 64 < component.length)) .path
  eachComponent validateComponent components

def validateManifestComponent (component : Bytes) (last : Bool) : Except Error Unit := do
  demand (¬ (component = [] ∨ component = [dot] ∨ component = [dot, dot] ∨ 64 < component.length)) .path
  let body := if last = true then component.take (component.length - 4) else component
  demand (¬ (body = [] ∨ ¬ isUpper (body.headD 0) = true ∨ ∃ letter ∈ body, ¬ isUpperLetter letter = true)) .path

def validateManifestPath (value : Bytes) : Except Error Unit := do
  demand (¬ (maxPathBytes < value.length ∨ ¬ manifestRoot <+: value)) .path
  let relative := value.drop manifestRoot.length
  demand (¬ (relative = [] ∨ slash ∈ relative ∨ ¬ pbm <:+ relative)) .path
  eachComponent validateManifestComponent (relative.splitOn backslash)

end Oracle

section Rules

/-- Components of a path in which the last may be something else than those before it. -/
structure Parted (middle final : Bytes → Prop) (parts : List Bytes) : Prop where
  folders : ∀ folder ∈ parts.dropLast, middle folder
  file : ∃ file, parts.getLast? = some file ∧ final file

/-- The path of components behind the root. -/
def pathOf (parts : List Bytes) : Bytes := manifestRoot ++ [backslash].intercalate parts

/-- One or more upper-case letters, digits, underscores and hyphens. -/
def Letters (text : Bytes) : Prop := text ≠ [] ∧ ∀ byte ∈ text, isUpperLetter byte = true

/-- The same, with a letter first. -/
def Named (text : Bytes) : Prop := Letters text ∧ ∃ first, text.head? = some first ∧ isUpper first = true

/-- The path of an artifact: folders and a file with one extension. -/
structure ArtifactPath (value : Bytes) : Prop where
  short : value.length ≤ maxPathBytes
  parts : ∃ parts, value = pathOf parts ∧ Parted (fun folder => Letters folder ∧ folder.length ≤ 64)
    (fun file => file.length ≤ 64 ∧ ∃ name extension, file = name ++ dot :: extension ∧ Letters name ∧
      Letters extension) parts

/-- The path of a manifest: folders and a file whose extension is `.PBM`. -/
structure ManifestPath (value : Bytes) : Prop where
  short : value.length ≤ maxPathBytes
  parts : ∃ parts, value = pathOf parts ∧ Parted (fun folder => Named folder ∧ folder.length ≤ 64)
    (fun file => file.length ≤ 64 ∧ ∃ body, file = body ++ pbm ∧ Named body) parts

variable {middle final : Bytes → Prop} {parts : List Bytes} {validate : Bytes → Bool → Except Error Unit}

@[simp] theorem parted_singleton {file : Bytes} : Parted middle final [file] ↔ final file :=
  ⟨fun ⟨_, _, same, holds⟩ => by rwa [← some.inj same] at holds, fun holds => ⟨nofun, file, rfl, holds⟩⟩

theorem parted_cons {folder next : Bytes} {rest : List Bytes} :
    Parted middle final (folder :: next :: rest) ↔ middle folder ∧ Parted middle final (next :: rest) := by
  constructor
  · rintro ⟨folders, file⟩
    rw [dropLast_cons_of_ne_nil (cons_ne_nil _ _), forall_mem_cons] at folders
    exact ⟨folders.1, folders.2, by rwa [getLast?_cons_cons] at file⟩
  · rintro ⟨first, folders, file⟩
    refine ⟨?_, by rwa [getLast?_cons_cons]⟩
    rw [dropLast_cons_of_ne_nil (cons_ne_nil _ _), forall_mem_cons]
    exact ⟨first, folders⟩

theorem walkComponents_eq_ok (onFolder : ∀ folder, validate folder false = .ok () ↔ middle folder)
    (onFile : ∀ file, validate file true = .ok () ↔ final file) :
    ∀ {parts : List Bytes}, parts ≠ [] → (walkComponents validate parts = .ok () ↔ Parted middle final parts)
  | [], filled => absurd rfl filled
  | [file], _ => by
      rw [walkComponents, unit_bind_eq_ok, isEmpty_nil, onFile, parted_singleton]
      exact ⟨fun both => both.1, fun holds => ⟨holds, rfl⟩⟩
  | folder :: next :: rest, _ => by
      rw [walkComponents, unit_bind_eq_ok, isEmpty_cons, onFolder, parted_cons,
        walkComponents_eq_ok onFolder onFile (cons_ne_nil _ _)]

theorem eachComponent_eq_ok (onFolder : ∀ folder ∈ parts, validate folder false = .ok () ↔ middle folder)
    (onFile : ∀ file, parts.getLast? = some file → (validate file true = .ok () ↔ final file)) (filled : parts ≠ []) :
    Oracle.eachComponent validate parts = .ok () ↔ Parted middle final parts := by
  unfold Oracle.eachComponent
  rw [forM_eq_ok]
  obtain ⟨front, file, rfl⟩ : ∃ front file, parts = front ++ [file] := by
    rcases eq_nil_or_concat parts with none | ⟨front, file, same⟩
    · exact absurd none filled
    · exact ⟨front, file, same.trans concat_eq_append⟩
  have length : (front ++ [file]).length = front.length + 1 := by simp
  have last : (front ++ [file]).getLast? = some file := getLast?_concat
  constructor
  · intro each
    constructor
    · intro folder member
      rw [dropLast_concat] at member
      obtain ⟨index, inside, rfl⟩ := getElem_of_mem member
      refine (onFolder _ (mem_append_left _ member)).mp ?_
      have holds := each (front[index], index) (mem_zipIdx_iff_getElem?.mpr ?_)
      · rwa [decide_eq_false (by omega)] at holds
      · rw [getElem?_append_left inside, getElem?_eq_getElem inside]
    · refine ⟨file, last, (onFile file last).mp ?_⟩
      have holds := each (file, front.length) (mem_zipIdx_iff_getElem?.mpr ?_)
      · rwa [decide_eq_true (by omega)] at holds
      · rw [getElem?_append_right le_rfl, Nat.sub_self]
        rfl
  · rintro ⟨folders, other, same, holds⟩ ⟨component, index⟩ member
    have found := mem_zipIdx_iff_getElem?.mp member
    rw [dropLast_concat] at folders
    have inside : index < front.length + 1 := length ▸ (List.getElem?_eq_some_iff.mp found).1
    rcases lt_or_ge index front.length with early | late
    · rw [getElem?_append_left early] at found
      have within := mem_of_getElem? found
      rw [decide_eq_false (by omega)]
      exact (onFolder _ (mem_append_left _ within)).mpr (folders _ within)
    · rw [getElem?_append_right late, show index - front.length = 0 by omega] at found
      rw [decide_eq_true (by omega)]
      obtain rfl := some.inj found
      obtain rfl := some.inj (last.symm.trans same)
      exact (onFile _ last).mpr holds

end Rules

section Letters

variable {component file : Bytes} {byte : UInt8}

theorem Letters.no_dot (letters : Letters component) : dot ∉ component := fun inside =>
  absurd (letters.2 dot inside) (by decide)

theorem Letters.no_backslash (letters : Letters component) : backslash ∉ component := fun inside =>
  absurd (letters.2 backslash inside) (by decide)

theorem Letters.no_slash (letters : Letters component) : slash ∉ component := fun inside =>
  absurd (letters.2 slash inside) (by decide)

theorem letters_iff : Letters component ↔ component ≠ [] ∧ component.all isUpperLetter = true := by
  rw [List.all_eq_true]
  rfl

theorem matchesLetters_iff : Oracle.matchesLetters component = true ↔ Letters component := by
  rw [Oracle.matchesLetters, Bool.and_eq_true, decide_eq_true_eq, letters_iff]

theorem matchesFile_iff : Oracle.matchesFile file = true ↔
    ∃ name extension, file = name ++ dot :: extension ∧ Letters name ∧ Letters extension := by
  unfold Oracle.matchesFile
  constructor
  · intro matched
    split at matched
    · exact nomatch matched
    · rename_i name extension found
      rw [Bool.and_eq_true, matchesLetters_iff, matchesLetters_iff] at matched
      exact ⟨name, extension, (splitOnce_eq_some.mp found).2, matched⟩
  · rintro ⟨name, extension, rfl, front, back⟩
    rw [splitOnce_append front.no_dot]
    exact Bool.and_eq_true_iff.mpr ⟨matchesLetters_iff.mpr front, matchesLetters_iff.mpr back⟩

/-- What stands in a component beside letters. -/
def ByteRule (last : Bool) (length : Nat) (byte : UInt8) (index : Nat) : Prop :=
  if byte = dot then last = true ∧ index ≠ 0 ∧ index + 1 ≠ length else isUpperLetter byte = true

variable {last : Bool} {length : Nat}

theorem componentByte_eq_ok {count next : Nat} {byte : UInt8 × Nat} : componentByte last length count byte = .ok next ↔
      ByteRule last length byte.1 byte.2 ∧ next = count + if byte.1 = dot then 1 else 0 := by
  unfold componentByte ByteRule
  split
  · rw [demand_bind_eq_ok, pure_eq_ok]
    simp only [not_or, Bool.not_eq_false, ne_eq]
  · rw [demand_bind_eq_ok, pure_eq_ok, add_zero]

theorem foldlM_componentByte : ∀ {bytes : List (UInt8 × Nat)} {count next : Nat},
    bytes.foldlM (componentByte last length) count = .ok next ↔
      (∀ byte ∈ bytes, ByteRule last length byte.1 byte.2) ∧ next = count + (bytes.map Prod.fst).count dot
  | [], found, next => by
      rw [foldlM_nil, pure_eq_ok, map_nil, count_nil, add_zero]
      exact ⟨fun same => ⟨fun _ member => absurd member not_mem_nil, same⟩, fun both => both.2⟩
  | byte :: rest, found, next => by
      rw [foldlM_cons, bind_eq_ok_iff, forall_mem_cons, map_cons, count_cons]
      simp only [componentByte_eq_ok, foldlM_componentByte, beq_iff_eq]
      constructor
      · rintro ⟨_, ⟨first, rfl⟩, others, rfl⟩
        exact ⟨⟨first, others⟩, by omega⟩
      · rintro ⟨⟨first, others⟩, rfl⟩
        exact ⟨_, ⟨first, rfl⟩, others, by omega⟩

theorem componentBytes_eq_ok {next : Nat} : component.zipIdx.foldlM (componentByte last length) 0 = .ok next ↔
      (∀ index byte, component[index]? = some byte → ByteRule last length byte index) ∧ next = component.count dot := by
  rw [foldlM_componentByte, zipIdx_map_fst, zero_add]
  refine and_congr_left fun _ => ⟨fun each index byte found => ?_, fun each item member => ?_⟩
  · exact each (byte, index) (mem_zipIdx_iff_getElem?.mpr found)
  · exact each item.2 item.1 (mem_zipIdx_iff_getElem?.mp member)

/-- Without dots there are only letters. -/
theorem byteRules_folder : (∀ index byte, component[index]? = some byte → ByteRule false length byte index) ↔
      ∀ byte ∈ component, isUpperLetter byte = true := by
  constructor
  · intro each byte member
    obtain ⟨index, found⟩ := mem_iff_getElem?.mp member
    have rule := each index byte found
    unfold ByteRule at rule
    split at rule
    · exact nomatch rule.1
    · exact rule
  · intro each index byte found
    have letter := each byte (mem_of_getElem? found)
    unfold ByteRule
    split
    · rename_i point
      exact absurd (point ▸ letter) (by decide)
    · exact letter

/-- One dot between letters. -/
theorem byteRules_file :
    (∀ index byte, file[index]? = some byte → ByteRule true file.length byte index) ∧ file.count dot = 1 ↔
      ∃ name extension, file = name ++ dot :: extension ∧ Letters name ∧ Letters extension := by
  constructor
  · rintro ⟨each, once⟩
    have inside : dot ∈ file := count_pos_iff.mp (by omega)
    obtain ⟨name, extension, rfl, front⟩ := eq_append_cons_of_mem inside
    rw [count_append, count_cons_self, count_eq_zero.mpr front] at once
    have back : dot ∉ extension := count_eq_zero.mp (by omega)
    have letters : ∀ byte ∈ name ++ dot :: extension, byte ≠ dot → isUpperLetter byte = true := by
      intro byte member other
      obtain ⟨index, found⟩ := mem_iff_getElem?.mp member
      have rule := each index byte found
      rwa [ByteRule, if_neg other] at rule
    have point := each name.length dot (by rw [getElem?_append_right le_rfl, Nat.sub_self]; rfl)
    refine ⟨name, extension, rfl, ⟨?_, fun byte member => ?_⟩, ?_, fun byte member => ?_⟩
    · rintro rfl
      exact point.2.1 rfl
    · exact letters byte (mem_append_left _ member) fun same => front (same ▸ member)
    · rintro rfl
      exact point.2.2 (by simp)
    · exact letters byte (mem_append_right _ (mem_cons_of_mem _ member)) fun same => back (same ▸ member)
  · rintro ⟨name, extension, rfl, front, back⟩
    have some : 0 < name.length := length_pos_iff.mpr front.1
    have more : 0 < extension.length := length_pos_iff.mpr back.1
    constructor
    · intro index byte found
      unfold ByteRule
      rcases lt_trichotomy index name.length with early | rfl | late
      · rw [getElem?_append_left early] at found
        have letter := front.2 byte (mem_of_getElem? found)
        rw [if_neg fun point => absurd (point ▸ letter) (by decide)]
        exact letter
      · rw [getElem?_append_right le_rfl, Nat.sub_self] at found
        obtain rfl := Option.some.inj found
        rw [if_pos rfl, length_append, length_cons]
        exact ⟨rfl, by omega, by omega⟩
      · obtain ⟨further, rfl⟩ := Nat.exists_eq_add_of_lt late
        rw [getElem?_append_right (by omega),
          show name.length + further + 1 - name.length = further + 1 by omega, getElem?_cons_succ] at found
        have letter := back.2 byte (mem_of_getElem? found)
        rw [if_neg fun point => absurd (point ▸ letter) (by decide)]
        exact letter
    · rw [count_append, count_cons_self, count_eq_zero.mpr front.no_dot,
        count_eq_zero.mpr back.no_dot]

theorem not_dots (letters : isUpperLetter dot = false) (folder : Letters component) :
    ¬ (component = [] ∨ component = [dot] ∨ component = [dot, dot]) := by
  have filled := folder.1
  rintro (rfl | rfl | rfl)
  · exact filled rfl
  · exact absurd (folder.2 dot (mem_cons_self ..)) (by rw [letters]; nofun)
  · exact absurd (folder.2 dot (mem_cons_self ..)) (by rw [letters]; nofun)

end Letters

section Components

variable {component file value : Bytes}

/-- What a folder of an artifact's path is called. -/
def IsFolder (folder : Bytes) : Prop := Letters folder ∧ folder.length ≤ 64

/-- What a file of an artifact's path is called. -/
def IsFile (file : Bytes) : Prop :=
  file.length ≤ 64 ∧ ∃ name extension, file = name ++ dot :: extension ∧ Letters name ∧ Letters extension

/-- A first letter or digit of a file leaves its name no row of dots. -/
theorem isFile_not_dots (isFile : IsFile file) : ¬ (file = [] ∨ file = [dot] ∨ file = [dot, dot]) := by
  obtain ⟨-, name, extension, rfl, front, -⟩ := isFile
  cases name with
  | nil => exact absurd rfl front.1
  | cons first rest =>
    have letter := front.2 first (mem_cons_self ..)
    rintro (none | one | two)
    · exact nomatch none
    · obtain ⟨rfl, -⟩ := cons.inj one
      exact absurd letter (by decide)
    · obtain ⟨rfl, -⟩ := cons.inj two
      exact absurd letter (by decide)

theorem validateComponent_folder : validateComponent component false = .ok () ↔ IsFolder component := by
  unfold validateComponent
  simp only [bind_eq_ok_iff, demand_eq_ok, componentBytes_eq_ok, byteRules_folder, exists_const]
  constructor
  · rintro ⟨whole, _, ⟨letters, rfl⟩, -, -⟩
    simp only [not_or, not_lt] at whole
    exact ⟨⟨whole.1, letters⟩, whole.2.2.2⟩
  · rintro ⟨letters, short⟩
    have none := count_eq_zero.mpr letters.no_dot
    refine ⟨?_, _, ⟨letters.2, rfl⟩, by simp, by simp [none]⟩
    have apart := not_dots (by decide) letters
    simp only [not_or] at apart
    simp only [not_or, not_lt]
    exact ⟨apart.1, apart.2.1, apart.2.2, short⟩

theorem validateComponent_file : validateComponent file true = .ok () ↔ IsFile file := by
  unfold validateComponent IsFile
  rw [← byteRules_file]
  simp only [bind_eq_ok_iff, demand_eq_ok, componentBytes_eq_ok, exists_const]
  constructor
  · rintro ⟨whole, _, ⟨rule, rfl⟩, once, -⟩
    simp only [not_or, not_lt] at whole
    simp only [true_and, not_not] at once
    exact ⟨whole.2.2.2, rule, once⟩
  · rintro ⟨short, rule, once⟩
    refine ⟨?_, _, ⟨rule, rfl⟩, by simp [once], by simp⟩
    have apart := isFile_not_dots ⟨short, byteRules_file.mp ⟨rule, once⟩⟩
    simp only [not_or] at apart
    simp only [not_or, not_lt]
    exact ⟨apart.1, apart.2.1, apart.2.2, short⟩

theorem oracle_validateComponent_folder : Oracle.validateComponent component false = .ok () ↔ Letters component := by
  unfold Oracle.validateComponent
  simp only [Bool.false_eq_true, if_false, demand_bind_eq_ok, demand_eq_ok, matchesLetters_iff]
  constructor
  · exact fun all => all.2.2
  · intro letters
    refine ⟨?_, letters.no_dot, letters⟩
    have apart := not_dots (by decide) letters
    exact fun dots => apart (.inr dots)

theorem oracle_validateComponent_file (short : file.length ≤ 64) :
    Oracle.validateComponent file true = .ok () ↔ IsFile file := by
  unfold Oracle.validateComponent
  simp only [if_true, demand_bind_eq_ok, demand_eq_ok, matchesFile_iff]
  constructor
  · exact fun all => ⟨short, all.2.2⟩
  · intro isFile
    refine ⟨fun dots => isFile_not_dots isFile (.inr dots), ?_, isFile.2⟩
    obtain ⟨-, name, extension, rfl, front, back⟩ := isFile
    simp only [not_or, not_not]
    refine ⟨?_, ?_, ?_⟩
    · rw [count_append, count_cons_self, count_eq_zero.mpr front.no_dot,
        count_eq_zero.mpr back.no_dot]
    · rw [head?_append_of_ne_nil _ front.1]
      exact fun first => front.no_dot (mem_of_mem_head? first)
    · rw [getLast?_append, getLast?_cons_of_ne_nil back.1, getLast?_eq_some_getLast back.1, some_or]
      exact fun last => back.no_dot (some.inj last ▸ getLast_mem back.1)

/-- What a folder of a manifest's path is called. -/
def IsNamedFolder (folder : Bytes) : Prop := Named folder ∧ folder.length ≤ 64

/-- What a manifest is called. -/
def IsManifestFile (file : Bytes) : Prop := file.length ≤ 64 ∧ ∃ body, file = body ++ pbm ∧ Named body

theorem named_iff : Named component ↔
    component ≠ [] ∧ isUpper (component.headD 0) = true ∧ component.all isUpperLetter = true := by
  unfold Named
  rw [letters_iff]
  cases component with
  | nil => exact ⟨fun both => absurd rfl both.1.1, fun all => absurd rfl all.1⟩
  | cons first rest =>
    constructor
    · rintro ⟨⟨filled, letters⟩, other, same, upper⟩
      obtain rfl := some.inj same
      exact ⟨filled, upper, letters⟩
    · rintro ⟨filled, upper, letters⟩
      exact ⟨⟨filled, letters⟩, first, rfl, upper⟩

theorem isManifestFile_not_dots (isFile : IsManifestFile file) : ¬ (file = [] ∨ file = [dot] ∨ file = [dot, dot]) := by
  obtain ⟨-, body, rfl, ⟨⟨filled, -⟩, -⟩⟩ := isFile
  have long : (body ++ pbm).length = body.length + 4 := length_append
  rintro (same | same | same)
  · have length := congrArg length same
    rw [long, length_nil] at length
    omega
  · have length := congrArg length same
    rw [long, length_singleton] at length
    omega
  · have length := congrArg length same
    rw [long] at length
    exact absurd length (by simp)

theorem stripEnd_eq_some {ending text body : Bytes} : stripEnd ending text = some body ↔ text = body ++ ending := by
  unfold stripEnd
  constructor
  · intro found
    split at found
    · rename_i ends
      obtain ⟨front, rfl⟩ := ends
      rw [length_append, Nat.add_sub_cancel, take_left] at found
      rw [some.inj found]
    · exact nomatch found
  · rintro rfl
    rw [if_pos (suffix_append ..), length_append, Nat.add_sub_cancel, take_left]

theorem validateManifestComponent_folder :
    validateManifestComponent component false = .ok () ↔ IsNamedFolder component := by
  unfold validateManifestComponent IsNamedFolder
  simp only [Bool.false_eq_true, if_false, bind_eq_ok_iff, demand_eq_ok, pure_eq_ok, exists_const, exists_eq_left,
    not_or, not_lt, not_not]
  rw [← named_iff]
  constructor
  · exact fun all => ⟨all.2, all.1.2.2.2⟩
  · rintro ⟨named, short⟩
    have apart := not_dots (by decide) named.1
    simp only [not_or] at apart
    exact ⟨⟨apart.1, apart.2.1, apart.2.2, short⟩, named⟩

theorem validateManifestComponent_file : validateManifestComponent file true = .ok () ↔ IsManifestFile file := by
  unfold validateManifestComponent IsManifestFile
  simp only [if_true, bind_eq_ok_iff, demand_eq_ok, orError_eq_ok, stripEnd_eq_some, exists_const, not_or,
    not_lt, not_not]
  constructor
  · rintro ⟨whole, body, rfl, named⟩
    exact ⟨whole.2.2.2, body, rfl, named_iff.mpr named⟩
  · rintro ⟨short, body, rfl, named⟩
    have apart := isManifestFile_not_dots ⟨short, body, rfl, named⟩
    simp only [not_or] at apart
    exact ⟨⟨apart.1, apart.2.1, apart.2.2, short⟩, body, rfl, named_iff.mp named⟩

theorem oracle_letters_iff {body : Bytes} :
    ¬ (body = [] ∨ ¬ isUpper (body.headD 0) = true ∨ ∃ letter ∈ body, ¬ isUpperLetter letter = true) ↔ Named body := by
  rw [named_iff, List.all_eq_true]
  simp only [not_or, not_not, not_exists, not_and]

theorem oracle_validateManifestComponent_folder :
    Oracle.validateManifestComponent component false = .ok () ↔ IsNamedFolder component := by
  unfold Oracle.validateManifestComponent IsNamedFolder
  simp only [Bool.false_eq_true, if_false, demand_bind_eq_ok, demand_eq_ok, oracle_letters_iff]
  simp only [not_or, not_lt]
  constructor
  · exact fun all => ⟨all.2, all.1.2.2.2⟩
  · rintro ⟨named, short⟩
    have apart := not_dots (by decide) named.1
    simp only [not_or] at apart
    exact ⟨⟨apart.1, apart.2.1, apart.2.2, short⟩, named⟩

/-- The oracle cuts four letters off the last component, which the end of the path spells. -/
theorem oracle_validateManifestComponent_file (ends : pbm <:+ file) :
    Oracle.validateManifestComponent file true = .ok () ↔ IsManifestFile file := by
  obtain ⟨body, rfl⟩ := ends
  have cut : (body ++ pbm).take ((body ++ pbm).length - 4) = body := by
    rw [length_append, show pbm.length = 4 from rfl, Nat.add_sub_cancel, take_left]
  unfold Oracle.validateManifestComponent
  simp only [if_true, demand_bind_eq_ok, demand_eq_ok, oracle_letters_iff, cut]
  simp only [not_or, not_lt]
  constructor
  · exact fun all => ⟨all.1.2.2.2, body, rfl, all.2⟩
  · rintro ⟨short, other, same, named⟩
    obtain rfl := append_cancel_right same
    have apart := isManifestFile_not_dots ⟨short, body, rfl, named⟩
    simp only [not_or] at apart
    exact ⟨⟨apart.1, apart.2.1, apart.2.2, short⟩, named⟩

end Components

section Validators

variable {middle final : Bytes → Prop} {parts : List Bytes} {value relative : Bytes}

/-- Components without a separator of either kind, none of them empty. -/
def Plain (part : Bytes) : Prop := part ≠ [] ∧ backslash ∉ part ∧ slash ∉ part

variable {part : Bytes}

theorem Letters.plain (letters : Letters part) : Plain part :=
  ⟨letters.1, letters.no_backslash, letters.no_slash⟩

theorem IsFile.plain (isFile : IsFile part) : Plain part := by
  obtain ⟨-, name, extension, rfl, front, back⟩ := isFile
  refine ⟨by simp, ?_, ?_⟩
  · simp only [mem_append, mem_cons, not_or]
    exact ⟨front.no_backslash, by decide, back.no_backslash⟩
  · simp only [mem_append, mem_cons, not_or]
    exact ⟨front.no_slash, by decide, back.no_slash⟩

theorem IsManifestFile.plain (isFile : IsManifestFile part) : Plain part := by
  obtain ⟨-, body, rfl, named⟩ := isFile
  refine ⟨by simp [named.1.1], ?_, ?_⟩
  · rw [mem_append, not_or]
    exact ⟨named.1.no_backslash, by decide⟩
  · rw [mem_append, not_or]
    exact ⟨named.1.no_slash, by decide⟩

theorem Parted.ne_nil (parted : Parted middle final parts) : parts ≠ [] := by
  obtain ⟨-, file, last, -⟩ := parted
  rintro rfl
  exact nomatch last

theorem Parted.all {fact : Bytes → Prop} (parted : Parted middle final parts) (onFolder : ∀ part, middle part → fact part)
    (onFile : ∀ part, final part → fact part) : ∀ part ∈ parts, fact part := by
  obtain ⟨folders, file, last, holds⟩ := parted
  intro part member
  rcases eq_nil_or_concat parts with none | ⟨front, other, same⟩
  · rw [none] at member
    exact nomatch member
  · rw [concat_eq_append] at same
    subst same
    rw [getLast?_concat] at last
    rw [dropLast_concat] at folders
    rcases mem_append.mp member with early | final
    · exact onFolder part (folders part early)
    · rw [mem_singleton.mp final, some.inj last]
      exact onFile file holds

section

variable (onFolder : ∀ part, middle part → Plain part) (onFile : ∀ part, final part → Plain part)
include onFolder onFile

/-- A path whose components are plain is read back from its parts. -/
theorem relative_iff :
    Parted middle final (relative.splitOn backslash) ↔
      ∃ parts, relative = [backslash].intercalate parts ∧ Parted middle final parts := by
  constructor
  · exact fun parted => ⟨_, (intercalate_splitOn backslash).symm, parted⟩
  · rintro ⟨parts, rfl, parted⟩
    rwa [splitOn_intercalate backslash
      (fun part member => (parted.all onFolder onFile part member).2.1) parted.ne_nil]

/-- What the checks before the components ask follows from the components. -/
theorem relative_plain
    (parted : Parted middle final (relative.splitOn backslash)) : relative ≠ [] ∧ slash ∉ relative := by
  have plain := parted.all onFolder onFile
  constructor
  · rintro rfl
    exact (plain [] (mem_singleton_self _)).1 rfl
  · intro inside
    rw [← @List.intercalate_splitOn _ relative _ _ backslash] at inside
    rcases mem_intercalate inside with same | ⟨part, member, within⟩
    · exact absurd same (by decide)
    · exact (plain part member).2.2 within

theorem rooted_iff :
    (¬ (maxPathBytes < value.length ∨ ¬ manifestRoot <+: value) ∧
        Parted middle final ((value.drop manifestRoot.length).splitOn backslash)) ↔
      value.length ≤ maxPathBytes ∧ ∃ parts, value = pathOf parts ∧ Parted middle final parts := by
  rw [relative_iff onFolder onFile, not_or, not_lt, not_not, and_assoc]
  refine and_congr_right fun _ => ?_
  constructor
  · rintro ⟨⟨rest, rfl⟩, parts, same, parted⟩
    rw [drop_left] at same
    exact ⟨parts, by rw [pathOf, same], parted⟩
  · rintro ⟨parts, rfl, parted⟩
    exact ⟨prefix_append .., parts, by rw [pathOf, drop_left], parted⟩

end

theorem artifactPath_iff : ArtifactPath value ↔
    value.length ≤ maxPathBytes ∧ ∃ parts, value = pathOf parts ∧ Parted IsFolder IsFile parts :=
  ⟨fun path => ⟨path.short, path.parts⟩, fun both => ⟨both.1, both.2⟩⟩

theorem manifestPath_iff : ManifestPath value ↔
    value.length ≤ maxPathBytes ∧ ∃ parts, value = pathOf parts ∧ Parted IsNamedFolder IsManifestFile parts :=
  ⟨fun path => ⟨path.short, path.parts⟩, fun both => ⟨both.1, both.2⟩⟩

theorem isFolder_plain (part : Bytes) (isFolder : IsFolder part) : Plain part := isFolder.1.plain

theorem isNamedFolder_plain (part : Bytes) (isFolder : IsNamedFolder part) : Plain part := isFolder.1.1.plain

variable {done : Unit}

theorem validatePath_eq_ok : validatePath value = .ok done ↔ ArtifactPath value := by
  unfold validatePath
  rw [artifactPath_iff, ← rooted_iff isFolder_plain fun _ => IsFile.plain]
  simp only [demand_bind_eq_ok]
  rw [walkComponents_eq_ok (fun _ => validateComponent_folder) (fun _ => validateComponent_file)
    (splitOn_ne_nil _ _)]
  refine and_congr_right fun _ => ⟨fun both => both.2, fun parted => ⟨?_, parted⟩⟩
  rw [not_or]
  exact relative_plain isFolder_plain (fun _ => IsFile.plain) parted

theorem eq_concat_of_getLast? {file : Bytes} (last : parts.getLast? = some file) :
    parts = parts.dropLast ++ [file] := by
  rcases eq_nil_or_concat parts with rfl | ⟨front, other, same⟩
  · exact nomatch last
  · rw [concat_eq_append] at same
    subst same
    rw [getLast?_concat] at last
    rw [dropLast_concat, some.inj last]

/-- A path of manifests ends as its last component does. -/
theorem pbm_suffix (parted : Parted IsNamedFolder IsManifestFile (relative.splitOn backslash)) : pbm <:+ relative := by
  obtain ⟨-, file, last, -, body, rfl, -⟩ := parted
  have inside := (@suffix_intercalate _ backslash (relative.splitOn backslash).dropLast (body ++ pbm)).1
  rw [← eq_concat_of_getLast? last, intercalate_splitOn] at inside
  exact (suffix_append ..).trans inside

theorem validateManifestPath_eq_ok : validateManifestPath value = .ok done ↔ ManifestPath value := by
  unfold validateManifestPath
  rw [manifestPath_iff, ← rooted_iff isNamedFolder_plain fun _ => IsManifestFile.plain]
  simp only [demand_bind_eq_ok]
  rw [walkComponents_eq_ok (fun _ => validateManifestComponent_folder) (fun _ => validateManifestComponent_file)
    (splitOn_ne_nil _ _)]
  refine and_congr_right fun _ => ⟨fun both => both.2, fun parted => ⟨?_, parted⟩⟩
  obtain ⟨filled, clean⟩ := relative_plain isNamedFolder_plain (fun _ => IsManifestFile.plain) parted
  simp only [not_or, not_not]
  exact ⟨filled, clean, pbm_suffix parted⟩

theorem oracle_validatePath_eq_ok : Oracle.validatePath value = .ok done ↔ ArtifactPath value := by
  unfold Oracle.validatePath
  rw [artifactPath_iff, ← rooted_iff isFolder_plain fun _ => IsFile.plain]
  simp only [demand_bind_eq_ok]
  constructor
  · rintro ⟨rooted, whole, walked⟩
    simp only [not_or, not_exists, not_and, not_lt] at rooted whole
    refine ⟨by simp only [not_or, not_lt]; exact ⟨rooted.1, rooted.2.1⟩, ?_⟩
    refine (eachComponent_eq_ok (fun folder member => ?_) (fun file last => ?_) (splitOn_ne_nil _ _)).mp walked
    · rw [oracle_validateComponent_folder]
      exact ⟨fun letters => ⟨letters, (whole.2 folder member).2⟩, fun isFolder => isFolder.1⟩
    · exact oracle_validateComponent_file (whole.2 file (mem_of_getLast? last)).2
  · rintro ⟨rooted, parted⟩
    obtain ⟨-, clean⟩ := relative_plain isFolder_plain (fun _ => IsFile.plain) parted
    have short : ∀ part ∈ (value.drop manifestRoot.length).splitOn backslash, part.length ≤ 64 :=
      parted.all (fun _ isFolder => isFolder.2) fun _ isFile => isFile.1
    have plain := parted.all isFolder_plain fun _ => IsFile.plain
    simp only [not_or, not_exists, not_and, not_lt, not_not] at rooted ⊢
    refine ⟨⟨rooted.1, rooted.2, ?_⟩, ⟨splitOn_ne_nil _ _, fun part member =>
      ⟨(plain part member).1, short part member⟩⟩, ?_⟩
    · obtain ⟨rest, rfl⟩ := rooted.2
      rw [mem_append, not_or]
      exact ⟨by decide, clean⟩
    · refine (eachComponent_eq_ok (fun folder member => ?_) (fun file last => ?_) (splitOn_ne_nil _ _)).mpr parted
      · rw [oracle_validateComponent_folder]
        exact ⟨fun letters => ⟨letters, short folder member⟩, fun isFolder => isFolder.1⟩
      · exact oracle_validateComponent_file (short file (mem_of_getLast? last))

theorem oracle_validateManifestPath_eq_ok : Oracle.validateManifestPath value = .ok done ↔ ManifestPath value := by
  unfold Oracle.validateManifestPath
  rw [manifestPath_iff, ← rooted_iff isNamedFolder_plain fun _ => IsManifestFile.plain]
  simp only [demand_bind_eq_ok]
  refine and_congr_right fun _ => ?_
  have known : ∀ ends : pbm <:+ value.drop manifestRoot.length,
      Oracle.eachComponent Oracle.validateManifestComponent ((value.drop manifestRoot.length).splitOn backslash) = .ok () ↔
        Parted IsNamedFolder IsManifestFile ((value.drop manifestRoot.length).splitOn backslash) := by
    intro ends
    refine eachComponent_eq_ok (fun _ _ => oracle_validateManifestComponent_folder) (fun file last => ?_)
      (splitOn_ne_nil _ _)
    refine oracle_validateManifestComponent_file (@suffix_last _ backslash
      ((value.drop manifestRoot.length).splitOn backslash).dropLast _ _ (by decide) ?_)
    rwa [← eq_concat_of_getLast? last, intercalate_splitOn]
  constructor
  · rintro ⟨whole, walked⟩
    simp only [not_or, not_not] at whole
    exact (known whole.2.2).mp walked
  · intro parted
    obtain ⟨filled, clean⟩ := relative_plain isNamedFolder_plain (fun _ => IsManifestFile.plain) parted
    simp only [not_or, not_not]
    exact ⟨⟨filled, clean, pbm_suffix parted⟩, (known (pbm_suffix parted)).mpr parted⟩

end Validators

end PooleOS.BootText
