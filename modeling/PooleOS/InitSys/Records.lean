import PooleOS.InitSys.Oracle

/- What the two parsers ask of the header, of a name and of each record. -/
namespace PooleOS.InitSys

section Binds

variable {ε α β : Type}

theorem range_eq_ok {bytes part : Bytes} {first last : Nat} {reason : ε} :
    orRefuse (bytes.range? first last) reason = .ok part ↔
      first ≤ last ∧ last ≤ bytes.length ∧ part = bytes.slice first (last - first) := by
  unfold orRefuse
  rw [orError_eq_ok, Bytes.range?_eq_some]
  rfl

theorem range_bind_eq_ok {bytes : Bytes} {first last : Nat} {reason : ε} {next : Bytes → Outcome ε α}
    {value : α} : (orRefuse (bytes.range? first last) reason >>= next) = .ok value ↔
      (first ≤ last ∧ last ≤ bytes.length) ∧ next (bytes.slice first (last - first)) = .ok value := by
  rw [bind_eq_ok_iff]
  constructor
  · rintro ⟨part, found, rest⟩
    obtain ⟨ordered, inside, rfl⟩ := range_eq_ok.mp found
    exact ⟨⟨ordered, inside⟩, rest⟩
  · rintro ⟨⟨ordered, inside⟩, rest⟩
    exact ⟨_, range_eq_ok.mpr ⟨ordered, inside, rfl⟩, rest⟩

end Binds

section Tables

/-- A table of so many records lies behind the header. -/
def Tabled (data : Bytes) (offset count size : Nat) : Prop :=
  headerBytes ≤ offset ∧ offset + count * size ≤ data.length

variable {data part : Bytes} {offset count size : Nat}

theorem table_eq_ok : table data offset count size = .ok part ↔
    Tabled data offset count size ∧ part = data.slice offset (count * size) := by
  unfold table
  rw [check, demand_bind_eq_ok, pure_eq_ok]
  rfl

theorem oracle_table_eq_ok : Oracle.table data offset count size = .ok part ↔
    Tabled data offset count size ∧ part = data.slice offset (count * size) := by
  unfold Oracle.table
  rw [Oracle.check, demand_bind_eq_ok, pure_eq_ok]
  rfl

/-- A loop over the records of a table, whose rounds compute a known value. -/
theorem loop_eq_ok {ε β γ : Type} {tabled : Prop} {found : Except ε Bytes} {body : Bytes → β → Nat → Except ε β}
    {first : β} {closed : Nat → β} {fits : Nat → Prop} {rest : β → Except ε γ} {value : γ}
    (known : ∀ other, found = .ok other ↔ tabled ∧ other = part) (start : closed 0 = first)
    (each : ∀ index < count, (∀ earlier < index, fits earlier) → ∀ next,
      body part (closed index) index = .ok next ↔ fits index ∧ next = closed (index + 1)) :
    (found >>= fun part => (List.range count).foldlM (body part) first >>= rest) = .ok value ↔ tabled ∧
    (∀ index < count, fits index) ∧ rest (closed count) = .ok value := by
  subst start
  rw [bind_eq_ok_iff]
  constructor
  · rintro ⟨part, same, ran⟩
    obtain ⟨inside, rfl⟩ := (known part).mp same
    obtain ⟨last, ran, more⟩ := bind_eq_ok ran
    obtain ⟨fit, rfl⟩ := (foldlM_range_closed each last).mp ran
    exact ⟨inside, fit, more⟩
  · rintro ⟨inside, fit, more⟩
    refine ⟨part, (known part).mpr ⟨inside, rfl⟩, ?_⟩
    exact bind_eq_ok_iff.mpr ⟨_, (foldlM_range_closed each _).mpr ⟨fit, rfl⟩, more⟩

/-- The same, when nothing follows the loop. -/
theorem last_loop_eq_ok {ε β : Type} {tabled : Prop} {found : Except ε Bytes} {body : Bytes → β → Nat → Except ε β}
    {first : β} {closed : Nat → β} {fits : Nat → Prop} {last : β}
    (known : ∀ other, found = .ok other ↔ tabled ∧ other = part) (start : closed 0 = first)
    (each : ∀ index < count, (∀ earlier < index, fits earlier) → ∀ next,
      body part (closed index) index = .ok next ↔ fits index ∧ next = closed (index + 1)) :
    (found >>= fun part => (List.range count).foldlM (body part) first) = .ok last ↔ tabled ∧
    (∀ index < count, fits index) ∧ last = closed count := by
  have whole : (found >>= fun part => (List.range count).foldlM (body part) first >>= pure) = .ok last ↔ _ :=
    loop_eq_ok known start each
  simpa only [bind_pure, pure_eq_ok] using whole

end Tables

section Headers

variable (sha : Sha256) (data : Bytes)

/-- The words of a header. -/
def headerOf : Header where
  bundleVersion := data.word 24 8
  minimumSecureVersion := data.word 32 8
  rootServiceId := data.word 40 4
  allowedBootModes := data.word 44 4
  kernelMajor := data.word 48 2
  kernelMinor := data.word 50 2
  pbpMajor := data.word 52 2
  pbpMinor := data.word 54 2
  componentCount := data.word 56 2
  serviceCount := data.word 58 2
  dependencyCount := data.word 60 2
  resourceCount := data.word 62 2
  capabilityCount := data.word 64 2
  componentOffset := data.word 68 4
  serviceOffset := data.word 72 4
  dependencyOffset := data.word 76 4
  resourceOffset := data.word 80 4
  capabilityOffset := data.word 84 4
  stringOffset := data.word 88 4
  stringBytes := data.word 92 4
  blobOffset := data.word 96 4
  blobBytes := data.word 100 4
  startTimeoutMs := data.word 104 4
  rollbackTimeoutMs := data.word 108 4
  maxTotalRestarts := data.word 112 4
  bodySha256 := data.slice 120 32

/-- The counts that a header may have. -/
structure Counts (header : Header) : Prop where
  components : 1 ≤ header.componentCount ∧ header.componentCount ≤ maxComponents
  services : 1 ≤ header.serviceCount ∧ header.serviceCount ≤ maxServices
  dependencies : header.dependencyCount ≤ maxDependencies
  resources : 1 ≤ header.resourceCount ∧ header.resourceCount ≤ maxResources
  capabilities : 1 ≤ header.capabilityCount ∧ header.capabilityCount ≤ maxCapabilities

/-- Where the tables of a bundle of this many bytes lie. -/
structure Placed (header : Header) (total : Nat) : Prop where
  tables : [header.componentOffset, header.serviceOffset, header.dependencyOffset, header.resourceOffset,
      header.capabilityOffset, header.stringOffset] =
    [headerBytes, headerBytes + header.componentCount * componentBytes,
      headerBytes + header.componentCount * componentBytes + header.serviceCount * serviceBytes,
      headerBytes + header.componentCount * componentBytes + header.serviceCount * serviceBytes +
        header.dependencyCount * dependencyBytes,
      headerBytes + header.componentCount * componentBytes + header.serviceCount * serviceBytes +
        header.dependencyCount * dependencyBytes + header.resourceCount * resourceBytes,
      headerBytes + header.componentCount * componentBytes + header.serviceCount * serviceBytes +
        header.dependencyCount * dependencyBytes + header.resourceCount * resourceBytes +
        header.capabilityCount * capabilityBytes]
  blob : header.blobOffset = align (headerBytes + header.componentCount * componentBytes +
    header.serviceCount * serviceBytes + header.dependencyCount * dependencyBytes +
    header.resourceCount * resourceBytes + header.capabilityCount * capabilityBytes + header.stringBytes)
  total : header.blobOffset + header.blobBytes = total

/-- What both parsers ask of a header. -/
structure HeaderRule : Prop where
  long : headerBytes ≤ data.length
  short : data.length ≤ maxBundleBytes
  magic : data.take 8 = magic
  version : data.word 8 2 = majorVersion ∧ data.word 10 2 = minorVersion
  size : data.word 12 2 = headerBytes ∧ data.word 14 2 = recordAlignment
  total : data.word 16 4 = data.length
  flags : data.word 20 4 = requiredFlags
  floor : data.word 24 8 ≠ 0 ∧ data.word 32 8 ≠ 0 ∧ data.word 32 8 ≤ data.word 24 8
  root : data.word 40 4 ≠ 0
  modes : data.word 44 4 ≠ 0 ∧ without (data.word 44 4) knownBootModes = 0
  abi : data.word 48 2 ≠ 0 ∧ data.word 52 2 ≠ 0
  reserved : data.word 66 2 = 0
  counts : Counts (headerOf data)
  strings : data.word 92 4 ≠ 0 ∧ data.word 92 4 ≤ maxStringBytes ∧ data.word 100 4 ≠ 0
  blob : data.word 100 4 ≤ maxComponentBlobBytes
  timeouts : (1 ≤ data.word 104 4 ∧ data.word 104 4 ≤ 300000) ∧ (1 ≤ data.word 108 4 ∧ data.word 108 4 ≤ 300000)
  restarts : data.word 112 4 ≤ 1024
  zero : data.word 116 4 = 0 ∧ (data.slice 152 (headerBytes - 152)).allZero
  placed : Placed (headerOf data) data.length
  padding : (data.slice (data.word 88 4 + data.word 92 4) (data.word 96 4 - (data.word 88 4 + data.word 92 4))).allZero
  digest : sha.digest (data.drop headerBytes) = data.slice 120 32

/-- The next multiple of eight. -/
theorem align_eq (value : Nat) : align value = (value + 7) / 8 * 8 := without_low_eq 3

theorem align_le (value : Nat) : value ≤ align value := by
  rw [align_eq]
  omega

variable {sha data} {header : Header}

theorem Placed.padding (placed : Placed header data.length) :
    header.stringOffset + header.stringBytes ≤ header.blobOffset ∧ header.blobOffset ≤ data.length := by
  obtain ⟨tables, blob, total⟩ := placed
  simp only [List.cons.injEq, and_true] at tables
  refine ⟨?_, by omega⟩
  rw [blob, tables.2.2.2.2.2]
  exact align_le _

theorem parseHeader_eq_ok : parseHeader sha data = .ok header ↔ HeaderRule sha data ∧ header = headerOf data := by
  unfold parseHeader
  simp only [check, demand_bind_eq_ok, range_bind_eq_ok, pure_eq_ok]
  constructor
  · rintro ⟨long, short, magic, version, size, total, flags, floor, root, modes, abi, reserved,
      ⟨components, services, dependencies, resources, capabilities⟩, strings, blob, timeouts, restarts, zero,
      ⟨tables, blobPlace, end_⟩, -, padding, digest, rfl⟩
    exact ⟨⟨long, short, magic, version, size, total, flags, floor, root, modes, abi, reserved,
      ⟨components, services, dependencies, resources, capabilities⟩, strings, blob, timeouts, restarts, zero,
      ⟨tables, blobPlace, end_⟩, padding, digest⟩, rfl⟩
  · rintro ⟨rule, rfl⟩
    obtain ⟨components, services, dependencies, resources, capabilities⟩ := rule.counts
    obtain ⟨before, inside⟩ := rule.placed.padding
    obtain ⟨tables, blobPlace, end_⟩ := rule.placed
    exact ⟨rule.long, rule.short, rule.magic, rule.version, rule.size, rule.total, rule.flags, rule.floor,
      rule.root, rule.modes, rule.abi, rule.reserved,
      ⟨components, services, dependencies, resources, capabilities⟩, rule.strings, rule.blob,
      rule.timeouts, rule.restarts, rule.zero, ⟨tables, blobPlace, end_⟩,
      ⟨before, inside⟩, rule.padding, rule.digest, rfl⟩

theorem oracle_parseHeader_eq_ok :
    Oracle.parseHeader sha data = .ok header ↔ HeaderRule sha data ∧ header = headerOf data := by
  unfold Oracle.parseHeader Oracle.boundedCount
  simp only [Oracle.check, demand_bind_eq_ok, pure_eq_ok]
  constructor
  · rintro ⟨long, short, magic, version, size, total, flags, floor, root, modes, abi, reserved, components,
      services, dependencies, resources, capabilities, timeouts, restarts, word, zero, strings, blob, tables,
      ⟨blobPlace, end_⟩, padding, digest, rfl⟩
    rw [total] at end_
    exact ⟨⟨long, short, magic, version, size, total, flags, floor, root, modes, abi, reserved,
      ⟨components, services, dependencies.2, resources, capabilities⟩, strings, blob, timeouts, restarts,
      ⟨word, zero⟩, ⟨tables, blobPlace, end_⟩, padding, digest⟩, rfl⟩
  · rintro ⟨rule, rfl⟩
    obtain ⟨components, services, dependencies, resources, capabilities⟩ := rule.counts
    obtain ⟨tables, blobPlace, end_⟩ := rule.placed
    exact ⟨rule.long, rule.short, rule.magic, rule.version, rule.size, rule.total, rule.flags, rule.floor,
      rule.root, rule.modes, rule.abi, rule.reserved, components, services, ⟨Nat.zero_le _, dependencies⟩,
      resources, capabilities, rule.timeouts, rule.restarts, rule.zero.1, rule.zero.2, rule.strings, rule.blob,
      tables, ⟨blobPlace, end_.trans rule.total.symm⟩, rule.padding, rule.digest, rfl⟩

end Headers

section Names

variable {table name : Bytes} {offset bytes : Nat}

/-- What both parsers ask of a reference to a name. -/
structure NameRule (table : Bytes) (offset bytes : Nat) : Prop where
  bounds : bytes ≠ 0 ∧ bytes ≤ maxNameBytes ∧ offset + bytes < table.length
  terminator : table[offset + bytes]? = some 0
  valid : validName (table.slice offset bytes) = true

theorem nameRef_eq_ok {ref : NameRef} :
    nameRef table offset bytes = .ok ref ↔ NameRule table offset bytes ∧ ref = ⟨offset, bytes⟩ := by
  unfold nameRef
  simp only [check, demand_bind_eq_ok, pure_eq_ok]
  exact ⟨fun ⟨bounds, terminator, valid, same⟩ => ⟨⟨bounds, terminator, valid⟩, same⟩,
    fun ⟨rule, same⟩ => ⟨rule.bounds, rule.terminator, rule.valid, same⟩⟩

theorem letter_ascii {byte : UInt8} (letter : (isLowercase byte || isDigit byte || isPunctuation byte) = true) :
    byte < 0x80 ∧ byte ≠ 0x2f ∧ byte ≠ 0x5c ∧ byte ≠ 0 := by
  unfold isLowercase isDigit isPunctuation at letter
  simp only [Bool.or_eq_true, Bool.and_eq_true, decide_eq_true_eq, beq_iff_eq, UInt8.le_iff_toNat_le,
    UInt8.lt_iff_toNat_lt, ← UInt8.toNat_inj, ne_eq, UInt8.reduceToNat] at letter ⊢
  omega

theorem validName_iff : validName name = true ↔ name.length ≤ maxNameBytes ∧ name ≠ [] ∧
    isLowercase (name.headD 0) = true ∧ (isLowercase (name.getLastD 0) = true ∨ isDigit (name.getLastD 0) = true) ∧
    (∀ byte ∈ name, (isLowercase byte || isDigit byte || isPunctuation byte) = true) ∧ dotDot name = false := by
  unfold validName
  cases name with
  | nil => simp
  | cons first rest =>
    have last : (first :: rest).getLast? = some ((first :: rest).getLastD 0) := by
      rfl
    simp only [last, List.head?_cons, List.headD_cons, Bool.and_eq_true, decide_eq_true_eq, Bool.or_eq_true,
      List.all_eq_true, Bool.not_eq_true', ne_eq, reduceCtorEq, not_false_eq_true, true_and, and_assoc]

theorem nameBytes_eq_ok {text : Bytes} : Oracle.nameBytes name = .ok text ↔ validName name = true ∧ text = name := by
  unfold Oracle.nameBytes
  simp only [Oracle.check, demand_bind_eq_ok, pure_eq_ok]
  rw [validName_iff]
  have letters : (∀ byte ∈ name, isDigit byte = true ∨ isLowercase byte = true ∨ isPunctuation byte = true) ↔
      ∀ byte ∈ name, (isLowercase byte || isDigit byte || isPunctuation byte) = true := by
    refine forall₂_congr fun byte _ => ?_
    rw [Bool.or_eq_true, Bool.or_eq_true, or_left_comm, or_assoc]
  rw [letters, List.isEmpty_iff, Bool.not_eq_true]
  constructor
  · rintro ⟨⟨some, short⟩, ⟨first, last⟩, all, ⟨dots, -⟩, same⟩
    exact ⟨⟨short, some, first, last.symm, all, dots⟩, same⟩
  · rintro ⟨⟨short, some, first, last, all, dots⟩, same⟩
    have plain := fun byte member => letter_ascii (all byte member)
    exact ⟨⟨some, short⟩, ⟨first, last.symm⟩, all, ⟨dots, fun slash => (plain _ slash).2.1 rfl,
      fun back => (plain _ back).2.2.1 rfl⟩, same⟩

theorem readName_eq_ok :
    Oracle.readName table offset bytes = .ok name ↔ NameRule table offset bytes ∧ name = table.slice offset bytes := by
  unfold Oracle.readName
  simp only [Oracle.check, demand_bind_eq_ok]
  rw [bind_eq_ok_iff]
  simp only [nameBytes_eq_ok, demand_bind_eq_ok, pure_eq_ok]
  constructor
  · rintro ⟨bounds, terminator, -, _, ⟨valid, rfl⟩, -, same⟩
    exact ⟨⟨bounds, terminator, valid⟩, same⟩
  · rintro ⟨rule, same⟩
    have all := (validName_iff.mp rule.valid).2.2.2.2.1
    exact ⟨rule.bounds, rule.terminator, fun byte member => (letter_ascii (all byte member)).1, _,
      ⟨rule.valid, rfl⟩, rfl, same⟩

theorem pushName_eq_ok {names next : List NameRef} {value : NameRef} : pushName names value table = .ok next ↔
      value.text table ∉ names.map (NameRef.text table) ∧ next = names ++ [value] := by
  unfold pushName
  rw [check, demand_bind_eq_ok, pure_eq_ok]
  refine and_congr_left fun _ => ?_
  rw [List.mem_map, not_exists]
  exact ⟨fun fresh name both => fresh name both.1 both.2, fun fresh name member same => fresh name ⟨member, same⟩⟩

theorem addName_eq_ok {names next : List Bytes} :
    Oracle.addName names name = .ok next ↔ name ∉ names ∧ next = names ++ [name] := by
  unfold Oracle.addName
  rw [Oracle.check, demand_bind_eq_ok, pure_eq_ok]

end Names

end PooleOS.InitSys
