import PooleOS.InitSys.StrictHeader

/- Nothing panics in the loops over the five tables. -/
namespace PooleOS.InitSys.Strict

open List Matches

section Records

variable {data part : Bytes} {offset count size index : Nat}

theorem table_same (small : offset + count * size < u64Values) :
    table data offset count size = InitSys.table data offset count size := by
  unfold table InitSys.table
  rw [timesOr_of (by omega), ok_bind, addOr_of small, ok_bind]
  have part : (check (headerBytes ≤ offset ∧ offset + count * size ≤ data.length) .tableBounds >>= fun _ =>
      pure (data.slice offset (count * size))) = (check (headerBytes ≤ offset) .tableBounds >>= fun _ =>
        check (offset + count * size ≤ data.length) .tableBounds >>= fun _ => pure (data.slice offset (count * size))) :=
    demand_split _ _ .rfl
  rw [part]
  refine matches_eq.mp (Matches.check fun _ => matches_eq.mpr ?_)
  by_cases inside : offset + count * size ≤ data.length
  · rw [check, demand_pass inside, Bytes.range?_some (Nat.le_add_right ..) inside, Nat.add_sub_cancel_left]
    rfl
  · have outside : data.range? offset (offset + count * size) = none := if_neg (fun both => inside both.2)
    rw [check, demand_stop inside, outside]
    rfl

theorem recordOf_of (long : part.length = count * size) (inside : index < count) (small : part.length < u64Values)
    (few : count < u64Values) : recordOf part index size = .ok (recordAt part size index) := by
  have last : (index + 1) * size ≤ count * size := Nat.mul_le_mul_right size inside
  have split : (index + 1) * size = index * size + size := Nat.succ_mul index size
  unfold recordOf
  rw [times_of (by omega), ok_bind, plus_of (by omega), ok_bind, times_of (by omega), ok_bind, slice_of (by omega) (by omega),
    split, Nat.add_sub_cancel_left]
  rfl

theorem recordAt_length (long : part.length = count * size) (inside : index < count) :
    (recordAt part size index).length = size := by
  have last : (index + 1) * size ≤ count * size := Nat.mul_le_mul_right size inside
  rw [Nat.succ_mul] at last
  exact Bytes.slice_length (by omega)

end Records

variable {strings blob part record : Bytes} {index : Nat}

section Named

variable {α : Type} {size base : Nat} {empty value : α}

/-- The names that the parsers have kept. -/
structure NamesKept (strings : Bytes) (count : Nat) (one : NameTable) (two : List NameRef) : Prop where
  same : one = listed two
  count : two.length = count
  inside : ∀ name ∈ two, Inside strings name

theorem names_same {one : NameTable} {two : List NameRef} {count : Nat} (small : strings.length < u64Values)
    (kept : NamesKept strings count one two) (room : count < maxNames) :
    Matches (NamesKept strings (count + 1))
      (nameRef strings (record.word 8 4) (record.word 12 2) >>= fun name => pushName one name strings)
      (InitSys.nameRef strings (record.word 8 4) (record.word 12 2) >>= fun name =>
        InitSys.pushName two name strings) := by
  obtain ⟨rfl, rfl, inside⟩ := kept
  have offset := record.word_lt 8 4
  have bytes := record.word_lt 12 2
  have width := word_sizes.2
  rw [nameRef_same (by omega)]
  refine same fun name found => ?_
  obtain ⟨rule, rfl⟩ := nameRef_eq_ok.mp found
  have fits : Inside strings ⟨record.word 8 4, record.word 12 2⟩ := rule.bounds.2.2
  refine (known (pushName_same small room inside fits)).mono fun one next both => ?_
  obtain ⟨-, pushed, same⟩ := both
  obtain ⟨-, rfl⟩ := pushName_eq_ok.mp pushed
  refine ⟨same, length_append, fun name member => ?_⟩
  rcases mem_append.mp member with old | new
  · exact inside name old
  · rw [mem_singleton.mp new]
    exact fits

end Named

section Components

variable {sha : Sha256}

/-- What the two loops over the components have kept after so many of them. -/
structure ComponentsKept (strings blob : Bytes) (index : Nat) (one : ComponentScan) (two : InitSys.ComponentScan) :
    Prop where
  kinds : one.kinds = filled maxComponents 0 two.kinds
  cursor : one.cursor = two.cursor
  count : two.kinds.length = index
  inside : two.cursor ≤ blob.length
  names : NamesKept strings index one.names two.names

theorem parseComponent_same {count : Nat} {one : ComponentScan} {two : InitSys.ComponentScan}
    (small : strings.length < u64Values) (room : blob.length + recordAlignment < u64Values)
    (long : part.length = count * componentBytes) (less : index < count) (few : count ≤ maxComponents)
    (kept : ComponentsKept strings blob index one two) :
    Matches (ComponentsKept strings blob (index + 1)) (parseComponent sha strings blob part one index)
      (InitSys.parseComponent sha strings blob part two index) := by
  obtain ⟨kinds, cursor, size⟩ := one
  obtain ⟨rfl, rfl, rfl, inside, names⟩ := kept
  obtain ⟨halves, width⟩ := word_sizes
  have most : maxComponents = 32 := rfl
  have all : maxNames = 192 := rfl
  have bytes : componentBytes = 80 := rfl
  have total : part.length ≤ 32 * 80 := by
    rw [long, bytes]
    omega
  have record := @recordAt_length part count componentBytes two.kinds.length long less
  unfold parseComponent InitSys.parseComponent
  rw [recordOf_of long less (by omega) (by omega), ok_bind]
  have place := (recordAt part componentBytes two.kinds.length).word_lt 24 4
  have extent := (recordAt part componentBytes two.kinds.length).word_lt 28 4
  simp (disch := omega) only [read_of, ok_bind, plus_of, toU32_of, tail_of, slice_of, addOr_of, align_of]
  refine Matches.check fun _ => Matches.same fun _ _ => ?_
  rw [store_filled (by omega), ok_bind]
  refine Matches.check fun _ => Matches.same fun padding found => Matches.check fun _ => Matches.check fun _ => ?_
  refine Matches.same fun image cut => Matches.check fun _ => ?_
  have fits := (range_eq_ok.mp cut).2.1
  rw [← bind_assoc, ← bind_assoc]
  refine bind (names_same small names (by omega)) fun _ _ _ _ named => ?_
  exact ⟨rfl, rfl, length_append, fits, named⟩

theorem parseComponents_same {data : Bytes} {header : Header} (small : strings.length < u64Values)
    (room : blob.length + recordAlignment < u64Values) (counts : Counts header) (place : header.componentOffset < u32Values) :
    Matches (ComponentsKept strings blob header.componentCount) (parseComponents sha data header strings blob)
      (InitSys.parseComponents sha data header strings blob) := by
  have few := counts.components.2
  obtain ⟨halves, width⟩ := word_sizes
  have most : maxComponents = 32 := rfl
  have bytes : componentBytes = 80 := rfl
  have total : header.componentCount * componentBytes ≤ 32 * 80 := by
    rw [bytes]
    omega
  unfold parseComponents InitSys.parseComponents
  rw [table_same (by omega)]
  refine same fun part found => ?_
  obtain ⟨tabled, rfl⟩ := table_eq_ok.mp found
  have long := @Bytes.slice_length data header.componentOffset (header.componentCount * componentBytes) tabled.2
  refine bind (range (ComponentsKept strings blob) ⟨rfl, rfl, rfl, Nat.zero_le _, rfl, rfl, fun _ absent => absurd absent not_mem_nil⟩
    fun index one two less _ kept => parseComponent_same small room long less few kept) fun one two _ _ kept => ?_
  rw [kept.cursor]
  exact Matches.check fun _ => kept

end Components

section Named

variable {α : Type} {size base count : Nat} {empty value : α}

/-- What two loops over records with names have kept after so many of them. -/
structure ItemsKept (strings : Bytes) (size : Nat) (empty : α) (base index : Nat) (one : NamedScan α)
    (two : InitSys.NamedScan α) : Prop where
  items : one.items = filled size empty two.items
  count : two.items.length = index
  names : NamesKept strings (base + index) one.names two.names

theorem keepNamed_same {one : NamedScan α} {two : InitSys.NamedScan α} (small : strings.length < u64Values)
    (long : 14 ≤ record.length) (short : record.length < u64Values)
    (kept : ItemsKept strings size empty base index one two) (room : index < size) (names : base + index < maxNames) :
    Matches (ItemsKept strings size empty base (index + 1)) (keepNamed strings record one index value)
      (InitSys.nameRef strings (record.word 8 4) (record.word 12 2) >>= fun name =>
        InitSys.pushName two.names name strings >>= fun names => pure ⟨two.items ++ [value], names⟩) := by
  obtain ⟨items, listed⟩ := one
  obtain ⟨rfl, rfl, kept⟩ := kept
  unfold keepNamed
  rw [store_filled room, ok_bind, read_of (by omega) short, ok_bind, read_of (by omega) short, ok_bind, ← bind_assoc,
    ← bind_assoc]
  exact bind (names_same small kept names) fun _ _ _ _ named => ⟨rfl, length_append, named⟩

/-- The loop over a table of so many records with names, after the table is found. -/
theorem named_loop_same {data : Bytes} {offset width : Nat} {names : NameTable} {texts : List NameRef}
    {body : Bytes → NamedScan α → Nat → Outcome Error (NamedScan α)}
    {body' : Bytes → InitSys.NamedScan α → Nat → Outcome Error (InitSys.NamedScan α)}
    {checked : Nat → Bytes → Outcome Error α} (small : strings.length < u64Values) (place : offset < u32Values)
    (narrow : 14 ≤ width ∧ width ≤ 128) (few : count ≤ size) (total : base + size ≤ maxNames)
    (kept : NamesKept strings base names texts)
    (round : ∀ part scan, part.length = count * width → ∀ index < count, body part scan index = (do
      let value ← checked index (recordAt part width index)
      keepNamed strings (recordAt part width index) scan index value))
    (round' : ∀ part scan, part.length = count * width → ∀ index < count, body' part scan index = (do
      let value ← checked index (recordAt part width index)
      let name ← InitSys.nameRef strings ((recordAt part width index).word 8 4) ((recordAt part width index).word 12 2)
      let names ← InitSys.pushName scan.names name strings
      return ⟨scan.items ++ [value], names⟩)) :
    Matches (ItemsKept strings size empty base count)
      (table data offset count width >>= fun part =>
        (range count).foldlM (body part) ⟨replicate size empty, names⟩)
      (InitSys.table data offset count width >>= fun part => (range count).foldlM (body' part) ⟨[], texts⟩) := by
  obtain ⟨halves, wide⟩ := word_sizes
  have all : maxNames = 192 := rfl
  have bytes : count * width ≤ 192 * 128 := Nat.mul_le_mul (by omega) narrow.2
  rw [table_same (by omega)]
  refine same fun part found => ?_
  obtain ⟨tabled, rfl⟩ := table_eq_ok.mp found
  have long := @Bytes.slice_length data offset (count * width) tabled.2
  refine range (ItemsKept strings size empty base) ⟨rfl, rfl, kept⟩ fun index one two less _ kept => ?_
  have record := recordAt_length long less
  rw [round _ _ long index less, round' _ _ long index less]
  exact same fun value _ => keepNamed_same small (by omega) (by omega) kept (by omega) (by omega)

end Named

section Services

variable {header : Header} {kinds : List Nat}

theorem checkService_same (many : kinds.length = header.componentCount)
    (long : record.length = serviceBytes) (less : index < maxServices) :
    checkService header (filled maxComponents 0 kinds) index record = InitSys.checkService header kinds index record := by
  obtain ⟨halves, width⟩ := word_sizes
  have most : maxServices = 32 := rfl
  have bytes : serviceBytes = 96 := rfl
  unfold checkService InitSys.checkService
  simp (disch := omega) only [read_of, ok_bind, plus_of, toU32_of, tail_of]
  refine Eq.trans ?_ (demand_split
    (record.word 0 4 = index + 1 ∧ record.word 4 4 ≠ 0 ∧ record.word 4 4 ≤ header.componentCount)
    (kinds.getD (record.word 4 4 - 1) 0 = componentExecutable ∧ Bytes.allZero (record.drop 68))
    (by rw [and_assoc, and_assoc])).symm
  refine matches_eq.mp (Matches.check fun numbered => ?_)
  rw [minus_of (by omega), ok_bind, item_filled 0 (by omega), ok_bind]
  exact Matches.refl _

theorem parseServices_same {data : Bytes} {names : NameTable} {texts : List NameRef} (small : strings.length < u64Values)
    (counts : Counts header) (place : header.serviceOffset < u32Values) (many : kinds.length = header.componentCount)
    (kept : NamesKept strings header.componentCount names texts) :
    Matches (ItemsKept strings maxServices emptyService header.componentCount header.serviceCount)
      (parseServices data header (filled maxComponents 0 kinds) strings names)
      (InitSys.parseServices data header kinds strings texts) := by
  have few := counts.services.2
  have width := word_sizes.2
  have most : maxServices = 32 := rfl
  have room : header.componentCount + maxServices ≤ maxNames := by
    have before := counts.components.2
    unfold maxNames
    omega
  refine named_loop_same small place (by decide) few room kept (fun part scan long index less => ?_) (fun _ _ _ _ _ => rfl)
  have bytes : serviceBytes = 96 := rfl
  have total : part.length ≤ 32 * 96 := by
    rw [long, bytes]
    omega
  unfold parseService
  rw [recordOf_of long less (by omega) (by omega), ok_bind,
    checkService_same many (recordAt_length long less) (by omega)]

end Services

section Dependencies

variable {header : Header}

def DependenciesKept (index : Nat) (one two : List DependencyMeta × (Nat × Nat)) : Prop :=
  one = (filled maxDependencies emptyDependency two.1, two.2) ∧ two.1.length = index

theorem parseDependencies_same {data : Bytes} (counts : Counts header) (place : header.dependencyOffset < u32Values) :
    Matches (fun one two => one = filled maxDependencies emptyDependency two ∧ two.length = header.dependencyCount)
      (parseDependencies data header) (InitSys.parseDependencies data header) := by
  obtain ⟨halves, width⟩ := word_sizes
  have most : maxDependencies = 128 := rfl
  have bytes : dependencyBytes = 16 := rfl
  have few := counts.dependencies
  have total : header.dependencyCount * dependencyBytes ≤ 128 * 16 := by
    rw [bytes]
    omega
  unfold parseDependencies InitSys.parseDependencies
  rw [table_same (by omega)]
  refine same fun part found => ?_
  obtain ⟨tabled, rfl⟩ := table_eq_ok.mp found
  have long := @Bytes.slice_length data header.dependencyOffset (header.dependencyCount * dependencyBytes) tabled.2
  have start : DependenciesKept 0 (replicate maxDependencies emptyDependency, (0, 0)) ([], (0, 0)) := ⟨rfl, rfl⟩
  refine bind (range DependenciesKept start fun index one two less _ kept => ?_)
    fun one two _ _ kept => ?_
  · obtain ⟨rfl, rfl⟩ := kept
    have record := recordAt_length long less
    unfold parseDependency InitSys.parseDependency
    rw [recordOf_of long less (by omega) (by omega), ok_bind]
    simp (disch := omega) only [read_of, ok_bind]
    refine Matches.check fun _ => Matches.check fun _ => ?_
    rw [store_filled (by omega), ok_bind]
    exact ⟨rfl, List.length_append⟩
  · obtain ⟨rfl, length⟩ := kept
    exact ⟨rfl, length⟩

end Dependencies

section Resources

variable {header : Header}

theorem checkResource_same (long : record.length = resourceBytes) (less : index < maxResources) :
    checkResource header index record = InitSys.checkResource header index record := by
  obtain ⟨halves, width⟩ := word_sizes
  have most : maxResources = 128 := rfl
  have bytes : resourceBytes = 48 := rfl
  unfold checkResource InitSys.checkResource
  simp (disch := omega) only [read_of, ok_bind, plus_of, toU32_of]

theorem parseResources_same {data : Bytes} {names : NameTable} {texts : List NameRef} (small : strings.length < u64Values)
    (counts : Counts header) (place : header.resourceOffset < u32Values)
    (kept : NamesKept strings (header.componentCount + header.serviceCount) names texts) :
    Matches (ItemsKept strings maxResources emptyResource (header.componentCount + header.serviceCount)
        header.resourceCount) (parseResources data header strings names)
      (InitSys.parseResources data header strings texts) := by
  have few := counts.resources.2
  have width := word_sizes.2
  have most : maxResources = 128 := rfl
  have room : header.componentCount + header.serviceCount + maxResources ≤ maxNames := by
    have components := counts.components.2
    have services := counts.services.2
    unfold maxNames
    omega
  refine named_loop_same small place (by decide) few room kept (fun part scan long index less => ?_) (fun _ _ _ _ _ => rfl)
  have bytes : resourceBytes = 48 := rfl
  have total : part.length ≤ 128 * 48 := by
    rw [long, bytes]
    omega
  unfold parseResource
  rw [recordOf_of long less (by omega) (by omega), ok_bind, checkResource_same (recordAt_length long less) (by omega)]

end Resources

section Capabilities

variable {header : Header} {resources : List ResourceMeta}

theorem parseCapability_same {count : Nat} {capabilities : List CapabilityMeta}
    (many : resources.length = header.resourceCount) (long : part.length = count * capabilityBytes)
    (less : capabilities.length < count) (few : count ≤ maxCapabilities) :
    Matches (fun one two => one = filled maxCapabilities emptyCapability two ∧ two.length = capabilities.length + 1)
      (parseCapability header (filled maxResources emptyResource resources) part
        (filled maxCapabilities emptyCapability capabilities) capabilities.length)
      (InitSys.parseCapability header resources part capabilities capabilities.length) := by
  obtain ⟨halves, width⟩ := word_sizes
  have most : maxCapabilities = 256 := rfl
  have bytes : capabilityBytes = 48 := rfl
  have total : part.length ≤ 256 * 48 := by
    rw [long, bytes]
    omega
  have record := recordAt_length long less
  have folded : part.slice (capabilities.length * capabilityBytes) capabilityBytes =
      recordAt part capabilityBytes capabilities.length := rfl
  unfold parseCapability InitSys.parseCapability
  rw [recordOf_of long less (by omega) (by omega), ok_bind, folded]
  simp (disch := omega) only [read_of, ok_bind, plus_of, toU32_of, tail_of]
  refine Matches.check fun numbered => Matches.check fun above => ?_
  rw [minus_of (by omega), ok_bind, item_filled emptyResource (by omega), ok_bind]
  refine Matches.check fun _ => Matches.check fun _ => Matches.check fun _ => Matches.check fun _ => ?_
  rw [store_filled (by omega)]
  by_cases source : (recordAt part capabilityBytes capabilities.length).word 4 4 = 0
  · rw [if_pos source, if_pos source]
    refine same fun _ _ => ?_
    exact ⟨rfl, length_append⟩
  · rw [if_neg source, if_neg source, minus_of (by omega), ok_bind, item_filled emptyCapability (by omega), ok_bind]
    refine same fun _ _ => ?_
    exact ⟨rfl, length_append⟩

theorem parseCapabilities_same {data : Bytes} (counts : Counts header) (place : header.capabilityOffset < u32Values)
    (many : resources.length = header.resourceCount) :
    Matches (fun one two => one = filled maxCapabilities emptyCapability two ∧ two.length = header.capabilityCount)
      (parseCapabilities data header (filled maxResources emptyResource resources))
      (InitSys.parseCapabilities data header resources) := by
  obtain ⟨halves, width⟩ := word_sizes
  have most : maxCapabilities = 256 := rfl
  have bytes : capabilityBytes = 48 := rfl
  have few := counts.capabilities.2
  have total : header.capabilityCount * capabilityBytes ≤ 256 * 48 := by
    rw [bytes]
    omega
  unfold parseCapabilities InitSys.parseCapabilities
  rw [table_same (by omega)]
  refine same fun part found => ?_
  obtain ⟨tabled, rfl⟩ := table_eq_ok.mp found
  have long := @Bytes.slice_length data header.capabilityOffset (header.capabilityCount * capabilityBytes) tabled.2
  refine range (fun index one two => one = filled maxCapabilities emptyCapability two ∧ two.length = index)
    (And.intro rfl length_nil) fun index one two less _ kept => ?_
  obtain ⟨rfl, rfl⟩ := kept
  exact parseCapability_same many long less few

end Capabilities

/-- The arrays that hold these tables. -/
def tablesOf (tables : InitSys.Tables) : Tables where
  services := filled maxServices emptyService tables.services
  dependencies := filled maxDependencies emptyDependency tables.dependencies
  resources := filled maxResources emptyResource tables.resources
  capabilities := filled maxCapabilities emptyCapability tables.capabilities
  names := listed tables.names

/-- How many records of each kind there are, and that the names lie in the table of strings. -/
structure Sized (strings : Bytes) (header : Header) (tables : InitSys.Tables) : Prop where
  services : tables.services.length = header.serviceCount
  dependencies : tables.dependencies.length = header.dependencyCount
  resources : tables.resources.length = header.resourceCount
  capabilities : tables.capabilities.length = header.capabilityCount
  names : tables.names.length = header.componentCount + header.serviceCount + header.resourceCount
  inside : ∀ name ∈ tables.names, Inside strings name

variable {sha : Sha256} {data : Bytes} {header : Header}

theorem parseTables_same (small : strings.length < u64Values) (room : blob.length + recordAlignment < u64Values)
    (counts : Counts header) (offsets : ∀ offset ∈ [header.componentOffset, header.serviceOffset,
      header.dependencyOffset, header.resourceOffset, header.capabilityOffset], offset < u32Values) : Matches
    (fun one two => one = tablesOf two ∧ Sized strings header two) (parseTables sha data header strings blob)
    (InitSys.parseTables sha data header strings blob) := by
  simp only [forall_mem_cons] at offsets
  obtain ⟨components, services, dependencies, resources, capabilities, -⟩ := offsets
  refine bind (parseComponents_same small room counts components) fun scan parts _ _ first => ?_
  rw [first.kinds]
  refine bind (parseServices_same small counts services first.count first.names) fun scan items _ _ second => ?_
  refine bind (parseDependencies_same counts dependencies) fun scan edges _ _ third => ?_
  refine bind (parseResources_same small counts resources second.names) fun scan provided _ _ fourth => ?_
  rw [fourth.items]
  refine bind (parseCapabilities_same counts capabilities fourth.count) fun scan held _ _ fifth => ?_
  refine ⟨?_, second.count, third.2, fourth.count, fifth.2, fourth.names.count, fourth.names.inside⟩
  rw [second.items, third.1, fifth.1, fourth.names.same]
  rfl

end PooleOS.InitSys.Strict
