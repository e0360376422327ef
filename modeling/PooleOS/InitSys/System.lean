import PooleOS.InitSys.Tables
import PooleOS.Lib.Strings
import PooleOS.InitSys.Order

/- The string table. The native parser walks the sorted names with a cursor, and the oracle
rebuilds the table from the texts: the first way also says where each name starts. -/
namespace PooleOS.InitSys

open List

section Fresh

variable {strings part : Bytes} {size count : Nat} {front : List Bytes}

/-- Names that were fresh one after the other are all different. -/
theorem nodup_of_fresh (distinct : front.Nodup) :
    ∀ {count : Nat}, (∀ index < count, Fresh strings front (recordAt part size) index) →
      (front ++ records size (fun record => (nameOf record).text strings) part count).Nodup
  | 0, _ => by
      rw [records, range_zero, map_nil, append_nil]
      exact distinct
  | count + 1, fresh => by
      rw [records_succ, ← append_assoc, ← concat_eq_append]
      exact (nodup_of_fresh distinct fun index less => fresh index (Nat.lt_succ_of_lt less)).concat
        (fresh count (Nat.lt_succ_self _)).fresh

theorem mem_records {α : Type} {made : Bytes → α} {item : α} :
    item ∈ records size made part count ↔ ∃ index < count, made (recordAt part size index) = item := by
  rw [records, mem_map]
  simp only [mem_range]

end Fresh

section Rules

variable {sha : Sha256} {data strings blob : Bytes} {header : Header}

theorem TablesFit.distinct (fit : TablesFit sha data header strings blob) : (header.texts data strings).Nodup := by
  have one := nodup_of_fresh nodup_nil fun index less => (fit.components.each index less).name
  have two := nodup_of_fresh one fun index less => by
    have name := (fit.services index less).name
    rw [Header.componentNames, records_map] at name
    exact name
  have three := nodup_of_fresh two fun index less => by
    have name := (fit.resources index less).name
    rw [map_append, Header.componentNames, Header.serviceNames, records_map, records_map] at name
    exact name
  rw [Header.texts, Header.names, Header.componentNames, Header.serviceNames, Header.resourceNames,
    map_append, map_append, records_map, records_map, records_map]
  exact three

theorem TablesFit.rule (fit : TablesFit sha data header strings blob) {name : NameRef}
    (member : name ∈ header.names data) : NameRule strings name.offset name.bytes := by
  rcases mem_append.mp member with earlier | resource
  · rcases mem_append.mp earlier with component | service
    · obtain ⟨index, less, rfl⟩ := mem_records.mp component
      exact (fit.components.each index less).name.rule
    · obtain ⟨index, less, rfl⟩ := mem_records.mp service
      exact (fit.services index less).name.rule
  · obtain ⟨index, less, rfl⟩ := mem_records.mp resource
    exact (fit.resources index less).name.rule

end Rules

section Strings

variable {table : Bytes} {names : List NameRef} {name : NameRef}

section

variable (rule : NameRule table name.offset name.bytes)
include rule

theorem NameRule.text_length : (name.text table).length = name.bytes := by
  have bounds := rule.bounds
  rw [NameRef.text, Bytes.slice, length_take, length_drop]
  omega

theorem NameRule.reads :
    ReadsAt table name.offset (name.text table) := by
  refine ⟨?_, ?_⟩
  · rw [rule.text_length]
    rfl
  · rw [rule.text_length]
    exact rule.terminator

theorem NameRule.clean : Clean (name.text table) := by
  have letters := (validName_iff.mp rule.valid).2.2.2.2.1
  exact fun member => (letter_ascii (letters 0 member)).2.2.2 rfl

end

theorem cursor_eq_ok {last : Nat} : ∀ {names : List NameRef} {cursor : Nat},
    (∀ name ∈ names, NameRule table name.offset name.bytes) → ((names.foldlM (fun cursor value => do
      check (value.offset = cursor) .stringTable
      return cursor + (value.bytes + 1)) cursor : Outcome Error Nat) = .ok last ↔
        Follows NameRef.offset (NameRef.text table) names cursor last)
  | [], _, _ => pure_eq_ok
  | name :: rest, cursor, rules => by
      have length := (rules name (mem_cons_self ..)).text_length
      rw [foldlM_cons, Follows, length, ← cursor_eq_ok fun other member => rules other (mem_cons_of_mem _ member)]
      simp only [check, bind_assoc, demand_bind_eq_ok, pure_bind]

/-- A name starts where a string of the table does. -/
def AtEntry (table : Bytes) (name : NameRef) : Prop := name.offset = 0 ∨ table[name.offset - 1]? = some 0

instance (table : Bytes) (name : NameRef) : Decidable (AtEntry table name) := inferInstanceAs (Decidable (_ ∨ _))

theorem validateStringTable_eq_ok (rules : ∀ name ∈ names, NameRule table name.offset name.bytes)
    (distinct : (names.map (NameRef.text table)).Nodup) : validateStringTable names table = .ok () ↔
      table = Oracle.canonicalStrings (names.map (NameRef.text table)) ∧ ∀ name ∈ names, AtEntry table name := by
  obtain ⟨perm, sorted⟩ := @selectionSort_sorted _ _ _ (fun name : NameRef => (name.text table).key) names.length names
    le_rfl
  have kept := fun name member => rules name (perm.mem_iff.mp member)
  have apart : ((selectionSort (fun name : NameRef => (name.text table).key) names.length names).map
      (NameRef.text table)).Nodup := (perm.map _).nodup_iff.mpr distinct
  have same : (selectionSort (fun name : NameRef => (name.text table).key) names.length names).map
      (NameRef.text table) = (names.map (NameRef.text table)).insertionSort (fun first second => first.key ≤ second.key) := by
    refine Bytes.sorted_unique ((perm.map _).trans (perm_insertionSort ..).symm) ?_ ?_
    · exact pairwise_map.mpr sorted
    · exact pairwise_insertionSort ..
  have canonical : Oracle.canonicalStrings (names.map (NameRef.text table)) =
      joined ((selectionSort (fun name : NameRef => (name.text table).key) names.length names).map
        (NameRef.text table)) := by
    rw [same]
    rfl
  have walk := follows_iff apart (fun name member => (kept name member).clean) fun name member => (kept name member).reads
  have entries : (∀ name ∈ selectionSort (fun name : NameRef => (name.text table).key) names.length names,
      name.offset = 0 ∨ table[name.offset - 1]? = some 0) ↔ ∀ name ∈ names, AtEntry table name :=
    forall_congr' fun name => by
      rw [perm.mem_iff]
      rfl
  rw [canonical, ← entries, ← walk]
  unfold validateStringTable
  rw [bind_eq_ok_iff]
  constructor
  · rintro ⟨last, ran, filled⟩
    rw [check, demand_eq_ok] at filled
    exact filled ▸ (cursor_eq_ok kept).mp ran
  · intro follows
    exact ⟨_, (cursor_eq_ok kept).mpr follows, demand_eq_ok.mpr rfl⟩

end Strings

/-- A strong dependency, from a prerequisite to what depends on it. -/
def Strong (tables : Tables) (prerequisite dependent : Nat) : Prop :=
  ∃ item ∈ tables.dependencies, item.kind = dependencyStrong ∧ item.prerequisite = prerequisite ∧
    item.dependent = dependent

/-- The root service, which alone holds the bootstrap flags and depends on nothing. -/
structure RootRule (header : Header) (tables : Tables) : Prop where
  listed : header.rootServiceId ≤ header.serviceCount
  flags : (tables.services.getD (header.rootServiceId - 1) emptyService).flags = rootServiceFlags
  restart : (tables.services.getD (header.rootServiceId - 1) emptyService).restartPolicy = restartNever
  alone : ∀ index < header.serviceCount, index ≠ header.rootServiceId - 1 →
    (tables.services.getD index emptyService).flags &&& (serviceBootstrap ||| serviceDropBootstrap) = 0
  first : ∀ item ∈ tables.dependencies, item.dependent ≠ header.rootServiceId

/-- A service has the budgets that the tables give it, and its readiness is an endpoint. -/
structure BudgetRule (header : Header) (tables : Tables) (index : Nat) : Prop where
  capabilities : (tables.services.getD index emptyService).capabilityCount =
    (tables.capabilities.filter (·.holder = index + 1)).length
  resources : (tables.services.getD index emptyService).resourceCount =
    ((tables.capabilities.filter (·.holder = index + 1)).map CapabilityMeta.resource).toFinset.card
  dependencies : (tables.services.getD index emptyService).dependencyCount =
    (tables.dependencies.filter (·.dependent = index + 1)).length
  ready : (tables.services.getD index emptyService).readyResourceId ≠ 0 ∧
    (tables.services.getD index emptyService).readyResourceId ≤ header.resourceCount
  endpoint : (tables.resources.getD ((tables.services.getD index emptyService).readyResourceId - 1)
    emptyResource).kind = resourceEndpointSlots

/-- The holder of a capability on what another service provides depends on it, and starts later. -/
def RouteRule (tables : Tables) (order : List Nat) (capability : CapabilityMeta) : Prop :=
  let provider := (tables.resources.getD (capability.resource - 1) emptyResource).provider
  provider ≠ 0 → provider ≠ capability.holder →
    (capability.holder, provider) ∈ tables.edges ∧ order.idxOf provider < order.idxOf capability.holder

/-- What both parsers ask of the system. -/
structure SystemRule (header : Header) (tables : Tables) (order : List Nat) : Prop where
  root : RootRule header tables
  available : ∀ item ∈ tables.dependencies, Available tables.services item
  started : Started header tables.edges
    (fun service => (tables.services.getD (service - 1) emptyService).startupRank) order
  reachable : ∀ service ∈ serviceIds header.serviceCount,
    Relation.ReflTransGen (Strong tables) header.rootServiceId service
  budgets : ∀ index < header.serviceCount, BudgetRule header tables index
  restarts : ((List.range header.serviceCount).map (fun index =>
    (tables.services.getD index emptyService).maxRestarts)).sum = header.maxTotalRestarts
  routes : ∀ capability ∈ tables.capabilities, RouteRule tables order capability

/-- The records refer to each other by numbers that there are. -/
structure Numbered (header : Header) (tables : Tables) : Prop where
  root : header.rootServiceId ≠ 0
  count : header.serviceCount ≤ maxServices
  dependencies : ∀ item ∈ tables.dependencies, (item.dependent ≠ 0 ∧ item.dependent ≤ header.serviceCount) ∧
    item.prerequisite ≠ 0 ∧ item.prerequisite ≤ header.serviceCount
  capabilities : ∀ item ∈ tables.capabilities, (item.holder ≠ 0 ∧ item.holder ≤ header.serviceCount) ∧
    item.resource ≠ 0 ∧ item.resource ≤ header.resourceCount
  providers : ∀ index < header.resourceCount,
    (tables.resources.getD index emptyResource).provider ≤ header.serviceCount
  restarts : ∀ index < header.serviceCount, (tables.services.getD index emptyService).maxRestarts ≤ 64

section Native

variable {header : Header} {tables : Tables} {order : List Nat}

theorem checkRoot_eq_ok (real : header.rootServiceId ≠ 0) :
    checkRoot header tables = .ok () ↔ RootRule header tables := by
  unfold checkRoot
  simp only [check, demand_bind_eq_ok, demand_eq_ok, not_exists, not_and, not_not]
  constructor
  · rintro ⟨⟨listed, flags, restart⟩, alone, first⟩
    exact ⟨by omega, flags, restart, alone, first⟩
  · rintro ⟨listed, flags, restart, alone, first⟩
    exact ⟨⟨by omega, flags, restart⟩, alone, first⟩

theorem mem_strongEdges {edge : Nat × Nat} : edge ∈ strongEdges tables.dependencies ↔
    ∃ item ∈ tables.dependencies, item.kind = dependencyStrong ∧ (item.prerequisite - 1, item.dependent - 1) = edge := by
  simp only [strongEdges, mem_map, mem_filter, decide_eq_true_eq, and_assoc]

theorem checkReachable_eq_ok (numbered : Numbered header tables) : checkReachable header tables = .ok () ↔
    ∀ service ∈ serviceIds header.serviceCount, Relation.ReflTransGen (Strong tables) header.rootServiceId service := by
  have inside : ∀ edge ∈ strongEdges tables.dependencies, edge.2 ∈ range header.serviceCount := by
    intro edge member
    obtain ⟨item, listed, -, rfl⟩ := mem_strongEdges.mp member
    have bound := (numbered.dependencies item listed).1
    rw [mem_range]
    omega
  have start : ∀ other, reachableFlags.has
      (Function.update (fun _ => false) (header.rootServiceId - 1) true) other = true ↔
        other = header.rootServiceId - 1 := by
    intro other
    by_cases same : other = header.rootServiceId - 1
    · simp [reachableFlags, same]
    · simp [reachableFlags, same]
  have saturated := fun index => @Marking.saturate_iff _ _ reachableFlags (strongEdges tables.dependencies) _
    (range header.serviceCount) (header.rootServiceId - 1) index (header.serviceCount + 1) inside
    (by rw [length_range]; exact Nat.lt_succ_self _) start
  -- the flags are kept by index, and an index is one below the number of the service
  have shift : ∀ index, Relation.ReflTransGen (fun source target => (source, target) ∈ strongEdges tables.dependencies)
      (header.rootServiceId - 1) index ↔ Relation.ReflTransGen (Strong tables) header.rootServiceId (index + 1) := by
    intro index
    constructor
    · intro path
      have lifted : Relation.ReflTransGen (Strong tables) (header.rootServiceId - 1 + 1) (index + 1) := by
        refine Relation.ReflTransGen.lift (· + 1) ?_ _ _ path
        intro source target edge
        obtain ⟨item, listed, kind, same⟩ := mem_strongEdges.mp edge
        obtain ⟨rfl, rfl⟩ := Prod.mk.inj same
        obtain ⟨⟨dependent, -⟩, prerequisite, -⟩ := numbered.dependencies item listed
        exact ⟨item, listed, kind, (Nat.sub_add_cancel (Nat.pos_of_ne_zero prerequisite)).symm,
          (Nat.sub_add_cancel (Nat.pos_of_ne_zero dependent)).symm⟩
      rwa [Nat.sub_add_cancel (Nat.pos_of_ne_zero numbered.root)] at lifted
    · intro path
      refine Relation.ReflTransGen.lift (· - 1) ?_ _ _ path
      rintro _ _ ⟨item, listed, kind, rfl, rfl⟩
      exact mem_strongEdges.mpr ⟨item, listed, kind, rfl⟩
  unfold checkReachable
  rw [check, demand_eq_ok]
  constructor
  · intro all service member
    obtain ⟨real, bound⟩ := mem_serviceIds.mp member
    have path := (shift (service - 1)).mp ((saturated (service - 1)).mp (all (service - 1) (by omega)))
    rwa [Nat.sub_add_cancel real] at path
  · intro all index less
    exact (saturated index).mpr ((shift index).mpr (all (index + 1) (mem_serviceIds.mpr (by omega))))

section Budgets

theorem countHeld_snoc {scan : HeldScan} {held : List CapabilityMeta} {service : Nat} :
    ∀ {items : List CapabilityMeta}, (∀ item ∈ items, item.resource ≠ 0) →
      scan.heldCount = held.length → (∀ place, scan.resourceSeen place = true ↔ place + 1 ∈ held.map CapabilityMeta.resource) →
      scan.heldResources = (held.map CapabilityMeta.resource).toFinset.card →
      (items.foldl (countHeld service) scan).heldCount = (held ++ items.filter (·.holder = service)).length ∧
        (items.foldl (countHeld service) scan).heldResources =
          ((held ++ items.filter (·.holder = service)).map CapabilityMeta.resource).toFinset.card := by
  intro items
  induction items generalizing scan held with
  | nil =>
    intro _ length _ distinct
    rw [filter_nil, append_nil]
    exact ⟨length, distinct⟩
  | cons item rest ih =>
    intro real length seen distinct
    obtain ⟨some, more⟩ := forall_mem_cons.mp real
    rw [foldl_cons, filter_cons]
    by_cases holds : item.holder = service
    · have place : item.resource - 1 + 1 = item.resource := Nat.sub_add_cancel (Nat.pos_of_ne_zero some)
      have told := seen (item.resource - 1)
      rw [place] at told
      rw [if_pos (decide_eq_true holds), append_cons]
      have members : ((held ++ [item]).map CapabilityMeta.resource).toFinset =
          insert item.resource (held.map CapabilityMeta.resource).toFinset := by
        ext resource
        simp
      rw [countHeld, if_pos holds]
      dsimp only
      split
      · rename_i old
        refine ih more (by simp [length]) (fun other => ?_) ?_
        · rw [seen, map_append, mem_append]
          refine ⟨.inl, fun either => either.elim id fun single => ?_⟩
          rw [map_singleton, mem_singleton] at single
          rw [single]
          exact told.mp old
        · rw [members, Finset.insert_eq_of_mem (mem_toFinset.mpr (told.mp old))]
          exact distinct
      · rename_i fresh
        refine ih more (by simp [length]) (fun other => ?_) ?_
        · by_cases same : other = item.resource - 1
          · subst same
            simp [place]
          · dsimp only
            rw [Function.update_of_ne same, seen, map_append, mem_append, map_singleton,
              mem_singleton]
            exact ⟨.inl, fun either => either.resolve_right (by omega)⟩
        · rw [members, Finset.card_insert_of_notMem, distinct]
          rw [mem_toFinset]
          exact fun member => fresh (told.mpr member)
    · rw [if_neg (by simpa using holds), countHeld, if_neg holds]
      exact ih more length seen distinct

theorem countHeld_eq {service : Nat} (numbered : Numbered header tables) :
    (tables.capabilities.foldl (countHeld service) ⟨0, fun _ => false, 0⟩).heldCount =
        (tables.capabilities.filter (·.holder = service)).length ∧
      (tables.capabilities.foldl (countHeld service) ⟨0, fun _ => false, 0⟩).heldResources =
        ((tables.capabilities.filter (·.holder = service)).map CapabilityMeta.resource).toFinset.card :=
  @countHeld_snoc ⟨0, fun _ => false, 0⟩ [] service _ (fun item member => (numbered.capabilities item member).2.1) rfl
    (fun _ => by simp) rfl

theorem checkBudget_eq_ok {total next index : Nat} (numbered : Numbered header tables) :
    checkBudget header tables total index = .ok next ↔ (BudgetRule header tables index ∧
      total + (tables.services.getD index emptyService).maxRestarts < u32Values) ∧
        next = total + (tables.services.getD index emptyService).maxRestarts := by
  obtain ⟨count, resources⟩ := @countHeld_eq _ _ (index + 1) numbered
  unfold checkBudget
  simp only [check, demand_bind_eq_ok, pure_eq_ok, count, resources]
  constructor
  · rintro ⟨⟨held, different, incoming⟩, real, ⟨inside, endpoint⟩, small, same⟩
    exact ⟨⟨⟨held, different, incoming, ⟨real, by omega⟩, endpoint⟩, small⟩, same⟩
  · rintro ⟨⟨⟨held, different, incoming, ⟨real, inside⟩, endpoint⟩, small⟩, same⟩
    exact ⟨⟨held, different, incoming⟩, real, ⟨by omega, endpoint⟩, small, same⟩

theorem sum_succ (index : Nat) : ((range (index + 1)).map (fun index =>
    (tables.services.getD index emptyService).maxRestarts)).sum =
      ((range index).map (fun index => (tables.services.getD index emptyService).maxRestarts)).sum +
        (tables.services.getD index emptyService).maxRestarts := by
  rw [range_succ, map_append, sum_append]
  rfl

theorem Numbered.sum_le (numbered : Numbered header tables) : ∀ index ≤ header.serviceCount,
    ((range index).map (fun index => (tables.services.getD index emptyService).maxRestarts)).sum ≤ index * 64
  | 0, _ => Nat.zero_le _
  | index + 1, less => by
      have before := Numbered.sum_le numbered index (by omega)
      have now := numbered.restarts index (by omega)
      rw [sum_succ]
      omega

theorem ranksOf_eq (distinct : order.Nodup) (real : ∀ service ∈ order, service ≠ 0) {service : Nat}
    (member : service ∈ order) : ranksOf order (service - 1) = order.idxOf service := by
  have walk : ∀ (rest : List Nat) (start : Nat) (ranks : Nat → Nat), rest.Nodup → (∀ service ∈ rest, service ≠ 0) →
      ∀ service, service ≠ 0 →
      ((rest.zipIdx start).foldl (fun ranks (pair : Nat × Nat) => Function.update ranks (pair.1 - 1) pair.2) ranks)
        (service - 1) = if service ∈ rest then start + rest.idxOf service else ranks (service - 1) := by
    intro rest
    induction rest with
    | nil => exact fun _ _ _ _ _ _ => rfl
    | cons first rest ih =>
      intro start ranks distinct real service some
      obtain ⟨fresh, distinct⟩ := nodup_cons.mp distinct
      obtain ⟨positive, real⟩ := forall_mem_cons.mp real
      rw [zipIdx_cons, foldl_cons, ih _ _ distinct real service some]
      by_cases same : service = first
      · subst same
        simp [fresh]
      · have apart : service - 1 ≠ first - 1 := by omega
        have order : (first :: rest).idxOf service = rest.idxOf service + 1 := idxOf_cons_ne _ (Ne.symm same)
        by_cases later : service ∈ rest
        · rw [if_pos later, if_pos (mem_cons_of_mem _ later), order]
          omega
        · rw [if_neg later, if_neg (by simp [same, later]), Function.update_of_ne apart]
  have found := walk order 0 (fun _ => 0) distinct real service (real service member)
  rw [if_pos member, Nat.zero_add] at found
  exact found

end Budgets

section Routes

theorem hasDependency_eq_true {dependent prerequisite : Nat} :
    hasDependency tables.dependencies dependent prerequisite = true ↔ (dependent, prerequisite) ∈ tables.edges := by
  rw [hasDependency, any_eq_true, Tables.edges, mem_map]
  refine exists_congr fun item => and_congr_right fun _ => ?_
  rw [Bool.and_eq_true, beq_iff_eq, beq_iff_eq, DependencyMeta.edge, Prod.mk.injEq]

theorem checkRoute_eq_ok {capability : CapabilityMeta} (numbered : Numbered header tables)
    (perm : order.Perm (serviceIds header.serviceCount)) (member : capability ∈ tables.capabilities) :
    checkRoute tables (ranksOf order) capability = .ok () ↔ RouteRule tables order capability := by
  have distinct : order.Nodup := perm.nodup_iff.mpr (serviceIds_nodup _)
  have real : ∀ service ∈ order, service ≠ 0 := fun service listed =>
    Nat.pos_iff_ne_zero.mp (mem_serviceIds.mp (perm.mem_iff.mp listed)).1
  obtain ⟨⟨some, within⟩, resource, bound⟩ := numbered.capabilities capability member
  have holder : capability.holder ∈ order := perm.mem_iff.mpr (mem_serviceIds.mpr (by omega))
  have provided := numbered.providers (capability.resource - 1) (by omega)
  unfold checkRoute RouteRule
  dsimp only
  split
  · rename_i other
    have provider : (tables.resources.getD (capability.resource - 1) emptyResource).provider ∈ order :=
      perm.mem_iff.mpr (mem_serviceIds.mpr (by omega))
    rw [check, demand_bind_eq_ok, check, demand_eq_ok, ranksOf_eq distinct real holder, ranksOf_eq distinct real provider,
      hasDependency_eq_true]
    exact ⟨fun both _ _ => both, fun rule => rule other.1 other.2⟩
  · rename_i own
    exact ⟨fun _ some apart => absurd ⟨some, apart⟩ own, fun _ => rfl⟩

theorem checkBudgets_eq_ok (numbered : Numbered header tables) (perm : order.Perm (serviceIds header.serviceCount)) :
    checkBudgets header tables order = .ok () ↔ (∀ index < header.serviceCount, BudgetRule header tables index) ∧
      ((range header.serviceCount).map (fun index =>
        (tables.services.getD index emptyService).maxRestarts)).sum = header.maxTotalRestarts ∧
      ∀ capability ∈ tables.capabilities, RouteRule tables order capability := by
  have loop := fun last => @foldlM_range_closed _ _ (checkBudget header tables)
    (fun index => ((range index).map (fun index => (tables.services.getD index emptyService).maxRestarts)).sum) _
    header.serviceCount (fun index _ _ next => by
      rw [sum_succ]
      exact checkBudget_eq_ok numbered) last
  unfold checkBudgets
  rw [bind_eq_ok_iff]
  constructor
  · rintro ⟨total, ran, rest⟩
    obtain ⟨fits, rfl⟩ := (loop total).mp ran
    rw [check, demand_bind_eq_ok, forM_eq_ok] at rest
    exact ⟨fun index less => (fits index less).1, rest.1, fun capability member =>
      (checkRoute_eq_ok numbered perm member).mp (rest.2 capability member)⟩
  · rintro ⟨budgets, total, routes⟩
    refine ⟨_, (loop _).mpr ⟨fun index less => ⟨budgets index less, ?_⟩, rfl⟩, ?_⟩
    · have sum := numbered.sum_le (index + 1) less
      have most := numbered.count
      have few : (index + 1) * 64 < u32Values := by
        unfold maxServices at most
        unfold u32Values
        omega
      rw [sum_succ] at sum
      omega
    · rw [check, demand_bind_eq_ok, forM_eq_ok]
      exact ⟨total, fun capability member => (checkRoute_eq_ok numbered perm member).mpr (routes capability member)⟩

end Routes

/-- The system checks of the native parser, and the start order that they make. -/
theorem system_eq_ok {α : Type} {next : List Nat → Outcome Error α} {value : α} (numbered : Numbered header tables) :
    (checkRoot header tables >>= fun _ => makeStartOrder header tables >>= fun order =>
      checkReachable header tables >>= fun _ => checkBudgets header tables order >>= fun _ => next order) = .ok value ↔
    ∃ order, SystemRule header tables order ∧ next order = .ok value := by
  have real : ∀ item ∈ tables.dependencies, item.dependent ≠ 0 := fun item member => (numbered.dependencies item member).1.1
  have permuted : ∀ {order : List Nat} {rankOf : Nat → Nat}, Started header tables.edges rankOf order →
      order.Perm (serviceIds header.serviceCount) := fun started =>
    started.greedy.perm (by rw [started.length, serviceIds, length_range'])
  rw [unit_bind_eq_ok, checkRoot_eq_ok numbered.root, bind_eq_ok_iff]
  simp only [unit_bind_eq_ok, makeStartOrder_eq_ok real, checkReachable_eq_ok numbered]
  constructor
  · rintro ⟨root, order, ⟨available, started⟩, reachable, budgets, rest⟩
    obtain ⟨budgets, restarts, routes⟩ := (checkBudgets_eq_ok numbered (permuted started)).mp budgets
    exact ⟨order, ⟨root, available, started, reachable, budgets, restarts, routes⟩, rest⟩
  · rintro ⟨order, rule, rest⟩
    exact ⟨rule.root, order, ⟨rule.available, rule.started⟩, rule.reachable,
      (checkBudgets_eq_ok numbered (permuted rule.started)).mpr ⟨rule.budgets, rule.restarts, rule.routes⟩, rest⟩

end Native

section Whole

variable {sha : Sha256} {data strings blob : Bytes} {header : Header}

theorem TablesFit.numbered (fit : TablesFit sha data header strings blob) (counts : Counts header)
    (real : header.rootServiceId ≠ 0) : Numbered header (tablesOf data header) := by
  refine ⟨real, counts.services.2, ?_, ?_, ?_, ?_⟩
  · intro item member
    obtain ⟨index, less, rfl⟩ := mem_records.mp member
    exact ⟨(fit.dependencies index less).dependent, (fit.dependencies index less).prerequisite⟩
  · intro item member
    obtain ⟨index, less, rfl⟩ := mem_records.mp member
    obtain ⟨-, holder, held, resource, known, -⟩ := (fit.capabilities index less).fields
    exact ⟨⟨holder, held⟩, resource, known⟩
  · intro index less
    rw [tablesOf, records_getD less]
    exact (fit.resources index less).rule.fields.2.1
  · intro index less
    rw [tablesOf, records_getD less]
    have rule := (fit.services index less).rule
    by_cases never : (recordAt (header.services data) serviceBytes index).word 24 2 = restartNever
    · have none := (rule.never never).1
      change (recordAt (header.services data) serviceBytes index).word 32 4 ≤ 64
      omega
    · exact (rule.again never).1.2

/-- What the native parser answers for a bundle. -/
def bundleOf (data : Bytes) (header : Header) (order : List Nat) : Bundle where
  bundleVersion := header.bundleVersion
  minimumSecureVersion := header.minimumSecureVersion
  rootServiceId := header.rootServiceId
  allowedBootModes := header.allowedBootModes
  requiredKernelAbiMajor := header.kernelMajor
  minimumKernelAbiMinor := header.kernelMinor
  requiredPbpMajor := header.pbpMajor
  minimumPbpMinor := header.pbpMinor
  startTimeoutMs := header.startTimeoutMs
  rollbackTimeoutMs := header.rollbackTimeoutMs
  maxTotalRestarts := header.maxTotalRestarts
  componentCount := header.componentCount
  serviceCount := header.serviceCount
  dependencyCount := header.dependencyCount
  resourceCount := header.resourceCount
  capabilityCount := header.capabilityCount
  startOrder := order ++ List.replicate (maxServices - order.length) 0
  bodySha256 := header.bodySha256
  raw := data

/-- The strings and the blob of a bundle. -/
def stringsOf (data : Bytes) : Bytes := data.slice (data.word 88 4) (data.word 92 4)
def blobOf (data : Bytes) : Bytes := data.slice (data.word 96 4) (data.word 100 4)

/-- What the native parser accepts. -/
structure Accepted (sha : Sha256) (data : Bytes) (order : List Nat) : Prop where
  header : HeaderRule sha data
  tables : TablesFit sha data (headerOf data) (stringsOf data) (blobOf data)
  strings : stringsOf data = Oracle.canonicalStrings ((headerOf data).texts data (stringsOf data))
  entries : ∀ name ∈ (headerOf data).names data, AtEntry (stringsOf data) name
  system : SystemRule (headerOf data) (tablesOf data (headerOf data)) order

theorem parse_eq_ok {bundle : Bundle} : parse sha data = .ok bundle ↔
    ∃ order, Accepted sha data order ∧ bundle = bundleOf data (headerOf data) order := by
  unfold parse
  rw [bind_eq_ok_iff]
  simp only [parseHeader_eq_ok]
  constructor
  · rintro ⟨_, ⟨rule, rfl⟩, ran⟩
    rw [range_bind_eq_ok, range_bind_eq_ok, Nat.add_sub_cancel_left, Nat.add_sub_cancel_left, bind_eq_ok_iff] at ran
    obtain ⟨-, -, tables, parsed, ran⟩ := ran
    obtain ⟨fit, rfl⟩ := parseTables_eq_ok.mp parsed
    rw [unit_bind_eq_ok] at ran
    obtain ⟨strings, ran⟩ := ran
    obtain ⟨canonical, entries⟩ := (validateStringTable_eq_ok (fun name => fit.rule) fit.distinct).mp strings
    obtain ⟨order, system, same⟩ := (system_eq_ok (fit.numbered rule.counts rule.root)).mp ran
    exact ⟨order, ⟨rule, fit, canonical, entries, system⟩, pure_eq_ok.mp same⟩
  · rintro ⟨order, ⟨rule, fit, canonical, entries, system⟩, rfl⟩
    refine ⟨_, ⟨rule, rfl⟩, ?_⟩
    obtain ⟨before, inside⟩ := rule.placed.padding
    have whole := rule.placed.total
    rw [range_bind_eq_ok, range_bind_eq_ok, Nat.add_sub_cancel_left, Nat.add_sub_cancel_left, bind_eq_ok_iff]
    refine ⟨⟨Nat.le_add_right .., before.trans inside⟩, ⟨Nat.le_add_right .., Nat.le_of_eq whole⟩, _,
      parseTables_eq_ok.mpr ⟨fit, rfl⟩, ?_⟩
    rw [unit_bind_eq_ok]
    exact ⟨(validateStringTable_eq_ok (fun name => fit.rule) fit.distinct).mpr ⟨canonical, entries⟩,
      (system_eq_ok (fit.numbered rule.counts rule.root)).mpr ⟨order, system, rfl⟩⟩

end Whole

end PooleOS.InitSys
