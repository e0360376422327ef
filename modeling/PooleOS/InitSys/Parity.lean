import PooleOS.InitSys.Guarantees

/- Where the two parsers part. The oracle rebuilds the string table from the names that it
read, so that a name may also be read from inside another one; the native parser asks that
each name starts where a string of the table does. -/
namespace PooleOS.InitSys

open List Nat

theorem serviceIds_eq (count : Nat) : serviceIds count = (range count).map (· + 1) := by
  rw [serviceIds, range'_eq_map_range]
  exact map_congr_left fun index _ => add_comm 1 index

section Views

variable {data strings blob : Bytes} {header : Header}

theorem forall_records {α : Type} {made : Bytes → α} {part : Bytes} {size count : Nat} {fact : α → Prop} :
    (∀ item ∈ records size made part count, fact item) ↔ ∀ index < count, fact (made (recordAt part size index)) := by
  constructor
  · exact fun all index less => all _ (mem_records.mpr ⟨index, less, rfl⟩)
  · intro all item member
    obtain ⟨index, less, rfl⟩ := mem_records.mp member
    exact all index less

/-- The record of a service, with its name. -/
def Oracle.serviceAt (data strings : Bytes) (header : Header) (index : Nat) : Oracle.Service :=
  Oracle.serviceOf (recordAt (header.services data) serviceBytes index)
    ((nameOf (recordAt (header.services data) serviceBytes index)).text strings)

theorem services_length : (Oracle.tablesOf data header strings blob).services.length = header.serviceCount := by
  rw [Oracle.tablesOf, records_length]

theorem service_getD {index : Nat} (less : index < header.serviceCount) :
    (Oracle.tablesOf data header strings blob).services.getD index Oracle.emptyService =
      Oracle.serviceAt data strings header index := by
  rw [Oracle.tablesOf, records_getD less]
  rfl

theorem meta_getD {index : Nat} (less : index < header.serviceCount) :
    (tablesOf data header).services.getD index emptyService =
      serviceMetaOf (recordAt (header.services data) serviceBytes index) := by
  rw [tablesOf, records_getD less]

theorem forall_services {fact : Oracle.Service → Prop} :
    (∀ item ∈ (Oracle.tablesOf data header strings blob).services, fact item) ↔
      ∀ index < header.serviceCount, fact (Oracle.serviceAt data strings header index) := by
  rw [Oracle.tablesOf, forall_records]
  rfl

theorem forall_dependencies {fact : Oracle.Dependency → Prop} :
    (∀ item ∈ (Oracle.tablesOf data header strings blob).dependencies, fact item) ↔
      ∀ item ∈ (tablesOf data header).dependencies, fact ⟨item.dependent, item.prerequisite, item.kind⟩ := by
  rw [Oracle.tablesOf, tablesOf, forall_records, forall_records]
  rfl

theorem resource_getD {index : Nat} (less : index < header.resourceCount) :
    ((tablesOf data header).resources.getD index emptyResource).kind =
        ((Oracle.tablesOf data header strings blob).resources.getD index Oracle.emptyResource).kind ∧
      ((tablesOf data header).resources.getD index emptyResource).provider =
        ((Oracle.tablesOf data header strings blob).resources.getD index Oracle.emptyResource).providerServiceId := by
  rw [tablesOf, Oracle.tablesOf, records_getD less, records_getD less]
  exact ⟨rfl, rfl⟩

/-- What the native parser keeps of a capability and of a dependency. -/
def Oracle.Capability.kept (item : Oracle.Capability) : CapabilityMeta where
  holder := item.holderServiceId
  resource := item.resourceId
  rights := item.rights
  flags := item.flags
  revokeGroup := item.revokeGroup
  availability := item.availability

def Oracle.Dependency.kept (item : Oracle.Dependency) : DependencyMeta :=
  ⟨item.dependentServiceId, item.prerequisiteServiceId, item.kind⟩

theorem capabilities_kept : (tablesOf data header).capabilities =
    (Oracle.tablesOf data header strings blob).capabilities.map Oracle.Capability.kept := by
  rw [tablesOf, Oracle.tablesOf, records_map]
  rfl

theorem dependencies_kept : (tablesOf data header).dependencies =
    (Oracle.tablesOf data header strings blob).dependencies.map Oracle.Dependency.kept := by
  rw [tablesOf, Oracle.tablesOf, records_map]
  rfl

theorem oracle_edges : (Oracle.tablesOf data header strings blob).dependencies.map Oracle.Dependency.edge =
    (tablesOf data header).edges := by
  rw [Oracle.tablesOf, Tables.edges, tablesOf, records_map, records_map]
  rfl

end Views

section System

variable {sha : Sha256} {data strings blob : Bytes} {header : Header} {order : List Nat}

section

variable (fit : TablesFit sha data header strings blob)
include fit

theorem TablesFit.service_id {index : Nat}
    (less : index < header.serviceCount) : (Oracle.serviceAt data strings header index).serviceId = index + 1 :=
  (fit.services index less).rule.fields.1

theorem TablesFit.service_ids :
    (Oracle.tablesOf data header strings blob).services.map Oracle.Service.serviceId = serviceIds header.serviceCount := by
  rw [Oracle.tablesOf, records_map, serviceIds_eq]
  exact map_congr_left fun index member => fit.service_id (mem_range.mp member)

theorem oracle_checkRoot_eq_ok (real : header.rootServiceId ≠ 0) :
    Oracle.checkRoot header (Oracle.tablesOf data header strings blob) = .ok () ↔
      RootRule header (tablesOf data header) := by
  unfold Oracle.checkRoot
  simp only [Oracle.check, demand_bind_eq_ok, demand_eq_ok, not_exists, not_and, not_not, services_length]
  have place : header.rootServiceId ≤ header.serviceCount → header.rootServiceId - 1 < header.serviceCount := by omega
  have number : header.rootServiceId - 1 + 1 = header.rootServiceId := Nat.sub_add_cancel (Nat.pos_of_ne_zero real)
  constructor
  · rintro ⟨listed, ⟨flags, restart⟩, alone, first⟩
    rw [service_getD (place listed)] at flags restart alone first
    rw [fit.service_id (place listed), number] at alone first
    refine ⟨listed, ?_, ?_, fun index less other => ?_, forall_dependencies.mp first⟩
    · rw [meta_getD (place listed)]
      exact flags
    · rw [meta_getD (place listed)]
      exact restart
    · rw [meta_getD less]
      refine forall_services.mp alone index less ?_
      rw [fit.service_id less]
      omega
  · rintro ⟨listed, flags, restart, alone, first⟩
    rw [meta_getD (place listed)] at flags restart
    rw [service_getD (place listed), fit.service_id (place listed), number]
    refine ⟨listed, ⟨flags, restart⟩, forall_services.mpr fun index less other => ?_, forall_dependencies.mpr first⟩
    rw [fit.service_id less] at other
    have rest := alone index less (by omega)
    rw [meta_getD less] at rest
    exact rest

theorem oracle_makeStartOrder_eq_ok :
    Oracle.makeStartOrder (Oracle.tablesOf data header strings blob) = .ok order ↔
      Started header (tablesOf data header).edges
        (fun service => ((tablesOf data header).services.getD (service - 1) emptyService).startupRank) order := by
  unfold Oracle.makeStartOrder
  rw [fit.service_ids, bind_eq_ok_iff]
  simp only [Oracle.topologicalOrder_eq_ok, oracle_edges, Oracle.check, demand_bind_eq_ok, pure_eq_ok]
  have items : (serviceIds header.serviceCount).length = header.serviceCount := length_range'
  constructor
  · rintro ⟨_, ⟨greedy, length⟩, ranked, rfl⟩
    refine ⟨greedy, length, fun rank service found => ?_⟩
    obtain ⟨inside, same⟩ := List.getElem?_eq_some_iff.mp found
    obtain ⟨some, bound⟩ := mem_serviceIds.mp (greedy.subset (mem_of_getElem? found))
    have rule := forall_services.mp ranked (service - 1) (by omega)
    rw [fit.service_id (by omega), Nat.sub_add_cancel some, ← same, greedy.nodup.idxOf_getElem] at rule
    rw [meta_getD (by omega), ← same]
    exact rule
  · rintro ⟨greedy, length, ranked⟩
    refine ⟨order, ⟨greedy, length⟩, forall_services.mpr fun index less => ?_, rfl⟩
    have member : index + 1 ∈ order :=
      (greedy.perm (length.trans items.symm)).mem_iff.mpr (mem_serviceIds.mpr (by omega))
    have rule := ranked (order.idxOf (index + 1)) (index + 1) (getElem?_idxOf member)
    rw [Nat.add_sub_cancel, meta_getD less] at rule
    rw [fit.service_id less]
    exact rule

theorem oracle_checkReachable_eq_ok
    (numbered : Numbered header (tablesOf data header)) (listed : header.rootServiceId ≤ header.serviceCount) :
    Oracle.checkReachable header (Oracle.tablesOf data header strings blob) = .ok () ↔
      ∀ service ∈ serviceIds header.serviceCount,
        Relation.ReflTransGen (Strong (tablesOf data header)) header.rootServiceId service := by
  have number : header.rootServiceId - 1 + 1 = header.rootServiceId :=
    Nat.sub_add_cancel (Nat.pos_of_ne_zero numbered.root)
  have place : header.rootServiceId - 1 < header.serviceCount := by
    omega
  have edge : ∀ source target, (source, target) ∈ Oracle.strongEdges
      (Oracle.tablesOf data header strings blob).dependencies ↔ Strong (tablesOf data header) source target := by
    intro source target
    simp only [Oracle.strongEdges, mem_map, mem_filter, decide_eq_true_eq, Prod.mk.injEq, Strong]
    constructor
    · rintro ⟨item, ⟨member, kind⟩, same⟩
      obtain ⟨index, less, rfl⟩ := mem_records.mp member
      exact ⟨_, mem_records.mpr ⟨index, less, rfl⟩, kind, same⟩
    · rintro ⟨item, member, kind, same⟩
      obtain ⟨index, less, rfl⟩ := mem_records.mp member
      exact ⟨_, ⟨mem_records.mpr ⟨index, less, rfl⟩, kind⟩, same⟩
  have inside : ∀ edge ∈ Oracle.strongEdges (Oracle.tablesOf data header strings blob).dependencies,
      edge.2 ∈ serviceIds header.serviceCount := by
    rintro ⟨source, target⟩ member
    obtain ⟨item, held, -, -, rfl⟩ := (edge source target).mp member
    have bound := (numbered.dependencies item held).1
    exact mem_serviceIds.mpr ⟨pos_of_ne_zero bound.1, bound.2⟩
  have saturated := fun service => @Marking.saturate_iff _ _ Oracle.reachableSet
    (Oracle.strongEdges (Oracle.tablesOf data header strings blob).dependencies) [header.rootServiceId]
    (serviceIds header.serviceCount) header.rootServiceId service (header.serviceCount + 1) inside
    (by rw [serviceIds, length_range']; exact lt_succ_self _)
    (fun other => by simp [Oracle.reachableSet])
  have path : ∀ service, service ∈ Oracle.reachableSet.saturate
      (Oracle.strongEdges (Oracle.tablesOf data header strings blob).dependencies) (header.serviceCount + 1)
      [header.rootServiceId] ↔ Relation.ReflTransGen (Strong (tablesOf data header)) header.rootServiceId service := by
    intro service
    have same : (fun source target => (source, target) ∈ Oracle.strongEdges
        (Oracle.tablesOf data header strings blob).dependencies) = Strong (tablesOf data header) :=
      funext fun source => funext fun target => propext (edge source target)
    rw [← same, ← saturated service]
    exact (decide_eq_true_iff).symm
  -- nothing but a service is ever marked
  have only : ∀ service, Relation.ReflTransGen (Strong (tablesOf data header)) header.rootServiceId service →
      service ∈ serviceIds header.serviceCount := by
    intro service reached
    rcases Relation.ReflTransGen.cases_tail reached with root | ⟨before, -, item, held, -, -, rfl⟩
    · rw [root]
      exact mem_serviceIds.mpr ⟨pos_of_ne_zero numbered.root, listed⟩
    · have bound := (numbered.dependencies item held).1
      exact mem_serviceIds.mpr ⟨pos_of_ne_zero bound.1, bound.2⟩
  unfold Oracle.checkReachable
  simp only [Oracle.check, demand_eq_ok, service_getD place, fit.service_id place, number, services_length,
    fit.service_ids, path]
  exact ⟨fun both => both.2, fun all => ⟨only, all⟩⟩

end

theorem oracle_checkAvailability_eq_ok (numbered : Numbered header (tablesOf data header)) :
    (Oracle.tablesOf data header strings blob).dependencies.forM
        (Oracle.checkAvailability (Oracle.tablesOf data header strings blob)) = .ok () ↔
      ∀ item ∈ (tablesOf data header).dependencies, Available (tablesOf data header).services item := by
  rw [forM_eq_ok, forall_dependencies]
  refine forall₂_congr fun item member => ?_
  obtain ⟨⟨dependent, below⟩, prerequisite, bound⟩ := numbered.dependencies item member
  unfold Oracle.checkAvailability Available
  rw [Oracle.check, demand_eq_ok]
  dsimp only
  rw [service_getD (by omega), service_getD (by omega), meta_getD (by omega), meta_getD (by omega)]
  rfl

theorem oracle_checkBudget_eq_ok (fit : TablesFit sha data header strings blob) {index : Nat}
    (less : index < header.serviceCount) :
    Oracle.checkBudget (Oracle.tablesOf data header strings blob) (Oracle.serviceAt data strings header index) = .ok () ↔
      BudgetRule header (tablesOf data header) index := by
  have ids : ∀ resource, resource ∈ (Oracle.tablesOf data header strings blob).resources.map Oracle.Resource.resourceId ↔
      1 ≤ resource ∧ resource ≤ header.resourceCount := by
    intro resource
    rw [Oracle.tablesOf, records_map, mem_records]
    constructor
    · rintro ⟨place, inside, rfl⟩
      have own := (fit.resources place inside).rule.fields.1
      change 1 ≤ (recordAt (header.resources data) resourceBytes place).word 0 4 ∧
        (recordAt (header.resources data) resourceBytes place).word 0 4 ≤ header.resourceCount
      omega
    · rintro ⟨some, bound⟩
      refine ⟨resource - 1, by omega, ?_⟩
      exact ((fit.resources (resource - 1) (by omega)).rule.fields.1).trans (Nat.sub_add_cancel some)
  have held : (((tablesOf data header).capabilities.filter (·.holder = index + 1)).map CapabilityMeta.resource) =
      (((Oracle.tablesOf data header strings blob).capabilities.filter (·.holderServiceId = index + 1)).map
        Oracle.Capability.resourceId) := by
    rw [capabilities_kept, filter_map, map_map]
    rfl
  have count : ((tablesOf data header).capabilities.filter (·.holder = index + 1)).length =
      ((Oracle.tablesOf data header strings blob).capabilities.filter (·.holderServiceId = index + 1)).length := by
    rw [capabilities_kept, filter_map, length_map]
    rfl
  have incoming : ((tablesOf data header).dependencies.filter (·.dependent = index + 1)).length =
      ((Oracle.tablesOf data header strings blob).dependencies.filter (·.dependentServiceId = index + 1)).length := by
    rw [dependencies_kept, filter_map, length_map]
    rfl
  unfold Oracle.checkBudget
  simp only [Oracle.check, demand_bind_eq_ok, demand_eq_ok, fit.service_id less, Prod.mk.injEq, ids]
  constructor
  · rintro ⟨⟨capabilities, resources, dependencies⟩, ⟨some, bound⟩, endpoint⟩
    constructor
    · rw [meta_getD less, count]
      exact capabilities
    · rw [meta_getD less, held, card_toFinset]
      exact resources
    · rw [meta_getD less, incoming]
      exact dependencies
    · rw [meta_getD less]
      exact ⟨pos_iff_ne_zero.mp some, bound⟩
    · rw [meta_getD less]
      refine (resource_getD ?_).1.trans endpoint
      exact lt_of_lt_of_le (sub_one_lt (pos_iff_ne_zero.mp some)) bound
  · rintro ⟨capabilities, resources, dependencies, ready, endpoint⟩
    rw [meta_getD less] at capabilities resources dependencies ready endpoint
    rw [count] at capabilities
    rw [held, card_toFinset] at resources
    rw [incoming] at dependencies
    refine ⟨⟨capabilities, resources, dependencies⟩, ⟨pos_of_ne_zero ready.1, ready.2⟩, ?_⟩
    refine Eq.trans (resource_getD ?_).1.symm endpoint
    exact lt_of_lt_of_le (sub_one_lt ready.1) ready.2

theorem oracle_checkRoute_eq_ok (numbered : Numbered header (tablesOf data header)) :
    (Oracle.tablesOf data header strings blob).capabilities.forM
        (Oracle.checkRoute (Oracle.tablesOf data header strings blob) order.idxOf) = .ok () ↔
      ∀ capability ∈ (tablesOf data header).capabilities, RouteRule (tablesOf data header) order capability := by
  have pairs : (Oracle.tablesOf data header strings blob).dependencies.map
      (fun item => (item.dependentServiceId, item.prerequisiteServiceId)) = (tablesOf data header).edges := oracle_edges
  rw [forM_eq_ok, capabilities_kept, forall_mem_map]
  refine forall₂_congr fun capability member => ?_
  have kept := mem_map_of_mem (f := Oracle.Capability.kept) member
  rw [← capabilities_kept] at kept
  obtain ⟨-, some, bound⟩ := numbered.capabilities _ kept
  have place : capability.resourceId - 1 < header.resourceCount := lt_of_lt_of_le (sub_one_lt some) bound
  have provider := (@resource_getD data strings blob _ _ place).2
  unfold Oracle.checkRoute RouteRule
  change _ ↔ (((tablesOf data header).resources.getD (capability.resourceId - 1) emptyResource).provider ≠ 0 →
    ((tablesOf data header).resources.getD (capability.resourceId - 1) emptyResource).provider ≠
      capability.holderServiceId →
    (capability.holderServiceId, ((tablesOf data header).resources.getD (capability.resourceId - 1)
        emptyResource).provider) ∈ (tablesOf data header).edges ∧
      order.idxOf ((tablesOf data header).resources.getD (capability.resourceId - 1) emptyResource).provider <
        order.idxOf capability.holderServiceId)
  rw [provider, pairs]
  dsimp only
  split
  · rename_i other
    rw [Oracle.check, demand_eq_ok]
    exact ⟨fun both _ _ => both, fun rule => rule other.1 other.2⟩
  · rename_i own
    exact ⟨fun _ some apart => absurd ⟨some, apart⟩ own, fun _ => rfl⟩

theorem oracle_restarts : ((Oracle.tablesOf data header strings blob).services.map Oracle.Service.maxRestarts).sum =
    ((range header.serviceCount).map (fun index =>
      ((tablesOf data header).services.getD index emptyService).maxRestarts)).sum := by
  rw [Oracle.tablesOf, records_map, records]
  congr 1
  refine map_congr_left fun index member => ?_
  rw [meta_getD (mem_range.mp member)]
  rfl

/-- The system checks of the oracle. -/
theorem oracle_system_eq_ok {α : Type} {next : List Nat → Except Error α} {value : α} {tables : Oracle.Tables}
    (shown : tables = Oracle.tablesOf data header strings blob) (fit : TablesFit sha data header strings blob)
    (numbered : Numbered header (tablesOf data header)) :
    (Oracle.checkRoot header tables >>= fun _ => Oracle.makeStartOrder tables >>= fun order =>
      Oracle.checkReachable header tables >>= fun _ =>
      tables.dependencies.forM (Oracle.checkAvailability tables) >>= fun _ =>
      tables.services.forM (Oracle.checkBudget tables) >>= fun _ =>
      tables.capabilities.forM (Oracle.checkRoute tables order.idxOf) >>= fun _ =>
      Oracle.check ((tables.services.map Oracle.Service.maxRestarts).sum = header.maxTotalRestarts) .lifecycle >>=
        fun _ => next order) = .ok value ↔ ∃ order, SystemRule header (tablesOf data header) order ∧ next order = .ok value := by
  have budgets : tables.services.forM (Oracle.checkBudget tables) = .ok () ↔
      ∀ index < header.serviceCount, BudgetRule header (tablesOf data header) index := by
    rw [shown, forM_eq_ok, forall_services]
    exact forall₂_congr fun index less => oracle_checkBudget_eq_ok fit less
  subst shown
  rw [unit_bind_eq_ok, oracle_checkRoot_eq_ok fit numbered.root, bind_eq_ok_iff]
  simp only [unit_bind_eq_ok, oracle_makeStartOrder_eq_ok fit, oracle_checkAvailability_eq_ok numbered, budgets,
    oracle_checkRoute_eq_ok numbered, Oracle.check, demand_eq_ok, oracle_restarts]
  constructor
  · rintro ⟨root, order, started, reachable, available, budgets, routes, restarts, rest⟩
    rw [oracle_checkReachable_eq_ok fit numbered root.listed] at reachable
    exact ⟨order, ⟨root, available, started, reachable, budgets, restarts, routes⟩, rest⟩
  · rintro ⟨order, rule, rest⟩
    exact ⟨rule.root, order, rule.started, (oracle_checkReachable_eq_ok fit numbered rule.root.listed).mpr rule.reachable,
      rule.available, rule.budgets, rule.routes, rule.restarts, rest⟩

end System

section Whole

variable {sha : Sha256} {data : Bytes} {order : List Nat}

/-- What the oracle answers for a bundle. -/
def Oracle.bundleOf (data : Bytes) (header : Header) (strings blob : Bytes) (order : List Nat) : Oracle.Bundle where
  bundleVersion := header.bundleVersion
  minimumSecureVersion := header.minimumSecureVersion
  rootServiceId := header.rootServiceId
  allowedBootModes := header.allowedBootModes
  requiredKernelAbiMajor := header.kernelMajor
  minimumKernelAbiMinor := header.kernelMinor
  requiredPbpMajor := header.pbpMajor
  minimumPbpMinor := header.pbpMinor
  startTimeoutMs := header.startTimeoutMs
  rollbackTimeoutMs := header.rollbackTimeoutMs
  maxTotalRestarts := header.maxTotalRestarts
  components := (Oracle.tablesOf data header strings blob).components
  services := (Oracle.tablesOf data header strings blob).services
  dependencies := (Oracle.tablesOf data header strings blob).dependencies
  resources := (Oracle.tablesOf data header strings blob).resources
  capabilities := (Oracle.tablesOf data header strings blob).capabilities
  startOrder := order
  bodySha256 := header.bodySha256
  raw := data

/-- What both parsers ask of a bundle. -/
structure Valid (sha : Sha256) (data : Bytes) (order : List Nat) : Prop where
  header : HeaderRule sha data
  tables : TablesFit sha data (headerOf data) (stringsOf data) (blobOf data)
  strings : stringsOf data = Oracle.canonicalStrings ((headerOf data).texts data (stringsOf data))
  system : SystemRule (headerOf data) (tablesOf data (headerOf data)) order

theorem accepted_iff : Accepted sha data order ↔
    Valid sha data order ∧ ∀ name ∈ (headerOf data).names data, AtEntry (stringsOf data) name :=
  ⟨fun all => ⟨⟨all.header, all.tables, all.strings, all.system⟩, all.entries⟩,
    fun both => ⟨both.1.header, both.1.tables, both.1.strings, both.2, both.1.system⟩⟩

theorem oracle_parse_eq_ok {bundle : Oracle.Bundle} : Oracle.parse sha data = .ok bundle ↔
    ∃ order, Valid sha data order ∧
      bundle = Oracle.bundleOf data (headerOf data) (stringsOf data) (blobOf data) order := by
  unfold Oracle.parse
  rw [bind_eq_ok_iff]
  simp only [oracle_parseHeader_eq_ok]
  constructor
  · rintro ⟨_, ⟨rule, rfl⟩, ran⟩
    rw [bind_eq_ok_iff] at ran
    obtain ⟨tables, parsed, ran⟩ := ran
    obtain ⟨fit, rfl⟩ := oracle_parseTables_eq_ok.mp parsed
    rw [Oracle.check, demand_bind_eq_ok] at ran
    obtain ⟨canonical, ran⟩ := ran
    obtain ⟨order, system, same⟩ := (oracle_system_eq_ok rfl fit (fit.numbered rule.counts rule.root)).mp ran
    exact ⟨order, ⟨rule, fit, canonical, system⟩, pure_eq_ok.mp same⟩
  · rintro ⟨order, ⟨rule, fit, canonical, system⟩, rfl⟩
    refine ⟨_, ⟨rule, rfl⟩, ?_⟩
    rw [bind_eq_ok_iff]
    refine ⟨_, oracle_parseTables_eq_ok.mpr ⟨fit, rfl⟩, ?_⟩
    rw [Oracle.check, demand_bind_eq_ok]
    exact ⟨canonical, (oracle_system_eq_ok rfl fit (fit.numbered rule.counts rule.root)).mpr ⟨order, system, rfl⟩⟩

/-- The native bundle and the oracle's say the same. -/
structure Same (native : Bundle) (oracle : Oracle.Bundle) : Prop where
  bundleVersion : native.bundleVersion = oracle.bundleVersion
  minimumSecureVersion : native.minimumSecureVersion = oracle.minimumSecureVersion
  kernelAbi : native.requiredKernelAbiMajor = oracle.requiredKernelAbiMajor ∧
    native.minimumKernelAbiMinor = oracle.minimumKernelAbiMinor
  pbp : native.requiredPbpMajor = oracle.requiredPbpMajor ∧ native.minimumPbpMinor = oracle.minimumPbpMinor
  componentCount : native.componentCount = oracle.components.length
  serviceCount : native.serviceCount = oracle.services.length
  dependencyCount : native.dependencyCount = oracle.dependencies.length
  resourceCount : native.resourceCount = oracle.resources.length
  capabilityCount : native.capabilityCount = oracle.capabilities.length
  rootServiceId : native.rootServiceId = oracle.rootServiceId
  allowedBootModes : native.allowedBootModes = oracle.allowedBootModes
  startTimeoutMs : native.startTimeoutMs = oracle.startTimeoutMs
  rollbackTimeoutMs : native.rollbackTimeoutMs = oracle.rollbackTimeoutMs
  maxTotalRestarts : native.maxTotalRestarts = oracle.maxTotalRestarts
  startOrder : native.startOrder = oracle.startOrder ++ List.replicate (maxServices - oracle.startOrder.length) 0

/-- There is one start order. -/
theorem Valid.unique {other : List Nat} (valid : Valid sha data order) (again : Valid sha data other) : order = other :=
  valid.system.started.greedy.unique again.system.started.greedy
    (valid.system.started.length.trans again.system.started.length.symm)

theorem same_bundle (header : Header) (strings blob : Bytes) :
    Same (bundleOf data header order) (Oracle.bundleOf data header strings blob order) where
  bundleVersion := rfl
  minimumSecureVersion := rfl
  kernelAbi := ⟨rfl, rfl⟩
  pbp := ⟨rfl, rfl⟩
  componentCount := by rw [Oracle.bundleOf, Oracle.tablesOf, records_length, bundleOf]
  serviceCount := by rw [Oracle.bundleOf, Oracle.tablesOf, records_length, bundleOf]
  dependencyCount := by rw [Oracle.bundleOf, Oracle.tablesOf, records_length, bundleOf]
  resourceCount := by rw [Oracle.bundleOf, Oracle.tablesOf, records_length, bundleOf]
  capabilityCount := by rw [Oracle.bundleOf, Oracle.tablesOf, records_length, bundleOf]
  rootServiceId := rfl
  allowedBootModes := rfl
  startTimeoutMs := rfl
  rollbackTimeoutMs := rfl
  maxTotalRestarts := rfl
  startOrder := rfl

/-- Both parsers accept the same bundle, or both refuse. -/
structure Agree (sha : Sha256) (data : Bytes) : Prop where
  accept : (∃ bundle, parse sha data = .ok bundle) ↔ ∃ bundle, Oracle.parse sha data = .ok bundle
  same : ∀ native oracle, parse sha data = .ok native → Oracle.parse sha data = .ok oracle → Same native oracle

/-- A bundle that is valid but for a name that starts inside another one. -/
def Misplaced (sha : Sha256) (data : Bytes) : Prop :=
  (∃ order, Valid sha data order) ∧ ∃ name ∈ (headerOf data).names data, ¬ AtEntry (stringsOf data) name

/-- The parsers agree exactly where no name is misplaced. -/
theorem parsers_agree (sha : Sha256) (data : Bytes) : Agree sha data ↔ ¬ Misplaced sha data := by
  constructor
  · rintro agree ⟨⟨order, valid⟩, name, member, inside⟩
    obtain ⟨bundle, parsed⟩ := agree.accept.mpr ⟨_, oracle_parse_eq_ok.mpr ⟨order, valid, rfl⟩⟩
    obtain ⟨_, accepted, -⟩ := parse_eq_ok.mp parsed
    exact inside (accepted.entries name member)
  · intro placed
    refine ⟨⟨?_, ?_⟩, ?_⟩
    · rintro ⟨bundle, parsed⟩
      obtain ⟨order, accepted, -⟩ := parse_eq_ok.mp parsed
      exact ⟨_, oracle_parse_eq_ok.mpr ⟨order, (accepted_iff.mp accepted).1, rfl⟩⟩
    · rintro ⟨bundle, parsed⟩
      obtain ⟨order, valid, -⟩ := oracle_parse_eq_ok.mp parsed
      refine ⟨_, parse_eq_ok.mpr ⟨order, accepted_iff.mpr ⟨valid, fun name member => ?_⟩, rfl⟩⟩
      by_contra inside
      exact placed ⟨⟨order, valid⟩, name, member, inside⟩
    · intro native oracle one two
      obtain ⟨order, accepted, rfl⟩ := parse_eq_ok.mp one
      obtain ⟨other, valid, rfl⟩ := oracle_parse_eq_ok.mp two
      obtain rfl := (accepted_iff.mp accepted).1.unique valid
      exact same_bundle ..

/-- The component is named `b`, and the name is read from the end of `ab`. -/
theorem misplaced_name_disagrees : ¬ Agree sampleSha (sampleBundle 1 misplacedDigest) := by
  intro agree
  have refused : parse sampleSha (sampleBundle 1 misplacedDigest) = .error (.refused .stringTable) := by decide +kernel
  have read : (Oracle.parse sampleSha (sampleBundle 1 misplacedDigest)).toBool = true := by decide +kernel
  cases parsed : Oracle.parse sampleSha (sampleBundle 1 misplacedDigest) with
  | error reason =>
    rw [parsed] at read
    exact nomatch read
  | ok bundle =>
    obtain ⟨native, accepted⟩ := agree.accept.mpr ⟨bundle, parsed⟩
    rw [refused] at accepted
    exact nomatch accepted

end Whole

end PooleOS.InitSys
