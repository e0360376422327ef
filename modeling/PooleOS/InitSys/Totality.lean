import PooleOS.InitSys.StrictSystem
import PooleOS.InitSys.Guarantees

/- When the native parser panics. A service that is ready at once may name no resource that tells so,
and the number of that resource is then one below zero. -/
namespace PooleOS.InitSys

section Returns

variable {sha : Sha256} {data strings blob : Bytes} {header : Header} {tables : Tables} {names : List NameRef}

theorem parseHeader_returns : Returns (parseHeader sha data) := by
  unfold parseHeader
  simp

theorem nameRef_returns {offset count : Nat} : Returns (nameRef strings offset count) := by
  unfold nameRef
  simp

theorem pushName_returns {name : NameRef} : Returns (pushName names name strings) := by
  unfold pushName
  simp

theorem table_returns {offset count size : Nat} : Returns (table data offset count size) := by
  unfold table
  simp

theorem parseComponents_returns : Returns (parseComponents sha data header strings blob) := by
  unfold parseComponents
  have each : ∀ part scan index, Returns (parseComponent sha strings blob part scan index) := by
    unfold parseComponent checkComponentKind
    simp [nameRef_returns, pushName_returns]
  simp [table_returns, returns_foldlM (each _)]

theorem parseServices_returns {kinds : List Nat} : Returns (parseServices data header kinds strings names) := by
  unfold parseServices
  have each : ∀ part scan index, Returns (parseService header kinds strings part scan index) := by
    unfold parseService checkService
    simp [nameRef_returns, pushName_returns]
  simp [table_returns, returns_foldlM (each _)]

theorem parseDependencies_returns : Returns (parseDependencies data header) := by
  unfold parseDependencies
  have each : ∀ part scan index, Returns (parseDependency header part scan index) := by
    unfold parseDependency
    simp
  simp [table_returns, returns_foldlM (each _)]

theorem parseResources_returns : Returns (parseResources data header strings names) := by
  unfold parseResources
  have each : ∀ part scan index, Returns (parseResource header strings part scan index) := by
    unfold parseResource checkResource
    simp [nameRef_returns, pushName_returns]
  simp [table_returns, returns_foldlM (each _)]

theorem parseCapabilities_returns {resources : List ResourceMeta} :
    Returns (parseCapabilities data header resources) := by
  unfold parseCapabilities
  have each : ∀ part scan index, Returns (parseCapability header resources part scan index) := by
    unfold parseCapability checkSource checkParent
    simp
  simp [table_returns, returns_foldlM (each _)]

theorem parseTables_returns : Returns (parseTables sha data header strings blob) := by
  unfold parseTables
  simp [parseComponents_returns, parseServices_returns, parseDependencies_returns, parseResources_returns,
    parseCapabilities_returns]

theorem validateStringTable_returns : Returns (validateStringTable names strings) := by
  unfold validateStringTable
  simp [returns_foldlM]

theorem checkRoot_returns : Returns (checkRoot header tables) := by
  unfold checkRoot
  simp

theorem makeStartOrder_returns : Returns (makeStartOrder header tables) := by
  have count : ∀ indegree item, Returns (countDependency tables.services indegree item) := by
    unfold countDependency
    simp
  have released : ∀ serviceId indegree item, Returns (release serviceId indegree item) := by
    unfold release
    simp
  have next : ∀ scan rank, Returns (startNext header tables scan rank) := by
    unfold startNext
    simp [returns_foldlM (released _)]
  unfold makeStartOrder
  simp [returns_foldlM count, returns_foldlM next]

theorem checkReachable_returns : Returns (checkReachable header tables) := by
  unfold checkReachable
  simp

theorem checkRoute_returns {ranks : Nat → Nat} {capability : CapabilityMeta} :
    Returns (checkRoute tables ranks capability) := by
  unfold checkRoute
  simp

end Returns

section Budgets

variable {header : Header} {tables : Tables} {order : List Nat} {index total : Nat}

/-- A service holds what its record says. -/
structure HeldRule (header : Header) (tables : Tables) (index : Nat) : Prop where
  capabilities : (tables.services.getD index emptyService).capabilityCount =
    (tables.capabilities.filter (·.holder = index + 1)).length
  resources : (tables.services.getD index emptyService).resourceCount =
    ((tables.capabilities.filter (·.holder = index + 1)).map CapabilityMeta.resource).toFinset.card
  dependencies : (tables.services.getD index emptyService).dependencyCount =
    (tables.dependencies.filter (·.dependent = index + 1)).length

theorem checkBudget_panics (numbered : Numbered header tables) :
    checkBudget header tables total index = .error .panicked ↔
      HeldRule header tables index ∧ (tables.services.getD index emptyService).readyResourceId = 0 := by
  obtain ⟨count, resources⟩ := @countHeld_eq _ _ (index + 1) numbered
  unfold checkBudget
  rw [panics_bind_of (returns_demand _ _)]
  simp only [check, demand_eq_ok, count, resources]
  constructor
  · rintro ⟨_, ⟨held, different, incoming⟩, stops⟩
    refine ⟨⟨held, different, incoming⟩, ?_⟩
    by_contra some
    rw [demand_pass some, ok_bind, panics_bind_of (returns_demand _ _)] at stops
    obtain ⟨_, -, stops⟩ := stops
    rw [panics_bind_of (returns_demand _ _)] at stops
    obtain ⟨_, -, stops⟩ := stops
    exact absurd stops (returns_pure _)
  · rintro ⟨⟨held, different, incoming⟩, none⟩
    refine ⟨(), ⟨held, different, incoming⟩, ?_⟩
    rw [demand_stop (not_not_intro none)]
    rfl

theorem checkBudgets_panics (numbered : Numbered header tables) : checkBudgets header tables order = .error .panicked ↔
    ∃ index < header.serviceCount, (∀ earlier < index, BudgetRule header tables earlier) ∧
      HeldRule header tables index ∧ (tables.services.getD index emptyService).readyResourceId = 0 := by
  have loop := fun count last => @foldlM_range_closed _ _ (checkBudget header tables)
    (fun index => ((List.range index).map (fun index => (tables.services.getD index emptyService).maxRestarts)).sum) _
    count (fun index _ _ next => by
      rw [sum_succ]
      exact checkBudget_eq_ok numbered) last
  unfold checkBudgets
  rw [panics_bind, panics_foldlM_range]
  simp only [checkBudget_panics numbered]
  constructor
  · rintro (⟨index, less, total, ran, stops⟩ | ⟨total, -, stops⟩)
    · exact ⟨index, less, fun earlier before => (((loop index total).mp ran).1 earlier before).1, stops⟩
    · rw [panics_bind_of (returns_demand _ _)] at stops
      obtain ⟨_, -, stops⟩ := stops
      exact absurd stops (returns_forM (fun _ => checkRoute_returns) _)
  · rintro ⟨index, less, budgets, stops⟩
    refine .inl ⟨index, less, _, (loop index _).mpr ⟨fun earlier before => ⟨budgets earlier before, ?_⟩, rfl⟩, stops⟩
    have sum := numbered.sum_le (earlier + 1) (by omega)
    have most := numbered.count
    have few : (earlier + 1) * 64 < u32Values := by
      unfold maxServices at most
      unfold u32Values
      omega
    rw [sum_succ] at sum
    omega

end Budgets

section Whole

variable {sha : Sha256} {data : Bytes}

/-- A bundle that passes what comes before the resource that tells when a service is ready, where the service of
this index names none. -/
structure Unready (sha : Sha256) (data : Bytes) (order : List Nat) (index : Nat) : Prop where
  header : HeaderRule sha data
  tables : TablesFit sha data (headerOf data) (stringsOf data) (blobOf data)
  strings : stringsOf data = Oracle.canonicalStrings ((headerOf data).texts data (stringsOf data))
  entries : ∀ name ∈ (headerOf data).names data, AtEntry (stringsOf data) name
  root : RootRule (headerOf data) (tablesOf data (headerOf data))
  available : ∀ item ∈ (tablesOf data (headerOf data)).dependencies, Available (tablesOf data (headerOf data)).services item
  started : Started (headerOf data) (tablesOf data (headerOf data)).edges (fun service =>
    ((tablesOf data (headerOf data)).services.getD (service - 1) emptyService).startupRank) order
  reachable : ∀ service ∈ serviceIds (headerOf data).serviceCount,
    Relation.ReflTransGen (Strong (tablesOf data (headerOf data))) (headerOf data).rootServiceId service
  listed : index < (headerOf data).serviceCount
  budgets : ∀ earlier < index, BudgetRule (headerOf data) (tablesOf data (headerOf data)) earlier
  held : HeldRule (headerOf data) (tablesOf data (headerOf data)) index
  nameless : ((tablesOf data (headerOf data)).services.getD index emptyService).readyResourceId = 0

theorem parse_panics : parse sha data = .error .panicked ↔ ∃ order index, Unready sha data order index := by
  unfold parse
  rw [panics_bind_of parseHeader_returns]
  simp only [parseHeader_eq_ok]
  constructor
  · rintro ⟨_, ⟨rule, rfl⟩, stops⟩
    rw [panics_bind_of (returns_orRefuse _ _)] at stops
    obtain ⟨strings, cut, stops⟩ := stops
    obtain ⟨-, -, rfl⟩ := range_eq_ok.mp cut
    rw [panics_bind_of (returns_orRefuse _ _)] at stops
    obtain ⟨blob, cut, stops⟩ := stops
    obtain ⟨-, -, rfl⟩ := range_eq_ok.mp cut
    rw [Nat.add_sub_cancel_left, Nat.add_sub_cancel_left, panics_bind_of parseTables_returns] at stops
    obtain ⟨tables, parsed, stops⟩ := stops
    obtain ⟨fit, rfl⟩ := parseTables_eq_ok.mp parsed
    have numbered := fit.numbered rule.counts rule.root
    rw [panics_bind_of validateStringTable_returns] at stops
    obtain ⟨_, sorted, stops⟩ := stops
    obtain ⟨canonical, entries⟩ := (validateStringTable_eq_ok (fun name => fit.rule) fit.distinct).mp sorted
    rw [panics_bind_of checkRoot_returns] at stops
    obtain ⟨_, rooted, stops⟩ := stops
    rw [panics_bind_of makeStartOrder_returns] at stops
    obtain ⟨order, made, stops⟩ := stops
    obtain ⟨available, started⟩ := (makeStartOrder_eq_ok fun item member => (numbered.dependencies item member).1.1).mp made
    rw [panics_bind_of checkReachable_returns] at stops
    obtain ⟨_, reached, stops⟩ := stops
    rw [panics_bind] at stops
    obtain stops | ⟨_, -, stops⟩ := stops
    · obtain ⟨index, listed, budgets, held, nameless⟩ := (checkBudgets_panics numbered).mp stops
      exact ⟨order, index, rule, fit, canonical, entries, (checkRoot_eq_ok numbered.root).mp rooted, available, started,
        (checkReachable_eq_ok numbered).mp reached, listed, budgets, held, nameless⟩
    · exact absurd stops nofun
  · rintro ⟨order, index, unready⟩
    have rule := unready.header
    have fit := unready.tables
    have numbered := fit.numbered rule.counts rule.root
    obtain ⟨before, inside⟩ := rule.placed.padding
    have whole := rule.placed.total
    have strings : orRefuse (data.range? (headerOf data).stringOffset ((headerOf data).stringOffset +
        (headerOf data).stringBytes)) .tableBounds = (.ok (stringsOf data) : Outcome Error Bytes) :=
      range_eq_ok.mpr ⟨Nat.le_add_right .., before.trans inside, by rw [Nat.add_sub_cancel_left]; rfl⟩
    have blob : orRefuse (data.range? (headerOf data).blobOffset ((headerOf data).blobOffset +
        (headerOf data).blobBytes)) .tableBounds = (.ok (blobOf data) : Outcome Error Bytes) :=
      range_eq_ok.mpr ⟨Nat.le_add_right .., Nat.le_of_eq whole, by rw [Nat.add_sub_cancel_left]; rfl⟩
    have sorted : validateStringTable (tablesOf data (headerOf data)).names (stringsOf data) = .ok () :=
      (validateStringTable_eq_ok (fun name => fit.rule) fit.distinct).mpr ⟨unready.strings, unready.entries⟩
    refine ⟨_, ⟨rule, rfl⟩, ?_⟩
    rw [strings, ok_bind, blob, ok_bind, parseTables_eq_ok.mpr ⟨fit, rfl⟩, ok_bind, sorted, ok_bind,
      (checkRoot_eq_ok numbered.root).mpr unready.root, ok_bind,
      (makeStartOrder_eq_ok fun item member => (numbered.dependencies item member).1.1).mpr
        ⟨unready.available, unready.started⟩, ok_bind,
      (checkReachable_eq_ok numbered).mpr unready.reachable, ok_bind,
      (checkBudgets_panics numbered).mpr ⟨index, unready.listed, unready.budgets, unready.held, unready.nameless⟩]
    rfl

/-- The parser answers with a bundle or an error exactly where no service is without the resource. -/
theorem parser_total (sha : Sha256) (data : Bytes) :
    Returns (Strict.parse sha data) ↔ ¬ ∃ order index, Unready sha data order index := by
  rw [Returns, Strict.parse_same, ne_eq, parse_panics]

/-- The root service of the sample, ready at once and without a resource. -/
def unreadyBundle (digest : Nat) : Bytes :=
  ((sampleBundle 3 digest).blit 300 (Bytes.ofWord 2 readinessImmediate)).blit 324 (Bytes.ofWord 4 0)

def unreadyDigest : Nat := 0x4866dcb42476d423a48b34704ae8f0de19eeb41cce4a13707517d8c35a342cc6

def unreadySha : Sha256 :=
  .ofTable [(sampleBlob, sampleBlobDigest), ((unreadyBundle unreadyDigest).drop headerBytes, unreadyDigest)]

theorem unready_bundle_panics : ¬ Returns (Strict.parse unreadySha (unreadyBundle unreadyDigest)) := by
  have panics : Strict.parse unreadySha (unreadyBundle unreadyDigest) = .error .panicked := by
    decide +kernel
  exact fun returns => returns panics

end Whole

end PooleOS.InitSys
