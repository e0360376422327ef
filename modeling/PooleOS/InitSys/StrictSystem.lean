import PooleOS.InitSys.StrictTables
import PooleOS.InitSys.System

/- Nothing panics in the checks of the system, but for one subtraction: the number of the resource
that tells when a service is ready. -/
namespace PooleOS.InitSys.Strict

open Nat Matches
open List

variable {strings : Bytes} {header : Header} {tables : InitSys.Tables}

section Root

section

variable (sized : Sized strings header tables)
include sized

theorem Sized.services_le (counts : Counts header) :
    tables.services.length ≤ maxServices := sized.services ▸ counts.services.2

theorem Sized.service {index : Nat} (less : index < header.serviceCount) :
    item (tablesOf tables).services index = (.ok (tables.services.getD index emptyService) : Outcome Error _) :=
  item_filled emptyService (by rw [sized.services]; exact less)

theorem Sized.resource {index : Nat} (less : index < header.resourceCount) :
    item (tablesOf tables).resources index = (.ok (tables.resources.getD index emptyResource) : Outcome Error _) :=
  item_filled emptyResource (by rw [sized.resources]; exact less)

theorem Sized.front_services (counts : Counts header) :
    front (tablesOf tables).services header.serviceCount = (.ok tables.services : Outcome Error _) := by
  rw [← sized.services]
  exact front_filled (sized.services_le counts)

theorem Sized.front_dependencies (counts : Counts header) :
    front (tablesOf tables).dependencies header.dependencyCount = (.ok tables.dependencies : Outcome Error _) := by
  rw [← sized.dependencies]
  exact front_filled (sized.dependencies ▸ counts.dependencies)

theorem Sized.front_capabilities (counts : Counts header) :
    front (tablesOf tables).capabilities header.capabilityCount = (.ok tables.capabilities : Outcome Error _) := by
  rw [← sized.capabilities]
  exact front_filled (sized.capabilities ▸ counts.capabilities.2)

theorem checkRoot_same (counts : Counts header) (real : header.rootServiceId ≠ 0) :
    checkRoot header (tablesOf tables) = InitSys.checkRoot header tables := by
  have positive := pos_of_ne_zero real
  unfold checkRoot InitSys.checkRoot
  rw [minus_of (by omega), ok_bind]
  refine Eq.trans ?_ (demand_split (header.rootServiceId - 1 < header.serviceCount)
    ((tables.services.getD (header.rootServiceId - 1) emptyService).flags = rootServiceFlags ∧
      (tables.services.getD (header.rootServiceId - 1) emptyService).restartPolicy = restartNever) .rfl).symm
  refine matches_eq.mp (Matches.check fun inside => ?_)
  rw [sized.service inside, ok_bind, sized.front_services counts, sized.front_dependencies counts]
  refine Matches.check fun _ => ?_
  rw [ok_bind]
  refine bind (matches_eq.mpr ((forM_demand (fun entry : ServiceMeta × Nat => ¬ (entry.2 ≠ header.rootServiceId - 1 ∧
    entry.1.flags &&& (serviceBootstrap ||| serviceDropBootstrap) ≠ 0)) fun _ _ => rfl).trans (demand_congr ?_)))
    fun _ _ _ _ _ => refl _
  constructor
  · intro all index less
    have listed : tables.services[index]? = some (tables.services.getD index emptyService) := by
      have within : index < tables.services.length := sized.services ▸ less
      rw [List.getD_eq_getElem?_getD, List.getElem?_eq_getElem within]
      rfl
    exact all (_, index) (List.mk_mem_zipIdx_iff_getElem?.mpr listed)
  · rintro all ⟨service, index⟩ member
    have listed := List.mk_mem_zipIdx_iff_getElem?.mp member
    have within := (List.getElem?_eq_some_iff.mp listed).1
    have same : tables.services.getD index emptyService = service := by
      rw [List.getD_eq_getElem?_getD, listed]
      rfl
    have fine := all index (sized.services ▸ within)
    rwa [same] at fine

end

end Root

section Order

variable {entry : DependencyMeta} {numbers : List Nat} {counted : Nat → Nat}

theorem checkAvailable_same (sized : Sized strings header tables)
    (dependent : entry.dependent - 1 < header.serviceCount)
    (prerequisite : entry.prerequisite ≠ 0 ∧ entry.prerequisite ≤ header.serviceCount) :
    checkAvailable (tablesOf tables).services entry (entry.dependent - 1) = check (¬ (entry.kind = dependencyStrong ∧
        (tables.services.getD (entry.dependent - 1) emptyService).flags &&& serviceRequired ≠ 0 ∧
        (tables.services.getD (entry.prerequisite - 1) emptyService).flags &&& serviceRequired = 0))
        .dependencyAvailability := by
  unfold checkAvailable
  by_cases strong : entry.kind = dependencyStrong
  · rw [if_pos strong, sized.service dependent, ok_bind]
    by_cases required : (tables.services.getD (entry.dependent - 1) emptyService).flags &&& serviceRequired ≠ 0
    · rw [if_pos required, minus_of (by omega), ok_bind, sized.service (by omega), ok_bind]
      simp only [strong, required, true_and, not_false_eq_true, ne_eq]
    · rw [if_neg required]
      exact (demand_pass (mt (fun all => all.2.1) required)).symm
  · rw [if_neg strong]
    exact (demand_pass (mt And.left strong)).symm

/-- The counts of the prerequisites, in an array; no more than the dependencies so far. -/
structure Counted (count : Nat) (numbers : List Nat) (counted : Nat → Nat) : Prop where
  holds : Holds maxServices numbers counted
  few : ∀ index, counted index ≤ count

theorem countDependency_same {count : Nat} (sized : Sized strings header tables) (services : header.serviceCount ≤ maxServices)
    (dependent : entry.dependent ≠ 0 ∧ entry.dependent ≤ header.serviceCount)
    (prerequisite : entry.prerequisite ≠ 0 ∧ entry.prerequisite ≤ header.serviceCount) (few : count < maxDependencies)
    (kept : Counted count numbers counted) :
    Matches (Counted (count + 1)) (countDependency (tablesOf tables).services numbers entry)
      (InitSys.countDependency tables.services counted entry) := by
  have less := kept.few (entry.dependent - 1)
  have most : maxDependencies = 128 := rfl
  have sum : checkedAdd u16Values (counted (entry.dependent - 1)) 1 = some (counted (entry.dependent - 1) + 1) :=
    checkedAdd_eq_some.mpr ⟨by unfold u16Values; omega, rfl⟩
  unfold countDependency InitSys.countDependency
  rw [minus_of (by omega), ok_bind, kept.holds.item (by omega), ok_bind, sum]
  unfold orRefuse
  rw [orError_some, ok_bind, kept.holds.store (by omega), ok_bind, checkAvailable_same sized (by omega) prerequisite]
  refine Matches.check fun _ => ⟨kept.holds.set, fun index => ?_⟩
  by_cases same : index = entry.dependent - 1
  · subst same
    rw [Function.update_self]
    omega
  · rw [Function.update_of_ne same]
    exact Nat.le_succ_of_le (kept.few index)

theorem release_same {serviceId : Nat} (services : header.serviceCount ≤ maxServices)
    (dependent : entry.dependent ≠ 0 ∧ entry.dependent ≤ header.serviceCount) (holds : Holds maxServices numbers counted) :
    Matches (Holds maxServices) (release serviceId numbers entry) (InitSys.release serviceId counted entry) := by
  unfold release InitSys.release
  by_cases here : entry.prerequisite = serviceId
  · rw [if_pos here, if_pos here, minus_of (by omega), ok_bind, holds.item (by omega), ok_bind]
    dsimp only
    by_cases some : 1 ≤ counted (entry.dependent - 1)
    · rw [if_pos some, check, demand_pass some]
      unfold orRefuse
      rw [orError_some, ok_bind, ok_bind, holds.store (by omega)]
      exact holds.set
    · rw [if_neg some, check, demand_stop some]
      rfl
  · rw [if_neg here, if_neg here]
    exact holds

theorem findReady_of {selected : List Bool} {chosen : Nat → Bool} (taken : Holds maxServices selected chosen)
    (holds : Holds maxServices numbers counted) : ∀ {services : List Nat}, (∀ service ∈ services, service < maxServices) →
      findReady selected numbers services =
        .ok (services.find? (fun service => !chosen service && counted service == 0))
  | [], _ => rfl
  | service :: rest, inside => by
      obtain ⟨here, others⟩ := forall_mem_cons.mp inside
      rw [findReady, taken.item here, ok_bind, find?_cons]
      cases chosen service with
      | true => exact findReady_of taken holds others
      | false =>
        rw [if_pos rfl, holds.item here, ok_bind]
        by_cases zero : counted service = 0
        · rw [if_pos zero, zero]
          rfl
        · rw [if_neg zero, findReady_of taken holds others]
          have apart : (counted service == 0) = false := beq_eq_false_iff_ne.mpr zero
          rw [apart]
          rfl

/-- What the two loops that make the start order have kept after so many ranks. -/
structure StartKept (rank : Nat) (one : StartScan) (two : InitSys.StartScan) : Prop where
  order : one.startOrder = filled maxServices 0 two.startOrder
  count : two.startOrder.length = rank
  selected : Holds maxServices one.selected two.selected
  indegree : Holds maxServices one.indegree two.indegree

theorem startNext_same {rank : Nat} {one : StartScan} {two : InitSys.StartScan} (sized : Sized strings header tables)
    (counts : Counts header) (numbered : Numbered header tables) (less : rank < header.serviceCount)
    (kept : StartKept rank one two) :
    Matches (StartKept (rank + 1)) (startNext header (tablesOf tables) one rank) (InitSys.startNext header tables two rank) := by
  obtain ⟨order, selected, indegree⟩ := one
  obtain ⟨rfl, rfl, taken, holds⟩ := kept
  have most : maxServices = 32 := rfl
  obtain ⟨halves, width⟩ := word_sizes
  have few := counts.services.2
  unfold startNext InitSys.startNext
  rw [findReady_of taken holds (fun service member => lt_of_lt_of_le (mem_range.mp member) few), ok_bind]
  refine same fun ready found => ?_
  have inside := mem_range.mp (mem_of_find?_eq_some (orError_eq_ok.mp found))
  rw [taken.store (by omega), ok_bind, plus_of (by omega), ok_bind, toU32_of (by omega), ok_bind, store_filled (by omega),
    ok_bind, sized.service inside, ok_bind, sized.front_dependencies counts]
  refine Matches.check fun _ => ?_
  rw [ok_bind]
  refine Matches.bind (Matches.foldlM (fun _ => Holds maxServices) holds fun entry member _ one two _ holds =>
    release_same few (numbered.dependencies entry member).1 holds) fun _ _ _ _ released => ?_
  exact ⟨rfl, length_append, taken.set, released⟩

theorem makeStartOrder_same (sized : Sized strings header tables) (counts : Counts header)
    (numbered : Numbered header tables) :
    Matches (fun one two => one = filled maxServices 0 two) (makeStartOrder header (tablesOf tables))
      (InitSys.makeStartOrder header tables) := by
  have few := counts.services.2
  have all := counts.dependencies
  unfold makeStartOrder InitSys.makeStartOrder
  rw [sized.front_dependencies counts, ok_bind]
  refine Matches.bind (Matches.foldlM Counted ⟨Holds.replicate, fun _ => le_rfl⟩
    fun entry member index one two less kept => ?_) fun numbers counted _ _ kept => ?_
  · obtain ⟨dependent, prerequisite⟩ := numbered.dependencies entry member
    exact countDependency_same sized few dependent prerequisite (by have := sized.dependencies; omega) kept
  · have range : (range maxServices).take header.serviceCount = range header.serviceCount := by
      rw [take_range, Nat.min_eq_left few]
    rw [range]
    refine Matches.bind (Matches.range StartKept ⟨rfl, rfl, Holds.replicate, kept.holds⟩
      fun rank one two less _ kept => startNext_same sized counts numbered less kept) fun one two _ _ kept => ?_
    rw [kept.order]
    rfl

end Order

section Reach

variable {marks : List Bool} {flags : Nat → Bool}

/-- A pass over the dependencies is a sweep over the strong ones. -/
theorem sweep_same {limit : Nat} (services : limit ≤ maxServices) : ∀ {items : List DependencyMeta} {marks : List Bool}
    {flags : Nat → Bool} {changed : Bool}, (∀ item ∈ items, (item.dependent ≠ 0 ∧ item.dependent ≤ limit) ∧
      item.prerequisite ≠ 0 ∧ item.prerequisite ≤ limit) → Holds maxServices marks flags →
    ∃ next, items.foldlM touch (marks, changed) =
        (.ok (next, ((strongEdges items).foldl reachableFlags.touch (flags, changed)).2) : Outcome Error _) ∧
      Holds maxServices next ((strongEdges items).foldl reachableFlags.touch (flags, changed)).1
  | [], marks, flags, changed, _, holds => ⟨marks, rfl, holds⟩
  | item :: rest, marks, flags, changed, real, holds => by
      obtain ⟨⟨⟨dependent, below⟩, prerequisite, above⟩, others⟩ := forall_mem_cons.mp real
      have positive := pos_of_ne_zero dependent
      have other := pos_of_ne_zero prerequisite
      rw [foldlM_cons, touch]
      by_cases strong : item.kind = dependencyStrong
      · have edges : strongEdges (item :: rest) = (item.prerequisite - 1, item.dependent - 1) :: strongEdges rest := by
          unfold strongEdges
          rw [filter_cons, if_pos (decide_eq_true strong), map_cons]
        rw [if_pos strong, minus_of (by omega), ok_bind, minus_of (by omega), ok_bind, holds.item (by omega), ok_bind, edges,
          foldl_cons]
        have marking : ∀ place, reachableFlags.has flags place = flags place := fun _ => rfl
        unfold Marking.touch
        rw [marking, marking]
        cases source : flags (item.prerequisite - 1) with
        | false =>
          exact sweep_same services others holds
        | true =>
          rw [if_pos rfl, holds.item (by omega), ok_bind]
          cases target : flags (item.dependent - 1) with
          | true =>
            exact sweep_same services others holds
          | false =>
            rw [if_pos rfl, if_pos ⟨rfl, rfl⟩, holds.store (by omega)]
            exact sweep_same services others holds.set
      · have edges : strongEdges (item :: rest) = strongEdges rest := by
          unfold strongEdges
          rw [filter_cons, if_neg (by simpa using strong)]
        rw [if_neg strong, edges]
        exact sweep_same services others holds

/-- The loop ends before it takes more passes than there are services. -/
theorem reachLoop_same {items : List DependencyMeta} {limit : Nat} (services : limit ≤ maxServices)
    (real : ∀ item ∈ items, (item.dependent ≠ 0 ∧ item.dependent ≤ limit) ∧
      item.prerequisite ≠ 0 ∧ item.prerequisite ≤ limit) : ∀ {passes : Nat} {marks : List Bool} {flags : Nat → Bool},
    Holds maxServices marks flags → ((range limit).filter (reachableFlags.has flags · = false)).length < passes →
    ∃ next, reachLoop items passes marks = (.ok next : Outcome Error _) ∧
      Holds maxServices next (reachableFlags.saturate (strongEdges items) passes flags)
  | 0, _, _, _, less => absurd less (not_lt_zero _)
  | passes + 1, marks, flags, holds, less => by
      have inside : ∀ edge ∈ strongEdges items, edge.2 ∈ range limit := by
        intro edge member
        simp only [strongEdges, mem_map, mem_filter] at member
        obtain ⟨item, ⟨listed, -⟩, rfl⟩ := member
        have bound := (real item listed).1
        rw [mem_range]
        omega
      obtain ⟨next, ran, kept⟩ := @sweep_same limit services items marks flags false real holds
      rw [reachLoop, ran, ok_bind]
      unfold Marking.saturate Marking.sweep
      dsimp only
      split
      · rename_i raised
        have shrinks := reachableFlags.sweep_shrinks inside raised
        exact reachLoop_same services real kept (lt_of_lt_of_le shrinks (le_of_lt_succ less))
      · exact ⟨next, rfl, kept⟩

theorem checkReachable_same (sized : Sized strings header tables) (counts : Counts header)
    (numbered : Numbered header tables) (listed : header.rootServiceId ≤ header.serviceCount) :
    checkReachable header (tablesOf tables) = InitSys.checkReachable header tables := by
  have few := counts.services.2
  have positive := pos_of_ne_zero numbered.root
  have begun : Holds maxServices (replicate maxServices false) (fun _ => false) := Holds.replicate
  obtain ⟨reachable, ran, holds⟩ := @reachLoop_same tables.dependencies header.serviceCount few numbered.dependencies
    (header.serviceCount + 1) _ _ (@Holds.set _ _ (header.rootServiceId - 1) true _ _ begun)
    (lt_succ_of_le ((length_filter_le ..).trans (le_of_eq length_range)))
  unfold checkReachable InitSys.checkReachable
  rw [minus_of (by omega), ok_bind, begun.store (by omega), ok_bind, sized.front_dependencies counts, ok_bind, ran, ok_bind,
    front_of (by rw [holds.length]; exact few), ok_bind]
  refine demand_congr ?_
  constructor
  · intro all index less
    refine all _ (mem_of_getElem? (i := index) ?_)
    rw [getElem?_take_of_lt less, holds.held index (by omega)]
  · intro all reached member
    obtain ⟨index, less, same⟩ := mem_take_iff_getElem.mp member
    have place : index < header.serviceCount := by omega
    have value := holds.held index (by omega)
    rw [getElem?_eq_getElem (by omega), Option.some.injEq] at value
    rw [← same, value]
    exact all index place

end Reach

section Budgets

/-- The counts of what a service holds, in an array. -/
structure HeldKept (count : Nat) (one : HeldScan) (two : InitSys.HeldScan) : Prop where
  held : one.heldCount = two.heldCount
  seen : Holds maxResources one.resourceSeen two.resourceSeen
  resources : one.heldResources = two.heldResources
  few : two.heldCount ≤ count ∧ two.heldResources ≤ count

theorem countHeld_same {service count : Nat} {one : HeldScan} {two : InitSys.HeldScan} {capability : CapabilityMeta}
    (resource : capability.resource ≠ 0 ∧ capability.resource ≤ maxResources) (less : count < maxCapabilities)
    (kept : HeldKept count one two) :
    ∃ next, countHeld service one capability = .ok next ∧ HeldKept (count + 1) next (InitSys.countHeld service two capability) := by
  obtain ⟨held, seen, resources⟩ := one
  obtain ⟨rfl, holds, rfl, few⟩ := kept
  have width := word_sizes.2
  have most : maxCapabilities = 256 := rfl
  unfold countHeld InitSys.countHeld
  dsimp only
  by_cases mine : capability.holder = service
  · rw [if_pos mine, if_pos mine, plus_of (by omega), ok_bind, minus_of (by omega), ok_bind, holds.item (by omega), ok_bind]
    cases old : two.resourceSeen (capability.resource - 1) with
    | true =>
      rw [if_pos rfl, if_pos rfl]
      exact ⟨_, rfl, rfl, holds, rfl, by dsimp only; omega⟩
    | false =>
      rw [if_neg nofun, if_neg nofun, holds.store (by omega), ok_bind, plus_of (by omega), ok_bind]
      exact ⟨_, rfl, rfl, holds.set, rfl, by dsimp only; omega⟩
  · rw [if_neg mine, if_neg mine]
    exact ⟨_, rfl, rfl, holds, rfl, by omega⟩

theorem checkBudget_same {total index : Nat} (sized : Sized strings header tables) (counts : Counts header)
    (numbered : Numbered header tables) (less : index < header.serviceCount) :
    checkBudget header (tablesOf tables) total index = InitSys.checkBudget header tables total index := by
  have few := counts.resources.2
  have many := counts.capabilities.2
  have begin : HeldKept 0 ⟨0, replicate maxResources false, 0⟩ ⟨0, fun _ => false, 0⟩ :=
    ⟨rfl, Holds.replicate, rfl, le_rfl, le_rfl⟩
  obtain ⟨held, ran, kept⟩ := @Matches.foldl _ _ _ _ _ _ (countHeld (index + 1)) _ HeldKept tables.capabilities begin
    fun capability member count one two less kept => countHeld_same
      (by have := (numbered.capabilities capability member).2; omega) (by have := sized.capabilities; omega) kept
  unfold checkBudget InitSys.checkBudget
  dsimp only
  rw [minus_of (by omega), ok_bind, Nat.add_sub_cancel, sized.service less, ok_bind, sized.front_capabilities counts, ok_bind,
    ran, ok_bind, sized.front_dependencies counts, ok_bind, kept.held, kept.resources]
  refine matches_eq.mp (Matches.check fun _ => matches_eq.mpr ?_)
  by_cases none : (tables.services.getD index emptyService).readyResourceId = 0
  · rw [demand_stop (fun some => some none)]
    unfold minus
    rw [if_neg (by omega)]
    rfl
  · rw [demand_pass none, ok_bind, minus_of (by omega), ok_bind]
    refine Eq.trans ?_ (demand_split _ _ .rfl).symm
    refine matches_eq.mp (Matches.check fun inside => ?_)
    rw [sized.resource inside, ok_bind]
    refine Matches.check fun _ => matches_eq.mpr ?_
    unfold orRefuse checkedAdd
    split
    · rename_i small
      rw [check, demand_pass small]
      rfl
    · rename_i large
      rw [check, demand_stop large]
      rfl

theorem checkRoute_same {ranks : List Nat} {rankOf : Nat → Nat} {capability : CapabilityMeta}
    (sized : Sized strings header tables) (counts : Counts header) (numbered : Numbered header tables)
    (member : capability ∈ tables.capabilities) (holds : Holds maxServices ranks rankOf) :
    checkRoute header (tablesOf tables) ranks capability = InitSys.checkRoute tables rankOf capability := by
  have few := counts.services.2
  obtain ⟨⟨held, below⟩, resource, above⟩ := numbered.capabilities capability member
  have provided := numbered.providers (capability.resource - 1) (by omega)
  unfold checkRoute InitSys.checkRoute
  rw [minus_of (by omega), ok_bind, sized.resource (by omega), ok_bind]
  by_cases other : (tables.resources.getD (capability.resource - 1) emptyResource).provider ≠ 0 ∧
      (tables.resources.getD (capability.resource - 1) emptyResource).provider ≠ capability.holder
  · rw [if_pos other, if_pos other, sized.front_dependencies counts, ok_bind]
    refine matches_eq.mp (Matches.check fun _ => ?_)
    rw [minus_of (by omega), ok_bind, minus_of (by omega), ok_bind, holds.item (by omega), ok_bind, holds.item (by omega),
      ok_bind]
    exact Matches.refl _
  · rw [if_neg other, if_neg other]

theorem ranks_same {order : List Nat} (listed : ∀ service ∈ order, service ≠ 0 ∧ service ≤ maxServices) :
    ∃ ranks, order.zipIdx.foldlM rankService (replicate maxServices 0) = (.ok ranks : Outcome Error _) ∧
      Holds maxServices ranks (ranksOf order) := by
  refine foldl (fun _ => Holds maxServices) Holds.replicate fun entry member count one two _ holds => ?_
  obtain ⟨service, rank⟩ := entry
  obtain ⟨some, below⟩ := listed service (mem_of_getElem? (mk_mem_zipIdx_iff_getElem?.mp member))
  have positive := pos_of_ne_zero some
  unfold rankService
  rw [minus_of positive, ok_bind, holds.store (by omega)]
  exact ⟨_, rfl, holds.set⟩

theorem checkBudgets_same {order : List Nat} (sized : Sized strings header tables) (counts : Counts header)
    (numbered : Numbered header tables) (perm : order.Perm (serviceIds header.serviceCount)) :
    checkBudgets header (tablesOf tables) (filled maxServices 0 order) = InitSys.checkBudgets header tables order := by
  have few := counts.services.2
  have long : order.length = header.serviceCount := by rw [perm.length_eq, serviceIds, length_range']
  obtain ⟨ranks, ran, holds⟩ := @ranks_same order fun service member => by
    have bounds := mem_serviceIds.mp (perm.mem_iff.mp member)
    omega
  unfold checkBudgets InitSys.checkBudgets
  rw [← long, front_filled (by omega), ok_bind, ran, ok_bind, long]
  refine matches_eq.mp (bind (range (fun _ => (· = ·)) rfl fun index one two less _ same => ?_)
    fun one two _ _ same => ?_)
  · rw [same, checkBudget_same sized counts numbered less]
    exact refl _
  · rw [same]
    rw [sized.front_capabilities counts, ok_bind,
      forM_congr fun capability member => checkRoute_same sized counts numbered member holds]
    exact refl _

end Budgets

/-- The parser with its panics is the model without them. -/
theorem parse_same (sha : Sha256) (data : Bytes) : parse sha data = InitSys.parse sha data := by
  unfold parse InitSys.parse
  rw [parseHeader_same]
  refine matches_eq.mp (same fun header found => ?_)
  obtain ⟨rule, rfl⟩ := parseHeader_eq_ok.mp found
  obtain ⟨halves, width⟩ := word_sizes
  have limit : maxBundleBytes = 1048480 := rfl
  have short := rule.short
  have words : ∀ offset, data.word offset 4 < u32Values := fun offset => data.word_lt offset 4
  have one := words 88
  have two := words 92
  have three := words 96
  have four := words 100
  have strings : (headerOf data).stringOffset + (headerOf data).stringBytes < u64Values := by
    change data.word 88 4 + data.word 92 4 < u64Values
    omega
  have blobs : (headerOf data).blobOffset + (headerOf data).blobBytes < u64Values := by
    change data.word 96 4 + data.word 100 4 < u64Values
    omega
  rw [plus_of strings, ok_bind, plus_of blobs]
  refine same fun stringTable cut => ?_
  rw [ok_bind]
  refine same fun blob cut' => ?_
  obtain ⟨before, inside, rfl⟩ := range_eq_ok.mp cut
  obtain ⟨before', inside', rfl⟩ := range_eq_ok.mp cut'
  have stringsShort : (data.slice (headerOf data).stringOffset ((headerOf data).stringOffset +
      (headerOf data).stringBytes - (headerOf data).stringOffset)).length ≤ data.length := by
    rw [Bytes.slice, length_take, length_drop]
    omega
  have blobShort : (data.slice (headerOf data).blobOffset ((headerOf data).blobOffset +
      (headerOf data).blobBytes - (headerOf data).blobOffset)).length ≤ data.length := by
    rw [Bytes.slice, length_take, length_drop]
    omega
  have offsets : ∀ offset ∈ [(headerOf data).componentOffset, (headerOf data).serviceOffset,
      (headerOf data).dependencyOffset, (headerOf data).resourceOffset, (headerOf data).capabilityOffset],
      offset < u32Values := by
    simp only [forall_mem_cons]
    exact ⟨words 68, words 72, words 76, words 80, words 84, fun _ absent => absurd absent not_mem_nil⟩
  have align : recordAlignment = 8 := rfl
  refine bind (parseTables_same (by omega) (by omega) rule.counts offsets) fun arrays tables _ parsed kept => ?_
  obtain ⟨rfl, sized⟩ := kept
  obtain ⟨fit, rfl⟩ := parseTables_eq_ok.mp parsed
  have numbered := fit.numbered rule.counts rule.root
  have names : (tablesOf (InitSys.tablesOf data (headerOf data))).names = listed (InitSys.tablesOf data (headerOf data)).names :=
    rfl
  have few : (InitSys.tablesOf data (headerOf data)).names.length ≤ maxNames := by
    have components := rule.counts.components.2
    have services := rule.counts.services.2
    have resources := rule.counts.resources.2
    rw [sized.names]
    unfold maxNames
    omega
  rw [names, validateStringTable_same (by omega) few sized.inside, checkRoot_same sized rule.counts numbered.root]
  refine same fun _ _ => same fun _ rooted => ?_
  have root := (checkRoot_eq_ok numbered.root).mp rooted
  refine bind (makeStartOrder_same sized rule.counts numbered) fun array order _ made same => ?_
  obtain ⟨-, started⟩ := (makeStartOrder_eq_ok fun item member => (numbered.dependencies item member).1.1).mp made
  have perm := started.greedy.perm (by rw [started.length, serviceIds, length_range'])
  rw [same, checkReachable_same sized rule.counts numbered root.listed, checkBudgets_same sized rule.counts numbered perm]
  exact refl _

end PooleOS.InitSys.Strict
