import PooleOS.InitSys.Tables
import PooleOS.Lib.Greedy

/- The start order. Both parsers count for each service the prerequisites that have not
started, and start the least service that waits for none, until all have started. -/
namespace PooleOS.InitSys

open List
open Function (update)

/-- The services, in the order of their records. -/
def serviceIds (count : Nat) : List Nat := List.range' 1 count

theorem mem_serviceIds {count service : Nat} : service ∈ serviceIds count ↔ 1 ≤ service ∧ service ≤ count := by
  rw [serviceIds, mem_range'_1]
  omega

theorem serviceIds_nodup (count : Nat) : (serviceIds count).Nodup := nodup_range'

/-- A service, and one that it depends on. -/
def Needs (edges : List (Nat × Nat)) (dependent prerequisite : Nat) : Prop := (dependent, prerequisite) ∈ edges

theorem ready_iff {count service : Nat} {edges : List (Nat × Nat)} {done : List Nat} :
    Ready (serviceIds count) (Needs edges) done service ↔
      (1 ≤ service ∧ service ≤ count) ∧ service ∉ done ∧ unmet edges done service = 0 := by
  rw [unmet_eq_zero, ← mem_serviceIds]
  exact ⟨fun ready => ⟨ready.listed, ready.fresh, ready.met⟩, fun all => ⟨all.1, all.2.1, all.2.2⟩⟩

section Loops

variable {α β ε : Type} [LinearOrder α] {items : List α} {needs : α → α → Prop} {body : β → Nat → Except ε β}
  {state : List α → β} {rule : α → Nat → Prop}

/-- A loop whose rounds take the least item that is ready makes the greedy order. -/
theorem greedy_loop_eq_ok
    (round : ∀ order rank next, body (state order) rank = .ok next ↔
      ∃ item, (Ready items needs order item ∧ ∀ other, Ready items needs order other → item ≤ other) ∧
        rule item rank ∧ next = state (order ++ [item])) :
    ∀ {count : Nat} {last : β}, (range count).foldlM body (state []) = .ok last ↔
      ∃ order, (Greedy items needs order ∧ order.length = count ∧
        ∀ rank item, order[rank]? = some item → rule item rank) ∧ last = state order
  | 0, last => by
      rw [range_zero, foldlM_nil, pure_eq_ok]
      constructor
      · exact fun same => ⟨[], ⟨.nil, rfl, fun _ _ absent => absurd absent (by simp)⟩, same⟩
      · rintro ⟨order, ⟨-, length, -⟩, same⟩
        rw [same, length_eq_zero_iff.mp length]
  | count + 1, last => by
      have single : ∀ {scan : β}, [count].foldlM body scan = body scan count := by
        intro scan
        rw [foldlM_cons]
        exact bind_pure _
      rw [range_succ, foldlM_append, bind_eq_ok_iff]
      simp only [greedy_loop_eq_ok round, single]
      constructor
      · rintro ⟨_, ⟨order, ⟨greedy, length, ranked⟩, rfl⟩, ran⟩
        obtain ⟨item, ⟨ready, least⟩, fits, same⟩ := (round ..).mp ran
        refine ⟨order ++ [item], ⟨greedy.snoc ready least, by rw [length_append, length]; rfl, ?_⟩, same⟩
        intro rank other found
        rcases Nat.lt_or_ge rank order.length with before | after
        · rw [getElem?_append_left before] at found
          exact ranked rank other found
        · rw [getElem?_append_right after, getElem?_singleton] at found
          split at found
          · obtain rfl := Option.some.inj found
            obtain rfl : rank = count := by omega
            exact fits
          · exact nomatch found
      · rintro ⟨order, ⟨greedy, length, ranked⟩, rfl⟩
        cases greedy with
        | nil => exact absurd length (by simp)
        | @snoc done item earlier ready least =>
          rw [length_append, length_singleton] at length
          have short : done.length = count := by omega
          refine ⟨state done, ⟨done, ⟨earlier, short, fun rank other found => ?_⟩, rfl⟩, (round ..).mpr
            ⟨item, ⟨ready, least⟩, ranked count item ?_, rfl⟩⟩
          · refine ranked rank other ?_
            rw [List.getElem?_append_left (List.getElem?_eq_some_iff.mp found).1]
            exact found
          · rw [getElem?_append_right (by omega), short, Nat.sub_self]
            rfl

end Loops

section Native

variable {header : Header} {tables : Tables} {services : List ServiceMeta}

def DependencyMeta.edge (item : DependencyMeta) : Nat × Nat := (item.dependent, item.prerequisite)

def Tables.edges (tables : Tables) : List (Nat × Nat) := tables.dependencies.map DependencyMeta.edge

/-- A required service does not depend strongly on one that is not. -/
def Available (services : List ServiceMeta) (item : DependencyMeta) : Prop :=
  ¬ (item.kind = dependencyStrong ∧ (services.getD (item.dependent - 1) emptyService).flags &&& serviceRequired ≠ 0 ∧
    (services.getD (item.prerequisite - 1) emptyService).flags &&& serviceRequired = 0)

theorem countDependency_eq_ok {result : Nat → Nat} : ∀ {items : List DependencyMeta} {indegree : Nat → Nat},
    (∀ item ∈ items, item.dependent ≠ 0) →
    (items.foldlM (countDependency services) indegree = .ok result ↔ (∀ item ∈ items, Available services item) ∧
      result = fun service => indegree service + unmet (items.map DependencyMeta.edge) [] (service + 1))
  | [], indegree, _ => by
      rw [foldlM_nil, pure_eq_ok]
      exact ⟨fun same => ⟨fun _ absent => absurd absent not_mem_nil, same⟩, And.right⟩
  | item :: rest, indegree, real => by
      have more := forall_mem_cons.mp real
      rw [foldlM_cons, countDependency]
      simp only [check, bind_assoc, demand_bind_eq_ok, pure_bind]
      rw [countDependency_eq_ok more.2, forall_mem_cons, and_assoc]
      refine and_congr_right fun _ => and_congr_right fun _ => ?_
      have same : (fun service => update indegree (item.dependent - 1) (indegree (item.dependent - 1) + 1) service +
          unmet (rest.map DependencyMeta.edge) [] (service + 1)) =
          fun service => indegree service + unmet ((item :: rest).map DependencyMeta.edge) [] (service + 1) := by
        funext service
        unfold unmet
        by_cases here : service = item.dependent - 1
        · subst here
          have edge : item.dependent - 1 + 1 = item.dependent := Nat.sub_add_cancel (Nat.pos_of_ne_zero more.1)
          simp [edge, DependencyMeta.edge]
          omega
        · have other : item.dependent ≠ service + 1 := by omega
          simp [here, other, DependencyMeta.edge]
      rw [same]

/-- A service that starts is met wherever it was needed. -/
theorem release_eq_ok {serviceId : Nat} : ∀ {items : List DependencyMeta} {indegree : Nat → Nat},
    (∀ item ∈ items, item.dependent ≠ 0) →
    (∀ service, meets (items.map DependencyMeta.edge) serviceId (service + 1) ≤ indegree service) →
    items.foldlM (release serviceId) indegree =
      .ok (fun service => indegree service - meets (items.map DependencyMeta.edge) serviceId (service + 1))
  | [], _, _, _ => rfl
  | item :: rest, indegree, real, enough => by
      have more := forall_mem_cons.mp real
      have split : ∀ service, meets ((item :: rest).map DependencyMeta.edge) serviceId (service + 1) =
          meets (rest.map DependencyMeta.edge) serviceId (service + 1) +
            if service = item.dependent - 1 ∧ item.prerequisite = serviceId then 1 else 0 := by
        intro service
        unfold meets
        have place : item.dependent = service + 1 ↔ service = item.dependent - 1 := by omega
        rw [map_cons, countP_cons]
        simp only [DependencyMeta.edge, place, decide_eq_true_eq]
      rw [foldlM_cons, release]
      by_cases here : item.prerequisite = serviceId
      · have one := enough (item.dependent - 1)
        rw [split, if_pos ⟨rfl, here⟩] at one
        have pass : 1 ≤ indegree (item.dependent - 1) := by omega
        rw [if_pos here]
        simp only [check, demand_pass pass, ok_bind, pure_bind]
        rw [release_eq_ok more.2]
        · congr 1
          funext service
          rw [split]
          by_cases place : service = item.dependent - 1
          · subst place
            simp [here]
            omega
          · simp [place]
        · intro service
          have bound := enough service
          rw [split] at bound
          by_cases place : service = item.dependent - 1
          · subst place
            simp
            omega
          · simp [place]
            omega
      · rw [if_neg here]
        change rest.foldlM (release serviceId) indegree = _
        rw [release_eq_ok more.2]
        · congr 1
          funext service
          rw [split, if_neg fun both => here both.2]
          rfl
        · intro service
          have bound := enough service
          rw [split] at bound
          omega

/-- What the loop knows when these services have started. -/
def startedScan (edges : List (Nat × Nat)) (order : List Nat) : StartScan where
  startOrder := order
  selected := fun service => decide (service + 1 ∈ order)
  indegree := fun service => unmet edges order (service + 1)

/-- The service of a rank is the least one that is ready. -/
theorem startNext_eq_ok {order : List Nat} {rank : Nat} {next : StartScan}
    (real : ∀ item ∈ tables.dependencies, item.dependent ≠ 0) :
    startNext header tables (startedScan tables.edges order) rank = .ok next ↔
      ∃ service, (Ready (serviceIds header.serviceCount) (Needs tables.edges) order service ∧
        ∀ other, Ready (serviceIds header.serviceCount) (Needs tables.edges) order other → service ≤ other) ∧
        (tables.services.getD (service - 1) emptyService).startupRank = rank ∧
        next = startedScan tables.edges (order ++ [service]) := by
  have waits : ∀ place < header.serviceCount,
      (!(startedScan tables.edges order).selected place && (startedScan tables.edges order).indegree place == 0) = true ↔
        Ready (serviceIds header.serviceCount) (Needs tables.edges) order (place + 1) := by
    intro place inside
    rw [ready_iff, Bool.and_eq_true, Bool.not_eq_true', beq_iff_eq, startedScan, decide_eq_false_iff_not]
    exact ⟨fun both => ⟨⟨by omega, inside⟩, both⟩, And.right⟩
  have started : ∀ {place : Nat}, place + 1 ∉ order →
      tables.dependencies.foldlM (release (place + 1)) (startedScan tables.edges order).indegree =
        .ok (startedScan tables.edges (order ++ [place + 1])).indegree := by
    intro place fresh
    have total := fun service => @unmet_snoc _ _ tables.edges order (service + 1) (place + 1) fresh
    refine (release_eq_ok real fun service => ?_).trans ?_
    · have sum := total service
      change meets tables.edges (place + 1) (service + 1) ≤ unmet tables.edges order (service + 1)
      omega
    · congr 1
      funext service
      have sum := total service
      change unmet tables.edges order (service + 1) - meets tables.edges (place + 1) (service + 1) =
        unmet tables.edges (order ++ [place + 1]) (service + 1)
      omega
  have later : ∀ place, ({
      startOrder := (startedScan tables.edges order).startOrder ++ [place + 1]
      selected := update (startedScan tables.edges order).selected place true
      indegree := (startedScan tables.edges (order ++ [place + 1])).indegree } : StartScan) =
        startedScan tables.edges (order ++ [place + 1]) := by
    intro place
    have chosen : update (startedScan tables.edges order).selected place true =
        (startedScan tables.edges (order ++ [place + 1])).selected := by
      funext service
      by_cases here : service = place
      · simp [here, startedScan]
      · simp [here, startedScan]
    rw [chosen]
    rfl
  unfold startNext orRefuse
  rw [bind_eq_ok_iff]
  simp only [orError_eq_ok, find?_range_eq_some, check, demand_bind_eq_ok]
  constructor
  · rintro ⟨place, ⟨fits, member, first⟩, ranked, rest⟩
    have inside := mem_range.mp member
    have ready := (waits place inside).mp fits
    rw [started ready.fresh, ok_bind, pure_eq_ok, later] at rest
    refine ⟨place + 1, ⟨ready, fun other another => ?_⟩, ranked, rest⟩
    by_contra less
    obtain ⟨bounds, -⟩ := ready_iff.mp another
    have unfit := first (other - 1) (by omega)
    rw [(waits (other - 1) (by omega)).mpr (by rwa [Nat.sub_add_cancel bounds.1])] at unfit
    cases unfit
  · rintro ⟨service, ⟨ready, least⟩, ranked, rfl⟩
    obtain ⟨bounds, -⟩ := ready_iff.mp ready
    obtain ⟨place, rfl⟩ := Nat.exists_eq_add_of_le' bounds.1
    refine ⟨place, ⟨(waits place (by omega)).mpr ready, mem_range.mpr (by omega), fun other less => ?_⟩, ranked, ?_⟩
    · rw [Bool.not_eq_true', ← Bool.not_eq_true, waits other (by omega)]
      intro another
      have above := least _ another
      omega
    · rw [started ready.fresh, ok_bind, pure_eq_ok, later]

/-- The services, in an order in which the least one that is ready comes next, and each at its rank. -/
structure Started (header : Header) (edges : List (Nat × Nat)) (rankOf : Nat → Nat) (order : List Nat) : Prop where
  greedy : Greedy (serviceIds header.serviceCount) (Needs edges) order
  length : order.length = header.serviceCount
  ranked : ∀ rank service, order[rank]? = some service → rankOf service = rank

theorem makeStartOrder_eq_ok {order : List Nat} (real : ∀ item ∈ tables.dependencies, item.dependent ≠ 0) :
    makeStartOrder header tables = .ok order ↔ (∀ item ∈ tables.dependencies, Available tables.services item) ∧
      Started header tables.edges (fun service => (tables.services.getD (service - 1) emptyService).startupRank) order := by
  unfold makeStartOrder
  rw [bind_eq_ok_iff]
  simp only [countDependency_eq_ok real]
  have first : (⟨[], fun _ => false, fun service => 0 + unmet (tables.dependencies.map DependencyMeta.edge) [] (service + 1)⟩ :
      StartScan) = startedScan tables.edges [] := by
    unfold startedScan
    congr 1
    funext service
    exact Nat.zero_add _
  have loop := fun scan => @greedy_loop_eq_ok _ _ _ _ (serviceIds header.serviceCount) (Needs tables.edges)
    (startNext header tables) (startedScan tables.edges)
    (fun service rank => (tables.services.getD (service - 1) emptyService).startupRank = rank)
    (fun _ _ _ => startNext_eq_ok real) header.serviceCount scan
  constructor
  · rintro ⟨_, ⟨available, rfl⟩, ran⟩
    rw [first] at ran
    obtain ⟨scan, ran, same⟩ := bind_eq_ok ran
    obtain ⟨order, ⟨greedy, length, ranked⟩, rfl⟩ := (loop scan).mp ran
    obtain rfl := pure_eq_ok.mp same
    exact ⟨available, greedy, length, ranked⟩
  · rintro ⟨available, started⟩
    refine ⟨_, ⟨available, rfl⟩, ?_⟩
    rw [first]
    exact bind_eq_ok_iff.mpr ⟨_, (loop _).mpr ⟨order, ⟨started.greedy, started.length, started.ranked⟩, rfl⟩, rfl⟩

end Native

namespace Oracle

section Rounds

variable {dependencies : List Dependency} {order : List Nat} {count : Nat}

def Dependency.edge (item : Dependency) : Nat × Nat := (item.dependentServiceId, item.prerequisiteServiceId)

theorem count_dependencies : ∀ (items : List Dependency) (indegree : Nat → Int),
    items.foldl (fun indegree dependency =>
      update indegree dependency.dependentServiceId (indegree dependency.dependentServiceId + 1)) indegree =
      fun service => indegree service + unmet (items.map Dependency.edge) [] service
  | [], indegree => funext fun _ => (Int.add_zero _).symm
  | item :: rest, indegree => by
      rw [foldl_cons, count_dependencies rest]
      funext service
      unfold unmet
      rw [map_cons, countP_cons]
      by_cases here : service = item.dependentServiceId
      · simp [here, Dependency.edge]
        omega
      · simp [here, Ne.symm here, Dependency.edge]

theorem release_dependencies (ready : Nat) : ∀ (items : List Dependency) (indegree : Nat → Int),
    ((items.filter (·.prerequisiteServiceId = ready)).map Dependency.dependentServiceId).foldl
        (fun indegree dependent => update indegree dependent (indegree dependent - 1)) indegree =
      fun service => indegree service - meets (items.map Dependency.edge) ready service
  | [], indegree => funext fun _ => (Int.sub_zero _).symm
  | item :: rest, indegree => by
      have split : ∀ service, meets ((item :: rest).map Dependency.edge) ready service =
          meets (rest.map Dependency.edge) ready service +
            if item.dependentServiceId = service ∧ item.prerequisiteServiceId = ready then 1 else 0 := by
        intro service
        unfold meets
        rw [map_cons, countP_cons]
        exact congrArg _ (if_congr decide_eq_true_iff rfl rfl)
      rw [filter_cons]
      by_cases here : item.prerequisiteServiceId = ready
      · rw [if_pos (decide_eq_true here), map_cons, foldl_cons, release_dependencies ready rest]
        funext service
        rw [split]
        by_cases place : service = item.dependentServiceId
        · simp [place, here]
          omega
        · simp [place, Ne.symm place]
      · rw [if_neg (by simpa using here), release_dependencies ready rest]
        funext service
        rw [split, if_neg fun both => here both.2]
        rfl

/-- What the loop knows when these services have started. -/
def startedScan (edges : List (Nat × Nat)) (order : List Nat) : TopologicalScan where
  order := order
  indegree := fun service => unmet edges order service

theorem takeReady_eq_ok {next : TopologicalScan} :
    takeReady (serviceIds count) dependencies (startedScan (dependencies.map Dependency.edge) order) = .ok next ↔
      ∃ service, (Ready (serviceIds count) (Needs (dependencies.map Dependency.edge)) order service ∧
        ∀ other, Ready (serviceIds count) (Needs (dependencies.map Dependency.edge)) order other → service ≤ other) ∧
        True ∧ next = startedScan (dependencies.map Dependency.edge) (order ++ [service]) := by
  generalize edged : dependencies.map Dependency.edge = edges
  have waits : ∀ service, service ∈ (serviceIds count).filter (fun service =>
      (startedScan edges order).indegree service = 0 ∧
        service ∉ (startedScan edges order).order) ↔
      Ready (serviceIds count) (Needs edges) order service := by
    intro service
    rw [ready_iff, mem_filter, mem_serviceIds, decide_eq_true_iff, and_comm (a := _ = (0 : Int))]
    refine and_congr_right fun _ => and_congr_right fun _ => ?_
    exact Int.natCast_eq_zero
  have later : ∀ service, service ∉ order → ({
      order := (startedScan edges order).order ++ [service]
      indegree := ((dependencies.filter (·.prerequisiteServiceId = service)).map Dependency.dependentServiceId).foldl
        (fun indegree dependent => update indegree dependent (indegree dependent - 1))
        (startedScan edges order).indegree } : TopologicalScan) =
      startedScan edges (order ++ [service]) := by
    intro service fresh
    rw [release_dependencies, edged]
    unfold startedScan
    congr 1
    funext other
    have total := @unmet_snoc _ _ edges order other service fresh
    dsimp only
    omega
  unfold takeReady
  simp only [check, demand_bind_eq_ok, pure_eq_ok]
  cases found : ((serviceIds count).filter (fun service =>
      (startedScan edges order).indegree service = 0 ∧
        service ∉ (startedScan edges order).order)).min? with
  | none =>
    rw [min?_eq_none_iff] at found
    constructor
    · exact fun both => absurd rfl both.1
    · rintro ⟨service, ⟨ready, -⟩, -⟩
      rw [← waits, found] at ready
      cases ready
  | some service =>
    rw [min?_eq_some_iff] at found
    obtain ⟨member, least⟩ := found
    have ready := (waits service).mp member
    obtain ⟨bounds, -⟩ := ready_iff.mp ready
    rw [Option.getD_some, later service ready.fresh]
    constructor
    · rintro ⟨-, same⟩
      exact ⟨service, ⟨ready, fun other another => least other ((waits other).mpr another)⟩, trivial, same⟩
    · rintro ⟨other, ⟨another, below⟩, -, same⟩
      obtain rfl : other = service := le_antisymm (below service ready) (least other ((waits other).mpr another))
      exact ⟨by omega, same⟩

theorem topologicalOrder_eq_ok : topologicalOrder (serviceIds count) dependencies = .ok order ↔
    Greedy (serviceIds count) (Needs (dependencies.map Dependency.edge)) order ∧ order.length = count := by
  unfold topologicalOrder
  have length : (serviceIds count).length = count := length_range'
  have first : (⟨[], dependencies.foldl (fun indegree dependency =>
      update indegree dependency.dependentServiceId (indegree dependency.dependentServiceId + 1))
      (fun _ => (0 : Int))⟩ : TopologicalScan) = startedScan (dependencies.map Dependency.edge) [] := by
    rw [count_dependencies]
    congr 1
    funext service
    exact Int.zero_add _
  have loop := fun scan => @greedy_loop_eq_ok _ _ _ _ (serviceIds count) (Needs (dependencies.map Dependency.edge))
    (fun scan _ => takeReady (serviceIds count) dependencies scan) (startedScan (dependencies.map Dependency.edge))
    (fun _ _ => True) (fun _ _ _ => takeReady_eq_ok) count scan
  dsimp only
  rw [first, length, bind_eq_ok_iff]
  constructor
  · rintro ⟨scan, ran, same⟩
    obtain ⟨made, ⟨greedy, long, -⟩, rfl⟩ := (loop scan).mp ran
    obtain rfl := pure_eq_ok.mp same
    exact ⟨greedy, long⟩
  · rintro ⟨greedy, long⟩
    exact ⟨_, (loop _).mpr ⟨order, ⟨greedy, long, fun _ _ _ => trivial⟩, rfl⟩, rfl⟩

end Rounds

end Oracle

end PooleOS.InitSys
