import PooleOS.Firmware.Records
import PooleOS.Lib.Layout

/- The two parsers of PFWM1 accept the same bytes and read the same records. -/
namespace PooleOS.Firmware

open List Nat

section Items

variable (data : Bytes)

/-- The record of a component. -/
def recordAt (index : Nat) : Bytes := data.slice (headerBytes + index * componentRecordBytes) componentRecordBytes

def item (index : Nat) : Component := componentOf (recordAt data index)

def Oracle.item (index : Nat) : Oracle.Component := Oracle.componentOf (recordAt data index)

/-- The record of a dependency. -/
def link (index : Nat) : Dependency :=
  let offset := headerBytes + data.word 32 4 * componentRecordBytes + index * dependencyRecordBytes
  ⟨data.word offset 4, data.word (offset + 4) 4, data.word (offset + 8) 8⟩

/-- Where the dependencies of a component start when those before it are packed. -/
def starts : Nat → Nat
  | 0 => 0
  | index + 1 => starts index + (item data index).dependencyCount

/-- What a component has to be after those before it. -/
structure ComponentFits (index : Nat) : Prop where
  rule : ComponentRule (recordAt data index)
  order : 0 < index → (item data (index - 1)).phase < (item data index).phase ∨
    ((item data (index - 1)).phase = (item data index).phase ∧
      (item data (index - 1)).componentId < (item data index).componentId)
  fresh : ∀ earlier < index, (item data earlier).componentId ≠ (item data index).componentId ∧
    ¬ ((item data earlier).resourceGuid = (item data index).resourceGuid ∧
      (item data earlier).hardwareInstance = (item data index).hardwareInstance)
  start : (item data index).dependencyStart = starts data index
  room : starts data (index + 1) ≤ data.word 36 4
  payload : (item data index).externalPayloadBytes ≤ data.word 64 8
  phase : (item data index).phase < maxComponents

/-- What a dependency has to be. -/
structure LinkFits (index source required : Nat) : Prop where
  inside : source < data.word 32 4 ∧ required < data.word 32 4
  names : (item data source).componentId = (link data index).componentId ∧
    (item data required).componentId = (link data index).requiredComponentId
  distinct : (item data source).componentId ≠ (item data required).componentId
  layout : (item data source).dependencyStart ≤ index ∧
    index < (item data source).dependencyStart + (item data source).dependencyCount
  order : (item data source).dependencyStart < index →
    (link data (index - 1)).requiredComponentId < (link data index).requiredComponentId
  version : (link data index).minimumVersion = (item data required).targetVersion
  phase : (item data required).phase < (item data source).phase

variable {data} {sha : Sha256} {index : Nat}

section Tables

variable (rule : HeaderRule sha data)

include rule

theorem record_inside (less : index < data.word 32 4) :
    headerBytes + index * componentRecordBytes + componentRecordBytes ≤ data.length := by
  have whole := rule.whole
  have step : (index + 1) * componentRecordBytes ≤ data.word 32 4 * componentRecordBytes :=
    mul_le_mul_right _ less
  rw [succ_mul] at step
  omega

theorem component_ok {component : Component} : (bundleOf data).component index = .ok component ↔
    (index < data.word 32 4 ∧ ComponentRule (recordAt data index)) ∧ component = item data index := by
  rw [Bundle.component, demand_bind_eq_ok]
  rw [parseComponent_ok, and_assoc]
  exact and_congr_right (fun less => ⟨fun all => all.2, fun both => ⟨record_inside rule less, both⟩⟩)

theorem link_inside (less : index < data.word 36 4) :
    headerBytes + data.word 32 4 * componentRecordBytes + index * dependencyRecordBytes + 16 ≤ data.length := by
  have whole := rule.whole
  have step : (index + 1) * dependencyRecordBytes ≤ data.word 36 4 * dependencyRecordBytes :=
    mul_le_mul_right _ less
  rw [succ_mul] at step
  have size : dependencyRecordBytes = 16 := rfl
  omega

theorem dependency_ok (less : index < data.word 36 4) : (bundleOf data).dependency index = .ok (link data index) := by
  have inside := link_inside rule less
  have word : ∀ {place width}, place + width ≤ data.length →
      Bundle.readWord data place width = .ok (data.word place width) :=
    fun within => readWord_ok.mpr ⟨within, rfl⟩
  have held : index < (bundleOf data).dependencyCount := less
  unfold Bundle.dependency
  rw [demand_pass held, ok_bind]
  simp only [bundleOf]
  rw [word (by omega), ok_bind, word (by omega), ok_bind, word (by omega), ok_bind]
  rfl

end Tables

section Loops

/-- The phases before an index, as bits. -/
def phaseMask (data : Bytes) : Nat → Nat
  | 0 => 0
  | index + 1 => phaseMask data index ||| 1 <<< (item data index).phase

/-- What the native loop carries into a round. -/
def scanned (data : Bytes) (index : Nat) : Scan where
  previousPhase := if index = 0 then 0 else (item data (index - 1)).phase
  previousId := if index = 0 then 0 else (item data (index - 1)).componentId
  expectedDependencyStart := starts data index
  seenPhaseMask := phaseMask data index

variable (rule : HeaderRule sha data)

include rule

theorem scanComponent_ok (less : index < data.word 32 4) (earlier : ∀ before < index, ComponentFits data before)
    {next : Scan} : scanComponent (bundleOf data) (scanned data index) index = .ok next ↔
      ComponentFits data index ∧ next = scanned data (index + 1) := by
  have read : ∀ before < index, (bundleOf data).component before = .ok (item data before) :=
    fun before below => (component_ok rule).mpr ⟨⟨lt_trans below less, (earlier before below).rule⟩, rfl⟩
  have fresh : ∀ before ∈ List.range index, (do
      let other ← (bundleOf data).component before
      demand (other.componentId ≠ (item data index).componentId) .componentId
      demand (¬ (other.resourceGuid = (item data index).resourceGuid ∧
        other.hardwareInstance = (item data index).hardwareInstance)) Error.componentGuid) = .ok () ↔
      (item data before).componentId ≠ (item data index).componentId ∧
        ¬ ((item data before).resourceGuid = (item data index).resourceGuid ∧
          (item data before).hardwareInstance = (item data index).hardwareInstance) := by
    intro before member
    rw [read before (List.mem_range.mp member), ok_bind, demand_bind_eq_ok, demand_eq_ok]
  have small : starts data index ≤ data.word 36 4 := by
    rcases Nat.eq_zero_or_pos index with rfl | positive
    · exact zero_le _
    · have before := (earlier (index - 1) (by omega)).room
      rw [Nat.sub_add_cancel positive] at before
      exact before
  have narrow : (item data index).dependencyCount < 2 ^ 16 := Bytes.word_lt ..
  have limit := rule.dependencies
  have fits : starts data index + (item data index).dependencyCount < 2 ^ 32 := by
    unfold maxDependencies at limit
    omega
  have added : checkedAdd (2 ^ 32) (starts data index) (item data index).dependencyCount =
      some (starts data (index + 1)) := checkedAdd_eq_some.mpr ⟨fits, rfl⟩
  have ordered : ¬ (0 < index ∧ ((item data index).phase < (scanned data index).previousPhase ∨
      ((item data index).phase = (scanned data index).previousPhase ∧
        (item data index).componentId ≤ (scanned data index).previousId))) ↔
      (0 < index → (item data (index - 1)).phase < (item data index).phase ∨
        ((item data (index - 1)).phase = (item data index).phase ∧
          (item data (index - 1)).componentId < (item data index).componentId)) := by
    rcases Nat.eq_zero_or_pos index with rfl | positive
    · simp
    · simp only [scanned, if_neg (ne_of_gt positive)]
      omega
  have last : scanned data (index + 1) = ⟨(item data index).phase, (item data index).componentId,
      starts data (index + 1), phaseMask data index ||| 1 <<< (item data index).phase⟩ := rfl
  unfold scanComponent
  rw [bind_eq_ok_iff, last]
  simp only [component_ok rule, unit_bind_eq_ok, demand_eq_ok, forM_eq_ok]
  constructor
  · rintro ⟨_, ⟨⟨_, record⟩, rfl⟩, order, apart, start, rest⟩
    change (orError (checkedAdd _ (starts data index) _) _ >>= _) = _ at rest
    rw [added, orError_some, ok_bind] at rest
    simp only [demand_bind_eq_ok, pure_eq_ok] at rest
    obtain ⟨room, payload, phase, rfl⟩ := rest
    exact ⟨⟨record, ordered.mp order,
      fun before below => (fresh before (List.mem_range.mpr below)).mp (apart before (List.mem_range.mpr below)),
      start, Nat.le_of_not_lt room, Nat.le_of_not_lt payload, Nat.lt_of_not_le phase⟩, rfl⟩
  · rintro ⟨fit, rfl⟩
    refine ⟨_, ⟨⟨less, fit.rule⟩, rfl⟩, ordered.mpr fit.order,
      fun before member => (fresh before member).mpr (fit.fresh before (List.mem_range.mp member)), fit.start, ?_⟩
    change (orError (checkedAdd _ (starts data index) _) _ >>= _) = _
    rw [added, orError_some, ok_bind]
    simp only [demand_bind_eq_ok, pure_eq_ok]
    exact ⟨not_lt.mpr fit.room, not_lt.mpr fit.payload, not_le.mpr fit.phase, rfl⟩

omit rule

/-- What the oracle's loop carries into a round. -/
def Oracle.scanned (data : Bytes) (index : Nat) : Oracle.Scan where
  previousKey := if index = 0 then none
    else some ((Firmware.item data (index - 1)).phase, (Firmware.item data (index - 1)).componentId)
  resourceKeys := (Finset.range index).image
    (fun before => ((Firmware.item data before).resourceGuid, (Firmware.item data before).hardwareInstance))
  componentIds := (Finset.range index).image (fun before => (Firmware.item data before).componentId)
  expectedDependencyStart := starts data index
  seenPhases := (Finset.range index).image (fun before => (Firmware.item data before).phase)

theorem oracle_scanComponent_ok (record : ComponentRule (recordAt data index)) {next : Oracle.Scan} :
    Oracle.scanComponent (data.word 36 4) (data.word 64 8) (Oracle.scanned data index) (Oracle.item data index) =
      .ok next ↔ ComponentFits data index ∧ next = Oracle.scanned data (index + 1) := by
  have order : ¬ (∃ previous ∈ (Oracle.scanned data index).previousKey,
      Oracle.keyLe ((Oracle.item data index).phase, (Oracle.item data index).componentId) previous) ↔
      (0 < index → (item data (index - 1)).phase < (item data index).phase ∨
        ((item data (index - 1)).phase = (item data index).phase ∧
          (item data (index - 1)).componentId < (item data index).componentId)) := by
    rcases Nat.eq_zero_or_pos index with rfl | positive
    · simp [Oracle.scanned]
    · simp only [Oracle.scanned, if_neg (Nat.ne_of_gt positive), Option.mem_some_iff, exists_eq_left', Oracle.keyLe]
      change ¬ ((item data index).phase < _ ∨ ((item data index).phase = _ ∧ (item data index).componentId ≤ _)) ↔ _
      omega
  have fresh : ((Oracle.item data index).componentId ∉ (Oracle.scanned data index).componentIds ∧
      ((Oracle.item data index).resourceGuid, (Oracle.item data index).hardwareInstance) ∉
        (Oracle.scanned data index).resourceKeys) ↔
      ∀ before < index, (item data before).componentId ≠ (item data index).componentId ∧
        ¬ ((item data before).resourceGuid = (item data index).resourceGuid ∧
          (item data before).hardwareInstance = (item data index).hardwareInstance) := by
    simp only [Oracle.scanned, Finset.mem_image, Finset.mem_range, Prod.mk.injEq, not_exists, not_and]
    exact ⟨fun both before less => ⟨both.1 before less, both.2 before less⟩,
      fun all => ⟨fun before less => (all before less).1, fun before less => (all before less).2⟩⟩
  have last : Oracle.scanned data (index + 1) = ⟨some ((item data index).phase, (item data index).componentId),
      insert ((item data index).resourceGuid, (item data index).hardwareInstance) (Oracle.scanned data index).resourceKeys,
      insert (item data index).componentId (Oracle.scanned data index).componentIds, starts data (index + 1),
      insert (item data index).phase (Oracle.scanned data index).seenPhases⟩ := by
    simp only [Oracle.scanned, Finset.range_add_one, Finset.image_insert, if_neg (Nat.succ_ne_zero index),
      Nat.add_sub_cancel]
  unfold Oracle.scanComponent
  simp only [demand_bind_eq_ok, pure_eq_ok]
  rw [last]
  constructor
  · rintro ⟨key, phase, id, resource, start, room, payload, rfl⟩
    exact ⟨⟨record, order.mp key, fresh.mp ⟨id, resource⟩, start, Nat.le_of_not_lt room, Nat.le_of_not_lt payload,
      Nat.lt_of_not_le phase⟩, rfl⟩
  · rintro ⟨fit, rfl⟩
    obtain ⟨id, resource⟩ := fresh.mpr fit.fresh
    exact ⟨order.mpr fit.order, Nat.not_le.mpr fit.phase, id, resource, fit.start, Nat.not_lt.mpr fit.room,
      Nat.not_lt.mpr fit.payload, rfl⟩

end Loops

section Phases

/-- Phases start at zero and leave no gap. -/
def Contiguous (data : Bytes) (count : Nat) : Prop :=
  ∀ phase, (∃ index < count, (item data index).phase = phase) ↔ phase ≤ (item data (count - 1)).phase

theorem testBit_phaseMask (phase : Nat) : ∀ {count : Nat},
    (phaseMask data count).testBit phase = true ↔ ∃ index < count, (item data index).phase = phase
  | 0 => by simp [phaseMask]
  | more + 1 => by
      rw [phaseMask, testBit_or, one_shiftLeft, testBit_two_pow, Bool.or_eq_true, testBit_phaseMask phase,
        decide_eq_true_eq]
      constructor
      · rintro (⟨index, less, same⟩ | same)
        · exact ⟨index, lt_succ_of_lt less, same⟩
        · exact ⟨more, lt_succ_self more, same⟩
      · rintro ⟨index, less, same⟩
        rcases Nat.lt_succ_iff_lt_or_eq.mp less with before | rfl
        · exact Or.inl ⟨index, before, same⟩
        · exact Or.inr same

theorem phaseMask_eq {count : Nat} :
    phaseMask data count = (1 <<< ((item data (count - 1)).phase + 1)) - 1 ↔ Contiguous data count := by
  have bits : ∀ phase, ((1 <<< ((item data (count - 1)).phase + 1)) - 1).testBit phase = true ↔
      phase ≤ (item data (count - 1)).phase := by
    intro phase
    rw [Nat.one_shiftLeft, Nat.testBit_two_pow_sub_one, decide_eq_true_eq, Nat.lt_succ_iff]
  constructor
  · intro same phase
    rw [← testBit_phaseMask, same, bits]
  · intro contiguous
    apply eq_of_testBit_eq
    intro phase
    exact Bool.eq_iff_iff.mpr ((testBit_phaseMask phase).trans ((contiguous phase).trans (bits phase).symm))

/-- The last phase is the highest one. -/
theorem phase_le_last {count : Nat} (fits : ∀ index < count, ComponentFits data index) :
    ∀ index < count, (item data index).phase ≤ (item data (count - 1)).phase := by
  induction count with
  | zero => exact fun index less => absurd less (not_lt_zero index)
  | succ count ih =>
    intro index less
    rw [Nat.add_sub_cancel]
    rcases Nat.lt_succ_iff_lt_or_eq.mp less with before | rfl
    · have earlier := ih (fun other below => fits other (lt_succ_of_lt below)) index before
      have step := (fits count (lt_succ_self count)).order (by omega)
      omega
    · exact le_refl _

theorem seenPhases_eq {count : Nat} (some : 1 ≤ count) (fits : ∀ index < count, ComponentFits data index) :
    (Oracle.scanned data count).seenPhases = Finset.range ((Oracle.scanned data count).seenPhases.sup id + 1) ↔
      Contiguous data count := by
  have highest : (Oracle.scanned data count).seenPhases.sup id = (item data (count - 1)).phase := by
    apply Nat.le_antisymm
    · refine Finset.sup_le (fun phase member => ?_)
      obtain ⟨index, inside, rfl⟩ := Finset.mem_image.mp member
      exact phase_le_last fits index (Finset.mem_range.mp inside)
    · refine Finset.le_sup (f := id) (Finset.mem_image.mpr ⟨count - 1, Finset.mem_range.mpr (by omega), rfl⟩)
  rw [highest, Finset.ext_iff]
  simp only [Oracle.scanned, Finset.mem_image, Finset.mem_range, Nat.lt_succ_iff]
  rfl

end Phases

section Links

/-- The identifiers of fitting components differ. -/
theorem componentId_inj {count : Nat} (fits : ∀ index < count, ComponentFits data index) {one two : Nat}
    (first : one < count) (second : two < count)
    (same : (item data one).componentId = (item data two).componentId) : one = two := by
  rcases lt_trichotomy one two with less | equal | more
  · exact absurd same ((fits two second).fresh one less).1
  · exact equal
  · exact absurd same.symm ((fits one first).fresh two more).1

theorem componentFrom_ok (rule : HeaderRule sha data) (fits : ∀ index < data.word 32 4, ComponentFits data index)
    {componentId : Nat} {component : Component} :
    ∀ {indices : List Nat}, (∀ index ∈ indices, index < data.word 32 4) →
      ((bundleOf data).componentFrom componentId indices = .ok component ↔
        ∃ index ∈ indices, (item data index).componentId = componentId ∧ component = item data index)
  | [], _ => by simp [Bundle.componentFrom]
  | index :: rest, inside => by
      obtain ⟨less, others⟩ := forall_mem_cons.mp inside
      have read : (bundleOf data).component index = .ok (item data index) :=
        (component_ok rule).mpr ⟨⟨less, (fits index less).rule⟩, rfl⟩
      rw [Bundle.componentFrom, read, ok_bind]
      by_cases here : (item data index).componentId = componentId
      · rw [if_pos here, pure_eq_ok]
        constructor
        · exact fun same => ⟨index, mem_cons_self .., here, same⟩
        · rintro ⟨other, member, name, rfl⟩
          rw [componentId_inj fits (inside other member) less (name.trans here.symm)]
      · rw [if_neg here, componentFrom_ok rule fits others]
        constructor
        · rintro ⟨other, member, found⟩
          exact ⟨other, mem_cons_of_mem _ member, found⟩
        · rintro ⟨other, member, name, same⟩
          rcases mem_cons.mp member with rfl | later
          · exact absurd name here
          · exact ⟨other, later, name, same⟩

theorem componentById_ok (rule : HeaderRule sha data) (fits : ∀ index < data.word 32 4, ComponentFits data index)
    {componentId : Nat} {component : Component} : (bundleOf data).componentById componentId = .ok component ↔
      ∃ index < data.word 32 4, (item data index).componentId = componentId ∧ component = item data index := by
  have each := @componentFrom_ok data sha rule fits componentId component (range (data.word 32 4))
    (fun _ member => List.mem_range.mp member)
  simp only [List.mem_range] at each
  exact each

theorem oracle_componentById_eq (fits : ∀ index < data.word 32 4, ComponentFits data index) {componentId : Nat}
    {component : Oracle.Component} :
    Oracle.componentById ((List.range (data.word 32 4)).map (Oracle.item data)) componentId = some component ↔
      ∃ index < data.word 32 4, (item data index).componentId = componentId ∧ component = Oracle.item data index := by
  constructor
  · intro found
    have name := find?_some found
    have member := mem_of_find?_eq_some found
    rw [mem_reverse] at member
    obtain ⟨index, inside, rfl⟩ := List.mem_map.mp member
    exact ⟨index, List.mem_range.mp inside, of_decide_eq_true name, rfl⟩
  · rintro ⟨index, less, name, rfl⟩
    have held : Oracle.item data index ∈ ((List.range (data.word 32 4)).map (Oracle.item data)).reverse :=
      List.mem_reverse.mpr (List.mem_map_of_mem (List.mem_range.mpr less))
    cases found : Oracle.componentById ((List.range (data.word 32 4)).map (Oracle.item data)) componentId with
    | none => exact absurd (decide_eq_true name) (find?_eq_none.mp found _ held)
    | some component =>
      have other := find?_some found
      have member := mem_of_find?_eq_some found
      rw [mem_reverse] at member
      obtain ⟨place, inside, rfl⟩ := List.mem_map.mp member
      rw [componentId_inj fits (List.mem_range.mp inside) less ((of_decide_eq_true other).trans name.symm)]

theorem checkDependency_ok (rule : HeaderRule sha data) (fits : ∀ index < data.word 32 4, ComponentFits data index)
    (less : index < data.word 36 4) : checkDependency (bundleOf data) index = .ok () ↔
      ∃ source required, LinkFits data index source required := by
  have previous : (bundleOf data).dependency (index - 1) = .ok (link data (index - 1)) :=
    dependency_ok rule (by omega)
  unfold checkDependency
  rw [dependency_ok rule less, ok_bind, previous, bind_eq_ok_iff]
  simp only [ok_bind]
  constructor
  · rintro ⟨_, first, rest⟩
    obtain ⟨source, inside, name, rfl⟩ := (componentById_ok rule fits).mp first
    obtain ⟨_, second, rest⟩ := bind_eq_ok rest
    obtain ⟨required, inside', name', rfl⟩ := (componentById_ok rule fits).mp second
    rw [demand_bind_eq_ok, demand_bind_eq_ok, when_bind_eq_ok, demand_bind_eq_ok, demand_eq_ok, demand_eq_ok] at rest
    obtain ⟨distinct, layout, order, version, phase⟩ := rest
    exact ⟨source, required, ⟨inside, inside'⟩, ⟨name, name'⟩, distinct, layout,
      fun after => Nat.lt_of_not_le (order after), version, Nat.lt_of_not_le phase⟩
  · rintro ⟨source, required, fit⟩
    refine ⟨item data source, (componentById_ok rule fits).mpr ⟨source, fit.inside.1, fit.names.1, rfl⟩, ?_⟩
    rw [(componentById_ok rule fits).mpr ⟨required, fit.inside.2, fit.names.2, rfl⟩, ok_bind, demand_bind_eq_ok,
      demand_bind_eq_ok, when_bind_eq_ok, demand_bind_eq_ok, demand_eq_ok, demand_eq_ok]
    exact ⟨fit.distinct, fit.layout, fun after => not_le.mpr (fit.order after), fit.version,
      not_le.mpr fit.phase⟩

/-- What the oracle has read before a round. -/
theorem oracle_parseDependency_ok (fits : ∀ index < data.word 32 4, ComponentFits data index) {next : List Dependency} :
    Oracle.parseDependency data (headerBytes + data.word 32 4 * componentRecordBytes)
      ((List.range (data.word 32 4)).map (Oracle.item data)) ((List.range index).map (link data)) index = .ok next ↔
        (∃ source required, LinkFits data index source required) ∧ next = (List.range (index + 1)).map (link data) := by
  have grown : (List.range (index + 1)).map (link data) = (List.range index).map (link data) ++ [link data index] := by
    rw [List.range_succ, List.map_append, List.map_singleton]
  have last : 0 < index → ((List.range index).map (link data)).getLast? = some (link data (index - 1)) := by
    intro positive
    rw [List.getLast?_map, List.getLast?_range, if_neg (Nat.ne_of_gt positive), Option.map_some]
  have order : ∀ start : Nat, (0 ≤ (index : Int) - start) →
      (¬ ((index : Int) - start ≠ 0 ∧ ∃ last ∈ ((List.range index).map (link data)).getLast?,
        (link data index).requiredComponentId ≤ last.requiredComponentId) ↔
          (start < index → (link data (index - 1)).requiredComponentId < (link data index).requiredComponentId)) := by
    intro start after
    by_cases same : index = start
    · simp [same]
    · have positive : start < index := by omega
      have apart : (index : Int) - start ≠ 0 := by omega
      rw [last (by omega)]
      simp [apart, positive]
  unfold Oracle.parseDependency
  rw [grown, bind_eq_ok_iff]
  simp only [orError_eq_ok]
  constructor
  · rintro ⟨_, first, rest⟩
    obtain ⟨source, inside, name, rfl⟩ := (oracle_componentById_eq fits).mp first
    obtain ⟨_, second, rest⟩ := bind_eq_ok rest
    obtain ⟨required, inside', name', rfl⟩ := (oracle_componentById_eq fits).mp (orError_eq_ok.mp second)
    simp only [demand_bind_eq_ok, pure_eq_ok] at rest
    obtain ⟨distinct, layout, ordered, version, phase, rfl⟩ := rest
    refine ⟨⟨source, required, ⟨inside, inside'⟩, ⟨name, name'⟩, distinct, ?_,
      (order _ layout.1).mp ordered, version, Nat.lt_of_not_le phase⟩, rfl⟩
    have here : (0 : Int) ≤ index - (item data source).dependencyStart ∧
      (index : Int) - (item data source).dependencyStart < (item data source).dependencyCount := layout
    omega
  · rintro ⟨⟨source, required, fit⟩, rfl⟩
    obtain ⟨after, before⟩ := fit.layout
    have layout : (0 : Int) ≤ index - (item data source).dependencyStart ∧
        (index : Int) - (item data source).dependencyStart < (item data source).dependencyCount := by omega
    refine ⟨Oracle.item data source, (oracle_componentById_eq fits).mpr ⟨source, fit.inside.1, fit.names.1, rfl⟩, ?_⟩
    have found := (oracle_componentById_eq fits).mpr ⟨required, fit.inside.2, fit.names.2, rfl⟩
    change (orError (Oracle.componentById _ (link data index).requiredComponentId) _ >>= _) = _
    rw [found, orError_some, ok_bind]
    simp only [demand_bind_eq_ok, pure_eq_ok]
    exact ⟨fit.distinct, layout, (order _ layout.1).mpr fit.order, fit.version, Nat.not_le.mpr fit.phase, rfl⟩

end Links

section Whole

/-- What both parsers accept. -/
structure Accepted (sha : Sha256) (data : Bytes) : Prop where
  header : HeaderRule sha data
  components : ∀ index < data.word 32 4, ComponentFits data index
  packed : starts data (data.word 32 4) = data.word 36 4
  phases : Contiguous data (data.word 32 4)
  dependencies : ∀ index < data.word 36 4, ∃ source required, LinkFits data index source required

theorem parse_ok {bundle : Bundle} : parse sha data = .ok bundle ↔ Accepted sha data ∧ bundle = bundleOf data := by
  unfold parse
  rw [bind_eq_ok_iff]
  simp only [parseHeader_ok]
  have loop : ∀ (rule : HeaderRule sha data) last,
      (List.range (data.word 32 4)).foldlM (scanComponent (bundleOf data)) ⟨0, 0, 0, 0⟩ = .ok last ↔
        (∀ index < data.word 32 4, ComponentFits data index) ∧ last = scanned data (data.word 32 4) :=
    fun rule => @foldlM_range_closed _ _ _ (scanned data) (ComponentFits data) _
      (fun index less earlier next => scanComponent_ok rule less earlier)
  have last : ∀ {rule : HeaderRule sha data}, (scanned data (data.word 32 4)).previousPhase =
      (item data (data.word 32 4 - 1)).phase := by
    intro rule
    have some := rule.components
    rw [scanned, if_neg (by omega)]
  constructor
  · rintro ⟨_, ⟨rule, rfl⟩, ran⟩
    obtain ⟨scan, looped, ran⟩ := bind_eq_ok ran
    obtain ⟨fits, rfl⟩ := (loop rule scan).mp looped
    rw [demand_bind_eq_ok, demand_bind_eq_ok, unit_bind_eq_ok, forM_eq_ok, pure_eq_ok] at ran
    obtain ⟨packed, phases, links, rfl⟩ := ran
    rw [@last rule] at phases
    exact ⟨⟨rule, fits, packed, phaseMask_eq.mp phases, fun index less =>
      (checkDependency_ok rule fits less).mp (links index (List.mem_range.mpr less))⟩, rfl⟩
  · rintro ⟨accepted, rfl⟩
    refine ⟨_, ⟨accepted.header, rfl⟩, ?_⟩
    refine bind_eq_ok_iff.mpr ⟨_, (loop accepted.header _).mpr ⟨accepted.components, rfl⟩, ?_⟩
    rw [demand_bind_eq_ok, demand_bind_eq_ok, unit_bind_eq_ok, forM_eq_ok, @last accepted.header]
    exact ⟨accepted.packed, phaseMask_eq.mpr accepted.phases, fun index member =>
      (checkDependency_ok accepted.header accepted.components (List.mem_range.mp member)).mpr
        (accepted.dependencies index (List.mem_range.mp member)), rfl⟩

/-- The bundle that the oracle reads. -/
def Oracle.bundleOf (data : Bytes) : Oracle.Bundle :=
  { Oracle.headerOf data with
    components := (List.range (data.word 32 4)).map (Oracle.item data)
    dependencies := (List.range (data.word 36 4)).map (link data) }

theorem oracle_parse_ok {bundle : Oracle.Bundle} :
    Oracle.parse sha data = .ok bundle ↔ Accepted sha data ∧ bundle = Oracle.bundleOf data := by
  unfold Oracle.parse
  rw [bind_eq_ok_iff]
  simp only [oracle_parseHeader_ok]
  have read : ∀ (_ : HeaderRule sha data) components, (List.range (data.word 32 4)).mapM
      (fun index => Oracle.parseComponent data (headerBytes + index * componentRecordBytes)) = .ok components ↔
        (∀ index ∈ List.range (data.word 32 4), ComponentRule (recordAt data index)) ∧
          components = (List.range (data.word 32 4)).map (Oracle.item data) :=
    fun rule => mapM_closed (fun index member value =>
      oracle_parseComponent_ok (record_inside rule (List.mem_range.mp member)))
  have loop : (∀ index ∈ List.range (data.word 32 4), ComponentRule (recordAt data index)) → ∀ last,
      ((List.range (data.word 32 4)).map (Oracle.item data)).foldlM
        (Oracle.scanComponent (data.word 36 4) (data.word 64 8)) ⟨none, ∅, ∅, 0, ∅⟩ = .ok last ↔
          (∀ index < data.word 32 4, ComponentFits data index) ∧ last = Oracle.scanned data (data.word 32 4) := by
    intro records last
    rw [List.foldlM_map]
    exact @foldlM_range_closed _ _ _ (Oracle.scanned data) (ComponentFits data) _
      (fun index less _ next => oracle_scanComponent_ok (records index (List.mem_range.mpr less))) last
  have links : (∀ index < data.word 32 4, ComponentFits data index) → ∀ last,
      (List.range (data.word 36 4)).foldlM (Oracle.parseDependency data
        (headerBytes + data.word 32 4 * componentRecordBytes)
        ((List.range (data.word 32 4)).map (Oracle.item data))) [] = .ok last ↔
          (∀ index < data.word 36 4, ∃ source required, LinkFits data index source required) ∧
            last = (List.range (data.word 36 4)).map (link data) :=
    fun fits => @foldlM_range_closed _ _ _ (fun index => (List.range index).map (link data)) _ _
      (fun index _ _ next => oracle_parseDependency_ok fits)
  constructor
  · rintro ⟨_, ⟨rule, rfl⟩, ran⟩
    obtain ⟨_, first, ran⟩ := bind_eq_ok ran
    obtain ⟨records, rfl⟩ := (read rule _).mp first
    obtain ⟨_, second, ran⟩ := bind_eq_ok ran
    obtain ⟨fits, rfl⟩ := (loop records _).mp second
    rw [demand_bind_eq_ok, demand_bind_eq_ok] at ran
    obtain ⟨packed, phases, ran⟩ := ran
    obtain ⟨_, third, same⟩ := bind_eq_ok ran
    obtain ⟨dependencies, rfl⟩ := (links fits _).mp third
    exact ⟨⟨rule, fits, packed, (seenPhases_eq rule.components.1 fits).mp phases, dependencies⟩, pure_eq_ok.mp same⟩
  · rintro ⟨accepted, rfl⟩
    have records : ∀ index ∈ List.range (data.word 32 4), ComponentRule (recordAt data index) :=
      fun index member => (accepted.components index (List.mem_range.mp member)).rule
    refine ⟨_, ⟨accepted.header, rfl⟩, bind_eq_ok_iff.mpr ⟨_, (read accepted.header _).mpr ⟨records, rfl⟩,
      bind_eq_ok_iff.mpr ⟨_, (loop records _).mpr ⟨accepted.components, rfl⟩, ?_⟩⟩⟩
    rw [demand_bind_eq_ok, demand_bind_eq_ok]
    exact ⟨accepted.packed, (seenPhases_eq accepted.header.components.1 accepted.components).mpr accepted.phases,
      bind_eq_ok_iff.mpr ⟨_, (links accepted.components _).mpr ⟨accepted.dependencies, rfl⟩, rfl⟩⟩

/-- What the native parser keeps of a component. -/
def Oracle.Component.kept (component : Oracle.Component) : Firmware.Component where
  componentId := component.componentId
  kind := component.kind
  transport := component.transport
  phase := component.phase
  dependencyCount := component.dependencyCount
  dependencyStart := component.dependencyStart
  flags := component.flags
  resourceGuid := component.resourceGuid
  hardwareInstance := component.hardwareInstance
  currentVersion := component.currentVersion
  targetVersion := component.targetVersion
  lowestSupportedVersion := component.lowestSupportedVersion
  rollbackFloor := component.rollbackFloor
  knownGoodVersion := component.knownGoodVersion
  externalPayloadBytes := component.externalPayloadBytes

/-- Two bundles of one manifest: the native one reads its records from the bytes. -/
structure SameBundle (native : Bundle) (oracle : Oracle.Bundle) : Prop where
  raw : native.raw = oracle.raw
  manifestVersion : native.manifestVersion = oracle.manifestVersion
  profile : native.profile = oracle.profile
  flags : native.flags = oracle.flags
  maximumExternalPayloadBytes : native.maximumExternalPayloadBytes = oracle.maximumExternalPayloadBytes
  maximumTransactionComponents : native.maximumTransactionComponents = oracle.maximumTransactionComponents
  requiredBatteryPercent : native.requiredBatteryPercent = oracle.requiredBatteryPercent
  retryLimit : native.retryLimit = oracle.retryLimit
  applyTimeoutMs : native.applyTimeoutMs = oracle.applyTimeoutMs
  resetTimeoutMs : native.resetTimeoutMs = oracle.resetTimeoutMs
  bodySha256 : native.bodySha256 = oracle.bodySha256
  componentCount : native.componentCount = oracle.components.length
  dependencyCount : native.dependencyCount = oracle.dependencies.length
  components : ∀ index component, oracle.components[index]? = some component →
    native.component index = .ok component.kept
  dependencies : ∀ index dependency, oracle.dependencies[index]? = some dependency →
    native.dependency index = .ok dependency

theorem Accepted.same (accepted : Accepted sha data) : SameBundle (bundleOf data) (Oracle.bundleOf data) := by
  refine ⟨rfl, rfl, rfl, rfl, rfl, rfl, rfl, rfl, rfl, rfl, rfl, ?_, ?_, ?_, ?_⟩
  · rw [Oracle.bundleOf, length_map, length_range]
    rfl
  · rw [Oracle.bundleOf, length_map, length_range]
    rfl
  · intro index component found
    rw [Oracle.bundleOf, getElem?_map, Option.map_eq_some_iff] at found
    obtain ⟨place, found, rfl⟩ := found
    obtain ⟨inside, rfl⟩ := List.getElem?_eq_some_iff.mp found
    rw [length_range] at inside
    rw [getElem_range]
    exact (component_ok accepted.header).mpr ⟨⟨inside, (accepted.components index inside).rule⟩, rfl⟩
  · intro index dependency found
    rw [Oracle.bundleOf, getElem?_map, Option.map_eq_some_iff] at found
    obtain ⟨place, found, rfl⟩ := found
    obtain ⟨inside, rfl⟩ := List.getElem?_eq_some_iff.mp found
    rw [length_range] at inside
    rw [getElem_range]
    exact dependency_ok accepted.header inside

/-- The native parser and the oracle accept the same manifests and read the same records. -/
theorem manifest_parsers_agree (sha : Sha256) (data : Bytes) :
    ((∃ bundle, parse sha data = .ok bundle) ↔ ∃ bundle, Oracle.parse sha data = .ok bundle) ∧
      ∀ native oracle, parse sha data = .ok native → Oracle.parse sha data = .ok oracle → SameBundle native oracle := by
  refine ⟨⟨?_, ?_⟩, ?_⟩
  · rintro ⟨_, parsed⟩
    exact ⟨_, oracle_parse_ok.mpr ⟨(parse_ok.mp parsed).1, rfl⟩⟩
  · rintro ⟨_, parsed⟩
    exact ⟨_, parse_ok.mpr ⟨(oracle_parse_ok.mp parsed).1, rfl⟩⟩
  · intro native oracle one two
    obtain ⟨accepted, rfl⟩ := parse_ok.mp one
    obtain ⟨_, rfl⟩ := oracle_parse_ok.mp two
    exact accepted.same

/-- The body of a manifest with one component. -/
def sampleBody : Bytes := Bytes.lay (List.replicate 256 0) ([
  ⟨0, 4, 1⟩, ⟨4, 2, kindPlatformFirmware⟩, ⟨6, 2, transportUefiCapsuleEsrt⟩, ⟨16, 4, componentRequiredFlags⟩,
  ⟨24, 16, 1⟩, ⟨40, 8, 1⟩, ⟨48, 8, 1⟩, ⟨56, 8, 2⟩, ⟨64, 8, 1⟩, ⟨72, 8, 1⟩, ⟨80, 8, 1⟩, ⟨88, 8, 1⟩] ++
  [96, 128, 160, 192, 224].map (fun offset => ⟨offset, 32, 1⟩))

def sampleManifest : Bytes := Bytes.lay (List.replicate 512 0) ([
  ⟨0, 8, Bytes.little magic⟩, ⟨8, 2, majorVersion⟩, ⟨12, 2, headerBytes⟩, ⟨14, 2, componentRecordBytes⟩,
  ⟨16, 2, dependencyRecordBytes⟩, ⟨18, 2, profileSyntheticQualification⟩, ⟨20, 4, requiredFlags⟩, ⟨24, 8, 1⟩,
  ⟨32, 4, 1⟩, ⟨40, 8, 512⟩, ⟨48, 8, 768⟩, ⟨56, 8, 768⟩, ⟨64, 8, 1⟩, ⟨72, 4, 1⟩, ⟨76, 2, 50⟩, ⟨80, 4, 1⟩,
  ⟨84, 4, 1⟩, ⟨408, 1, 0x41⟩] ++ (List.range 10).map (fun step => ⟨88 + 32 * step, 32, 1⟩)) ++ sampleBody

example : (parse (Sha256.ofTable [(sampleBody, 1)]) sampleManifest).toBool = true := by decide +kernel

end Whole

end Items

end PooleOS.Firmware
