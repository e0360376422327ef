import PooleOS.Lib.Tally
import PooleOS.Sched.Runs

/- The states `validate` accepts, said once for the whole scheduler. -/
namespace PooleOS.Sched

open Op Nat Slots
open List
open Scheduler

section

variable {s : Scheduler} {places : Places Place Slot}

/-- What a task's state requires of the rest of the task and of where it is. -/
def Stands (task : Task) (at' : Place → Prop) : Prop :=
  (task.waitKind = .mutex → at' .waiters) ∧
    (task.wakeReason ≠ .none → task.state = .runnable ∨ task.state = .running) ∧
    match task.state with
    | .dormant => task.assignedCpu = none
    | .runnable => ∃ cpu, at' (.queue cpu)
    | .running => ∃ cpu, at' (.running cpu)
    | .blocked => task.waitKind ≠ .none ∧ task.bypassCount = 0
    | .dead => task.assignedCpu = none ∧ task.waitKind = .none ∧ task.bypassCount = 0

/-- Exclusive places with every task, those in transit apart, where its state says. -/
structure Shaped (s : Scheduler) (places : Places Place Slot) (transit : List Slot) : Prop where
  owned : Owned s places noFloor
  stands : ∀ slot, slot ∉ transit →
    Stands (s.tasks slot) (fun place => slot ∈ places.items place)
  affinity : ∀ slot, (s.tasks slot).generation ≠ 0 → (s.tasks slot).affinityMask ≠ 0 ∧
    Within (s.tasks slot).affinityMask s.cpuOnlineMask ∧
    Within (s.tasks slot).affinityMask completeCpuMask
  bounded : ∀ slot, (s.tasks slot).basePriority ≤ maxPriority ∧
    s.externalPriorityDonation slot ≤ maxPriority
  undonated : ∀ slot, (s.tasks slot).generation = 0 ∨ (s.tasks slot).state = .dead →
    s.externalPriorityDonation slot = 0

/-- The mutex is owned by a task that can run, or it is free and nobody waits. -/
def OwnerAlive (s : Scheduler) : Prop :=
  (s.mutexOwner = none ∧ s.mutexWaiters.len = 0) ∨
    ∃ slot, s.mutexOwner = some (s.idOf slot) ∧ (s.tasks slot).generation ≠ 0 ∧
      ((s.tasks slot).state = .runnable ∨ (s.tasks slot).state = .running)

/-- The highest base priority among the waiters, from a starting value. -/
def waitersBase (s : Scheduler) (start : Nat) : Nat :=
  (s.mutexWaiters.live.map (fun id => (s.taskAt id).basePriority)).foldl max start

/-- What the priority of a task is computed from: its base, the outside donation, the waiters. -/
def inherited (s : Scheduler) (slot : Slot) : Nat :=
  let own := max (s.tasks slot).basePriority (s.externalPriorityDonation slot)
  if s.mutexOwner = some (s.idOf slot) then waitersBase s own else own

def Priced (s : Scheduler) : Prop :=
  ∀ slot, (s.tasks slot).generation ≠ 0 → (s.tasks slot).effectivePriority = inherited s slot

/-- The owner's outside donation is no more than its own base and the waiters give it. -/
def Covered (s : Scheduler) : Prop :=
  ∀ slot, s.mutexOwner = some (s.idOf slot) →
    s.externalPriorityDonation slot ≤ waitersBase s (s.tasks slot).basePriority

structure Valid (s : Scheduler) (places : Places Place Slot) : Prop where
  shaped : Shaped s places []
  owner : OwnerAlive s
  priced : Priced s
  covered : Covered s

theorem foldl_max_start (values : List Nat) (left right : Nat) :
    values.foldl max (max left right) = max right (values.foldl max left) := by
  induction values generalizing left with
  | nil => exact max_comm left right
  | cons value rest ih =>
    rw [foldl_cons, foldl_cons, ← ih (max left value)]
    congr 1
    omega

theorem waitersBase_max (s : Scheduler) (left right : Nat) :
    waitersBase s (max left right) = max right (waitersBase s left) :=
  foldl_max_start _ left right

theorem le_foldl_max (values : List Nat) (start : Nat) : start ≤ values.foldl max start := by
  induction values generalizing start with
  | nil => exact le_refl _
  | cons value rest ih => exact le_trans (le_max_left start value) (ih _)

theorem foldl_max_le {values : List Nat} {limit : Nat} (below : ∀ value ∈ values, value ≤ limit) :
    ∀ {start : Nat}, start ≤ limit → values.foldl max start ≤ limit := by
  induction values with
  | nil => exact fun bound => bound
  | cons value rest ih =>
    intro start bound
    have first := below value (mem_cons_self ..)
    exact ih (fun other member => below other (mem_cons_of_mem value member))
      (Nat.max_le.mpr ⟨bound, first⟩)

theorem Shaped.live_waiters {transit : List Slot} (shaped : Shaped s places transit) :
    s.mutexWaiters.live = (places.items .waiters).map s.idOf := by
  rw [shaped.owned.waiters, live_ofList (Owned.length_le places _)]

/-- `validate` and `recompute` fold over the waiters in the same way. -/
theorem waiterPriority_ok (owned : Owned s places noFloor) (start : Nat) :
    s.waiterPriority start = .ok (waitersBase s start) := by
  have length := Owned.length_le (s := s) places .waiters
  set items := (places.items .waiters).map s.idOf with itemsDef
  have live : s.mutexWaiters.live = items := by
    rw [owned.waiters, live_ofList length]
  have len : s.mutexWaiters.len = items.length := by
    rw [owned.waiters, ofList_len]
  obtain ⟨result, folded, last⟩ := foldlM_range_ok
    (fun required cursor => do
      let waiter ← orError (s.mutexWaiters.get cursor) Error.invariant
      return max required (s.taskAt waiter).basePriority) 0 items.length start
    (fun cursor required => required = ((items.take cursor).map (fun id => (s.taskAt id).basePriority)).foldl max start)
    (by
      intro cursor required _ before current
      have inside : cursor < items.length := by omega
      have stored : s.mutexWaiters.get cursor = some (items.get ⟨cursor, inside⟩) := by
        rw [owned.waiters, get_ofList length]
        exact getElem?_eq_getElem inside
      refine ⟨_, by rw [stored]; rfl, ?_⟩
      rw [take_succ_eq_append_getElem inside, map_append, foldl_append, ← current]
      rfl)
    rfl
  unfold waiterPriority waitersBase
  rw [range_eq_range', len, folded, last, live, zero_add, take_length]

theorem noEntry_beyond {items : List TaskId} : ¬ ∃ cell : Slot, (ofList items : Slots TaskId 8).len ≤ cell.val ∧
      (ofList items : Slots TaskId 8).entries cell ≠ none := by
  intro ⟨cell, beyond, present⟩
  exact present (getElem?_eq_none beyond)

theorem validateQueued_ok (valid : Valid s places) (cpu : CpuId) (counted : List Slot)
    (fresh : ∀ slot ∈ places.items (.queue cpu), slot ∉ counted) :
    (range (s.queues cpu).len).foldlM (s.validateQueued cpu) (seen counted) =
      .ok (seen (counted ++ places.items (.queue cpu))) := by
  have owned := valid.shaped.owned
  set items := places.items (.queue cpu) with itemsDef
  have len : (s.queues cpu).len = items.length := by
    rw [owned.queues, ofList_len, length_map]
  rw [len]
  apply tally_range (places.nodup (.queue cpu)) fresh
  intro cursor met unseen
  set slot := items.get cursor with slotDef
  have member : slot ∈ items := get_mem _ _
  have fits : Fits (s.tasks slot) (.queue cpu) := owned.fits member
  have young : ¬ maxBypass < (s.tasks slot).bypassCount := by
    have bound : (s.tasks slot).bypassCount < 8 := owned.aged.lt slot
    unfold maxBypass
    omega
  have entry : (s.queues cpu).get cursor.val = some (s.idOf slot) :=
    queue_get owned cpu cursor.isLt
  have index : s.taskIndex (s.idOf slot) = .ok slot := owned.taskIndex_fits member
  unfold validateQueued
  rw [entry, orError_some]
  change (s.taskIndex (s.idOf slot) >>= _) = _
  rw [index]
  change (if _ then _ else _) = _
  rw [if_neg]
  · exact tally_seen unseen (by decide) Error.invariant
  · simp only [fits.2.1, fits.2.2.1, fits.2.2.2.1, fits.2.2.2.2, young]
    simp

theorem validateRunning_ok (valid : Valid s places) (cpu : CpuId) (counted : List Slot)
    (fresh : ∀ slot ∈ places.items (.running cpu), slot ∉ counted) : s.validateRunning cpu (seen counted) =
      .ok (seen (counted ++ places.items (.running cpu))) := by
  have owned := valid.shaped.owned
  unfold validateRunning
  cases current : s.current cpu with
  | none =>
    rw [owned.idle current, append_nil]
  | some id =>
    obtain ⟨slot, rfl, items⟩ := owned.current_eq current
    have member : slot ∈ places.items (.running cpu) := by
      rw [items]
      exact mem_singleton_self slot
    have fits : Fits (s.tasks slot) (.running cpu) := owned.fits member
    have index : s.taskIndex (s.idOf slot) = .ok slot := owned.taskIndex_fits member
    change (s.taskIndex (s.idOf slot) >>= _) = _
    rw [index, items]
    change (if _ then _ else _) = _
    rw [if_neg]
    · exact tally_seen (fresh slot member) (by decide) Error.invariant
    · simp only [fits.2.1, fits.2.2.1, fits.2.2.2.1, fits.2.2.2.2]
      simp

/-- All slots in the places of these processors. -/
def queuedOn (places : Places Place Slot) (cpus : List CpuId) : List Slot :=
  cpus.flatMap (fun cpu => places.items (.queue cpu))

def runningOn (places : Places Place Slot) (cpus : List CpuId) : List Slot :=
  cpus.flatMap (fun cpu => places.items (.running cpu))

theorem validateCpu_ok (valid : Valid s places) {done : List CpuId} {cpu : CpuId} (next : cpu ∉ done) :
    s.validateCpu (seen (queuedOn places done), seen (runningOn places done)) cpu =
      .ok (seen (queuedOn places (done ++ [cpu])), seen (runningOn places (done ++ [cpu]))) := by
  have owned := valid.shaped.owned
  have small : ¬ 8 < (s.queues cpu).len := by
    have length := Owned.length_le (s := s) places (.queue cpu)
    rw [owned.queues, ofList_len]
    omega
  have beyond : ¬ ∃ cell : Slot, (s.queues cpu).len ≤ cell.val ∧
      (s.queues cpu).entries cell ≠ none := by
    rw [owned.queues]
    exact noEntry_beyond
  have queued := validateQueued_ok valid cpu (queuedOn places done) (by
    intro slot member earlier
    obtain ⟨other, before, there⟩ := mem_flatMap.mp earlier
    have same : Place.queue other = .queue cpu := places.apart there member
    exact next (Place.queue.inj same ▸ before))
  have running := validateRunning_ok valid cpu (runningOn places done) (by
    intro slot member earlier
    obtain ⟨other, before, there⟩ := mem_flatMap.mp earlier
    have same : Place.running other = .running cpu := places.apart there member
    exact next (Place.running.inj same ▸ before))
  unfold validateCpu
  rw [if_neg small, queued]
  change (if _ then _ else _) = _
  rw [if_neg beyond, running]
  simp [queuedOn, runningOn, bind, Except.bind, pure, Except.pure]

theorem validateCpus_ok (valid : Valid s places) : (finRange 4).foldlM s.validateCpu (fun _ => 0, fun _ => 0) =
      .ok (seen (queuedOn places (finRange 4)), seen (runningOn places (finRange 4))) := by
  exact @foldlM_made _ _ _ _ (fun done => (seen (queuedOn places done), seen (runningOn places done)))
    (validateCpu_ok valid) _ [] (nodup_finRange 4)

theorem seen_queued (places : Places Place Slot) (slot : Slot) :
    seen (queuedOn places (finRange 4)) slot =
      if ∃ cpu, slot ∈ places.items (.queue cpu) then 1 else 0 := by
  simp [seen, queuedOn]

theorem seen_running (places : Places Place Slot) (slot : Slot) :
    seen (runningOn places (finRange 4)) slot =
      if ∃ cpu, slot ∈ places.items (.running cpu) then 1 else 0 := by
  simp [seen, runningOn]

/-- Where a task is counted follows from its state. -/
theorem Valid.counts (valid : Valid s places) (slot : Slot) :
    (seen (queuedOn places (finRange 4)) slot =
        if (s.tasks slot).generation ≠ 0 ∧ (s.tasks slot).state = .runnable then 1 else 0) ∧
      seen (runningOn places (finRange 4)) slot =
        if (s.tasks slot).generation ≠ 0 ∧ (s.tasks slot).state = .running then 1 else 0 := by
  have stands := (valid.shaped.stands slot (by simp)).2.2
  refine ⟨?_, ?_⟩
  · rw [seen_queued]
    apply if_congr _ rfl rfl
    constructor
    · intro ⟨cpu, member⟩
      exact ⟨(valid.shaped.owned.fits member).generation, (valid.shaped.owned.fits member).2.1⟩
    · intro ⟨_, runnable⟩
      simpa [Stands, runnable] using stands
  · rw [seen_running]
    apply if_congr _ rfl rfl
    constructor
    · intro ⟨cpu, member⟩
      exact ⟨(valid.shaped.owned.fits member).generation, (valid.shaped.owned.fits member).2.1⟩
    · intro ⟨_, running⟩
      simpa [Stands, running] using stands

theorem inherited_ge (s : Scheduler) (slot : Slot) : (s.tasks slot).basePriority ≤ inherited s slot := by
  unfold inherited waitersBase
  split
  · exact le_trans (le_max_left _ _) (le_foldl_max _ _)
  · exact le_max_left _ _

theorem Shaped.inherited_le {transit : List Slot} (shaped : Shaped s places transit)
    (slot : Slot) : inherited s slot ≤ maxPriority := by
  have own := Nat.max_le.mpr (shaped.bounded slot)
  unfold inherited waitersBase
  split
  · refine foldl_max_le ?_ own
    rw [shaped.live_waiters]
    intro value member
    simp only [map_map, mem_map, Function.comp] at member
    obtain ⟨waiter, _, rfl⟩ := member
    rw [Owned.taskAt_idOf]
    exact (shaped.bounded waiter).1
  · exact own

section

variable (valid : Valid s places)
include valid

theorem validateTask_ok (slot : Slot) :
    s.validateTask (seen (queuedOn places (finRange 4)))
      (seen (runningOn places (finRange 4))) slot = .ok () := by
  obtain ⟨queued, running⟩ := valid.counts slot
  have stands := valid.shaped.stands slot (by simp)
  have unqueued := valid.shaped.owned.unqueued slot
  unfold validateTask
  by_cases unused : (s.tasks slot).generation = 0
  · rw [if_pos unused, queued, running]
    simp [unused]
  · have state : validateState (s.tasks slot)
        (seen (queuedOn places (finRange 4)) slot)
        (seen (runningOn places (finRange 4)) slot) = .ok () := by
      rw [queued, running]
      unfold validateState
      obtain ⟨_, woken, rest⟩ := stands
      cases here : (s.tasks slot).state with
      | dormant =>
        have nowhere := unqueued (by simp [here])
        simp only [here] at rest
        simp [rest, nowhere]
      | runnable =>
        simp only [here] at rest
        obtain ⟨cpu, member⟩ := rest
        have fits : Fits (s.tasks slot) (.queue cpu) := valid.shaped.owned.fits member
        simp [unused, fits.2.2.1]
      | running =>
        have nowhere := unqueued (by simp [here])
        simp [unused, nowhere]
      | blocked =>
        have nowhere := unqueued (by simp [here])
        simp only [here] at rest
        simp [rest, nowhere]
      | dead =>
        have nowhere := unqueued (by simp [here])
        simp only [here] at rest
        have quiet : (s.tasks slot).wakeReason = .none := by
          by_contra pending
          simpa [here] using woken pending
        simp [rest, nowhere, quiet]
    have low : ¬ (s.tasks slot).effectivePriority < (s.tasks slot).basePriority := by
      rw [valid.priced slot unused]
      exact not_lt.mpr (inherited_ge s slot)
    have high : ¬ maxPriority < (s.tasks slot).effectivePriority := by
      rw [valid.priced slot unused]
      exact not_lt.mpr (valid.shaped.inherited_le slot)
    obtain ⟨some', within, _⟩ := valid.shaped.affinity slot unused
    have woken := stands.2.1
    rw [if_neg unused, state]
    change (if _ then _ else _) = _
    have fine : ¬ ((s.tasks slot).effectivePriority < (s.tasks slot).basePriority ∨
        maxPriority < (s.tasks slot).effectivePriority ∨ (s.tasks slot).affinityMask = 0 ∨
        ¬ Within (s.tasks slot).affinityMask s.cpuOnlineMask) := by
      intro broken
      rcases broken with broken | broken | broken | broken
      · exact low broken
      · exact high broken
      · exact some' broken
      · exact broken within
    rw [if_neg fine]
    rw [if_neg (fun pending => pending.2 (woken pending.1))]

theorem validateWaiters_ok :
    (range s.mutexWaiters.len).foldlM s.validateWaiter (fun _ => 0) = .ok (seen (places.items .waiters)) := by
  have owned := valid.shaped.owned
  set items := places.items .waiters with itemsDef
  have length := Owned.length_le (s := s) places .waiters
  have len : s.mutexWaiters.len = items.length := by
    rw [owned.waiters, ofList_len, length_map]
  have all : (range items.length).foldlM s.validateWaiter (seen []) =
      .ok (seen ([] ++ items)) :=
    tally_range (places.nodup .waiters) (fun _ _ => not_mem_nil) (by
      intro cursor met unseen
      set slot := items.get cursor with slotDef
      have member : slot ∈ items := get_mem _ _
      have fits : Fits (s.tasks slot) .waiters := owned.fits member
      have entry : s.mutexWaiters.get cursor.val = some (s.idOf slot) := by
        rw [owned.waiters, get_ofList length, getElem?_map, getElem?_eq_getElem cursor.isLt]
        rfl
      have index : s.taskIndex (s.idOf slot) = .ok slot := owned.taskIndex_fits member
      unfold validateWaiter
      rw [entry, orError_some]
      change (s.taskIndex (s.idOf slot) >>= _) = _
      rw [index]
      change (if _ then _ else _) = _
      rw [if_neg (by simp [fits.2.1, fits.2.2])]
      exact tally_seen unseen (by decide) Error.invariant)
  rw [len, ← seen_nil, all, nil_append]

theorem validateWaiting_ok (slot : Slot) :
    s.validateWaiting (seen (places.items .waiters)) slot = .ok () := by
  have waiting : (s.tasks slot).waitKind = .mutex ↔ slot ∈ places.items .waiters :=
    ⟨(valid.shaped.stands slot (by simp)).1, fun member => (valid.shaped.owned.fits member).2.2⟩
  unfold validateWaiting seen
  by_cases member : slot ∈ places.items .waiters <;> simp [waiting, member]

theorem validateOwner_ok : s.validateOwner = .ok () := by
  unfold validateOwner
  rcases valid.owner with ⟨none, empty⟩ | ⟨slot, owner, used, alive⟩
  · rw [none]
    simp [empty]
  · have priced := valid.priced slot used
    have covered := valid.covered slot owner
    unfold inherited at priced
    rw [if_pos owner, waitersBase_max] at priced
    rw [owner]
    dsimp only
    rw [Owned.taskIndex_idOf used]
    change (if _ then _ else _) = _
    rw [if_neg (not_not.mpr alive), waiterPriority_ok valid.shaped.owned]
    change (if _ then _ else _) = _
    rw [if_neg (by omega)]

theorem validate_ok : s.validate = .ok () := by
  have tasks : (finRange 8).forM (s.validateTask
      (seen (queuedOn places (finRange 4))) (seen (runningOn places (finRange 4)))) =
        .ok () := forM_ok (fun slot _ => validateTask_ok valid slot)
  have waiting : (finRange 8).forM (s.validateWaiting (seen (places.items .waiters))) =
      .ok () := forM_ok (fun slot _ => validateWaiting_ok valid slot)
  have beyond : ¬ ∃ cell : Slot, s.mutexWaiters.len ≤ cell.val ∧
      s.mutexWaiters.entries cell ≠ none := by
    rw [valid.shaped.owned.waiters]
    exact noEntry_beyond
  unfold validate
  rw [validateCpus_ok valid]
  change ((finRange 8).forM (s.validateTask
    (seen (queuedOn places (finRange 4))) (seen (runningOn places (finRange 4)))) >>= _) = _
  rw [tasks]
  rw [validateWaiters_ok valid]
  change (if _ then _ else _) = _
  rw [if_neg beyond, waiting]
  exact validateOwner_ok valid

end

end

variable {s s' : Scheduler} {places places' : Places Place Slot}

/-- Some places make the scheduler valid; `validate` accepts it then. -/
def Accepted (s : Scheduler) : Prop := ∃ places, Valid s places

/-- The fields of a task that priorities and affinity are judged by. -/
structure Kin (task task' : Task) : Prop where
  generation : task'.generation = task.generation
  basePriority : task'.basePriority = task.basePriority
  effectivePriority : task'.effectivePriority = task.effectivePriority
  affinityMask : task'.affinityMask = task.affinityMask

theorem Kin.refl (task : Task) : Kin task task := ⟨rfl, rfl, rfl, rfl⟩

theorem Kin.trans {first second third : Task} (one : Kin first second) (two : Kin second third) : Kin first third :=
  ⟨two.generation.trans one.generation, two.basePriority.trans one.basePriority,
    two.effectivePriority.trans one.effectivePriority, two.affinityMask.trans one.affinityMask⟩

/-- Only places, states and statistics have changed. -/
structure Moved (s s' : Scheduler) : Prop where
  tasks : ∀ slot, Kin (s.tasks slot) (s'.tasks slot)
  online : s'.cpuOnlineMask = s.cpuOnlineMask
  owner : s'.mutexOwner = s.mutexOwner
  waiters : s'.mutexWaiters = s.mutexWaiters
  donation : s'.externalPriorityDonation = s.externalPriorityDonation

namespace Moved

theorem trans {s'' : Scheduler} (one : Moved s s') (two : Moved s' s'') : Moved s s'' :=
  ⟨fun slot => (one.tasks slot).trans (two.tasks slot), two.online.trans one.online,
    two.owner.trans one.owner, two.waiters.trans one.waiters, two.donation.trans one.donation⟩

section

variable (moved : Moved s s')
include moved

theorem ids : s'.idOf = s.idOf := by
  funext slot
  simp only [idOf, Task.id, (moved.tasks slot).generation]

theorem taskAt_base (id : TaskId) : (s'.taskAt id).basePriority = (s.taskAt id).basePriority := by
  unfold taskAt
  cases id.index? with
  | none => rfl
  | some slot => exact (moved.tasks slot).basePriority

theorem waitersBase_eq (start : Nat) : waitersBase s' start = waitersBase s start := by
  unfold waitersBase
  simp only [moved.waiters, moved.taskAt_base]

theorem priced (before : Priced s) : Priced s' := by
  intro slot used
  have kin := moved.tasks slot
  have same : inherited s' slot = inherited s slot := by
    unfold inherited
    simp only [kin.basePriority, moved.donation, moved.owner, moved.ids, moved.waitersBase_eq]
  rw [kin.effectivePriority, same]
  exact before slot (kin.generation ▸ used)

theorem covered (before : Covered s) : Covered s' := by
  intro slot owner
  rw [moved.donation, moved.waitersBase_eq, (moved.tasks slot).basePriority]
  rw [moved.owner, moved.ids] at owner
  exact before slot owner

/-- The owner stays alive when the tasks that could run still can. -/
theorem ownerAlive (before : OwnerAlive s) (alive : ∀ slot, s.mutexOwner = some (s.idOf slot) →
      (s.tasks slot).state = .runnable ∨ (s.tasks slot).state = .running →
      (s'.tasks slot).state = .runnable ∨ (s'.tasks slot).state = .running) : OwnerAlive s' := by
  rcases before with ⟨none, empty⟩ | ⟨slot, owner, used, runs⟩
  · exact .inl ⟨moved.owner.trans none, by rw [moved.waiters]; exact empty⟩
  · refine .inr ⟨slot, ?_, ?_, alive slot owner runs⟩
    · rw [moved.owner, moved.ids]
      exact owner
    · rw [(moved.tasks slot).generation]
      exact used

theorem valid (before : Valid s places) (shaped : Shaped s' places' [])
    (alive : ∀ slot, s.mutexOwner = some (s.idOf slot) →
      (s.tasks slot).state = .runnable ∨ (s.tasks slot).state = .running →
      (s'.tasks slot).state = .runnable ∨ (s'.tasks slot).state = .running) : Valid s' places' :=
  ⟨shaped, moved.ownerAlive before.owner alive, moved.priced before.priced, moved.covered before.covered⟩

end

end Moved

section Transit

variable {slot : Slot} {rest : List Slot}

/-- A task in transit may be looked at as if nothing were required of it. -/
theorem Shaped.release (shaped : Shaped s places rest) (slot : Slot) : Shaped s places (slot :: rest) :=
  ⟨shaped.owned, fun other outside => shaped.stands other (fun inside =>
    outside (mem_cons_of_mem slot inside)), shaped.affinity, shaped.bounded, shaped.undonated⟩

/-- The arrays let go of the task; the tasks themselves are as before. -/
theorem Shaped.depart {place : Place} (shaped : Shaped s places rest)
    (owned : Owned s' (places.leave place slot) noFloor) (tasks : s'.tasks = s.tasks)
    (online : s'.cpuOnlineMask = s.cpuOnlineMask)
    (donation : s'.externalPriorityDonation = s.externalPriorityDonation) :
    Shaped s' (places.leave place slot) (slot :: rest) := by
  refine ⟨owned, ?_, ?_, ?_, ?_⟩
  · intro other outside
    rw [mem_cons, not_or] at outside
    rw [tasks]
    have stays : ∀ place', other ∈ (places.leave place slot).items place' ↔
        other ∈ places.items place' := by
      intro place'
      rw [Places.mem_leave]
      constructor
      · exact fun member => member.1
      · exact fun member => ⟨member, fun same => outside.1 same.2⟩
    simpa only [stays] using shaped.stands other outside.2
  · rw [tasks, online]
    exact shaped.affinity
  · rw [tasks, donation]
    exact shaped.bounded
  · rw [tasks, donation]
    exact shaped.undonated

/-- The task in transit is rewritten; it is still nowhere. -/
theorem Shaped.rewrite (shaped : Shaped s places (slot :: rest)) (absent : places.Absent slot) {f : Task → Task}
    (kin : Kin (s.tasks slot) (f (s.tasks slot))) (live : (f (s.tasks slot)).state ≠ .dead)
    (unqueued : (f (s.tasks slot)).state ≠ .runnable → (f (s.tasks slot)).queuedCpu = none)
    (bypass : (f (s.tasks slot)).bypassCount ≤ (s.tasks slot).bypassCount) :
    Shaped (s.setTask slot f) places (slot :: rest) := by
  have here := setTask_here s slot f
  refine ⟨shaped.owned.rewrite absent unqueued bypass, ?_, ?_, ?_, ?_⟩
  · intro other outside
    have apart : other ≠ slot := fun same => outside (same ▸ mem_cons_self ..)
    rw [setTask_other s f apart]
    exact shaped.stands other outside
  · intro other
    by_cases same : other = slot
    · subst same
      rw [here, kin.generation, kin.affinityMask]
      exact shaped.affinity other
    · rw [setTask_other s f same]
      exact shaped.affinity other
  · intro other
    by_cases same : other = slot
    · subst same
      rw [here, kin.basePriority]
      exact shaped.bounded other
    · rw [setTask_other s f same]
      exact shaped.bounded other
  · intro other unused
    by_cases same : other = slot
    · subst same
      rw [here, kin.generation] at unused
      rcases unused with unused | dead
      · exact shaped.undonated other (.inl unused)
      · exact absurd dead live
    · rw [setTask_other s f same] at unused
      exact shaped.undonated other unused

theorem Moved.setTask (s : Scheduler) (slot : Slot) {f : Task → Task}
    (kin : Kin (s.tasks slot) (f (s.tasks slot))) : Moved s (s.setTask slot f) := by
  refine ⟨?_, rfl, rfl, rfl, rfl⟩
  intro other
  by_cases same : other = slot
  · subst same
    rw [setTask_here]
    exact kin
  · rw [setTask_other s f same]
    exact Kin.refl _

/-- The journey ends where the arrays now have the task. -/
theorem Shaped.arrive (shaped : Shaped s places (slot :: rest))
    (stands : Stands (s.tasks slot) (fun place => slot ∈ places.items place)) : Shaped s places rest := by
  refine ⟨shaped.owned, ?_, shaped.affinity, shaped.bounded, shaped.undonated⟩
  intro other outside
  by_cases same : other = slot
  · subst same
    exact stands
  · exact shaped.stands other (by simp [same, outside])

theorem mem_join_other {place : Place} {absent : places.Absent slot} {other : Slot} (differs : other ≠ slot)
    (place' : Place) : other ∈ (places.join place slot absent).items place' ↔ other ∈ places.items place' := by
  rw [Places.mem_join]
  constructor
  · intro member
    rcases member with member | ⟨_, impossible⟩
    · exact member
    · exact absurd impossible differs
  · exact .inl

theorem mem_join_self {place : Place} {absent : places.Absent slot} (place' : Place) :
    slot ∈ (places.join place slot absent).items place' ↔ place' = place := by
  rw [Places.mem_join]
  constructor
  · intro member
    rcases member with member | ⟨same, _⟩
    · exact absurd member (absent place')
    · exact same
  · exact fun same => .inr ⟨same, rfl⟩

/-- The task in transit joins a place; the tasks themselves are as before. -/
theorem Shaped.join {place : Place} (shaped : Shaped s places (slot :: rest)) (absent : places.Absent slot)
    (owned : Owned s' (places.join place slot absent) noFloor) (tasks : s'.tasks = s.tasks)
    (online : s'.cpuOnlineMask = s.cpuOnlineMask) (donation : s'.externalPriorityDonation = s.externalPriorityDonation)
    (stands : Stands (s.tasks slot) (fun other => other = place)) : Shaped s' (places.join place slot absent) rest := by
  refine ⟨owned, ?_, ?_, ?_, ?_⟩
  · intro other outside
    rw [tasks]
    by_cases same : other = slot
    · subst same
      simpa only [mem_join_self] using stands
    · simpa only [mem_join_other same] using shaped.stands other (by simp [same, outside])
  · rw [tasks, online]
    exact shaped.affinity
  · rw [tasks, donation]
    exact shaped.bounded
  · rw [tasks, donation]
    exact shaped.undonated

theorem enqueued_other {other : Slot} (differs : other ≠ slot) (cpu : CpuId) (queue : RunQueue) :
    (Owned.enqueued s slot cpu queue).tasks other = s.tasks other := setTask_other _ _ differs

/-- A runnable task in transit joins a queue; nothing else changes. -/
theorem wp_enqueue_transit (shaped : Shaped s places (slot :: rest)) (absent : places.Absent slot) {cpu : CpuId}
    (used : (s.tasks slot).generation ≠ 0) (runnable : (s.tasks slot).state = .runnable)
    (unqueued : (s.tasks slot).queuedCpu = none) (assigned : (s.tasks slot).assignedCpu = some cpu)
    (allowed : Allows (s.tasks slot).affinityMask cpu) (other : (s.tasks slot).waitKind ≠ .mutex)
    {done : Unit → Scheduler → Prop} {failed : Error → Scheduler → Prop}
    (pass : ∀ queue, Shaped (Owned.enqueued s slot cpu queue) (places.join (.queue cpu) slot absent) rest →
      Moved s (Owned.enqueued s slot cpu queue) →
      (∀ slot', ((Owned.enqueued s slot cpu queue).tasks slot').state = (s.tasks slot').state) →
      done () (Owned.enqueued s slot cpu queue)) : wp (enqueue slot cpu) done failed s := by
  unfold wp
  rw [enqueue_ok shaped.owned absent runnable unqueued allowed]
  set queue : RunQueue := ofList (((places.items (.queue cpu)) ++ [slot]).map s.idOf)
  have owned : Owned (Owned.enqueued s slot cpu queue) (places.join (.queue cpu) slot absent)
      noFloor :=
    shaped.owned.enqueue_keeps absent used runnable assigned allowed (zero_le _)
  have here : (Owned.enqueued s slot cpu queue).tasks slot =
      { s.tasks slot with queuedCpu := some cpu } := setTask_here _ _ _
  have away : ∀ {slot'}, slot' ≠ slot →
      (Owned.enqueued s slot cpu queue).tasks slot' = s.tasks slot' :=
    fun differs => setTask_other _ _ differs
  refine pass queue ⟨owned, ?_, ?_, ?_, ?_⟩ ?_ ?_
  · intro slot' outside
    by_cases same : slot' = slot
    · subst same
      rw [here]
      refine ⟨fun mutex => absurd mutex other, fun _ => .inl runnable, ?_⟩
      simp only [runnable]
      exact ⟨cpu, (mem_join_self _).mpr rfl⟩
    · rw [away same]
      simpa only [mem_join_other same] using shaped.stands slot' (by simp [same, outside])
  · intro slot'
    by_cases same : slot' = slot
    · subst same
      rw [here]
      exact shaped.affinity slot'
    · rw [away same]
      exact shaped.affinity slot'
  · intro slot'
    by_cases same : slot' = slot
    · subst same
      rw [here]
      exact shaped.bounded slot'
    · rw [away same]
      exact shaped.bounded slot'
  · intro slot'
    by_cases same : slot' = slot
    · subst same
      rw [here]
      exact shaped.undonated slot'
    · rw [away same]
      exact shaped.undonated slot'
  · exact ⟨fun slot' => (Moved.setTask (s.setQueue cpu queue) slot ⟨rfl, rfl, rfl, rfl⟩).tasks slot',
      rfl, rfl, rfl, rfl⟩
  · intro slot'
    by_cases same : slot' = slot
    · subst same
      rw [here]
    · rw [away same]

end Transit

/-- Statistics are not validated. -/
structure Unseen (s s' : Scheduler) : Prop where
  tasks : s'.tasks = s.tasks
  queues : s'.queues = s.queues
  current : s'.current = s.current
  online : s'.cpuOnlineMask = s.cpuOnlineMask
  owner : s'.mutexOwner = s.mutexOwner
  waiters : s'.mutexWaiters = s.mutexWaiters
  donation : s'.externalPriorityDonation = s.externalPriorityDonation

theorem Unseen.shaped {transit : List Slot} (same : Unseen s s')
    (shaped : Shaped s places transit) : Shaped s' places transit := by
  have quiet : Quiet s s' := ⟨same.queues, same.current, same.waiters, fun slot => by
    rw [same.tasks]
    exact SamePlace.refl _⟩
  refine ⟨shaped.owned.quiet quiet, ?_, ?_, ?_, ?_⟩
  · rw [same.tasks]
    exact shaped.stands
  · rw [same.tasks, same.online]
    exact shaped.affinity
  · rw [same.tasks, same.donation]
    exact shaped.bounded
  · rw [same.tasks, same.donation]
    exact shaped.undonated

theorem Unseen.moved (same : Unseen s s') : Moved s s' :=
  ⟨fun slot => by rw [same.tasks]; exact Kin.refl _, same.online, same.owner, same.waiters,
    same.donation⟩

theorem Unseen.valid (same : Unseen s s') (valid : Valid s places) : Valid s' places :=
  same.moved.valid valid (same.shaped valid.shaped) (fun slot _ alive => by
    rw [same.tasks]
    exact alive)

theorem bumpSequence_unseen (s : Scheduler) : Unseen s s.bumpSequence :=
  ⟨rfl, rfl, rfl, rfl, rfl, rfl, rfl⟩

theorem Valid.bumped (valid : Valid s places) : Valid s.bumpSequence places :=
  (bumpSequence_unseen s).valid valid

/-- `bump_sequence` and a `validate` that cannot fail. -/
theorem wp_finish {failed : Error → Scheduler → Prop} (valid : Valid s places) :
    wp check (fun _ => Accepted) failed s.bumpSequence := by
  unfold wp
  rw [check_run, validate_ok valid.bumped]
  exact ⟨places, valid.bumped⟩

/-- The method succeeds into an accepted state, or it has changed nothing. -/
def Lands {α : Type} (method : M α) (s : Scheduler) : Prop :=
  Op.wp method (fun _ => Accepted) (fun _ s' => s' = s) s

/-- The owner is what `validate` looks at last. -/
theorem owner_of_validate (accepted : s.validate = .ok ()) : s.validateOwner = .ok () := by
  obtain ⟨counts, _, afterCpus⟩ := bind_eq_ok accepted
  obtain ⟨_, _, afterTasks⟩ := bind_eq_ok afterCpus
  obtain ⟨waiters, _, afterWaiters⟩ := bind_eq_ok afterTasks
  split at afterWaiters
  · cases afterWaiters
  · obtain ⟨_, _, owner⟩ := bind_eq_ok afterWaiters
    exact owner

theorem settled_of_validate (owned : Owned s places noFloor) (priced : Priced s)
    (accepted : s.validate = .ok ()) : OwnerAlive s ∧ Covered s := by
  have passed := owner_of_validate accepted
  unfold validateOwner at passed
  cases owner : s.mutexOwner with
  | none =>
    rw [owner] at passed
    dsimp only at passed
    split at passed
    · cases passed
    · rename_i empty
      refine ⟨.inl ⟨owner, not_not.mp empty⟩, ?_⟩
      intro slot taken
      rw [owner] at taken
      cases taken
  | some id =>
    rw [owner] at passed
    obtain ⟨slot, found, runs⟩ := bind_eq_ok passed
    obtain ⟨rfl, used⟩ := Owned.taskIndex_ok.mp found
    split at runs
    · cases runs
    · rename_i alive
      rw [waiterPriority_ok owned] at runs
      obtain ⟨required, folded, compared⟩ := bind_eq_ok runs
      cases folded
      split at compared
      · cases compared
      · rename_i equal
        refine ⟨.inr ⟨slot, owner, used, not_not.mp alive⟩, ?_⟩
        intro other taken
        rw [owner] at taken
        have same : slot = other := idOf_injective s (Option.some.inj taken)
        subst same
        -- The owner's price counts its donation, so a price without it covers the donation.
        have price := priced slot used
        unfold inherited at price
        rw [if_pos owner, waitersBase_max, not_not.mp equal] at price
        omega

/-- `bump_sequence` and a `validate` that refuses exactly an owner that cannot run or
is not covered. -/
theorem wp_conclude (shaped : Shaped s places []) (priced : Priced s) {failed : Error → Scheduler → Prop}
    (late : ¬ (OwnerAlive s ∧ Covered s) → ∀ reason s', failed reason s') :
    wp check (fun _ s' => Accepted s' ∧ OwnerAlive s ∧ Covered s) failed s.bumpSequence := by
  by_cases settled : OwnerAlive s ∧ Covered s
  · exact wp_mono (wp_finish ⟨shaped, settled.1, priced, settled.2⟩)
      (fun _ _ accepted => ⟨accepted, settled⟩) (fun _ _ kept => kept)
  · have unseen := bumpSequence_unseen s
    have owned := (unseen.shaped shaped).owned
    unfold wp
    rw [check_run]
    cases verdict : s.bumpSequence.validate with
    | ok done => exact absurd (settled_of_validate owned (unseen.moved.priced priced) verdict) settled
    | error reason => exact late settled reason _

/-- The method succeeds into an accepted state, and it fails before its first write when
it was ready. -/
def Settles {α : Type} (ready : Prop) (method : M α) (s : Scheduler) : Prop :=
  Op.wp method (fun _ => Accepted) (fun _ s' => ready → s' = s) s

theorem Lands.settles {α : Type} {method : M α} (lands : Lands method s) (ready : Prop) : Settles ready method s :=
  wp_mono lands (fun _ _ accepted => accepted) (fun _ _ same _ => same)

theorem Settles.intro {α : Type} {method : M α} {ready stop : Prop}
    (whole : ∀ failed : Error → Scheduler → Prop, (stop → ∀ reason, failed reason s) →
      (¬ ready → ∀ reason s', failed reason s') → wp method (fun _ s' => Accepted s' ∧ ready) failed s) :
    Settles ready method s :=
  wp_mono (whole (fun _ s' => ready → s' = s) (fun _ _ _ => rfl) (fun unready _ _ holds => absurd holds unready))
    (fun _ _ accepted => accepted.1) (fun _ _ kept => kept)

theorem Settles.lands {α : Type} {method : M α} {ready : Prop} (settles : Settles ready method s)
    (holds : ready) : Lands method s :=
  wp_mono settles (fun _ _ accepted => accepted) (fun _ _ same => same holds)

end PooleOS.Sched
