import PooleOS.Sched.Inheritance

/- The mutex and teardown: ownership passes, waiters come and go. -/
namespace PooleOS.Sched

open List Op Nat Option Slots Places
open Scheduler

variable {s : Scheduler} {places : Places Place Slot} {rest : List Slot}

theorem waitersBase_items (owned : Owned s places noFloor) (start : Nat) : waitersBase s start =
      ((places.items .waiters).map (fun slot => (s.tasks slot).basePriority)).foldl max start := by
  unfold waitersBase
  rw [owned.waiters, Slots.live_ofList (Owned.length_le places _), List.map_map]
  have same : (fun id => (s.taskAt id).basePriority) ∘ s.idOf =
      fun slot => (s.tasks slot).basePriority := by
    funext slot
    simp only [Function.comp, Owned.taskAt_idOf]
  rw [same]

theorem Shaped.setOwner (shaped : Shaped s places rest) (owner : Option TaskId) :
    Shaped { s with mutexOwner := owner } places rest :=
  ⟨shaped.owned.quiet (setOwner_quiet s owner), shaped.stands, shaped.affinity, shaped.bounded, shaped.undonated⟩

/-- A free mutex has no waiters. -/
theorem Valid.free_waiters (valid : Valid s places) (free : s.mutexOwner = none) : places.items .waiters = [] := by
  rcases valid.owner with ⟨_, empty⟩ | ⟨slot, owner, _⟩
  · rw [valid.owned.waiters, ofList_len, length_map] at empty
    exact length_eq_zero_iff.mp empty
  · rw [owner] at free
    cases free

theorem Valid.owner_runs (valid : Valid s places) {owner : Slot} (taken : s.mutexOwner = some (s.idOf owner))
    : (s.tasks owner).generation ≠ 0 ∧ ((s.tasks owner).state = .runnable ∨ (s.tasks owner).state = .running) := by
  rcases valid.owner with ⟨free, _⟩ | ⟨other, stored, used, runs⟩
  · rw [taken] at free
    cases free
  · have same : owner = other := idOf_injective s (some.inj (taken.symm.trans stored))
    subst same
    exact ⟨used, runs⟩

/-- What `lock_mutex` needs: a free mutex of an undonated caller, or room to count an inheritance. -/
def LockReady (s : Scheduler) (cpu : CpuId) : Prop :=
  ∀ slot, s.current cpu = some (s.idOf slot) →
    (s.mutexOwner = none → s.externalPriorityDonation slot ≤ (s.tasks slot).basePriority) ∧
      ∀ owner, s.mutexOwner = some (s.idOf owner) → owner ≠ slot →
        (s.tasks owner).effectivePriority < (s.tasks slot).basePriority →
        Room s.priorityInheritanceCount

variable {slot : Slot}

/-- A free mutex has nobody to inherit from, so its first owner has to cover its donation. -/
theorem acquired_covered (valid : Valid s places) (free : s.mutexOwner = none) :
    Covered { s with mutexOwner := some (s.idOf slot) } ↔
      s.externalPriorityDonation slot ≤ (s.tasks slot).basePriority := by
  have nobody : ∀ start, waitersBase { s with mutexOwner := some (s.idOf slot) } start = start := by
    intro start
    change waitersBase s start = start
    rw [waitersBase_items valid.owned, valid.free_waiters free]
    rfl
  constructor
  · intro covered
    have donated := covered slot rfl
    rw [nobody] at donated
    exact donated
  · intro donated other owner
    have here : other = slot := idOf_injective s (some.inj owner).symm
    subst here
    rw [nobody]
    exact donated

/-- Taking a free mutex moves no price. -/
theorem acquired_priced (valid : Valid s places) (free : s.mutexOwner = none) :
    Priced { s with mutexOwner := some (s.idOf slot) } := by
  intro other used
  have before := valid.priced other used
  rw [inherited_other (by rw [free]; simp)] at before
  have nobody : ∀ start, waitersBase { s with mutexOwner := some (s.idOf slot) } start = start := by
    intro start
    change waitersBase s start = start
    rw [waitersBase_items valid.owned, valid.free_waiters free]
    rfl
  unfold inherited
  split
  · rw [nobody]
    exact before
  · exact before

/-- The caller as `lock_mutex` blocks it. -/
def blockedOnMutex (cpu : CpuId) (task : Task) : Task :=
  { task with state := .blocked, assignedCpu := some cpu, waitKind := .mutex,
              wakeReason := .none, bypassCount := 0 }

/-- The caller has left its processor and stands last among the waiters. -/
def behindOwner (s : Scheduler) (cpu : CpuId) (slot : Slot) : Scheduler :=
  { (s.setCurrent cpu none).setTask slot (blockedOnMutex cpu) with
    mutexWaiters := { s.mutexWaiters.put s.mutexWaiters.len (some (s.idOf slot)) with
      len := s.mutexWaiters.len + 1 } }

variable {cpu : CpuId}

theorem behindOwner_task {other : Slot} (differs : other ≠ slot) :
    (behindOwner s cpu slot).tasks other = s.tasks other := setTask_other _ _ differs

theorem behindOwner_kin (cpu : CpuId) (slot other : Slot) :
    Kin (s.tasks other) ((behindOwner s cpu slot).tasks other) :=
  (Moved.setTask (s.setCurrent cpu none) slot (f := blockedOnMutex cpu) ⟨rfl, rfl, rfl, rfl⟩).tasks other

theorem behindOwner_ids (cpu : CpuId) (slot : Slot) : (behindOwner s cpu slot).idOf = s.idOf :=
  setTask_idOf (s.setCurrent cpu none) slot rfl

/-- The waiters grow by the caller, and by its base priority. -/
theorem behindOwner_shaped (valid : Valid s places) (member : slot ∈ places.items (.running cpu)) :
    (∃ places', Shaped (behindOwner s cpu slot) places' []) ∧ ∀ start, waitersBase (behindOwner s cpu slot) start =
        max (waitersBase s start) (s.tasks slot).basePriority := by
  have fits : Fits (s.tasks slot) (.running cpu) := valid.owned.fits member
  have absent : (places.leave (.running cpu) slot).Absent slot := absent_leave member
  have alone : places.items (.running cpu) = [slot] := by
    obtain ⟨other, _, items⟩ := valid.owned.current_eq (valid.owned.current_of_mem member)
    rw [items, mem_singleton] at member
    rw [items, member]
  have blocked := (valid.shaped.depart (valid.owned.setCurrent_leave alone) rfl rfl rfl).rewrite
    absent (f := blockedOnMutex cpu) ⟨rfl, rfl, rfl, rfl⟩ (by simp [blockedOnMutex])
    (fun _ => fits.2.2.1) (zero_le _)
  have here := setTask_here (s.setCurrent cpu none) slot (blockedOnMutex cpu)
  have joined := blocked.owned.waiters_join absent (by
    rw [here]
    exact ⟨fits.generation, rfl, rfl⟩)
  rw [setTask_idOf (s.setCurrent cpu none) slot rfl] at joined
  have shaped : Shaped (behindOwner s cpu slot)
      ((places.leave (.running cpu) slot).join .waiters slot absent) [] :=
    blocked.join absent joined rfl rfl rfl (by
      rw [here]
      simp [Stands, blockedOnMutex])
  refine ⟨⟨_, shaped⟩, ?_⟩
  intro start
  rw [waitersBase_items shaped.owned, waitersBase_items valid.owned, join_items,
    if_pos rfl, leave_items, if_neg (by simp)]
  simp only [fun other => (behindOwner_kin (s := s) cpu slot other).basePriority, map_append, foldl_append]
  rfl

/-- A processor with a current task is online, and that task is where it says. -/
theorem Valid.runs (valid : Valid s places) (current : s.current cpu = some (s.idOf slot)) :
    slot ∈ places.items (.running cpu) ∧ Allows s.cpuOnlineMask cpu := by
  obtain ⟨slot', same, items⟩ := valid.owned.current_eq current
  have same : slot = slot' := idOf_injective s same
  subst same
  have member : slot ∈ places.items (.running cpu) := by
    rw [items]
    exact mem_singleton_self slot
  have fits : Fits (s.tasks slot) (.running cpu) := valid.owned.fits member
  exact ⟨member, (valid.shaped.affinity slot fits.generation).2.1.allows fits.2.2.2.2⟩

theorem Valid.currentId (valid : Valid s places)
    (current : s.current cpu = some (s.idOf slot)) : s.currentId cpu = .ok (s.idOf slot) := by
  unfold Scheduler.currentId requireOnline
  rw [if_pos (valid.runs current).2, current]
  rfl

variable {failed : Error → Scheduler → Prop}

section

variable (valid : Valid s places)
include valid

theorem wp_takeCurrent_running (current : s.current cpu = some (s.idOf slot))
    {done : TaskId → Scheduler → Prop} (pass : done (s.idOf slot) (s.setCurrent cpu none)) :
    wp (takeCurrent cpu) done failed s := by
  unfold takeCurrent online
  simp only [wp_bind, wp_read, wp_update]
  unfold requireOnline
  rw [if_pos (valid.runs current).2, wp_lift_ok, current, orError_some, wp_lift_ok]
  exact pass

/-- The waiters cannot be full while somebody runs. -/
theorem waiters_room
    (member : slot ∈ places.items (.running cpu)) : s.mutexWaiters.len ≠ 8 := by
  intro full
  rw [valid.owned.waiters, ofList_len, length_map] at full
  have everyone : slot ∈ places.items .waiters := by
    have finset : (places.items .waiters).toFinset = Finset.univ := by
      apply Finset.eq_univ_of_card
      rw [toFinset_card_of_nodup (places.nodup .waiters), full]
      rfl
    have all : slot ∈ (places.items .waiters).toFinset := by
      rw [finset]
      exact Finset.mem_univ slot
    exact mem_toFinset.mp all
  have same : Place.waiters = .running cpu := places.apart everyone member
  cases same

/-- The caller joins the waiters of another task's mutex; only a full counter stops it. -/
theorem wp_joinMutexWaiters {owner : Slot} (current : s.current cpu = some (s.idOf slot))
    (taken : s.mutexOwner = some (s.idOf owner)) (differs : owner ≠ slot)
    (late : ¬ ((s.tasks owner).effectivePriority < (s.tasks slot).basePriority →
      Room s.priorityInheritanceCount) → ∀ reason s', failed reason s') :
    wp (joinMutexWaiters cpu (s.idOf slot)) (fun _ s' => Accepted s' ∧
      ((s.tasks owner).effectivePriority < (s.tasks slot).basePriority →
        Room s.priorityInheritanceCount)) failed s := by
  have member := (valid.runs current).1
  unfold joinMutexWaiters
  simp only [wp_bind, wp_read, wp_update, wp_bump]
  refine wp_ensure_intro (fun _ => ?_) (fun full => absurd (waiters_room valid member) full)
  refine wp_takeCurrent_running valid current ?_
  refine wp_index_idOf rfl (valid.owned.fits member).generation ?_
  obtain ⟨⟨places', shaped⟩, more⟩ := behindOwner_shaped valid member
  have ownerTask : (behindOwner s cpu slot).tasks owner = s.tasks owner := behindOwner_task differs
  have takenAfter : (behindOwner s cpu slot).mutexOwner =
      some ((behindOwner s cpu slot).idOf owner) := by
    rw [behindOwner_ids]
    exact taken
  have donation : (behindOwner s cpu slot).externalPriorityDonation owner =
      s.externalPriorityDonation owner := rfl
  change wp recomputeEffectivePriorities _ _ (behindOwner s cpu slot)
  have initial : ownerPriority (behindOwner s cpu slot) =
      some (s.tasks owner).effectivePriority := by
    unfold ownerPriority
    rw [takenAfter, map_some, Owned.taskAt_idOf, ownerTask]
  change wp recomputeEffectivePriorities (fun _ s' => wp (when
    (raised (ownerPriority (behindOwner s cpu slot)) (ownerPriority s')) countInheritance) _ _ s')
    _ (behindOwner s cpu slot)
  rw [initial]
  have count : (behindOwner s cpu slot).priorityInheritanceCount = s.priorityInheritanceCount := rfl
  generalize behindOwner s cpu slot = s₁ at *
  obtain ⟨ownerUsed, ownerRuns⟩ := valid.owner_runs taken
  have alive : OwnerAlive s₁ := by
    refine .inr ⟨owner, takenAfter, ?_, ?_⟩
    · rw [ownerTask]
      exact ownerUsed
    · rw [ownerTask]
      exact ownerRuns
  have covered : Covered s₁ := by
    intro other stored
    have same : owner = other :=
      idOf_injective s₁ (some.inj (takenAfter.symm.trans stored))
    subst same
    rw [more, ownerTask, donation]
    exact le_trans (valid.covered owner taken) (le_max_left _ _)
  -- The owner's priority rises exactly when the new waiter is above it.
  have final : ownerPriority (repriced s₁) = some (inherited s₁ owner) := by
    have stored : (repriced s₁).mutexOwner = some ((repriced s₁).idOf owner) := by
      rw [(repriced_quiet s₁).ids]
      exact takenAfter
    unfold ownerPriority
    rw [stored, map_some, Owned.taskAt_idOf, repriced_used (by rw [ownerTask]; exact ownerUsed)]
  have rises : raised (some (s.tasks owner).effectivePriority) (ownerPriority (repriced s₁)) = true ↔
      (s.tasks owner).effectivePriority < (s.tasks slot).basePriority := by
    have priced := valid.priced owner ownerUsed
    rw [inherited_owner taken] at priced
    rw [final, inherited_owner takenAfter, more, ownerTask, donation]
    unfold raised
    rw [decide_eq_true_iff]
    omega
  have ready : ((s.tasks owner).effectivePriority < (s.tasks slot).basePriority → Room s.priorityInheritanceCount) ↔
      Covered s₁ ∧ (raised (some (s.tasks owner).effectivePriority) (ownerPriority (repriced s₁)) =
        true → Room s₁.priorityInheritanceCount) := by
    rw [rises, count]
    exact ⟨fun room => ⟨covered, room⟩, fun both => both.2⟩
  refine wp_recompute shaped.owned alive ?_
  refine wp_mono (wp_inheritance_conclude shaped alive
    (fun unready => late (fun holds => unready (ready.mp holds)))) (fun _ s' concluded => ?_)
    (fun _ _ kept => kept)
  exact wp_mono concluded (fun _ _ accepted => ⟨accepted.1, ready.mpr accepted.2⟩)
    (fun _ _ kept => kept)

theorem wp_lockMutex (stop : (∀ id, s.current cpu = some id → s.mutexOwner = some id) →
      ∀ reason, failed reason s) (late : ¬ LockReady s cpu → ∀ reason s', failed reason s') :
    wp (lockMutex cpu) (fun _ s' => Accepted s' ∧ LockReady s cpu) failed s := by
  unfold lockMutex
  simp only [wp_bind, wp_read]
  refine wp_lift_intro (fun id found => ?_) (fun reason missing => stop (fun id current => ?_) _)
  swap
  · obtain ⟨slot, rfl, _⟩ := valid.owned.current_eq current
    rw [valid.currentId current] at missing
    cases missing
  obtain ⟨slot, rfl, items⟩ := valid.owned.current_eq (currentId_ok found)
  have member : slot ∈ places.items (.running cpu) := by
    rw [items]
    exact mem_singleton_self slot
  have caller : ∀ {slot'}, s.current cpu = some (s.idOf slot') → slot = slot' :=
    fun stored => idOf_injective s (some.inj ((currentId_ok found).symm.trans stored))
  refine wp_ensure_intro (fun other => ?_) (fun owner => stop (fun id current => ?_) _)
  swap
  · rw [currentId_ok found] at current
    rw [not_not.mp owner]
    exact current
  split
  · rename_i free
    have fits : Fits (s.tasks slot) (.running cpu) := valid.owned.fits member
    have alive : OwnerAlive { s with mutexOwner := some (s.idOf slot) } :=
      .inr ⟨slot, rfl, fits.generation, .inr fits.2.1⟩
    have covers := @acquired_covered _ _ slot valid free
    refine wp_mono (wp_conclude (valid.shaped.setOwner _) (acquired_priced valid free)
      (fun unsettled => late (fun ready => unsettled ⟨alive, covers.mpr
        ((ready slot (currentId_ok found)).1 free)⟩))) (fun _ _ accepted => ?_) (fun _ _ kept => kept)
    refine ⟨accepted.1, fun slot' stored => ?_⟩
    have same := caller stored
    subst same
    refine ⟨fun _ => covers.mp accepted.2.2, ?_⟩
    intro owner taken
    rw [free] at taken
    cases taken
  · rename_i taken
    rcases valid.owner with ⟨none, _⟩ | ⟨owner, stored, _⟩
    · exact absurd none taken
    · have differs : owner ≠ slot := fun same => other (by rw [stored, same])
      refine wp_mono (wp_joinMutexWaiters valid (currentId_ok found) stored differs
        (fun unready => late (fun ready => unready ((ready slot (currentId_ok found)).2 owner stored differs))))
        (fun _ _ accepted => ?_) (fun _ _ kept => kept)
      refine ⟨accepted.1, fun slot' current => ?_⟩
      have same := caller current
      subst same
      refine ⟨fun free => absurd free taken, ?_⟩
      intro owner' stored' _
      have same : owner = owner' :=
        idOf_injective s (some.inj (stored.symm.trans stored'))
      subst same
      exact accepted.2

theorem lockMutex_settles (cpu : CpuId) : Settles (LockReady s cpu) (lockMutex cpu) s :=
  Settles.intro (fun _ => wp_lockMutex valid)

end

/-- What a grant leaves as it was, with the granted task on a queue. -/
structure Granted (s s' : Scheduler) (slot : Slot) : Prop where
  others : ∀ other, other ≠ slot → s'.tasks other = s.tasks other
  runnable : (s'.tasks slot).state = .runnable
  kin : ∀ other, Kin (s.tasks other) (s'.tasks other)
  owner : s'.mutexOwner = s.mutexOwner
  donation : s'.externalPriorityDonation = s.externalPriorityDonation
  wakeCount : s'.wakeCount = s.wakeCount + 1
  teardownCount : s'.teardownCount = s.teardownCount

theorem Granted.ids {s' : Scheduler} (granted : Granted s s' slot) : s'.idOf = s.idOf := by
  funext other
  simp only [idOf, Task.id, (granted.kin other).generation]

theorem selectAllowedCpu_ok (shaped : Shaped s places rest) (slot : Slot) (used : (s.tasks slot).generation ≠ 0) :
    ∃ target, s.selectAllowedCpu (s.tasks slot).affinityMask = .ok target ∧
      Allows (s.tasks slot).affinityMask target := by
  obtain ⟨nonempty, within, complete⟩ := shaped.affinity slot used
  obtain ⟨cpu, allowed⟩ := exists_allows nonempty complete
  have online := within.allows allowed
  unfold selectAllowedCpu
  cases found : (finRange 4).find? (fun cpu =>
      decide (Allows s.cpuOnlineMask cpu ∧ Allows (s.tasks slot).affinityMask cpu)) with
  | none =>
    have missing := find?_eq_none.mp found cpu (mem_finRange cpu)
    exact absurd (decide_eq_true ⟨online, allowed⟩) missing
  | some target =>
    have holds := find?_some found
    exact ⟨target, rfl, (of_decide_eq_true holds).2⟩

variable {done : Unit → Scheduler → Prop}

theorem wp_grant (shaped : Shaped s places rest) (member : slot ∈ places.items .waiters) (reason : WakeReason)
    (late : ¬ Room s.wakeCount → ∀ reason s', failed reason s') (pass : Room s.wakeCount → ∀ s' target absent, Shaped s'
        ((places.leave .waiters slot).join (.queue target) slot absent) rest → Granted s s' slot → done () s') : wp
    (grantWaiter (s.idOf slot) reason) done failed s := by
  unfold grantWaiter
  simp only [wp_bind, wp_read, wp_update]
  refine wp_removeMutexWaiter shaped.owned (fun slot' position same _ left => ?_)
    (fun _ missing => absurd rfl (missing slot member))
  have same : slot = slot' := idOf_injective s same
  subst same
  have fits : Fits (s.tasks slot) .waiters := shaped.owned.fits member
  have absent : (places.leave .waiters slot).Absent slot := absent_leave member
  have unqueued := shaped.owned.unqueued slot (by rw [fits.2.1]; decide)
  refine wp_index_idOf rfl fits.generation ?_
  have transit := shaped.depart left rfl rfl rfl
  set s₁ : Scheduler := { s with mutexWaiters := s.mutexWaiters.closeGap position } with s₁Def
  obtain ⟨target, selected, allowed⟩ := selectAllowedCpu_ok transit slot fits.generation
  rw [selected, wp_lift_ok]
  set wake : Task → Task := fun task =>
    { task with state := .runnable, waitKind := .none, wakeReason := reason,
                assignedCpu := some target } with wakeDef
  have here := setTask_here s₁ slot wake
  have ready := transit.rewrite absent (f := wake) ⟨rfl, rfl, rfl, rfl⟩ (by simp [wake])
    (fun different => absurd rfl different) le_rfl
  refine wp_enqueue_transit ready absent ?_ ?_ ?_ ?_ ?_ ?_ (fun queue queued moved states => ?_)
  · rw [here]
    exact fits.generation
  · rw [here]
  · rw [here]
    exact unqueued
  · rw [here]
  · rw [here]
    exact allowed
  · rw [here]
    simp [wake]
  · refine wp_count_late late (fun room => ?_)
    refine pass room _ target absent (Unseen.shaped ?_ queued) ?_
    · exact ⟨rfl, rfl, rfl, rfl, rfl, rfl, rfl⟩
    · refine ⟨?_, ?_, ?_, rfl, rfl, rfl, rfl⟩
      · intro other differs
        exact (enqueued_other differs target queue).trans (setTask_other s₁ wake differs)
      · refine (states slot).trans ?_
        rw [here]
      · intro other
        exact (Moved.setTask s₁ slot (f := wake) ⟨rfl, rfl, rfl, rfl⟩).trans moved |>.tasks other

/-- The first of the waiters that no other is above: the one the mutex passes to. -/
def Heir (s : Scheduler) (waiters : List Slot) (slot : Slot) : Prop :=
  ∃ earlier later, waiters = earlier ++ slot :: later ∧
    (∀ other ∈ earlier, (s.tasks other).basePriority < (s.tasks slot).basePriority) ∧
    ∀ other ∈ later, (s.tasks other).basePriority ≤ (s.tasks slot).basePriority

variable {waiters : List Slot}

theorem Heir.mem (heir : Heir s waiters slot) : slot ∈ waiters := by
  obtain ⟨earlier, later, rfl, _⟩ := heir
  simp

theorem Heir.highest (heir : Heir s waiters slot) :
    ∀ other ∈ waiters, (s.tasks other).basePriority ≤ (s.tasks slot).basePriority := by
  obtain ⟨earlier, later, rfl, below, notAbove⟩ := heir
  intro other member
  rcases mem_append.mp member with before | after
  · exact le_of_lt (below other before)
  · rcases mem_cons.mp after with rfl | after
    · exact le_rfl
    · exact notAbove other after

theorem Heir.unique {slot' : Slot} (one : Heir s waiters slot) (two : Heir s waiters slot') : slot = slot' := by
  have highest := one.highest slot' two.mem
  have highest' := two.highest slot one.mem
  obtain ⟨earlier, later, rfl, below, _⟩ := one
  obtain ⟨earlier', later', same, below', _⟩ := two
  rcases append_eq_append_iff.mp same with ⟨gap, prefixed, rest⟩ | ⟨gap, prefixed, rest⟩
  · cases gap with
    | nil => exact (cons.inj rest).1
    | cons first gap =>
      obtain ⟨rfl, _⟩ := cons.inj rest
      have lower := below' slot (by rw [prefixed]; simp)
      omega
  · cases gap with
    | nil => exact (cons.inj rest).1.symm
    | cons first gap =>
      obtain ⟨rfl, _⟩ := cons.inj rest
      have lower := below slot' (by rw [prefixed]; simp)
      omega

/-- One more waiter is looked at. -/
theorem Heir.next (heir : Heir s waiters slot) (candidate : Slot) : Heir s (waiters ++ [candidate])
      (if (s.tasks slot).basePriority < (s.tasks candidate).basePriority then candidate else slot) := by
  have highest := heir.highest
  split
  · rename_i above
    refine ⟨waiters, [], rfl, ?_, by simp⟩
    intro other member
    exact lt_of_le_of_lt (highest other member) above
  · rename_i notAbove
    obtain ⟨earlier, later, rfl, below, others⟩ := heir
    refine ⟨earlier, later ++ [candidate], by simp, below, ?_⟩
    intro other member
    rcases mem_append.mp member with inside | last
    · exact others other inside
    · rw [mem_singleton] at last
      subst last
      exact Nat.le_of_not_lt notAbove

/-- The highest waiter is the heir, if anybody waits. -/
theorem highestMutexWaiter_ok (owned : Owned s places noFloor) :
    (places.items .waiters = [] ∧ s.highestMutexWaiter = .ok none) ∨ ∃ slot, Heir s (places.items .waiters) slot ∧
        s.highestMutexWaiter = .ok (some (s.idOf slot)) := by
  have length := Owned.length_le (s := s) places .waiters
  set items := places.items .waiters with itemsDef
  have len : s.mutexWaiters.len = items.length := by
    rw [owned.waiters, ofList_len, length_map]
  have loop : ∃ result, s.highestMutexWaiter = .ok result ∧ ((0 + items.length = 0 ∧ result = none) ∨
      ∃ slot, Heir s (items.take (0 + items.length)) slot ∧ result = some (s.idOf slot)) := by
    unfold highestMutexWaiter
    rw [range_eq_range', len]
    refine foldlM_range_ok _ 0 items.length none
      (fun cursor selected => (cursor = 0 ∧ selected = none) ∨
        ∃ slot, Heir s (items.take cursor) slot ∧ selected = some (s.idOf slot))
      ?_ (.inl ⟨rfl, rfl⟩)
    intro cursor selected _ before current
    have inside : cursor < items.length := by omega
    have entry : s.mutexWaiters.get cursor = some (s.idOf (items.get ⟨cursor, inside⟩)) := by
      rw [owned.waiters, get_ofList length, getElem?_map, getElem?_eq_getElem inside]
      rfl
    rw [entry, take_succ_eq_append_getElem inside]
    rcases current with ⟨rfl, rfl⟩ | ⟨slot, heir, rfl⟩
    · exact ⟨_, rfl, .inr ⟨_, ⟨[], [], rfl, by simp, by simp⟩, rfl⟩⟩
    · have next := heir.next (items.get ⟨cursor, inside⟩)
      simp only [orError_some, bind, Except.bind, pure, Except.pure, Owned.taskAt_idOf]
      split at next
      · rename_i above
        rw [if_pos above]
        exact ⟨_, rfl, .inr ⟨_, next, rfl⟩⟩
      · rename_i notAbove
        rw [if_neg notAbove]
        exact ⟨_, rfl, .inr ⟨_, next, rfl⟩⟩
  obtain ⟨result, whole, last⟩ := loop
  rcases last with ⟨none, rfl⟩ | ⟨slot, heir, rfl⟩
  · exact .inl ⟨length_eq_zero_iff.mp (by omega), whole⟩
  · rw [zero_add, take_length] at heir
    exact .inr ⟨slot, heir, whole⟩

/-- What `unlock_mutex` needs of the waiter it hands the mutex to. -/
def UnlockReady (s : Scheduler) (cpu : CpuId) : Prop :=
  ∀ owner waiter, s.current cpu = some owner → s.mutexOwner = some owner →
    s.highestMutexWaiter = .ok (some (s.idOf waiter)) →
    Room s.wakeCount ∧ s.externalPriorityDonation waiter ≤ (s.tasks waiter).basePriority

/-- The granted waiter inherits nothing from waiters below it. -/
theorem granted_covered {s' : Scheduler} {waiter : Slot} {target : CpuId}
    {absent : (places.leave .waiters waiter).Absent waiter}
    (shaped : Shaped s' ((places.leave .waiters waiter).join (.queue target) waiter absent) rest)
    (granted : Granted s s' waiter) (stored : s'.mutexOwner = some (s'.idOf waiter))
    (highest : ∀ other ∈ places.items .waiters, (s.tasks other).basePriority ≤ (s.tasks waiter).basePriority) : Covered
    s' ↔ s.externalPriorityDonation waiter ≤ (s.tasks waiter).basePriority := by
  have nothing : waitersBase s' (s'.tasks waiter).basePriority = (s.tasks waiter).basePriority := by
    rw [(granted.kin waiter).basePriority]
    refine le_antisymm ?_ (le_foldl_max _ _)
    rw [waitersBase_items shaped.owned, join_items, if_neg (by simp), leave_items,
      if_pos rfl]
    refine foldl_max_le ?_ le_rfl
    intro value member
    obtain ⟨other, inside, rfl⟩ := mem_map.mp member
    rw [(granted.kin other).basePriority]
    exact highest other (mem_of_mem_erase inside)
  constructor
  · intro covered
    have donated := covered waiter stored
    rw [nothing, granted.donation] at donated
    exact donated
  · intro donated slot taken
    have same : waiter = slot := idOf_injective s' (some.inj (stored.symm.trans taken))
    subst same
    rw [nothing, granted.donation]
    exact donated

theorem wp_unlockMutex (valid : Valid s places)
    (stop : (∀ id, s.current cpu = some id → s.mutexOwner ≠ some id) → ∀ reason, failed reason s)
    (late : ¬ UnlockReady s cpu → ∀ reason s', failed reason s') :
    wp (unlockMutex cpu) (fun _ s' => Accepted s' ∧ UnlockReady s cpu) failed s := by
  unfold unlockMutex
  simp only [wp_bind, wp_read, wp_update, wp_pure, wp_bump]
  refine wp_lift_intro (fun id found => ?_) (fun reason missing => stop (fun id current => ?_) _)
  swap
  · obtain ⟨slot, rfl, _⟩ := valid.owned.current_eq current
    rw [valid.currentId current] at missing
    cases missing
  refine wp_ensure_intro (fun owner => ?_) (fun other => stop (fun id' current => ?_) _)
  swap
  · rw [currentId_ok found] at current
    cases current
    exact other
  rcases highestMutexWaiter_ok valid.owned with ⟨empty, highest⟩ | ⟨waiter, heir, highest⟩
  · rw [highest, wp_lift_ok, wp_whenSome_none]
    have alone : OwnerAlive { s with mutexOwner := none } := by
      refine .inl ⟨rfl, ?_⟩
      rw [valid.owned.waiters, ofList_len, empty]
      rfl
    have covered : Covered { s with mutexOwner := none } := by
      intro slot stored
      cases stored
    refine wp_mono (wp_recompute_conclude (valid.shaped.setOwner none) alone
      (fun uncovered => absurd covered uncovered)) (fun _ _ concluded => ?_) (fun _ _ kept => kept)
    refine wp_mono concluded (fun _ _ accepted => ⟨accepted.1, ?_⟩) (fun _ _ kept => kept)
    intro _ waiter _ _ granted
    rw [highest] at granted
    cases granted
  · rw [highest, wp_lift_ok, wp_whenSome_some]
    have ready : UnlockReady s cpu ↔
        Room s.wakeCount ∧ s.externalPriorityDonation waiter ≤ (s.tasks waiter).basePriority := by
      constructor
      · intro holds
        exact holds id waiter (currentId_ok found) owner highest
      · intro holds _ waiter' _ _ granted
        rw [highest] at granted
        have same : waiter = waiter' :=
          idOf_injective s (some.inj (Except.ok.inj granted))
        subst same
        exact holds
    have member := heir.mem
    have used : (s.tasks waiter).generation ≠ 0 := (valid.owned.fits member).generation
    refine wp_grant (s := { s with mutexOwner := some (s.idOf waiter) })
      (valid.shaped.setOwner _) member .lockGranted
      (fun full => late (fun holds => full (ready.mp holds).1))
      (fun room s' target absent shaped granted => ?_)
    have stored : s'.mutexOwner = some (s'.idOf waiter) := by
      rw [granted.owner, granted.ids]
      rfl
    have alive : OwnerAlive s' := by
      refine .inr ⟨waiter, stored, ?_, .inl granted.runnable⟩
      rw [(granted.kin waiter).generation]
      exact used
    have covers := granted_covered shaped granted stored heir.highest
    refine wp_mono (wp_recompute_conclude shaped alive
      (fun uncovered => late (fun holds => uncovered (covers.mpr (ready.mp holds).2))))
      (fun _ _ concluded => ?_) (fun _ _ kept => kept)
    exact wp_mono concluded
      (fun _ _ accepted => ⟨accepted.1, ready.mpr ⟨room, covers.mp accepted.2⟩⟩)
      (fun _ _ kept => kept)

theorem unlockMutex_settles (valid : Valid s places) (cpu : CpuId) : Settles (UnlockReady s cpu) (unlockMutex cpu) s :=
  Settles.intro (fun _ => wp_unlockMutex valid)

/-- The task as `teardown` leaves it. -/
def buried (task : Task) : Task :=
  { task with state := .dead, assignedCpu := none, queuedCpu := none, wakeReason := .none,
              waitKind := .none, bypassCount := 0, effectivePriority := task.basePriority }

theorem Shaped.bury (shaped : Shaped s places [slot]) (absent : places.Absent slot) :
    Shaped ((s.setTask slot buried).setDonation slot 0) places [] := by
  have here := setTask_here s slot buried
  have away : ∀ {other}, other ≠ slot → (s.setTask slot buried).tasks other = s.tasks other :=
    fun differs => setTask_other s buried differs
  have owned := shaped.owned.rewrite absent (f := buried) (fun _ => rfl) (zero_le _)
  refine ⟨owned.quiet (setDonation_quiet _ slot 0), ?_, ?_, ?_, ?_⟩
  · intro other _
    change Stands ((s.setTask slot buried).tasks other) _
    by_cases same : other = slot
    · subst same
      rw [here]
      simp [Stands, buried]
    · rw [away same]
      exact shaped.stands other (by simpa using same)
  · intro other
    change ((s.setTask slot buried).tasks other).generation ≠ 0 →
      ((s.setTask slot buried).tasks other).affinityMask ≠ 0 ∧
      Within ((s.setTask slot buried).tasks other).affinityMask s.cpuOnlineMask ∧
      Within ((s.setTask slot buried).tasks other).affinityMask completeCpuMask
    by_cases same : other = slot
    · subst same
      rw [here]
      exact shaped.affinity other
    · rw [away same]
      exact shaped.affinity other
  · intro other
    change ((s.setTask slot buried).tasks other).basePriority ≤ maxPriority ∧ _
    by_cases same : other = slot
    · subst same
      rw [here, setDonation_here]
      exact ⟨(shaped.bounded other).1, zero_le _⟩
    · rw [away same, setDonation_other _ 0 same]
      exact shaped.bounded other
  · intro other
    change ((s.setTask slot buried).tasks other).generation = 0 ∨
      ((s.setTask slot buried).tasks other).state = .dead → _
    by_cases same : other = slot
    · subst same
      rw [setDonation_here]
      exact fun _ => rfl
    · rw [away same, setDonation_other _ 0 same]
      exact shaped.undonated other

/-- What `detach` leaves as it was. -/
structure Detached (s s' : Scheduler) : Prop where
  tasks : s'.tasks = s.tasks
  owner : s'.mutexOwner = s.mutexOwner
  donation : s'.externalPriorityDonation = s.externalPriorityDonation
  wakeCount : s'.wakeCount = s.wakeCount
  teardownCount : s'.teardownCount = s.teardownCount

/-- The waiters without this identity. -/
def withoutWaiter (s : Scheduler) (id : TaskId) : Scheduler :=
  { s with mutexWaiters := Slots.ofList (s.mutexWaiters.live.erase id) }

/-- A live task is where its state says, so `detach` finds it there. -/
theorem wp_detach_transit (valid : Valid s places) (stop : ∀ reason, failed reason s)
    (pass : ∀ s' places', (s.tasks slot).state ≠ .dormant → (s.tasks slot).state ≠ .dead →
      Shaped s' places' [slot] → places'.Absent slot → Detached s s' →
      s'.mutexWaiters = (if (s.tasks slot).waitKind = .mutex then
        (withoutWaiter s (s.idOf slot)).mutexWaiters else s.mutexWaiters) → done () s') : wp
    (detach (s.idOf slot) slot) done failed s := by
  have stands := valid.stands slot
  have mutex : ∀ {place}, slot ∈ places.items place → place ≠ .waiters →
      (s.tasks slot).waitKind ≠ .mutex := by
    intro place member differs waiting
    exact differs (places.apart member (stands.1 waiting))
  unfold detach
  simp only [wp_bind, wp_read]
  cases state : (s.tasks slot).state with
  | dormant => exact stop _
  | dead => exact stop _
  | runnable =>
    obtain ⟨cpu, member⟩ : ∃ cpu, slot ∈ places.items (.queue cpu) := by
      simpa [Stands, state] using stands.2.2
    have fits : Fits (s.tasks slot) (.queue cpu) := valid.owned.fits member
    simp only [wp_bind, wp_update]
    rw [fits.2.2.1, orError_some, wp_lift_ok]
    rcases remove_cases valid.owned cpu slot with ⟨missing, _⟩ | ⟨_, removed⟩
    · exact absurd member missing
    · rw [removed, wp_lift_ok]
      refine pass _ _ (by simp [state]) (by simp [state])
        (valid.shaped.depart (valid.owned.setQueue_leave rfl) rfl rfl rfl)
        (absent_leave member) ⟨rfl, rfl, rfl, rfl, rfl⟩ ?_
      rw [if_neg (mutex member (by simp))]
      rfl
  | running =>
    obtain ⟨cpu, member⟩ : ∃ cpu, slot ∈ places.items (.running cpu) := by
      simpa [Stands, state] using stands.2.2
    have fits : Fits (s.tasks slot) (.running cpu) := valid.owned.fits member
    have current := valid.owned.current_of_mem member
    obtain ⟨other, same, items⟩ := valid.owned.current_eq current
    have same : slot = other := idOf_injective s same
    subst same
    simp only [wp_bind, wp_update]
    rw [fits.2.2.2.1, orError_some, wp_lift_ok]
    refine wp_ensure_intro (fun _ => ?_) (fun _ => stop _)
    refine pass _ _ (by simp [state]) (by simp [state])
      (valid.shaped.depart (valid.owned.setCurrent_leave items) rfl rfl rfl)
      (absent_leave member) ⟨rfl, rfl, rfl, rfl, rfl⟩ ?_
    rw [if_neg (mutex member (by simp))]
    rfl
  | blocked =>
    dsimp only
    split
    · rename_i waiting
      have member := stands.1 waiting
      refine wp_removeMutexWaiter valid.owned (fun other position same _ left => ?_)
        (fun _ missing => absurd rfl (missing slot member))
      have same : slot = other := idOf_injective s same
      subst same
      refine pass _ _ (by simp [state]) (by simp [state]) (valid.shaped.depart left rfl rfl rfl)
        (absent_leave member) ⟨rfl, rfl, rfl, rfl, rfl⟩ ?_
      rw [if_pos waiting]
      have stored := left.waiters
      refine stored.trans ?_
      unfold withoutWaiter
      rw [valid.shaped.live_waiters, Owned.erase_map]
      rfl
    · rename_i other
      refine pass s places (by simp [state]) (by simp [state]) (valid.shaped.release slot)
        (valid.owned.absent_of_blocked state other) ⟨rfl, rfl, rfl, rfl, rfl⟩ ?_
      rw [if_neg other]

/-- Every waiter of a dead owner is woken; the torn-down task stays as it is. -/
theorem wp_releaseMutex (shaped : Shaped s places [slot]) (absent : places.Absent slot)
    (late : ¬ s.wakeCount + s.mutexWaiters.len < u32Values → ∀ reason s', failed reason s')
    (pass : ∀ s' places', Shaped s' places' [slot] → places'.Absent slot → s'.mutexOwner = none →
      s'.mutexWaiters.len = 0 → s'.teardownCount = s.teardownCount → done () s') : wp releaseMutex done failed s
    := by
  unfold releaseMutex
  simp only [wp_bind, wp_read, wp_update]
  set count := s.mutexWaiters.len with countDef
  refine wp_mono (wp_forEach_range failed
    (fun cursor s' => ∃ places', Shaped s' places' [slot] ∧ places'.Absent slot ∧
      s'.mutexOwner = none ∧ s'.mutexWaiters.len = count - cursor ∧
      s'.wakeCount = s.wakeCount + cursor ∧ s'.teardownCount = s.teardownCount) ?_
    ⟨places, shaped.setOwner none, absent, rfl, rfl, rfl, rfl⟩)
    (fun _ s' kept => ?_) (fun _ _ kept => kept)
  · rintro cursor s' before ⟨places', shaped', absent', free, len, wakes, teardowns⟩
    have stored := shaped'.owned.waiters
    have length : (places'.items .waiters).length = count - cursor := by
      rw [stored, ofList_len, length_map] at len
      exact len
    obtain ⟨first, others, items⟩ := exists_cons_of_length_pos
      (by omega : 0 < (places'.items .waiters).length)
    have member : first ∈ places'.items .waiters := by
      rw [items]
      exact mem_cons_self ..
    have entry : s'.mutexWaiters.get 0 = some (s'.idOf first) := by
      rw [stored, get_ofList (Owned.length_le places' _), items]
      rfl
    unfold releaseFirstWaiter
    simp only [wp_bind, wp_read]
    rw [entry, orError_some, wp_lift_ok]
    refine wp_grant shaped' member .ownerGone (fun full => late ?_)
      (fun _ s'' target gone shaped'' granted => ?_)
    · unfold Room at full
      omega
    · refine ⟨_, shaped'', ?_, ?_, ?_, ?_, ?_⟩
      · intro place inside
        rw [mem_join, mem_leave] at inside
        rcases inside with ⟨inside, _⟩ | ⟨_, rfl⟩
        · exact absent' place inside
        · exact absent' .waiters member
      · rw [granted.owner]
        exact free
      · rw [shaped''.owned.waiters, ofList_len, length_map, join_items,
          if_neg (by simp), leave_items, if_pos rfl, length_erase_of_mem member, length]
        omega
      · rw [granted.wakeCount, wakes]
        omega
      · rw [granted.teardownCount]
        exact teardowns
  · obtain ⟨places', shaped', absent', free, len, _, teardowns⟩ := kept
    refine pass s' places' shaped' absent' free ?_ teardowns
    omega

/-- What `teardown` of a live task needs. -/
def TeardownReady (s : Scheduler) (id : TaskId) : Prop :=
  ∀ slot, s.taskIndex id = .ok slot → (s.tasks slot).state ≠ .dormant →
    (s.tasks slot).state ≠ .dead → Room s.teardownCount ∧
      (s.mutexOwner = some id → s.wakeCount + s.mutexWaiters.len < u32Values) ∧
      ((s.tasks slot).waitKind = .mutex → Covered (withoutWaiter s id))

/-- The last writes of `teardown`. -/
theorem wp_bury (shaped : Shaped s places [slot]) (absent : places.Absent slot)
    (alive : OwnerAlive ((s.setTask slot buried).setDonation slot 0))
    (late : ¬ (Covered ((s.setTask slot buried).setDonation slot 0) ∧ Room s.teardownCount) →
      ∀ reason s', failed reason s') : wp recomputeEffectivePriorities (fun _ s' => wp countTeardown
        (fun _ s'' => wp check (fun _ => Accepted) failed s''.bumpSequence) failed s') failed
    ((s.setTask slot buried).setDonation slot 0) := by
  have dead := shaped.bury absent
  set s₁ := (s.setTask slot buried).setDonation slot 0 with s₁Def
  refine wp_recompute dead.owned alive ?_
  refine wp_count_late (fun full => late (fun both => full both.2)) (fun _ => ?_)
  have unseen : Unseen (repriced s₁)
      { repriced s₁ with teardownCount := (repriced s₁).teardownCount + 1 } :=
    ⟨rfl, rfl, rfl, rfl, rfl, rfl, rfl⟩
  by_cases covered : Covered s₁
  · exact wp_finish (unseen.valid (repriced_valid dead alive covered))
  · refine wp_mono (wp_conclude (unseen.shaped (repriced_shaped dead))
      (unseen.moved.priced (repriced_priced s₁)) (fun _ => late (fun both => covered both.1)))
      (fun _ _ accepted => accepted.1) (fun _ _ kept => kept)

/-- The owner of the mutex is another task, or there is none. -/
theorem buried_owner {s₁ : Scheduler} (valid : Valid s places) (detached : Detached s s₁)
    (other : s.mutexOwner ≠ some (s.idOf slot)) (free : s.mutexOwner = none → s₁.mutexWaiters.len = 0) :
    OwnerAlive ((s₁.setTask slot buried).setDonation slot 0) := by
  have ids : (s₁.setTask slot buried).idOf = s.idOf := by
    rw [setTask_idOf s₁ slot rfl]
    funext slot'
    simp only [idOf, detached.tasks]
  rcases valid.owner with ⟨none, _⟩ | ⟨owner, stored, used, runs⟩
  · exact .inl ⟨detached.owner.trans none, free none⟩
  · have differs : owner ≠ slot := fun same => other (by rw [stored, same])
    have task : (s₁.setTask slot buried).tasks owner = s.tasks owner := by
      rw [setTask_other s₁ buried differs, detached.tasks]
    refine .inr ⟨owner, ?_, ?_, ?_⟩
    · change s₁.mutexOwner = some ((s₁.setTask slot buried).idOf owner)
      rw [ids, detached.owner]
      exact stored
    · change ((s₁.setTask slot buried).tasks owner).generation ≠ 0
      rw [task]
      exact used
    · change ((s₁.setTask slot buried).tasks owner).state = _ ∨
        ((s₁.setTask slot buried).tasks owner).state = _
      rw [task]
      exact runs

/-- Burying another task leaves a covered owner covered. -/
theorem buried_covered {s₁ s₂ : Scheduler} (covered : Covered s₂)
    (tasks : s₁.tasks = s₂.tasks) (owner : s₁.mutexOwner = s₂.mutexOwner) (waiters : s₁.mutexWaiters = s₂.mutexWaiters)
    (donation : s₁.externalPriorityDonation = s₂.externalPriorityDonation) :
    Covered ((s₁.setTask slot buried).setDonation slot 0) := by
  have ids : (s₁.setTask slot buried).idOf = s₂.idOf := by
    rw [setTask_idOf s₁ slot rfl]
    funext slot'
    simp only [idOf, tasks]
  have base : ∀ other, ((s₁.setTask slot buried).tasks other).basePriority =
      (s₂.tasks other).basePriority := by
    intro other
    by_cases same : other = slot
    · subst same
      rw [setTask_here, tasks]
      rfl
    · rw [setTask_other s₁ buried same, tasks]
  intro other stored
  have before := covered other (by rw [← owner, ← ids]; exact stored)
  have same : ∀ start, waitersBase ((s₁.setTask slot buried).setDonation slot 0) start =
      waitersBase s₂ start := waitersBase_congr _ _ waiters base
  by_cases here : other = slot
  · subst here
    rw [setDonation_here]
    exact zero_le _
  · rw [setDonation_other _ 0 here, same]
    change s₁.externalPriorityDonation other ≤
      waitersBase s₂ ((s₁.setTask slot buried).tasks other).basePriority
    rw [base, donation]
    exact before

theorem teardown_settles (valid : Valid s places) (id : TaskId) : Settles (TeardownReady s id) (teardown id) s := by
  unfold Settles teardown
  simp only [wp_bind, wp_read, wp_update, wp_bump]
  refine wp_index (fun slot same used => ?_) (fun _ _ _ => rfl)
  subst same
  refine wp_detach_transit valid (fun _ _ => rfl) ?_
  intro s₁ places₁ awake alive shaped absent detached waiters
  have ready : TeardownReady s (s.idOf slot) → Room s₁.teardownCount ∧
      (s.mutexOwner = some (s.idOf slot) → s.wakeCount + s.mutexWaiters.len < u32Values) ∧
      ((s.tasks slot).waitKind = .mutex → Covered (withoutWaiter s (s.idOf slot))) := by
    intro holds
    rw [detached.teardownCount]
    exact holds slot (Owned.taskIndex_idOf used) awake alive
  refine wp_when_intro (fun taken => ?_) (fun other => ?_)
  · -- The owner dies: it is no waiter itself, and everyone who waits is woken.
    rw [detached.owner] at taken
    have running := (valid.owner_runs taken).2
    have notWaiting : (s.tasks slot).waitKind ≠ .mutex := by
      intro waiting
      have fits : Fits (s.tasks slot) .waiters := valid.owned.fits ((valid.stands slot).1 waiting)
      rw [fits.2.1] at running
      rcases running with running | running <;> cases running
    rw [if_neg notWaiting] at waiters
    refine wp_releaseMutex shaped absent ?_ ?_
    · rw [detached.wakeCount, waiters]
      exact fun full _ _ holds => absurd ((ready holds).2.1 taken) full
    · intro s₂ places₂ shaped₂ absent₂ free empty teardowns
      refine wp_bury shaped₂ absent₂ (.inl ⟨free, empty⟩) (fun unsettled _ _ holds => ?_)
      refine absurd ⟨?_, ?_⟩ unsettled
      · intro other stored
        have free' : ((s₂.setTask slot buried).setDonation slot 0).mutexOwner = none := free
        rw [free'] at stored
        cases stored
      · rw [teardowns]
        exact (ready holds).1
  · rw [detached.owner] at other
    refine wp_bury shaped absent (buried_owner valid detached other ?_)
      (fun unsettled _ _ holds => absurd ⟨?_, (ready holds).1⟩ unsettled)
    · intro free
      have nobody := valid.free_waiters free
      have notWaiting : (s.tasks slot).waitKind ≠ .mutex := by
        intro waiting
        have member : slot ∈ places.items .waiters := (valid.stands slot).1 waiting
        rw [nobody] at member
        cases member
      rw [waiters, if_neg notWaiting, valid.owned.waiters, nobody]
      rfl
    · by_cases waiting : (s.tasks slot).waitKind = .mutex
      · rw [if_pos waiting] at waiters
        have uncovered : Covered (withoutWaiter s (s.idOf slot)) := (ready holds).2.2 waiting
        exact buried_covered uncovered detached.tasks detached.owner waiters detached.donation
      · rw [if_neg waiting] at waiters
        exact buried_covered valid.covered detached.tasks detached.owner waiters detached.donation

/-- A task that has just been created. -/
structure Fresh (s : Scheduler) (task : Task) : Prop where
  generation : task.generation ≠ 0
  state : task.state = .dormant
  effective : task.effectivePriority = task.basePriority
  base : task.basePriority ≤ maxPriority
  affinity : task.affinityMask ≠ 0 ∧ Within task.affinityMask s.cpuOnlineMask ∧
    Within task.affinityMask completeCpuMask
  assigned : task.assignedCpu = none
  queued : task.queuedCpu = none
  woken : task.wakeReason = .none
  waiting : task.waitKind = .none
  bypass : task.bypassCount = 0

theorem Fresh.shaped {task : Task} (fresh : Fresh s task) (shaped : Shaped s places []) {index : Slot}
    (absent : places.Absent index) : Shaped (s.setTask index (fun _ => task)) places [] := by
  have here := setTask_here s index (fun _ => task)
  refine ⟨shaped.owned.rewrite absent (fun _ => fresh.queued) (by simp [fresh.bypass]), ?_, ?_, ?_, ?_⟩
  · intro slot outside
    by_cases same : slot = index
    · subst same
      rw [here]
      simp [Stands, fresh.state, fresh.assigned, fresh.woken, fresh.waiting]
    · rw [setTask_other _ _ same]
      exact shaped.stands slot outside
  · intro slot
    by_cases same : slot = index
    · subst same
      rw [here]
      exact fun _ => fresh.affinity
    · rw [setTask_other _ _ same]
      exact shaped.affinity slot
  · intro slot
    by_cases same : slot = index
    · subst same
      rw [here]
      exact ⟨fresh.base, (shaped.bounded slot).2⟩
    · rw [setTask_other _ _ same]
      exact shaped.bounded slot
  · intro slot
    by_cases same : slot = index
    · subst same
      rw [here, fresh.state]
      intro unused
      rcases unused with unused | dead
      · exact absurd unused fresh.generation
      · cases dead
    · rw [setTask_other _ _ same]
      exact shaped.undonated slot

theorem Fresh.valid {task : Task} (fresh : Fresh s task) (valid : Valid s places) {index : Slot}
    (absent : places.Absent index) (free : (s.tasks index).generation = 0 ∨ (s.tasks index).state = .dead) :
    Valid (s.setTask index (fun _ => task)) places := by
  have shaped := fresh.shaped valid.shaped absent
  set s₁ := s.setTask index (fun _ => task) with s₁Def
  have here : s₁.tasks index = task := setTask_here s index (fun _ => task)
  have away : ∀ {slot}, slot ≠ index → s₁.tasks slot = s.tasks slot :=
    fun differs => setTask_other _ _ differs
  have ids : ∀ {slot}, slot ≠ index → s₁.idOf slot = s.idOf slot := by
    intro slot differs
    simp only [idOf, away differs]
  have waiters : ∀ start, waitersBase s₁ start = waitersBase s start := by
    intro start
    rw [waitersBase_items shaped.owned, waitersBase_items valid.owned]
    congr 1
    apply map_congr_left
    intro slot member
    rw [away (fun same => absent .waiters (same ▸ member))]
  -- The owner can run, so it is not in the slot that was free.
  have apart : ∀ {owner}, s.mutexOwner = some (s.idOf owner) → owner ≠ index := by
    intro owner taken same
    subst same
    obtain ⟨used, runs⟩ := valid.owner_runs taken
    rcases free with unused | dead
    · exact used unused
    · rw [dead] at runs
      rcases runs with runs | runs <;> cases runs
  have foreign : ∀ {slot}, s₁.mutexOwner = some (s₁.idOf slot) →
      slot ≠ index ∧ s.mutexOwner = some (s.idOf slot) := by
    intro slot stored
    have taken : s.mutexOwner = some (s₁.idOf slot) := stored
    rcases valid.owner with ⟨none, _⟩ | ⟨owner, owned, _⟩
    · rw [none] at taken
      cases taken
    · have slots : owner = slot := by
        have same := congrArg TaskId.index? (some.inj (owned.symm.trans taken))
        simpa using same
      subst slots
      exact ⟨apart owned, owned⟩
  refine ⟨shaped, ?_, ?_, ?_⟩
  · rcases valid.owner with free | ⟨owner, taken, used, runs⟩
    · exact .inl free
    · have differs := apart taken
      refine .inr ⟨owner, ?_, ?_, ?_⟩
      · rw [ids differs]
        exact taken
      · rw [away differs]
        exact used
      · rw [away differs]
        exact runs
  · intro slot used
    by_cases same : slot = index
    · subst same
      have other : s₁.mutexOwner ≠ some (s₁.idOf slot) := fun stored => (foreign stored).1 rfl
      have none : s₁.externalPriorityDonation slot = 0 := valid.shaped.undonated slot free
      rw [inherited_other other, none, here, fresh.effective]
      omega
    · rw [away same] at used ⊢
      rw [valid.priced slot used]
      unfold inherited
      dsimp only
      rw [ids same, away same, waiters]
      rfl
  · intro slot stored
    obtain ⟨differs, taken⟩ := foreign stored
    rw [waiters, away differs]
    exact valid.covered slot taken

theorem createTask_lands (valid : Valid s places) (slot generation priority : Nat)
    (affinityMask : BitVec 8) : Lands (createTask slot generation priority affinityMask) s := by
  unfold Lands createTask
  simp only [wp_bind, wp_read, wp_update, wp_pure, wp_bump]
  refine wp_lift_intro (fun id made => ?_) (fun _ _ => rfl)
  refine wp_ensure_intro (fun range => ?_) (fun _ => rfl)
  refine wp_ensure_intro (fun mask => ?_) (fun _ => rfl)
  refine wp_lift_intro (fun index _ => ?_) (fun _ _ => rfl)
  refine wp_ensure_intro (fun free => ?_) (fun _ => rfl)
  refine wp_ensure_intro (fun _ => ?_) (fun _ => rfl)
  have fresh : generation ≠ 0 := by
    unfold newTaskId at made
    split at made
    · cases made
    · split at made
      · cases made
      · rename_i positive
        exact positive
  have absent : places.Absent index := by
    rcases free with unused | dead
    · exact valid.owned.absent_of_unused unused
    · exact valid.owned.absent_of_dead dead
  refine ⟨places, Valid.bumped (Fresh.valid ?_ valid absent free)⟩
  exact ⟨fresh, rfl, rfl, range.2, mask, rfl, rfl, rfl, rfl, rfl⟩

end PooleOS.Sched
