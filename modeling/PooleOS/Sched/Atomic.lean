import PooleOS.Sched.Moves

/- Operations that leave priorities alone. From a valid scheduler they either
fail before the first write or succeed; only exhausted counters and a mutex
owner that blocks stop them half-way. -/
namespace PooleOS.Sched

open Op Places
open Scheduler

variable {s : Scheduler} {places : Places Place Slot}

/-- A 32-bit counter that can still advance. -/
def Room (counter : Nat) : Prop := counter + 1 < u32Values

instance (counter : Nat) : Decidable (Room counter) :=
  inferInstanceAs (Decidable (counter + 1 < u32Values))

variable {failed : Error → Scheduler → Prop}

theorem wp_count_late {get : Scheduler → Nat} {set : Nat → Scheduler → Scheduler} {done : Unit → Scheduler → Prop}
    (late : ¬ Room (get s) → ∀ reason s', failed reason s') (pass : Room (get s) → done () (set (get s + 1) s))
    : wp (count get set) done failed s :=
  wp_count get set pass (fun full => late (Nat.not_lt.mpr full) _ _)

theorem Valid.stands (valid : Valid s places) (slot : Slot) :
    Stands (s.tasks slot) (fun place => slot ∈ places.items place) :=
  valid.shaped.stands slot (by simp)

theorem Valid.owned (valid : Valid s places) : Owned s places noFloor := valid.shaped.owned

variable {cpu : CpuId} {f : Task → Task}

/-- A task that is nowhere is made runnable, queued, and the operation goes on. -/
theorem wp_makeRunnable {s₀ : Scheduler} {places₀ : Places Place Slot} (valid : Valid s₀ places₀) {slot : Slot}
    (transit : Shaped s places [slot]) (absent : places.Absent slot) (moved : Moved s₀ s) (tasks : s.tasks = s₀.tasks)
    (used : (s.tasks slot).generation ≠ 0) (kin : Kin (s.tasks slot) (f (s.tasks slot)))
    (runnable : (f (s.tasks slot)).state = .runnable) (unqueued : (f (s.tasks slot)).queuedCpu = none)
    (assigned : (f (s.tasks slot)).assignedCpu = some cpu) (allowed : Allows (s.tasks slot).affinityMask cpu)
    (other : (f (s.tasks slot)).waitKind ≠ .mutex)
    (bypass : (f (s.tasks slot)).bypassCount ≤ (s.tasks slot).bypassCount) {done : Unit → Scheduler → Prop}
    (pass : ∀ queue, Valid (Owned.enqueued (s.setTask slot f) slot cpu queue) (places.join (.queue cpu) slot absent) →
      done () (Owned.enqueued (s.setTask slot f) slot cpu queue)) : wp (enqueue slot cpu) done failed
    (s.setTask slot f) := by
  have here := setTask_here s slot f
  have ready := transit.rewrite absent kin (by rw [runnable]; decide)
    (fun different => absurd runnable different) bypass
  refine wp_enqueue_transit ready absent ?_ ?_ ?_ ?_ ?_ ?_ (fun queue shaped queued states => ?_)
  · rw [here, kin.generation]
    exact used
  · rw [here, runnable]
  · rw [here, unqueued]
  · rw [here, assigned]
  · rw [here, kin.affinityMask]
    exact allowed
  · rw [here]
    exact other
  · refine pass queue ((moved.trans ((Moved.setTask s slot kin).trans queued)).valid valid shaped ?_)
    intro slot' _ alive
    rw [states]
    by_cases same : slot' = slot
    · subst same
      rw [here]
      exact .inl runnable
    · rw [setTask_other s f same, tasks]
      exact alive

theorem Moved.refl (s : Scheduler) : Moved s s := ⟨fun _ => Kin.refl _, rfl, rfl, rfl, rfl⟩

theorem activate_lands (valid : Valid s places) (id : TaskId) (cpu : CpuId) : Lands (activate id cpu) s := by
  unfold Lands activate
  simp only [wp_bind, wp_read, wp_update, wp_bump]
  refine wp_online (fun _ => ?_) (fun _ => rfl)
  refine wp_index (fun slot _ used => ?_) (fun _ _ => rfl)
  refine wp_ensure_intro (fun dormant => ?_) (fun _ => rfl)
  refine wp_ensure_intro (fun allowed => ?_) (fun _ => rfl)
  have absent := valid.owned.absent_of_dormant dormant
  have unqueued := valid.owned.unqueued slot (by rw [dormant]; decide)
  have other : (s.tasks slot).waitKind ≠ .mutex := fun mutex =>
    absent _ ((valid.stands slot).1 mutex)
  exact wp_makeRunnable valid (valid.shaped.release slot) absent (Moved.refl s) rfl used
    ⟨rfl, rfl, rfl, rfl⟩ rfl unqueued rfl allowed other le_rfl
    (fun _ queued => wp_finish queued)

theorem setTask_states (s : Scheduler) (slot : Slot) (state : (f (s.tasks slot)).state = (s.tasks slot).state)
    (slot' : Slot) : ((s.setTask slot f).tasks slot').state = (s.tasks slot').state := by
  by_cases same : slot' = slot
  · subst same
    rw [setTask_here, state]
  · rw [setTask_other s f same]

/-- A write that keeps the task where it is. -/
theorem Shaped.setTask {rest : List Slot} (shaped : Shaped s places rest) (slot : Slot)
    (place : SamePlace (s.tasks slot) (f (s.tasks slot)))
    (woken : (f (s.tasks slot)).wakeReason ≠ .none → (s.tasks slot).wakeReason ≠ .none)
    (base : (f (s.tasks slot)).basePriority ≤ maxPriority) : Shaped (s.setTask slot f) places rest := by
  have here := setTask_here s slot f
  refine ⟨shaped.owned.quiet (Quiet.setTask s slot place), ?_, ?_, ?_, ?_⟩
  · intro slot' outside
    have before := shaped.stands slot' outside
    by_cases same : slot' = slot
    · subst same
      rw [here]
      unfold Stands at before ⊢
      rw [place.waitKind, place.state, place.assignedCpu, place.bypassCount]
      exact ⟨before.1, fun pending => before.2.1 (woken pending), before.2.2⟩
    · rw [setTask_other s f same]
      exact before
  · intro slot'
    by_cases same : slot' = slot
    · subst same
      rw [here, place.generation, place.affinityMask]
      exact shaped.affinity slot'
    · rw [setTask_other s f same]
      exact shaped.affinity slot'
  · intro slot'
    by_cases same : slot' = slot
    · subst same
      rw [here]
      exact ⟨base, (shaped.bounded slot').2⟩
    · rw [setTask_other s f same]
      exact shaped.bounded slot'
  · intro slot'
    by_cases same : slot' = slot
    · subst same
      rw [here, place.generation, place.state]
      exact shaped.undonated slot'
    · rw [setTask_other s f same]
      exact shaped.undonated slot'

theorem Valid.setTask (valid : Valid s places) (slot : Slot) (kin : Kin (s.tasks slot) (f (s.tasks slot)))
    (place : SamePlace (s.tasks slot) (f (s.tasks slot)))
    (woken : (f (s.tasks slot)).wakeReason ≠ .none → (s.tasks slot).wakeReason ≠ .none) :
    Valid (s.setTask slot f) places := by
  have base : (f (s.tasks slot)).basePriority ≤ maxPriority := by
    rw [kin.basePriority]
    exact (valid.shaped.bounded slot).1
  refine (Moved.setTask s slot kin).valid valid (valid.shaped.setTask slot place woken base) ?_
  intro slot' _ alive
  rw [setTask_states s slot place.state]
  exact alive

theorem accountTick_lands (valid : Valid s places) (cpu : CpuId) (ticks : Nat) : Lands (accountTick cpu ticks) s := by
  unfold Lands accountTick
  simp only [wp_bind, wp_read, wp_update, wp_bump]
  refine wp_ensure_intro (fun _ => ?_) (fun _ => rfl)
  refine wp_lift_intro (fun _ _ => ?_) (fun _ _ => rfl)
  refine wp_index (fun slot _ _ => ?_) (fun _ _ => rfl)
  refine wp_lift_intro (fun _ _ => ?_) (fun _ _ => rfl)
  exact wp_finish (valid.setTask slot ⟨rfl, rfl, rfl, rfl⟩ ⟨rfl, rfl, rfl, rfl, rfl, rfl, rfl⟩ (fun pending => pending))

theorem consumeWake_lands (valid : Valid s places) (cpu : CpuId) : Lands (consumeWake cpu) s := by
  unfold Lands consumeWake
  simp only [wp_bind, wp_read, wp_update, wp_pure, wp_bump]
  refine wp_lift_intro (fun _ _ => ?_) (fun _ _ => rfl)
  refine wp_index (fun slot _ _ => ?_) (fun _ _ => rfl)
  refine wp_ensure_intro (fun _ => ?_) (fun _ => rfl)
  exact wp_finish (valid.setTask slot ⟨rfl, rfl, rfl, rfl⟩ ⟨rfl, rfl, rfl, rfl, rfl, rfl, rfl⟩
    (fun pending => absurd rfl pending))

theorem setCurrent_moved (s : Scheduler) (cpu : CpuId) (id : Option TaskId) :
    Moved s (s.setCurrent cpu id) := ⟨fun _ => Kin.refl _, rfl, rfl, rfl, rfl⟩

theorem setQueue_moved (s : Scheduler) (cpu : CpuId) (queue : RunQueue) :
    Moved s (s.setQueue cpu queue) := ⟨fun _ => Kin.refl _, rfl, rfl, rfl, rfl⟩

theorem yieldCurrent_lands (valid : Valid s places) (cpu : CpuId) : Lands (yieldCurrent cpu) s := by
  unfold Lands yieldCurrent
  simp only [wp_bind, wp_update, wp_pure, wp_bump]
  refine wp_takeCurrent valid.owned (fun slot _ member taken => ?_) (fun _ => rfl)
  have fits : Fits (s.tasks slot) (.running cpu) := valid.owned.fits member
  have absent : (places.leave (.running cpu) slot).Absent slot := absent_leave member
  have other : (s.tasks slot).waitKind ≠ .mutex := fun mutex => by
    have waiting := (valid.stands slot).1 mutex
    cases places.apart member waiting
  refine wp_index_idOf rfl fits.generation ?_
  exact wp_makeRunnable valid (valid.shaped.depart taken rfl rfl rfl) absent
    (setCurrent_moved s cpu none) rfl fits.generation ⟨rfl, rfl, rfl, rfl⟩ rfl fits.2.2.1 rfl
    fits.2.2.2.2 other le_rfl (fun _ queued => wp_finish queued)

theorem blockCurrentFor_settles (valid : Valid s places) {waitKind : WaitKind}
    (kind : waitKind = .event ∨ waitKind = .externalLock) :
    Settles (s.current cpu = none ∨ s.current cpu ≠ s.mutexOwner) (blockCurrentFor waitKind cpu) s := by
  unfold Settles blockCurrentFor
  simp only [wp_bind, wp_update, wp_pure, wp_bump]
  refine wp_takeCurrent valid.owned (fun slot current member taken => ?_) (fun _ _ => rfl)
  have fits : Fits (s.tasks slot) (.running cpu) := valid.owned.fits member
  have absent : (places.leave (.running cpu) slot).Absent slot := absent_leave member
  refine wp_index_idOf rfl fits.generation ?_
  have transit := valid.shaped.depart taken rfl rfl rfl
  have blocked := transit.rewrite absent (f := fun task =>
    { task with state := .blocked, assignedCpu := some cpu, waitKind := waitKind,
                wakeReason := .none, bypassCount := 0 })
    ⟨rfl, rfl, rfl, rfl⟩ (by simp) (fun _ => fits.2.2.1) (Nat.zero_le _)
  have here := setTask_here (s.setCurrent cpu none) slot (fun task =>
    { task with state := .blocked, assignedCpu := some cpu, waitKind := waitKind,
                wakeReason := .none, bypassCount := 0 })
  have arrived := blocked.arrive (by
    rw [here]
    rcases kind with rfl | rfl <;> simp [Stands])
  have moved := (setCurrent_moved s cpu none).trans (Moved.setTask (s.setCurrent cpu none) slot
    (f := fun task => { task with state := .blocked, assignedCpu := some cpu, waitKind := waitKind,
                                  wakeReason := .none, bypassCount := 0 }) ⟨rfl, rfl, rfl, rfl⟩)
  refine wp_mono (wp_conclude arrived (moved.priced valid.priced) ?_) (fun _ _ accepted => accepted.1)
    (fun _ _ kept => kept)
  intro unsettled _ _ ready
  -- A task that blocks and is not the owner leaves the owner as it was.
  have outside : s.mutexOwner ≠ some (s.idOf slot) := by
    intro owner
    rcases ready with idle | differs
    · rw [current] at idle
      cases idle
    · exact differs (current.trans owner.symm)
  have after := moved.valid valid arrived (by
    intro slot' owner alive
    have differs : slot' ≠ slot := fun same => outside (by rw [← same]; exact owner)
    rw [setTask_other _ _ differs]
    exact alive)
  exact absurd ⟨after.owner, after.covered⟩ unsettled

/-- The guards of `wake_kind`. -/
def Wakes (s : Scheduler) (id : TaskId) (cpu : CpuId) (waitKind : WaitKind) : Prop :=
  ∃ slot, s.taskIndex id = .ok slot ∧ (s.tasks slot).state = .blocked ∧
    (s.tasks slot).waitKind = waitKind ∧ Allows (s.tasks slot).affinityMask cpu

variable {id : TaskId}

theorem wakeKind_settles (valid : Valid s places) (reason : WakeReason)
    {waitKind : WaitKind} (kind : waitKind ≠ .mutex) :
    Settles (Wakes s id cpu waitKind → Room s.wakeCount) (wakeKind id cpu reason waitKind) s := by
  unfold Settles wakeKind
  simp only [wp_bind, wp_read, wp_update, wp_bump]
  refine wp_index (fun slot same used => ?_) (fun _ _ _ => rfl)
  refine wp_ensure_intro (fun blocked => ?_) (fun _ _ => rfl)
  refine wp_ensure_intro (fun _ => ?_) (fun _ _ => rfl)
  refine wp_ensure_intro (fun allowed => ?_) (fun _ _ => rfl)
  have absent : places.Absent slot :=
    valid.owned.absent_of_blocked blocked.1 (by rw [blocked.2]; exact kind)
  have unqueued := valid.owned.unqueued slot (by rw [blocked.1]; decide)
  refine wp_makeRunnable valid (valid.shaped.release slot) absent (Moved.refl s) rfl used
    ⟨rfl, rfl, rfl, rfl⟩ rfl unqueued rfl allowed (by simp) le_rfl
    (fun queue queued => ?_)
  refine wp_count_late (fun full _ _ ready => absurd (ready
    ⟨slot, Owned.taskIndex_ok.mpr ⟨same, used⟩, blocked.1, blocked.2, allowed⟩) full) (fun _ => ?_)
  refine wp_finish (Unseen.valid ?_ queued)
  exact ⟨rfl, rfl, rfl, rfl, rfl, rfl, rfl⟩

theorem wake_settles (valid : Valid s places) (reason : WakeReason) :
    Settles (Wakes s id cpu .event → Room s.wakeCount) (wake id cpu reason) s := by
  unfold Settles wake
  simp only [wp_bind]
  refine wp_online (fun _ => ?_) (fun _ _ => rfl)
  refine wp_ensure_intro (fun _ => ?_) (fun _ _ => rfl)
  exact wakeKind_settles valid reason (by decide)

theorem migrate_settles (valid : Valid s places) {target : CpuId} :
    Settles (∀ slot, s.taskIndex id = .ok slot → (s.tasks slot).state = .runnable →
      Allows (s.tasks slot).affinityMask target → (s.tasks slot).queuedCpu ≠ some target →
      Room s.migrationCount) (migrate id target) s := by
  unfold Settles migrate
  simp only [wp_bind, wp_read, wp_update, wp_bump]
  refine wp_online (fun _ => ?_) (fun _ _ => rfl)
  refine wp_index (fun slot same used => ?_) (fun _ _ _ => rfl)
  subst same
  refine wp_ensure_intro (fun runnable => ?_) (fun _ _ => rfl)
  refine wp_ensure_intro (fun allowed => ?_) (fun _ _ => rfl)
  have stands := valid.stands slot
  obtain ⟨cpu, member⟩ : ∃ cpu, slot ∈ places.items (.queue cpu) := by
    simpa [Stands, runnable] using stands.2.2
  have fits : Fits (s.tasks slot) (.queue cpu) := valid.owned.fits member
  rw [fits.2.2.1, orError_some, wp_lift_ok]
  refine wp_ensure_intro (fun differs => ?_) (fun _ _ => rfl)
  have elsewhere : (s.tasks slot).queuedCpu ≠ some target := by
    rw [fits.2.2.1]
    simpa using differs
  rcases remove_cases valid.owned cpu slot with ⟨missing, _⟩ | ⟨_, removed⟩
  · exact absurd member missing
  · rw [removed, wp_lift_ok]
    have left : Owned _ (places.leave (.queue cpu) slot) noFloor := valid.owned.setQueue_leave rfl
    have absent : (places.leave (.queue cpu) slot).Absent slot := absent_leave member
    have other : (s.tasks slot).waitKind ≠ .mutex := fun mutex => by
      have waiting := stands.1 mutex
      cases places.apart member waiting
    rw [wp_onError]
    refine wp_makeRunnable valid (valid.shaped.depart left rfl rfl rfl) absent
      (setQueue_moved s cpu _) rfl used ⟨rfl, rfl, rfl, rfl⟩ runnable rfl rfl allowed other
      le_rfl (fun queue queued => ?_)
    refine wp_count_late (fun full _ _ ready => absurd
      (ready slot (Owned.taskIndex_idOf used) runnable allowed elsewhere) full) (fun _ => ?_)
    refine wp_finish (Unseen.valid ?_ queued)
    exact ⟨rfl, rfl, rfl, rfl, rfl, rfl, rfl⟩

/-- The selected task has left its queue and its class is aged. -/
theorem overtake_shaped (valid : Valid s places) {chosen : Slot} (member : chosen ∈ places.items (.queue cpu))
    (best : ∀ other ∈ places.items (.queue cpu), Yields s chosen other) {queue : RunQueue}
    (stored : queue = Slots.ofList (((places.items (.queue cpu)).erase chosen).map s.idOf)) :
    Shaped ((aged (s.setQueue cpu queue) ((places.leave (.queue cpu) chosen).items (.queue cpu))
        (s.tasks chosen).effectivePriority).setTask chosen (taken cpu))
      (places.leave (.queue cpu) chosen) [chosen] := by
  have owned : Owned _ _ noFloor :=
    (overtake_keeps valid.owned member best stored).lower (fun _ => Nat.zero_le _)
  set rest := (places.leave (.queue cpu) chosen).items (.queue cpu)
  set priority := (s.tasks chosen).effectivePriority
  have here : ((aged (s.setQueue cpu queue) rest priority).setTask chosen (taken cpu)).tasks chosen =
      taken cpu ((aged (s.setQueue cpu queue) rest priority).tasks chosen) := setTask_here _ _ _
  have kin : ∀ slot, Kin (s.tasks slot)
      (((aged (s.setQueue cpu queue) rest priority).setTask chosen (taken cpu)).tasks slot) := by
    intro slot
    by_cases same : slot = chosen
    · subst same
      rw [here]
      unfold aged taken
      dsimp only
      split <;> exact ⟨rfl, rfl, rfl, rfl⟩
    · rw [setTask_other _ _ same]
      unfold aged
      dsimp only
      split <;> exact ⟨rfl, rfl, rfl, rfl⟩
  have states : ∀ slot, slot ≠ chosen →
      (((aged (s.setQueue cpu queue) rest priority).setTask chosen (taken cpu)).tasks slot).state =
        (s.tasks slot).state := by
    intro slot differs
    rw [setTask_other _ _ differs]
    unfold aged
    dsimp only
    split <;> rfl
  refine ⟨owned, ?_, ?_, ?_, ?_⟩
  · intro slot differs
    have apart : slot ≠ chosen := by simpa using differs
    have before := valid.stands slot
    have stays : ∀ place, slot ∈ (places.leave (.queue cpu) chosen).items place ↔
        slot ∈ places.items place := by
      intro place
      rw [mem_leave]
      exact ⟨fun inside => inside.1, fun inside => ⟨inside, fun same => apart same.2⟩⟩
    rw [setTask_other _ _ apart]
    unfold aged
    dsimp only
    split
    · -- An aged task is queued, so its state asks nothing of the counter.
      rename_i there
      have runnable : (s.tasks slot).state = .runnable :=
        (valid.owned.fits ((stays _).mp there.1)).2.1
      simpa [Stands, stays, runnable] using before
    · simpa only [stays, setQueue_tasks] using before
  · intro slot used
    rw [(kin slot).affinityMask]
    exact valid.shaped.affinity slot ((kin slot).generation ▸ used)
  · intro slot
    rw [(kin slot).basePriority]
    exact valid.shaped.bounded slot
  · intro slot unused
    rw [(kin slot).generation] at unused
    by_cases same : slot = chosen
    · subst same
      rw [here] at unused
      rcases unused with unused | dead
      · exact valid.shaped.undonated slot (.inl unused)
      · cases dead
    · rw [states slot same] at unused
      exact valid.shaped.undonated slot unused

theorem aged_moved (cpu : CpuId) (queue : RunQueue) (rest : List Slot) (priority : Nat) :
    Moved s (aged (s.setQueue cpu queue) rest priority) := by
  refine ⟨?_, rfl, rfl, rfl, rfl⟩
  intro slot
  unfold aged
  dsimp only
  split <;> exact ⟨rfl, rfl, rfl, rfl⟩

/-- Neither the selected task's counter nor the scheduler's is exhausted. -/
def DispatchRoom (s : Scheduler) (cpu : CpuId) : Prop :=
  ∀ index id, s.current cpu = none → s.pickQueueIndex cpu = .ok index →
    (s.queues cpu).get index = some id →
    Room (s.taskAt id).dispatchCount ∧ Room s.dispatchCount

/-- The second half of `dispatch` from a scheduler whose selected task is in transit. -/
theorem wp_runSelected_late {s₀ : Scheduler} {places₀ : Places Place Slot} (valid : Valid s₀ places₀) {chosen : Slot}
    (transit : Shaped (s.setTask chosen (taken cpu)) places [chosen]) (absent : places.Absent chosen)
    (moved : Moved s₀ s) (idle : s.current cpu = none) (states : ∀ slot, (s.tasks slot).state = (s₀.tasks slot).state)
    (fits : Fits (s.tasks chosen) (.queue cpu)) (other : (s.tasks chosen).waitKind ≠ .mutex)
    (late : ¬ (Room (s.tasks chosen).dispatchCount ∧ Room s.dispatchCount) → ∀ reason s', failed reason s') : wp
    (runSelected cpu chosen (s₀.idOf chosen)) (fun _ => Accepted) failed s := by
  unfold runSelected
  simp only [wp_bind, wp_read, wp_update, wp_bump]
  set s₁ := s.setTask chosen (taken cpu) with s₁Def
  have here : s₁.tasks chosen = taken cpu (s.tasks chosen) := setTask_here _ _ _
  have moved₁ : Moved s₀ s₁ := moved.trans (Moved.setTask s chosen ⟨rfl, rfl, rfl, rfl⟩)
  refine wp_orError (fun counter value => ?_) (fun full => late (fun room => ?_) _ _)
  swap
  · rw [here] at full
    exact absurd room.1 (Nat.not_lt.mpr (checkedAdd_eq_none.mp full))
  -- The counted task joins the idle processor.
  have counted := transit.rewrite absent (f := fun task => { task with dispatchCount := counter })
    ⟨rfl, rfl, rfl, rfl⟩ (by rw [here]; simp [taken]) (by rw [here]; intro _; rfl) le_rfl
  have moved₂ : Moved s₀ (s₁.setTask chosen (fun task => { task with dispatchCount := counter })) :=
    moved₁.trans (Moved.setTask s₁ chosen ⟨rfl, rfl, rfl, rfl⟩)
  have task := setTask_here s₁ chosen (fun task => { task with dispatchCount := counter })
  rw [here] at task
  have joined := counted.owned.current_join absent idle (by
    rw [task]
    exact ⟨fits.generation, rfl, rfl, rfl, fits.2.2.2.2⟩)
  have shaped := counted.join absent joined rfl rfl rfl (by
    rw [task]
    simp [Stands, taken, other])
  rw [moved₂.ids] at shaped
  have placed := (moved₂.trans (setCurrent_moved _ cpu (some (s₀.idOf chosen)))).valid valid shaped
    (by
      intro slot _ alive
      by_cases same : slot = chosen
      · subst same
        rw [setCurrent_tasks, task]
        exact .inr rfl
      · rw [setCurrent_tasks, setTask_other _ _ same, s₁Def, setTask_other _ _ same, states]
        exact alive)
  refine wp_count_late (fun full => late (fun room => full room.2)) (fun _ => ?_)
  refine wp_finish (Unseen.valid ?_ placed)
  exact ⟨rfl, rfl, rfl, rfl, rfl, rfl, rfl⟩

theorem dispatch_settles (valid : Valid s places) : Settles (DispatchRoom s cpu) (dispatch cpu) s := by
  refine wp_dispatch_selected valid.owned cpu (fun _ _ _ => rfl) ?_
  intro index chosen queue idle picked entry member best stored unaged
  have fits : Fits (s.tasks chosen) (.queue cpu) := valid.owned.fits member
  refine wp_runSelected_late valid (overtake_shaped valid member best stored)
    (absent_leave member) (aged_moved cpu queue _ _) idle ?_ ?_ ?_ ?_
  · intro slot
    unfold aged
    dsimp only
    split <;> rfl
  · rw [unaged]
    exact fits
  · rw [unaged]
    intro mutex
    cases places.apart member ((valid.stands chosen).1 mutex)
  · intro exhausted _ _ ready
    have room := ready index _ idle picked entry
    rw [Owned.taskAt_idOf] at room
    rw [unaged] at exhausted
    exact absurd room exhausted

end PooleOS.Sched
