import PooleOS.Sched.Placement

/- Every operation but `dispatch` keeps the places exclusive, on every exit. -/
namespace PooleOS.Sched

open Op Places
open Scheduler

variable {s : Scheduler} {places : Places Place Slot} {floor : Slot → Nat}

/-- The state an operation starts from: tasks outside every queue have no floor yet. -/
structure Begins (s : Scheduler) (places : Places Place Slot) (floor : Slot → Nat) : Prop where
  owned : Owned s places floor
  unfloored : ∀ slot, (∀ cpu, slot ∉ places.items (.queue cpu)) → floor slot = 0

theorem Begins.sound (begins : Begins s places floor) : Sound floor s := begins.owned.sound

theorem Begins.floor_absent (begins : Begins s places floor) {slot : Slot}
    (absent : places.Absent slot) : floor slot = 0 :=
  begins.unfloored slot (fun cpu => absent (.queue cpu))

theorem Begins.floor_elsewhere (begins : Begins s places floor) {slot : Slot} {place : Place}
    (member : slot ∈ places.items place) (other : ∀ cpu, place ≠ .queue cpu) : floor slot = 0 :=
  begins.unfloored slot (fun cpu queued => other cpu (places.apart member queued))

/-- The closing `bump_sequence` and `validate`. -/
theorem wp_close (sound : Sound floor s) : wp check (fun _ => Sound floor) (fun _ => Sound floor) s.bumpSequence :=
  wp_check (sound.quiet (bumpSequence_quiet s))

theorem setDonation_quiet (s : Scheduler) (slot : Slot) (priority : Nat) :
    Quiet s (s.setDonation slot priority) := ⟨rfl, rfl, rfl, fun _ => .refl _⟩

theorem setOwner_quiet (s : Scheduler) (owner : Option TaskId) :
    Quiet s { s with mutexOwner := owner } := ⟨rfl, rfl, rfl, fun _ => .refl _⟩

theorem createTask_keeps (begins : Begins s places floor) (slot generation priority : Nat) (affinityMask : BitVec 8) :
    wp (createTask slot generation priority affinityMask) (fun _ => Sound floor) (fun _ => Sound floor) s := by
  have sound := begins.sound
  unfold createTask
  simp only [wp_bind, wp_read, wp_update, wp_pure, wp_bump]
  refine wp_lift_intro (fun id _ => ?_) (fun _ _ => sound)
  refine wp_ensure_intro (fun _ => ?_) (fun _ => sound)
  refine wp_ensure_intro (fun _ => ?_) (fun _ => sound)
  refine wp_lift_intro (fun index _ => ?_) (fun _ _ => sound)
  refine wp_ensure_intro (fun free => ?_) (fun _ => sound)
  refine wp_ensure_intro (fun _ => ?_) (fun _ => sound)
  have absent : places.Absent index := by
    rcases free with unused | dead
    · exact begins.owned.absent_of_unused unused
    · exact begins.owned.absent_of_dead dead
  have fresh := begins.owned.rewrite absent (f := fun _ =>
    { generation := generation, state := .dormant, basePriority := priority,
      effectivePriority := priority, affinityMask := affinityMask, assignedCpu := none,
      queuedCpu := none, wakeReason := .none, waitKind := .none, bypassCount := 0,
      dispatchCount := 0, runtimeTicks := 0 }) (fun _ => rfl) (Nat.zero_le _)
  exact fresh.sound.quiet (bumpSequence_quiet _)

/-- A task that is nowhere is made runnable on a processor and queued there. -/
theorem makeRunnable_keeps (owned : Owned s places floor) {slot : Slot} (absent : places.Absent slot)
    (unfloored : floor slot = 0) {cpu : CpuId} (used : (s.tasks slot).generation ≠ 0) {f : Task → Task}
    (generation : (f (s.tasks slot)).generation = (s.tasks slot).generation)
    (runnable : (f (s.tasks slot)).state = .runnable) (assigned : (f (s.tasks slot)).assignedCpu = some cpu)
    (bypass : (f (s.tasks slot)).bypassCount ≤ (s.tasks slot).bypassCount) {done : Unit → Scheduler → Prop}
    {failed : Error → Scheduler → Prop}
    (pass : ∀ s', Owned s' (places.join (.queue cpu) slot absent) floor → done () s')
    (stop : ∀ reason, Sound floor (s.setTask slot f) → failed reason (s.setTask slot f)) :
    wp (enqueue slot cpu) done failed (s.setTask slot f) := by
  have ready := owned.rewrite absent (f := f) (fun other => absurd runnable other) bypass
  have here := setTask_here s slot f
  refine wp_enqueue ready absent ?_ ?_ ?_ pass (fun reason => stop reason ready.sound)
  · rw [here, generation]
    exact used
  · rw [here, assigned]
  · rw [unfloored]
    exact Nat.zero_le _

section

variable (begins : Begins s places floor)
include begins

theorem activate_keeps (id : TaskId) (cpu : CpuId) :
    wp (activate id cpu) (fun _ => Sound floor) (fun _ => Sound floor) s := by
  have sound := begins.sound
  unfold activate
  simp only [wp_bind, wp_read, wp_update, wp_bump]
  refine wp_online (fun _ => ?_) (fun _ => sound)
  refine wp_index (fun slot _ used => ?_) (fun _ _ => sound)
  refine wp_ensure_intro (fun dormant => ?_) (fun _ => sound)
  refine wp_ensure_intro (fun _ => ?_) (fun _ => sound)
  have absent := begins.owned.absent_of_dormant dormant
  exact makeRunnable_keeps begins.owned absent (begins.floor_absent absent) used rfl rfl rfl
    (le_refl _) (fun _ owned => wp_close owned.sound) (fun _ sound => sound)

theorem accountTick_keeps (cpu : CpuId) (ticks : Nat) :
    wp (accountTick cpu ticks) (fun _ => Sound floor) (fun _ => Sound floor) s := by
  have sound := begins.sound
  unfold accountTick
  simp only [wp_bind, wp_read, wp_update, wp_bump]
  refine wp_ensure_intro (fun _ => ?_) (fun _ => sound)
  refine wp_lift_intro (fun _ _ => ?_) (fun _ _ => sound)
  refine wp_index (fun slot _ _ => ?_) (fun _ _ => sound)
  refine wp_lift_intro (fun _ _ => ?_) (fun _ _ => sound)
  exact wp_close (begins.sound.quiet (Quiet.setTask _ _ ⟨rfl, rfl, rfl, rfl, rfl, rfl, rfl⟩))

theorem consumeWake_keeps (cpu : CpuId) :
    wp (consumeWake cpu) (fun _ => Sound floor) (fun _ => Sound floor) s := by
  have sound := begins.sound
  unfold consumeWake
  simp only [wp_bind, wp_read, wp_update, wp_pure, wp_bump]
  refine wp_lift_intro (fun _ _ => ?_) (fun _ _ => sound)
  refine wp_index (fun slot _ _ => ?_) (fun _ _ => sound)
  refine wp_ensure_intro (fun _ => ?_) (fun _ => sound)
  exact wp_close (begins.sound.quiet (Quiet.setTask _ _ ⟨rfl, rfl, rfl, rfl, rfl, rfl, rfl⟩))

theorem yieldCurrent_keeps (cpu : CpuId) :
    wp (yieldCurrent cpu) (fun _ => Sound floor) (fun _ => Sound floor) s := by
  unfold yieldCurrent
  simp only [wp_bind, wp_update, wp_pure, wp_bump]
  refine wp_takeCurrent begins.owned (fun slot _ member taken => ?_) (fun _ => begins.sound)
  have used : (s.tasks slot).generation ≠ 0 := (begins.owned.fits member).generation
  have unfloored := begins.floor_elsewhere member (by simp)
  refine wp_index_idOf rfl used ?_
  exact makeRunnable_keeps taken (absent_leave member) unfloored used rfl rfl rfl
    (le_refl _) (fun _ owned => wp_close owned.sound) (fun _ sound => sound)

theorem blockCurrentFor_keeps (waitKind : WaitKind) (cpu : CpuId) :
    wp (blockCurrentFor waitKind cpu) (fun _ => Sound floor) (fun _ => Sound floor) s := by
  unfold blockCurrentFor
  simp only [wp_bind, wp_update, wp_pure, wp_bump]
  refine wp_takeCurrent begins.owned (fun slot _ member taken => ?_) (fun _ => begins.sound)
  have fits : Fits (s.tasks slot) (.running cpu) := begins.owned.fits member
  refine wp_index_idOf rfl fits.generation ?_
  exact wp_close (taken.rewrite (absent_leave member) (fun _ => fits.2.2.1) (Nat.zero_le _)).sound

theorem wakeKind_keeps (id : TaskId) (cpu : CpuId)
    (reason : WakeReason) {waitKind : WaitKind} (other : waitKind ≠ .mutex) :
    wp (wakeKind id cpu reason waitKind) (fun _ => Sound floor) (fun _ => Sound floor) s := by
  have sound := begins.sound
  unfold wakeKind
  simp only [wp_bind, wp_read, wp_update, wp_bump]
  refine wp_index (fun slot _ used => ?_) (fun _ _ => sound)
  refine wp_ensure_intro (fun blocked => ?_) (fun _ => sound)
  refine wp_ensure_intro (fun _ => ?_) (fun _ => sound)
  refine wp_ensure_intro (fun _ => ?_) (fun _ => sound)
  have absent : places.Absent slot :=
    begins.owned.absent_of_blocked blocked.1 (by rw [blocked.2]; exact other)
  refine makeRunnable_keeps begins.owned absent (begins.floor_absent absent) used rfl rfl rfl
    (le_refl _) (fun s' owned => ?_) (fun _ sound => sound)
  exact wp_quiet (countWake_quiet s') (fun _ _ same => wp_close (owned.sound.quiet same))
    (fun _ _ same => owned.sound.quiet same)

theorem wake_keeps (id : TaskId) (cpu : CpuId) (reason : WakeReason) :
    wp (wake id cpu reason) (fun _ => Sound floor) (fun _ => Sound floor) s := by
  have sound := begins.sound
  unfold wake
  simp only [wp_bind]
  refine wp_online (fun _ => ?_) (fun _ => sound)
  refine wp_ensure_intro (fun _ => ?_) (fun _ => sound)
  exact wakeKind_keeps begins id cpu reason (by decide)

theorem wakeLockWaiter_keeps (id : TaskId) (cpu : CpuId) (reason : WakeReason) :
    wp (wakeLockWaiter id cpu reason) (fun _ => Sound floor) (fun _ => Sound floor) s := by
  unfold wakeLockWaiter
  simp only [wp_bind]
  refine wp_ensure_intro (fun _ => ?_) (fun _ => begins.sound)
  exact wakeKind_keeps begins id cpu reason (by decide)

end

/-- Priorities are recomputed and the operation closes. -/
theorem wp_recompute_close (sound : Sound floor s) : wp recomputeEffectivePriorities
      (fun _ s' => wp check (fun _ => Sound floor) (fun _ => Sound floor) s'.bumpSequence)
      (fun _ => Sound floor) s :=
  wp_quiet (recompute_quiet s) (fun _ _ same => wp_close (sound.quiet same))
    (fun _ _ same => sound.quiet same)

/-- The inheritance counter advances only where a priority rose. -/
theorem wp_countInheritance_close (sound : Sound floor s) (condition : Prop) [Decidable condition] :
    wp (when condition countInheritance)
      (fun _ s' => wp check (fun _ => Sound floor) (fun _ => Sound floor) s'.bumpSequence)
      (fun _ => Sound floor) s := by
  refine wp_when_intro (fun _ => ?_) (fun _ => wp_close sound)
  exact wp_quiet (countInheritance_quiet s) (fun _ _ same => wp_close (sound.quiet same))
    (fun _ _ same => sound.quiet same)

section

variable (begins : Begins s places floor)
include begins

theorem donatePriority_keeps (id : TaskId) (priority : Nat) :
    wp (donatePriority id priority) (fun _ => Sound floor) (fun _ => Sound floor) s := by
  have sound := begins.sound
  unfold donatePriority
  simp only [wp_bind, wp_read, wp_update, wp_bump]
  refine wp_ensure_intro (fun _ => ?_) (fun _ => sound)
  refine wp_index (fun slot _ _ => ?_) (fun _ _ => sound)
  refine wp_ensure_intro (fun _ => ?_) (fun _ => sound)
  have donated := begins.sound.quiet (setDonation_quiet s slot (max (s.externalPriorityDonation slot) priority))
  exact wp_quiet (recompute_quiet _)
    (fun _ _ same => wp_countInheritance_close (donated.quiet same) _)
    (fun _ _ same => donated.quiet same)

theorem revokePriorityDonation_keeps (id : TaskId) :
    wp (revokePriorityDonation id) (fun _ => Sound floor) (fun _ => Sound floor) s := by
  unfold revokePriorityDonation
  simp only [wp_bind, wp_update, wp_bump]
  refine wp_index (fun slot _ _ => ?_) (fun _ _ => begins.sound)
  exact wp_recompute_close (begins.sound.quiet (setDonation_quiet s slot 0))

theorem setPriority_keeps (id : TaskId) (priority : Nat) :
    wp (setPriority id priority) (fun _ => Sound floor) (fun _ => Sound floor) s := by
  have sound := begins.sound
  unfold setPriority
  simp only [wp_bind, wp_update, wp_bump]
  refine wp_ensure_intro (fun _ => ?_) (fun _ => sound)
  refine wp_index (fun slot _ _ => ?_) (fun _ _ => sound)
  exact wp_recompute_close
    (begins.sound.quiet (Quiet.setTask _ _ ⟨rfl, rfl, rfl, rfl, rfl, rfl, rfl⟩))

theorem migrate_keeps (id : TaskId) (target : CpuId) :
    wp (migrate id target) (fun _ => Sound floor) (fun _ => Sound floor) s := by
  have sound := begins.sound
  unfold migrate
  simp only [wp_bind, wp_read, wp_update, wp_bump]
  refine wp_online (fun _ => ?_) (fun _ => sound)
  refine wp_index (fun slot same used => ?_) (fun _ _ => sound)
  subst same
  refine wp_ensure_intro (fun runnable => ?_) (fun _ => sound)
  refine wp_ensure_intro (fun _ => ?_) (fun _ => sound)
  refine wp_lift_intro (fun source _ => ?_) (fun _ _ => sound)
  refine wp_ensure_intro (fun _ => ?_) (fun _ => sound)
  rcases remove_cases begins.owned source slot with ⟨_, missing⟩ | ⟨member, removed⟩
  · rw [missing, wp_lift_error]
    exact begins.sound
  · rw [removed, wp_lift_ok]
    have left : Owned _ (places.leave (.queue source) slot) floor := begins.owned.setQueue_leave rfl
    have absent : (places.leave (.queue source) slot).Absent slot := absent_leave member
    have bypass : floor slot ≤ (s.tasks slot).bypassCount := begins.owned.floored member
    set s₁ := s.setQueue source
      (Slots.ofList (((places.items (.queue source)).erase slot).map s.idOf))
    have moved := left.rewrite absent
      (f := fun task => { task with queuedCpu := none, assignedCpu := some target })
      (fun _ => rfl) (le_refl _)
    have here := setTask_here s₁ slot
      (fun task => { task with queuedCpu := none, assignedCpu := some target })
    set s₂ := s₁.setTask slot (fun task =>
      { task with queuedCpu := none, assignedCpu := some target })
    rw [wp_onError]
    refine wp_enqueue moved absent ?_ ?_ ?_ (fun s' owned => ?_) (fun reason => ?_)
    · rw [here]
      exact used
    · rw [here]
    · rw [here]
      exact bypass
    · exact wp_quiet (countMigration_quiet s') (fun _ _ same => wp_close (owned.sound.quiet same))
        (fun _ _ same => owned.sound.quiet same)
    · -- The refused task goes back to the queue it came from.
      unfold returnToSource
      simp only [wp_bind, wp_update, wp_fail]
      have back := moved.rewrite absent
        (f := fun task => { task with assignedCpu := some source })
        (fun _ => by rw [here]) (le_refl _)
      have again := setTask_here s₂ slot (fun task => { task with assignedCpu := some source })
      refine wp_enqueue back absent ?_ ?_ ?_ (fun _ owned => owned.sound) (fun _ => back.sound)
      · rw [again, here]
        exact used
      · rw [again]
      · rw [again, here]
        exact bypass

theorem joinMutexWaiters_keeps {cpu : CpuId} {id : TaskId}
    (current : s.current cpu = some id) :
    wp (joinMutexWaiters cpu id) (fun _ => Sound floor) (fun _ => Sound floor) s := by
  unfold joinMutexWaiters
  simp only [wp_bind, wp_read, wp_update, wp_bump]
  refine wp_ensure_intro (fun _ => ?_) (fun _ => begins.sound)
  refine wp_takeCurrent begins.owned (fun slot here member taken => ?_) (fun _ => begins.sound)
  have same : id = s.idOf slot := Option.some.inj (current.symm.trans here)
  subst same
  have fits : Fits (s.tasks slot) (.running cpu) := begins.owned.fits member
  refine wp_index_idOf rfl fits.generation ?_
  have absent : (places.leave (.running cpu) slot).Absent slot := absent_leave member
  have blocked := taken.rewrite absent (f := fun task =>
    { task with state := .blocked, assignedCpu := some cpu, waitKind := .mutex,
                wakeReason := .none, bypassCount := 0 }) (fun _ => fits.2.2.1) (Nat.zero_le _)
  have ids : ((s.setCurrent cpu none).setTask slot (fun task =>
      { task with state := .blocked, assignedCpu := some cpu, waitKind := .mutex,
                  wakeReason := .none, bypassCount := 0 })).idOf = s.idOf :=
    setTask_idOf (s.setCurrent cpu none) slot rfl
  have waiting : Fits (((s.setCurrent cpu none).setTask slot (fun task =>
      { task with state := .blocked, assignedCpu := some cpu, waitKind := .mutex,
                  wakeReason := .none, bypassCount := 0 })).tasks slot) .waiters := by
    rw [setTask_here]
    exact ⟨fits.generation, rfl, rfl⟩
  have joined := blocked.waiters_join absent waiting
  rw [ids] at joined
  exact wp_quiet (recompute_quiet _)
    (fun _ _ quiet => wp_countInheritance_close (joined.sound.quiet quiet) _)
    (fun _ _ quiet => joined.sound.quiet quiet)

theorem lockMutex_keeps (cpu : CpuId) :
    wp (lockMutex cpu) (fun _ => Sound floor) (fun _ => Sound floor) s := by
  have sound := begins.sound
  unfold lockMutex
  simp only [wp_bind, wp_read]
  refine wp_lift_intro (fun id found => ?_) (fun _ _ => sound)
  refine wp_ensure_intro (fun _ => ?_) (fun _ => sound)
  split
  · exact wp_close (begins.sound.quiet (setOwner_quiet s (some id)))
  · exact joinMutexWaiters_keeps begins (currentId_ok found)

end

/-- A granted waiter moves from the waiters to a queue, or the grant stops half-way. -/
theorem wp_grantWaiter (owned : Owned s places floor) (unfloored : ∀ slot ∈ places.items .waiters, floor slot = 0)
    (waiter : TaskId) (reason : WakeReason) : wp (grantWaiter waiter reason) (fun _ s' => ∃ slot target,
        ∃ absent : (places.leave .waiters slot).Absent slot, slot ∈ places.items .waiters ∧
          Owned s' ((places.leave .waiters slot).join (.queue target) slot absent) floor) (fun _ => Sound floor) s := by
  unfold grantWaiter
  simp only [wp_bind, wp_read, wp_update]
  refine wp_removeMutexWaiter owned (fun slot position same member left => ?_)
    (fun _ _ => owned.sound)
  have used : (s.tasks slot).generation ≠ 0 := (owned.fits member).generation
  have absent : (places.leave .waiters slot).Absent slot := absent_leave member
  refine wp_index_idOf same used ?_
  refine wp_lift_intro (fun target _ => ?_) (fun _ _ => left.sound)
  refine makeRunnable_keeps left absent (unfloored slot member) used rfl rfl rfl (le_refl _)
    (fun s' joined => ?_) (fun _ sound => sound)
  exact wp_quiet (countWake_quiet s')
    (fun _ _ quiet => ⟨slot, target, absent, member, joined.quiet quiet⟩)
    (fun _ _ quiet => joined.sound.quiet quiet)

theorem Begins.waiters_unfloored (begins : Begins s places floor) : ∀ slot ∈ places.items .waiters, floor slot = 0 :=
  fun _ member => begins.floor_elsewhere member (by simp)

theorem unlockMutex_keeps (begins : Begins s places floor) (cpu : CpuId) :
    wp (unlockMutex cpu) (fun _ => Sound floor) (fun _ => Sound floor) s := by
  have sound := begins.sound
  unfold unlockMutex
  simp only [wp_bind, wp_read, wp_update, wp_pure, wp_bump]
  refine wp_lift_intro (fun id _ => ?_) (fun _ _ => sound)
  refine wp_ensure_intro (fun _ => ?_) (fun _ => sound)
  refine wp_lift_intro (fun selected _ => ?_) (fun _ _ => sound)
  have handed := begins.owned.quiet (setOwner_quiet s selected)
  cases selected with
  | none => exact wp_recompute_close handed.sound
  | some waiter =>
    refine wp_mono (wp_grantWaiter handed begins.waiters_unfloored waiter .lockGranted)
      (fun _ s' granted => ?_) (fun _ _ sound => sound)
    obtain ⟨slot, target, absent, _, joined⟩ := granted
    exact wp_recompute_close joined.sound

/-- After `detach` the task is nowhere and no task has been rewritten. -/
theorem wp_detach (owned : Owned s places floor) {slot : Slot} :
    wp (detach (s.idOf slot) slot) (fun _ s' => s'.tasks = s.tasks ∧
        ∃ places', Owned s' places' floor ∧ places'.Absent slot ∧
          ∀ place slot', slot' ∈ places'.items place → slot' ∈ places.items place) (fun _ => Sound floor) s := by
  have shrink : ∀ place place' slot', slot' ∈ (places.leave place slot).items place' →
      slot' ∈ places.items place' := fun place place' slot' member =>
    ((mem_leave _ _ _ _ _).mp member).1
  unfold detach
  simp only [wp_bind, wp_read]
  cases state : (s.tasks slot).state with
  | dormant => exact owned.sound
  | dead => exact owned.sound
  | runnable =>
    simp only [wp_bind, wp_update]
    refine wp_lift_intro (fun cpu _ => ?_) (fun _ _ => owned.sound)
    rcases remove_cases owned cpu slot with ⟨_, missing⟩ | ⟨member, removed⟩
    · rw [missing, wp_lift_error]
      exact owned.sound
    · rw [removed, wp_lift_ok]
      exact ⟨rfl, _, owned.setQueue_leave rfl, absent_leave member, shrink _⟩
  | running =>
    simp only [wp_bind, wp_update]
    refine wp_lift_intro (fun cpu _ => ?_) (fun _ _ => owned.sound)
    refine wp_ensure_intro (fun current => ?_) (fun _ => owned.sound)
    obtain ⟨other, same, items⟩ := owned.current_eq current
    have same : slot = other := idOf_injective s same
    subst same
    have member : slot ∈ places.items (.running cpu) := by
      rw [items]
      exact List.mem_singleton_self slot
    exact ⟨rfl, _, owned.setCurrent_leave items, absent_leave member, shrink _⟩
  | blocked =>
    dsimp only
    split
    · refine wp_removeMutexWaiter owned (fun other position same member left => ?_)
        (fun _ _ => owned.sound)
      have same : slot = other := idOf_injective s same
      subst same
      exact ⟨rfl, _, left, absent_leave member, shrink _⟩
    · rename_i other
      exact ⟨rfl, places, owned, owned.absent_of_blocked state other, fun _ _ member => member⟩

/-- Waiters move to queues one by one; a task that is nowhere stays nowhere. -/
theorem releaseMutex_keeps (owned : Owned s places floor) {slot : Slot}
    (absent : places.Absent slot) (unfloored : ∀ slot' ∈ places.items .waiters, floor slot' = 0) :
    wp releaseMutex (fun _ s' => ∃ places', Owned s' places' floor ∧ places'.Absent slot)
      (fun _ => Sound floor) s := by
  refine wp_mono (wp_forEach (fun _ s' => ∃ places', Owned s' places' floor ∧
    places'.Absent slot ∧ ∀ slot' ∈ places'.items .waiters, floor slot' = 0) ?_ _ _ ?_)
    (fun _ s' kept => ?_) (fun _ _ sound => sound)
  · rintro _ _ s' ⟨places', owned', absent', unfloored'⟩
    unfold releaseFirstWaiter
    simp only [wp_bind, wp_read]
    refine wp_lift_intro (fun waiter _ => ?_) (fun _ _ => owned'.sound)
    refine wp_mono (wp_grantWaiter owned' unfloored' waiter .ownerGone)
      (fun _ s'' granted => ?_) (fun _ _ sound => sound)
    obtain ⟨woken, target, gone, member, joined⟩ := granted
    refine ⟨_, joined, ?_, ?_⟩
    · intro place inside
      rw [mem_join, mem_leave] at inside
      rcases inside with ⟨inside, _⟩ | ⟨_, rfl⟩
      · exact absent' place inside
      · exact absent' .waiters member
    · intro slot' inside
      rw [mem_join, mem_leave] at inside
      rcases inside with ⟨inside, _⟩ | ⟨impossible, _⟩
      · exact unfloored' slot' inside
      · cases impossible
  · exact ⟨places, owned.quiet (setOwner_quiet s none), absent, unfloored⟩
  · obtain ⟨places', owned', absent', _⟩ := kept
    exact ⟨places', owned', absent'⟩

theorem teardown_keeps (begins : Begins s places floor) (id : TaskId) :
    wp (teardown id) (fun _ => Sound floor) (fun _ => Sound floor) s := by
  unfold teardown
  simp only [wp_bind, wp_read, wp_update, wp_bump]
  refine wp_index (fun slot same _ => ?_) (fun _ _ => begins.sound)
  subst same
  refine wp_mono (wp_detach begins.owned) (fun _ s₁ detached => ?_) (fun _ _ sound => sound)
  obtain ⟨_, places₁, owned₁, absent₁, shrink⟩ := detached
  have finish : ∀ s₂, (∃ places₂, Owned s₂ places₂ floor ∧ places₂.Absent slot) →
      wp recomputeEffectivePriorities
        (fun _ s' => wp countTeardown (fun _ s'' => wp check (fun _ => Sound floor) (fun _ => Sound floor)
            s''.bumpSequence) (fun _ => Sound floor) s')
        (fun _ => Sound floor)
        ((s₂.setTask slot (fun task =>
          { task with state := .dead, assignedCpu := none, queuedCpu := none,
                      wakeReason := .none, waitKind := .none, bypassCount := 0,
                      effectivePriority := task.basePriority })).setDonation slot 0) := by
    rintro s₂ ⟨places₂, owned₂, absent₂⟩
    have dead := (owned₂.rewrite absent₂ (f := fun task =>
      { task with state := .dead, assignedCpu := none, queuedCpu := none,
                  wakeReason := .none, waitKind := .none, bypassCount := 0,
                  effectivePriority := task.basePriority }) (fun _ => rfl) (Nat.zero_le _)).sound
    have settled := dead.quiet (setDonation_quiet _ slot 0)
    refine wp_quiet (recompute_quiet _) (fun _ s' quiet => ?_) (fun _ _ quiet => settled.quiet quiet)
    have kept := settled.quiet quiet
    exact wp_quiet (countTeardown_quiet s') (fun _ _ quiet => wp_close (kept.quiet quiet))
      (fun _ _ quiet => kept.quiet quiet)
  refine wp_when_intro (fun _ => ?_) (fun _ => finish s₁ ⟨places₁, owned₁, absent₁⟩)
  refine wp_mono (releaseMutex_keeps owned₁ absent₁ ?_) (fun _ s' kept => finish s' kept)
    (fun _ _ sound => sound)
  exact fun slot' member => begins.waiters_unfloored slot' (shrink _ _ member)

end PooleOS.Sched
