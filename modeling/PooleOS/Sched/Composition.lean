import PooleOS.Sched.Mutex

/- When an operation that fails has written nothing. Operations validate after
they have written and do not roll back, so this holds only where no check past
the first write can fail. -/
namespace PooleOS.Sched

open Op
open Scheduler

variable {s : Scheduler} {places : Places Place Slot}

/-- The guards of `migrate`. -/
def Migrates (s : Scheduler) (id : TaskId) (target : CpuId) : Prop :=
  ∃ slot, s.taskIndex id = .ok slot ∧ (s.tasks slot).state = .runnable ∧
    Allows (s.tasks slot).affinityMask target ∧ (s.tasks slot).queuedCpu ≠ some target

/-- No check that follows the first write of this call can fail: counters that
have to advance have room, the task that blocks is not the mutex owner, and the
owner's outside donation stays covered by its base priority and its waiters. -/
def Ready (s : Scheduler) : Call → Prop
  | .createTask _ _ _ _ => True
  | .activate _ _ => True
  | .dispatch cpu => DispatchRoom s cpu
  | .accountTick _ _ => True
  | .yieldCurrent _ => True
  | .blockCurrent cpu => s.current cpu = none ∨ s.current cpu ≠ s.mutexOwner
  | .blockCurrentForLock cpu => s.current cpu = none ∨ s.current cpu ≠ s.mutexOwner
  | .wakeLockWaiter id cpu reason =>
    (reason = .lockGranted ∨ reason = .ownerGone ∨ reason = .cancelled ∨ reason = .timedOut) →
      Wakes s id cpu .externalLock → Room s.wakeCount
  | .donatePriority id priority => Raises s id priority →
      s.mutexOwner ≠ some id ∧ Room s.priorityInheritanceCount
  | .revokePriorityDonation _ => True
  | .cancelWait id cpu => Wakes s id cpu .event → Room s.wakeCount
  | .timeoutWait id cpu => Wakes s id cpu .event → Room s.wakeCount
  | .signalWait id cpu => Wakes s id cpu .event → Room s.wakeCount
  | .consumeWake _ => True
  | .migrate id target => Migrates s id target → Room s.migrationCount
  | .setPriority id priority => ∀ slot, s.taskIndex id = .ok slot → minPriority ≤ priority →
      priority ≤ maxPriority →
      Covered (s.setTask slot (fun task => { task with basePriority := priority }))
  | .lockMutex cpu => LockReady s cpu
  | .unlockMutex cpu => UnlockReady s cpu
  | .teardown id => TeardownReady s id

theorem settles_reply {α : Type} {method : M α} {reply : α → Reply} {ready : Prop} (settles : Settles ready method s) :
    Settles ready (method >>= fun value => pure (reply value)) s := by
  unfold Settles at settles ⊢
  rw [wp_bind]
  exact settles

theorem wakeLockWaiter_settles (valid : Valid s places) (id : TaskId) (cpu : CpuId) (reason : WakeReason) :
    Settles ((reason = .lockGranted ∨ reason = .ownerGone ∨ reason = .cancelled ∨
      reason = .timedOut) → Wakes s id cpu .externalLock → Room s.wakeCount) (wakeLockWaiter id cpu reason) s := by
  unfold Settles wakeLockWaiter
  simp only [wp_bind]
  refine wp_ensure_intro (fun allowed => ?_) (fun _ _ => rfl)
  exact wp_mono (wakeKind_settles valid reason (by decide)) (fun _ _ accepted => accepted)
    (fun _ _ same ready => same (ready allowed))

/-- One call from a valid state. -/
theorem exec_settles (valid : Valid s places) (call : Call) : Settles (Ready s call) call.exec s := by
  cases call with
  | createTask slot generation priority affinityMask =>
    exact settles_reply ((createTask_lands valid slot generation priority affinityMask).settles _)
  | activate id cpu => exact settles_reply ((activate_lands valid id cpu).settles _)
  | dispatch cpu => exact settles_reply (dispatch_settles valid)
  | accountTick cpu ticks => exact settles_reply ((accountTick_lands valid cpu ticks).settles _)
  | yieldCurrent cpu => exact settles_reply ((yieldCurrent_lands valid cpu).settles _)
  | blockCurrent cpu => exact settles_reply (blockCurrentFor_settles valid (.inl rfl))
  | blockCurrentForLock cpu => exact settles_reply (blockCurrentFor_settles valid (.inr rfl))
  | wakeLockWaiter id cpu reason => exact settles_reply (wakeLockWaiter_settles valid id cpu reason)
  | donatePriority id priority => exact settles_reply (donatePriority_settles valid id priority)
  | revokePriorityDonation id =>
    exact settles_reply ((revokePriorityDonation_lands valid id).settles _)
  | cancelWait id cpu => exact settles_reply (wake_settles valid .cancelled)
  | timeoutWait id cpu => exact settles_reply (wake_settles valid .timedOut)
  | signalWait id cpu => exact settles_reply (wake_settles valid .signalled)
  | consumeWake cpu => exact settles_reply ((consumeWake_lands valid cpu).settles _)
  | migrate id target =>
    refine settles_reply (wp_mono (migrate_settles valid) (fun _ _ accepted => accepted)
      (fun _ _ same ready => same ?_))
    intro slot found runnable allowed elsewhere
    exact ready ⟨slot, found, runnable, allowed, elsewhere⟩
  | setPriority id priority => exact settles_reply (setPriority_settles valid id priority)
  | lockMutex cpu => exact settles_reply (lockMutex_settles valid cpu)
  | unlockMutex cpu => exact settles_reply (unlockMutex_settles valid cpu)
  | teardown id => exact settles_reply (teardown_settles valid id)

/-- One ready call from a valid state. -/
theorem exec_lands (valid : Valid s places) (call : Call) (ready : Ready s call) :
    Lands call.exec s := (exec_settles valid call).lands ready

/-- Every call of the run is ready in the state it meets. -/
def ReadyRun (s : Scheduler) : List Call → Prop
  | [] => True
  | call :: rest => Ready s call ∧ ReadyRun (call.exec.run s).2 rest

theorem exec_accepted (accepted : Accepted s) {call : Call} (ready : Ready s call) : Accepted (call.exec.run s).2 := by
  obtain ⟨places, valid⟩ := accepted
  refine wp_state.mp (wp_mono (exec_lands valid call ready) (fun _ _ kept => kept) ?_)
  intro _ s' same
  rw [same]
  exact ⟨places, valid⟩

theorem run_accepted (accepted : Accepted s) : ∀ calls, ReadyRun s calls → Accepted (run s calls) := by
  intro calls
  induction calls generalizing s with
  | nil => exact fun _ => accepted
  | cons call rest ih =>
    intro ready
    exact ih (exec_accepted accepted ready.1) ready.2

theorem ReadyRun.last {call : Call} : ∀ {s : Scheduler} {calls : List Call}, ReadyRun s (calls ++ [call]) →
      ReadyRun s calls ∧ Ready (run s calls) call := by
  intro s calls
  induction calls generalizing s with
  | nil => exact fun ready => ⟨trivial, ready.1⟩
  | cons first rest ih =>
    intro ready
    obtain ⟨before, last⟩ := ih ready.2
    exact ⟨⟨ready.1, before⟩, last⟩

theorem new_accepted {mask : BitVec 8} (created : Scheduler.new mask = .ok s) : Accepted s := by
  obtain ⟨places, owned⟩ := new_sound created
  unfold Scheduler.new at created
  split at created
  · cases created
  · cases created
    refine ⟨places, ⟨owned, ?_, ?_, ?_, ?_⟩, .inl ⟨rfl, rfl⟩, ?_, ?_⟩
    · intro slot _
      exact ⟨fun mutex => (by cases mutex), fun pending => absurd rfl pending, rfl⟩
    · intro slot used
      exact absurd rfl used
    · intro slot
      exact ⟨(by decide : minPriority ≤ maxPriority), Nat.zero_le _⟩
    · intro slot _
      rfl
    · intro slot used
      exact absurd rfl used
    · intro slot owner
      cases owner

/-- In a run of ready calls, an operation that fails has written nothing. -/
theorem run_atomic {mask : BitVec 8} (created : Scheduler.new mask = .ok s) (calls : List Call) (call : Call)
    (ready : ReadyRun s (calls ++ [call])) : ∀ reason, (call.exec.run (run s calls)).1 = .error reason →
      (call.exec.run (run s calls)).2 = run s calls := by
  obtain ⟨before, last⟩ := ready.last
  obtain ⟨places, valid⟩ := run_accepted (new_accepted created) calls before
  exact (wp_iff.mp (exec_lands valid call last)).2

/-- One task that runs and owns the mutex. -/
def mutexOwnerRuns : List Call :=
  [.createTask 0 1 16 1#8, .activate ⟨0, 1⟩ 0, .dispatch 0, .lockMutex 0]

/-- A second `lock_mutex` by the owner is refused before anything is written. -/
theorem run_atomic_mutexOwnerRuns : ReadyRun (Scheduler.empty 0x0f#8) (mutexOwnerRuns ++ [.lockMutex 0]) ∧
      ((Call.lockMutex 0).exec.run (run (Scheduler.empty 0x0f#8) mutexOwnerRuns)).1 = .error .mutexRecursive ∧
      ((Call.lockMutex 0).exec.run (run (Scheduler.empty 0x0f#8) mutexOwnerRuns)).2 =
        run (Scheduler.empty 0x0f#8) mutexOwnerRuns := by
  have refused : ((Call.lockMutex 0).exec.run (run (Scheduler.empty 0x0f#8) mutexOwnerRuns)).1 =
      .error .mutexRecursive := by decide
  have ready : ReadyRun (Scheduler.empty 0x0f#8) (mutexOwnerRuns ++ [.lockMutex 0]) := by
    refine ⟨trivial, trivial, ?_, ?_, ?_, trivial⟩
    · intro index id _ picked entry
      have first : (Except.ok index : Except Error Nat) = Except.ok 0 := by
        rw [← picked]
        decide
      cases first
      have here : some id = some ⟨0, 1⟩ := by
        rw [← entry]
        decide
      cases here
      decide
    · show LockReady (run (Scheduler.empty 0x0f#8) (mutexOwnerRuns.take 3)) 0
      unfold LockReady Room
      decide
    · show LockReady (run (Scheduler.empty 0x0f#8) mutexOwnerRuns) 0
      unfold LockReady Room
      decide
  exact ⟨ready, refused, run_atomic new_full mutexOwnerRuns (.lockMutex 0) ready _ refused⟩

/-- The mutex owner blocks: `validate` refuses afterwards, but the processor has
already lost its task. -/
theorem blockCurrent_owner_writes : Scheduler.new 0x0f#8 = .ok (Scheduler.empty 0x0f#8) ∧
      ((Call.blockCurrent 0).exec.run (run (Scheduler.empty 0x0f#8) mutexOwnerRuns)).1 = .error .lockOwner ∧
      ((Call.blockCurrent 0).exec.run (run (Scheduler.empty 0x0f#8) mutexOwnerRuns)).2 ≠
        run (Scheduler.empty 0x0f#8) mutexOwnerRuns := by
  refine ⟨new_full, by decide, ?_⟩
  intro same
  have current := congrArg (fun s => s.current 0) same
  revert current
  decide

/-- Every operation of the run returned `Ok`. -/
def Succeeds (s : Scheduler) : List Call → Prop
  | [] => True
  | call :: rest => (∃ reply, (call.exec.run s).1 = .ok reply) ∧ Succeeds (call.exec.run s).2 rest

instance decidableSucceeds : ∀ (s : Scheduler) (calls : List Call), Decidable (Succeeds s calls)
  | _, [] => isTrue trivial
  | s, call :: rest =>
    match step : (call.exec.run s).1, decidableSucceeds (call.exec.run s).2 rest with
    | .ok reply, isTrue others => isTrue ⟨⟨reply, step⟩, others⟩
    | .ok _, isFalse others => isFalse (fun both => others both.2)
    | .error _, _ => isFalse (fun both => by
        obtain ⟨⟨reply, ok⟩, _⟩ := both
        rw [step] at ok
        cases ok)

/-- The operation returns `Ok`, and afterwards every task has the priority it inherits. -/
def Composes (call : Call) (s : Scheduler) : Prop :=
  (∃ reply, (call.exec.run s).1 = .ok reply) ∧ Priced (call.exec.run s).2

theorem run_stays_accepted (accepted : Accepted s) : ∀ calls, Succeeds s calls → Accepted (run s calls) := by
  intro calls
  induction calls generalizing s with
  | nil => exact fun _ => accepted
  | cons call rest ih =>
    intro ⟨⟨reply, ok⟩, others⟩
    obtain ⟨places, valid⟩ := accepted
    have next : Accepted (call.exec.run s).2 :=
      (wp_iff.mp (exec_settles valid call)).1 reply ok
    exact ih next others

/-- The slots of those who wait for the mutex, first come first. -/
def waitingSlots (s : Scheduler) : List Slot := s.mutexWaiters.live.filterMap TaskId.index?

theorem waitingSlots_eq (valid : Valid s places) : waitingSlots s = places.items .waiters := by
  unfold waitingSlots
  rw [valid.shaped.live_waiters, List.filterMap_map]
  have here : TaskId.index? ∘ s.idOf = some := by
    funext slot
    simp
  rw [here, List.filterMap_some]

/-- An operation that succeeds exactly when it is ready, and into an accepted state. -/
theorem composes_iff {α : Type} {method : M α} (reply : α → Reply) {call : Call} {ready : Prop}
    (exec : call.exec = method >>= fun value => pure (reply value))
    (settled : wp method (fun _ s' => Accepted s' ∧ ready) (fun _ _ => ¬ ready) s) : Composes call s ↔ ready := by
  have whole : wp call.exec (fun _ s' => Accepted s' ∧ ready) (fun _ _ => ¬ ready) s := by
    rw [exec, wp_bind]
    exact settled
  obtain ⟨onOk, onErr⟩ := wp_iff.mp whole
  constructor
  · intro ⟨⟨value, ok⟩, _⟩
    exact (onOk value ok).2
  · intro holds
    cases result : (call.exec.run s).1 with
    | error reason => exact absurd holds (onErr reason result)
    | ok value =>
      obtain ⟨⟨places, valid⟩, _⟩ := onOk value result
      exact ⟨⟨value, result⟩, valid.priced⟩

/-- When the three operations compose, and that is whenever the owner after the
operation is covered by its own base priority and by those who wait for it. -/
structure Composition (s : Scheduler) : Prop where
  donation : ∀ id priority, Donates s id priority → Room s.priorityInheritanceCount →
    (Composes (.donatePriority id priority) s ↔ (s.mutexOwner = some id → priority ≤ (s.taskAt id).effectivePriority))
  lock : ∀ cpu id, s.current cpu = some id → s.mutexOwner ≠ some id →
    Room s.priorityInheritanceCount →
    (Composes (.lockMutex cpu) s ↔ (s.mutexOwner = none → ∀ slot, id.index? = some slot →
      s.externalPriorityDonation slot ≤ (s.tasks slot).basePriority))
  unlock : ∀ cpu id, s.current cpu = some id → s.mutexOwner = some id → Room s.wakeCount →
    (Composes (.unlockMutex cpu) s ↔ ∀ slot, Heir s (waitingSlots s) slot →
      s.externalPriorityDonation slot ≤ (s.tasks slot).basePriority)

theorem donation_composes (valid : Valid s places) {id : TaskId} {priority : Nat} (donates : Donates s id priority)
    (room : Room s.priorityInheritanceCount) : Composes (.donatePriority id priority) s ↔
      (s.mutexOwner = some id → priority ≤ (s.taskAt id).effectivePriority) := by
  have ⟨_, _, slot, found, runs⟩ := donates
  have ready : (Raises s id priority → s.mutexOwner ≠ some id ∧ Room s.priorityInheritanceCount) ↔
      (s.mutexOwner = some id → priority ≤ (s.taskAt id).effectivePriority) := by
    have task : (s.taskAt id).effectivePriority = (s.tasks slot).effectivePriority := by
      rw [(Owned.taskIndex_ok.mp found).1, Owned.taskAt_idOf]
    rw [task]
    constructor
    · intro holds owner
      by_contra above
      exact (holds ⟨donates.1, donates.2.1, slot, found, runs, Nat.lt_of_not_le above⟩).1 owner
    · intro covered ⟨_, _, slot', found', _, above⟩
      rw [found] at found'
      cases found'
      exact ⟨fun owner => absurd above (Nat.not_lt.mpr (covered owner)), room⟩
  rw [← ready]
  exact composes_iff (fun _ => .done) rfl
    (wp_donatePriority valid (fun refused => absurd donates refused) (fun unready _ _ => unready))

theorem lock_composes (valid : Valid s places) {cpu : CpuId} {id : TaskId} (current : s.current cpu = some id)
    (other : s.mutexOwner ≠ some id) (room : Room s.priorityInheritanceCount) :
    Composes (.lockMutex cpu) s ↔ (s.mutexOwner = none → ∀ slot, id.index? = some slot →
      s.externalPriorityDonation slot ≤ (s.tasks slot).basePriority) := by
  obtain ⟨slot, rfl, _⟩ := valid.owned.current_eq current
  have ready : LockReady s cpu ↔ (s.mutexOwner = none → ∀ slot', (s.idOf slot).index? = some slot' →
      s.externalPriorityDonation slot' ≤ (s.tasks slot').basePriority) := by
    rw [idOf_index]
    constructor
    · intro holds free slot' same
      cases same
      exact (holds slot current).1 free
    · intro covered slot' stored
      have same : slot = slot' := idOf_injective s (Option.some.inj (current.symm.trans stored))
      subst same
      exact ⟨fun free => covered free slot rfl, fun _ _ _ _ => room⟩
  rw [← ready]
  exact composes_iff (fun _ => .done) rfl
    (wp_lockMutex valid (fun refused => absurd (refused _ current) other) (fun unready _ _ => unready))

theorem unlock_composes (valid : Valid s places) {cpu : CpuId} {id : TaskId}
    (current : s.current cpu = some id) (owner : s.mutexOwner = some id) (room : Room s.wakeCount) :
    Composes (.unlockMutex cpu) s ↔ ∀ slot, Heir s (waitingSlots s) slot →
      s.externalPriorityDonation slot ≤ (s.tasks slot).basePriority := by
  have ready : UnlockReady s cpu ↔ ∀ slot, Heir s (waitingSlots s) slot →
      s.externalPriorityDonation slot ≤ (s.tasks slot).basePriority := by
    rw [waitingSlots_eq valid]
    rcases highestMutexWaiter_ok valid.owned with ⟨empty, highest⟩ | ⟨waiter, heir, highest⟩
    · refine ⟨fun _ slot heir => ?_, fun _ _ slot _ _ granted => ?_⟩
      · have member := heir.mem
        rw [empty] at member
        cases member
      · rw [highest] at granted
        cases granted
    · constructor
      · intro holds slot heir'
        have same : waiter = slot := heir.unique heir'
        subst same
        exact (holds id waiter current owner highest).2
      · intro covered _ slot _ _ granted
        rw [highest] at granted
        have same : waiter = slot := idOf_injective s (Option.some.inj (Except.ok.inj granted))
        subst same
        exact ⟨room, covered waiter heir⟩
  rw [← ready]
  exact composes_iff .granted rfl
    (wp_unlockMutex valid (fun refused => absurd owner (refused _ current)) (fun unready _ _ => unready))

/-- In every state that only successful operations have led to, the three operations
compose with the donations exactly where the owner stays covered. -/
theorem inheritance_composes {mask : BitVec 8} (created : Scheduler.new mask = .ok s)
    (calls : List Call) (fine : Succeeds s calls) : Composition (run s calls) := by
  obtain ⟨places, valid⟩ := run_stays_accepted (new_accepted created) calls fine
  exact ⟨fun _ _ => donation_composes valid, fun _ _ => lock_composes valid, fun _ _ => unlock_composes valid⟩

theorem mutexOwnerRuns_composes : Composition (run (Scheduler.empty 0x0f#8) mutexOwnerRuns) :=
  inheritance_composes new_full mutexOwnerRuns (by decide)

/-- A donation to the mutex owner above everyone's base priority is refused by
`validate`, although every operation before it succeeded. -/
theorem donation_to_owner_fails : Scheduler.new 0x0f#8 = .ok (Scheduler.empty 0x0f#8) ∧
      Succeeds (Scheduler.empty 0x0f#8) mutexOwnerRuns ∧
      Donates (run (Scheduler.empty 0x0f#8) mutexOwnerRuns) ⟨0, 1⟩ 31 ∧
      Room (run (Scheduler.empty 0x0f#8) mutexOwnerRuns).priorityInheritanceCount ∧
      ((Call.donatePriority ⟨0, 1⟩ 31).exec.run
        (run (Scheduler.empty 0x0f#8) mutexOwnerRuns)).1 = .error .invariant := by
  refine ⟨new_full, by decide, ⟨by decide, by decide, 0, ?_, ?_⟩, ?_, ?_⟩
  · decide
  · decide
  · decide
  · decide

end PooleOS.Sched
