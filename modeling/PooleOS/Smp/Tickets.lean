import PooleOS.Smp.Steps

/- Commitment of a staged transfer. Each arm succeeds exactly when the counters
it advances have room, and then the task (for a preemption, its successor) is in
the place that the ticket names. -/
namespace PooleOS.Smp

open Op Function Places
open SmpScheduler

section

variable {s : SmpScheduler} {places : Places Seat Slot}

/-- A task that has been moved, with what the move leaves alone. -/
structure Arrived (s s' : SmpScheduler) (slot moved : Slot) (seat : Seat) : Prop where
  ids : s'.idOf = s.idOf
  shaped : ∃ places, Shaped s' places none ∧ moved ∈ places.items seat
  still : ∀ slot', (s'.tasks slot').state = .transfer → slot' ≠ slot ∧
    (s.tasks slot').state = .transfer
  others : ∀ slot', slot' ≠ slot → slot' ≠ moved →
    ∃ bypassCount, s'.tasks slot' = { s.tasks slot' with bypassCount }
  current : ∀ cpu, seat ≠ .running cpu → s'.current cpu = s.current cpu
  onlineMask : s'.onlineMask = s.onlineMask
  remoteAckCount : s'.remoteAckCount = s.remoteAckCount
  transaction : s'.transaction = s.transaction

variable {s s' : SmpScheduler} {slot : Slot} {seat : Seat}

theorem Arrived.quiet {s'' : SmpScheduler} {moved : Slot} (arrived : Arrived s s' slot moved seat) (same : Quiet s' s'')
    (ack : s''.remoteAckCount = s'.remoteAckCount) (transaction : s''.transaction = s'.transaction) :
    Arrived s s'' slot moved seat := by
  obtain ⟨places, shaped, member⟩ := arrived.shaped
  refine ⟨same.ids.trans arrived.ids, ⟨places, shaped.quiet same, member⟩, ?_, ?_, ?_,
    same.onlineMask.trans arrived.onlineMask, ack.trans arrived.remoteAckCount,
    transaction.trans arrived.transaction⟩
  · rw [same.tasks]
    exact arrived.still
  · rw [same.tasks]
    exact arrived.others
  · rw [same.current]
    exact arrived.current

theorem Fits.not_transfer {task : Task} (fits : Fits task seat) : task.state ≠ .transfer := by
  cases seat <;> simp [fits.2.1]

/-- A move that rewrites no task but the moved one. -/
theorem Arrived.single (others : ∀ slot', slot' ≠ slot → s'.tasks slot' = s.tasks slot')
    (generation : (s'.tasks slot).generation = (s.tasks slot).generation) {places : Places Seat Slot}
    (shaped : Shaped s' places none) (member : slot ∈ places.items seat)
    (current : ∀ cpu, seat ≠ .running cpu → s'.current cpu = s.current cpu) (onlineMask : s'.onlineMask = s.onlineMask)
    (ack : s'.remoteAckCount = s.remoteAckCount) (transaction : s'.transaction = s.transaction)
    : Arrived s s' slot slot seat := by
  refine ⟨?_, ⟨places, shaped, member⟩, ?_, ?_, current, onlineMask, ack, transaction⟩
  · funext slot'
    by_cases same : slot' = slot
    · subst same
      simp only [idOf, Task.id, generation]
    · simp only [idOf, others slot' same]
  · intro slot' state
    have differs : slot' ≠ slot := by
      intro same
      exact (shaped.fits member).not_transfer (same ▸ state)
    exact ⟨differs, others slot' differs ▸ state⟩
  · intro slot' differs _
    exact ⟨(s.tasks slot').bypassCount, others slot' differs⟩

/-- A move seen from an earlier state, in which `slot` was not yet lifted. -/
theorem Arrived.since {s₁ : SmpScheduler} {moved : Slot} (arrived : Arrived s₁ s' moved moved seat)
    (ids : s₁.idOf = s.idOf) (others : ∀ slot', slot' ≠ slot → slot' ≠ moved →
      ∃ bypassCount, s₁.tasks slot' = { s.tasks slot' with bypassCount })
    (still : ∀ slot', slot' ≠ moved → (s₁.tasks slot').state = .transfer →
      slot' ≠ slot ∧ (s.tasks slot').state = .transfer)
    (current : ∀ cpu, seat ≠ .running cpu → s₁.current cpu = s.current cpu) (onlineMask : s₁.onlineMask = s.onlineMask)
    (ack : s₁.remoteAckCount = s.remoteAckCount) (transaction : s₁.transaction = s.transaction)
    : Arrived s s' slot moved seat := by
  refine ⟨arrived.ids.trans ids, arrived.shaped, ?_, ?_, ?_, arrived.onlineMask.trans onlineMask,
    arrived.remoteAckCount.trans ack, arrived.transaction.trans transaction⟩
  · intro slot' state
    obtain ⟨differs, before⟩ := arrived.still slot' state
    exact still slot' differs before
  · intro slot' differs apart
    obtain ⟨first, now⟩ := arrived.others slot' apart apart
    obtain ⟨second, before⟩ := others slot' differs apart
    exact ⟨first, by rw [now, before]⟩
  · intro cpu elsewhere
    rw [arrived.current cpu elsewhere, current cpu elsewhere]

/-- Writes that leave everything but tasks and queues as it is. -/
def SameLedger (s s' : SmpScheduler) : Prop :=
  s' = { s with tasks := s'.tasks, queues := s'.queues }

theorem SameLedger.trans {s'' : SmpScheduler} (first : SameLedger s s')
    (second : SameLedger s' s'') : SameLedger s s'' := by
  rw [first] at second
  exact second

variable {target : CpuId}

/-- The last steps of a wake and of a migration: the lifted task advances its epoch and
joins the target's queue, and the transfer is counted. -/
theorem wp_advance_enqueue {s₁ : SmpScheduler} (shaped : Shaped s₁ places (some slot)) (absent : places.Absent slot)
    (others : ∀ slot', slot' ≠ slot → s₁.tasks slot' = s.tasks slot')
    (generation : (s₁.tasks slot).generation = (s.tasks slot).generation)
    (epoch : (s₁.tasks slot).ownerEpoch = (s.tasks slot).ownerEpoch) (same : SameLedger s s₁)
    (used : (s.tasks slot).generation ≠ 0) (runnable : (s₁.tasks slot).state = .runnable)
    (unqueued : (s₁.tasks slot).queuedCpu = none) (owner : (s₁.tasks slot).ownerCpu = some target)
    (allowed : Allows (s₁.tasks slot).affinityMask target) (awake : Allows s.onlineMask target)
    (get : SmpScheduler → Nat) (set : Nat → SmpScheduler → SmpScheduler)
    (read : ∀ s s', SameLedger s s' → get s' = get s)
    (write : ∀ value s, Quiet s (set value s) ∧ (set value s).remoteAckCount = s.remoteAckCount ∧
      (set value s).transaction = s.transaction) : wp (advanceEpoch slot) (fun _ s' => wp (enqueue slot target)
        (fun _ s' => wp (count get set) (fun _ s' => (Room (s.tasks slot).ownerEpoch ∧ Room (get s)) ∧
            Arrived s s' slot slot (.queue target)) (fun _ _ => ¬ (Room (s.tasks slot).ownerEpoch ∧ Room (get s))) s')
        (fun _ _ => ¬ (Room (s.tasks slot).ownerEpoch ∧ Room (get s))) s')
    (fun _ _ => ¬ (Room (s.tasks slot).ownerEpoch ∧ Room (get s))) s₁ := by
  have mask : s₁.onlineMask = s.onlineMask := (congrArg onlineMask same).trans rfl
  refine wp_advanceEpoch (fun room => ?_) (fun full both => full (epoch ▸ both.1))
  set s₂ := s₁.setTask slot (fun task =>
    { task with ownerEpoch := (s₁.tasks slot).ownerEpoch + 1 }) with s₂Def
  have here : s₂.tasks slot =
      { s₁.tasks slot with ownerEpoch := (s₁.tasks slot).ownerEpoch + 1 } := setTask_here s₁ slot _
  have risen : Shaped s₂ places (some slot) :=
    shaped.rewrite absent (le_refl _) (shaped.affinity slot)
  refine wp_enqueue risen absent target ?_ ?_ ?_ ?_ ?_ ?_ ?_ (fun s₃ joined enqueued => ?_)
  · rw [here]
    exact generation ▸ used
  · rw [here]
    exact Nat.succ_ne_zero _
  · rw [here]
    exact runnable
  · rw [here]
    exact unqueued
  · rw [here]
    exact owner
  · rw [here]
    exact allowed
  · exact mask ▸ awake
  · have advanced : SameLedger s₁ s₂ := rfl
    have ledger : SameLedger s s₃ := (same.trans advanced).trans enqueued.rest
    have counter : get s₃ = get s := read s s₃ ledger
    refine wp_count _ _ (fun more => ?_) (fun full both => full (counter ▸ both.2))
    obtain ⟨quiet, ack, transaction⟩ := write (get s₃ + 1) s₃
    refine ⟨⟨epoch ▸ room, counter ▸ more⟩, Arrived.quiet ?_ quiet ack transaction⟩
    refine Arrived.single ?_ ?_ joined ((mem_join ..).mpr (Or.inr ⟨rfl, rfl⟩)) ?_ ?_ ?_ ?_
    · intro slot' differs
      rw [enqueued.other differs, s₂Def, setTask_other s₁ _ differs, others slot' differs]
    · rw [enqueued.here, here]
      exact generation
    · intro cpu _
      exact congrFun ((congrArg SmpScheduler.current ledger).trans rfl) cpu
    · exact (congrArg onlineMask ledger).trans rfl
    · exact (congrArg remoteAckCount ledger).trans rfl
    · exact (congrArg SmpScheduler.transaction ledger).trans rfl

theorem wp_commitWake (shaped : Shaped s places none) (used : (s.tasks slot).generation ≠ 0)
    (blocked : (s.tasks slot).state = .blocked) (allowed : Allows (s.tasks slot).affinityMask target)
    (awake : Allows s.onlineMask target) : wp (commitWake slot target)
      (fun _ s' => (Room (s.tasks slot).ownerEpoch ∧ Room s.remoteWakeCount) ∧ Arrived s s' slot slot (.queue target))
      (fun _ _ => ¬ (Room (s.tasks slot).ownerEpoch ∧ Room s.remoteWakeCount)) s := by
  have absent : places.Absent slot := shaped.absent (by simp [blocked]) (by simp [blocked])
  have rest : (s.tasks slot).queuedCpu = none ∧ (s.tasks slot).bypassCount = 0 := by
    have stands := (shaped.stands slot (by simp)).2
    rw [blocked] at stands
    exact stands.2
  unfold commitWake
  simp only [wp_bind, wp_read, wp_update]
  refine wp_ensure_intro (fun _ => ?_) (fun refused => absurd blocked refused)
  set f : Task → Task := fun task => { task with state := .runnable, ownerCpu := some target }
  have here : (s.setTask slot f).tasks slot = f (s.tasks slot) := setTask_here s slot f
  have risen : Shaped (s.setTask slot f) places (some slot) := by
    refine (shaped.lift slot).rewrite absent ?_ (fun _ => shaped.affinity slot used)
    simp [age, f, rest.2]
  refine wp_advance_enqueue risen absent (fun _ => setTask_other s f) (by rw [here]) (by rw [here])
    rfl used (by rw [here]) (by rw [here]; exact rest.1) (by rw [here]) (by rw [here]; exact allowed)
    awake remoteWakeCount _ (fun _ _ same => (congrArg remoteWakeCount same).trans rfl)
    (fun _ _ => ⟨⟨rfl, rfl, rfl, rfl⟩, rfl, rfl⟩)

theorem wp_commitMigration (shaped : Shaped s places none) {ticket : TransferTicket} {source : CpuId}
    (task : ticket.task = s.idOf slot) (from' : ticket.sourceCpu = source.val) (used : (s.tasks slot).generation ≠ 0)
    (member : slot ∈ places.items (.queue source)) (allowed : Allows (s.tasks slot).affinityMask target)
    (awake : Allows s.onlineMask target) : wp (commitMigration ticket slot target)
      (fun _ s' => (Room (s.tasks slot).ownerEpoch ∧ Room s.migrationCount) ∧ Arrived s s' slot slot (.queue target))
      (fun _ _ => ¬ (Room (s.tasks slot).ownerEpoch ∧ Room s.migrationCount)) s := by
  have fits : Fits (s.tasks slot) (.queue source) := shaped.fits member
  have absent := absent_leave member
  unfold commitMigration
  simp only [wp_bind, wp_read, wp_update]
  refine wp_ensure_intro (fun _ => ?_) (fun refused => absurd fits.2.1 refused)
  rw [from', CpuId.new_val, orError_some, wp_lift_ok, task, remove_ok shaped member, wp_lift_ok]
  set f : Task → Task := fun task => { task with queuedCpu := none, ownerCpu := some target }
  set queue : Queue := Slots.ofList (((places.items (.queue source)).erase slot).map s.idOf) with stored
  have here : ((s.setQueue source queue).setTask slot f).tasks slot = f (s.tasks slot) :=
    setTask_here _ slot f
  have risen : Shaped ((s.setQueue source queue).setTask slot f) (places.leave (.queue source) slot)
      (some slot) :=
    (shaped.leave_queue stored).rewrite absent (le_refl _) (fun _ => shaped.affinity slot used)
  refine wp_advance_enqueue (s := s) risen absent (fun _ => setTask_other _ f) (by rw [here])
    (by rw [here]) rfl used (by rw [here]; exact fits.2.1) (by rw [here]) (by rw [here])
    (by rw [here]; exact allowed) awake migrationCount _
    (fun _ _ same => (congrArg migrationCount same).trans rfl)
    (fun _ _ => ⟨⟨rfl, rfl, rfl, rfl⟩, rfl, rfl⟩)

/-- The counters that putting a task on a processor advances. -/
def DispatchRoom (s : SmpScheduler) (slot : Slot) (target : CpuId) : Prop :=
  Room (s.tasks slot).ownerEpoch ∧ Room (s.tasks slot).dispatchCount ∧
    Room s.dispatchCount ∧ Room (classCount s target)

/-- The last steps of a dispatch and of a preemption: the lifted task becomes the current
one. `clear` is the write in between that ends its wait. -/
theorem wp_occupy {id : TaskId} {clear : Task → Task} (shaped : Shaped s places (some slot))
    (absent : places.Absent slot) (same : id = s.idOf slot) (used : (s.tasks slot).generation ≠ 0)
    (idle : s.current target = none) (running : (s.tasks slot).state = .running)
    (owner : (s.tasks slot).ownerCpu = some target) (allowed : Allows (s.tasks slot).affinityMask target)
    (awake : Allows s.onlineMask target) (cleared : ∀ ownerEpoch, clear { s.tasks slot with ownerEpoch } =
      { s.tasks slot with ownerEpoch, queuedCpu := none, bypassCount := 0 })
    {done : Unit → SmpScheduler → Prop} {failed : Error → SmpScheduler → Prop}
    (pass : DispatchRoom s slot target → ∀ s', Arrived s s' slot slot (.running target) → done () s')
    (stop : ¬ DispatchRoom s slot target → ∀ reason s', failed reason s') :
    wp (advanceEpoch slot) (fun _ s' => wp (advanceDispatches slot)
        (fun _ s' => wp (countDispatchOn target) done failed (s'.setCurrent target (some id)))
        failed (s'.setTask slot clear)) failed s := by
  refine wp_advanceEpoch (fun room => ?_) (fun full => stop (fun both => full both.1) _ _)
  rw [setTask_setTask]
  refine wp_advanceDispatches (fun more => ?_) (fun full => stop (fun both => ?_) _ _)
  · rw [setTask_here, cleared] at more
    rw [setTask_here, cleared, setTask_setTask]
    set f : Task → Task := fun task =>
      { clear { task with ownerEpoch := (s.tasks slot).ownerEpoch + 1 } with
        dispatchCount := (s.tasks slot).dispatchCount + 1 } with fDef
    have here : (s.setTask slot f).tasks slot =
        { s.tasks slot with
          ownerEpoch := (s.tasks slot).ownerEpoch + 1
          queuedCpu := none
          bypassCount := 0
          dispatchCount := (s.tasks slot).dispatchCount + 1 } := by
      rw [setTask_here, fDef]
      dsimp only
      rw [cleared]
    have risen : Shaped (s.setTask slot f) places (some slot) := by
      refine shaped.rewrite absent ?_ ?_
      · rw [← setTask_here s slot f, here]
        simp [age, running]
      · rw [← setTask_here s slot f, here]
        exact fun _ => shaped.affinity slot used
    have ids : (s.setTask slot f).idOf = s.idOf := by
      apply setTask_idOf
      rw [← setTask_here s slot f, here]
    rw [same, ← ids]
    have placed := risen.join_running absent target idle
      (by rw [here]; exact ⟨used, running, rfl, owner, allowed⟩)
      (by rw [here]; exact Nat.succ_ne_zero _) (by rw [here]) awake
    have arrived : Arrived s ((s.setTask slot f).setCurrent target
        (some ((s.setTask slot f).idOf slot))) slot slot (.running target) := by
      refine Arrived.single (fun _ => setTask_other s f) ?_ placed
        ((mem_join ..).mpr (Or.inr ⟨rfl, rfl⟩)) ?_ rfl rfl rfl
      · rw [setCurrent_tasks, here]
      · intro cpu elsewhere
        exact update_of_ne (fun equal => elsewhere (congrArg Seat.running equal.symm)) _ _
    refine wp_countDispatchOn (fun first second s' quiet _ transaction ack => ?_)
      (fun _ _ full => stop (fun both => full both.2.2) _ _)
    exact pass ⟨room, more, first, second⟩ s' (arrived.quiet quiet ack transaction)
  · rw [setTask_here, cleared] at full
    exact full both.2.1

theorem wp_commitDispatch (shaped : Shaped s places none) {ticket : TransferTicket} (task : ticket.task = s.idOf slot)
    (used : (s.tasks slot).generation ≠ 0) (transfer : (s.tasks slot).state = .transfer)
    (idle : s.current target = none) (allowed : Allows (s.tasks slot).affinityMask target)
    (awake : Allows s.onlineMask target) : wp (commitDispatch ticket slot target)
      (fun _ s' => DispatchRoom s slot target ∧ Arrived s s' slot slot (.running target))
      (fun _ _ => ¬ DispatchRoom s slot target) s := by
  have absent : places.Absent slot := shaped.absent (by simp [transfer]) (by simp [transfer])
  have rest : (s.tasks slot).queuedCpu = none := by
    have stands := (shaped.stands slot (by simp)).2
    rw [transfer] at stands
    exact stands
  unfold commitDispatch
  simp only [wp_bind, wp_read, wp_update]
  refine wp_ensure_intro (fun _ => ?_) (fun refused => absurd ⟨transfer, idle⟩ refused)
  set f : Task → Task := fun task => { task with state := .running, ownerCpu := some target }
  have here : (s.setTask slot f).tasks slot = f (s.tasks slot) := setTask_here s slot f
  have ids : (s.setTask slot f).idOf = s.idOf := setTask_idOf s slot rfl
  have risen : Shaped (s.setTask slot f) places (some slot) := by
    refine (shaped.lift slot).rewrite absent ?_ (fun _ => shaped.affinity slot used)
    simp [age, f, transfer]
  have rooms : DispatchRoom (s.setTask slot f) slot target ↔ DispatchRoom s slot target := by
    unfold DispatchRoom
    rw [here]
    exact Iff.rfl
  rw [← rooms]
  refine wp_occupy risen absent (by rw [ids, task]) (by rw [here]; exact used) idle (by rw [here])
    (by rw [here]) (by rw [here]; exact allowed) awake ?_ (fun room s' arrived => ⟨room, ?_⟩)
    (fun full _ _ => full)
  · intro ownerEpoch
    rw [here]
    simp only [f, rest]
  · refine arrived.since ids ?_ ?_ (fun _ _ => rfl) rfl rfl rfl
    · intro slot' differs _
      exact ⟨(s.tasks slot').bypassCount, setTask_other s f differs⟩
    · intro slot' differs state
      exact ⟨differs, setTask_other s f differs ▸ state⟩

/-- The queue's first choice becomes the current task of an idle processor. -/
theorem wp_promoteNext (shaped : Shaped s places none) (nonempty : 0 < (places.items (.queue target)).length)
    (idle : s.current target = none) : wp (promoteNext target)
      (fun _ s' => ∃ next, (places.items (.queue target)).argmax s.rank = some next ∧
        DispatchRoom s next target ∧ Arrived s s' next next (.running target))
      (fun _ _ => ∃ next, (places.items (.queue target)).argmax s.rank = some next ∧
        ¬ DispatchRoom s next target) s := by
  obtain ⟨index, next, picked, removed, best⟩ := pick_removeAt shaped nonempty
  have member : next ∈ places.items (.queue target) := List.argmax_mem best
  have fits : Fits (s.tasks next) (.queue target) := shaped.fits member
  have absent : (places.leave (.queue target) next).Absent next := absent_leave member
  set queue : Queue := Slots.ofList (((places.items (.queue target)).erase next).map s.idOf) with stored
  set s₁ := s.setQueue target queue with s₁Def
  have left : Shaped s₁ (places.leave (.queue target) next) (some next) :=
    shaped.leave_queue stored
  have oldest : ∀ slot ∈ (places.leave (.queue target) next).items (.queue target),
      (s₁.tasks slot).priority = (s₁.tasks next).priority →
      (s₁.tasks slot).bypassCount ≤ (s₁.tasks next).bypassCount := by
    intro slot inside equal
    exact oldest_of_argmax best ((mem_leave ..).mp inside).1 equal
  unfold promoteNext
  simp only [wp_bind, wp_read, wp_update]
  rw [picked, wp_lift_ok, removed, wp_lift_ok]
  refine wp_index_idOf next rfl fits.1 ?_
  refine wp_bypass_rest left absent fits.2.1 oldest (fun maximum => ?_)
  set f : Task → Task := fun task => { task with state := .running, ownerCpu := some target }
  set s₂ := (afterBypass s₁ ((places.leave (.queue target) next).items (.queue target))
    (s₁.tasks next).priority maximum).setTask next f with s₂Def
  have risen : Shaped s₂ (places.leave (.queue target) next) (some next) :=
    left.promote absent maximum fits.2.1 oldest rfl rfl rfl
  have here : s₂.tasks next = f (s.tasks next) := by
    rw [s₂Def, setTask_here, afterBypass_tasks, bypassed_other (absent _)]
    rfl
  have others : ∀ slot, slot ≠ next → ∃ bypassCount, s₂.tasks slot = { s.tasks slot with bypassCount } := by
    intro slot differs
    rw [s₂Def, setTask_other _ _ differs, afterBypass_tasks]
    unfold bypassed
    split
    · exact ⟨_, rfl⟩
    · exact ⟨_, rfl⟩
  have ids : s₂.idOf = s.idOf := by
    funext slot
    by_cases same : slot = next
    · rw [same]
      simp only [idOf, Task.id, here, f]
    · obtain ⟨bypassCount, equal⟩ := others slot same
      simp only [idOf, Task.id, equal]
  have rooms : DispatchRoom s₂ next target ↔ DispatchRoom s next target := by
    unfold DispatchRoom
    rw [here]
    exact Iff.rfl
  refine wp_occupy risen absent (by rw [ids]) (by rw [here]; exact fits.1) idle
    (by rw [here]) (by rw [here]) (by rw [here]; exact fits.2.2.2.2) (shaped.awake member) ?_
    (fun room s' arrived => ⟨next, best, rooms.mp room, ?_⟩)
    (fun full _ _ => ⟨next, best, fun room => full (rooms.mpr room)⟩)
  · intro ownerEpoch
    rw [here]
  · refine arrived.since ids (fun slot' differs _ => others slot' differs) ?_ (fun _ _ => rfl) rfl rfl rfl
    intro slot' differs state
    obtain ⟨bypassCount, equal⟩ := others slot' differs
    rw [equal] at state
    exact ⟨differs, state⟩

end

variable {s : SmpScheduler} {places : Places Seat Slot} {ticket : TransferTicket} {slot : Slot}
  {target : CpuId}

/-- The slots queued on a processor, in order. -/
def SmpScheduler.waiting (s : SmpScheduler) (cpu : CpuId) : List Slot :=
  (s.queues cpu).live.filterMap TaskId.index?

/-- The task that takes over when `slot` goes back to the end of the queue. -/
def SmpScheduler.successor (s : SmpScheduler) (cpu : CpuId) (slot : Slot) : Option Slot :=
  (s.waiting cpu ++ [slot]).argmax s.rank

theorem waiting_eq {lifted : Option Slot} (shaped : Shaped s places lifted) (cpu : CpuId) :
    s.waiting cpu = places.items (.queue cpu) := by
  have known : TaskId.index? ∘ s.idOf = some := by
    funext slot
    exact idOf_index s slot
  unfold waiting
  rw [shaped.queues, Slots.live_ofList (Shaped.length_le places _), List.filterMap_map, known, List.filterMap_some]

/-- The place a transfer of this kind moves a task to. -/
def kindSeat : TransferKind → CpuId → Seat
  | .wake, cpu => .queue cpu
  | .migration, cpu => .queue cpu
  | .offlineProbe, cpu => .queue cpu
  | .dispatch, cpu => .running cpu
  | .preempt, cpu => .running cpu

/-- What the way from source to target requires, by kind. -/
def Route (s : SmpScheduler) (ticket : TransferTicket) (slot : Slot) (target : CpuId) : Prop :=
  match ticket.kind with
  | .wake => ticket.targetCpu = target.val ∧ Allows (s.tasks slot).affinityMask target ∧
      Allows s.onlineMask target
  | .migration => ticket.targetCpu = target.val ∧ Allows (s.tasks slot).affinityMask target ∧
      Allows s.onlineMask target ∧
      (s.tasks slot).queuedCpu.map Fin.val = some ticket.sourceCpu
  | .dispatch => ticket.targetCpu = target.val ∧ Allows (s.tasks slot).affinityMask target ∧
      Allows s.onlineMask target ∧ s.current target = none
  | .preempt => ticket.targetCpu = target.val ∧ s.current target = some ticket.task
  | .offlineProbe => (s.tasks slot).queuedCpu.map Fin.val = some ticket.sourceCpu

structure Staged (s : SmpScheduler) (ticket : TransferTicket) (slot : Slot) (target : CpuId) : Prop where
  task : ticket.task = s.idOf slot
  used : (s.tasks slot).generation ≠ 0
  epoch : (s.tasks slot).ownerEpoch = ticket.ownerEpoch
  state : (s.tasks slot).state = kindState ticket.kind
  alone : ∀ slot', (s.tasks slot').state = .transfer → slot' = slot
  route : Route s ticket slot target

/-- The counters that the commit of each kind advances have room. -/
def KindRoom (s : SmpScheduler) (kind : TransferKind) (slot : Slot) (target : CpuId) : Prop :=
  match kind with
  | .wake => Room (s.tasks slot).ownerEpoch ∧ Room s.remoteWakeCount
  | .migration => Room (s.tasks slot).ownerEpoch ∧ Room s.migrationCount
  | .dispatch => DispatchRoom s slot target
  | .preempt => ∀ next, s.successor target slot = some next → DispatchRoom s next target
  | .offlineProbe => Room s.timeoutCount ∧ Room s.rollbackCount

/-- The commit of a ticket of this kind, or its timeout for a probe, has room. -/
def Affordable (s : SmpScheduler) (kind : TransferKind) (slot : Slot) (target : CpuId) : Prop :=
  KindRoom s kind slot target ∧ (kind = .offlineProbe ∨ Room s.remoteAckCount)

/-- The task that a commit puts in place. -/
def Mover (s : SmpScheduler) (kind : TransferKind) (slot : Slot) (target : CpuId) (moved : Slot) : Prop :=
  if kind = .preempt then s.successor target slot = some moved else moved = slot

theorem mover_self {kind : TransferKind} (other : kind ≠ .preempt) : Mover s kind slot target slot := by
  unfold Mover
  rw [if_neg other]

theorem wp_commitPreempt (shaped : Shaped s places none) (task : ticket.task = s.idOf slot)
    (current : s.current target = some ticket.task) : wp (commitPreempt ticket slot target)
      (fun _ s' => (∀ next, s.successor target slot = some next → DispatchRoom s next target) ∧
        ∃ next, s.successor target slot = some next ∧ Arrived s s' slot next (.running target))
      (fun _ _ => ¬ ∀ next, s.successor target slot = some next → DispatchRoom s next target) s := by
  obtain ⟨slot', same, items⟩ := shaped.current_eq current
  obtain rfl : slot = slot' := idOf_injective s (task.symm.trans same)
  have member : slot ∈ places.items (.running target) := items ▸ List.mem_singleton_self slot
  have fits : Fits (s.tasks slot) (.running target) := shaped.fits member
  have absent : (places.leave (.running target) slot).Absent slot := absent_leave member
  have stands := shaped.stands slot (by simp)
  have fresh : (s.tasks slot).bypassCount = 0 ∧ (s.tasks slot).ownerEpoch ≠ 0 := by
    unfold Stands at stands
    rw [fits.2.1] at stands
    simp only [reduceCtorEq, false_or] at stands
    exact ⟨stands.2.1, stands.1.2⟩
  unfold commitPreempt requeueCurrent
  simp only [wp_bind, wp_read, wp_update]
  refine wp_ensure_intro (fun _ => ?_) (fun refused => absurd ⟨current, fits.2.1⟩ refused)
  set f : Task → Task := fun task => { task with state := .runnable, queuedCpu := none }
  set s₁ := (s.setCurrent target none).setTask slot f
  have here : s₁.tasks slot = f (s.tasks slot) := setTask_here _ slot f
  have risen : Shaped s₁ (places.leave (.running target) slot) (some slot) := by
    refine (shaped.leave_running items).rewrite absent ?_ (fun _ => shaped.affinity slot fits.1)
    simp [age, f, fresh.1]
  refine wp_enqueue risen absent target (by rw [here]; exact fits.1)
    (by rw [here]; exact fresh.2) (by rw [here]) (by rw [here])
    (by rw [here]; exact fits.2.2.2.1) (by rw [here]; exact fits.2.2.2.2) (shaped.awake member)
    (fun s₂ joined enqueued => ?_)
  have others : ∀ slot', slot' ≠ slot → s₂.tasks slot' = s.tasks slot' := by
    intro slot' differs
    rw [enqueued.other differs]
    exact setTask_other _ _ differs
  have there : s₂.tasks slot = { s.tasks slot with state := .runnable, queuedCpu := some target } := by
    rw [enqueued.here, here]
  have ids : s₂.idOf = s.idOf := by
    funext slot'
    by_cases equal : slot' = slot
    · rw [equal]
      simp only [idOf, Task.id, there]
    · simp only [idOf, others slot' equal]
  have ranks : s₂.rank = s.rank := by
    funext slot'
    by_cases equal : slot' = slot
    · rw [equal]
      simp only [rank, there]
    · simp only [rank, others slot' equal]
  have queue : ((places.leave (.running target) slot).join (.queue target) slot absent).items
      (.queue target) = s.waiting target ++ [slot] := by
    rw [join_items, if_pos rfl, leave_items, if_neg (by simp), waiting_eq shaped]
  have chosen : (((places.leave (.running target) slot).join (.queue target) slot absent).items
      (.queue target)).argmax s₂.rank = s.successor target slot := by
    rw [queue, ranks]
    rfl
  have rooms : ∀ next, DispatchRoom s₂ next target ↔ DispatchRoom s next target := by
    intro next
    have counts : s₂.dispatchCount = s.dispatchCount ∧ classCount s₂ target = classCount s target :=
      ⟨(congrArg dispatchCount enqueued.rest).trans rfl,
        (congrArg (fun s => classCount s target) enqueued.rest).trans rfl⟩
    unfold DispatchRoom
    rw [counts.1, counts.2]
    by_cases equal : next = slot
    · rw [equal, there]
    · rw [others next equal]
  have idle : s₂.current target = none :=
    (congrFun (congrArg SmpScheduler.current enqueued.rest) target).trans (update_self _ _ _)
  refine wp_mono (wp_promoteNext joined (by rw [queue]; simp) idle) ?_ ?_
  · rintro _ s' ⟨next, best, room, arrived⟩
    rw [chosen] at best
    refine ⟨fun other found => ?_, next, best, ?_⟩
    · obtain rfl := Option.some.inj (best.symm.trans found)
      exact (rooms next).mp room
    · refine arrived.since ids ?_ ?_ ?_ ((congrArg onlineMask enqueued.rest).trans rfl)
        ((congrArg remoteAckCount enqueued.rest).trans rfl)
        ((congrArg SmpScheduler.transaction enqueued.rest).trans rfl)
      · intro slot' differs _
        exact ⟨(s.tasks slot').bypassCount, others slot' differs⟩
      · intro slot' _ state
        have differs : slot' ≠ slot := by
          rintro rfl
          rw [there] at state
          cases state
        exact ⟨differs, others slot' differs ▸ state⟩
      · intro cpu elsewhere
        have differs : cpu ≠ target := fun equal => elsewhere (congrArg Seat.running equal.symm)
        exact (congrFun (congrArg SmpScheduler.current enqueued.rest) cpu).trans
          (update_of_ne differs _ _)
  · rintro _ s' ⟨next, best, full⟩ room
    exact full ((rooms next).mpr (room next (chosen ▸ best)))

theorem wp_commitKind (shaped : Shaped s places none) (staged : Staged s ticket slot target)
    (committed : ticket.kind ≠ .offlineProbe) : wp (commitKind ticket slot target)
      (fun _ s' => KindRoom s ticket.kind slot target ∧ ∃ moved,
        Mover s ticket.kind slot target moved ∧ Arrived s s' slot moved (kindSeat ticket.kind target))
      (fun _ _ => ¬ KindRoom s ticket.kind slot target) s := by
  have state := staged.state
  have route := staged.route
  unfold Route at route
  unfold commitKind
  cases kind : ticket.kind <;> rw [kind] at route state <;> dsimp only at route ⊢
  case wake =>
    refine wp_mono (wp_commitWake shaped staged.used state route.2.1 route.2.2) ?_
      (fun _ _ full => full)
    exact fun _ s' both => ⟨both.1, slot, mover_self (by simp), both.2⟩
  case migration =>
    obtain ⟨cpu, member⟩ := shaped.queued state
    have queued : (s.tasks slot).queuedCpu = some cpu := (shaped.fits member).2.2.1
    have source : ticket.sourceCpu = cpu.val := by
      have stored := route.2.2.2
      rw [queued] at stored
      exact (Option.some.inj stored).symm
    refine wp_mono (wp_commitMigration shaped staged.task source staged.used member route.2.1
      route.2.2.1) ?_ (fun _ _ full => full)
    exact fun _ s' both => ⟨both.1, slot, mover_self (by simp), both.2⟩
  case dispatch =>
    refine wp_mono (wp_commitDispatch shaped staged.task staged.used state route.2.2.2 route.2.1
      route.2.2.1) ?_ (fun _ _ full => full)
    exact fun _ s' both => ⟨both.1, slot, mover_self (by simp), both.2⟩
  case preempt =>
    refine wp_mono (wp_commitPreempt shaped staged.task route.2) ?_ (fun _ _ full => full)
    rintro _ s' ⟨room, next, best, arrived⟩
    exact ⟨room, next, best, arrived⟩
  case offlineProbe => exact absurd kind committed

/-- A state with no transfer in flight. -/
structure Settled (s : SmpScheduler) : Prop where
  shaped : ∃ places, Shaped s places none
  idle : s.pending = none
  still : ∀ slot, (s.tasks slot).state ≠ .transfer

theorem Settled.valid (settled : Settled s) : s.validate = .ok () := by
  obtain ⟨places, shaped⟩ := settled.shaped
  refine validate_ok shaped ?_
  unfold Transfers
  rw [settled.idle]
  exact settled.still

theorem Settled.quiet {s' : SmpScheduler} (settled : Settled s) (same : Quiet s s')
    (pending : s'.pending = s.pending) : Settled s' := by
  obtain ⟨places, shaped⟩ := settled.shaped
  exact ⟨⟨places, shaped.quiet same⟩, pending.trans settled.idle, by rw [same.tasks]; exact settled.still⟩

/-- What the acknowledgement of a ticket leaves behind. -/
structure Committed (s s' : SmpScheduler) (ticket : TransferTicket) (slot : Slot) (target : CpuId) : Prop where
  settled : Settled s'
  transaction : s'.transaction = s.transaction
  moved : ∃ moved, Mover s ticket.kind slot target moved ∧
    Arrived s { s' with remoteAckCount := s.remoteAckCount } slot moved (kindSeat ticket.kind target)

theorem route_target (staged : Staged s ticket slot target)
    (committed : ticket.kind ≠ .offlineProbe) : ticket.targetCpu = target.val := by
  have route := staged.route
  unfold Route at route
  cases kind : ticket.kind <;> rw [kind] at route
  case offlineProbe => exact absurd kind committed
  all_goals exact route.1

theorem wp_commitAcknowledgement (shaped : Shaped s places none) (staged : Staged s ticket slot target)
    (committed : ticket.kind ≠ .offlineProbe) : wp (commitAcknowledgement ticket)
      (fun _ s' => Affordable s ticket.kind slot target ∧ Committed s s' ticket slot target)
      (fun _ _ => ¬ Affordable s ticket.kind slot target) s := by
  unfold commitAcknowledgement
  simp only [wp_bind, wp_read, wp_update, wp_bump]
  refine wp_index_idOf slot staged.task staged.used ?_
  refine wp_ensure_intro (fun _ => ?_) (fun refused => absurd staged.epoch refused)
  rw [route_target staged committed, CpuId.new_val, orError_some, wp_lift_ok]
  refine wp_mono (wp_commitKind shaped staged committed) ?_
    (fun _ _ full afford => full afford.1)
  rintro _ s₁ ⟨room, moved, mover, arrived⟩
  refine wp_count _ _ (fun more => ?_) (fun full afford => ?_)
  · have ack : Room s.remoteAckCount := arrived.remoteAckCount ▸ more
    obtain ⟨places', shaped', _⟩ := arrived.shaped
    set s₂ := SmpScheduler.bumpSequence { s₁ with
      pending := none, remoteAckCount := s₁.remoteAckCount + 1 }
    have same : Quiet s₁ s₂ := ⟨rfl, rfl, rfl, rfl⟩
    have settled : Settled s₂ := by
      refine ⟨⟨places', shaped'.quiet same⟩, rfl, ?_⟩
      intro slot' state
      obtain ⟨differs, before⟩ := arrived.still slot' state
      exact differs (staged.alone slot' before)
    refine wp_check settled.valid ⟨⟨room, Or.inr ack⟩, settled, arrived.transaction, moved, mover, ?_⟩
    exact ⟨arrived.ids, ⟨places', shaped'.quiet ⟨rfl, rfl, rfl, rfl⟩, by assumption⟩, arrived.still,
      arrived.others, arrived.current, arrived.onlineMask, rfl, arrived.transaction⟩
  · have ack : ¬ Room s.remoteAckCount := arrived.remoteAckCount ▸ full
    exact afford.2.elim committed ack

theorem wp_timeoutInner (shaped : Shaped s places none) (staged : Staged s ticket slot target)
    (pending : s.pending = some ticket) (probe : ticket.kind = .offlineProbe) : wp (timeoutInner ticket)
      (fun _ s' => Affordable s ticket.kind slot target ∧ Settled s' ∧ Quiet s s' ∧ s'.transaction = s.transaction)
      (fun _ _ => ¬ Affordable s ticket.kind slot target) s := by
  have state := staged.state
  have route := staged.route
  unfold Route at route
  rw [probe] at state route
  unfold Affordable KindRoom
  rw [probe]
  unfold timeoutInner
  simp only [wp_bind, wp_read, wp_update, wp_bump]
  rw [pending, orError_some, wp_lift_ok]
  refine wp_ensure_intro (fun _ => ?_) (fun refused => absurd ⟨rfl, probe⟩ refused)
  refine wp_index_idOf slot staged.task staged.used ?_
  refine wp_ensure_intro (fun _ => ?_) (fun refused => absurd ⟨state, route⟩ refused)
  refine wp_count _ _ (fun first => ?_) (fun full afford => full afford.1.1)
  refine wp_count _ _ (fun second => ?_) (fun full afford => full afford.1.2)
  have settled : Settled (SmpScheduler.bumpSequence { s with
      pending := none, timeoutCount := s.timeoutCount + 1, rollbackCount := s.rollbackCount + 1 }) := by
    refine ⟨⟨places, shaped.quiet ⟨rfl, rfl, rfl, rfl⟩⟩, rfl, ?_⟩
    intro slot' transfer
    obtain rfl := staged.alone slot' transfer
    exact absurd (state.symm.trans transfer) (by simp [kindState])
  exact wp_check settled.valid ⟨⟨⟨first, second⟩, Or.inl trivial⟩, settled, ⟨rfl, rfl, rfl, rfl⟩, rfl⟩

end PooleOS.Smp
