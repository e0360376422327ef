import PooleOS.Smp.Tickets

/- The public operations that need no ticket, and what each leaves behind. -/
namespace PooleOS.Smp

open List Op Function Places
open SmpScheduler

variable {s : SmpScheduler} {places : Places Seat Slot} {ticket : TransferTicket} {slot : Slot}
  {target : CpuId}

/-- A state with a ticket whose commit, or timeout, cannot fail. -/
structure Held (s : SmpScheduler) (ticket : TransferTicket) (slot : Slot) (target : CpuId) : Prop where
  shaped : ∃ places, Shaped s places none
  pending : s.pending = some ticket
  staged : Staged s ticket slot target
  afford : Affordable s ticket.kind slot target
  issued : ticket.transaction ≤ s.transaction

/-- The states of every run. -/
def Sound (s : SmpScheduler) : Prop := Settled s ∨ ∃ ticket slot target, Held s ticket slot target

theorem Sound.shaped (sound : Sound s) : ∃ places, Shaped s places none := by
  rcases sound with settled | ⟨_, _, _, held⟩
  · exact settled.shaped
  · exact held.shaped

theorem Sound.settled (sound : Sound s) (idle : s.pending = none) : Settled s := by
  rcases sound with settled | ⟨_, _, _, held⟩
  · exact settled
  · cases idle.symm.trans held.pending

theorem Held.transfers (held : Held s ticket slot target) : Transfers s := by
  unfold Transfers
  rw [held.pending]
  exact ⟨slot, held.staged.task, held.staged.used, held.staged.state, held.staged.alone⟩

theorem Sound.valid (sound : Sound s) : s.validate = .ok () := by
  rcases sound with settled | ⟨ticket, slot, target, held⟩
  · exact settled.valid
  · obtain ⟨places, shaped⟩ := held.shaped
    exact validate_ok shaped held.transfers

/-- The unchanged receiver of a failed operation. -/
def Kept (s : SmpScheduler) (_ : Error) (s' : SmpScheduler) : Prop := s' = s

variable {s' : SmpScheduler}

theorem Staged.quiet (staged : Staged s ticket slot target) (same : Quiet s s') : Staged s' ticket slot target := by
  refine ⟨?_, ?_, ?_, ?_, ?_, ?_⟩
  · rw [same.ids]
    exact staged.task
  · rw [same.tasks]
    exact staged.used
  · rw [same.tasks]
    exact staged.epoch
  · rw [same.tasks]
    exact staged.state
  · rw [same.tasks]
    exact staged.alone
  · have route := staged.route
    unfold Route at route ⊢
    rw [same.tasks, same.onlineMask, same.current]
    exact route

/-- A step that touches one task that was not in use, and perhaps the queue it joins. -/
structure Beside (s s' : SmpScheduler) (fresh : Slot) : Prop where
  ledger : s' = { s with tasks := s'.tasks, queues := s'.queues, sequence := s'.sequence }
  unused : (s.tasks fresh).state = .dormant ∨ (s.tasks fresh).state = .dead
  others : ∀ slot, slot ≠ fresh → s'.tasks slot = s.tasks slot
  started : (s'.tasks fresh).state ≠ .transfer ∧ Room (s'.tasks fresh).ownerEpoch ∧
    Room (s'.tasks fresh).dispatchCount
  outside : ∀ cpu, fresh ∉ s.waiting cpu
  kept : ∀ cpu, (s.waiting cpu).Sublist (s'.waiting cpu)
  joined : ∀ cpu, ∀ slot ∈ s'.waiting cpu, slot ≠ fresh → slot ∈ s.waiting cpu
  shaped : ∃ places, Shaped s' places none

theorem kindState_ne (kind : TransferKind) : kindState kind ≠ .dormant ∧ kindState kind ≠ .dead := by
  cases kind <;> simp [kindState]

variable {fresh : Slot}

theorem Beside.apart (beside : Beside s s' fresh) (staged : Staged s ticket slot target) : slot ≠ fresh := by
  rintro rfl
  have state := staged.state
  rcases beside.unused with dormant | dead
  · exact (kindState_ne ticket.kind).1 (state.symm.trans dormant)
  · exact (kindState_ne ticket.kind).2 (state.symm.trans dead)

/-- The successor is as before, or it is the task that has just arrived. -/
theorem Beside.successor (beside : Beside s s' fresh) (apart : slot ≠ fresh) (running : slot ∉ s'.waiting target)
    {next : Slot} (best : s'.successor target slot = some next) :
    next = fresh ∨ s.successor target slot = some next := by
  by_cases new : next = fresh
  · exact .inl new
  · refine .inr ?_
    obtain ⟨places, shaped⟩ := beside.shaped
    have distinct : (s'.waiting target ++ [slot]).Nodup := by
      rw [waiting_eq shaped] at running ⊢
      rw [nodup_append]
      refine ⟨places.nodup _, nodup_singleton slot, ?_⟩
      rintro first member second here rfl
      exact running (mem_singleton.mp here ▸ member)
    have member : next ∈ s'.waiting target ++ [slot] := argmax_mem best
    have before : next ∈ s.waiting target ++ [slot] := by
      rw [mem_append] at member ⊢
      exact member.imp_left (fun here => beside.joined target next here new)
    have part := argmax_sublist ((beside.kept target).append_right [slot]) distinct best before
    rw [← part]
    apply argmax_congr
    intro other inside
    have differs : other ≠ fresh := by
      rintro rfl
      rw [mem_append, mem_singleton] at inside
      exact inside.elim (beside.outside target) (fun same => apart same.symm)
    unfold rank
    rw [beside.others other differs]

theorem successor_some (s : SmpScheduler) (cpu : CpuId) (slot : Slot) : ∃ next, s.successor cpu slot = some next := by
  apply Option.ne_none_iff_exists'.mp
  unfold SmpScheduler.successor
  simp

theorem Beside.affordable (beside : Beside s s' fresh) (staged : Staged s ticket slot target)
    (afford : Affordable s ticket.kind slot target) : Affordable s' ticket.kind slot target := by
  have apart := beside.apart staged
  have same : s'.tasks slot = s.tasks slot := beside.others slot apart
  have ledger := beside.ledger
  have state := staged.state
  obtain ⟨room, ack⟩ := afford
  refine ⟨?_, ?_⟩
  · unfold KindRoom at room ⊢
    cases kind : ticket.kind <;> rw [kind] at room state <;> dsimp only at room ⊢
    case wake =>
      rw [same, (congrArg remoteWakeCount ledger).trans rfl]
      exact room
    case migration =>
      rw [same, (congrArg migrationCount ledger).trans rfl]
      exact room
    case dispatch =>
      unfold DispatchRoom at room ⊢
      rw [same, (congrArg dispatchCount ledger).trans rfl, (congrArg (fun s => classCount s target) ledger).trans rfl]
      exact room
    case preempt =>
      have counts : s'.dispatchCount = s.dispatchCount ∧
          classCount s' target = classCount s target :=
        ⟨(congrArg dispatchCount ledger).trans rfl, (congrArg (fun s => classCount s target) ledger).trans rfl⟩
      have running : slot ∉ s'.waiting target := by
        obtain ⟨places, shaped⟩ := beside.shaped
        rw [waiting_eq shaped]
        intro member
        have runnable := (shaped.fits member).2.1
        rw [same, state] at runnable
        cases runnable
      intro next best
      unfold DispatchRoom at room ⊢
      rw [counts.1, counts.2]
      by_cases new : next = fresh
      · obtain ⟨old, before⟩ := successor_some s target slot
        obtain ⟨_, _, rooms⟩ := room old before
        rw [new]
        exact ⟨beside.started.2.1, beside.started.2.2, rooms⟩
      · rw [beside.others next new]
        exact room next ((beside.successor apart running best).resolve_left new)
    case offlineProbe =>
      rw [(congrArg timeoutCount ledger).trans rfl, (congrArg rollbackCount ledger).trans rfl]
      exact room
  · rw [(congrArg remoteAckCount ledger).trans rfl]
    exact ack

/-- A ticket survives a step beside it, and its task is not touched. -/
theorem Held.beside (held : Held s ticket slot target)
    (beside : Beside s s' fresh) : Held s' ticket slot target ∧ s'.tasks slot = s.tasks slot := by
  have apart := beside.apart held.staged
  have same : s'.tasks slot = s.tasks slot := beside.others slot apart
  have ledger := beside.ledger
  have staged : Staged s' ticket slot target := by
    refine ⟨?_, ?_, ?_, ?_, ?_, ?_⟩
    · rw [held.staged.task]
      simp only [idOf, same]
    · rw [same]
      exact held.staged.used
    · rw [same]
      exact held.staged.epoch
    · rw [same]
      exact held.staged.state
    · intro slot' state
      by_cases new : slot' = fresh
      · exact absurd (new ▸ state) beside.started.1
      · exact held.staged.alone slot' (beside.others slot' new ▸ state)
    · have route := held.staged.route
      unfold Route at route ⊢
      rw [same, (congrArg onlineMask ledger).trans rfl,
        (congrFun (congrArg SmpScheduler.current ledger) target).trans rfl]
      exact route
  have pending : s'.pending = s.pending := (congrArg SmpScheduler.pending ledger).trans rfl
  have transaction : s'.transaction = s.transaction :=
    (congrArg SmpScheduler.transaction ledger).trans rfl
  exact ⟨⟨beside.shaped, pending.trans held.pending, staged,
    beside.affordable held.staged held.afford, transaction ▸ held.issued⟩, same⟩

theorem Settled.beside (settled : Settled s) (beside : Beside s s' fresh) : Settled s' := by
  have pending : s'.pending = s.pending := (congrArg SmpScheduler.pending beside.ledger).trans rfl
  refine ⟨beside.shaped, pending.trans settled.idle, ?_⟩
  intro slot state
  by_cases new : slot = fresh
  · exact beside.started.1 (new ▸ state)
  · exact settled.still slot (beside.others slot new ▸ state)

theorem Sound.beside (sound : Sound s) (beside : Beside s s' fresh) : Sound s' := by
  rcases sound with settled | ⟨ticket, slot, target, held⟩
  · exact .inl (settled.beside beside)
  · exact .inr ⟨ticket, slot, target, (held.beside beside).1⟩

theorem wp_createTask (sound : Sound s) (slot generation priority : Nat) (affinityMask : BitVec 8) :
    wp (createTask slot generation priority affinityMask) (fun _ s' => ∃ fresh, Beside s s' fresh) (Kept s) s := by
  obtain ⟨places, shaped⟩ := sound.shaped
  unfold createTask
  simp only [wp_bind, wp_read, wp_update, wp_bump]
  refine wp_lift_intro (fun id made => ?_) (fun _ _ => rfl)
  refine wp_ensure_intro (fun _ => ?_) (fun _ => rfl)
  refine wp_ensure_intro (fun masks => ?_) (fun _ => rfl)
  refine wp_lift_intro (fun fresh found => ?_) (fun _ _ => rfl)
  refine wp_ensure_intro (fun free => ?_) (fun _ => rfl)
  refine wp_ensure_intro (fun _ => ?_) (fun _ => rfl)
  have unused : (s.tasks fresh).state = .dormant ∨ (s.tasks fresh).state = .dead := by
    rcases free with zero | dead
    · rcases (shaped.stands fresh (by simp)).1 with dormant | ⟨used, _⟩
      · exact .inl dormant
      · exact absurd zero used
    · exact .inr dead
  have absent : places.Absent fresh := by
    refine shaped.absent ?_ ?_
    · rcases unused with dormant | dead <;> simp [*]
    · rcases unused with dormant | dead <;> simp [*]
  set task : Task :=
    { generation := generation, state := .dormant, priority := priority,
      affinityMask := affinityMask, ownerCpu := none, ownerEpoch := 0, queuedCpu := none,
      bypassCount := 0, dispatchCount := 0 }
  set s' := (s.setTask fresh (fun _ => task)).bumpSequence
  have here : s'.tasks fresh = task := setTask_here s fresh (fun _ => task)
  have placed : Shaped s' places none := by
    have risen : Shaped (s.setTask fresh (fun _ => task)) places (some fresh) :=
      (shaped.lift fresh).rewrite absent (Nat.zero_le _) (fun _ => masks)
    refine Shaped.quiet (risen.settle absent ?_) (bumpSequence_quiet _)
    rw [setTask_here]
    exact ⟨.inl rfl, rfl, rfl, rfl, rfl⟩
  have same : ∀ cpu, s'.waiting cpu = s.waiting cpu := by
    intro cpu
    rw [waiting_eq placed, waiting_eq shaped]
  refine ⟨fresh, rfl, unused, fun _ => setTask_other s (fun _ => task), ?_, ?_, ?_, ?_, places, placed⟩
  · rw [here]
    have zero : Room 0 := by decide
    exact ⟨by simp [task], zero, zero⟩
  · intro cpu
    rw [waiting_eq shaped]
    exact absent _
  · intro cpu
    rw [same]
  · intro cpu slot' member _
    exact same cpu ▸ member

theorem wp_activate (sound : Sound s) (id : TaskId) (cpu : CpuId) :
    wp (activate id cpu) (fun _ s' => ∃ fresh, Beside s s' fresh) (Kept s) s := by
  obtain ⟨places, shaped⟩ := sound.shaped
  unfold activate
  simp only [wp_bind, wp_read, wp_update, wp_bump]
  refine wp_online (fun awake => ?_) (fun _ => rfl)
  refine wp_index (fun fresh same used => ?_) (fun _ => rfl)
  refine wp_ensure_intro (fun ready => ?_) (fun _ => rfl)
  have absent : places.Absent fresh := shaped.absent (by simp [ready.1]) (by simp [ready.1])
  have rest : (s.tasks fresh).queuedCpu = none ∧ (s.tasks fresh).bypassCount = 0 ∧
      (s.tasks fresh).dispatchCount = 0 := by
    have stands := (shaped.stands fresh (by simp)).2
    rw [ready.1] at stands
    exact stands.2
  set f : Task → Task := fun task =>
    { task with state := .runnable, ownerCpu := some cpu, ownerEpoch := 1 }
  have here : (s.setTask fresh f).tasks fresh = f (s.tasks fresh) := setTask_here s fresh f
  have risen : Shaped (s.setTask fresh f) places (some fresh) := by
    refine (shaped.lift fresh).rewrite absent ?_ (fun _ => shaped.affinity fresh used)
    simp [age, f, rest.2.1]
  refine wp_enqueue risen absent cpu (by rw [here]; exact used) (by rw [here]; exact Nat.one_ne_zero)
    (by rw [here]) (by rw [here]; exact rest.1) (by rw [here]) (by rw [here]; exact ready.2) awake
    (fun s₁ joined enqueued => ?_)
  have placed : Shaped s₁.bumpSequence (places.join (.queue cpu) fresh absent) none :=
    joined.quiet (bumpSequence_quiet _)
  have waits : ∀ cpu', s₁.bumpSequence.waiting cpu' =
      if cpu' = cpu then s.waiting cpu ++ [fresh] else s.waiting cpu' := by
    intro cpu'
    rw [waiting_eq placed, waiting_eq shaped, waiting_eq shaped, join_items]
    by_cases equal : cpu' = cpu
    · rw [if_pos equal, if_pos (by rw [equal])]
    · rw [if_neg equal, if_neg (by simpa using equal)]
  have beside : Beside s s₁.bumpSequence fresh := by
    refine ⟨?_, .inl ready.1, ?_, ?_, ?_, ?_, ?_, _, placed⟩
    · have rest := enqueued.rest
      rw [rest]
      rfl
    · intro slot' differs
      exact (enqueued.other differs).trans (setTask_other s f differs)
    · have there : s₁.bumpSequence.tasks fresh = _ := enqueued.here
      rw [there, here]
      exact ⟨by simp [f], by simp only [f]; decide, by simp only [f, rest.2.2]; decide⟩
    · intro cpu'
      rw [waiting_eq shaped]
      exact absent _
    · intro cpu'
      rw [waits]
      split
      · rename_i equal
        rw [equal]
        exact sublist_append_left _ _
      · exact List.Sublist.refl _
    · intro cpu' slot' member differs
      rw [waits] at member
      split at member
      · rename_i equal
        rw [mem_append, mem_singleton] at member
        exact equal ▸ member.resolve_right differs
      · exact member
  exact wp_check (sound.beside beside).valid ⟨fresh, beside⟩

/-- What a task's end requires: it waits or is blocked, and teardowns can be counted. -/
def Cancellable (s : SmpScheduler) (slot : Slot) : Prop :=
  ((s.tasks slot).state = .runnable ∨ (s.tasks slot).state = .blocked) ∧ Room s.teardownCount

/-- One task has ended; nothing else has changed. -/
structure Ended (s s' : SmpScheduler) (slot : Slot) : Prop where
  ids : s'.idOf = s.idOf
  tasks : s'.tasks = Function.update s.tasks slot (buried (s.tasks slot))
  onlineMask : s'.onlineMask = s.onlineMask
  transaction : s'.transaction = s.transaction

/-- The last steps of a cancellation and of a completion. -/
theorem wp_bury {s₁ : SmpScheduler} {slot : Slot} (shaped : Shaped s₁ places (some slot)) (absent : places.Absent slot)
    (tasks : s₁.tasks = s.tasks) (mask : s₁.onlineMask = s.onlineMask) (teardown : s₁.teardownCount = s.teardownCount)
    (transaction : s₁.transaction = s.transaction) (pending : s₁.pending = none) (used : (s.tasks slot).generation ≠ 0)
    (epoch : (s.tasks slot).ownerEpoch ≠ 0) (still : ∀ slot', slot' ≠ slot → (s.tasks slot').state ≠ .transfer)
    {done : Unit → SmpScheduler → Prop} {failed : Error → SmpScheduler → Prop}
    (pass : Room s.teardownCount → ∀ s', Settled s' → Ended s s' slot → s'.current = s₁.current → done () s')
    (stop : ¬ Room s.teardownCount → ∀ reason s', failed reason s') :
    wp countTeardown (fun _ s' => wp check done failed s'.bumpSequence) failed (s₁.setTask slot buried) := by
  have here : (s₁.setTask slot buried).tasks slot = buried (s.tasks slot) := by
    rw [setTask_here, tasks]
  have risen : Shaped (s₁.setTask slot buried) places (some slot) := by
    refine shaped.rewrite absent (Nat.zero_le _) (fun _ => ?_)
    exact tasks ▸ shaped.affinity slot (tasks ▸ used)
  have put : Shaped (s₁.setTask slot buried) places none := by
    refine risen.settle absent ?_
    rw [here]
    exact ⟨.inr ⟨used, epoch⟩, rfl, rfl, rfl⟩
  refine wp_count _ _ (fun room => ?_) (fun full => stop (teardown ▸ full) _ _)
  set s' := SmpScheduler.bumpSequence { s₁.setTask slot buried with
    teardownCount := (s₁.setTask slot buried).teardownCount + 1 } with s'Def
  have rewritten : s'.tasks = update s.tasks slot (buried (s.tasks slot)) := by
    change update s₁.tasks slot (buried (s₁.tasks slot)) = _
    rw [tasks]
  have settled : Settled s' := by
    refine ⟨⟨places, put.quiet ⟨rfl, rfl, rfl, rfl⟩⟩, pending, ?_⟩
    intro slot' transfer
    rw [rewritten] at transfer
    by_cases same : slot' = slot
    · rw [same, update_self] at transfer
      cases transfer
    · rw [update_of_ne same] at transfer
      exact still slot' same transfer
  refine wp_check settled.valid (pass (teardown ▸ room) s' settled ⟨?_, rewritten, mask, transaction⟩ rfl)
  funext slot'
  simp only [idOf, Task.id, rewritten]
  by_cases same : slot' = slot
  · rw [same, update_self]
    rfl
  · rw [update_of_ne same]

theorem wp_cancelTask (sound : Sound s) (id : TaskId) : wp (cancelTask id)
      (fun _ s' => s.pending = none ∧ Settled s' ∧ s'.current = s.current ∧
        ∃ slot, id = s.idOf slot ∧ Cancellable s slot ∧ Ended s s' slot)
      (fun _ s' => s' = s ∧ (s.pending = none → ∀ slot, id = s.idOf slot →
        (s.tasks slot).generation ≠ 0 → ¬ Cancellable s slot)) s := by
  obtain ⟨places, shaped⟩ := sound.shaped
  apply wp_transact
  simp only [wp_bind, wp_update, wp_bump]
  refine wp_noPending (fun idle => ?_) (fun busy => ⟨trivial, fun idle => absurd idle busy⟩)
  have settled := sound.settled idle
  cases found : s.taskIndex id with
  | error reason =>
    unfold index
    simp only [wp_bind, wp_read]
    rw [found, wp_lift_error]
    refine ⟨trivial, fun _ slot same used => ?_⟩
    rw [same, taskIndex_idOf used] at found
    cases found
  | ok slot =>
  obtain ⟨same, used⟩ := taskIndex_ok.mp found
  refine wp_index_idOf slot same used ?_
  have only : ∀ slot', id = s.idOf slot' → slot' = slot := by
    intro slot' other
    exact idOf_injective s (other.symm.trans same)
  have epoch : (s.tasks slot).state = .runnable ∨ (s.tasks slot).state = .blocked →
      (s.tasks slot).ownerEpoch ≠ 0 := by
    intro ready
    rcases (shaped.stands slot (by simp)).1 with dormant | ⟨_, nonzero⟩
    · rw [dormant] at ready
      simp at ready
    · exact nonzero
  unfold detach
  simp only [wp_bind, wp_read]
  cases state : (s.tasks slot).state
  case runnable =>
    obtain ⟨cpu, member⟩ := shaped.queued state
    have queued : (s.tasks slot).queuedCpu = some cpu := (shaped.fits member).2.2.1
    simp only [wp_bind, wp_update]
    rw [queued, orError_some, wp_lift_ok, same, remove_ok shaped member, wp_lift_ok]
    have ready : (s.tasks slot).state = .runnable ∨ (s.tasks slot).state = .blocked := .inl state
    refine wp_bury (s := s) (shaped.leave_queue rfl) (absent_leave member) rfl rfl rfl rfl idle used
      (epoch ready) (fun slot' _ => settled.still slot') (fun room s' settled' ended current => ?_)
      (fun full _ _ => ?_)
    · exact ⟨idle, settled', current, slot, rfl, ⟨ready, room⟩, ended⟩
    · refine ⟨trivial, fun _ slot' other _ able => full able.2⟩
  case blocked =>
    have ready : (s.tasks slot).state = .runnable ∨ (s.tasks slot).state = .blocked := .inr state
    have absent : places.Absent slot := shaped.absent (by simp [state]) (by simp [state])
    refine wp_bury (s := s) (shaped.lift slot) absent rfl rfl rfl rfl idle used (epoch ready)
      (fun slot' _ => settled.still slot') (fun room s' settled' ended current => ?_)
      (fun full _ _ => ?_)
    · exact ⟨idle, settled', current, slot, same, ⟨ready, room⟩, ended⟩
    · refine ⟨trivial, fun _ slot' other _ able => full able.2⟩
  all_goals
    refine ⟨trivial, fun _ slot' other _ able => ?_⟩
    rw [only slot' other] at able
    have ready := able.1
    simp [state] at ready

/-- An operation that ran while no ticket was pending and has issued none. -/
structure Stays (s s' : SmpScheduler) : Prop where
  idle : s.pending = none
  settled : Settled s'
  transaction : s'.transaction = s.transaction

theorem wp_blockRunnable (sound : Sound s) (id : TaskId) :
    wp (blockRunnable id) (fun _ s' => Stays s s') (Kept s) s := by
  obtain ⟨places, shaped⟩ := sound.shaped
  unfold blockRunnable
  simp only [wp_bind, wp_read, wp_update, wp_bump]
  refine wp_noPending (fun idle => ?_) (fun _ => rfl)
  have settled := sound.settled idle
  refine wp_index (fun slot same used => ?_) (fun _ => rfl)
  refine wp_ensure_intro (fun state => ?_) (fun _ => rfl)
  obtain ⟨cpu, member⟩ := shaped.queued state
  have fits : Fits (s.tasks slot) (.queue cpu) := shaped.fits member
  have absent := absent_leave member
  have epoch : (s.tasks slot).ownerEpoch ≠ 0 := by
    rcases (shaped.stands slot (by simp)).1 with dormant | ⟨_, nonzero⟩
    · rw [state] at dormant
      cases dormant
    · exact nonzero
  rw [fits.2.2.1, orError_some, wp_lift_ok, same, remove_ok shaped member, wp_lift_ok]
  set f : Task → Task := fun task =>
    { task with state := .blocked, queuedCpu := none, bypassCount := 0 }
  set queue : Queue := Slots.ofList (((places.items (.queue cpu)).erase slot).map s.idOf) with stored
  have risen : Shaped ((s.setQueue cpu queue).setTask slot f) (places.leave (.queue cpu) slot)
      (some slot) :=
    (shaped.leave_queue stored).rewrite absent (Nat.zero_le _) (fun _ => shaped.affinity slot used)
  have settled' : Settled ((s.setQueue cpu queue).setTask slot f).bumpSequence := by
    refine ⟨⟨_, Shaped.quiet (risen.settle absent ?_) (bumpSequence_quiet _)⟩, idle, ?_⟩
    · rw [setTask_here]
      exact ⟨.inr ⟨used, epoch⟩, by simp [f, fits.2.2.2.1], rfl, rfl⟩
    · intro slot' transfer
      by_cases here : slot' = slot
      · have blocked : (((s.setQueue cpu queue).setTask slot f).bumpSequence.tasks slot).state =
            .blocked := congrArg Task.state (setTask_here (s.setQueue cpu queue) slot f)
        rw [here, blocked] at transfer
        cases transfer
      · have other : ((s.setQueue cpu queue).setTask slot f).bumpSequence.tasks slot' =
            s.tasks slot' := setTask_other (s.setQueue cpu queue) f here
        rw [other] at transfer
        exact settled.still slot' transfer
  exact wp_check settled'.valid ⟨idle, settled', rfl⟩

/-- The task on a processor ends, and the processor is idle. -/
theorem wp_completeCurrentInner (settled : Settled s) (cpu : CpuId) :
    wp (completeCurrentInner cpu) (fun _ s' => Stays s s') (fun _ _ => True) s := by
  obtain ⟨places, shaped⟩ := settled.shaped
  unfold completeCurrentInner
  simp only [wp_bind, wp_read, wp_update, wp_pure, wp_bump]
  refine wp_noPending (fun idle => ?_) (fun _ => trivial)
  refine wp_online (fun _ => ?_) (fun _ => trivial)
  refine wp_lift_intro (fun id taken => ?_) (fun _ _ => trivial)
  cases current : s.current cpu with
  | none =>
    rw [current] at taken
    cases taken
  | some id' =>
  rw [current] at taken
  obtain rfl : id' = id := Except.ok.inj taken
  obtain ⟨slot, rfl, items⟩ := shaped.current_eq current
  have member : slot ∈ places.items (.running cpu) := items ▸ mem_singleton_self slot
  have fits : Fits (s.tasks slot) (.running cpu) := shaped.fits member
  have epoch : (s.tasks slot).ownerEpoch ≠ 0 := by
    rcases (shaped.stands slot (by simp)).1 with dormant | ⟨_, nonzero⟩
    · rw [fits.2.1] at dormant
      cases dormant
    · exact nonzero
  refine wp_index_idOf slot rfl fits.1 ?_
  refine wp_ensure_intro (fun _ => ?_) (fun _ => trivial)
  refine wp_bury (s := s) (shaped.leave_running items) (absent_leave member) rfl rfl rfl rfl
    idle fits.1 epoch (fun slot' _ => settled.still slot') (fun _ s' settled' ended _ => ?_)
    (fun _ _ _ => trivial)
  exact ⟨idle, settled', ended.transaction⟩

theorem wp_completeCurrent (sound : Sound s) (cpu : CpuId) :
    wp (completeCurrent cpu) (fun _ s' => Stays s s') (Kept s) s := by
  apply wp_transact
  cases pending : s.pending with
  | none =>
    exact wp_mono (wp_completeCurrentInner (sound.settled pending) cpu)
      (fun _ _ kept => kept) (fun _ _ _ => rfl)
  | some ticket =>
    unfold completeCurrentInner
    simp only [wp_bind]
    refine wp_noPending (fun idle => ?_) (fun _ => rfl)
    rw [pending] at idle
    cases idle

theorem wp_dispatchLocal (sound : Sound s) (cpu : CpuId) :
    wp (dispatchLocal cpu) (fun _ s' => Stays s s') (Kept s) s := by
  obtain ⟨places, shaped⟩ := sound.shaped
  apply wp_transact
  simp only [wp_bind, wp_read, wp_update, wp_bump]
  refine wp_noPending (fun idle => ?_) (fun _ => rfl)
  refine wp_online (fun awake => ?_) (fun _ => rfl)
  refine wp_ensure_intro (fun free => ?_) (fun _ => rfl)
  have settled := sound.settled idle
  by_cases empty : (places.items (.queue cpu)).length = 0
  · rw [pick_empty shaped empty, wp_lift_error]
    rfl
  obtain ⟨index, next, picked, removed, best⟩ := pick_removeAt shaped (Nat.pos_of_ne_zero empty)
  have member : next ∈ places.items (.queue cpu) := argmax_mem best
  have fits : Fits (s.tasks next) (.queue cpu) := shaped.fits member
  have absent := absent_leave member
  rw [picked, wp_lift_ok, removed, wp_lift_ok]
  set queue : Queue := Slots.ofList (((places.items (.queue cpu)).erase next).map s.idOf) with stored
  refine wp_index_idOf next rfl fits.1 ?_
  refine wp_advanceEpoch (fun _ => ?_) (fun _ => rfl)
  rw [setTask_setTask]
  refine wp_advanceDispatches (fun _ => ?_) (fun _ => rfl)
  rw [setTask_setTask, setTask_setTask, setTask_here, setTask_here, setQueue_tasks]
  set f : Task → Task := fun task =>
    { task with
      state := .running
      ownerEpoch := (s.tasks next).ownerEpoch + 1
      queuedCpu := none
      bypassCount := 0
      dispatchCount := (s.tasks next).dispatchCount + 1 }
  set s₁ := (s.setQueue cpu queue).setTask next f
  have here : s₁.tasks next = f (s.tasks next) := setTask_here (s.setQueue cpu queue) next f
  have ids : s₁.idOf = s.idOf := setTask_idOf (s.setQueue cpu queue) next rfl
  have risen : Shaped s₁ (places.leave (.queue cpu) next) (some next) :=
    (shaped.leave_queue stored).rewrite absent (Nat.zero_le _)
      (fun _ => shaped.affinity next fits.1)
  have placed := risen.join_running absent cpu free.2
    (by rw [here]; exact ⟨fits.1, rfl, rfl, fits.2.2.2.1, fits.2.2.2.2⟩)
    (by rw [here]; exact Nat.succ_ne_zero _) (by rw [here]) awake
  rw [ids] at placed
  refine wp_count _ _ (fun _ => ?_) (fun _ => rfl)
  refine wp_count _ _ (fun _ => ?_) (fun _ => rfl)
  set s₂ := SmpScheduler.bumpSequence { s₁.setCurrent cpu (some (s.idOf next)) with
    dispatchCount := s.dispatchCount + 1, bspDispatchCount := s.bspDispatchCount + 1 }
  have settled' : Settled s₂ := by
    refine ⟨⟨_, placed.quiet ⟨rfl, rfl, rfl, rfl⟩⟩, idle, ?_⟩
    intro slot' transfer
    have there : s₂.tasks = s₁.tasks := rfl
    rw [there] at transfer
    by_cases same : slot' = next
    · rw [same, here] at transfer
      cases transfer
    · have other : s₁.tasks slot' = s.tasks slot' := setTask_other (s.setQueue cpu queue) f same
      rw [other] at transfer
      exact settled.still slot' transfer
  refine wp_check settled'.valid ?_
  refine wp_mono (wp_completeCurrentInner settled' cpu) (fun _ s' stays => ?_) (fun _ _ _ => rfl)
  exact ⟨idle, stays.settled, stays.transaction⟩

theorem wp_offlineIdleCpu (sound : Sound s) (cpu : CpuId) :
    wp (offlineIdleCpu cpu) (fun _ s' => Stays s s') (Kept s) s := by
  obtain ⟨places, shaped⟩ := sound.shaped
  unfold offlineIdleCpu
  simp only [wp_bind, wp_read, wp_update, wp_bump]
  refine wp_noPending (fun idle => ?_) (fun _ => rfl)
  refine wp_online (fun _ => ?_) (fun _ => rfl)
  refine wp_ensure_intro (fun free => ?_) (fun _ => rfl)
  have settled := sound.settled idle
  have masks : ∀ mask : BitVec 8, ∀ other cpu : CpuId,
      (Allows (mask &&& ~~~cpu.mask) other ↔ Allows mask other ∧ other ≠ cpu) ∧
        (Within mask onlineMaskAll → Within (mask &&& ~~~cpu.mask) onlineMaskAll) := by
    decide +kernel
  have empty : ∀ {seat slot}, slot ∈ places.items seat → seat.cpu ≠ cpu := by
    intro seat slot member same
    cases seat with
    | queue other =>
      have length := queue_len shaped other
      rw [show other = cpu from same, free.2.2] at length
      rw [show other = cpu from same] at member
      exact absurd (length_pos_of_mem member) (by omega)
    | running other =>
      have current := shaped.current_of_mem member
      rw [show other = cpu from same, free.2.1] at current
      cases current
  have settled' : Settled (SmpScheduler.bumpSequence { s with
      onlineMask := s.onlineMask &&& ~~~cpu.mask }) := by
    refine ⟨⟨places, shaped.queues, shaped.running, shaped.fits, shaped.stands, shaped.aged,
      shaped.affinity, ⟨?_, ?_⟩, ?_⟩, idle, settled.still⟩
    · exact (masks s.onlineMask 0 cpu).1.mpr ⟨shaped.online.1, fun same => free.1 (same ▸ rfl)⟩
    · exact (masks s.onlineMask 0 cpu).2 shaped.online.2
    · intro seat slot member
      exact (masks s.onlineMask seat.cpu cpu).1.mpr ⟨shaped.awake member, empty member⟩
  exact wp_check settled'.valid ⟨idle, settled', rfl⟩

theorem wp_rejectStaleAck (sound : Sound s) (ticket : TransferTicket) (ack : RemoteAck) :
    wp (rejectStaleAck ticket ack) (fun _ s' => Stays s s') (Kept s) s := by
  unfold rejectStaleAck
  simp only [wp_bind, wp_read, wp_bump]
  refine wp_ensure_intro (fun idle => ?_) (fun _ => rfl)
  have refused : (acknowledge ticket ack).run s = (.error .pendingMissing, s) := by
    unfold acknowledge acknowledgeExpected
    simp [run_bind, idle]
  have tried : wp (attempt (acknowledge ticket ack))
      (fun result s' => result = .error .pendingMissing ∧ s' = s) (fun _ _ => False) s := by
    unfold wp attempt
    simp only [refused, and_self]
  refine wp_mono tried ?_ (fun _ _ never => never.elim)
  rintro _ _ ⟨rfl, rfl⟩
  refine wp_count _ _ (fun _ => ?_) (fun _ => rfl)
  exact ⟨idle, (sound.settled idle).quiet ⟨rfl, rfl, rfl, rfl⟩ rfl, rfl⟩

/-- A snapshot changes nothing but the count of stale identities. -/
theorem wp_taskSnapshot (s : SmpScheduler) (id : TaskId) : wp (taskSnapshot id) (fun _ s' => s' = s)
      (fun _ s' => s' = { s with staleRejectionCount := s'.staleRejectionCount }) s := by
  unfold taskSnapshot
  simp only [wp_bind, wp_read]
  split
  · rfl
  · simp only [wp_bind, wp_fail]
    refine wp_count _ _ (fun _ => ?_) (fun _ => rfl)
    rfl
  · rfl

end PooleOS.Smp
