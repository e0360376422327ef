import PooleOS.Smp.Ops

/- Staging and settling of tickets. A ticket is issued exactly when its trial
commit succeeds, and it is settled by its own acknowledgement or timeout. -/
namespace PooleOS.Smp

open List Op Option Slots Places
open SmpScheduler

variable {s : SmpScheduler} {places : Places Seat Slot} {ticket : TransferTicket} {slot : Slot}
  {target : CpuId}

/-- The fields of an acknowledgement that a ticket and a remote operation fix. -/
def Matches (ticket : TransferTicket) (ack : RemoteAck) (operation result : Nat) : Prop :=
  ack.targetCpu = ticket.targetCpu ∧ ack.attempt = ticket.requestAttempt ∧
    ack.sequence = ticket.requestSequence ∧ ack.operation = operation ∧
    ack.status = ackAccepted ∧ ack.error = errorNone ∧ ack.result = result

instance (ticket : TransferTicket) (ack : RemoteAck) (operation result : Nat) :
    Decidable (Matches ticket ack operation result) := inferInstanceAs (Decidable (_ ∧ _))

theorem Sound.held (sound : Sound s) (pending : s.pending = some ticket) :
    ∃ slot target, Held s ticket slot target := by
  rcases sound with settled | ⟨ticket', slot, target, held⟩
  · cases settled.idle.symm.trans pending
  · obtain rfl := some.inj (held.pending.symm.trans pending)
    exact ⟨slot, target, held⟩

/-- A probe cannot be acknowledged. -/
theorem wp_commit_probe (probe : ticket.kind = .offlineProbe) :
    wp (commitAcknowledgement ticket) (fun _ _ => False) (fun _ _ => True) s := by
  unfold commitAcknowledgement
  simp only [wp_bind, wp_read]
  refine wp_index (fun slot _ _ => ?_) (fun _ => trivial)
  refine wp_ensure_intro (fun _ => ?_) (fun _ => trivial)
  refine wp_lift_intro (fun target _ => ?_) (fun _ _ => trivial)
  unfold commitKind
  rw [probe]
  exact trivial

theorem wp_acknowledgeExpected (sound : Sound s) (ticket : TransferTicket) (ack : RemoteAck) (operation result : Nat) :
    wp (acknowledgeExpected ticket ack operation result)
      (fun _ s' => Matches ticket ack operation result ∧ ticket.kind ≠ .offlineProbe ∧
        ∃ slot target, Held s ticket slot target ∧ Committed s s' ticket slot target)
      (fun _ s' => s' = s ∧ (s.pending = some ticket → ticket.kind ≠ .offlineProbe →
        ¬ Matches ticket ack operation result)) s := by
  unfold acknowledgeExpected
  simp only [wp_bind, wp_read]
  cases pending : s.pending with
  | none =>
    exact ⟨rfl, fun present => by cases present⟩
  | some held =>
  refine wp_ensure_intro (fun same => ?_) (fun differs => ⟨rfl, fun equal => ?_⟩)
  · subst same
    refine wp_ensure_intro (fun exact' => ?_) (fun wrong => ⟨rfl, fun _ _ => wrong⟩)
    apply wp_transact
    by_cases probe : held.kind = .offlineProbe
    · exact wp_mono (wp_commit_probe probe) (fun _ _ never => never.elim)
        (fun _ _ _ => ⟨rfl, fun _ other => absurd probe other⟩)
    · obtain ⟨slot, target, holds⟩ := sound.held pending
      obtain ⟨places, shaped⟩ := holds.shaped
      refine wp_mono (wp_commitAcknowledgement shaped holds.staged probe) ?_ ?_
      · intro _ s' both
        exact ⟨exact', probe, slot, target, holds, both.2⟩
      · intro _ _ full
        exact absurd holds.afford full
  · exact absurd (some.inj equal) differs

theorem wp_timeout (sound : Sound s) (ticket : TransferTicket) : wp (timeout ticket)
      (fun _ s' => s.pending = some ticket ∧ ticket.kind = .offlineProbe ∧ Settled s' ∧ Quiet s s' ∧
        s'.transaction = s.transaction)
      (fun _ s' => s' = s ∧ (s.pending = some ticket → ticket.kind ≠ .offlineProbe)) s := by
  apply wp_transact
  by_cases mine : s.pending = some ticket ∧ ticket.kind = .offlineProbe
  · obtain ⟨slot, target, held⟩ := sound.held mine.1
    obtain ⟨places, shaped⟩ := held.shaped
    refine wp_mono (wp_timeoutInner shaped held.staged mine.1 mine.2) ?_ ?_
    · intro _ s' both
      exact ⟨mine.1, mine.2, both.2⟩
    · intro _ _ full
      exact absurd held.afford full
  · have other : s.pending = some ticket → ticket.kind ≠ .offlineProbe :=
      fun pending probe => mine ⟨pending, probe⟩
    unfold timeoutInner
    simp only [wp_bind, wp_read]
    cases pending : s.pending with
    | none =>
      exact ⟨trivial, fun present => by cases present⟩
    | some held =>
      refine wp_ensure_intro (fun both => ?_) (fun _ => ⟨trivial, fun present => ?_⟩)
      · exact absurd both.2 (other (pending.trans (congrArg some both.1)))
      · exact other (pending.trans present)

/-- The ticket that `install_pending` makes. -/
def newTicket (s : SmpScheduler) (kind : TransferKind) (slot : Slot) (sourceCpu targetCpu
    requestAttempt requestSequence : Nat) : TransferTicket :=
  { transaction := s.transaction + 1, kind, task := s.idOf slot, sourceCpu, targetCpu,
    ownerEpoch := (s.tasks slot).ownerEpoch, requestAttempt, requestSequence }

/-- What a request for a ticket must bring: numbers, a transaction left, and counters with room. -/
def Issuable (s : SmpScheduler) (kind : TransferKind) (slot : Slot) (target : CpuId) (attempt sequence : Nat) : Prop :=
  (attempt ≠ 0 ∧ sequence ≠ 0) ∧ s.transaction + 1 < u64Values ∧ Affordable s kind slot target

/-- A ticket has been issued and is pending. -/
structure Issued (s s' : SmpScheduler) (ticket : TransferTicket) (slot : Slot) (target : CpuId) : Prop where
  held : Held s' ticket slot target
  number : ticket.transaction = s.transaction + 1
  transaction : s'.transaction = s.transaction + 1

theorem wp_installPending (shaped : Shaped s places none) {kind : TransferKind}
    {sourceCpu targetCpu attempt sequence : Nat} (used : (s.tasks slot).generation ≠ 0)
    (staged : Staged s (newTicket s kind slot sourceCpu targetCpu attempt sequence) slot target) :
    wp (installPending kind (s.idOf slot) sourceCpu targetCpu attempt sequence)
      (fun ticket s' => ticket = newTicket s kind slot sourceCpu targetCpu attempt sequence ∧
        Issuable s kind slot target attempt sequence ∧ Issued s s' ticket slot target ∧ Quiet s s')
      (fun _ s' => s' = s ∧ ¬ Issuable s kind slot target attempt sequence) s := by
  unfold installPending
  simp only [wp_bind, wp_read, wp_pure]
  refine wp_ensure_intro (fun asked => ?_) (fun none' => ⟨rfl, fun able => none' able.1⟩)
  by_cases left : s.transaction + 1 < u64Values
  · rw [checkedAdd_eq_some.mpr ⟨left, rfl⟩, orError_some, wp_lift_ok]
    refine wp_index_idOf slot rfl used ?_
    apply wp_transact
    simp only [wp_bind, wp_update, wp_bump]
    set ticket := newTicket s kind slot sourceCpu targetCpu attempt sequence with ticketDef
    set s₁ := SmpScheduler.bumpSequence { s with
      transaction := s.transaction + 1, pending := some ticket } with s₁Def
    have quiet : Quiet s s₁ := ⟨rfl, rfl, rfl, rfl⟩
    have staged₁ : Staged s₁ ticket slot target := staged.quiet quiet
    have shaped₁ : Shaped s₁ places none := shaped.quiet quiet
    have transfers : Transfers s₁ := by
      exact ⟨slot, staged₁.task, staged₁.used, staged₁.state, staged₁.alone⟩
    have rooms : Affordable s₁ kind slot target ↔ Affordable s kind slot target := .rfl
    refine wp_check (validate_ok shaped₁ transfers) ?_
    rw [wp_dryRun]
    have finish : Affordable s₁ kind slot target →
        ticket = newTicket s kind slot sourceCpu targetCpu attempt sequence ∧
          Issuable s kind slot target attempt sequence ∧ Issued s s₁ ticket slot target ∧
          Quiet s s₁ := fun afford =>
      ⟨rfl, ⟨asked, left, rooms.mp afford⟩, ⟨⟨⟨places, shaped₁⟩, rfl, staged₁, afford, le_refl _⟩, rfl, rfl⟩, quiet⟩
    by_cases probe : kind = .offlineProbe
    · rw [if_pos probe]
      refine wp_mono (wp_timeoutInner shaped₁ staged₁ rfl probe) ?_ ?_
      · intro _ _ both
        exact finish both.1
      · intro _ _ full
        exact ⟨trivial, fun able => full (rooms.mpr able.2.2)⟩
    · rw [if_neg probe]
      refine wp_mono (wp_commitAcknowledgement shaped₁ staged₁ probe) ?_ ?_
      · intro _ _ both
        exact finish both.1
      · intro _ _ full
        exact ⟨trivial, fun able => full (rooms.mpr able.2.2)⟩
  · rw [checkedAdd_eq_none.mpr (Nat.le_of_not_lt left), orError_none, wp_lift_error]
    exact ⟨rfl, fun able => left able.2.1⟩

/-- A ticket of this kind for this task, with its target and its request numbers. -/
structure Ticketed (s s' : SmpScheduler) (ticket : TransferTicket) (kind : TransferKind)
    (slot : Slot) (target : CpuId) : Prop where
  issued : Issued s s' ticket slot target
  kind : ticket.kind = kind
  task : ticket.task = s.idOf slot
  quiet : Quiet s s'

/-- A blocked task may be woken on this processor. -/
def Wakeable (s : SmpScheduler) (slot : Slot) (target : CpuId) : Prop :=
  (s.tasks slot).state = .blocked ∧ Allows (s.tasks slot).affinityMask target ∧
    Allows s.onlineMask target

theorem wp_stageWake (sound : Sound s) (id : TaskId) (target : CpuId) (attempt sequence : Nat) :
    wp (stageWake id target attempt sequence)
      (fun ticket s' => s.pending = none ∧ ∃ slot, id = s.idOf slot ∧ Wakeable s slot target ∧
        Ticketed s s' ticket .wake slot target) (fun _ s' => s' = s ∧ (s.pending = none → ∀ slot, id = s.idOf slot →
        (s.tasks slot).generation ≠ 0 → Wakeable s slot target →
        ¬ Issuable s .wake slot target attempt sequence)) s := by
  obtain ⟨places, shaped⟩ := sound.shaped
  unfold stageWake
  simp only [wp_bind, wp_read]
  refine wp_noPending (fun idle => ?_) (fun busy => ⟨rfl, fun idle => absurd idle busy⟩)
  refine wp_online (fun awake => ?_)
    (fun offline => ⟨rfl, fun _ slot _ _ able => absurd able.2.2 offline⟩)
  refine wp_index_known (fun slot same used => ?_)
    (fun _ unknown => ⟨rfl, fun _ slot same used => absurd (unknown slot same) used⟩)
  have only : ∀ slot', id = s.idOf slot' → slot' = slot :=
    fun slot' other => idOf_injective s (other.symm.trans same)
  refine wp_ensure_intro (fun ready => ?_) (fun refused => ⟨rfl, fun _ slot' other _ able => ?_⟩)
  · obtain ⟨cpu, owner⟩ : ∃ cpu, (s.tasks slot).ownerCpu = some cpu := by
      have stands := (shaped.stands slot (by simp)).2
      rw [ready.1] at stands
      exact ne_none_iff_exists'.mp stands.1
    rw [owner, orError_some, wp_lift_ok, same]
    have staged : Staged s (newTicket s .wake slot cpu.val target.val attempt sequence) slot target :=
      ⟨rfl, used, rfl, ready.1, fun slot' transfer =>
        absurd transfer ((sound.settled idle).still slot'), rfl, ready.2, awake⟩
    refine wp_mono (wp_installPending shaped used staged) ?_ ?_
    · rintro ticket s' ⟨rfl, _, issued, quiet⟩
      exact ⟨idle, slot, rfl, ⟨ready.1, ready.2, awake⟩, issued, rfl, rfl, quiet⟩
    · rintro _ s' ⟨rfl, refused⟩
      refine ⟨rfl, fun _ slot' other _ _ => ?_⟩
      rw [only slot' (same ▸ other)]
      exact refused
  · rw [only slot' other] at able
    exact absurd ⟨able.1, able.2.1⟩ refused

/-- A queued task may be moved to another processor. -/
def Movable (s : SmpScheduler) (slot : Slot) (target : CpuId) : Prop :=
  (s.tasks slot).state = .runnable ∧ Allows (s.tasks slot).affinityMask target ∧
    Allows s.onlineMask target ∧ (s.tasks slot).queuedCpu ≠ some target

theorem wp_stageMigration (sound : Sound s) (id : TaskId) (target : CpuId) (attempt sequence : Nat) :
    wp (stageMigration id target attempt sequence)
      (fun ticket s' => s.pending = none ∧ ∃ slot, id = s.idOf slot ∧ Movable s slot target ∧
        Ticketed s s' ticket .migration slot target)
      (fun _ s' => s' = s ∧ (s.pending = none → ∀ slot, id = s.idOf slot →
        (s.tasks slot).generation ≠ 0 → Movable s slot target →
        ¬ Issuable s .migration slot target attempt sequence)) s := by
  obtain ⟨places, shaped⟩ := sound.shaped
  unfold stageMigration
  simp only [wp_bind, wp_read]
  refine wp_noPending (fun idle => ?_) (fun busy => ⟨rfl, fun idle => absurd idle busy⟩)
  refine wp_online (fun awake => ?_)
    (fun offline => ⟨rfl, fun _ slot _ _ able => absurd able.2.2.1 offline⟩)
  refine wp_index_known (fun slot same used => ?_)
    (fun _ unknown => ⟨rfl, fun _ slot same used => absurd (unknown slot same) used⟩)
  have only : ∀ slot', id = s.idOf slot' → slot' = slot :=
    fun slot' other => idOf_injective s (other.symm.trans same)
  refine wp_ensure_intro (fun ready => ?_) (fun refused => ⟨rfl, fun _ slot' other _ able => ?_⟩)
  · obtain ⟨cpu, member⟩ := shaped.queued ready.1
    have queued : (s.tasks slot).queuedCpu = some cpu := (shaped.fits member).2.2.1
    have listed : ((s.queues cpu).position id).isSome := by
      rw [isSome_iff_ne_none, same, shaped.queues]
      rw [Ne, position_ofList_none (Shaped.length_le places _)]
      exact fun absent => absent (mem_map_of_mem member)
    rw [queued, orError_some, wp_lift_ok]
    refine wp_ensure_intro (fun differs => ?_) (fun equal => ⟨rfl, fun _ slot' other _ able => ?_⟩)
    · refine wp_ensure_intro (fun _ => ?_) (fun missing => absurd listed missing)
      rw [same]
      have staged : Staged s (newTicket s .migration slot cpu.val target.val attempt sequence) slot
          target :=
        ⟨rfl, used, rfl, ready.1, fun slot' transfer =>
          absurd transfer ((sound.settled idle).still slot'), rfl, ready.2, awake,
          congrArg (Option.map Fin.val) queued⟩
      refine wp_mono (wp_installPending shaped used staged) ?_ ?_
      · rintro ticket s' ⟨rfl, _, issued, quiet⟩
        refine ⟨idle, slot, rfl, ⟨ready.1, ready.2, awake, ?_⟩, issued, rfl, rfl, quiet⟩
        rw [queued]
        exact fun equal => differs (some.inj equal)
      · rintro _ s' ⟨rfl, refused⟩
        refine ⟨rfl, fun _ slot' other _ _ => ?_⟩
        rw [only slot' (same ▸ other)]
        exact refused
    · rw [only slot' other] at able
      exact absurd (queued.trans (congrArg some (not_not.mp equal))) able.2.2.2
  · rw [only slot' other] at able
    exact absurd ⟨able.1, able.2.1⟩ refused

theorem wp_stageOfflineProbe (sound : Sound s) (id : TaskId) (targetCpu attempt sequence : Nat) :
    wp (stageOfflineProbe id targetCpu attempt sequence)
      (fun ticket s' => s.pending = none ∧ ∃ slot, Ticketed s s' ticket .offlineProbe slot 0) (Kept s) s := by
  obtain ⟨places, shaped⟩ := sound.shaped
  unfold stageOfflineProbe
  simp only [wp_bind, wp_read]
  refine wp_noPending (fun idle => ?_) (fun _ => rfl)
  refine wp_ensure_intro (fun _ => ?_) (fun _ => rfl)
  refine wp_index (fun slot same used => ?_) (fun _ => rfl)
  refine wp_ensure_intro (fun state => ?_) (fun _ => rfl)
  obtain ⟨cpu, member⟩ := shaped.queued state
  have queued : (s.tasks slot).queuedCpu = some cpu := (shaped.fits member).2.2.1
  rw [queued, orError_some, wp_lift_ok, same]
  have staged : Staged s (newTicket s .offlineProbe slot cpu.val targetCpu attempt sequence) slot 0 :=
    ⟨rfl, used, rfl, state, fun slot' transfer =>
      absurd transfer ((sound.settled idle).still slot'), congrArg (Option.map Fin.val) queued⟩
  refine wp_mono (wp_installPending shaped used staged) ?_ ?_
  · rintro ticket s' ⟨rfl, _, issued, quiet⟩
    exact ⟨idle, slot, issued, rfl, rfl, quiet⟩
  · rintro _ s' ⟨rfl, _⟩
    exact rfl

/-- The task on a processor can be preempted: another one waits there and the counters that the
commit advances have room. -/
structure Preemptable (s : SmpScheduler) (cpu : CpuId) (attempt sequence : Nat) (slot : Slot) : Prop where
  idle : s.pending = none
  awake : Allows s.onlineMask cpu
  running : s.current cpu = some (s.idOf slot)
  waiting : (s.queues cpu).len ≠ 0
  issuable : Issuable s .preempt slot cpu attempt sequence

theorem wp_stagePreempt (sound : Sound s) (cpu : CpuId) (attempt sequence : Nat) :
    wp (stagePreempt cpu attempt sequence) (fun ticket s' => ∃ slot, Preemptable s cpu attempt sequence slot ∧
        Ticketed s s' ticket .preempt slot cpu)
      (fun _ s' => s' = s ∧ ∀ slot, ¬ Preemptable s cpu attempt sequence slot) s := by
  obtain ⟨places, shaped⟩ := sound.shaped
  unfold stagePreempt
  simp only [wp_bind, wp_read]
  refine wp_noPending (fun idle => ?_) (fun busy => ⟨rfl, fun _ able => busy able.idle⟩)
  refine wp_online (fun awake => ?_) (fun offline => ⟨rfl, fun _ able => offline able.awake⟩)
  cases current : s.current cpu with
  | none =>
    exact ⟨rfl, fun _ able => by cases current.symm.trans able.running⟩
  | some id =>
  refine wp_ensure_intro (fun waiting => ?_)
    (fun empty => ⟨rfl, fun _ able => empty able.waiting⟩)
  obtain ⟨slot, rfl, items⟩ := shaped.current_eq current
  have member : slot ∈ places.items (.running cpu) := items ▸ mem_singleton_self slot
  have fits : Fits (s.tasks slot) (.running cpu) := shaped.fits member
  have staged : Staged s (newTicket s .preempt slot cpu.val cpu.val attempt sequence) slot cpu :=
    ⟨rfl, fits.1, rfl, fits.2.1, fun slot' transfer =>
      absurd transfer ((sound.settled idle).still slot'), rfl, current⟩
  refine wp_mono (wp_installPending shaped fits.1 staged) ?_ ?_
  · rintro ticket s' ⟨rfl, able, issued, quiet⟩
    exact ⟨slot, ⟨idle, awake, current, waiting, able⟩, issued, rfl, rfl, quiet⟩
  · rintro _ s' ⟨rfl, refused⟩
    refine ⟨rfl, fun slot' able => refused ?_⟩
    obtain rfl := idOf_injective _ (some.inj (current.symm.trans able.running))
    exact able.issuable

/-- What `peek_dispatch` promises about the identity it returns. -/
theorem peekDispatch_ok (shaped : Shaped s places none) {cpu : CpuId} {attempt sequence : Nat}
    {id : TaskId} (peeked : s.peekDispatch cpu attempt sequence = .ok id) :
    s.pending = none ∧ Allows s.onlineMask cpu ∧ s.current cpu = none ∧
      ∃ next, id = s.idOf next ∧ (places.items (.queue cpu)).argmax s.rank = some next := by
  unfold peekDispatch requireNoPending requireOnline at peeked
  cases pending : s.pending with
  | some ticket =>
    rw [pending] at peeked
    cases peeked
  | none =>
  rw [pending] at peeked
  by_cases awake : Allows s.onlineMask cpu
  · rw [if_pos awake] at peeked
    change (if s.current cpu ≠ none then _ else _) = _ at peeked
    by_cases idle : s.current cpu = none
    · rw [if_neg (not_not.mpr idle)] at peeked
      refine ⟨rfl, awake, idle, ?_⟩
      split at peeked
      · cases peeked
      · obtain ⟨index, chosen, rest⟩ := bind_eq_ok peeked
        obtain ⟨id', stored, rest⟩ := bind_eq_ok rest
        obtain ⟨_, _, rest⟩ := bind_eq_ok rest
        obtain ⟨_, _, rest⟩ := bind_eq_ok rest
        obtain ⟨_, _, returned⟩ := bind_eq_ok rest
        obtain rfl : id' = id := Except.ok.inj returned
        by_cases empty : (places.items (.queue cpu)).length = 0
        · rw [pick_empty shaped empty] at chosen
          cases chosen
        · obtain ⟨cursor, picked, best⟩ := pick_ok shaped (Nat.pos_of_ne_zero empty)
          obtain rfl : index = cursor.val := Except.ok.inj (chosen.symm.trans picked)
          rw [queue_get shaped cpu cursor, orError_some] at stored
          exact ⟨_, (Except.ok.inj stored).symm, best⟩
    · rw [if_pos idle] at peeked
      cases peeked
  · rw [if_neg awake] at peeked
    cases peeked

/-- The first choice of a processor's queue can be dispatched: the processor is free to take it
and the counters that its commit advances have room. -/
structure Dispatchable (s : SmpScheduler) (cpu : CpuId) (attempt sequence : Nat) (slot : Slot) : Prop where
  idle : s.pending = none
  awake : Allows s.onlineMask cpu
  free : s.current cpu = none
  best : (s.waiting cpu).argmax s.rank = some slot
  issuable : Issuable s .dispatch slot cpu attempt sequence

/-- Once the first choice is gone, every task of its priority can be bypassed once more. -/
theorem Shaped.choice_room (shaped : Shaped s places none) {cpu : CpuId} {next : Slot}
    (best : (places.items (.queue cpu)).argmax s.rank = some next) (member : slot ∈ places.items (.queue cpu))
    (differs : slot ≠ next) (equal : (s.tasks slot).priority = (s.tasks next).priority) :
    (s.tasks slot).bypassCount < maxEqualPriorityBypass := by
  have inside : next ∈ places.items (.queue cpu) := argmax_mem best
  have left : Shaped (s.setQueue cpu (ofList
      (((places.items (.queue cpu)).erase next).map s.idOf))) (places.leave (.queue cpu) next)
      (some next) := shaped.leave_queue rfl
  refine left.bypass_room (absent_leave inside) (shaped.fits inside).2.1 ?_
    ((mem_leave ..).mpr ⟨member, fun both => differs both.2⟩) equal
  intro other there same
  exact oldest_of_argmax best ((mem_leave ..).mp there).1 same

/-- The bypass check of `peek_dispatch` refuses nothing. -/
theorem Dispatchable.peek (shaped : Shaped s places none) {cpu : CpuId} {attempt sequence : Nat}
    (able : Dispatchable s cpu attempt sequence slot) : s.peekDispatch cpu attempt sequence = .ok (s.idOf slot) := by
  have best := able.best
  rw [waiting_eq shaped] at best
  have asked := able.issuable.1
  have nonempty : 0 < (places.items (.queue cpu)).length :=
    length_pos_of_mem (argmax_mem best)
  obtain ⟨cursor, picked, chosen⟩ := pick_ok shaped nonempty
  obtain rfl : slot = (places.items (.queue cpu)).get cursor :=
    some.inj (best.symm.trans chosen)
  set slot := (places.items (.queue cpu)).get cursor
  have checks : (s.queues cpu).live.forM (fun other => do
      let task := s.tasks (← s.taskIndex other)
      if other ≠ s.idOf slot ∧ task.priority = (s.tasks slot).priority then do
        let value ← orError (checkedAdd u8Values task.bypassCount 1) Error.counter
        if value ≤ maxEqualPriorityBypass then .ok () else .error .counter
      else .ok ()) = .ok () := by
    refine forM_ok (fun other listed => ?_)
    rw [shaped.queues, live_ofList (Shaped.length_le places _)] at listed
    obtain ⟨other, member, rfl⟩ := mem_map.mp listed
    rw [shaped.taskIndex_fits member]
    change (if _ then _ else _) = _
    split
    · rename_i counted
      have differs : other ≠ slot := fun same => counted.1 (congrArg s.idOf same)
      have low := shaped.choice_room best member differs counted.2
      have fits : (s.tasks other).bypassCount + 1 < u8Values := by
        unfold maxEqualPriorityBypass at low
        unfold u8Values
        omega
      rw [checkedAdd_eq_some.mpr ⟨fits, rfl⟩, orError_some]
      exact if_pos (Nat.succ_le_of_lt low)
    · rfl
  unfold peekDispatch requireNoPending requireOnline
  rw [able.idle, if_pos able.awake]
  change (if s.current cpu ≠ none then _ else _) = _
  rw [if_neg (not_not.mpr able.free), if_neg (by omega), picked]
  change (orError ((s.queues cpu).get cursor.val) Error.invariant >>= _) = _
  rw [queue_get shaped cpu cursor, orError_some]
  change (orError (checkedAdd u64Values s.transaction 1) Error.counter >>= fun _ =>
    s.taskIndex (s.idOf slot) >>= _) = _
  rw [checkedAdd_eq_some.mpr ⟨able.issuable.2.1, rfl⟩, orError_some]
  rw [shaped.taskIndex_fits (argmax_mem best)]
  change ((s.queues cpu).live.forM _ >>= _ : Except Error TaskId) = _
  rw [checks]
  rfl

theorem wp_stageDispatch (sound : Sound s) (cpu : CpuId) (attempt sequence : Nat) :
    wp (stageDispatch cpu attempt sequence) (fun ticket s' => ∃ slot, Dispatchable s cpu attempt sequence slot ∧
        Issued s s' ticket slot cpu ∧ ticket.kind = .dispatch)
      (fun _ s' => s' = s ∧ ∀ slot, ¬ Dispatchable s cpu attempt sequence slot) s := by
  obtain ⟨places, shaped⟩ := sound.shaped
  apply wp_transact
  simp only [wp_bind, wp_read, wp_update]
  refine wp_lift_intro (fun id peeked => ?_) (fun _ refused => ⟨trivial, fun slot able => ?_⟩)
  case refine_2 =>
    rw [able.peek shaped] at refused
    cases refused
  obtain ⟨idle, awake, free, next, rfl, best⟩ := peekDispatch_ok shaped peeked
  have settled := sound.settled idle
  have member : next ∈ places.items (.queue cpu) := argmax_mem best
  have fits : Fits (s.tasks next) (.queue cpu) := shaped.fits member
  have absent : (places.leave (.queue cpu) next).Absent next := absent_leave member
  have epoch : (s.tasks next).ownerEpoch ≠ 0 := by
    rcases (shaped.stands next (by simp)).1 with dormant | ⟨_, nonzero⟩
    · rw [fits.2.1] at dormant
      cases dormant
    · exact nonzero
  rw [remove_ok shaped member, wp_lift_ok]
  set queue : Queue := ofList (((places.items (.queue cpu)).erase next).map s.idOf) with stored
  set s₁ := s.setQueue cpu queue
  have left : Shaped s₁ (places.leave (.queue cpu) next) (some next) := shaped.leave_queue stored
  have oldest : ∀ slot ∈ (places.leave (.queue cpu) next).items (.queue cpu),
      (s₁.tasks slot).priority = (s₁.tasks next).priority →
      (s₁.tasks slot).bypassCount ≤ (s₁.tasks next).bypassCount := by
    intro slot inside equal
    exact oldest_of_argmax best ((mem_leave ..).mp inside).1 equal
  refine wp_index_idOf next rfl fits.1 ?_
  refine wp_bypass_rest left absent fits.2.1 oldest (fun maximum => ?_)
  set f : Task → Task := fun task => { task with state := .transfer, queuedCpu := none }
  set s₂ := (afterBypass s₁ ((places.leave (.queue cpu) next).items (.queue cpu))
    (s₁.tasks next).priority maximum).setTask next f with s₂Def
  have here : s₂.tasks next = f (s.tasks next) := by
    rw [s₂Def, setTask_here, afterBypass_tasks, bypassed_other (absent _)]
    rfl
  have others : ∀ slot, slot ≠ next → (s₂.tasks slot).state = (s.tasks slot).state := by
    intro slot differs
    rw [s₂Def, setTask_other _ _ differs, afterBypass_tasks]
    unfold bypassed
    split <;> rfl
  have id : s.idOf next = s₂.idOf next := by
    simp only [idOf, Task.id, here, f]
  have risen : Shaped s₂ (places.leave (.queue cpu) next) none := by
    refine (left.promote absent maximum fits.2.1 oldest rfl rfl rfl).settle absent ?_
    rw [← s₂Def, here]
    exact ⟨.inr ⟨fits.1, epoch⟩, rfl⟩
  have used : (s₂.tasks next).generation ≠ 0 := by
    rw [here]
    exact fits.1
  have staged : Staged s₂ (newTicket s₂ .dispatch next cpu.val cpu.val attempt sequence) next cpu := by
    refine ⟨rfl, used, rfl, by rw [here]; rfl, ?_, rfl, by rw [here]; exact fits.2.2.2.2, awake, free⟩
    intro slot' transfer
    by_contra differs
    rw [others slot' differs] at transfer
    exact settled.still slot' transfer
  have rooms : Issuable s₂ .dispatch next cpu attempt sequence ↔
      Issuable s .dispatch next cpu attempt sequence := by
    unfold Issuable Affordable KindRoom DispatchRoom
    rw [here]
    exact .rfl
  have choice : (s.waiting cpu).argmax s.rank = some next := waiting_eq shaped cpu ▸ best
  rw [id]
  refine wp_mono (wp_installPending risen used staged) ?_ ?_
  · rintro ticket s' ⟨rfl, able, issued, _⟩
    exact ⟨next, ⟨idle, awake, free, choice, rooms.mp able⟩, ⟨issued.held, issued.number, issued.transaction⟩, rfl⟩
  · rintro _ _ ⟨_, refused⟩
    refine ⟨trivial, fun slot able => refused (rooms.mpr ?_)⟩
    obtain rfl := some.inj (choice.symm.trans able.best)
    exact able.issuable

end PooleOS.Smp
