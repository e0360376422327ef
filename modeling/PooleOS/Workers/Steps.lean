import PooleOS.Workers.Invariant

/- The methods that complete no item: each keeps the controller sound, leaves what
completed items have added up to, and adds nothing to what the tickets that are
out will add. -/
namespace PooleOS.Workers

open Op Finset
open Function (update)
open Controller

variable {s s' : Controller}

section Rules

variable {done : Unit → Controller → Prop} {failed : Error → Controller → Prop}

theorem wp_advance (limit : Nat) (get : Controller → Nat) (set : Nat → Controller → Controller)
    (pass : get s + 1 < limit → done () (set (get s + 1) s))
    (stop : limit ≤ get s + 1 → failed .counter s) : wp (advance limit get set) done failed s := by
  unfold advance
  simp only [wp_bind, wp_read, wp_update]
  refine wp_orError (fun value sum => ?_) (fun full => stop (checkedAdd_eq_none.mp full))
  obtain ⟨room, rfl⟩ := checkedAdd_eq_some.mp sum
  exact pass room

theorem wp_check (sound : Sound s) (pass : done () s) : wp check done failed s := by
  unfold check
  simp only [wp_bind, wp_read]
  rw [validate_ok sound, wp_lift_ok]
  exact pass

/-- The slot that an identity resolves to. -/
def Alive (s : Controller) (id : WorkId) (index : Index) : Prop :=
  (s.slots index).state ≠ .free ∧ s.id index = id

theorem wp_resolve {done : Index → Controller → Prop} {id : WorkId} (pass : ∀ index, Alive s id index → done index s)
    (stop : (∀ index, ¬ Alive s id index) → failed .staleId s) : wp (resolve id) done failed s := by
  unfold resolve Controller.resolve
  simp only [wp_bind, wp_read]
  split
  · rename_i inside
    split
    · rename_i gone
      refine stop (fun index alive => ?_)
      have same : (⟨id.slot, inside⟩ : Index) = index :=
        Fin.ext (congrArg WorkId.slot alive.2).symm
      rw [same] at gone
      rcases gone with free | stale
      · exact alive.1 free
      · apply stale
        rw [← alive.2]
        rfl
    · rename_i held
      rw [not_or, not_not] at held
      refine pass ⟨id.slot, inside⟩ ⟨held.1, ?_⟩
      unfold Controller.id
      rw [held.2]
  · rename_i outside
    refine stop (fun index alive => outside ?_)
    rw [← alive.2]
    exact index.isLt

theorem wp_requireAp {done : CpuId → Controller → Prop} {cpu : Nat}
    (pass : ∀ target : CpuId, target.val = cpu → target ≠ 0 → Allows s.onlineMask target → done target s)
    (stop : ∀ reason, (∀ target : CpuId, target.val = cpu → target ≠ 0 → ¬ Allows s.onlineMask target) →
      failed reason s) : wp (requireAp cpu) done failed s := by
  unfold requireAp Controller.requireAp
  simp only [wp_bind, wp_read]
  split
  · rename_i inside
    have nonzero : (⟨cpu, inside.2⟩ : CpuId) ≠ 0 := fun zero => inside.1 (congrArg Fin.val zero)
    split
    · rename_i online
      exact pass _ rfl nonzero online
    · rename_i offline
      refine stop _ (fun target same _ => ?_)
      have equal : target = ⟨cpu, inside.2⟩ := Fin.ext same
      rw [equal]
      exact offline
  · rename_i outside
    refine stop _ (fun target same nonzero => absurd ⟨?_, ?_⟩ outside)
    · rw [← same]
      exact fun zero => nonzero (Fin.ext zero)
    · rw [← same]
      exact target.isLt

end Rules

/-- What a call that completes no item leaves. -/
structure Quiet (s s' : Controller) : Prop where
  sound : Sound s'
  completed : s'.completed = s.completed
  sum : s'.driverSampleSum = s.driverSampleSum
  generation : s'.activeServiceGeneration = s.activeServiceGeneration
  room : Room s → Room s'
  fresh : ∀ index, (s'.slots index).state = .completed → (s.slots index).state = .completed
  past : ∀ index generation, Past (s.slots index) generation → Past (s'.slots index) generation

/-- Nothing of this is looked at by the invariant. -/
theorem quiet_note (sound : Sound s) (eoi duplicates stale : Nat) :
    Quiet s { s with
      eoiEpoch := eoi, duplicateSuppressed := duplicates, staleRejections := stale } := by
  obtain ⟨consistent, balanced⟩ := sound
  have ticketed : Ticketed { s with
      eoiEpoch := eoi, duplicateSuppressed := duplicates, staleRejections := stale } :=
    consistent.ticketed.same rfl ⟨rfl, rfl⟩ rfl
  exact ⟨⟨{ consistent with ticketed }, { balanced with }⟩, rfl, rfl, rfl, fun room => room,
    fun _ completed => completed, fun _ _ past => past⟩

section Enqueue

theorem firstFree_free {index : Index} (found : s.firstFree = some index) : (s.slots index).state = .free := by
  simpa using List.find?_some found

/-- A free slot takes a new item. -/
theorem quiet_admission (sound : Sound s) {index : Index} {slot : Slot}
    (free : (s.slots index).state = .free) (newer : (s.slots index).generation < slot.generation) (queued : slot.state = .queued)
    (unasked : slot.cancelRequested = false) {sequence : Nat}
    (fits : Controller.Admissible { s with enqueueSequence := sequence } slot)
    (unique : ∀ other, ¬ s.Holds slot.request other) (opened : s.intakeOpen = true)
    (later : s.enqueueSequence ≤ sequence) (small : s.enqueued + 1 < u32Values) :
    Quiet s { s with
      slots := update s.slots index slot
      enqueueSequence := sequence, enqueued := s.enqueued + 1 } := by
  obtain ⟨consistent, balanced⟩ := sound
  have change : Rewrites s { s with
      slots := update s.slots index slot
      enqueueSequence := sequence, enqueued := s.enqueued + 1 } index slot := rfl
  have up : s.shutdownComplete = false := by
    by_contra shut
    rw [Bool.not_eq_false] at shut
    rw [(consistent.closed shut).1] at opened
    cases opened
  have ticketed := consistent.ticketed.keep change ⟨rfl, rfl⟩ (ticketAt_same rfl rfl)
    (fun sent => by rw [free] at sent; cases sent) (fun _ => by rw [queued]; decide)
  refine ⟨⟨?_, ?_⟩, rfl, rfl, rfl, fun room => room.mono rfl ?_, change.fresh ?_, change.past ?_⟩
  · refine consistent.rewrite change rfl later (fun _ => ⟨fits, fun ended => ?_⟩)
      (fun _ other _ => unique other) ticketed up
    rw [queued] at ended
    rcases ended with ended | ended <;> cases ended
  · obtain ⟨live, ended, sent, flagged, unflagged⟩ := change.admits free queued unasked
    obtain ⟨items, ends, sequence, tickets, entries, executions, acks, cancels, requests, bypass,
      retirements, generation, _, sum⟩ := balanced
    refine ⟨?_, ?_, sequence, tickets.trans sent.symm, entries, executions, acks, ?_, ?_, bypass,
      retirements, generation, small, sum⟩
    all_goals
      dsimp only at live ended flagged unflagged ⊢
      omega
  · refine change.load_le consistent.ticketed rfl ticketed (fun cpu ticket out names => ?_)
    have sent := names.dispatching
    rw [free] at sent
    cases sent
  · rw [queued]
    decide
  · intro generation past
    rcases past with older | ⟨same, _⟩
    · exact .inl (older.trans newer)
    · exact .inl (same ▸ newer)

/-- The enqueue writes what `quiet_admission` describes. -/
theorem wp_enqueueFromTopHalfInner (sound : Sound s) (context : TopHalfContext) (request : WorkRequest) :
    wp (enqueueFromTopHalfInner context request) (fun _ s' => Quiet s s')
      (fun reason s' => reason = .duplicate → Quiet s s') s := by
  unfold enqueueFromTopHalfInner suppressDuplicate increment
  simp only [wp_bind, wp_read]
  refine wp_ensure_intro (fun opened => ?_) (fun _ => by simp)
  refine wp_ensure_intro (fun _ => ?_) (fun _ => by simp)
  refine wp_ensure_intro (fun valid => ?_) (fun _ => by simp)
  refine wp_ensure_intro (fun online => ?_) (fun _ => by simp)
  simp only [not_or, not_not] at valid
  obtain ⟨key, source, nonzero, below, consumer⟩ := valid
  refine wp_when_intro (fun _ => ?_) (fun unique => ?_)
  · simp only [wp_bind, wp_fail]
    exact wp_advance _ _ _ (fun _ _ => quiet_note sound s.eoiEpoch (s.duplicateSuppressed + 1) s.staleRejections)
      (fun _ => by simp)
  · refine wp_orError (fun index found => ?_) (fun _ => by simp)
    refine wp_advance _ _ _ (fun _ => ?_) (fun _ => by simp)
    refine wp_orError (fun generation sum => ?_) (fun _ => by simp)
    obtain ⟨_, rfl⟩ := checkedAdd_eq_some.mp sum
    refine wp_advance _ _ _ (fun small => ?_) (fun _ => by simp)
    have quiet := @quiet_admission s sound index ⟨(s.slots index).generation + 1, .queued, request,
      s.enqueueSequence + 1, 0, false, 0⟩ (firstFree_free found) (Nat.lt_succ_self _) rfl rfl (s.enqueueSequence + 1)
      ⟨Nat.succ_ne_zero _, key, source, nonzero, Nat.lt_of_not_le below, consumer, Nat.succ_ne_zero _, le_rfl⟩
      (fun other holds => unique ⟨other, holds⟩) opened (Nat.le_succ _) small
    exact wp_check quiet.sound quiet

end Enqueue

section Withdrawal

variable {index : Index}

/-- A queued item is cancelled. -/
theorem quiet_withdrawal (sound : Sound s) (queued : (s.slots index).state = .queued)
    (withdrawals : Nat) :
    Quiet s { s with
      slots := update s.slots index { s.slots index with
        state := .cancelled, completionSequence := s.completionSequence + 1, result := 0 }
      completionSequence := s.completionSequence + 1
      cancelled := s.cancelled + 1, queuedCancellations := withdrawals } := by
  obtain ⟨consistent, balanced⟩ := sound
  have used : (s.slots index).state ≠ .free := by rw [queued]; decide
  have change : Rewrites s { s with
      slots := update s.slots index { s.slots index with
        state := .cancelled, completionSequence := s.completionSequence + 1, result := 0 }
      completionSequence := s.completionSequence + 1
      cancelled := s.cancelled + 1, queuedCancellations := withdrawals } index
      { s.slots index with
        state := .cancelled, completionSequence := s.completionSequence + 1, result := 0 } := rfl
  have ticketed := consistent.ticketed.keep change ⟨rfl, rfl⟩ (ticketAt_same rfl rfl)
    (fun sent => by rw [queued] at sent; cases sent) (fun _ => nofun)
  refine ⟨⟨?_, ?_⟩, rfl, rfl, rfl, fun room => room.mono rfl ?_, change.fresh nofun, change.past ?_⟩
  · exact consistent.rewrite change rfl le_rfl
      (fun _ => ⟨(consistent.fits index used).1, fun _ => Nat.succ_ne_zero _⟩)
      (fun _ other apart holds => apart (consistent.distinct index other used holds)) ticketed
      (consistent.opened used)
  · obtain ⟨live, ended, sent, flagged, unflagged⟩ := change.withdraws queued rfl
    obtain ⟨items, ends, sequence, tickets, entries, executions, acks, cancels, requests, bypass,
      retirements, generation, small, sum⟩ := balanced
    refine ⟨?_, ?_, ?_, tickets.trans sent.symm, entries, executions, ?_, ?_, ?_, bypass, retirements,
      generation, small, sum⟩
    all_goals
      dsimp only at live ended flagged unflagged ⊢
      omega
  · refine change.load_le consistent.ticketed rfl ticketed (fun cpu ticket out names => ?_)
    have sent := names.dispatching
    rw [queued] at sent
    cases sent
  · exact fun _ past => past.of_live (by rw [queued]; decide) used le_rfl

/-- The cancellation of an item that is being dispatched is noted. -/
theorem quiet_request (sound : Sound s) (sent : (s.slots index).state = .dispatching)
    (unasked : (s.slots index).cancelRequested = false) :
    Quiet s { s with
      slots := update s.slots index { s.slots index with cancelRequested := true }
      remoteCancelRequests := s.remoteCancelRequests + 1 } := by
  obtain ⟨consistent, balanced⟩ := sound
  have used : (s.slots index).state ≠ .free := by rw [sent]; decide
  have change : Rewrites s { s with
      slots := update s.slots index { s.slots index with cancelRequested := true }
      remoteCancelRequests := s.remoteCancelRequests + 1 } index
      { s.slots index with cancelRequested := true } := rfl
  have ticketed := consistent.ticketed.keep change ⟨rfl, rfl⟩ (ticketAt_same rfl rfl)
    (fun _ => ⟨sent, rfl, rfl⟩) (fun idle => absurd sent idle)
  refine ⟨⟨?_, ?_⟩, rfl, rfl, rfl, fun room => room.mono rfl ?_, change.fresh ?_, change.past ?_⟩
  · exact consistent.rewrite change rfl le_rfl (fun _ => consistent.fits index used)
      (fun _ other apart holds => apart (consistent.distinct index other used holds)) ticketed
      (consistent.opened used)
  · obtain ⟨live, ended, same, flagged, unflagged⟩ := change.asks sent unasked sent rfl
    obtain ⟨items, ends, sequence, tickets, entries, executions, acks, cancels, requests, bypass,
      retirements, generation, small, sum⟩ := balanced
    refine ⟨?_, ?_, sequence, tickets.trans same.symm, entries, executions, acks, ?_, ?_, bypass,
      retirements, generation, small, sum⟩
    all_goals
      dsimp only at live ended flagged unflagged ⊢
      omega
  · refine change.load_le consistent.ticketed rfl ticketed (fun cpu ticket out names => ?_)
    exact Nat.zero_le _
  · rw [sent]
    decide
  · exact fun _ past => past.of_live (by rw [sent]; decide) used le_rfl

theorem wp_cancelInner (sound : Sound s) (id : WorkId) :
    wp (cancelInner id) (fun _ s' => Quiet s s') (fun _ _ => True) s := by
  unfold cancelInner
  simp only [wp_bind, wp_read]
  refine wp_resolve (fun index alive => ?_) (fun _ => trivial)
  cases state : (s.slots index).state with
  | queued =>
    simp only [completeTerminal, modifySlot, increment, wp_bind, wp_read, wp_update]
    refine wp_advance _ _ _ (fun _ => ?_) (fun _ => trivial)
    refine wp_advance _ _ _ (fun _ => ?_) (fun _ => trivial)
    refine wp_advance _ _ _ (fun _ => ?_) (fun _ => trivial)
    have quiet := quiet_withdrawal sound state (s.queuedCancellations + 1)
    exact wp_check quiet.sound quiet
  | dispatching =>
    simp only [modifySlot, increment, wp_bind, wp_update]
    refine wp_ensure_intro (fun unasked => ?_) (fun _ => trivial)
    refine wp_advance _ _ _ (fun _ => ?_) (fun _ => trivial)
    have quiet := quiet_request sound state unasked
    exact wp_check quiet.sound quiet
  | free => trivial
  | completed => trivial
  | cancelled => trivial

end Withdrawal

section Reclaim

variable {index : Index}

/-- A slot whose item has ended is free again. -/
theorem quiet_reclaim (sound : Sound s) (terminal : (s.slots index).state.Terminal) :
    Quiet s { s with
      slots := update s.slots index (Slot.emptied (s.slots index).generation)
      reclaimed := s.reclaimed + 1 } := by
  obtain ⟨consistent, balanced⟩ := sound
  have used : (s.slots index).state ≠ .free := by
    rcases terminal with ended | ended <;> rw [ended] <;> decide
  have idle : (s.slots index).state ≠ .dispatching := by
    rcases terminal with ended | ended <;> rw [ended] <;> decide
  have change : Rewrites s { s with
      slots := update s.slots index (Slot.emptied (s.slots index).generation)
      reclaimed := s.reclaimed + 1 } index (Slot.emptied (s.slots index).generation) := rfl
  have ticketed := consistent.ticketed.keep change ⟨rfl, rfl⟩ (ticketAt_same rfl rfl)
    (absurd · idle) (fun _ => nofun)
  refine ⟨⟨?_, ?_⟩, rfl, rfl, rfl, fun room => room.mono rfl ?_, change.fresh nofun, change.past ?_⟩
  · exact consistent.rewrite change rfl le_rfl (fun taken => absurd rfl taken)
      (fun taken => absurd rfl taken) ticketed (consistent.opened used)
  · obtain ⟨live, ended, sent, flagged, unflagged⟩ := change.frees terminal rfl
    obtain ⟨items, ends, sequence, tickets, entries, executions, acks, cancels, requests, bypass,
      retirements, generation, small, sum⟩ := balanced
    refine ⟨?_, ?_, sequence, tickets.trans sent.symm, entries, executions, acks, ?_, ?_, bypass,
      retirements, generation, small, sum⟩
    all_goals
      dsimp only at live ended flagged unflagged ⊢
      omega
  · refine change.load_le consistent.ticketed rfl ticketed (fun cpu ticket out names => ?_)
    exact absurd names.dispatching idle
  · intro generation past
    rcases past with older | ⟨same, _⟩
    · exact .inl older
    · exact .inr ⟨same, .inr rfl⟩

theorem wp_reclaimInner (sound : Sound s) (id : WorkId) (token : FlushToken) :
    wp (reclaimInner id token) (fun _ s' => Quiet s s') (fun _ _ => True) s := by
  unfold reclaimInner modifySlot increment
  simp only [wp_bind, wp_read, wp_update]
  refine wp_ensure_intro (fun _ => ?_) (fun _ => trivial)
  refine wp_resolve (fun index alive => ?_) (fun _ => trivial)
  refine wp_ensure_intro (fun _ => ?_) (fun _ => trivial)
  refine wp_ensure_intro (fun terminal => ?_) (fun _ => trivial)
  refine wp_advance _ _ _ (fun _ => ?_) (fun _ => trivial)
  have quiet := quiet_reclaim sound terminal
  exact wp_check quiet.sound quiet

theorem Quiet.refl (sound : Sound s) : Quiet s s := ⟨sound, rfl, rfl, rfl, fun room => room, fun _ completed => completed,
      fun _ _ past => past⟩

theorem Quiet.trans {s'' : Controller} (first : Quiet s s') (second : Quiet s' s'') : Quiet s s'' :=
  ⟨second.sound, second.completed.trans first.completed, second.sum.trans first.sum,
    second.generation.trans first.generation, fun room => second.room (first.room room),
    fun index completed => first.fresh index (second.fresh index completed),
    fun index generation past => second.past index generation (first.past index generation past)⟩

theorem wp_retireAllTerminal (sound : Sound s) (token : FlushToken) :
    wp (retireAllTerminal token) (fun _ s' => Quiet s s') (fun _ s' => s' = s) s := by
  refine wp_transact ?_
  simp only [wp_bind, wp_read]
  refine wp_ensure_intro (fun _ => ?_) (fun _ => trivial)
  refine wp_foldlM (fun _ s' => Quiet s s') ?_ _ 0 s (Quiet.refl sound)
  intro retired index rest s' quiet
  unfold retireTerminal
  simp only [wp_bind, wp_read]
  split
  · rw [wp_bind]
    refine wp_mono (wp_reclaimInner quiet.sound _ token) (fun _ s'' next => ?_)
      (fun _ _ _ => trivial)
    exact wp_orError (fun _ _ => quiet.trans next) (fun _ => trivial)
  · exact quiet

end Reclaim

section Timeout

variable {index : Index} {ticket : DispatchTicket}

theorem pendingCount_offline (out : s.offlinePending = some ticket) (pending : s'.pending = s.pending)
    (cleared : s'.offlinePending = none) : s'.pendingCount + 1 = s.pendingCount := by
  unfold pendingCount
  rw [pending, cleared, out]
  rfl

/-- The item of the probe goes back to the queue. -/
theorem quiet_rollback (sound : Sound s) (out : s.offlinePending = some ticket)
    (names : Names s none ticket index) (timeouts rollbacks : Nat) :
    Quiet s { s with
      slots := update s.slots index { s.slots index with state := .queued }
      offlinePending := none, lastTimedOut := some ticket
      timeoutCount := timeouts, rollbackCount := rollbacks } := by
  obtain ⟨consistent, balanced⟩ := sound
  have sending := names.dispatching
  have used : (s.slots index).state ≠ .free := by rw [sending]; decide
  have change : Rewrites s { s with
      slots := update s.slots index { s.slots index with state := .queued }
      offlinePending := none, lastTimedOut := some ticket
      timeoutCount := timeouts, rollbackCount := rollbacks } index
      { s.slots index with state := .queued } := rfl
  have held : s.ticketAt none = some ticket := out
  have ticketed := consistent.ticketed.clear change ⟨rfl, rfl⟩ held names
    (ticketAt_setOffline rfl rfl) nofun
  refine ⟨⟨?_, ?_⟩, rfl, rfl, rfl, fun room => room.mono rfl ?_, change.fresh nofun, change.past ?_⟩
  · refine consistent.rewrite change rfl le_rfl
      (fun _ => ⟨(consistent.fits index used).1, fun ended => ?_⟩)
      (fun _ other apart holds => apart (consistent.distinct index other used holds)) ticketed
      (consistent.opened used)
    rcases ended with ended | ended <;> cases ended
  · obtain ⟨live, ended, flagged, unflagged⟩ := change.shifts (.inr sending) (.inl rfl) rfl
    have sent := (moved change).sent
    rw [if_pos sending, if_neg nofun] at sent
    have tickets := balanced.tickets
    refine { balanced with items := ?_, ends := ?_, tickets := ?_, cancels := ?_, requests := ?_ }
    · rw [live]
      exact balanced.items
    · rw [ended]
      exact balanced.ends
    · have fewer := @pendingCount_offline s { s with
        slots := update s.slots index { s.slots index with state := .queued }
        offlinePending := none, lastTimedOut := some ticket
        timeoutCount := timeouts, rollbackCount := rollbacks } _ out rfl rfl
      omega
    · rw [flagged]
      exact balanced.cancels
    · rw [unflagged]
      exact balanced.requests
  · exact change.load_le consistent.ticketed rfl ticketed (fun _ _ _ _ => le_rfl)
  · exact fun _ past => past.of_live (by rw [sending]; decide) used le_rfl

theorem wp_timeoutInner (sound : Sound s) (ticket : DispatchTicket) :
    wp (timeoutInner ticket) (fun _ s' => Quiet s s') (fun _ _ => True) s := by
  unfold timeoutInner modifySlot increment
  simp only [wp_bind, wp_read, wp_update]
  refine wp_ensure_intro (fun probe => ?_) (fun _ => trivial)
  simp only [not_or, not_not] at probe
  refine wp_resolve (fun index alive => ?_) (fun _ => trivial)
  refine wp_ensure_intro (fun _ => ?_) (fun _ => trivial)
  refine wp_advance _ _ _ (fun _ => ?_) (fun _ => trivial)
  refine wp_advance _ _ _ (fun _ => ?_) (fun _ => trivial)
  obtain ⟨home, names⟩ := sound.consistent.ticketed.named none ticket probe.2
  have same : home = index := id_injective (names.item.symm.trans alive.2.symm)
  subst same
  have quiet := quiet_rollback sound probe.2 names (s.timeoutCount + 1) (s.rollbackCount + 1)
  exact wp_check quiet.sound quiet

end Timeout

section Workers

/-- Taking the bit of a processor but the first out of a mask. -/
theorem mask_without (mask : BitVec 8) (cpu other : CpuId) (nonzero : cpu ≠ 0) :
    (Allows (mask &&& ~~~cpu.mask) other ↔ Allows mask other ∧ other ≠ cpu) ∧
      (Within mask onlineMaskAll → Within (mask &&& ~~~cpu.mask) onlineMaskAll) ∧
        (mask &&& 1#8 ≠ 0#8 → mask &&& ~~~cpu.mask &&& 1#8 ≠ 0#8) := by
  revert mask cpu other nonzero
  decide +kernel

theorem workers_without {cpu : CpuId} (nonzero : cpu ≠ 0) (online : Allows s.onlineMask cpu)
    (mask : s'.onlineMask = s.onlineMask &&& ~~~cpu.mask) : s'.workers + 1 = s.workers := by
  have erased : (univ.filter (fun other : CpuId => other ≠ 0 ∧ Allows s'.onlineMask other)) =
      (univ.filter (fun other : CpuId => other ≠ 0 ∧ Allows s.onlineMask other)).erase cpu := by
    ext other
    simp only [mem_filter, mem_univ, true_and, mem_erase, mask,
      (mask_without s.onlineMask cpu other nonzero).1]
    tauto
  unfold Controller.workers
  rw [erased]
  refine card_erase_add_one ?_
  simp [nonzero, online]

section

variable (sound : Sound s)
include sound

/-- A processor without an item leaves. -/
theorem quiet_retirement {cpu : CpuId} (nonzero : cpu ≠ 0)
    (online : Allows s.onlineMask cpu) (idle : s.pending cpu = none) (generation : Nat) :
    Quiet s { s with
      onlineMask := s.onlineMask &&& ~~~cpu.mask
      workerGeneration := update s.workerGeneration cpu generation
      workerRetirements := s.workerRetirements + 1 } := by
  obtain ⟨consistent, balanced⟩ := sound
  obtain ⟨_, within, first⟩ := mask_without s.onlineMask cpu cpu nonzero
  have ticketed : Ticketed { s with
      onlineMask := s.onlineMask &&& ~~~cpu.mask
      workerGeneration := update s.workerGeneration cpu generation
      workerRetirements := s.workerRetirements + 1 } := by
    refine ⟨fun place ticket out => ?_, consistent.ticketed.owned, consistent.ticketed.alone⟩
    obtain ⟨index, item, dispatching, source, target, worker⟩ :=
      consistent.ticketed.named place ticket out
    refine ⟨index, item, dispatching, source, target, fun other here => ?_⟩
    obtain ⟨current, busy, allowed⟩ := worker other here
    have apart : other ≠ cpu := by
      rintro rfl
      subst here
      change s.pending other = some ticket at out
      rw [idle] at out
      cases out
    refine ⟨?_, busy, (mask_without s.onlineMask cpu other nonzero).1.mpr ⟨allowed, apart⟩⟩
    rw [current]
    exact (Function.update_of_ne apart _ _).symm
  refine ⟨⟨⟨⟨first consistent.mask.1, within consistent.mask.2⟩, consistent.fits,
    consistent.distinct, ticketed, fun shut => ?_⟩, ?_⟩, rfl, rfl, rfl, fun room => room,
    fun _ completed => completed,
      fun _ _ past => past⟩
  · have alone := (consistent.closed shut).2.1
    have first_only : ∀ other : CpuId, Allows 1#8 other → other = 0 := by decide
    rw [alone] at online
    exact absurd (first_only cpu online) nonzero
  · refine { balanced with retirements := ?_ }
    have retirements := balanced.retirements
    have fewer := @workers_without s { s with
      onlineMask := s.onlineMask &&& ~~~cpu.mask
      workerGeneration := update s.workerGeneration cpu generation
      workerRetirements := s.workerRetirements + 1 } cpu nonzero online rfl
    dsimp only at fewer ⊢
    omega

theorem wp_offlineWorkerInner (cpu : Nat) :
    wp (offlineWorkerInner cpu) (fun _ s' => Quiet s s') (fun _ _ => True) s := by
  unfold offlineWorkerInner increment
  simp only [wp_bind, wp_read, wp_update]
  refine wp_requireAp (fun target _ nonzero online => ?_) (fun _ _ => trivial)
  refine wp_ensure_intro (fun unused => ?_) (fun _ => trivial)
  rw [not_or] at unused
  have idle : s.pending target = none := by simpa using unused.1
  refine wp_advance _ _ _ (fun _ => ?_) (fun _ => trivial)
  refine wp_advance _ _ _ (fun _ => ?_) (fun _ => trivial)
  have quiet := quiet_retirement sound nonzero online idle (s.workerGeneration target + 1)
  exact wp_check quiet.sound quiet

/-- The controller closes once nothing is left. -/
theorem quiet_closing (mask : s.onlineMask = 1#8)
    (empty : ∀ place, s.ticketAt place = none) (free : ∀ index, (s.slots index).state = .free) :
    Quiet s { s with intakeOpen := false, shutdownComplete := true } := by
  obtain ⟨consistent, balanced⟩ := sound
  have ticketed : Ticketed { s with intakeOpen := false, shutdownComplete := true } :=
    consistent.ticketed.same rfl ⟨rfl, rfl⟩ rfl
  exact ⟨⟨{ consistent with ticketed, closed := fun _ => ⟨rfl, mask, empty, free⟩ }, { balanced with }⟩, rfl, rfl, rfl,
    fun room => room, fun _ completed => completed, fun _ _ past => past⟩

theorem wp_finishShutdown : wp finishShutdown (fun _ s' => Quiet s s') (fun _ s' => s' = s) s := by
  refine wp_transact ?_
  simp only [wp_bind, wp_read, wp_update]
  refine wp_ensure_intro (fun drained => ?_) (fun _ => trivial)
  simp only [not_or, not_not, not_exists] at drained
  obtain ⟨mask, offline, pending, free⟩ := drained
  have empty : ∀ place, s.ticketAt place = none := by
    intro place
    cases place with
    | none => exact Option.not_isSome_iff_eq_none.mp offline
    | some cpu => exact Option.not_isSome_iff_eq_none.mp (pending cpu)
  have quiet := quiet_closing sound mask empty free
  exact wp_check quiet.sound quiet

theorem wp_observeEoi : wp observeEoi (fun _ s' => Quiet s s') (fun _ s' => s' = s) s := by
  unfold observeEoi
  simp only [wp_bind, wp_read, wp_pure]
  exact wp_advance _ _ _
    (fun _ => quiet_note sound (s.eoiEpoch + 1) s.duplicateSuppressed s.staleRejections) (fun _ => rfl)

theorem wp_rejectStaleAck (ticket : DispatchTicket) (ack : RemoteAck) :
    wp (rejectStaleAck ticket ack) (fun _ s' => Quiet s s') (fun _ s' => s' = s) s := by
  unfold rejectStaleAck increment
  simp only [wp_bind, wp_read]
  refine wp_ensure_intro (fun _ => ?_) (fun _ => rfl)
  exact wp_advance _ _ _
    (fun _ => quiet_note sound s.eoiEpoch s.duplicateSuppressed (s.staleRejections + 1)) (fun _ => rfl)

end

end Workers

end PooleOS.Workers
