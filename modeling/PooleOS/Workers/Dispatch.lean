import PooleOS.Workers.Steps

/- The acknowledgement of a ticket that is out: when it goes through, and what it leaves. -/
namespace PooleOS.Workers

open List Op Nat Function Finset Cells
open Controller

variable {s s' : Controller} {index : Index} {cpu : CpuId} {ticket : DispatchTicket}

/-- What the consumer of a slot asks of the controller. -/
def Ready (s : Controller) (slot : Slot) : Prop :=
  slot.cancelRequested = true ∨
    match slot.request.consumer with
    | .driverTimerBottomHalf _ sample => s.driverSampleSum + sample < u32Values
    | .serviceGenerationReclaim retiredGeneration _ => retiredGeneration = s.activeServiceGeneration

/-- What a completed item adds to the service generation. -/
def Consumer.step : Consumer → Nat
  | .driverTimerBottomHalf _ _ => 0
  | .serviceGenerationReclaim _ _ => 1

/-- What a completed item adds to the sample sum. -/
def Consumer.sample : Consumer → Nat
  | .driverTimerBottomHalf _ sample => sample
  | .serviceGenerationReclaim _ _ => 0

/-- The state in which the item of a slot ends. -/
def Slot.outcome (slot : Slot) : WorkState := if slot.cancelRequested then .cancelled else .completed

/-- The controller after the acknowledgement of a ticket. -/
def Controller.settle (s : Controller) (cpu : CpuId) (index : Index) (result : Nat)
    (effects : Nat × Nat) : Controller :=
  let slot := s.slots index
  { s with
    slots := update s.slots index { slot with
      state := slot.outcome, completionSequence := s.completionSequence + 1, result := result }
    pending := update s.pending cpu none
    completionSequence := s.completionSequence + 1
    workerEntries := update s.workerEntries (lane cpu) (s.workerEntries (lane cpu) + 1)
    remoteAcks := s.remoteAcks + 1
    driverExecutions := s.driverExecutions + (1 - slot.request.consumer.step)
    serviceExecutions := s.serviceExecutions + slot.request.consumer.step
    completed := if slot.cancelRequested then s.completed else s.completed + 1
    cancelled := if slot.cancelRequested then s.cancelled + 1 else s.cancelled
    remoteCancelCompletions :=
      if slot.cancelRequested then s.remoteCancelCompletions + 1 else s.remoteCancelCompletions
    driverSampleSum := effects.1
    activeServiceGeneration := effects.2 }

theorem outcome_terminal (slot : Slot) : slot.outcome.Terminal := by
  unfold Slot.outcome
  split
  · exact .inr rfl
  · exact .inl rfl

theorem pendingCount_remove (out : s.pending cpu = some ticket)
    (pending : s'.pending = update s.pending cpu none)
    (offline : s'.offlinePending = s.offlinePending) : s'.pendingCount + 1 = s.pendingCount := by
  have counted := count_remove (fun _ => true) out
  rw [if_pos rfl] at counted
  unfold pendingCount
  rw [pending, offline]
  omega

theorem entries_counted (lane : Fin apCount) :
    ∑ other, update s.workerEntries lane (s.workerEntries lane + 1) other =
      (∑ other, s.workerEntries other) + 1 := by
  rw [sum_update_of_mem (mem_univ lane), ← add_sum_erase univ
    s.workerEntries (mem_univ lane), sdiff_singleton_eq_erase]
  omega

/-- The acknowledgement keeps the controller sound. -/
theorem sound_settle (sound : Sound s) (out : s.pending cpu = some ticket) (names : Names s (some cpu) ticket index)
    (result : Nat) {effects : Nat × Nat} (sum : effects.1 < u32Values) (generation : effects.2 ≠ 0) :
    Sound (s.settle cpu index result effects) := by
  obtain ⟨consistent, balanced⟩ := sound
  have sending := names.dispatching
  have used : (s.slots index).state ≠ .free := by rw [sending]; decide
  have terminal := outcome_terminal (s.slots index)
  have change : Rewrites s (s.settle cpu index result effects) index { s.slots index with
      state := (s.slots index).outcome, completionSequence := s.completionSequence + 1
      result := result } := rfl
  have held : s.ticketAt (some cpu) = some ticket := out
  have ticketed := consistent.ticketed.clear change ⟨rfl, rfl⟩ held names
    (ticketAt_setPending rfl rfl) (by rcases terminal with state | state <;> rw [state] <;> nofun)
  refine ⟨?_, ?_⟩
  · exact consistent.rewrite change rfl le_rfl
      (fun _ => ⟨(consistent.fits index used).1, fun _ => succ_ne_zero _⟩)
      (fun _ other apart holds => apart (consistent.distinct index other used holds)) ticketed
      (consistent.opened used)
  · obtain ⟨live, ended, sent, flagged, unflagged⟩ := change.finishes sending terminal
    have fewer : (s.settle cpu index result effects).pendingCount + 1 = s.pendingCount :=
      pendingCount_remove out rfl rfl
    have counted := @entries_counted s (lane cpu)
    obtain ⟨items, ends, sequence, tickets, entries, executions, acks, cancels, requests, bypass,
      retirements, _, small, _⟩ := balanced
    have kinds : 1 - (s.slots index).request.consumer.step + (s.slots index).request.consumer.step = 1 := by
      cases (s.slots index).request.consumer <;> rfl
    have acked : (s.settle cpu index result effects).remoteAcks = s.remoteAcks + 1 := rfl
    have together : (s.settle cpu index result effects).completed +
        (s.settle cpu index result effects).cancelled = s.completed + s.cancelled + 1 := by
      unfold Controller.settle
      dsimp only
      split <;> omega
    have finished : (s.settle cpu index result effects).remoteCancelCompletions =
        s.remoteCancelCompletions + if (s.slots index).cancelRequested = true then 1 else 0 := by
      unfold Controller.settle
      dsimp only
      split <;> omega
    refine ⟨?_, ?_, ?_, by omega, ?_, ?_, by omega, ?_, ?_, bypass, retirements, generation, small, sum⟩
    · change s.enqueued = _
      omega
    · change _ = s.reclaimed + _
      omega
    · change s.completionSequence + 1 = _
      omega
    · exact (congrArg (· + 1) entries).trans counted.symm
    · change s.driverExecutions + _ + (s.serviceExecutions + _) = s.remoteAcks + 1
      omega
    · change _ ≤ s.remoteCancelRequests
      omega
    · change s.remoteCancelRequests + _ ≤ s.enqueued
      omega

/-- What an item that is not ready is refused with. -/
def Consumer.refusal : Consumer → Error
  | .driverTimerBottomHalf _ _ => .counter
  | .serviceGenerationReclaim _ _ => .reclaimOrder

/-- What the results of an item are, where it is ready. -/
theorem applied_ready (s : Controller) (slot : Slot) (unasked : slot.cancelRequested = false)
    (valid : slot.request.consumer.Valid) : (Ready s slot → applied s slot.request.consumer =
      .ok (s.driverSampleSum + slot.request.consumer.sample, s.activeServiceGeneration + slot.request.consumer.step)) ∧
    (¬ Ready s slot → applied s slot.request.consumer = .error slot.request.consumer.refusal) := by
  unfold Ready
  rw [unasked]
  cases kind : slot.request.consumer with
  | driverTimerBottomHalf vector sample =>
    dsimp only [applied, Consumer.sample, Consumer.step, Consumer.refusal]
    refine ⟨fun ready => ?_, fun unready => ?_⟩
    · rcases ready with asked | room
      · cases asked
      · have sum : checkedAdd u32Values s.driverSampleSum sample = some (s.driverSampleSum + sample) :=
          checkedAdd_eq_some.mpr ⟨room, rfl⟩
        rw [sum]
        rfl
    · rw [not_or] at unready
      rw [checkedAdd_eq_none.mpr (Nat.le_of_not_lt unready.2)]
      rfl
  | serviceGenerationReclaim retired active =>
    dsimp only [applied, Consumer.sample, Consumer.step, Consumer.refusal]
    rw [kind] at valid
    obtain ⟨_, next⟩ := checkedAdd_eq_some.mp valid.2
    refine ⟨fun ready => ?_, fun unready => ?_⟩
    · rcases ready with asked | order
      · cases asked
      · rw [demand, if_pos order, next, order]
        rfl
    · rw [not_or] at unready
      rw [demand, if_neg unready.2]
      rfl

/-- The results that the acknowledgement stores. -/
def Controller.effects (s : Controller) (slot : Slot) : Nat × Nat :=
  if slot.cancelRequested then (s.driverSampleSum, s.activeServiceGeneration)
  else (s.driverSampleSum + slot.request.consumer.sample, s.activeServiceGeneration + slot.request.consumer.step)

/-- The counters that an acknowledgement advances do not overflow. -/
theorem counters_room (sound : Sound s) (sending : (s.slots index).state = .dispatching) (cpu : CpuId) :
    s.workerEntries (lane cpu) + 1 < u32Values ∧ s.remoteAcks + 1 < u32Values ∧
      s.driverExecutions + 1 < u32Values ∧ s.serviceExecutions + 1 < u32Values ∧
        s.completionSequence + 1 < u64Values ∧ s.completed + 1 < u32Values ∧ s.cancelled + 1 < u32Values := by
  obtain ⟨items, ends, sequence, tickets, entries, executions, acks, cancels, requests, bypass,
    retirements, generation, small, sum⟩ := sound.balanced
  have live : 0 < s.live := @count_pos s Slot.Live _ index (.inr sending)
  have entry : s.workerEntries (lane cpu) ≤ s.remoteAcks := by
    rw [entries]
    exact single_le_sum (fun _ _ => zero_le _) (mem_univ (lane cpu))
  have wide : u32Values < u64Values := by decide
  omega

theorem cancel_room (sound : Sound s) (sending : (s.slots index).state = .dispatching)
    (asked : (s.slots index).cancelRequested = true) : s.remoteCancelCompletions + 1 < u32Values := by
  obtain ⟨items, ends, sequence, tickets, entries, executions, acks, cancels, requests, bypass,
    retirements, generation, small, sum⟩ := sound.balanced
  have flagged : 0 < s.flagged :=
    @count_pos s (fun slot => slot.Live ∧ slot.cancelRequested = true) _ index ⟨.inr sending, asked⟩
  omega

section Tail

variable {done : Unit → Controller → Prop} {failed : Error → Controller → Prop}

theorem wp_countExecution {consumer : Consumer} (drivers : s.driverExecutions + 1 < u32Values)
    (services : s.serviceExecutions + 1 < u32Values)
    (pass : done () { s with
      driverExecutions := s.driverExecutions + (1 - consumer.step)
      serviceExecutions := s.serviceExecutions + consumer.step }) :
    wp (countExecution consumer) done failed s := by
  cases consumer with
  | driverTimerBottomHalf vector sample =>
    exact wp_advance _ _ _ (fun _ => pass) (fun full => absurd drivers (not_lt.mpr full))
  | serviceGenerationReclaim retired active =>
    exact wp_advance _ _ _ (fun _ => pass) (fun full => absurd services (not_lt.mpr full))

theorem wp_finishItem {done : WorkState → Controller → Prop} {slot : Slot} {effects : Nat × Nat}
    (idle : slot.cancelRequested = true → effects = (s.driverSampleSum, s.activeServiceGeneration))
    (room : slot.cancelRequested = true → s.remoteCancelCompletions + 1 < u32Values)
    (pass : done slot.outcome { s with
      remoteCancelCompletions :=
        if slot.cancelRequested then s.remoteCancelCompletions + 1 else s.remoteCancelCompletions
      driverSampleSum := effects.1, activeServiceGeneration := effects.2 }) :
    wp (finishItem slot.cancelRequested effects) done failed s := by
  unfold Slot.outcome at pass
  unfold finishItem increment
  cases asked : slot.cancelRequested with
  | true =>
    rw [asked, idle asked] at pass
    simp only [if_true, wp_bind, wp_pure]
    exact wp_advance _ _ _ (fun _ => pass) (fun full => absurd (room asked) (not_lt.mpr full))
  | false =>
    rw [asked] at pass
    exact pass

theorem wp_completeTerminal {slot : Slot} {result : Nat} (sequence : s.completionSequence + 1 < u64Values)
    (completed : s.completed + 1 < u32Values) (cancelled : s.cancelled + 1 < u32Values)
    (pass : done () { s with
      slots := update s.slots index { s.slots index with
        state := slot.outcome, completionSequence := s.completionSequence + 1, result := result }
      completionSequence := s.completionSequence + 1
      completed := if slot.cancelRequested then s.completed else s.completed + 1
      cancelled := if slot.cancelRequested then s.cancelled + 1 else s.cancelled }) :
    wp (completeTerminal index slot.outcome result) done failed s := by
  unfold Slot.outcome at pass ⊢
  unfold completeTerminal increment modifySlot
  simp only [wp_bind, wp_read, wp_update]
  refine wp_advance _ _ _ (fun _ => ?_) (fun full => absurd sequence (not_lt.mpr full))
  cases asked : slot.cancelRequested with
  | true =>
    rw [asked] at pass
    exact wp_advance _ _ _ (fun _ => pass) (fun full => absurd cancelled (not_lt.mpr full))
  | false =>
    rw [asked] at pass
    exact wp_advance _ _ _ (fun _ => pass) (fun full => absurd completed (not_lt.mpr full))

end Tail

theorem effects_bounded (sound : Sound s) {slot : Slot} (ready : Ready s slot) :
    (s.effects slot).1 < u32Values ∧ (s.effects slot).2 ≠ 0 := by
  have sum := sound.balanced.sum
  have generation := sound.balanced.generation
  unfold Controller.effects
  split
  · exact ⟨sum, generation⟩
  · rename_i unasked
    refine ⟨?_, ?_⟩
    · rcases ready with asked | ready
      · exact absurd asked unasked
      · cases kind : slot.request.consumer with
        | driverTimerBottomHalf vector sample =>
          rw [kind] at ready
          exact ready
        | serviceGenerationReclaim retired active => exact sum
    · omega

/-- What decides whether the results of an item are stored. -/
theorem wp_effects {slot : Slot} {done : Nat × Nat → Controller → Prop} {failed : Error → Controller → Prop}
    (valid : slot.request.consumer.Valid) (pass : Ready s slot → done (s.effects slot) s)
    (stop : ¬ Ready s slot → failed slot.request.consumer.refusal s) :
    wp (lift (if slot.cancelRequested then .ok (s.driverSampleSum, s.activeServiceGeneration)
      else applied s slot.request.consumer)) done failed s := by
  unfold Controller.effects at pass
  cases asked : slot.cancelRequested with
  | true =>
    rw [asked] at pass
    exact pass (.inl asked)
  | false =>
    rw [asked] at pass
    obtain ⟨stored, refused⟩ := applied_ready s slot asked valid
    by_cases ready : Ready s slot
    · rw [stored ready]
      exact pass ready
    · rw [refused ready]
      exact stop ready

/-- The acknowledgement of a ticket that is out goes through where its item is ready. -/
theorem wp_commitAcknowledgement (sound : Sound s) (out : s.pending cpu = some ticket)
    (names : Names s (some cpu) ticket index) : wp (commitAcknowledgement ticket)
      (fun receipt s' => Ready s (s.slots index) ∧ receipt.state = (s.slots index).outcome ∧
        s' = s.settle cpu index ticket.expectedResult (s.effects (s.slots index)))
      (fun reason _ => ¬ Ready s (s.slots index) ∧ reason = (s.slots index).request.consumer.refusal) s := by
  obtain ⟨generation, nonzero, online⟩ := names.worker cpu rfl
  have sending := names.dispatching
  have used : (s.slots index).state ≠ .free := by rw [sending]; decide
  have valid := (sound.consistent.fits index used).1.2.2.2.2.2.1
  obtain ⟨entry, acks, drivers, services, sequence, completed, cancelled⟩ :=
    counters_room sound sending cpu
  unfold commitAcknowledgement
  simp only [wp_bind, wp_read]
  refine wp_requireAp (fun target here _ _ => ?_) (fun _ none_ => ?_)
  swap
  · exact absurd online (none_ cpu names.target.symm nonzero)
  obtain rfl : target = cpu := Fin.ext (here.trans names.target)
  refine wp_ensure_intro (fun _ => ?_) (fun missing => absurd out missing)
  refine wp_resolve (fun home alive => ?_) (fun gone => absurd ⟨used, names.item.symm⟩ (gone index))
  obtain rfl : home = index := id_injective (alive.2.trans names.item)
  refine wp_ensure_intro (fun _ => ?_) (fun wrong => absurd ?_ wrong)
  swap
  · simp only [not_or, not_not]
    exact ⟨sending, names.source.symm, generation.symm⟩
  refine wp_effects valid (fun ready => ?_) (fun unready => ⟨unready, rfl⟩)
  obtain ⟨sum, numbered⟩ := effects_bounded sound ready
  refine wp_advance _ _ _ (fun _ => ?_) (fun full => absurd entry (not_lt.mpr full))
  refine wp_advance _ _ _ (fun _ => ?_) (fun full => absurd acks (not_lt.mpr full))
  refine wp_countExecution drivers services ?_
  refine wp_finishItem (fun asked => ?_) (cancel_room sound sending) ?_
  · exact if_pos asked
  refine wp_completeTerminal sequence completed cancelled ?_
  have sound' := sound_settle sound out names ticket.expectedResult sum numbered
  exact wp_check sound' ⟨ready, rfl, rfl⟩

section Preflight

/-- The sample sum once every ticket that is out on a processor has been acknowledged. -/
def Controller.total (s : Controller) : Nat := s.driverSampleSum + ∑ cpu, s.load cpu

theorem load_settle_other (sound : Sound s) (out : s.pending cpu = some ticket)
    (names : Names s (some cpu) ticket index) (result : Nat) (effects : Nat × Nat) {other : CpuId}
    (apart : other ≠ cpu) : (s.settle cpu index result effects).load other = s.load other := by
  have kept : (s.settle cpu index result effects).pending other = s.pending other :=
    update_of_ne apart _ _
  cases held : s.pending other with
  | none =>
    rw [load_none held, load_none (kept.trans held)]
  | some second =>
    obtain ⟨home, named⟩ := sound.consistent.ticketed.named (some other) second held
    have elsewhere : home ≠ index := by
      rintro rfl
      have same := sound.consistent.ticketed.alone (some other) (some cpu) second ticket held out
        (named.item.trans names.item.symm)
      exact apart (Option.some.inj same)
    have change : Rewrites s (s.settle cpu index result effects) index { s.slots index with
        state := (s.slots index).outcome, completionSequence := s.completionSequence + 1
        result := result } := rfl
    have named' := named.other change ⟨rfl, rfl⟩ elsewhere
    rw [load_names held named, load_names (kept.trans held) named', change.other elsewhere]

theorem effects_sum (s : Controller) (slot : Slot) : (s.effects slot).1 = s.driverSampleSum + slot.weight := by
  unfold Controller.effects Slot.weight Consumer.sample
  cases slot.cancelRequested <;> cases slot.request.consumer <;> rfl

theorem total_settle (sound : Sound s) (out : s.pending cpu = some ticket) (names : Names s (some cpu) ticket index)
    (result : Nat) : (s.settle cpu index result (s.effects (s.slots index))).total = s.total := by
  have cleared : (s.settle cpu index result (s.effects (s.slots index))).pending cpu = none :=
    update_self ..
  have stored : (s.settle cpu index result (s.effects (s.slots index))).driverSampleSum =
      s.driverSampleSum + (s.slots index).weight := effects_sum s (s.slots index)
  have others : ∑ other ∈ univ.erase cpu,
      (s.settle cpu index result (s.effects (s.slots index))).load other =
        ∑ other ∈ univ.erase cpu, s.load other :=
    sum_congr rfl (fun other member =>
      load_settle_other sound out names result _ (ne_of_mem_erase member))
  unfold Controller.total
  rw [← add_sum_erase univ _ (mem_univ cpu),
    ← add_sum_erase univ s.load (mem_univ cpu), others, load_none cleared,
    load_names out names, stored]
  omega

theorem firstPending_some (first : s.firstPending = some ticket) : ∃ cpu, s.pending cpu = some ticket := by
  have member := List.argmin_mem first
  rw [List.mem_filterMap] at member
  obtain ⟨cpu, _, out⟩ := member
  exact ⟨cpu, out⟩

theorem firstPending_none (none_ : s.firstPending = none) (cpu : CpuId) : s.pending cpu = none := by
  have empty := argmin_eq_none.mp none_
  rw [filterMap_eq_nil_iff] at empty
  exact empty cpu (mem_finRange cpu)

/-- As many rounds as tickets are out empty every processor. -/
theorem wp_commitPending (rounds : Nat) : ∀ {s : Controller}, Sound s → count s.pending (fun _ => true) ≤ rounds →
      wp (commitPending rounds) (fun _ s' => Sound s' ∧ s'.total = s.total ∧ ∀ cpu, s'.pending cpu = none)
        (fun _ _ => True) s := by
  induction rounds with
  | zero =>
    intro s sound few
    refine ⟨sound, rfl, fun cpu => ?_⟩
    have off := count_eq_zero.mp (le_zero.mp few) cpu
    cases held : s.pending cpu with
    | none => rfl
    | some ticket => cases off ticket held
  | succ rounds ih =>
    intro s sound few
    unfold commitPending
    simp only [wp_bind, wp_read]
    cases first : s.firstPending with
    | none => exact ⟨sound, rfl, firstPending_none first⟩
    | some ticket =>
      obtain ⟨cpu, out⟩ := firstPending_some first
      obtain ⟨index, names⟩ := sound.consistent.ticketed.named (some cpu) ticket out
      simp only [wp_bind]
      refine wp_mono (wp_commitAcknowledgement sound out names) ?_ (fun _ _ _ => trivial)
      rintro receipt s' ⟨ready, _, rfl⟩
      obtain ⟨sum, numbered⟩ := effects_bounded sound ready
      have sound' := sound_settle sound out names ticket.expectedResult sum numbered
      have counted := count_remove (fun _ => true) out
      rw [if_pos rfl] at counted
      refine wp_mono (ih sound' (show count (update s.pending cpu none)
        (fun _ => true) ≤ rounds by omega)) ?_ (fun _ _ _ => trivial)
      rintro _ s'' ⟨sound'', total, empty⟩
      exact ⟨sound'', total.trans (total_settle sound out names _), empty⟩

/-- The preflight leaves the controller alone and makes sure of the room. -/
theorem wp_preflightPendingCommits (sound : Sound s) :
    wp preflightPendingCommits (fun _ s' => s' = s ∧ Room s) (fun _ _ => True) s := by
  unfold preflightPendingCommits
  rw [wp_dryRun]
  simp only [wp_bind, wp_read]
  refine wp_mono (wp_commitPending 4 sound (count_le _ _)) ?_ (fun _ _ _ => trivial)
  rintro _ s' ⟨sound', total, empty⟩
  have room : Room s := by
    have idle : ∑ cpu, s'.load cpu = 0 := sum_eq_zero (fun cpu _ => load_none (empty cpu))
    have sum := sound'.balanced.sum
    unfold Controller.total at total
    unfold Room
    omega
  cases s'.offlinePending with
  | none => exact ⟨trivial, room⟩
  | some ticket =>
    exact wp_mono (wp_timeoutInner sound' ticket) (fun _ _ _ => ⟨trivial, room⟩) (fun _ _ _ => trivial)

end Preflight

section Select

variable {priority : Priority}

theorem oldestQueued_some (found : s.oldestQueued cpu.val priority = some index) : (s.slots index).state = .queued := by
  have member := argmin_mem found
  simp only [mem_filter, mem_finRange, true_and, decide_eq_true_eq] at member
  exact member.1

/-- The selection writes the bypass counts alone. -/
theorem selectNext_spec (bounded : s.maximumHighBypass ≤ maxHighBypass ∧
    ∀ cpu, s.highBypass cpu ≤ maxHighBypass) (cpu : CpuId) :
    (∃ high maximum, (s.selectNext cpu).2 = { s with highBypass := high, maximumHighBypass := maximum } ∧
      maximum ≤ maxHighBypass ∧ ∀ cpu, high cpu ≤ maxHighBypass) ∧
    ∀ index, (s.selectNext cpu).1 = some index → (s.slots index).state = .queued := by
  obtain ⟨most, each⟩ := bounded
  have stored : ∀ bypass, bypass ≤ maxHighBypass →
      ∀ other, update s.highBypass cpu bypass other ≤ maxHighBypass := by
    intro bypass small other
    rw [update_apply]
    split
    · exact small
    · exact each other
  unfold selectNext
  cases high : s.oldestQueued cpu.val .high with
  | none =>
    cases normal : s.oldestQueued cpu.val .normal with
    | none => exact ⟨⟨s.highBypass, s.maximumHighBypass, rfl, most, each⟩, nofun⟩
    | some second =>
      refine ⟨⟨_, s.maximumHighBypass, rfl, most, stored 0 (zero_le _)⟩, fun index same => ?_⟩
      cases same
      exact oldestQueued_some normal
  | some first =>
    cases normal : s.oldestQueued cpu.val .normal with
    | none =>
      refine ⟨⟨s.highBypass, s.maximumHighBypass, rfl, most, each⟩, fun index same => ?_⟩
      cases same
      exact oldestQueued_some high
    | some second =>
      dsimp only
      split
      · refine ⟨⟨_, s.maximumHighBypass, rfl, most, stored 0 (zero_le _)⟩, fun index same => ?_⟩
        cases same
        exact oldestQueued_some normal
      · rename_i below
        have next : s.highBypass cpu + 1 ≤ maxHighBypass := Nat.lt_of_not_le below
        refine ⟨⟨_, _, rfl, max_le most next, stored _ next⟩, fun index same => ?_⟩
        cases same
        exact oldestQueued_some high

end Select

section Issue

/-- The controller after a ticket for a queued item is issued. -/
def Controller.issued (s : Controller) (index : Index) (pending : CpuId → Option DispatchTicket)
    (offline : Option DispatchTicket) (transactions dispatches : Nat) : Controller :=
  { s with
    slots := update s.slots index { s.slots index with state := .dispatching }
    pending := pending, offlinePending := offline
    transactionSequence := transactions, dispatches := dispatches }

variable {pending : CpuId → Option DispatchTicket} {offline : Option DispatchTicket} {transactions dispatches : Nat}

theorem sound_issued (sound : Sound s) (queued : (s.slots index).state = .queued) {place : Place}
    (vacant : s.ticketAt place = none) (tickets : (s.issued index pending offline transactions dispatches).ticketAt =
      update s.ticketAt place (some ticket))
    (counted : (s.issued index pending offline transactions dispatches).pendingCount = s.pendingCount + 1)
    (names : Names (s.issued index pending offline transactions dispatches) place ticket index) :
    Sound (s.issued index pending offline transactions dispatches) := by
  obtain ⟨consistent, balanced⟩ := sound
  have used : (s.slots index).state ≠ .free := by rw [queued]; decide
  have change : Rewrites s (s.issued index pending offline transactions dispatches) index
      { s.slots index with state := .dispatching } := rfl
  have ticketed := consistent.ticketed.issue change ⟨rfl, rfl⟩ vacant tickets
    (by rw [queued]; decide) names
  refine ⟨?_, ?_⟩
  · refine consistent.rewrite change rfl le_rfl
      (fun _ => ⟨(consistent.fits index used).1, fun ended => ?_⟩)
      (fun _ other apart holds => apart (consistent.distinct index other used holds)) ticketed
      (consistent.opened used)
    rcases ended with ended | ended <;> cases ended
  · obtain ⟨live, ended, flagged, unflagged⟩ := change.shifts (.inl queued) (.inr rfl) rfl
    have sent := (moved change).sent
    rw [if_neg (by rw [queued]; decide), if_pos rfl] at sent
    have paired := balanced.tickets
    refine { balanced with items := ?_, ends := ?_, tickets := by omega, cancels := ?_, requests := ?_ }
    · rw [live]
      exact balanced.items
    · rw [ended]
      exact balanced.ends
    · rw [flagged]
      exact balanced.cancels
    · rw [unflagged]
      exact balanced.requests

/-- The bypass counts are not looked at but for their bound. -/
theorem sound_bypass (sound : Sound s) {high : CpuId → Nat} {maximum : Nat} (most : maximum ≤ maxHighBypass)
    (each : ∀ cpu, high cpu ≤ maxHighBypass) : Sound { s with highBypass := high, maximumHighBypass := maximum } := by
  obtain ⟨consistent, balanced⟩ := sound
  have ticketed : Ticketed { s with highBypass := high, maximumHighBypass := maximum } :=
    consistent.ticketed.same rfl ⟨rfl, rfl⟩ rfl
  exact ⟨{ consistent with ticketed }, { balanced with bypass := ⟨most, each⟩ }⟩

/-- A ticket is issued, and nothing has been completed. -/
structure Staged (s s' : Controller) : Prop where
  sound : Sound s'
  completed : s'.completed = s.completed
  sum : s'.driverSampleSum = s.driverSampleSum
  generation : s'.activeServiceGeneration = s.activeServiceGeneration
  fresh : ∀ index, (s'.slots index).state = .completed → (s.slots index).state = .completed
  past : ∀ index generation, Past (s.slots index) generation → Past (s'.slots index) generation

theorem Staged.quiet (staged : Staged s s') (room : Room s') : Quiet s s' :=
  ⟨staged.sound, staged.completed, staged.sum, staged.generation, fun _ => room, staged.fresh, staged.past⟩

/-- A ticket is issued after the bypass counts are set. -/
theorem staged_issued {high : CpuId → Nat} {maximum : Nat} (queued : (s.slots index).state = .queued)
    (after : Sound (Controller.issued { s with highBypass := high, maximumHighBypass := maximum } index
      pending offline transactions dispatches)) :
    Staged s (Controller.issued { s with highBypass := high, maximumHighBypass := maximum } index
      pending offline transactions dispatches) := by
  have change : Rewrites s (Controller.issued
      { s with highBypass := high, maximumHighBypass := maximum } index pending offline transactions
      dispatches) index { s.slots index with state := .dispatching } := rfl
  refine ⟨after, rfl, rfl, rfl, change.fresh nofun, change.past (fun _ past => ?_)⟩
  exact past.of_live (by rw [queued]; decide) (by rw [queued]; decide) le_rfl

theorem pendingCount_pending {ticket : DispatchTicket} (idle : s.pending cpu = none)
    (pending : s'.pending = update s.pending cpu (some ticket))
    (offline : s'.offlinePending = s.offlinePending) : s'.pendingCount = s.pendingCount + 1 := by
  have counted := @Cells.count_insert _ _ s.pending (fun _ => true) cpu ticket idle
  rw [if_pos rfl] at counted
  unfold pendingCount
  rw [pending, offline, counted]
  omega

theorem pendingCount_probe {ticket : DispatchTicket} (idle : s.offlinePending = none) (pending : s'.pending = s.pending)
    (offline : s'.offlinePending = some ticket) : s'.pendingCount = s.pendingCount + 1 := by
  unfold pendingCount
  rw [pending, offline, idle]
  rfl

/-- The ticket that `install_ticket` returns is for the item of the slot. -/
theorem wp_installTicket {done : DispatchTicket → Controller → Prop}
    {sourceCpu targetCpu workerGeneration requestAttempt requestSequence : Nat}
    (pass : ∀ ticket : DispatchTicket, ticket.id = s.id index → ticket.sourceCpu = sourceCpu →
      ticket.targetCpu = targetCpu → ticket.workerGeneration = workerGeneration →
        done ticket { s with
          slots := update s.slots index { s.slots index with state := .dispatching }
          transactionSequence := s.transactionSequence + 1 }) :
    wp (installTicket index sourceCpu targetCpu workerGeneration requestAttempt requestSequence) done
      (fun _ _ => True) s := by
  unfold installTicket modifySlot
  simp only [wp_bind, wp_read, wp_update, wp_pure]
  refine wp_ensure_intro (fun _ => ?_) (fun _ => trivial)
  refine wp_advance _ _ _ (fun _ => ?_) (fun _ => trivial)
  refine pass _ ?_ rfl rfl rfl
  unfold Controller.id Controller.setSlot
  dsimp only
  rw [update_self]

theorem names_issued {place : Place} (item : ticket.id = s.id index)
    (source : ticket.sourceCpu = (s.slots index).request.targetCpu) (target : ticket.targetCpu = Place.target place)
    (worker : ∀ cpu, place = some cpu →
      ticket.workerGeneration = s.workerGeneration cpu ∧ cpu ≠ 0 ∧ Allows s.onlineMask cpu) : Names
    (s.issued index pending offline transactions dispatches) place ticket index := by
  have self : (s.issued index pending offline transactions dispatches).slots index =
      { s.slots index with state := .dispatching } := update_self ..
  refine ⟨?_, ?_, ?_, target, worker⟩
  · unfold Controller.id
    rw [self]
    exact item
  · rw [self]
  · rw [self]
    exact source

theorem wp_stageDispatchInner (sound : Sound s) (targetCpu : Nat) (permit : DispatchPermit)
    (requestAttempt requestSequence : Nat) : wp (stageDispatchInner targetCpu permit requestAttempt requestSequence)
      (fun _ s' => Staged s s') (fun _ _ => True) s := by
  unfold stageDispatchInner requireDispatchPermit Controller.requireDispatchPermit increment
  simp only [wp_bind, wp_read, wp_update]
  refine wp_lift_intro (fun _ _ => ?_) (fun _ _ => trivial)
  refine wp_requireAp (fun target here nonzero online => ?_) (fun _ _ => trivial)
  refine wp_ensure_intro (fun idle => ?_) (fun _ => trivial)
  obtain ⟨⟨high, maximum, picked, most, each⟩, found⟩ := selectNext_spec sound.balanced.bypass target
  rw [picked]
  refine wp_orError (fun index chosen => ?_) (fun _ => trivial)
  refine wp_ensure_intro (fun _ => ?_) (fun _ => trivial)
  refine wp_installTicket (fun ticket item source target' worker => ?_)
  refine wp_advance _ _ _ (fun _ => ?_) (fun _ => trivial)
  have names := @names_issued { s with highBypass := high, maximumHighBypass := maximum } index ticket
    (update s.pending target (some ticket)) s.offlinePending (s.transactionSequence + 1)
    (s.dispatches + 1) (some target) item source (target'.trans here.symm) (fun cpu same => by
      cases same
      exact ⟨worker, nonzero, online⟩)
  have vacant : Controller.ticketAt { s with highBypass := high, maximumHighBypass := maximum }
      (some target) = none := idle
  have queued := found index chosen
  have after := sound_issued (sound_bypass sound most each) queued vacant
    (ticketAt_setPending rfl rfl) (pendingCount_pending idle rfl rfl) names
  exact wp_check after (staged_issued queued after)

theorem wp_stageDispatch (sound : Sound s) (targetCpu : Nat) (permit : DispatchPermit)
    (requestAttempt requestSequence : Nat) : wp (stageDispatch targetCpu permit requestAttempt requestSequence)
      (fun _ s' => Quiet s s') (fun _ s' => s' = s) s := by
  refine wp_transact ?_
  simp only [wp_bind, wp_pure]
  refine wp_mono (wp_stageDispatchInner sound targetCpu permit requestAttempt requestSequence) ?_
    (fun _ _ _ => trivial)
  intro ticket s' staged
  refine wp_mono (wp_preflightPendingCommits staged.sound) ?_ (fun _ _ _ => trivial)
  rintro _ s'' ⟨rfl, room⟩
  exact staged.quiet room

theorem wp_stageOfflineProbeInner (sound : Sound s) (id : WorkId) (offlineCpu : Nat)
    (permit : DispatchPermit) (requestAttempt requestSequence : Nat) :
    wp (stageOfflineProbeInner id offlineCpu permit requestAttempt requestSequence)
      (fun _ s' => Staged s s') (fun _ _ => True) s := by
  unfold stageOfflineProbeInner requireDispatchPermit Controller.requireDispatchPermit
  simp only [wp_bind, wp_read, wp_update]
  refine wp_lift_intro (fun _ _ => ?_) (fun _ _ => trivial)
  refine wp_ensure_intro (fun probe => ?_) (fun _ => trivial)
  refine wp_ensure_intro (fun idle => ?_) (fun _ => trivial)
  refine wp_resolve (fun index alive => ?_) (fun _ => trivial)
  refine wp_ensure_intro (fun queued => ?_) (fun _ => trivial)
  refine wp_ensure_intro (fun _ => ?_) (fun _ => trivial)
  refine wp_installTicket (fun ticket item source target _ => ?_)
  have vacant : s.ticketAt none = none := idle
  have names := @names_issued s index ticket s.pending (some ticket) (s.transactionSequence + 1)
    s.dispatches none item source (target.trans probe) (by simp)
  have after := sound_issued sound queued vacant (ticketAt_setOffline rfl rfl)
    (pendingCount_probe idle rfl rfl) names
  exact wp_check after (staged_issued queued after)

theorem wp_stageOfflineProbe (sound : Sound s) (id : WorkId) (offlineCpu : Nat) (permit : DispatchPermit)
    (requestAttempt requestSequence : Nat) : wp (stageOfflineProbe id offlineCpu permit requestAttempt requestSequence)
      (fun _ s' => Quiet s s') (fun _ s' => s' = s) s := by
  refine wp_transact ?_
  simp only [wp_bind, wp_pure]
  refine wp_mono
    (wp_stageOfflineProbeInner sound id offlineCpu permit requestAttempt requestSequence) ?_
    (fun _ _ _ => trivial)
  intro ticket s' staged
  refine wp_mono (wp_preflightPendingCommits staged.sound) ?_ (fun _ _ _ => trivial)
  rintro _ s'' ⟨rfl, room⟩
  exact staged.quiet room

end Issue

end PooleOS.Workers
