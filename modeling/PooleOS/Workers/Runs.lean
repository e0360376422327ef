import PooleOS.Lib.Tally
import PooleOS.Workers.Dispatch

/- Whole runs of the controller: what is conserved by every sequence of calls with
any arguments, and which acknowledgements go through in the states reached. -/
namespace PooleOS.Workers

open List Op
open Controller

variable {s s' : Controller} {index : Index} {cpu : CpuId} {ticket : DispatchTicket}

/-- A public operation with its arguments. -/
inductive Call
  | enqueueFromTopHalf (context : TopHalfContext) (request : WorkRequest)
  | observeEoi
  | stageDispatch (targetCpu : Nat) (permit : DispatchPermit) (requestAttempt requestSequence : Nat)
  | stageOfflineProbe (id : WorkId) (offlineCpu : Nat) (permit : DispatchPermit)
      (requestAttempt requestSequence : Nat)
  | cancel (id : WorkId)
  | acknowledge (ticket : DispatchTicket) (ack : RemoteAck)
  | timeout (ticket : DispatchTicket)
  | rejectStaleAck (ticket : DispatchTicket) (ack : RemoteAck)
  | reclaim (id : WorkId) (token : FlushToken)
  | retireAllTerminal (token : FlushToken)
  | offlineWorker (cpu : Nat)
  | finishShutdown
deriving DecidableEq, Repr

/-- What an operation returns. -/
inductive Reply
  | id (value : WorkId)
  | permit (value : DispatchPermit)
  | ticket (value : DispatchTicket)
  | receipt (value : Receipt)
  | count (value : Nat)
  | done
deriving DecidableEq, Repr

def Call.exec : Call → M Reply
  | .enqueueFromTopHalf context request => do
      return .id (← Workers.enqueueFromTopHalf context request)
  | .observeEoi => do return .permit (← Workers.observeEoi)
  | .stageDispatch targetCpu permit requestAttempt requestSequence => do
      return .ticket (← Workers.stageDispatch targetCpu permit requestAttempt requestSequence)
  | .stageOfflineProbe item offlineCpu permit requestAttempt requestSequence => do
      return .ticket
        (← Workers.stageOfflineProbe item offlineCpu permit requestAttempt requestSequence)
  | .cancel item => do Workers.cancel item; return .done
  | .acknowledge ticket ack => do return .receipt (← Workers.acknowledge ticket ack)
  | .timeout ticket => do Workers.timeout ticket; return .done
  | .rejectStaleAck ticket ack => do Workers.rejectStaleAck ticket ack; return .done
  | .reclaim item token => do Workers.reclaim item token; return .done
  | .retireAllTerminal token => do return .count (← Workers.retireAllTerminal token)
  | .offlineWorker cpu => do Workers.offlineWorker cpu; return .done
  | .finishShutdown => do Workers.finishShutdown; return .done

def step (s : Controller) (call : Call) : Controller := (call.exec.run s).2

/-- The state after a sequence of operations, whatever each of them returned. -/
def run (s : Controller) (calls : List Call) : Controller := calls.foldl step s

/-- The item in the slot is completed now, and was not before. -/
def Completes (s s' : Controller) (index : Index) : Prop :=
  (s'.slots index).state = .completed ∧ (s.slots index).state ≠ .completed

instance (s s' : Controller) (index : Index) : Decidable (Completes s s' index) :=
  inferInstanceAs (Decidable (_ ∧ _))

/-- The items that a step completes, with their consumers. -/
def completed (s s' : Controller) : List (WorkId × Consumer) :=
  ((List.finRange workCapacity).filter (fun index => Completes s s' index)).map
    (fun index => (s'.id index, (s'.slots index).request.consumer))

/-- The items that a run completes, in order. -/
def completions (s : Controller) : List Call → List (WorkId × Consumer)
  | [] => []
  | call :: rest => completed s (step s call) ++ completions (step s call) rest

/-- The samples of the driver items, added up. -/
def samples (items : List (WorkId × Consumer)) : Nat := (items.map (fun item => item.2.sample)).sum

/-- The number of service items. -/
def services (items : List (WorkId × Consumer)) : Nat := (items.map (fun item => item.2.step)).sum

section Outcome

/-- What a call has done, whatever it returned. -/
structure Outcome (s s' : Controller) : Prop where
  sound : Sound s'
  room : Room s → Room s'
  count : s'.completed = s.completed + (completed s s').length
  sum : s'.driverSampleSum = s.driverSampleSum + samples (completed s s')
  generation : s'.activeServiceGeneration = s.activeServiceGeneration + services (completed s s')
  past : ∀ index generation, Past (s.slots index) generation → Past (s'.slots index) generation
  once : ((completed s s').map Prod.fst).Nodup
  ends : ∀ item ∈ completed s s', ∃ index, item.1.slot = index.val ∧
    ¬ Past (s.slots index) item.1.generation ∧ Past (s'.slots index) item.1.generation

theorem completed_nil (fresh : ∀ index, (s'.slots index).state = .completed → (s.slots index).state = .completed) :
    completed s s' = [] := by
  unfold completed
  rw [map_eq_nil_iff, filter_eq_nil_iff]
  intro index _
  rw [decide_eq_true_iff]
  exact fun completes => completes.2 (fresh index completes.1)

theorem Quiet.outcome (quiet : Quiet s s') : Outcome s s' := by
  have none_ := completed_nil quiet.fresh
  refine ⟨quiet.sound, quiet.room, ?_, ?_, ?_, quiet.past, ?_, ?_⟩
  · rw [none_]
    exact quiet.completed
  · rw [none_]
    exact quiet.sum
  · rw [none_]
    exact quiet.generation
  · rw [none_]
    exact nodup_nil
  · rw [none_]
    exact fun _ member => nomatch member

theorem completed_singleton (only : ∀ other, Completes s s' other ↔ other = index) :
    completed s s' = [(s'.id index, (s'.slots index).request.consumer)] := by
  unfold completed
  rw [filter_finRange_singleton only, map_singleton]

/-- The acknowledgement of a ticket completes its item, or ends a cancelled one. -/
theorem settle_outcome (sound : Sound s) (out : s.pending cpu = some ticket)
    (names : Names s (some cpu) ticket index) (result : Nat) (ready : Ready s (s.slots index)) :
    Outcome s (s.settle cpu index result (s.effects (s.slots index))) := by
  obtain ⟨sum, numbered⟩ := effects_bounded sound ready
  have sound' := sound_settle sound out names result sum numbered
  have total := total_settle sound out names result
  have sending := names.dispatching
  have used : (s.slots index).state ≠ .free := by rw [sending]; decide
  have busy : (s.slots index).state ≠ .completed := by rw [sending]; decide
  have change : Rewrites s (s.settle cpu index result (s.effects (s.slots index))) index
      { s.slots index with
        state := (s.slots index).outcome, completionSequence := s.completionSequence + 1
        result := result } := rfl
  have past := change.past (fun _ old => old.of_live busy used le_rfl)
  have room : Room s → Room (s.settle cpu index result (s.effects (s.slots index))) := by
    intro room
    unfold Room at room ⊢
    unfold Controller.total at total
    omega
  cases asked : (s.slots index).cancelRequested with
  | true =>
    have none_ : completed s (s.settle cpu index result (s.effects (s.slots index))) = [] := by
      have ended : (s.slots index).outcome = .cancelled := if_pos asked
      refine completed_nil (change.fresh ?_)
      rw [ended]
      nofun
    refine ⟨sound', room, ?_, ?_, ?_, past, ?_, ?_⟩
    · rw [none_]
      exact if_pos asked
    · rw [none_]
      exact congrArg Prod.fst (if_pos asked)
    · rw [none_]
      exact congrArg Prod.snd (if_pos asked)
    · rw [none_]
      exact nodup_nil
    · rw [none_]
      exact fun _ member => nomatch member
  | false =>
    have unasked : ¬ (s.slots index).cancelRequested = true := by rw [asked]; decide
    have ended : (s.slots index).outcome = .completed := if_neg unasked
    have only : ∀ other, Completes s (s.settle cpu index result (s.effects (s.slots index))) other ↔
        other = index := by
      intro other
      refine ⟨fun completes => ?_, ?_⟩
      · by_contra apart
        have same := completes.1
        rw [change.other apart] at same
        exact completes.2 same
      · rintro rfl
        refine ⟨?_, busy⟩
        rw [change.self]
        exact ended
    have one := completed_singleton only
    rw [change.self] at one
    have home : (s.settle cpu index result (s.effects (s.slots index))).id index =
        ⟨index.val, (s.slots index).generation⟩ := by
      unfold Controller.id
      rw [change.self]
    refine ⟨sound', room, ?_, ?_, ?_, past, ?_, ?_⟩
    · rw [one]
      exact if_neg unasked
    · rw [one]
      exact congrArg Prod.fst (if_neg unasked)
    · rw [one]
      exact congrArg Prod.snd (if_neg unasked)
    · rw [one]
      exact nodup_singleton _
    · rw [one, home]
      intro item member
      rw [mem_singleton] at member
      subst member
      refine ⟨index, rfl, ?_, ?_⟩
      · rintro (older | ⟨_, completed | free⟩)
        · exact lt_irrefl _ older
        · exact busy completed
        · exact used free
      · rw [change.self]
        exact .inr ⟨rfl, .inl ended⟩

end Outcome

section Calls

/-- A failed call changes nothing but the count of suppressed duplicates. -/
def Refused (s : Controller) (reason : Error) (s' : Controller) : Prop :=
  Outcome s s' ∧ (reason ≠ .duplicate → s' = s)

section

variable (sound : Sound s)
include sound

theorem Refused.unchanged (reason : Error) : Refused s reason s :=
  ⟨(Quiet.refl sound).outcome, fun _ => rfl⟩

/-- A method on a copy, where an error discards the copy. -/
theorem wp_transact_quiet {α : Type} {method : M α}
    (inner : wp method (fun _ s' => Quiet s s') (fun _ _ => True) s) :
    wp (transact method) (fun _ s' => Outcome s s') (Refused s) s :=
  wp_transact (wp_mono inner (fun _ _ quiet => quiet.outcome) (fun reason _ _ => Refused.unchanged sound reason))

theorem wp_quiet {α : Type} {method : M α}
    (holds : wp method (fun _ s' => Quiet s s') (fun _ s' => s' = s) s) :
    wp method (fun _ s' => Outcome s s') (Refused s) s := by
  refine wp_mono holds (fun _ _ quiet => quiet.outcome) ?_
  rintro reason s' rfl
  exact Refused.unchanged sound reason

/-- The acknowledgement completes an item only where its ticket is out and its item is ready. -/
theorem wp_acknowledge (ticket : DispatchTicket) (ack : RemoteAck) :
    wp (acknowledge ticket ack) (fun _ s' => Outcome s s') (Refused s) s := by
  unfold acknowledge acknowledgeInner
  refine wp_transact ?_
  simp only [wp_bind, wp_read]
  refine wp_requireAp (fun target _ _ _ => ?_) (fun reason _ => Refused.unchanged sound reason)
  refine wp_ensure_intro (fun out => ?_) (fun _ => Refused.unchanged sound _)
  refine wp_ensure_intro (fun _ => ?_) (fun _ => Refused.unchanged sound _)
  obtain ⟨index, names⟩ := sound.consistent.ticketed.named (some target) ticket out
  refine wp_mono (wp_commitAcknowledgement sound out names) ?_
    (fun reason _ _ => Refused.unchanged sound reason)
  rintro receipt s' ⟨ready, _, rfl⟩
  exact settle_outcome sound out names _ ready

theorem wp_enqueueFromTopHalf (context : TopHalfContext) (request : WorkRequest) :
    wp (enqueueFromTopHalf context request) (fun _ s' => Outcome s s') (Refused s) s := by
  refine wp_publish (wp_mono (wp_enqueueFromTopHalfInner sound context request)
    (fun _ _ quiet => quiet.outcome) (fun reason s' quiet => ⟨fun shown => ?_, fun _ => ?_⟩))
  · exact ⟨(quiet shown).outcome, fun hidden => absurd shown hidden⟩
  · exact Refused.unchanged sound reason

theorem wp_exec (call : Call) : wp call.exec (fun _ s' => Outcome s s') (Refused s) s := by
  cases call <;> simp only [Call.exec, wp_bind, wp_pure]
  case enqueueFromTopHalf context request => exact wp_enqueueFromTopHalf sound context request
  case observeEoi => exact wp_quiet sound (wp_observeEoi sound)
  case stageDispatch targetCpu permit attempt sequence =>
    exact wp_quiet sound (wp_stageDispatch sound targetCpu permit attempt sequence)
  case stageOfflineProbe item offlineCpu permit attempt sequence =>
    exact wp_quiet sound (wp_stageOfflineProbe sound item offlineCpu permit attempt sequence)
  case cancel item => exact wp_transact_quiet sound (wp_cancelInner sound item)
  case acknowledge ticket ack => exact wp_acknowledge sound ticket ack
  case timeout ticket => exact wp_transact_quiet sound (wp_timeoutInner sound ticket)
  case rejectStaleAck ticket ack => exact wp_quiet sound (wp_rejectStaleAck sound ticket ack)
  case reclaim item token => exact wp_transact_quiet sound (wp_reclaimInner sound item token)
  case retireAllTerminal token => exact wp_quiet sound (wp_retireAllTerminal sound token)
  case offlineWorker cpu => exact wp_transact_quiet sound (wp_offlineWorkerInner sound cpu)
  case finishShutdown => exact wp_quiet sound (wp_finishShutdown sound)

theorem step_outcome (call : Call) : Outcome s (step s call) := by
  have holds := wp_exec sound call
  exact wp_state.mp (wp_mono holds (fun _ _ outcome => outcome) (fun _ _ refused => refused.1))

end

end Calls

section Runs

theorem room_new : Room Controller.new := by
  unfold Room
  decide

/-- Every state that is reached is sound and has room for the tickets that are out. -/
theorem run_sound (calls : List Call) : Sound (run Controller.new calls) ∧ Room (run Controller.new calls) :=
  @Op.foldl_invariant _ _ step (fun s => Sound s ∧ Room s)
    (fun _ call kept => ⟨(step_outcome kept.1 call).sound, (step_outcome kept.1 call).room kept.2⟩)
    calls Controller.new ⟨sound_new, room_new⟩

/-- What the completed items of a run add up to. -/
theorem run_totals (calls : List Call) : ∀ {s : Controller}, Sound s →
    (run s calls).completed = s.completed + (completions s calls).length ∧
      (run s calls).driverSampleSum = s.driverSampleSum + samples (completions s calls) ∧
        (run s calls).activeServiceGeneration = s.activeServiceGeneration + services (completions s calls) := by
  induction calls with
  | nil => exact fun _ => ⟨rfl, rfl, rfl⟩
  | cons call rest ih =>
    intro s sound
    have outcome := step_outcome sound call
    obtain ⟨count, sum, generation⟩ := ih outcome.sound
    have counted := outcome.count
    have summed := outcome.sum
    have numbered := outcome.generation
    change (run (step s call) rest).completed = _ ∧ (run (step s call) rest).driverSampleSum = _ ∧
      (run (step s call) rest).activeServiceGeneration = _
    unfold samples services at *
    simp only [completions, length_append, map_append, sum_append]
    omega

/-- No item completes twice: the identities before are past, and a new one was not. -/
theorem nodup_completions (calls : List Call) : ∀ {s : Controller}, Sound s → ∀ seen : List (WorkId × Consumer),
      (∀ item ∈ seen, ∃ index, item.1.slot = index.val ∧ Past (s.slots index) item.1.generation) →
        (seen.map Prod.fst).Nodup → ((seen ++ completions s calls).map Prod.fst).Nodup := by
  induction calls with
  | nil =>
    intro s sound seen _ distinct
    rw [completions, append_nil]
    exact distinct
  | cons call rest ih =>
    intro s sound seen past distinct
    have outcome := step_outcome sound call
    rw [completions, ← append_assoc]
    refine ih outcome.sound (seen ++ completed s (step s call)) ?_ ?_
    · intro item member
      rcases mem_append.mp member with old | new
      · obtain ⟨index, place, left⟩ := past item old
        exact ⟨index, place, outcome.past index _ left⟩
      · obtain ⟨index, place, _, now⟩ := outcome.ends item new
        exact ⟨index, place, now⟩
    · rw [map_append, nodup_append]
      refine ⟨distinct, outcome.once, ?_⟩
      intro id old id' new same
      obtain ⟨first, member, rfl⟩ := mem_map.mp old
      obtain ⟨second, member', rfl⟩ := mem_map.mp new
      obtain ⟨index, place, left⟩ := past first member
      obtain ⟨index', place', before, _⟩ := outcome.ends second member'
      have here : index = index' := Fin.ext (place.symm.trans ((congrArg WorkId.slot same).trans place'))
      rw [here, same] at left
      exact before left

/-- Conservation of the work, and atomicity of every call, along every run. -/
theorem workers_conserve (calls : List Call) :
    let s := run Controller.new calls
    let items := completions Controller.new calls
    (s.enqueued = s.completed + s.cancelled + s.live ∧ s.completed + s.cancelled = s.reclaimed + s.ended) ∧
    ((∀ index, (s.slots index).state = .dispatching →
        ∃! place, ∃ ticket, s.ticketAt place = some ticket ∧ ticket.id = s.id index) ∧
      ∀ place ticket, s.ticketAt place = some ticket →
        ∃ index, ticket.id = s.id index ∧ (s.slots index).state = .dispatching) ∧
    (s.driverSampleSum = samples items ∧ s.activeServiceGeneration = 1 + services items ∧
      s.completed = items.length ∧ (items.map Prod.fst).Nodup) ∧
    s.validate = .ok () ∧
    (∀ call reason, (call.exec.run s).1 = .error reason → reason ≠ .duplicate → step s call = s) := by
  intro s items
  have sound : Sound s := (run_sound calls).1
  obtain ⟨count, sum, generation⟩ := run_totals calls sound_new
  have ticketed := sound.consistent.ticketed
  refine ⟨⟨sound.balanced.items, sound.balanced.ends⟩, ⟨?_, ?_⟩, ⟨?_, generation, ?_, ?_⟩, validate_ok sound, ?_⟩
  · intro index dispatching
    obtain ⟨place, ticket, out, item⟩ := ticketed.owned index dispatching
    refine ⟨place, ⟨ticket, out, item⟩, ?_⟩
    rintro other ⟨second, held, same⟩
    exact ticketed.alone other place second ticket held out (same.trans item.symm)
  · intro place ticket out
    obtain ⟨index, names⟩ := ticketed.named place ticket out
    exact ⟨index, names.item, names.dispatching⟩
  · exact sum.trans (Nat.zero_add _)
  · exact count.trans (Nat.zero_add _)
  · exact nodup_completions calls sound_new [] (fun _ member => nomatch member)
      nodup_nil
  · intro call reason failed other
    exact ((wp_iff.mp (wp_exec sound call)).2 reason failed).2 other

end Runs

section Acknowledgements

/-- What lets the acknowledgement of an item through: a driver item has no condition, and a service
item has to be next or cancelled. -/
def Due (s : Controller) (slot : Slot) : Prop :=
  slot.cancelRequested = true ∨
    match slot.request.consumer with
    | .driverTimerBottomHalf _ _ => True
    | .serviceGenerationReclaim retiredGeneration _ => retiredGeneration = s.activeServiceGeneration

/-- With room for every ticket that is out, only the order of the service items is left. -/
theorem ready_iff_due (room : Room s) (out : s.pending cpu = some ticket)
    (names : Names s (some cpu) ticket index) : Ready s (s.slots index) ↔ Due s (s.slots index) := by
  unfold Ready Due
  cases asked : (s.slots index).cancelRequested with
  | true => simp
  | false =>
    cases kind : (s.slots index).request.consumer with
    | serviceGenerationReclaim retired active => exact .rfl
    | driverTimerBottomHalf vector sample =>
      have load : s.load cpu = sample := by
        rw [load_names out names]
        unfold Slot.weight
        rw [asked, kind]
        rfl
      have part : s.load cpu ≤ ∑ other, s.load other :=
        Finset.single_le_sum (fun _ _ => Nat.zero_le _) (Finset.mem_univ cpu)
      unfold Room at room
      have fits : s.driverSampleSum + sample < u32Values := by omega
      exact ⟨fun _ => .inr trivial, fun _ => .inr fits⟩

/-- The exact acknowledgement of a ticket that is out. -/
theorem wp_acknowledge_exact (sound : Sound s) (room : Room s) (out : s.pending cpu = some ticket)
    (names : Names s (some cpu) ticket index) {ack : RemoteAck} (exactly : Matches ticket ack) :
    wp (acknowledge ticket ack) (fun _ _ => Due s (s.slots index))
      (fun reason s' => ¬ Due s (s.slots index) ∧ reason = .reclaimOrder ∧ s' = s) s := by
  obtain ⟨_, nonzero, online⟩ := names.worker cpu rfl
  unfold acknowledge acknowledgeInner
  refine wp_transact ?_
  simp only [wp_bind, wp_read]
  refine wp_requireAp (fun target here _ _ => ?_) (fun _ none_ => ?_)
  swap
  · exact absurd online (none_ cpu names.target.symm nonzero)
  obtain rfl : target = cpu := Fin.ext (here.trans names.target)
  refine wp_ensure_intro (fun _ => ?_) (fun missing => absurd out missing)
  refine wp_ensure_intro (fun _ => ?_) (fun wrong => absurd exactly wrong)
  have due := ready_iff_due room out names
  refine wp_mono (wp_commitAcknowledgement sound out names)
    (fun _ _ done => due.mp done.1) ?_
  rintro reason _ ⟨unready, rfl⟩
  have late : ¬ Due s (s.slots index) := fun now => unready (due.mpr now)
  refine ⟨late, ?_, trivial⟩
  unfold Due at late
  cases kind : (s.slots index).request.consumer with
  | driverTimerBottomHalf vector sample =>
    rw [kind] at late
    exact absurd (.inr trivial) late
  | serviceGenerationReclaim retired active => rfl

/-- An item that is being dispatched can be cancelled once. -/
theorem wp_cancel_exact (sound : Sound s) (names : Names s (some cpu) ticket index)
    (unasked : (s.slots index).cancelRequested = false) :
    wp (cancel ticket.id) (fun _ s' => Quiet s s' ∧ s'.pending = s.pending ∧
      (s'.slots index).cancelRequested = true ∧ s'.id index = s.id index) (fun _ _ => False) s := by
  have sending := names.dispatching
  have used : (s.slots index).state ≠ .free := by rw [sending]; decide
  have room : s.remoteCancelRequests + 1 < u32Values := by
    have counted : 0 < s.unflagged :=
      @count_pos s (fun slot => slot.Live ∧ slot.cancelRequested = false) _ index ⟨.inr sending, unasked⟩
    have asked := sound.balanced.requests
    have small := sound.balanced.small
    omega
  unfold cancel cancelInner
  refine wp_transact ?_
  simp only [wp_bind, wp_read]
  refine wp_resolve (fun home alive => ?_) (fun gone => absurd ⟨used, names.item.symm⟩ (gone index))
  obtain rfl : home = index := id_injective (alive.2.trans names.item)
  rw [sending]
  simp only [modifySlot, increment, wp_bind, wp_update]
  refine wp_ensure_intro (fun _ => ?_) (fun wrong => absurd unasked wrong)
  refine wp_advance _ _ _ (fun _ => ?_) (fun full => absurd room (Nat.not_lt.mpr full))
  have quiet := quiet_request sound sending unasked
  refine wp_check quiet.sound ⟨quiet, rfl, ?_, ?_⟩
  · unfold Controller.setSlot
    dsimp only
    rw [Function.update_self]
  · unfold Controller.id Controller.setSlot
    dsimp only
    rw [Function.update_self]

/-- In every state that is reached the exact acknowledgement of a ticket goes through where its item
is due, and else is refused for its order and goes through once the item is cancelled. -/
theorem acknowledgement_goes_through (calls : List Call) (cpu : CpuId) (ticket : DispatchTicket)
    (out : (run Controller.new calls).pending cpu = some ticket) (ack : RemoteAck)
    (exactly : Matches ticket ack) :
    let s := run Controller.new calls
    ∃ index, s.id index = ticket.id ∧ (s.slots index).state = .dispatching ∧
      (Due s (s.slots index) → ∃ receipt, ((acknowledge ticket ack).run s).1 = .ok receipt) ∧
      (¬ Due s (s.slots index) → (acknowledge ticket ack).run s = (.error .reclaimOrder, s) ∧
        ((cancel ticket.id).run s).1 = .ok () ∧
        ∃ receipt, ((acknowledge ticket ack).run ((cancel ticket.id).run s).2).1 = .ok receipt) := by
  intro s
  obtain ⟨sound, room⟩ : Sound s ∧ Room s := run_sound calls
  obtain ⟨index, names⟩ := sound.consistent.ticketed.named (some cpu) ticket out
  refine ⟨index, names.item.symm, names.dispatching, fun due => ?_, fun late => ?_⟩
  · obtain ⟨receipt, s', ran, _⟩ := wp_returns (wp_acknowledge_exact sound room out names exactly)
      (fun _ _ refused => refused.1 due)
    exact ⟨receipt, congrArg Prod.fst ran⟩
  · have unasked : (s.slots index).cancelRequested = false := by
      by_contra asked
      exact late (.inl ((Bool.not_eq_false _).mp asked))
    obtain ⟨reason, s', refused, _, rfl, rfl⟩ := wp_fails
      (wp_acknowledge_exact sound room out names exactly) (fun _ _ due => late due)
    obtain ⟨_, s', cancelled, quiet, pending, asked, same⟩ :=
      wp_returns (wp_cancel_exact sound names unasked) (fun _ _ never => never)
    have out' : s'.pending cpu = some ticket := by
      rw [pending]
      exact out
    obtain ⟨home, names'⟩ := quiet.sound.consistent.ticketed.named (some cpu) ticket out'
    obtain rfl : home = index := id_injective (names'.item.symm.trans names.item)
    obtain ⟨receipt, _, ran, _⟩ := wp_returns
      (wp_acknowledge_exact quiet.sound (quiet.room room) out' names' exactly)
      (fun _ _ late' => late'.1 (.inl asked))
    rw [cancelled]
    exact ⟨refused, rfl, receipt, congrArg Prod.fst ran⟩

/-- Two service items, staged on two processors in the order of their generations. -/
def twoServices : List Call :=
  [.enqueueFromTopHalf ⟨1, true, false, false⟩ ⟨1, 0, 1, .normal, .serviceGenerationReclaim 1 2⟩,
    .enqueueFromTopHalf ⟨1, true, false, false⟩ ⟨2, 0, 2, .normal, .serviceGenerationReclaim 2 3⟩,
    .observeEoi, .stageDispatch 1 ⟨1, 2⟩ 1 1, .stageDispatch 2 ⟨1, 2⟩ 1 2]

/-- The ticket of the second item, and its exact acknowledgement. -/
def laterTicket : DispatchTicket :=
  ⟨2, ⟨1, 1⟩, 2, 2, 1, 1, 2, callServiceReclaimToken, resultCallServiceReclaim⟩

def laterAck : RemoteAck := ⟨2, 1, 2, callFunctionOperation, ackAccepted, errorNone, resultCallServiceReclaim⟩

/-- The second acknowledgement arrives first: its ticket is out, and it is refused. -/
theorem early_acknowledgement_refused :
    (run Controller.new twoServices).pending 2 = some laterTicket ∧ Matches laterTicket laterAck ∧
      ((acknowledge laterTicket laterAck).run (run Controller.new twoServices)).1 = .error .reclaimOrder := by
  decide

theorem acknowledgement_goes_through_twoServices :
    let s := run Controller.new twoServices
    ∃ index, s.id index = laterTicket.id ∧ (s.slots index).state = .dispatching ∧
      (Due s (s.slots index) → ∃ receipt, ((acknowledge laterTicket laterAck).run s).1 = .ok receipt) ∧
      (¬ Due s (s.slots index) → (acknowledge laterTicket laterAck).run s = (.error .reclaimOrder, s) ∧
        ((cancel laterTicket.id).run s).1 = .ok () ∧
        ∃ receipt, ((acknowledge laterTicket laterAck).run ((cancel laterTicket.id).run s).2).1 =
          .ok receipt) :=
  acknowledgement_goes_through twoServices 2 laterTicket (by decide) laterAck (by decide)

end Acknowledgements

end PooleOS.Workers
