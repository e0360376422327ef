import PooleOS.Smp.Stages

/- What one public operation can do, said once, and what follows for every run:
the scheduler stays valid, and an operation that fails changes nothing. -/
namespace PooleOS.Smp

open List Op Option
open SmpScheduler

section

section

variable {s s' : SmpScheduler} {call : Call}

/-- The kind of transfer that an operation stages. -/
def Call.kind? : Call → Option TransferKind
  | .stageWake .. => some .wake
  | .stageMigration .. => some .migration
  | .stageDispatch .. => some .dispatch
  | .stagePreempt .. => some .preempt
  | .stageOfflineProbe .. => some .offlineProbe
  | _ => none

/-- The acknowledgement that a ticket waits for, in either of its two forms. -/
def Exact (ticket : TransferTicket) : Call → Prop
  | .acknowledge ticket' ack =>
    ticket' = ticket ∧ Matches ticket ack callFunctionOperation callFunctionResult
  | .acknowledgeReschedule ticket' ack =>
    ticket' = ticket ∧ Matches ticket ack rescheduleOperation rescheduleResult
  | _ => False

/-- Everything that a successful operation can have done. -/
inductive Did (s : SmpScheduler) : Call → Reply → SmpScheduler → Prop
  | beside {call : Call} {reply : Reply} {s' : SmpScheduler} {fresh : Slot}
      (plain : ∀ ticket, reply ≠ .ticket ticket) (step : Beside s s' fresh) : Did s call reply s'
  | stays {call : Call} {reply : Reply} {s' : SmpScheduler}
      (plain : ∀ ticket, reply ≠ .ticket ticket) (step : Stays s s') : Did s call reply s'
  | issued {call : Call} {ticket : TransferTicket} {s' : SmpScheduler} {slot : Slot}
      {target : CpuId} (kind : call.kind? = some ticket.kind) (idle : s.pending = none)
      (step : Issued s s' ticket slot target) : Did s call (.ticket ticket) s'
  | committed {call : Call} {ticket : TransferTicket} {s' : SmpScheduler} {slot : Slot}
      {target : CpuId} (matching : Exact ticket call) (transfer : ticket.kind ≠ .offlineProbe)
      (held : Held s ticket slot target) (step : Committed s s' ticket slot target) :
      Did s call .done s'
  | timedOut {ticket : TransferTicket} {s' : SmpScheduler} (pending : s.pending = some ticket)
      (probe : ticket.kind = .offlineProbe) (settled : Settled s') (quiet : Quiet s s')
      (transaction : s'.transaction = s.transaction) : Did s (.timeout ticket) .done s'
  | looked {id : TaskId} {reply : Reply} (plain : ∀ ticket, reply ≠ .ticket ticket) :
      Did s (.taskSnapshot id) reply s

/-- What a failed operation leaves: everything, but for the count that a snapshot keeps. -/
def Refused (s : SmpScheduler) (call : Call) (s' : SmpScheduler) : Prop :=
  s' = s ∨ ((∃ id, call = .taskSnapshot id) ∧ s' = { s with staleRejectionCount := s'.staleRejectionCount })

/-- The operation with its reply put in the common type. -/
theorem wp_reply {α : Type} {method : M α} (make : α → Reply) {done : α → SmpScheduler → Prop}
    {failed : Error → SmpScheduler → Prop} (holds : wp method done failed s)
    (pass : ∀ value s', done value s' → Did s call (make value) s')
    (stop : ∀ reason s', failed reason s' → Refused s call s') :
    wp (do return make (← method)) (Did s call) (fun _ => Refused s call) s := by
  rw [wp_bind]
  exact wp_mono holds (fun value s' did => pass value s' did) stop

theorem step_cases (sound : Sound s) (call : Call) : wp call.exec (Did s call) (fun _ => Refused s call) s := by
  have kept : ∀ {call : Call} (reason : Error) (s' : SmpScheduler), Kept s reason s' →
      Refused s call s' := fun _ _ same => .inl same
  have same : ∀ {call : Call} {more : Prop} (_ : Error) (s' : SmpScheduler), s' = s ∧ more →
      Refused s call s' := fun _ _ both => .inl both.1
  cases call with
  | createTask slot generation priority affinityMask =>
    refine wp_reply .task (wp_createTask sound slot generation priority affinityMask) ?_ kept
    rintro id s' ⟨fresh, beside⟩
    exact .beside (by simp) beside
  | activate id cpu =>
    refine wp_reply (fun _ => .done) (wp_activate sound id cpu) ?_ kept
    rintro _ s' ⟨fresh, beside⟩
    exact .beside (by simp) beside
  | blockRunnable id =>
    refine wp_reply (fun _ => .done) (wp_blockRunnable sound id) ?_ kept
    exact fun _ _ stays => .stays (by simp) stays
  | stageWake id target attempt sequence =>
    refine wp_reply .ticket (wp_stageWake sound id target attempt sequence) ?_ same
    rintro ticket s' ⟨idle, slot, _, _, ticketed⟩
    exact .issued (congrArg some ticketed.kind.symm) idle ticketed.issued
  | stageMigration id target attempt sequence =>
    refine wp_reply .ticket (wp_stageMigration sound id target attempt sequence) ?_ same
    rintro ticket s' ⟨idle, slot, _, _, ticketed⟩
    exact .issued (congrArg some ticketed.kind.symm) idle ticketed.issued
  | stageOfflineProbe id targetCpu attempt sequence =>
    refine wp_reply .ticket (wp_stageOfflineProbe sound id targetCpu attempt sequence) ?_ kept
    rintro ticket s' ⟨idle, slot, ticketed⟩
    exact .issued (congrArg some ticketed.kind.symm) idle ticketed.issued
  | stageDispatch cpu attempt sequence =>
    refine wp_reply .ticket (wp_stageDispatch sound cpu attempt sequence) ?_ same
    rintro ticket s' ⟨slot, able, issued, kind⟩
    exact .issued (congrArg some kind.symm) able.idle issued
  | stagePreempt cpu attempt sequence =>
    refine wp_reply .ticket (wp_stagePreempt sound cpu attempt sequence) ?_ same
    rintro ticket s' ⟨slot, able, ticketed⟩
    exact .issued (congrArg some ticketed.kind.symm) able.idle ticketed.issued
  | acknowledge ticket ack =>
    refine wp_reply (fun _ => .done) (wp_acknowledgeExpected sound ticket ack _ _) ?_ same
    rintro _ s' ⟨exact', transfer, slot, target, held, committed⟩
    exact .committed ⟨rfl, exact'⟩ transfer held committed
  | acknowledgeReschedule ticket ack =>
    refine wp_reply (fun _ => .done) (wp_acknowledgeExpected sound ticket ack _ _) ?_ same
    rintro _ s' ⟨exact', transfer, slot, target, held, committed⟩
    exact .committed ⟨rfl, exact'⟩ transfer held committed
  | cancelTask id =>
    refine wp_reply (fun _ => .done) (wp_cancelTask sound id) ?_ same
    rintro _ s' ⟨idle, settled, _, slot, _, _, ended⟩
    exact .stays (by simp) ⟨idle, settled, ended.transaction⟩
  | timeout ticket =>
    refine wp_reply (fun _ => .done) (wp_timeout sound ticket) ?_ same
    rintro _ s' ⟨pending, probe, settled, quiet, transaction⟩
    exact .timedOut pending probe settled quiet transaction
  | rejectStaleAck ticket ack =>
    refine wp_reply (fun _ => .done) (wp_rejectStaleAck sound ticket ack) ?_ kept
    exact fun _ _ stays => .stays (by simp) stays
  | completeCurrent cpu =>
    refine wp_reply .task (wp_completeCurrent sound cpu) ?_ kept
    exact fun _ _ stays => .stays (by simp) stays
  | dispatchLocal cpu =>
    refine wp_reply .task (wp_dispatchLocal sound cpu) ?_ kept
    exact fun _ _ stays => .stays (by simp) stays
  | offlineIdleCpu cpu =>
    refine wp_reply (fun _ => .done) (wp_offlineIdleCpu sound cpu) ?_ kept
    exact fun _ _ stays => .stays (by simp) stays
  | taskSnapshot id =>
    refine wp_reply .snapshot (wp_taskSnapshot s id) ?_ ?_
    · rintro snapshot s' rfl
      exact .looked (by simp)
    · exact fun _ s' counted => .inr ⟨⟨id, rfl⟩, counted⟩

theorem Did.sound {reply : Reply} (did : Did s call reply s') (sound : Sound s) : Sound s' := by
  cases did with
  | beside _ step => exact sound.beside step
  | stays _ step => exact .inl step.settled
  | issued _ _ step => exact .inr ⟨_, _, _, step.held⟩
  | committed _ _ _ step => exact .inl step.settled
  | timedOut _ _ settled => exact .inl settled
  | looked => exact sound

/-- The count of stale identities is part of no condition. -/
theorem Held.recount {ticket : TransferTicket} {slot : Slot} {target : CpuId} (held : Held s ticket slot target)
    (count : Nat) : Held { s with staleRejectionCount := count } ticket slot target := by
  obtain ⟨places, shaped⟩ := held.shaped
  exact ⟨⟨places, shaped.quiet ⟨rfl, rfl, rfl, rfl⟩⟩, held.pending,
    held.staged.quiet ⟨rfl, rfl, rfl, rfl⟩, held.afford, held.issued⟩

theorem Refused.sound (refused : Refused s call s') (sound : Sound s) : Sound s' := by
  rcases refused with same | ⟨_, counted⟩
  · exact same ▸ sound
  · rw [counted]
    rcases sound with settled | ⟨ticket, slot, target, held⟩
    · exact .inl (settled.quiet ⟨rfl, rfl, rfl, rfl⟩ rfl)
    · exact .inr ⟨ticket, slot, target, held.recount _⟩

/-- Every exit of every operation keeps the scheduler sound. -/
theorem step_sound (sound : Sound s) (call : Call) : Sound (call.exec.run s).2 :=
  wp_state.mp (wp_mono (step_cases sound call) (fun _ _ did => did.sound sound)
    (fun _ _ refused => refused.sound sound))

theorem new_sound : Sound SmpScheduler.new := by
  refine .inl ⟨⟨Places.empty, ?_, ?_, ?_, ?_, Ageing.bounded_zero, ?_, by decide, ?_⟩, rfl, ?_⟩
  · intro cpu
    exact Slots.empty_eq
  · intro cpu
    rfl
  · intro seat slot member
    exact absurd member (by simp)
  · intro slot _
    exact ⟨.inl rfl, rfl, rfl, rfl, rfl⟩
  · intro slot used
    exact absurd rfl used
  · intro seat slot member
    exact absurd member (by simp)
  · intro slot transfer
    cases transfer

theorem run_keeps_sound (calls : List Call) (sound : Sound s) : Sound (run s calls) := by
  refine foldl_invariant ?_ calls s sound
  exact fun _ call holds => step_sound holds call

/-- In every run each state passes `validate`, and an operation that fails leaves the state as
it was, the stale count of a snapshot apart. -/
theorem run_valid_atomic (calls : List Call) (call : Call) : (run .new calls).validate = .ok () ∧
      ∀ reason s', call.exec.run (run .new calls) = (.error reason, s') →
        s' = run .new calls ∨ ((∃ id, call = .taskSnapshot id) ∧
          s' = { run .new calls with staleRejectionCount := s'.staleRejectionCount }) := by
  have sound : Sound (run .new calls) := run_keeps_sound calls new_sound
  refine ⟨sound.valid, ?_⟩
  intro reason s' failed
  have refused := (wp_iff.mp (step_cases sound call)).2 reason (congrArg Prod.fst failed)
  rw [failed] at refused
  exact refused

end

variable {s s' : SmpScheduler} {call : Call} {ticket : TransferTicket} {slot : Slot}
  {target : CpuId}

/-- The operation that ends a ticket. -/
def Ends (ticket : TransferTicket) (call : Call) : Prop :=
  (ticket.kind ≠ .offlineProbe ∧ Exact ticket call) ∨
    (ticket.kind = .offlineProbe ∧ call = .timeout ticket)

theorem Held.unique (held : Held s ticket slot target) {ticket' : TransferTicket} {slot' : Slot}
    {target' : CpuId} (other : Held s ticket' slot' target') : ticket' = ticket :=
  some.inj (other.pending.symm.trans held.pending)

/-- A ticket outlives every operation that does not end it, and its task is not touched. -/
theorem Held.step (held : Held s ticket slot target) (call : Call) (other : ¬ Ends ticket call) :
    Held (call.exec.run s).2 ticket slot target ∧ (call.exec.run s).2.tasks slot = s.tasks slot := by
  have sound : Sound s := .inr ⟨ticket, slot, target, held⟩
  refine wp_state.mp (wp_mono (step_cases sound call) ?_ ?_ : wp call.exec
    (fun _ s' => Held s' ticket slot target ∧ s'.tasks slot = s.tasks slot)
    (fun _ s' => Held s' ticket slot target ∧ s'.tasks slot = s.tasks slot) s)
  · intro reply s' did
    cases did with
    | beside _ step => exact held.beside step
    | stays _ step => cases step.idle.symm.trans held.pending
    | issued _ idle _ => cases idle.symm.trans held.pending
    | committed matching transfer held' _ =>
      obtain rfl := held.unique held'
      exact absurd (.inl ⟨transfer, matching⟩) other
    | timedOut pending probe _ _ _ =>
      obtain rfl := some.inj (pending.symm.trans held.pending)
      exact absurd (.inr ⟨probe, rfl⟩) other
    | looked => exact ⟨held, rfl⟩
  · intro _ s' refused
    rcases refused with same | ⟨_, counted⟩
    · rw [same]
      exact ⟨held, rfl⟩
    · rw [counted]
      exact ⟨held.recount _, rfl⟩

theorem Held.run (held : Held s ticket slot target) (others : List Call) (free : ∀ call ∈ others, ¬ Ends ticket call) :
    Held (run s others) ticket slot target ∧ (run s others).tasks slot = s.tasks slot := by
  induction others generalizing s with
  | nil => exact ⟨held, rfl⟩
  | cons call rest ih =>
    obtain ⟨next, same⟩ := held.step call (free call (mem_cons_self ..))
    obtain ⟨last, still⟩ := ih next (fun later member => free later (mem_cons_of_mem call member))
    exact ⟨last, still.trans same⟩

/-- The ticket has been used up: it is not pending and its number is not issued again. -/
structure Spent (s : SmpScheduler) (ticket : TransferTicket) : Prop where
  sound : Sound s
  issued : ticket.transaction ≤ s.transaction
  gone : s.pending ≠ some ticket

theorem Spent.step (spent : Spent s ticket) (call : Call) : Spent (call.exec.run s).2 ticket := by
  suffices kept : ticket.transaction ≤ (call.exec.run s).2.transaction ∧
      (call.exec.run s).2.pending ≠ some ticket from
    ⟨step_sound spent.sound call, kept.1, kept.2⟩
  refine wp_state.mp (wp_mono (step_cases spent.sound call) ?_ ?_ : wp call.exec
    (fun _ s' => ticket.transaction ≤ s'.transaction ∧ s'.pending ≠ some ticket)
    (fun _ s' => ticket.transaction ≤ s'.transaction ∧ s'.pending ≠ some ticket) s)
  · intro reply s' did
    have issued := spent.issued
    cases did with
    | beside _ step =>
      have pending := (congrArg SmpScheduler.pending step.ledger).trans rfl
      have transaction := (congrArg SmpScheduler.transaction step.ledger).trans rfl
      rw [pending, transaction]
      exact ⟨issued, spent.gone⟩
    | stays _ step =>
      rw [step.transaction, step.settled.idle]
      exact ⟨issued, by simp⟩
    | issued _ _ step =>
      rw [step.transaction, step.held.pending]
      refine ⟨by omega, fun same => ?_⟩
      have number := step.number
      rw [some.inj same] at number
      omega
    | committed _ _ _ step =>
      rw [step.transaction, step.settled.idle]
      exact ⟨issued, by simp⟩
    | timedOut _ _ settled _ transaction =>
      rw [transaction, settled.idle]
      exact ⟨issued, by simp⟩
    | looked => exact ⟨issued, spent.gone⟩
  · intro _ s' refused
    rcases refused with same | ⟨_, counted⟩
    · rw [same]
      exact ⟨spent.issued, spent.gone⟩
    · rw [counted]
      exact ⟨spent.issued, spent.gone⟩

theorem Spent.run (spent : Spent s ticket) (later : List Call) : Spent (run s later) ticket := by
  induction later generalizing s with
  | nil => exact spent
  | cons call rest ih => exact ih (spent.step call)

/-- The operations that could end the ticket. -/
def Settles (ticket : TransferTicket) : Call → Prop
  | .acknowledge ticket' _ => ticket' = ticket
  | .acknowledgeReschedule ticket' _ => ticket' = ticket
  | .timeout ticket' => ticket' = ticket
  | _ => False

/-- An operation whose success is ruled out. -/
theorem refused_of_wp {α : Type} {method : M α} (holds : wp method (fun _ _ => False) (fun _ s' => s' = s) s) :
    ∃ reason, method.run s = (.error reason, s) := by
  unfold wp at holds
  rcases run : method.run s with ⟨reason | value, s'⟩
  · rw [run] at holds
    exact ⟨reason, by rw [show s' = s from holds]⟩
  · rw [run] at holds
    exact holds.elim

/-- A spent ticket is refused and nothing changes. -/
theorem Spent.refused (spent : Spent s ticket) {call : Call} (settles : Settles ticket call) :
    ∃ reason, call.exec.run s = (.error reason, s) := by
  apply refused_of_wp
  cases call
  case acknowledge ticket' ack =>
    obtain rfl : ticket' = ticket := settles
    unfold Call.exec
    rw [wp_bind]
    refine wp_mono (wp_acknowledgeExpected spent.sound ticket' ack _ _) ?_ (fun _ _ both => both.1)
    rintro _ _ ⟨_, _, _, _, held, _⟩
    exact spent.gone held.pending
  case acknowledgeReschedule ticket' ack =>
    obtain rfl : ticket' = ticket := settles
    unfold Call.exec
    rw [wp_bind]
    refine wp_mono (wp_acknowledgeExpected spent.sound ticket' ack _ _) ?_ (fun _ _ both => both.1)
    rintro _ _ ⟨_, _, _, _, held, _⟩
    exact spent.gone held.pending
  case timeout ticket' =>
    obtain rfl : ticket' = ticket := settles
    unfold Call.exec
    rw [wp_bind]
    refine wp_mono (wp_timeout spent.sound ticket') ?_ (fun _ _ both => both.1)
    intro _ _ both
    exact spent.gone both.1
  all_goals exact settles.elim

/-- Where a task is, as the arrays and the task itself say it. -/
def Placed (s : SmpScheduler) (slot : Slot) : Seat → Prop
  | .queue cpu => s.idOf slot ∈ (s.queues cpu).live ∧ (s.tasks slot).state = .runnable ∧
      (s.tasks slot).ownerCpu = some cpu
  | .running cpu => s.current cpu = some (s.idOf slot) ∧ (s.tasks slot).state = .running ∧
      (s.tasks slot).ownerCpu = some cpu

theorem Shaped.placed {places : Places Seat Slot} (shaped : Shaped s places none) {seat : Seat}
    (member : slot ∈ places.items seat) : Placed s slot seat := by
  have fits := shaped.fits member
  cases seat with
  | queue cpu =>
    refine ⟨?_, fits.2.1, fits.2.2.2.1⟩
    rw [shaped.queues, Slots.live_ofList (Shaped.length_le places _)]
    exact mem_map_of_mem member
  | running cpu => exact ⟨shaped.current_of_mem member, fits.2.1, fits.2.2.2.1⟩

/-- The acknowledgement of a transfer takes effect: the task, or the successor of a preempted
one, is in its place on the target. -/
def Delivered (s s' : SmpScheduler) (ticket : TransferTicket) : Prop :=
  ∃ slot target moved, ticket.task = s.idOf slot ∧ ticket.targetCpu = target.val ∧
    Mover s ticket.kind slot target moved ∧ Placed s' moved (kindSeat ticket.kind target)

/-- The acknowledgement that a held ticket waits for cannot fail. -/
theorem Held.acknowledged (held : Held s ticket slot target)
    (transfer : ticket.kind ≠ .offlineProbe) {call : Call} (matching : Exact ticket call) :
    ∃ s', call.exec.run s = (.ok .done, s') ∧ Delivered s s' ticket ∧ Spent s' ticket := by
  have sound : Sound s := .inr ⟨ticket, slot, target, held⟩
  have finish : ∀ s', (∃ slot target, Held s ticket slot target ∧ Committed s s' ticket slot target) →
      Delivered s s' ticket ∧ Spent s' ticket := by
    rintro s' ⟨slot', target', held', committed⟩
    obtain ⟨moved, mover, arrived⟩ := committed.moved
    obtain ⟨places, shaped, member⟩ := arrived.shaped
    have shaped' : Shaped s' places none := shaped.quiet ⟨rfl, rfl, rfl, rfl⟩
    have placed := shaped'.placed member
    refine ⟨⟨slot', target', moved, held'.staged.task, route_target held'.staged transfer, mover,
      placed⟩, .inl committed.settled, ?_, ?_⟩
    · rw [committed.transaction]
      exact held'.issued
    · rw [committed.settled.idle]
      simp
  have accepted : ∀ {ack : RemoteAck} {operation result : Nat},
      Matches ticket ack operation result →
      ∃ s', (acknowledgeExpected ticket ack operation result).run s = (.ok (), s') ∧
        Delivered s s' ticket ∧ Spent s' ticket := by
    intro ack operation result matches'
    have outcome := wp_acknowledgeExpected sound ticket ack operation result
    unfold wp at outcome
    rcases run : (acknowledgeExpected ticket ack operation result).run s with ⟨reason | value, s'⟩
    · rw [run] at outcome
      exact absurd matches' (outcome.2 held.pending transfer)
    · rw [run] at outcome
      exact ⟨s', rfl, finish s' outcome.2.2⟩
  cases call
  case acknowledge ticket' ack =>
    obtain ⟨rfl, matches'⟩ := matching
    obtain ⟨s', run, after⟩ := accepted matches'
    exact ⟨s', run_bind_ok s run, after⟩
  case acknowledgeReschedule ticket' ack =>
    obtain ⟨rfl, matches'⟩ := matching
    obtain ⟨s', run, after⟩ := accepted matches'
    exact ⟨s', run_bind_ok s run, after⟩
  all_goals exact matching.elim

/-- The timeout of a held probe cannot fail, and it moves no task. -/
theorem Held.timed_out (held : Held s ticket slot target) (probe : ticket.kind = .offlineProbe) :
    ∃ s', (Call.timeout ticket).exec.run s = (.ok .done, s') ∧ s'.tasks = s.tasks ∧ Spent s' ticket := by
  have outcome := wp_timeout (.inr ⟨ticket, slot, target, held⟩) ticket
  unfold wp at outcome
  rcases run : (Smp.timeout ticket).run s with ⟨reason | value, s'⟩
  · rw [run] at outcome
    exact absurd probe (outcome.2 held.pending)
  · rw [run] at outcome
    obtain ⟨_, _, settled, quiet, transaction⟩ := outcome
    refine ⟨s', run_bind_ok s run, quiet.tasks, .inl settled, ?_, ?_⟩
    · rw [transaction]
      exact held.issued
    · rw [settled.idle]
      simp

/-- The ticket in a reply. -/
def Reply.ticket? : Except Error Reply → Option TransferTicket
  | .ok (.ticket ticket) => some ticket
  | _ => none

/-- All tickets issued along a run. -/
def tickets (s : SmpScheduler) : List Call → List TransferTicket
  | [] => []
  | call :: rest => (Reply.ticket? (call.exec.run s).1).toList ++ tickets (call.exec.run s).2 rest

/-- The transaction counter numbers the ticket that is issued and never falls. -/
theorem step_transaction (sound : Sound s) (call : Call) : s.transaction ≤ (call.exec.run s).2.transaction ∧
      ∀ ticket, Reply.ticket? (call.exec.run s).1 = some ticket → s.transaction < ticket.transaction ∧
          ticket.transaction = (call.exec.run s).2.transaction := by
  have outcome := wp_iff.mp (step_cases sound call)
  rcases run : call.exec.run s with ⟨reason | reply, s'⟩
  · have refused : Refused s call s' := by
      have known := outcome.2 reason (by rw [run])
      rwa [run] at known
    refine ⟨?_, fun ticket found => by cases found⟩
    rcases refused with same | ⟨_, counted⟩
    · rw [same]
    · rw [counted]
  · have did : Did s call reply s' := by
      have known := outcome.1 reply (by rw [run])
      rwa [run] at known
    have plainReply : (∀ ticket, reply ≠ .ticket ticket) → s'.transaction = s.transaction →
        s.transaction ≤ s'.transaction ∧ ∀ ticket, Reply.ticket? (.ok reply) = some ticket →
          s.transaction < ticket.transaction ∧ ticket.transaction = s'.transaction := by
      intro plain same
      refine ⟨by omega, fun ticket found => ?_⟩
      cases reply with
      | ticket issued => exact absurd rfl (plain issued)
      | done => cases found
      | task id => cases found
      | snapshot snapshot => cases found
    cases did with
    | beside plain step =>
      exact plainReply plain ((congrArg SmpScheduler.transaction step.ledger).trans rfl)
    | stays plain step => exact plainReply plain step.transaction
    | issued _ _ step =>
      have number := step.number
      have transaction := step.transaction
      dsimp only
      refine ⟨by omega, fun ticket found => ?_⟩
      obtain rfl := some.inj found
      omega
    | committed _ _ _ step => exact plainReply (by simp) step.transaction
    | timedOut _ _ _ _ transaction => exact plainReply (by simp) transaction
    | looked plain => exact plainReply plain rfl

theorem tickets_increase (calls : List Call) :
    ∀ s, Sound s → (tickets s calls).Pairwise (fun left right =>
        left.transaction < right.transaction) ∧
      ∀ ticket ∈ tickets s calls, s.transaction < ticket.transaction := by
  induction calls with
  | nil => exact fun s _ => ⟨.nil, fun ticket member => by cases member⟩
  | cons call rest ih =>
    intro s sound
    obtain ⟨grows, numbered⟩ := step_transaction sound call
    obtain ⟨increasing, above⟩ := ih _ (step_sound sound call)
    unfold tickets
    cases found : Reply.ticket? (call.exec.run s).1 with
    | none =>
      refine ⟨increasing, fun ticket member => ?_⟩
      have bound := above ticket member
      omega
    | some ticket =>
      obtain ⟨first, last⟩ := numbered ticket found
      refine ⟨pairwise_cons.mpr ⟨fun later member => ?_, increasing⟩, fun later member => ?_⟩
      · rw [last]
        exact above later member
      · rcases mem_cons.mp member with same | member
        · rw [same]
          exact first
        · have bound := above later member
          omega

theorem issued_held (sound : Sound s) (replied : (call.exec.run s).1 = .ok (.ticket ticket)) :
    call.kind? = some ticket.kind ∧ ∃ slot target, Held (call.exec.run s).2 ticket slot target := by
  have did := (wp_iff.mp (step_cases sound call)).1 _ replied
  generalize (call.exec.run s).2 = s' at did
  generalize known : Reply.ticket ticket = reply at did
  cases did with
  | issued kind _ step =>
    obtain rfl := Reply.ticket.inj known
    exact ⟨kind, _, _, step.held⟩
  | beside plain _ => exact absurd known.symm (plain ticket)
  | stays plain _ => exact absurd known.symm (plain ticket)
  | committed _ _ _ _ => cases known
  | timedOut _ _ _ _ _ => cases known
  | looked plain => exact absurd known.symm (plain ticket)

theorem run_append (s : SmpScheduler) (first second : List Call) :
    run s (first ++ second) = run (run s first) second := foldl_append

/-- A ticket that has been issued stays pending, with its task untouched, until the one
operation that ends it; that operation then succeeds, and the ticket is refused ever after. No
two tickets have the same number. -/
theorem transfer_commits_once (before : List Call) (stage : Call) (ticket : TransferTicket)
    (replied : (stage.exec.run (run .new before)).1 = .ok (.ticket ticket)) (calls : List Call) :
    (stage.kind? = some ticket.kind ∧ ∃ slot, ticket.task = (run .new (before ++ [stage])).idOf slot ∧
      ∀ others, (∀ call ∈ others, ¬ Ends ticket call) → (run .new (before ++ [stage] ++ others)).pending = some ticket ∧
        (run .new (before ++ [stage] ++ others)).tasks slot = (run .new (before ++ [stage])).tasks slot ∧
        ∀ call, Ends ticket call → ∃ s', call.exec.run (run .new (before ++ [stage] ++ others)) = (.ok .done, s') ∧
            (ticket.kind ≠ .offlineProbe → Delivered (run .new (before ++ [stage] ++ others)) s' ticket) ∧
            (ticket.kind = .offlineProbe → s'.tasks = (run .new (before ++ [stage] ++ others)).tasks) ∧
            ∀ later again, Settles ticket again →
              ∃ reason, again.exec.run (run s' later) = (.error reason, run s' later)) ∧
    ((tickets .new calls).map TransferTicket.transaction).Nodup := by
  have sound := run_keeps_sound before new_sound
  obtain ⟨kind, slot, target, held⟩ := issued_held sound replied
  have staged : (stage.exec.run (run .new before)).2 = run .new (before ++ [stage]) :=
    (run_append .new before [stage]).symm
  rw [staged] at held
  refine ⟨⟨kind, slot, held.staged.task, ?_⟩, ?_⟩
  · intro others free
    rw [run_append .new (before ++ [stage]) others]
    obtain ⟨holds, same⟩ := held.run others free
    refine ⟨holds.pending, same, ?_⟩
    rintro call (⟨transfer, matching⟩ | ⟨probe, rfl⟩)
    · obtain ⟨s', accepted, delivered, spent⟩ := holds.acknowledged transfer matching
      refine ⟨s', accepted, fun _ => delivered, fun probe => absurd probe transfer, ?_⟩
      exact fun later again settles => (spent.run later).refused settles
    · obtain ⟨s', accepted, tasks, spent⟩ := holds.timed_out probe
      refine ⟨s', accepted, fun transfer => absurd probe transfer, fun _ => tasks, ?_⟩
      exact fun later again settles => (spent.run later).refused settles
  · obtain ⟨increasing, _⟩ := tickets_increase calls .new new_sound
    rw [nodup_iff_pairwise_ne, pairwise_map]
    exact increasing.imp (fun less => Nat.ne_of_lt less)

/-- A blocked task, a wake staged for it on processor 1, and its acknowledgement. -/
def remoteWake : List Call :=
  [.createTask 0 1 1 0x0f, .activate ⟨0, 1⟩ 0, .blockRunnable ⟨0, 1⟩]

def remoteWakeTicket : TransferTicket where
  transaction := 1
  kind := .wake
  task := ⟨0, 1⟩
  sourceCpu := 0
  targetCpu := 1
  ownerEpoch := 1
  requestAttempt := 5
  requestSequence := 9

def remoteWakeAck : RemoteAck where
  targetCpu := 1
  attempt := 5
  sequence := 9
  operation := callFunctionOperation
  status := ackAccepted
  error := errorNone
  result := callFunctionResult

theorem transfer_commits_once_remoteWake : ∃ s', (Call.acknowledge remoteWakeTicket remoteWakeAck).exec.run
        (run .new (remoteWake ++ [.stageWake ⟨0, 1⟩ 1 5 9] ++ [.createTask 1 1 2 0x0f])) = (.ok .done, s') := by
  obtain ⟨⟨_, slot, _, held⟩, _⟩ := transfer_commits_once remoteWake (.stageWake ⟨0, 1⟩ 1 5 9)
    remoteWakeTicket (by decide) []
  obtain ⟨_, _, ends⟩ := held [.createTask 1 1 2 0x0f] (by
    intro call member
    rw [mem_singleton.mp member]
    rintro (⟨_, matching⟩ | ⟨_, timeout⟩)
    · exact matching
    · cases timeout)
  obtain ⟨s', accepted, _⟩ := ends (.acknowledge remoteWakeTicket remoteWakeAck)
    (.inl ⟨by decide, rfl, by decide⟩)
  exact ⟨s', accepted⟩

end

variable {s : SmpScheduler} {ticket : TransferTicket}

theorem Sound.young (sound : Sound s) {cpu : CpuId} {index : Nat} {id : TaskId} {slot : Slot}
    (queued : (s.queues cpu).get index = some id) (known : s.taskIndex id = .ok slot) :
    (s.tasks slot).bypassCount ≤ maxEqualPriorityBypass := by
  obtain ⟨places, shaped⟩ := sound.shaped
  rw [shaped.queues, Slots.get_ofList (Shaped.length_le places _), getElem?_map] at queued
  obtain ⟨other, here, rfl⟩ := map_eq_some_iff.mp queued
  have member : other ∈ places.items (.queue cpu) := mem_of_getElem? here
  rw [shaped.taskIndex_fits member] at known
  obtain rfl := Except.ok.inj known
  exact shaped.young member

/-- A method that succeeds exactly under a condition. -/
theorem succeeds_iff {α : Type} {method : M α} {condition : Prop}
    (holds : wp method (fun _ _ => condition) (fun _ _ => ¬ condition) s) :
    (∃ value s', method.run s = (.ok value, s')) ↔ condition := by
  unfold wp at holds
  rcases run : method.run s with ⟨reason | value, s'⟩
  · rw [run] at holds
    refine ⟨?_, fun able => absurd able holds⟩
    rintro ⟨_, _, success⟩
    cases success
  · rw [run] at holds
    exact ⟨fun _ => holds, fun _ => ⟨value, s', rfl⟩⟩

theorem Sound.dispatches (sound : Sound s) (cpu : CpuId) (attempt sequence : Nat) :
    (∃ ticket s', (stageDispatch cpu attempt sequence).run s = (.ok ticket, s')) ↔
      ∃ slot, Dispatchable s cpu attempt sequence slot := by
  refine succeeds_iff (wp_mono (wp_stageDispatch sound cpu attempt sequence) ?_ ?_)
  · rintro _ _ ⟨slot, able, _⟩
    exact ⟨slot, able⟩
  · rintro _ _ ⟨_, refused⟩ ⟨slot, able⟩
    exact refused slot able

theorem Sound.preempts (sound : Sound s) (cpu : CpuId) (attempt sequence : Nat) :
    (∃ ticket s', (stagePreempt cpu attempt sequence).run s = (.ok ticket, s')) ↔
      ∃ slot, Preemptable s cpu attempt sequence slot := by
  refine succeeds_iff (wp_mono (wp_stagePreempt sound cpu attempt sequence) ?_ ?_)
  · rintro _ _ ⟨slot, able, _⟩
    exact ⟨slot, able⟩
  · rintro _ _ ⟨_, refused⟩ ⟨slot, able⟩
    exact refused slot able

theorem Sound.commits (sound : Sound s) (pending : s.pending = some ticket) (preempt : ticket.kind = .preempt)
    {call : Call} (matching : Exact ticket call) : ∃ s', call.exec.run s = (.ok .done, s') := by
  obtain ⟨slot, target, held⟩ := sound.held pending
  have transfer : ticket.kind ≠ .offlineProbe := by
    rw [preempt]
    simp
  obtain ⟨s', accepted, _⟩ := held.acknowledged transfer matching
  exact ⟨s', accepted⟩

/-- In every run no queued task is bypassed more often than the limit allows. A dispatch or a
preemption is staged whenever its processor is free for it and the transaction, epoch and
dispatch counters have room, whatever the bypass counters are, and a staged preemption commits
as soon as it is acknowledged. -/
theorem bypass_never_refuses (calls : List Call) :
    (∀ cpu index id slot, ((run .new calls).queues cpu).get index = some id → (run .new calls).taskIndex id = .ok slot →
      ((run .new calls).tasks slot).bypassCount ≤ maxEqualPriorityBypass) ∧ (∀ cpu attempt sequence,
      (∃ ticket s', (stageDispatch cpu attempt sequence).run (run .new calls) = (.ok ticket, s')) ↔
        ∃ slot, Dispatchable (run .new calls) cpu attempt sequence slot) ∧ (∀ cpu attempt sequence,
      (∃ ticket s', (stagePreempt cpu attempt sequence).run (run .new calls) = (.ok ticket, s')) ↔
        ∃ slot, Preemptable (run .new calls) cpu attempt sequence slot) ∧
    (∀ ticket call, (run .new calls).pending = some ticket → ticket.kind = .preempt →
      Exact ticket call → ∃ s', call.exec.run (run .new calls) = (.ok .done, s')) := by
  have sound : Sound (run .new calls) := run_keeps_sound calls new_sound
  refine ⟨?_, sound.dispatches, sound.preempts, ?_⟩
  · intro cpu index id slot queued known
    exact sound.young queued known
  · intro ticket call pending preempt matching
    exact sound.commits pending preempt matching

/-- Two tasks of one priority on the boot processor, one of them running and to be preempted. -/
def rotation : List Call :=
  [.createTask 0 1 1 0x0f, .createTask 1 1 1 0x0f, .activate ⟨0, 1⟩ 0, .activate ⟨1, 1⟩ 0, .stageDispatch 0 5 9,
    .acknowledge
      { transaction := 1, kind := .dispatch, task := ⟨0, 1⟩, sourceCpu := 0, targetCpu := 0,
        ownerEpoch := 1, requestAttempt := 5, requestSequence := 9 }
      { targetCpu := 0, attempt := 5, sequence := 9, operation := callFunctionOperation,
        status := ackAccepted, error := errorNone, result := callFunctionResult },
    .stagePreempt 0 5 10]

def rotationTicket : TransferTicket where
  transaction := 2
  kind := .preempt
  task := ⟨0, 1⟩
  sourceCpu := 0
  targetCpu := 0
  ownerEpoch := 2
  requestAttempt := 5
  requestSequence := 10

def rotationAck : RemoteAck where
  targetCpu := 0
  attempt := 5
  sequence := 10
  operation := rescheduleOperation
  status := ackAccepted
  error := errorNone
  result := rescheduleResult

theorem bypass_never_refuses_rotation :
    ∃ s', (Call.acknowledgeReschedule rotationTicket rotationAck).exec.run (run .new rotation) = (.ok .done, s') :=
  (bypass_never_refuses rotation).2.2.2 rotationTicket _ (by decide) rfl
    ⟨rfl, by decide⟩

end PooleOS.Smp
