import PooleOS.Preempt.Timer
import PooleOS.Sched.Runs

/- Runs of the timer lane. Beside the lane a run keeps the list of the events
accepted and not yet applied, in the order they were queued. -/
namespace PooleOS.Preempt

open List
open Agenda (dueAt Ordered)
open Sched (Scheduler)

/-- The events accepted and not yet applied, after one call. -/
def remember (p : BspPreemption) (queued : List DeferredEvent) : Call → List DeferredEvent
  | .queueEvent event =>
    match ((queueEvent event).run p).1 with
    | .ok _ => queued ++ [event]
    | .error _ => queued
  | .handleTimer frame =>
    match ((handleTimer frame).run p).1 with
    | .ok outcome => queued.filter (·.dueTick ≠ outcome.tick)
    | .error _ => queued

/-- The events accepted and not yet applied, after a run that began with some of them. -/
def waiting (p : BspPreemption) (queued : List DeferredEvent) : List Call → List DeferredEvent
  | [] => queued
  | call :: rest => waiting (step p call) (remember p queued call) rest

/-- Every tick of the run begins with room in the rollback counter. -/
def Spare (p : BspPreemption) : List Call → Prop
  | [] => True
  | call :: rest =>
    (∀ frame, call = .handleTimer frame → p.rollbackCount + 1 < Sched.u32Values) ∧ Spare (step p call) rest

/-- An accepted lane whose queue holds the waiting events, equal due times in queueing order. -/
def Holds (p : BspPreemption) (queued : List DeferredEvent) : Prop :=
  queued.Nodup ∧ ∃ items, Sound p items ∧
    ∀ time, dueAt DeferredEvent.dueTick time items = dueAt DeferredEvent.dueTick time queued

/-- A tick that has been applied as a whole. -/
structure Ticked (p p' : BspPreemption) (queued : List DeferredEvent) (outcome : InterruptOutcome) : Prop where
  clock : p'.timerTicks = p.timerTicks + 1
  tick : outcome.tick = p'.timerTicks
  worked : Worked p p' (dueAt DeferredEvent.dueTick p'.timerTicks queued) outcome
  once : (dueAt DeferredEvent.dueTick p'.timerTicks queued).Nodup
  counted : outcome.eventsProcessed = (dueAt DeferredEvent.dueTick p'.timerTicks queued).length ∧
    p'.eventsProcessed = p.eventsProcessed + outcome.eventsProcessed
  rest : ∃ later, p'.events = Slots.ofList later ∧ Ordered DeferredEvent.dueTick later ∧
    (∀ event ∈ later, p'.timerTicks < event.dueTick) ∧
    ∀ time, dueAt DeferredEvent.dueTick time later =
      if time = p'.timerTicks then [] else dueAt DeferredEvent.dueTick time queued

variable {p p' : BspPreemption} {queued : List DeferredEvent}

section Steps

theorem Holds.mem_iff {items : List DeferredEvent} {event : DeferredEvent}
    (same : ∀ time, dueAt DeferredEvent.dueTick time items = dueAt DeferredEvent.dueTick time queued) :
    event ∈ items ↔ event ∈ queued := by
  have here := congrArg (event ∈ ·) (same event.dueTick)
  simpa [Agenda.mem_dueAt] using here

section

variable (holds : Holds p queued)
include holds

theorem Holds.queueEvent (event : DeferredEvent) :
    Holds (step p (.queueEvent event)) (remember p queued (.queueEvent event)) := by
  obtain ⟨distinct, items, sound, same⟩ := holds
  unfold Preempt.step remember
  dsimp only
  rcases queueEvent_cases sound event with ⟨reason, ran⟩ | ⟨queue, ran, kept, fresh, order⟩
  · rw [ran]
    exact ⟨distinct, items, sound, same⟩
  · rw [ran]
    refine ⟨?_, queue, kept, fun time => ?_⟩
    · refine nodup_append.mpr ⟨distinct, nodup_singleton _, ?_⟩
      rintro other member last single rfl
      rw [mem_singleton] at single
      exact fresh ((Holds.mem_iff same).mpr (single ▸ member))
    · rw [order, Agenda.dueAt_append, Agenda.dueAt_append, same]

theorem Holds.ticked {outcome : InterruptOutcome}
    (ok : handleTimerInner.run p = (.ok outcome, p')) :
    Ticked p p' queued outcome ∧ Holds p' (queued.filter (·.dueTick ≠ outcome.tick)) := by
  obtain ⟨distinct, items, sound, same⟩ := holds
  obtain ⟨kept, clock, tick, sum, counted, worked⟩ := handleTimerInner_ok sound ok
  rw [same] at sum counted worked
  have other : ∀ time, dueAt DeferredEvent.dueTick time (items.filter (·.dueTick ≠ p.timerTicks + 1)) =
      if time = p'.timerTicks then [] else dueAt DeferredEvent.dueTick time queued := by
    intro time
    rw [clock]
    by_cases now : time = p.timerTicks + 1
    · rw [if_pos now]
      refine filter_eq_nil_iff.mpr fun event member => ?_
      have past := (mem_filter.mp member).2
      simpa [now] using past
    · rw [if_neg now, ← same, Agenda.dueAt_other (Ne.symm now)]
  refine ⟨⟨clock, tick.trans clock.symm, clock ▸ worked, distinct.filter _, ⟨clock ▸ counted, ?_⟩,
    _, kept.events, kept.ordered, kept.future, other⟩, distinct.filter _, _, kept, fun time => ?_⟩
  · rw [sum, counted]
  · rw [other, tick, clock]
    by_cases now : time = p.timerTicks + 1
    · rw [if_pos now]
      refine (filter_eq_nil_iff.mpr fun event member => ?_).symm
      have past := (mem_filter.mp member).2
      simpa [now] using past
    · rw [if_neg now, Agenda.dueAt_other (Ne.symm now)]

theorem Holds.rolled (same : p' = { p with rollbackCount := p'.rollbackCount }) :
    Holds p' queued := by
  obtain ⟨distinct, items, sound, order⟩ := holds
  rw [same]
  exact ⟨distinct, items, ⟨sound.quantum, sound.positive, sound.within, sound.events, sound.fits,
    sound.future, sound.ordered, sound.scheduler⟩, order⟩

theorem Holds.handleTimer (room : p.rollbackCount + 1 < Sched.u32Values)
    (frame : InterruptFrameContract) :
    Holds (step p (.handleTimer frame)) (remember p queued (.handleTimer frame)) := by
  unfold Preempt.step remember
  dsimp only
  cases ran : (Preempt.handleTimer frame).run p with
  | mk result p' =>
    cases result with
    | ok outcome => exact (holds.ticked (handleTimer_ok ran)).2
    | error reason => exact holds.rolled (handleTimer_error room ran)

theorem Holds.step {call : Call}
    (room : ∀ frame, call = .handleTimer frame → p.rollbackCount + 1 < Sched.u32Values) :
    Holds (step p call) (remember p queued call) := by
  cases call with
  | queueEvent event => exact holds.queueEvent event
  | handleTimer frame => exact holds.handleTimer (room frame rfl) frame

theorem Holds.run {calls rest : List Call} (spare : Spare p (calls ++ rest)) :
    Holds (run p calls) (waiting p queued calls) ∧ Spare (Preempt.run p calls) rest := by
  induction calls generalizing p queued with
  | nil => exact ⟨holds, spare⟩
  | cons call calls ih => exact ih (holds.step spare.1) spare.2

end

theorem new_eq_ok {scheduler : Scheduler} {cpu : CpuId} {quantumTicks : Nat} {start : BspPreemption} :
    BspPreemption.new scheduler cpu quantumTicks = .ok start ↔
      (minQuantumTicks ≤ quantumTicks ∧ quantumTicks ≤ maxQuantumTicks) ∧
        scheduler.validate = .ok () ∧ (∃ id, ((currentTask cpu).run scheduler).1 = .ok (some id)) ∧
        start = BspPreemption.initial scheduler cpu quantumTicks := by
  unfold BspPreemption.new
  rw [demand_bind_eq_ok]
  cases scheduler.validate with
  | error reason => simp [Except.mapError, bind, Except.bind]
  | ok done =>
    rcases ((currentTask cpu).run scheduler).1 with reason | running | id <;>
      simp [Except.mapError, bind, Except.bind, orError, pure, Except.pure, eq_comm]

theorem Holds.new {scheduler : Scheduler} {cpu : CpuId} {quantumTicks : Nat}
    (fresh : BspPreemption.new scheduler cpu quantumTicks = .ok p) : Holds p [] := by
  obtain ⟨quantum, accepted, -, rfl⟩ := new_eq_ok.mp fresh
  unfold minQuantumTicks at quantum
  refine ⟨nodup_nil, [], ⟨quantum, ?_, le_rfl, Slots.empty_eq, by simp, by simp,
    .nil, accepted⟩, fun _ => rfl⟩
  change quantumTicks ≠ 0
  omega

end Steps

/-- In a run whose ticks all begin with room in the rollback counter, every tick is a transaction:
one that fails changes that counter alone, one that returns has applied the events due, in the order
they were queued, and left the others. -/
theorem ticks_are_transactions {scheduler : Scheduler} {cpu : CpuId} {quantumTicks : Nat} {start : BspPreemption}
    (fresh : BspPreemption.new scheduler cpu quantumTicks = .ok start) (calls : List Call)
    (frame : InterruptFrameContract) (spare : Spare start (calls ++ [.handleTimer frame])) :
    (∃ items, (run start calls).events = Slots.ofList items ∧ ∀ time, dueAt DeferredEvent.dueTick time items =
        dueAt DeferredEvent.dueTick time (waiting start [] calls)) ∧
      (∀ reason p', (handleTimer frame).run (run start calls) = (.error reason, p') →
        p' = { run start calls with rollbackCount := p'.rollbackCount }) ∧
      (∀ outcome p', (handleTimer frame).run (run start calls) = (.ok outcome, p') →
        Ticked (run start calls) p' (waiting start [] calls) outcome) := by
  obtain ⟨holds, room, -⟩ := (Holds.new fresh).run spare
  refine ⟨?_, fun reason p' failed => ?_, fun outcome p' ok => ?_⟩
  · obtain ⟨-, items, sound, same⟩ := holds
    exact ⟨items, sound.events, same⟩
  · exact handleTimer_error (room frame rfl) failed
  · exact (holds.ticked (handleTimer_ok ok)).1

def twoTaskScheduler : Scheduler := Sched.run (Scheduler.empty 0x0f#8) Sched.twoTasks

def timerFrame : InterruptFrameContract where
  depth := 1
  vector := timerVector
  errorCode := 0
  codeSelector := kernelCodeSelector
  dataSelector := kernelDataSelector
  interruptedRflags := 0x202#64
  handlerInterruptsDisabled := true
  schedulerLockHeld := true
  handlerRsp := 0x8100
  frameBytes := 176
  istBottom := 0x8000
  istTop := 0xa000

theorem new_twoTasks : BspPreemption.new twoTaskScheduler 0 2 = .ok (BspPreemption.initial twoTaskScheduler 0 2) :=
  new_eq_ok.mpr ⟨by decide, by decide +kernel, ⟨⟨0, 1⟩, by decide +kernel⟩, rfl⟩

/-- Event 1 blocks the running task, so the tick switches to the other one. -/
theorem ticks_are_transactions_twoTasks : Spare (BspPreemption.initial twoTaskScheduler 0 2)
        [.queueEvent ⟨1, .blockCurrent⟩, .handleTimer timerFrame] ∧
      ((handleTimer timerFrame).run (run (BspPreemption.initial twoTaskScheduler 0 2)
        [.queueEvent ⟨1, .blockCurrent⟩])).1 = .ok ⟨1, ⟨0, 1⟩, ⟨1, 1⟩, .currentBlocked, 1, true, 2⟩ ∧
      ∀ outcome p', (handleTimer timerFrame).run (run (BspPreemption.initial twoTaskScheduler 0 2)
        [.queueEvent ⟨1, .blockCurrent⟩]) = (.ok outcome, p') →
        Ticked (run (BspPreemption.initial twoTaskScheduler 0 2) [.queueEvent ⟨1, .blockCurrent⟩]) p'
          (waiting (BspPreemption.initial twoTaskScheduler 0 2) [] [.queueEvent ⟨1, .blockCurrent⟩]) outcome := by
  have spare : Spare (BspPreemption.initial twoTaskScheduler 0 2)
      ([.queueEvent ⟨1, .blockCurrent⟩] ++ [.handleTimer timerFrame]) :=
    ⟨nofun, fun _ _ => by decide +kernel, trivial⟩
  exact ⟨spare, by decide +kernel, (ticks_are_transactions new_twoTasks _ timerFrame spare).2.2⟩

/- A signal for a task that is not waiting: the tick that applies it fails every time. -/

def badSignal : DeferredEvent := ⟨1, .signal ⟨1, 1⟩⟩

/-- The lane with that signal queued. -/
def armed : BspPreemption := run (BspPreemption.initial twoTaskScheduler 0 2) [.queueEvent badSignal]

theorem armed_holds (count : Nat) : Holds { armed with rollbackCount := count } [badSignal] := by
  have spare : Spare (BspPreemption.initial twoTaskScheduler 0 2) ([.queueEvent badSignal] ++ []) :=
    ⟨nofun, trivial⟩
  have holds := ((Holds.new new_twoTasks).run spare).1
  exact Holds.rolled (p := armed) holds rfl

theorem armed_refuses : ((do
    Sched.accountTick armed.cpu 1
    applyAll armed.cpu [badSignal] : Sched.M Unit).run armed.scheduler).1 = .error .waitKind := by
  decide +kernel

theorem armed_fails (count : Nat) : ∃ reason p',
    handleTimerInner.run { armed with rollbackCount := count } = (.error reason, p') := by
  have holds := armed_holds count
  have cpu : ({ armed with rollbackCount := count } : BspPreemption).cpu = armed.cpu := rfl
  have scheduler : ({ armed with rollbackCount := count } : BspPreemption).scheduler = armed.scheduler := rfl
  have ticks : ({ armed with rollbackCount := count } : BspPreemption).timerTicks = armed.timerTicks := rfl
  generalize ({ armed with rollbackCount := count } : BspPreemption) = p at holds cpu scheduler ticks
  cases ran : handleTimerInner.run p with
  | mk result p' =>
    cases result with
    | error reason => exact ⟨reason, p', rfl⟩
    | ok outcome =>
      obtain ⟨clock, -, ⟨accounted, applied, ticked, called, -⟩, -, -, -⟩ := (holds.ticked ran).1
      have one : armed.timerTicks + 1 = 1 := by decide +kernel
      rw [clock, ticks, one, cpu] at called
      rw [cpu, scheduler] at ticked
      have refused := armed_refuses
      rw [Op.run_bind_ok _ ticked] at refused
      have passed : ((applyAll armed.cpu [badSignal]).run accounted).1 = .ok () :=
        congrArg Prod.fst called
      rw [refused] at passed
      cases passed

/-- Each failing tick moves the rollback counter by one, until it is full. -/
theorem armed_run : ∀ count, count < Sched.u32Values →
    run armed (replicate count (.handleTimer timerFrame)) = { armed with rollbackCount := count }
  | 0, _ => by
      have zero : armed.rollbackCount = 0 := by decide +kernel
      exact zero ▸ rfl
  | count + 1, small => by
      obtain ⟨reason, p', failed⟩ := armed_fails count
      have rolled := @handleTimer_rolls_back { armed with rollbackCount := count } p' timerFrame reason
        (by decide +kernel) small failed
      rw [replicate_succ', run, foldl_append]
      change step (run armed (replicate count (.handleTimer timerFrame))) (.handleTimer timerFrame) = _
      rw [armed_run count (Nat.lt_of_succ_lt small)]
      exact congrArg Prod.snd rolled

theorem armed_reached (count : Nat) (small : count < Sched.u32Values) :
    { armed with rollbackCount := count } = run (BspPreemption.initial twoTaskScheduler 0 2)
      (.queueEvent badSignal :: replicate count (.handleTimer timerFrame)) := by
  rw [← armed_run count small, run, run, foldl_cons]
  rfl

/-- After 2^32 - 1 such ticks the next one fails too, and keeps the tick and the event it took. -/
theorem full_rollback_counter_keeps_half_a_tick :
    BspPreemption.new twoTaskScheduler 0 2 = .ok (BspPreemption.initial twoTaskScheduler 0 2) ∧
      ∃ p, p = run (BspPreemption.initial twoTaskScheduler 0 2)
          (.queueEvent badSignal :: replicate (2 ^ 32 - 1) (.handleTimer timerFrame)) ∧
        ((handleTimer timerFrame).run p).1 = .error .counter ∧
        p.timerTicks = 0 ∧ ((handleTimer timerFrame).run p).2.timerTicks = 1 ∧
        p.events.len = 1 ∧ ((handleTimer timerFrame).run p).2.events.len = 0 ∧ ¬ ((handleTimer timerFrame).run p).2 =
          { p with rollbackCount := ((handleTimer timerFrame).run p).2.rollbackCount } := by
  have reached := armed_reached (2 ^ 32 - 1) (by decide)
  refine ⟨new_twoTasks, { armed with rollbackCount := 2 ^ 32 - 1 }, reached, by decide +kernel,
    by decide +kernel, by decide +kernel, by decide +kernel, by decide +kernel, fun same => ?_⟩
  have clock := congrArg BspPreemption.timerTicks same
  revert clock
  decide +kernel

end PooleOS.Preempt
