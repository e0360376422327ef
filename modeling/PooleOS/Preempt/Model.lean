import PooleOS.Sched.Model

/- The timer lane of the bootstrap processor: deferred events, the tick that
applies them, and the rollback around it. The scheduler underneath is the one of
the single-processor modules. -/
namespace PooleOS.Preempt

open Sched (Scheduler u8Values)

def timerVector : Nat := 0x40
def kernelCodeSelector : Nat := 0x08
def kernelDataSelector : Nat := 0x10
def maxDeferredEvents : Nat := 8
def minQuantumTicks : Nat := 1
def maxQuantumTicks : Nat := 64

inductive Error where
  | core
  | quantum
  | eventCapacity
  | eventDeadline
  | eventDuplicate
  | interruptDepth
  | interruptVector
  | interruptErrorCode
  | interruptSelector
  | interruptedFlags
  | handlerInterruptState
  | schedulerLock
  | istRange
  | counter
  | invariant
deriving DecidableEq, Repr

inductive DeferredEventKind where
  | signal (id : TaskId)
  | cancel (id : TaskId)
  | timeout (id : TaskId)
  | blockCurrent
deriving DecidableEq, Repr

structure DeferredEvent where
  dueTick : Nat
  kind : DeferredEventKind
deriving DecidableEq, Repr

inductive RescheduleCause where
  | none
  | quantumExpired
  | higherPriorityWake
  | currentBlocked
deriving DecidableEq, Repr

structure InterruptFrameContract where
  depth : Nat
  vector : Nat
  errorCode : Nat
  codeSelector : Nat
  dataSelector : Nat
  interruptedRflags : BitVec 64
  handlerInterruptsDisabled : Bool
  schedulerLockHeld : Bool
  handlerRsp : Nat
  frameBytes : Nat
  istBottom : Nat
  istTop : Nat

structure InterruptOutcome where
  tick : Nat
  previous : TaskId
  next : TaskId
  cause : RescheduleCause
  eventsProcessed : Nat
  contextSwitchRequired : Bool
  quantumRemaining : Nat
deriving DecidableEq, Repr

structure BspPreemption where
  scheduler : Scheduler
  cpu : CpuId
  quantumTicks : Nat
  quantumRemaining : Nat
  /-- `events` together with `event_count`. -/
  events : Slots DeferredEvent 8
  timerTicks : Nat
  eventsProcessed : Nat
  signalEvents : Nat
  cancelEvents : Nat
  timeoutEvents : Nat
  blockEvents : Nat
  quantumReschedules : Nat
  wakeReschedules : Nat
  blockReschedules : Nat
  contextSwitches : Nat
  rollbackCount : Nat

abbrev M : Type → Type := Op BspPreemption Error

/-- `Scheduler::current`. -/
def currentTask (cpu : CpuId) : Sched.M (Option TaskId) := do
  Sched.online cpu
  return (← Op.read).current cpu

/-- The `effective_priority` of `Scheduler::task_snapshot`. -/
def taskPriority (id : TaskId) : Sched.M Nat := do
  let slot ← Sched.index id
  return ((← Op.read).tasks slot).effectivePriority

def validateInterruptFrame (frame : InterruptFrameContract) : Except Error Unit := do
  demand (frame.depth = 1) .interruptDepth
  demand (frame.vector = timerVector) .interruptVector
  demand (frame.errorCode = 0) .interruptErrorCode
  demand (frame.codeSelector = kernelCodeSelector ∧ frame.dataSelector = kernelDataSelector)
    .interruptSelector
  demand (frame.interruptedRflags &&& (1#64 <<< 1) ≠ 0#64 ∧ frame.interruptedRflags &&& (1#64 <<< 9) ≠ 0#64 ∧
    frame.interruptedRflags &&& ((1#64 <<< 14) ||| (1#64 <<< 17)) = 0#64) .interruptedFlags
  demand frame.handlerInterruptsDisabled .handlerInterruptState
  demand frame.schedulerLockHeld .schedulerLock
  demand (frame.frameBytes ≠ 0 ∧ frame.istBottom ≤ frame.handlerRsp ∧
    ∃ last ∈ checkedAdd Sched.u64Values frame.handlerRsp frame.frameBytes, last ≤ frame.istTop) .istRange

namespace BspPreemption

/-- The lane `new` returns when its checks pass. -/
def initial (scheduler : Scheduler) (cpu : CpuId) (quantumTicks : Nat) : BspPreemption where
  scheduler := scheduler
  cpu := cpu
  quantumTicks := quantumTicks
  quantumRemaining := quantumTicks
  events := Slots.empty
  timerTicks := 0
  eventsProcessed := 0
  signalEvents := 0
  cancelEvents := 0
  timeoutEvents := 0
  blockEvents := 0
  quantumReschedules := 0
  wakeReschedules := 0
  blockReschedules := 0
  contextSwitches := 0
  rollbackCount := 0

def new (scheduler : Scheduler) (cpu : CpuId) (quantumTicks : Nat) : Except Error BspPreemption := do
  demand (minQuantumTicks ≤ quantumTicks ∧ quantumTicks ≤ maxQuantumTicks) .quantum
  scheduler.validate.mapError fun _ => .core
  let running ← ((currentTask cpu).run scheduler).1.mapError fun _ => .core
  let _ ← orError running .core
  return initial scheduler cpu quantumTicks

def setScheduler (scheduler : Scheduler) (p : BspPreemption) : BspPreemption :=
  { p with scheduler := scheduler }

def setQuantum (p : BspPreemption) (left : Nat) : BspPreemption := { p with quantumRemaining := left }

def setTicks (p : BspPreemption) (ticks : Nat) : BspPreemption := { p with timerTicks := ticks }

def setEvents (p : BspPreemption) (events : Slots DeferredEvent 8) : BspPreemption :=
  { p with events := events }

def putEvent (p : BspPreemption) (index : Nat) (event : DeferredEvent) : BspPreemption :=
  p.setEvents (p.events.put index (some event))

/-- One turn of the deadline loop of `validate`. -/
def validateEvent (p : BspPreemption) (priorDue cursor : Nat) : Except Error Nat := do
  let event ← orError (p.events.get cursor) .invariant
  demand (p.timerTicks < event.dueTick ∧ priorDue ≤ event.dueTick) .invariant
  return event.dueTick

def validate (p : BspPreemption) : Except Error Unit := do
  demand ((minQuantumTicks ≤ p.quantumTicks ∧ p.quantumTicks ≤ maxQuantumTicks) ∧
    p.quantumRemaining ≠ 0 ∧ p.quantumRemaining ≤ p.quantumTicks ∧
    p.events.len ≤ maxDeferredEvents ∧
    ∀ cell : Fin 8, p.events.len ≤ cell.val → p.events.entries cell = none) .invariant
  let _ ← (List.range p.events.len).foldlM p.validateEvent p.timerTicks
  p.scheduler.validate.mapError fun _ => .core

end BspPreemption

open BspPreemption

def check : M Unit := do
  Op.lift (← Op.read).validate

/-- A scheduler call with `map_err(|_| Error::Core)?`. -/
def core {α : Type} (method : Sched.M α) : M α :=
  Op.within BspPreemption.scheduler setScheduler (Op.mapError (fun _ => .core) method)

/-- `*field = field.checked_add(1).ok_or(Error::Counter)?` for a 32-bit counter. -/
def count (get : BspPreemption → Nat) (set : Nat → BspPreemption → BspPreemption) : M Unit := do
  let value ← Op.lift (orError (checkedAdd Sched.u32Values (get (← Op.read)) 1) .counter)
  Op.update (set value)

def countProcessed : M Unit :=
  count BspPreemption.eventsProcessed (fun value p => { p with eventsProcessed := value })

def countSignal : M Unit :=
  count BspPreemption.signalEvents (fun value p => { p with signalEvents := value })

def countCancel : M Unit :=
  count BspPreemption.cancelEvents (fun value p => { p with cancelEvents := value })

def countTimeout : M Unit :=
  count BspPreemption.timeoutEvents (fun value p => { p with timeoutEvents := value })

def countBlock : M Unit :=
  count BspPreemption.blockEvents (fun value p => { p with blockEvents := value })

def countSwitch : M Unit :=
  count BspPreemption.contextSwitches (fun value p => { p with contextSwitches := value })

def countReschedule : RescheduleCause → M Unit
  | .none => pure ()
  | .quantumExpired =>
    count BspPreemption.quantumReschedules (fun value p => { p with quantumReschedules := value })
  | .higherPriorityWake =>
    count BspPreemption.wakeReschedules (fun value p => { p with wakeReschedules := value })
  | .currentBlocked =>
    count BspPreemption.blockReschedules (fun value p => { p with blockReschedules := value })

/-- The insertion loop: later events move up one cell; the result is the cell left free. -/
def makeRoom (event : DeferredEvent) : Nat → M Nat
  | 0 => pure 0
  | insert + 1 => do
      let prior ← Op.lift (orError ((← Op.read).events.get insert) .invariant)
      if prior.dueTick ≤ event.dueTick then
        return insert + 1
      else do
        Op.update (fun p => p.putEvent (insert + 1) prior)
        makeRoom event insert

def queueEvent (event : DeferredEvent) : M Unit := do
  let p ← Op.read
  Op.ensure (p.timerTicks < event.dueTick) .eventDeadline
  Op.ensure (p.events.len ≠ maxDeferredEvents) .eventCapacity
  Op.ensure (p.events.position event = none) .eventDuplicate
  let insert ← makeRoom event p.events.len
  Op.update (fun p => p.putEvent insert event)
  Op.update (fun p => p.setEvents { p.events with len := p.events.len + 1 })
  check

def removeFirstEvent : M Unit := do
  Op.ensure ((← Op.read).events.len ≠ 0) .invariant
  Op.update (fun p => p.setEvents (p.events.closeGap 0))

/-- The three waking kinds differ in the scheduler call and the counter. -/
def wakeEvent (wake : TaskId → CpuId → Sched.M Unit) (countKind : M Unit) (id : TaskId)
    (previousPriority : Nat) (cause : RescheduleCause) : M RescheduleCause := do
  core (wake id (← Op.read).cpu)
  countKind
  let woken ← core (taskPriority id)
  return if previousPriority < woken then .higherPriorityWake else cause

def applyEvent (previousPriority : Nat) (cause : RescheduleCause) :
    DeferredEventKind → M RescheduleCause
  | .signal id => wakeEvent Sched.signalWait countSignal id previousPriority cause
  | .cancel id => wakeEvent Sched.cancelWait countCancel id previousPriority cause
  | .timeout id => wakeEvent Sched.timeoutWait countTimeout id previousPriority cause
  | .blockCurrent => do
      let _ ← core (Sched.blockCurrent (← Op.read).cpu)
      countBlock
      return .currentBlocked

/-- The event loop. Every turn removes one event, so the event count bounds the turns. -/
def drain (previousPriority : Nat) : Nat → RescheduleCause → Nat → M (RescheduleCause × Nat)
  | 0, cause, processed => pure (cause, processed)
  | turns + 1, cause, processed => do
      let p ← Op.read
      if p.events.len = 0 then
        return (cause, processed)
      else do
        let event ← Op.lift (orError (p.events.get 0) .invariant)
        if p.timerTicks < event.dueTick then
          return (cause, processed)
        else do
          removeFirstEvent
          let processed ← Op.lift (orError (checkedAdd u8Values processed 1) .counter)
          countProcessed
          let cause ← applyEvent previousPriority cause event.kind
          drain previousPriority turns cause processed

/-- The tail of a tick that changes the running task. -/
def reschedule (previous : TaskId) (cause : RescheduleCause) (processed : Nat) : M InterruptOutcome := do
  let cpu := (← Op.read).cpu
  let running ← core (currentTask cpu)
  Op.when (running ≠ none) do
    let _ ← core (Sched.yieldCurrent cpu)
  let next ← core (Sched.dispatch cpu)
  Op.update (fun p => p.setQuantum p.quantumTicks)
  countReschedule cause
  Op.when (previous ≠ next) countSwitch
  check
  let p ← Op.read
  return {
    tick := p.timerTicks
    previous := previous
    next := next
    cause := cause
    eventsProcessed := processed
    contextSwitchRequired := previous ≠ next
    quantumRemaining := p.quantumRemaining }

/-- The tail of a tick that leaves the running task alone. -/
def resume (previous : TaskId) (processed : Nat) : M InterruptOutcome := do
  check
  let p ← Op.read
  return {
    tick := p.timerTicks
    previous := previous
    next := previous
    cause := .none
    eventsProcessed := processed
    contextSwitchRequired := false
    quantumRemaining := p.quantumRemaining }

def handleTimerInner : M InterruptOutcome := do
  let cpu := (← Op.read).cpu
  let previous ← Op.lift (orError (← core (currentTask cpu)) .core)
  let previousPriority ← core (taskPriority previous)
  let ticks ← Op.lift (orError (checkedAdd Sched.u64Values (← Op.read).timerTicks 1) .counter)
  Op.update (fun p => p.setTicks ticks)
  core (Sched.accountTick cpu 1)
  Op.ensure ((← Op.read).quantumRemaining ≠ 0) .quantum
  Op.update (fun p => p.setQuantum (p.quantumRemaining - 1))
  let (cause, processed) ← drain previousPriority (← Op.read).events.len .none 0
  let expired := cause = .none ∧ (← Op.read).quantumRemaining = 0
  let cause := if expired then .quantumExpired else cause
  if cause ≠ .none then reschedule previous cause processed else resume previous processed

/-- The copy taken before the tick comes back on failure, unless its own counter is full. -/
def handleTimer (frame : InterruptFrameContract) : M InterruptOutcome := do
  Op.lift (validateInterruptFrame frame)
  let before ← Op.read
  Op.onError handleTimerInner fun reason => do
    let rollbacks ← Op.lift (orError (checkedAdd Sched.u32Values before.rollbackCount 1) .counter)
    Op.update (fun _ => { before with rollbackCount := rollbacks })
    Op.fail reason

/-- A call of the lane. -/
inductive Call where
  | queueEvent (event : DeferredEvent)
  | handleTimer (frame : InterruptFrameContract)

/-- The state a call leaves, whether or not it succeeded. -/
def step (p : BspPreemption) : Call → BspPreemption
  | .queueEvent event => ((queueEvent event).run p).2
  | .handleTimer frame => ((handleTimer frame).run p).2

def run (p : BspPreemption) (calls : List Call) : BspPreemption :=
  calls.foldl step p

end PooleOS.Preempt
