import PooleOS.Lib.Op
import PooleOS.Lib.Slots
import PooleOS.Kernel.Ident

/- The PKSCHED1 scheduler (`native/kernel/src/scheduler.rs`). Operations write
through `&mut self` and call `validate` last, so an operation that fails late
leaves its earlier writes in place; the model keeps them too. -/
namespace PooleOS.Sched

open Function (update)

def maxBypass : Nat := 7
def minPriority : Nat := 1
def maxPriority : Nat := 31
def completeCpuMask : BitVec 8 := 0x0f#8

def u8Values : Nat := 2 ^ 8
def u32Values : Nat := 2 ^ 32
def u64Values : Nat := 2 ^ 64

inductive TaskState where
  | dormant
  | runnable
  | running
  | blocked
  | dead
deriving DecidableEq, Repr

inductive WakeReason where
  | none
  | cancelled
  | timedOut
  | lockGranted
  | ownerGone
  | signalled
deriving DecidableEq, Repr

inductive WaitKind where
  | none
  | event
  | mutex
  | externalLock
deriving DecidableEq, Repr

inductive Error where
  | cpuRange
  | cpuOffline
  | cpuBusy
  | cpuIdle
  | taskRange
  | taskMissing
  | generation
  | generationStale
  | priority
  | affinity
  | state
  | queueFull
  | duplicateRunnable
  | queueMissing
  | wakePending
  | waitKind
  | mutexRecursive
  | mutexNotOwner
  | mutexWaitersFull
  | lockOwner
  | bypassOverflow
  | invariant
deriving DecidableEq, Repr

structure Task where
  generation : Nat
  state : TaskState
  basePriority : Nat
  effectivePriority : Nat
  affinityMask : BitVec 8
  assignedCpu : Option CpuId
  queuedCpu : Option CpuId
  wakeReason : WakeReason
  waitKind : WaitKind
  bypassCount : Nat
  dispatchCount : Nat
  runtimeTicks : Nat
deriving DecidableEq, Repr

namespace Task

def empty : Task where
  generation := 0
  state := .dormant
  basePriority := minPriority
  effectivePriority := minPriority
  affinityMask := 0
  assignedCpu := none
  queuedCpu := none
  wakeReason := .none
  waitKind := .none
  bypassCount := 0
  dispatchCount := 0
  runtimeTicks := 0

def id (task : Task) (slot : Slot) : TaskId := ⟨slot.val, task.generation⟩

end Task

def newTaskId (slot generation : Nat) : Except Error TaskId :=
  if 8 ≤ slot then .error .taskRange
  else if generation = 0 then .error .generation
  else .ok ⟨slot, generation⟩

abbrev RunQueue : Type := Slots TaskId 8

namespace RunQueue

def push (queue : RunQueue) (id : TaskId) : Except Error RunQueue :=
  if (queue.position id).isSome then .error .duplicateRunnable
  else if queue.len = 8 then .error .queueFull
  else .ok { queue.put queue.len (some id) with len := queue.len + 1 }

def removeAt (queue : RunQueue) (index : Nat) : Except Error (TaskId × RunQueue) :=
  if queue.len ≤ index then .error .queueMissing
  else
    match queue.get index with
    | none => .error .queueMissing
    | some id => .ok (id, queue.closeGap index)

def remove (queue : RunQueue) (id : TaskId) : Except Error RunQueue :=
  match queue.position id with
  | none => .error .queueMissing
  | some index =>
    match queue.removeAt index with
    | .error reason => .error reason
    | .ok (_, rest) => .ok rest

end RunQueue

structure Scheduler where
  tasks : Slot → Task
  queues : CpuId → RunQueue
  current : CpuId → Option TaskId
  cpuOnlineMask : BitVec 8
  mutexOwner : Option TaskId
  /-- `mutex_waiters` together with `mutex_waiter_count`. -/
  mutexWaiters : Slots TaskId 8
  externalPriorityDonation : Slot → Nat
  sequence : Nat
  dispatchCount : Nat
  migrationCount : Nat
  wakeCount : Nat
  teardownCount : Nat
  priorityInheritanceCount : Nat

abbrev M : Type → Type := Op Scheduler Error

namespace Scheduler

def empty (cpuOnlineMask : BitVec 8) : Scheduler where
  tasks := fun _ => Task.empty
  queues := fun _ => Slots.empty
  current := fun _ => none
  cpuOnlineMask := cpuOnlineMask
  mutexOwner := none
  mutexWaiters := Slots.empty
  externalPriorityDonation := fun _ => 0
  sequence := 0
  dispatchCount := 0
  migrationCount := 0
  wakeCount := 0
  teardownCount := 0
  priorityInheritanceCount := 0

def new (cpuOnlineMask : BitVec 8) : Except Error Scheduler :=
  if cpuOnlineMask = 0 ∨ ¬ Within cpuOnlineMask completeCpuMask then .error .cpuRange
  else .ok (empty cpuOnlineMask)

def setTask (s : Scheduler) (index : Slot) (f : Task → Task) : Scheduler :=
  { s with tasks := update s.tasks index (f (s.tasks index)) }

def setQueue (s : Scheduler) (cpu : CpuId) (queue : RunQueue) : Scheduler :=
  { s with queues := update s.queues cpu queue }

def setCurrent (s : Scheduler) (cpu : CpuId) (id : Option TaskId) : Scheduler :=
  { s with current := update s.current cpu id }

def setDonation (s : Scheduler) (index : Slot) (priority : Nat) : Scheduler :=
  { s with externalPriorityDonation := update s.externalPriorityDonation index priority }

def bumpSequence (s : Scheduler) : Scheduler :=
  { s with sequence := (s.sequence + 1) % u64Values }

/-- `self.tasks[id.index()]`. Out of range it would panic; stored identities are in range. -/
def taskAt (s : Scheduler) (id : TaskId) : Task :=
  match id.index? with
  | some index => s.tasks index
  | none => Task.empty

def taskIndex (s : Scheduler) (id : TaskId) : Except Error Slot :=
  match id.index? with
  | none => .error .taskRange
  | some index =>
    if (s.tasks index).generation = 0 then .error .taskMissing
    else if (s.tasks index).generation ≠ id.generation then .error .generationStale
    else .ok index

def requireOnline (s : Scheduler) (cpu : CpuId) : Except Error Unit :=
  if Allows s.cpuOnlineMask cpu then .ok () else .error .cpuOffline

def currentId (s : Scheduler) (cpu : CpuId) : Except Error TaskId := do
  s.requireOnline cpu
  orError (s.current cpu) .cpuIdle

/-- One comparison of the selection loop: higher priority first, then more bypasses. -/
def pickStep (s : Scheduler) (queue : RunQueue) (selected cursor : Nat) : Except Error Nat := do
  let candidate ← orError (queue.get cursor) Error.invariant
  let incumbent ← orError (queue.get selected) Error.invariant
  let candidateTask := s.tasks (← s.taskIndex candidate)
  let incumbentTask := s.tasks (← s.taskIndex incumbent)
  if incumbentTask.effectivePriority < candidateTask.effectivePriority ∨
      (candidateTask.effectivePriority = incumbentTask.effectivePriority ∧
        incumbentTask.bypassCount < candidateTask.bypassCount) then
    return cursor
  else
    return selected

def pickQueueIndex (s : Scheduler) (cpu : CpuId) : Except Error Nat :=
  let queue := s.queues cpu
  if queue.len = 0 then .error .cpuIdle
  else (List.range' 1 (queue.len - 1)).foldlM (s.pickStep queue) 0

def highestMutexWaiter (s : Scheduler) : Except Error (Option TaskId) :=
  (List.range s.mutexWaiters.len).foldlM (fun selected cursor => do
    let candidate ← orError (s.mutexWaiters.get cursor) Error.invariant
    match selected with
    | none => return some candidate
    | some incumbent =>
      if (s.taskAt incumbent).basePriority < (s.taskAt candidate).basePriority then
        return some candidate
      else
        return some incumbent) none

def selectAllowedCpu (s : Scheduler) (affinityMask : BitVec 8) : Except Error CpuId :=
  orError ((List.finRange 4).find? (fun cpu =>
    Allows s.cpuOnlineMask cpu ∧ Allows affinityMask cpu)) .affinity

/-- The largest base priority among the first waiters, starting from the owner's own. -/
def waiterPriority (s : Scheduler) (start : Nat) : Except Error Nat :=
  (List.range s.mutexWaiters.len).foldlM (fun required cursor => do
    let waiter ← orError (s.mutexWaiters.get cursor) Error.invariant
    return max required (s.taskAt waiter).basePriority) start

def validateQueued (s : Scheduler) (cpu : CpuId) (queued : Slot → Nat) (cursor : Nat) : Except Error (Slot → Nat) := do
  let id ← orError ((s.queues cpu).get cursor) Error.invariant
  let index ← s.taskIndex id
  let task := s.tasks index
  if task.state ≠ .runnable ∨ task.queuedCpu ≠ some cpu ∨ task.assignedCpu ≠ some cpu ∨
      ¬ Allows task.affinityMask cpu ∨ maxBypass < task.bypassCount then
    .error .invariant
  else do
    let count ← orError (checkedAdd u8Values (queued index) 1) Error.invariant
    return update queued index count

def validateRunning (s : Scheduler) (cpu : CpuId) (running : Slot → Nat) : Except Error (Slot → Nat) :=
  match s.current cpu with
  | none => .ok running
  | some id => do
      let index ← s.taskIndex id
      let task := s.tasks index
      if task.state ≠ .running ∨ task.assignedCpu ≠ some cpu ∨ task.queuedCpu ≠ none ∨
          ¬ Allows task.affinityMask cpu then
        .error .invariant
      else do
        let count ← orError (checkedAdd u8Values (running index) 1) Error.invariant
        return update running index count

def validateCpu (s : Scheduler) (counts : (Slot → Nat) × (Slot → Nat)) (cpu : CpuId) :
    Except Error ((Slot → Nat) × (Slot → Nat)) := do
  let queue := s.queues cpu
  if 8 < queue.len then .error .invariant
  else do
    let queued ← (List.range queue.len).foldlM (s.validateQueued cpu) counts.1
    if ∃ cell : Slot, queue.len ≤ cell.val ∧ queue.entries cell ≠ none then .error .invariant
    else do
      let running ← s.validateRunning cpu counts.2
      return (queued, running)

/-- What each state requires of a task that was counted `queued` and `running` times. -/
def validateState (task : Task) (queued running : Nat) : Except Error Unit :=
  match task.state with
  | .dormant =>
    if queued ≠ 0 ∨ running ≠ 0 ∨ task.assignedCpu ≠ none ∨ task.queuedCpu ≠ none then
      .error .invariant
    else .ok ()
  | .runnable =>
    if queued ≠ 1 ∨ running ≠ 0 ∨ task.queuedCpu = none then .error .invariant else .ok ()
  | .running =>
    if queued ≠ 0 ∨ running ≠ 1 ∨ task.queuedCpu ≠ none then .error .invariant else .ok ()
  | .blocked =>
    if queued ≠ 0 ∨ running ≠ 0 ∨ task.waitKind = .none ∨ task.queuedCpu ≠ none ∨
        task.bypassCount ≠ 0 then
      .error .invariant
    else .ok ()
  | .dead =>
    if queued ≠ 0 ∨ running ≠ 0 ∨ task.assignedCpu ≠ none ∨ task.queuedCpu ≠ none ∨
        task.waitKind ≠ .none ∨ task.wakeReason ≠ .none ∨ task.bypassCount ≠ 0 then
      .error .invariant
    else .ok ()

def validateTask (s : Scheduler) (queued running : Slot → Nat) (index : Slot) : Except Error Unit :=
  let task := s.tasks index
  if task.generation = 0 then
    if queued index ≠ 0 ∨ running index ≠ 0 then .error .invariant else .ok ()
  else do
    validateState task (queued index) (running index)
    if task.effectivePriority < task.basePriority ∨ maxPriority < task.effectivePriority ∨
        task.affinityMask = 0 ∨ ¬ Within task.affinityMask s.cpuOnlineMask then
      .error .invariant
    else if task.wakeReason ≠ .none ∧ ¬ (task.state = .runnable ∨ task.state = .running) then
      .error .invariant
    else .ok ()

def validateWaiter (s : Scheduler) (waiters : Slot → Nat) (cursor : Nat) : Except Error (Slot → Nat) := do
  let id ← orError (s.mutexWaiters.get cursor) Error.invariant
  let index ← s.taskIndex id
  let task := s.tasks index
  if task.state ≠ .blocked ∨ task.waitKind ≠ .mutex then .error .invariant
  else do
    let count ← orError (checkedAdd u8Values (waiters index) 1) Error.invariant
    return update waiters index count

def validateWaiting (s : Scheduler) (waiters : Slot → Nat) (index : Slot) : Except Error Unit :=
  if ¬ ((s.tasks index).waitKind = .mutex ↔ waiters index = 1) then .error .invariant
  else if 1 < waiters index then .error .duplicateRunnable
  else .ok ()

def validateOwner (s : Scheduler) : Except Error Unit :=
  match s.mutexOwner with
  | some owner => do
      let index ← s.taskIndex owner
      if ¬ ((s.tasks index).state = .runnable ∨ (s.tasks index).state = .running) then
        .error .lockOwner
      else do
        let required ← s.waiterPriority (s.tasks index).basePriority
        if (s.tasks index).effectivePriority ≠ required then .error .invariant else .ok ()
  | none => if s.mutexWaiters.len ≠ 0 then .error .lockOwner else .ok ()

def validate (s : Scheduler) : Except Error Unit := do
  let (queued, running) ← (List.finRange 4).foldlM s.validateCpu (fun _ => 0, fun _ => 0)
  (List.finRange 8).forM (s.validateTask queued running)
  let waiters ← (List.range s.mutexWaiters.len).foldlM s.validateWaiter (fun _ => 0)
  if ∃ cell : Slot, s.mutexWaiters.len ≤ cell.val ∧ s.mutexWaiters.entries cell ≠ none then
    .error .invariant
  else do
    (List.finRange 8).forM (s.validateWaiting waiters)
    s.validateOwner

end Scheduler

open Scheduler

def bump : M Unit := Op.update Scheduler.bumpSequence

def check : M Unit := do
  Op.lift (← Op.read).validate

def online (cpu : CpuId) : M Unit := do
  Op.lift ((← Op.read).requireOnline cpu)

def index (id : TaskId) : M Slot := do
  Op.lift ((← Op.read).taskIndex id)

/-- `*field = field.checked_add(1).ok_or(Error::Invariant)?` for a 32-bit counter. -/
def count (get : Scheduler → Nat) (set : Nat → Scheduler → Scheduler) : M Unit := do
  let s ← Op.read
  let value ← Op.lift (orError (checkedAdd u32Values (get s) 1) Error.invariant)
  Op.update (set value)

def countDispatch : M Unit :=
  count Scheduler.dispatchCount (fun value s => { s with dispatchCount := value })

def countMigration : M Unit :=
  count Scheduler.migrationCount (fun value s => { s with migrationCount := value })

def countWake : M Unit :=
  count Scheduler.wakeCount (fun value s => { s with wakeCount := value })

def countTeardown : M Unit :=
  count Scheduler.teardownCount (fun value s => { s with teardownCount := value })

def countInheritance : M Unit :=
  count Scheduler.priorityInheritanceCount
    (fun value s => { s with priorityInheritanceCount := value })

def enqueue (index : Slot) (cpu : CpuId) : M Unit := do
  let s ← Op.read
  let task := s.tasks index
  Op.ensure (task.state = .runnable ∧ task.queuedCpu = none) .state
  Op.ensure (Allows task.affinityMask cpu) .affinity
  let queue ← Op.lift ((s.queues cpu).push (task.id index))
  Op.update (fun s => (s.setQueue cpu queue).setTask index (fun task =>
    { task with queuedCpu := some cpu }))

def takeCurrent (cpu : CpuId) : M TaskId := do
  online cpu
  let taken := (← Op.read).current cpu
  Op.update (fun s => s.setCurrent cpu none)
  Op.lift (orError taken .cpuIdle)

def removeMutexWaiter (id : TaskId) : M Unit := do
  let s ← Op.read
  let position ← Op.lift (orError (s.mutexWaiters.position id) .queueMissing)
  Op.update (fun s => { s with mutexWaiters := s.mutexWaiters.closeGap position })

/-- Base priority against the outside donation, for every slot in use. -/
def recomputeBase (s : Scheduler) : Scheduler :=
  { s with tasks := fun slot =>
      let task := s.tasks slot
      if task.generation ≠ 0 then
        { task with
          effectivePriority := max task.basePriority (s.externalPriorityDonation slot) }
      else task }

def recomputeEffectivePriorities : M Unit := do
  Op.update recomputeBase
  let s ← Op.read
  match s.mutexOwner with
  | none => pure ()
  | some owner => do
      let ownerIndex ← index owner
      let required ← Op.lift (s.waiterPriority
        (max (s.tasks ownerIndex).basePriority (s.externalPriorityDonation ownerIndex)))
      Op.update (fun s => s.setTask ownerIndex (fun task =>
        { task with effectivePriority := required }))

/-- Mark a woken waiter runnable on its first allowed processor and queue it. -/
def grantWaiter (waiter : TaskId) (reason : WakeReason) : M Unit := do
  removeMutexWaiter waiter
  let waiterIndex ← index waiter
  let s ← Op.read
  let target ← Op.lift (s.selectAllowedCpu (s.tasks waiterIndex).affinityMask)
  Op.update (fun s => s.setTask waiterIndex (fun task =>
    { task with state := .runnable, waitKind := .none, wakeReason := reason,
                assignedCpu := some target }))
  enqueue waiterIndex target
  countWake

def wakeKind (id : TaskId) (cpu : CpuId) (reason : WakeReason) (waitKind : WaitKind) : M Unit := do
  let slot ← index id
  let task := (← Op.read).tasks slot
  Op.ensure (task.state = .blocked ∧ task.waitKind = waitKind) .waitKind
  Op.ensure (task.wakeReason = .none) .wakePending
  Op.ensure (Allows task.affinityMask cpu) .affinity
  Op.update (fun s => s.setTask slot (fun task =>
    { task with state := .runnable, waitKind := .none, wakeReason := reason,
                assignedCpu := some cpu }))
  enqueue slot cpu
  countWake
  bump
  check

def wake (id : TaskId) (cpu : CpuId) (reason : WakeReason) : M Unit := do
  online cpu
  Op.ensure (¬ (reason = .none ∨ reason = .lockGranted)) .wakePending
  wakeKind id cpu reason .event

def createTask (slot generation priority : Nat) (affinityMask : BitVec 8) : M TaskId := do
  let id ← Op.lift (newTaskId slot generation)
  Op.ensure (minPriority ≤ priority ∧ priority ≤ maxPriority) .priority
  let s ← Op.read
  Op.ensure (affinityMask ≠ 0 ∧ Within affinityMask s.cpuOnlineMask ∧ Within affinityMask completeCpuMask) .affinity
  let index ← Op.lift (orError id.index? .taskRange)
  let task := s.tasks index
  Op.ensure (task.generation = 0 ∨ task.state = .dead) .state
  Op.ensure (task.generation = 0 ∨ task.generation < generation) .generationStale
  Op.update (fun s => s.setTask index (fun _ =>
    { generation := generation, state := .dormant, basePriority := priority,
      effectivePriority := priority, affinityMask := affinityMask, assignedCpu := none,
      queuedCpu := none, wakeReason := .none, waitKind := .none, bypassCount := 0,
      dispatchCount := 0, runtimeTicks := 0 }))
  bump
  return id

def activate (id : TaskId) (cpu : CpuId) : M Unit := do
  online cpu
  let slot ← index id
  let task := (← Op.read).tasks slot
  Op.ensure (task.state = .dormant) .state
  Op.ensure (Allows task.affinityMask cpu) .affinity
  Op.update (fun s => s.setTask slot (fun task =>
    { task with state := .runnable, assignedCpu := some cpu }))
  enqueue slot cpu
  bump
  check

/-- One equal-priority task left behind in the queue is bypassed once more. -/
def bypassOther (cpu : CpuId) (selectedPriority : Nat) (cursor : Nat) : M Unit := do
  let s ← Op.read
  let other ← Op.lift (orError ((s.queues cpu).get cursor) .invariant)
  let otherIndex ← index other
  let task := s.tasks otherIndex
  Op.when (task.effectivePriority = selectedPriority) do
    let value ← Op.lift (orError (checkedAdd u8Values task.bypassCount 1) .bypassOverflow)
    Op.update (fun s => s.setTask otherIndex (fun task => { task with bypassCount := value }))
    Op.ensure (value ≤ maxBypass) .bypassOverflow

/-- The selected task as `dispatch` rewrites it. -/
def taken (cpu : CpuId) (task : Task) : Task :=
  { task with state := .running, queuedCpu := none, assignedCpu := some cpu, bypassCount := 0 }

/-- The second half of `dispatch`: the selected task becomes the current one. -/
def runSelected (cpu : CpuId) (slot : Slot) (id : TaskId) : M Unit := do
  Op.update (fun s => s.setTask slot (taken cpu))
  let task := (← Op.read).tasks slot
  let dispatches ← Op.lift (orError (checkedAdd u32Values task.dispatchCount 1) .invariant)
  Op.update (fun s => (s.setTask slot (fun task =>
    { task with dispatchCount := dispatches })).setCurrent cpu (some id))
  countDispatch
  bump
  check

def dispatch (cpu : CpuId) : M TaskId := do
  online cpu
  let s ← Op.read
  Op.ensure (s.current cpu = none) .cpuBusy
  let queueIndex ← Op.lift (s.pickQueueIndex cpu)
  let (id, rest) ← Op.lift ((s.queues cpu).removeAt queueIndex)
  Op.update (fun s => s.setQueue cpu rest)
  let slot ← index id
  let selectedPriority := (s.tasks slot).effectivePriority
  Op.forEach (List.range rest.len) (bypassOther cpu selectedPriority)
  runSelected cpu slot id
  return id

def accountTick (cpu : CpuId) (ticks : Nat) : M Unit := do
  Op.ensure (ticks ≠ 0) .invariant
  let id ← Op.lift ((← Op.read).currentId cpu)
  let slot ← index id
  let task := (← Op.read).tasks slot
  let total ← Op.lift (orError (checkedAdd u64Values task.runtimeTicks ticks) .invariant)
  Op.update (fun s => s.setTask slot (fun task => { task with runtimeTicks := total }))
  bump
  check

def yieldCurrent (cpu : CpuId) : M TaskId := do
  let id ← takeCurrent cpu
  let slot ← index id
  Op.update (fun s => s.setTask slot (fun task =>
    { task with state := .runnable, assignedCpu := some cpu }))
  enqueue slot cpu
  bump
  check
  return id

/-- `block_current` and `block_current_for_lock` differ in the wait kind only. -/
def blockCurrentFor (waitKind : WaitKind) (cpu : CpuId) : M TaskId := do
  let id ← takeCurrent cpu
  let slot ← index id
  Op.update (fun s => s.setTask slot (fun task =>
    { task with state := .blocked, assignedCpu := some cpu, waitKind := waitKind,
                wakeReason := .none, bypassCount := 0 }))
  bump
  check
  return id

def blockCurrent : CpuId → M TaskId := blockCurrentFor .event

def blockCurrentForLock : CpuId → M TaskId := blockCurrentFor .externalLock

def wakeLockWaiter (id : TaskId) (cpu : CpuId) (reason : WakeReason) : M Unit := do
  Op.ensure (reason = .lockGranted ∨ reason = .ownerGone ∨ reason = .cancelled ∨ reason = .timedOut) .wakePending
  wakeKind id cpu reason .externalLock

def donatePriority (id : TaskId) (priority : Nat) : M Unit := do
  Op.ensure (minPriority ≤ priority ∧ priority ≤ maxPriority) .priority
  let slot ← index id
  let task := (← Op.read).tasks slot
  Op.ensure (task.state = .runnable ∨ task.state = .running) .state
  let before := task.effectivePriority
  Op.update (fun s => s.setDonation slot (max (s.externalPriorityDonation slot) priority))
  recomputeEffectivePriorities
  let after := ((← Op.read).tasks slot).effectivePriority
  Op.when (before < after) countInheritance
  bump
  check

def revokePriorityDonation (id : TaskId) : M Unit := do
  let slot ← index id
  Op.update (fun s => s.setDonation slot 0)
  recomputeEffectivePriorities
  bump
  check

def cancelWait (id : TaskId) (cpu : CpuId) : M Unit := wake id cpu .cancelled

def timeoutWait (id : TaskId) (cpu : CpuId) : M Unit := wake id cpu .timedOut

def signalWait (id : TaskId) (cpu : CpuId) : M Unit := wake id cpu .signalled

def consumeWake (cpu : CpuId) : M WakeReason := do
  let id ← Op.lift ((← Op.read).currentId cpu)
  let slot ← index id
  let reason := ((← Op.read).tasks slot).wakeReason
  Op.ensure (reason ≠ .none) .wakePending
  Op.update (fun s => s.setTask slot (fun task => { task with wakeReason := .none }))
  bump
  check
  return reason

/-- The undo of a refused `enqueue` on the target: back to the source, then the error. -/
def returnToSource (slot : Slot) (source : CpuId) (reason : Error) : M Unit := do
  Op.update (fun s => s.setTask slot (fun task => { task with assignedCpu := some source }))
  enqueue slot source
  Op.fail reason

def migrate (id : TaskId) (target : CpuId) : M Unit := do
  online target
  let slot ← index id
  let s ← Op.read
  let task := s.tasks slot
  Op.ensure (task.state = .runnable) .state
  Op.ensure (Allows task.affinityMask target) .affinity
  let source ← Op.lift (orError task.queuedCpu .queueMissing)
  Op.ensure (source ≠ target) .state
  let rest ← Op.lift ((s.queues source).remove id)
  Op.update (fun s => (s.setQueue source rest).setTask slot (fun task =>
    { task with queuedCpu := none, assignedCpu := some target }))
  Op.onError (enqueue slot target) (returnToSource slot source)
  countMigration
  bump
  check

def setPriority (id : TaskId) (priority : Nat) : M Unit := do
  Op.ensure (minPriority ≤ priority ∧ priority ≤ maxPriority) .priority
  let slot ← index id
  Op.update (fun s => s.setTask slot (fun task => { task with basePriority := priority }))
  recomputeEffectivePriorities
  bump
  check

def ownerPriority (s : Scheduler) : Option Nat :=
  s.mutexOwner.map (fun owner => (s.taskAt owner).effectivePriority)

/-- `after > before` on optional priorities, where `None` is the least. -/
def raised : Option Nat → Option Nat → Bool
  | some before, some after => before < after
  | none, some _ => true
  | _, none => false

/-- The contended branch of `lock_mutex`: the caller blocks behind the owner. -/
def joinMutexWaiters (cpu : CpuId) (id : TaskId) : M Unit := do
  Op.ensure ((← Op.read).mutexWaiters.len ≠ 8) .mutexWaitersFull
  let _ ← takeCurrent cpu
  let slot ← index id
  Op.update (fun s =>
    { s.setTask slot (fun task =>
        { task with state := .blocked, assignedCpu := some cpu, waitKind := .mutex,
                    wakeReason := .none, bypassCount := 0 }) with
      mutexWaiters :=
        { s.mutexWaiters.put s.mutexWaiters.len (some id) with
          len := s.mutexWaiters.len + 1 } })
  let before := ownerPriority (← Op.read)
  recomputeEffectivePriorities
  let after := ownerPriority (← Op.read)
  Op.when (raised before after) countInheritance
  bump
  check

def lockMutex (cpu : CpuId) : M Unit := do
  let id ← Op.lift ((← Op.read).currentId cpu)
  let owner := (← Op.read).mutexOwner
  Op.ensure (owner ≠ some id) .mutexRecursive
  if owner = none then do
    Op.update (fun s => { s with mutexOwner := some id })
    bump
    check
  else joinMutexWaiters cpu id

def unlockMutex (cpu : CpuId) : M (Option TaskId) := do
  let s ← Op.read
  let id ← Op.lift (s.currentId cpu)
  Op.ensure (s.mutexOwner = some id) .mutexNotOwner
  let selected ← Op.lift s.highestMutexWaiter
  Op.update (fun s => { s with mutexOwner := selected })
  Op.whenSome selected (fun waiter => grantWaiter waiter .lockGranted)
  recomputeEffectivePriorities
  bump
  check
  return selected

/-- Take the task out of whatever its state says it is in. -/
def detach (id : TaskId) (slot : Slot) : M Unit := do
  let s ← Op.read
  let task := s.tasks slot
  match task.state with
  | .dormant => Op.fail .state
  | .runnable => do
      let cpu ← Op.lift (orError task.queuedCpu .queueMissing)
      let rest ← Op.lift ((s.queues cpu).remove id)
      Op.update (fun s => s.setQueue cpu rest)
  | .running => do
      let cpu ← Op.lift (orError task.assignedCpu .cpuRange)
      Op.ensure (s.current cpu = some id) .invariant
      Op.update (fun s => s.setCurrent cpu none)
  | .blocked => if task.waitKind = .mutex then removeMutexWaiter id else pure ()
  | .dead => Op.fail .state

/-- One turn of the loop that wakes every waiter of a dead owner. -/
def releaseFirstWaiter (_ : Nat) : M Unit := do
  let waiter ← Op.lift (orError ((← Op.read).mutexWaiters.get 0) .invariant)
  grantWaiter waiter .ownerGone

/-- The owner dies: nobody owns the mutex and every waiter is woken. -/
def releaseMutex : M Unit := do
  Op.update (fun s => { s with mutexOwner := none })
  -- Each turn removes exactly one waiter, so the loop makes this many turns.
  Op.forEach (List.range (← Op.read).mutexWaiters.len) releaseFirstWaiter

def teardown (id : TaskId) : M Unit := do
  let slot ← index id
  detach id slot
  let s ← Op.read
  Op.when (s.mutexOwner = some id) releaseMutex
  Op.update (fun s => (s.setTask slot (fun task =>
    { task with state := .dead, assignedCpu := none, queuedCpu := none,
                wakeReason := .none, waitKind := .none, bypassCount := 0,
                effectivePriority := task.basePriority })).setDonation slot 0)
  recomputeEffectivePriorities
  countTeardown
  bump
  check

/-- A public operation with its arguments. -/
inductive Call where
  | createTask (slot generation priority : Nat) (affinityMask : BitVec 8)
  | activate (id : TaskId) (cpu : CpuId)
  | dispatch (cpu : CpuId)
  | accountTick (cpu : CpuId) (ticks : Nat)
  | yieldCurrent (cpu : CpuId)
  | blockCurrent (cpu : CpuId)
  | blockCurrentForLock (cpu : CpuId)
  | wakeLockWaiter (id : TaskId) (cpu : CpuId) (reason : WakeReason)
  | donatePriority (id : TaskId) (priority : Nat)
  | revokePriorityDonation (id : TaskId)
  | cancelWait (id : TaskId) (cpu : CpuId)
  | timeoutWait (id : TaskId) (cpu : CpuId)
  | signalWait (id : TaskId) (cpu : CpuId)
  | consumeWake (cpu : CpuId)
  | migrate (id : TaskId) (target : CpuId)
  | setPriority (id : TaskId) (priority : Nat)
  | lockMutex (cpu : CpuId)
  | unlockMutex (cpu : CpuId)
  | teardown (id : TaskId)
deriving DecidableEq

/-- What an operation returns on success. -/
inductive Reply where
  | done
  | task (id : TaskId)
  | reason (reason : WakeReason)
  | granted (waiter : Option TaskId)
deriving DecidableEq, Repr

def Call.exec : Call → M Reply
  | .createTask slot generation priority affinityMask => do
      return .task (← Sched.createTask slot generation priority affinityMask)
  | .activate id cpu => do Sched.activate id cpu; return .done
  | .dispatch cpu => do return .task (← Sched.dispatch cpu)
  | .accountTick cpu ticks => do Sched.accountTick cpu ticks; return .done
  | .yieldCurrent cpu => do return .task (← Sched.yieldCurrent cpu)
  | .blockCurrent cpu => do return .task (← Sched.blockCurrent cpu)
  | .blockCurrentForLock cpu => do return .task (← Sched.blockCurrentForLock cpu)
  | .wakeLockWaiter id cpu reason => do Sched.wakeLockWaiter id cpu reason; return .done
  | .donatePriority id priority => do Sched.donatePriority id priority; return .done
  | .revokePriorityDonation id => do Sched.revokePriorityDonation id; return .done
  | .cancelWait id cpu => do Sched.cancelWait id cpu; return .done
  | .timeoutWait id cpu => do Sched.timeoutWait id cpu; return .done
  | .signalWait id cpu => do Sched.signalWait id cpu; return .done
  | .consumeWake cpu => do return .reason (← Sched.consumeWake cpu)
  | .migrate id target => do Sched.migrate id target; return .done
  | .setPriority id priority => do Sched.setPriority id priority; return .done
  | .lockMutex cpu => do Sched.lockMutex cpu; return .done
  | .unlockMutex cpu => do return .granted (← Sched.unlockMutex cpu)
  | .teardown id => do Sched.teardown id; return .done

/-- The state after a sequence of operations, whatever each of them returned. -/
def run (s : Scheduler) (calls : List Call) : Scheduler :=
  calls.foldl (fun s call => (call.exec.run s).2) s

end PooleOS.Sched
