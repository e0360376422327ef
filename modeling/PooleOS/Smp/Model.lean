import PooleOS.Lib.Op
import PooleOS.Lib.Slots
import PooleOS.Kernel.Ident

/- The PKSCHED4 ownership scheduler (`native/kernel/src/scheduler_smp.rs`): four
processors, eight tasks, and at most one transfer in flight. A transfer is
staged under a ticket and committed when the target acknowledges it. -/
namespace PooleOS.Smp

open Function (update)

def onlineMaskAll : BitVec 8 := 0x0f#8
def offlineProbeCpu : Nat := 4
def callFunctionOperation : Nat := 3
def rescheduleOperation : Nat := 1
def ackAccepted : Nat := 1
def errorNone : Nat := 0
def callFunctionResult : Nat := 0x43414c4c4e4f4f50
def rescheduleResult : Nat := 0x5253434845440001
def maxEqualPriorityBypass : Nat := 7

def u8Values : Nat := 2 ^ 8
def u32Values : Nat := 2 ^ 32
def u64Values : Nat := 2 ^ 64

inductive TaskState where
  | dormant
  | runnable
  | blocked
  | transfer
  | running
  | dead
deriving DecidableEq, Repr

inductive TransferKind where
  | wake
  | migration
  | dispatch
  | offlineProbe
  | preempt
deriving DecidableEq, Repr

inductive Error where
  | cpuRange
  | cpuOffline
  | cpuBusy
  | cpuNotIdle
  | taskRange
  | taskMissing
  | generation
  | generationStale
  | priority
  | affinity
  | state
  | queueFull
  | queueMissing
  | duplicateRunnable
  | pendingBusy
  | pendingMissing
  | ticketMismatch
  | acknowledgement
  | timeoutTarget
  | counter
  | invariant
deriving DecidableEq, Repr

structure TransferTicket where
  transaction : Nat
  kind : TransferKind
  task : TaskId
  sourceCpu : Nat
  targetCpu : Nat
  ownerEpoch : Nat
  requestAttempt : Nat
  requestSequence : Nat
deriving DecidableEq, Repr

structure RemoteAck where
  targetCpu : Nat
  attempt : Nat
  sequence : Nat
  operation : Nat
  status : Nat
  error : Nat
  result : Nat
deriving DecidableEq, Repr

structure Task where
  generation : Nat
  state : TaskState
  priority : Nat
  affinityMask : BitVec 8
  ownerCpu : Option CpuId
  ownerEpoch : Nat
  queuedCpu : Option CpuId
  bypassCount : Nat
  dispatchCount : Nat
deriving DecidableEq, Repr

namespace Task

def empty : Task where
  generation := 0
  state := .dormant
  priority := 1
  affinityMask := 0
  ownerCpu := none
  ownerEpoch := 0
  queuedCpu := none
  bypassCount := 0
  dispatchCount := 0

def id (task : Task) (slot : Slot) : TaskId := ⟨slot.val, task.generation⟩

end Task

structure TaskSnapshot where
  id : TaskId
  state : TaskState
  ownerCpu : Option CpuId
  ownerEpoch : Nat
  priority : Nat
  affinityMask : BitVec 8
  dispatchCount : Nat
deriving DecidableEq, Repr

def newTaskId (slot generation : Nat) : Except Error TaskId :=
  if 8 ≤ slot then .error .taskRange
  else if generation = 0 then .error .generation
  else .ok ⟨slot, generation⟩

abbrev Queue : Type := Slots TaskId 8

namespace Queue

def insert (queue : Queue) (index : Nat) (id : TaskId) : Except Error Queue :=
  if queue.len < index then .error .queueMissing
  else if (queue.position id).isSome then .error .duplicateRunnable
  else if queue.len = 8 then .error .queueFull
  else .ok (queue.openGap index id)

def push (queue : Queue) (id : TaskId) : Except Error Queue := queue.insert queue.len id

def removeAt (queue : Queue) (index : Nat) : Except Error (TaskId × Queue) :=
  if queue.len ≤ index then .error .queueMissing
  else
    match queue.get index with
    | none => .error .queueMissing
    | some id => .ok (id, queue.closeGap index)

def remove (queue : Queue) (id : TaskId) : Except Error Queue :=
  match queue.position id with
  | none => .error .queueMissing
  | some index =>
    match queue.removeAt index with
    | .error reason => .error reason
    | .ok (_, rest) => .ok rest

end Queue

structure SmpScheduler where
  tasks : Slot → Task
  queues : CpuId → Queue
  current : CpuId → Option TaskId
  onlineMask : BitVec 8
  pending : Option TransferTicket
  sequence : Nat
  transaction : Nat
  remoteWakeCount : Nat
  migrationCount : Nat
  dispatchCount : Nat
  bspDispatchCount : Nat
  apDispatchCount : Nat
  remoteAckCount : Nat
  timeoutCount : Nat
  rollbackCount : Nat
  staleRejectionCount : Nat
  teardownCount : Nat
  maximumBypass : Nat

abbrev M : Type → Type := Op SmpScheduler Error

namespace SmpScheduler

def new : SmpScheduler where
  tasks := fun _ => Task.empty
  queues := fun _ => Slots.empty
  current := fun _ => none
  onlineMask := onlineMaskAll
  pending := none
  sequence := 0
  transaction := 0
  remoteWakeCount := 0
  migrationCount := 0
  dispatchCount := 0
  bspDispatchCount := 0
  apDispatchCount := 0
  remoteAckCount := 0
  timeoutCount := 0
  rollbackCount := 0
  staleRejectionCount := 0
  teardownCount := 0
  maximumBypass := 0

def setTask (s : SmpScheduler) (slot : Slot) (f : Task → Task) : SmpScheduler :=
  { s with tasks := update s.tasks slot (f (s.tasks slot)) }

def setQueue (s : SmpScheduler) (cpu : CpuId) (queue : Queue) : SmpScheduler :=
  { s with queues := update s.queues cpu queue }

def setCurrent (s : SmpScheduler) (cpu : CpuId) (id : Option TaskId) : SmpScheduler :=
  { s with current := update s.current cpu id }

def bumpSequence (s : SmpScheduler) : SmpScheduler :=
  { s with sequence := (s.sequence + 1) % u64Values }

def taskIndex (s : SmpScheduler) (id : TaskId) : Except Error Slot :=
  match id.index? with
  | none => .error .taskRange
  | some slot =>
    if (s.tasks slot).generation = 0 then .error .taskMissing
    else if (s.tasks slot).generation ≠ id.generation then .error .generationStale
    else .ok slot

def requireOnline (s : SmpScheduler) (cpu : CpuId) : Except Error Unit :=
  if Allows s.onlineMask cpu then .ok () else .error .cpuOffline

def requireNoPending (s : SmpScheduler) : Except Error Unit :=
  if s.pending.isSome then .error .pendingBusy else .ok ()

/-- One comparison of the selection loop: higher priority first, then more bypasses. -/
def pickStep (s : SmpScheduler) (queue : Queue) (selected cursor : Nat) : Except Error Nat := do
  let candidate ← orError (queue.get cursor) Error.invariant
  let incumbent ← orError (queue.get selected) Error.invariant
  let candidateTask := s.tasks (← s.taskIndex candidate)
  let incumbentTask := s.tasks (← s.taskIndex incumbent)
  if incumbentTask.priority < candidateTask.priority ∨
      (candidateTask.priority = incumbentTask.priority ∧ incumbentTask.bypassCount < candidateTask.bypassCount) then
    return cursor
  else
    return selected

def pick (s : SmpScheduler) (cpu : CpuId) : Except Error Nat :=
  let queue := s.queues cpu
  if queue.len = 0 then .error .cpuNotIdle
  else (List.range' 1 (queue.len - 1)).foldlM (s.pickStep queue) 0

/-- `peek_dispatch`: the task that would be taken, once every bypass it causes fits. -/
def peekDispatch (s : SmpScheduler) (cpu : CpuId) (attempt sequence : Nat) : Except Error TaskId := do
  s.requireNoPending
  s.requireOnline cpu
  if s.current cpu ≠ none then .error .cpuBusy
  else if attempt = 0 ∨ sequence = 0 then .error .acknowledgement
  else do
    let queueIndex ← s.pick cpu
    let id ← orError ((s.queues cpu).get queueIndex) Error.invariant
    let _ ← orError (checkedAdd u64Values s.transaction 1) Error.counter
    let selectedPriority := (s.tasks (← s.taskIndex id)).priority
    (s.queues cpu).live.forM (fun other => do
      let task := s.tasks (← s.taskIndex other)
      if other ≠ id ∧ task.priority = selectedPriority then do
        let value ← orError (checkedAdd u8Values task.bypassCount 1) Error.counter
        if value ≤ maxEqualPriorityBypass then .ok () else .error .counter
      else .ok ())
    return id

def validateQueued (s : SmpScheduler) (cpu : CpuId) (queued : Slot → Nat) (cursor : Nat) :
    Except Error (Slot → Nat) := do
  let id ← orError ((s.queues cpu).get cursor) Error.invariant
  let slot ← s.taskIndex id
  let task := s.tasks slot
  if task.state ≠ .runnable ∨ task.queuedCpu ≠ some cpu ∨ task.ownerCpu ≠ some cpu ∨
      ¬ Allows task.affinityMask cpu ∨ maxEqualPriorityBypass < task.bypassCount then
    .error .invariant
  else do
    let count ← orError (checkedAdd u8Values (queued slot) 1) Error.invariant
    return update queued slot count

def validateRunning (s : SmpScheduler) (cpu : CpuId) (running : Slot → Nat) : Except Error (Slot → Nat) :=
  match s.current cpu with
  | none => .ok running
  | some id => do
      let slot ← s.taskIndex id
      let task := s.tasks slot
      if task.state ≠ .running ∨ task.ownerCpu ≠ some cpu ∨ task.queuedCpu ≠ none then
        .error .invariant
      else do
        let count ← orError (checkedAdd u8Values (running slot) 1) Error.invariant
        return update running slot count

def validateCpu (s : SmpScheduler) (counts : (Slot → Nat) × (Slot → Nat)) (cpu : CpuId) :
    Except Error ((Slot → Nat) × (Slot → Nat)) := do
  let queue := s.queues cpu
  if ¬ Allows s.onlineMask cpu ∧ (queue.len ≠ 0 ∨ s.current cpu ≠ none) then .error .invariant
  else if 8 < queue.len ∨ ∃ cell : Slot, queue.len ≤ cell.val ∧ queue.entries cell ≠ none then
    .error .invariant
  else do
    let queued ← (List.range queue.len).foldlM (s.validateQueued cpu) counts.1
    let running ← s.validateRunning cpu counts.2
    return (queued, running)

def validateState (task : Task) (queued running : Nat) : Except Error Unit :=
  match task.state with
  | .dormant =>
    if task.ownerCpu ≠ none ∨ task.queuedCpu ≠ none then .error .invariant else .ok ()
  | .runnable =>
    if queued ≠ 1 ∨ running ≠ 0 ∨ task.queuedCpu = none then .error .invariant else .ok ()
  | .blocked =>
    if queued ≠ 0 ∨ running ≠ 0 ∨ task.ownerCpu = none ∨ task.queuedCpu ≠ none then
      .error .invariant
    else .ok ()
  | .transfer =>
    if queued ≠ 0 ∨ running ≠ 0 ∨ task.queuedCpu ≠ none then .error .invariant else .ok ()
  | .running =>
    if queued ≠ 0 ∨ running ≠ 1 ∨ task.queuedCpu ≠ none then .error .invariant else .ok ()
  | .dead =>
    if queued ≠ 0 ∨ running ≠ 0 ∨ task.ownerCpu ≠ none ∨ task.queuedCpu ≠ none then
      .error .invariant
    else .ok ()

def validateTask (s : SmpScheduler) (queued running : Slot → Nat) (slot : Slot) : Except Error Unit :=
  let task := s.tasks slot
  if task.generation = 0 then
    if task.state ≠ .dormant ∨ queued slot ≠ 0 ∨ running slot ≠ 0 then .error .invariant
    else .ok ()
  else if task.affinityMask = 0 ∨ ¬ Within task.affinityMask onlineMaskAll then .error .invariant
  else do
    validateState task (queued slot) (running slot)
    if 1 < queued slot ∨ 1 < running slot ∨ (task.ownerEpoch = 0 ∧ task.state ≠ .dormant) then
      .error .duplicateRunnable
    else .ok ()

/-- The state each kind of transfer requires of its task. -/
def validateKind (kind : TransferKind) (state : TaskState) : Except Error Unit :=
  match kind with
  | .wake => if state ≠ .blocked then .error .invariant else .ok ()
  | .migration => if state ≠ .runnable then .error .invariant else .ok ()
  | .offlineProbe => if state ≠ .runnable then .error .invariant else .ok ()
  | .dispatch => if state ≠ .transfer then .error .invariant else .ok ()
  | .preempt => .ok ()

def validatePending (s : SmpScheduler) : Except Error Unit :=
  match s.pending with
  | some ticket => do
      let slot ← s.taskIndex ticket.task
      validateKind ticket.kind (s.tasks slot).state
  | none => if ∃ slot, (s.tasks slot).state = .transfer then .error .invariant else .ok ()

def validate (s : SmpScheduler) : Except Error Unit :=
  if s.onlineMask = 0 ∨ ¬ Within s.onlineMask onlineMaskAll then .error .invariant
  else do
    let (queued, running) ← (List.finRange 4).foldlM s.validateCpu (fun _ => 0, fun _ => 0)
    (List.finRange 8).forM (s.validateTask queued running)
    s.validatePending

end SmpScheduler

open SmpScheduler

def bump : M Unit := Op.update SmpScheduler.bumpSequence

def check : M Unit := do
  Op.lift (← Op.read).validate

def online (cpu : CpuId) : M Unit := do
  Op.lift ((← Op.read).requireOnline cpu)

def noPending : M Unit := do
  Op.lift (← Op.read).requireNoPending

def index (id : TaskId) : M Slot := do
  Op.lift ((← Op.read).taskIndex id)

/-- `increment` on a 32-bit counter. -/
def increment (value : Nat) : Except Error Nat :=
  orError (checkedAdd u32Values value 1) .counter

/-- `field = increment(field)?`. -/
def count (get : SmpScheduler → Nat) (set : Nat → SmpScheduler → SmpScheduler) : M Unit := do
  let value ← Op.lift (increment (get (← Op.read)))
  Op.update (set value)

def countRemoteWake : M Unit :=
  count SmpScheduler.remoteWakeCount (fun value s => { s with remoteWakeCount := value })

def countMigration : M Unit :=
  count SmpScheduler.migrationCount (fun value s => { s with migrationCount := value })

def countDispatch : M Unit :=
  count SmpScheduler.dispatchCount (fun value s => { s with dispatchCount := value })

def countBspDispatch : M Unit :=
  count SmpScheduler.bspDispatchCount (fun value s => { s with bspDispatchCount := value })

def countApDispatch : M Unit :=
  count SmpScheduler.apDispatchCount (fun value s => { s with apDispatchCount := value })

def countRemoteAck : M Unit :=
  count SmpScheduler.remoteAckCount (fun value s => { s with remoteAckCount := value })

def countTimeout : M Unit :=
  count SmpScheduler.timeoutCount (fun value s => { s with timeoutCount := value })

def countRollback : M Unit :=
  count SmpScheduler.rollbackCount (fun value s => { s with rollbackCount := value })

def countStaleRejection : M Unit :=
  count SmpScheduler.staleRejectionCount (fun value s => { s with staleRejectionCount := value })

def countTeardown : M Unit :=
  count SmpScheduler.teardownCount (fun value s => { s with teardownCount := value })

def enqueue (slot : Slot) (cpu : CpuId) : M Unit := do
  let s ← Op.read
  let task := s.tasks slot
  Op.ensure (task.state = .runnable ∧ task.queuedCpu = none) .state
  Op.ensure (Allows task.affinityMask cpu) .affinity
  let queue ← Op.lift ((s.queues cpu).push (task.id slot))
  Op.update (fun s => (s.setQueue cpu queue).setTask slot (fun task =>
    { task with queuedCpu := some cpu }))

/-- `owner_epoch = increment(owner_epoch)?`. -/
def advanceEpoch (slot : Slot) : M Unit := do
  let value ← Op.lift (increment ((← Op.read).tasks slot).ownerEpoch)
  Op.update (fun s => s.setTask slot (fun task => { task with ownerEpoch := value }))

/-- The task's own `dispatch_count = increment(dispatch_count)?`. -/
def advanceDispatches (slot : Slot) : M Unit := do
  let value ← Op.lift (increment ((← Op.read).tasks slot).dispatchCount)
  Op.update (fun s => s.setTask slot (fun task => { task with dispatchCount := value }))

/-- One equal-priority task left behind in the queue is bypassed once more. -/
def bypassOther (cpu : CpuId) (selectedPriority : Nat) (cursor : Nat) : M Unit := do
  let s ← Op.read
  let other ← Op.lift (orError ((s.queues cpu).get cursor) .invariant)
  let slot ← index other
  let task := s.tasks slot
  Op.when (task.priority = selectedPriority) do
    let value ← Op.lift (orError (checkedAdd u8Values task.bypassCount 1) .counter)
    Op.update (fun s => s.setTask slot (fun task => { task with bypassCount := value }))
    Op.ensure (value ≤ maxEqualPriorityBypass) .counter
    Op.update (fun s => { s with maximumBypass := max s.maximumBypass value })

/-- The loop over what is left of the queue. -/
def bypassOthers (cpu : CpuId) (selectedPriority : Nat) : M Unit := do
  let s ← Op.read
  Op.forEach (List.range (s.queues cpu).len) (bypassOther cpu selectedPriority)

/-- The dispatch counters of the scheduler and of the processor's class. -/
def countDispatchOn (target : CpuId) : M Unit := do
  countDispatch
  if target.val = 0 then countBspDispatch else countApDispatch

def commitWake (slot : Slot) (target : CpuId) : M Unit := do
  Op.ensure (((← Op.read).tasks slot).state = .blocked) .state
  Op.update (fun s => s.setTask slot (fun task =>
    { task with state := .runnable, ownerCpu := some target }))
  advanceEpoch slot
  enqueue slot target
  countRemoteWake

def commitMigration (ticket : TransferTicket) (slot : Slot) (target : CpuId) : M Unit := do
  Op.ensure (((← Op.read).tasks slot).state = .runnable) .state
  let source ← Op.lift (orError (CpuId.new ticket.sourceCpu) .cpuRange)
  let rest ← Op.lift (((← Op.read).queues source).remove ticket.task)
  Op.update (fun s => (s.setQueue source rest).setTask slot (fun task =>
    { task with queuedCpu := none, ownerCpu := some target }))
  advanceEpoch slot
  enqueue slot target
  countMigration

def commitDispatch (ticket : TransferTicket) (slot : Slot) (target : CpuId) : M Unit := do
  let s ← Op.read
  Op.ensure ((s.tasks slot).state = .transfer ∧ s.current target = none) .state
  Op.update (fun s => s.setTask slot (fun task =>
    { task with state := .running, ownerCpu := some target }))
  advanceEpoch slot
  Op.update (fun s => s.setTask slot (fun task => { task with bypassCount := 0 }))
  advanceDispatches slot
  Op.update (fun s => s.setCurrent target (some ticket.task))
  countDispatchOn target

/-- The preempted task goes back to the end of its processor's queue. -/
def requeueCurrent (ticket : TransferTicket) (slot : Slot) (target : CpuId) : M Unit := do
  let s ← Op.read
  Op.ensure (s.current target = some ticket.task ∧ (s.tasks slot).state = .running) .state
  Op.update (fun s => (s.setCurrent target none).setTask slot (fun task =>
    { task with state := .runnable, queuedCpu := none }))
  enqueue slot target

/-- The task that the queue offers next becomes the current one. -/
def promoteNext (target : CpuId) : M Unit := do
  let queueIndex ← Op.lift ((← Op.read).pick target)
  let (next, rest) ← Op.lift (((← Op.read).queues target).removeAt queueIndex)
  Op.update (fun s => s.setQueue target rest)
  let slot ← index next
  let selectedPriority := ((← Op.read).tasks slot).priority
  bypassOthers target selectedPriority
  Op.update (fun s => s.setTask slot (fun task =>
    { task with state := .running, ownerCpu := some target }))
  advanceEpoch slot
  Op.update (fun s => s.setTask slot (fun task =>
    { task with queuedCpu := none, bypassCount := 0 }))
  advanceDispatches slot
  Op.update (fun s => s.setCurrent target (some next))
  countDispatchOn target

def commitPreempt (ticket : TransferTicket) (slot : Slot) (target : CpuId) : M Unit := do
  requeueCurrent ticket slot target
  promoteNext target

def commitKind (ticket : TransferTicket) (slot : Slot) (target : CpuId) : M Unit :=
  match ticket.kind with
  | .wake => commitWake slot target
  | .migration => commitMigration ticket slot target
  | .dispatch => commitDispatch ticket slot target
  | .preempt => commitPreempt ticket slot target
  | .offlineProbe => Op.fail .acknowledgement

def commitAcknowledgement (ticket : TransferTicket) : M Unit := do
  let slot ← index ticket.task
  Op.ensure (((← Op.read).tasks slot).ownerEpoch = ticket.ownerEpoch) .generationStale
  let target ← Op.lift (orError (CpuId.new ticket.targetCpu) .cpuRange)
  commitKind ticket slot target
  Op.update (fun s => { s with pending := none })
  countRemoteAck
  bump
  check

def timeoutInner (ticket : TransferTicket) : M Unit := do
  let pending ← Op.lift (orError (← Op.read).pending .pendingMissing)
  Op.ensure (pending = ticket ∧ ticket.kind = .offlineProbe) .ticketMismatch
  let slot ← index ticket.task
  let task := (← Op.read).tasks slot
  Op.ensure (task.state = .runnable ∧ task.queuedCpu.map Fin.val = some ticket.sourceCpu) .invariant
  Op.update (fun s => { s with pending := none })
  countTimeout
  countRollback
  bump
  check

/-- The ticket is installed on a copy that is kept only if a trial commit succeeds. -/
def installPending (kind : TransferKind) (task : TaskId) (sourceCpu targetCpu requestAttempt
    requestSequence : Nat) : M TransferTicket := do
  Op.ensure (requestAttempt ≠ 0 ∧ requestSequence ≠ 0) .acknowledgement
  let s ← Op.read
  let transaction ← Op.lift (orError (checkedAdd u64Values s.transaction 1) .counter)
  let slot ← index task
  let ticket : TransferTicket :=
    { transaction, kind, task, sourceCpu, targetCpu, ownerEpoch := (s.tasks slot).ownerEpoch,
      requestAttempt, requestSequence }
  Op.transact do
    Op.update (fun s => { s with transaction := transaction, pending := some ticket })
    bump
    check
    Op.dryRun (if kind = .offlineProbe then timeoutInner ticket else commitAcknowledgement ticket)
  return ticket

def createTask (slot generation priority : Nat) (affinityMask : BitVec 8) : M TaskId := do
  let id ← Op.lift (newTaskId slot generation)
  Op.ensure (priority ≠ 0 ∧ priority ≤ 31) .priority
  Op.ensure (affinityMask ≠ 0 ∧ Within affinityMask onlineMaskAll) .affinity
  let index ← Op.lift (orError id.index? .taskRange)
  let task := (← Op.read).tasks index
  Op.ensure (task.generation = 0 ∨ task.state = .dead) .state
  Op.ensure (task.generation = 0 ∨ task.generation < generation) .generationStale
  Op.update (fun s => s.setTask index (fun _ =>
    { generation := generation, state := .dormant, priority := priority,
      affinityMask := affinityMask, ownerCpu := none, ownerEpoch := 0, queuedCpu := none,
      bypassCount := 0, dispatchCount := 0 }))
  bump
  return id

def activate (id : TaskId) (cpu : CpuId) : M Unit := do
  online cpu
  let slot ← index id
  let task := (← Op.read).tasks slot
  Op.ensure (task.state = .dormant ∧ Allows task.affinityMask cpu) .state
  Op.update (fun s => s.setTask slot (fun task =>
    { task with state := .runnable, ownerCpu := some cpu, ownerEpoch := 1 }))
  enqueue slot cpu
  bump
  check

def blockRunnable (id : TaskId) : M Unit := do
  noPending
  let slot ← index id
  let s ← Op.read
  Op.ensure ((s.tasks slot).state = .runnable) .state
  let cpu ← Op.lift (orError (s.tasks slot).queuedCpu .queueMissing)
  let rest ← Op.lift ((s.queues cpu).remove id)
  Op.update (fun s => (s.setQueue cpu rest).setTask slot (fun task =>
    { task with state := .blocked, queuedCpu := none, bypassCount := 0 }))
  bump
  check

def stageWake (id : TaskId) (target : CpuId) (attempt sequence : Nat) : M TransferTicket := do
  noPending
  online target
  let slot ← index id
  let task := (← Op.read).tasks slot
  Op.ensure (task.state = .blocked ∧ Allows task.affinityMask target) .state
  let source ← Op.lift (orError task.ownerCpu .invariant)
  installPending .wake id source.val target.val attempt sequence

def stageMigration (id : TaskId) (target : CpuId) (attempt sequence : Nat) : M TransferTicket := do
  noPending
  online target
  let slot ← index id
  let s ← Op.read
  let task := s.tasks slot
  Op.ensure (task.state = .runnable ∧ Allows task.affinityMask target) .state
  let source ← Op.lift (orError task.queuedCpu .queueMissing)
  Op.ensure (source ≠ target) .state
  Op.ensure (((s.queues source).position id).isSome) .queueMissing
  installPending .migration id source.val target.val attempt sequence

def stageOfflineProbe (id : TaskId) (targetCpu attempt sequence : Nat) : M TransferTicket := do
  noPending
  Op.ensure (targetCpu = offlineProbeCpu) .timeoutTarget
  let slot ← index id
  let task := (← Op.read).tasks slot
  Op.ensure (task.state = .runnable) .state
  let source ← Op.lift (orError task.queuedCpu .queueMissing)
  installPending .offlineProbe id source.val targetCpu attempt sequence

def stageDispatch (cpu : CpuId) (attempt sequence : Nat) : M TransferTicket :=
  Op.transact do
    let id ← Op.lift ((← Op.read).peekDispatch cpu attempt sequence)
    let rest ← Op.lift (((← Op.read).queues cpu).remove id)
    Op.update (fun s => s.setQueue cpu rest)
    let slot ← index id
    let selectedPriority := ((← Op.read).tasks slot).priority
    bypassOthers cpu selectedPriority
    Op.update (fun s => s.setTask slot (fun task =>
      { task with state := .transfer, queuedCpu := none }))
    installPending .dispatch id cpu.val cpu.val attempt sequence

def stagePreempt (cpu : CpuId) (attempt sequence : Nat) : M TransferTicket := do
  noPending
  online cpu
  let s ← Op.read
  let current ← Op.lift (orError (s.current cpu) .cpuNotIdle)
  Op.ensure ((s.queues cpu).len ≠ 0) .queueMissing
  installPending .preempt current cpu.val cpu.val attempt sequence

def acknowledgeExpected (ticket : TransferTicket) (ack : RemoteAck) (operation result : Nat) : M Unit := do
  let pending ← Op.lift (orError (← Op.read).pending .pendingMissing)
  Op.ensure (pending = ticket) .ticketMismatch
  Op.ensure (ack.targetCpu = ticket.targetCpu ∧ ack.attempt = ticket.requestAttempt ∧
    ack.sequence = ticket.requestSequence ∧ ack.operation = operation ∧
    ack.status = ackAccepted ∧ ack.error = errorNone ∧ ack.result = result) .acknowledgement
  Op.transact (commitAcknowledgement ticket)

def acknowledge (ticket : TransferTicket) (ack : RemoteAck) : M Unit :=
  acknowledgeExpected ticket ack callFunctionOperation callFunctionResult

def acknowledgeReschedule (ticket : TransferTicket) (ack : RemoteAck) : M Unit :=
  acknowledgeExpected ticket ack rescheduleOperation rescheduleResult

/-- Take a task that is queued or blocked out of its queue. -/
def detach (id : TaskId) (slot : Slot) : M Unit := do
  let s ← Op.read
  match (s.tasks slot).state with
  | .runnable => do
      let cpu ← Op.lift (orError (s.tasks slot).queuedCpu .queueMissing)
      let rest ← Op.lift ((s.queues cpu).remove id)
      Op.update (fun s => s.setQueue cpu rest)
  | .blocked => pure ()
  | _ => Op.fail .state

/-- The task as it is when it is cancelled or has completed. -/
def buried (task : Task) : Task :=
  { task with state := .dead, ownerCpu := none, queuedCpu := none, bypassCount := 0 }

def cancelTask (id : TaskId) : M Unit :=
  Op.transact do
    noPending
    let slot ← index id
    detach id slot
    Op.update (fun s => s.setTask slot buried)
    countTeardown
    bump
    check

def timeout (ticket : TransferTicket) : M Unit := Op.transact (timeoutInner ticket)

def rejectStaleAck (ticket : TransferTicket) (ack : RemoteAck) : M Unit := do
  Op.ensure ((← Op.read).pending = none) .invariant
  let result ← Op.attempt (acknowledge ticket ack)
  Op.lift (match result with
    | .error .pendingMissing => .ok ()
    | _ => .error .invariant)
  countStaleRejection
  bump

def completeCurrentInner (cpu : CpuId) : M TaskId := do
  noPending
  online cpu
  let taken := (← Op.read).current cpu
  Op.update (fun s => s.setCurrent cpu none)
  let id ← Op.lift (orError taken .cpuNotIdle)
  let slot ← index id
  Op.ensure (((← Op.read).tasks slot).state = .running) .invariant
  Op.update (fun s => s.setTask slot buried)
  countTeardown
  bump
  check
  return id

def completeCurrent (cpu : CpuId) : M TaskId := Op.transact (completeCurrentInner cpu)

def dispatchLocal (cpu : CpuId) : M TaskId :=
  Op.transact do
    noPending
    online cpu
    let s ← Op.read
    Op.ensure (cpu.val = 0 ∧ s.current cpu = none) .cpuBusy
    let queueIndex ← Op.lift (s.pick cpu)
    let (id, rest) ← Op.lift ((s.queues cpu).removeAt queueIndex)
    Op.update (fun s => s.setQueue cpu rest)
    let slot ← index id
    Op.update (fun s => s.setTask slot (fun task =>
      { task with state := .running, queuedCpu := none }))
    advanceEpoch slot
    advanceDispatches slot
    Op.update (fun s => (s.setTask slot (fun task =>
      { task with bypassCount := 0 })).setCurrent cpu (some id))
    countDispatch
    countBspDispatch
    bump
    check
    completeCurrentInner cpu

def offlineIdleCpu (cpu : CpuId) : M Unit := do
  noPending
  online cpu
  let s ← Op.read
  Op.ensure (cpu.val ≠ 0 ∧ s.current cpu = none ∧ (s.queues cpu).len = 0) .cpuNotIdle
  Op.update (fun s => { s with onlineMask := s.onlineMask &&& ~~~cpu.mask })
  bump
  check

def taskSnapshot (id : TaskId) : M TaskSnapshot := do
  let s ← Op.read
  match s.taskIndex id with
  | .ok slot =>
    let task := s.tasks slot
    return { id, state := task.state, ownerCpu := task.ownerCpu, ownerEpoch := task.ownerEpoch,
             priority := task.priority, affinityMask := task.affinityMask,
             dispatchCount := task.dispatchCount }
  | .error .generationStale => do
      countStaleRejection
      Op.fail .generationStale
  | .error reason => Op.fail reason

/-- A public operation with its arguments. -/
inductive Call where
  | createTask (slot generation priority : Nat) (affinityMask : BitVec 8)
  | activate (id : TaskId) (cpu : CpuId)
  | blockRunnable (id : TaskId)
  | stageWake (id : TaskId) (target : CpuId) (attempt sequence : Nat)
  | stageMigration (id : TaskId) (target : CpuId) (attempt sequence : Nat)
  | stageOfflineProbe (id : TaskId) (targetCpu attempt sequence : Nat)
  | stageDispatch (cpu : CpuId) (attempt sequence : Nat)
  | stagePreempt (cpu : CpuId) (attempt sequence : Nat)
  | acknowledge (ticket : TransferTicket) (ack : RemoteAck)
  | acknowledgeReschedule (ticket : TransferTicket) (ack : RemoteAck)
  | cancelTask (id : TaskId)
  | timeout (ticket : TransferTicket)
  | rejectStaleAck (ticket : TransferTicket) (ack : RemoteAck)
  | completeCurrent (cpu : CpuId)
  | dispatchLocal (cpu : CpuId)
  | offlineIdleCpu (cpu : CpuId)
  | taskSnapshot (id : TaskId)
deriving DecidableEq

inductive Reply where
  | done
  | task (id : TaskId)
  | ticket (ticket : TransferTicket)
  | snapshot (snapshot : TaskSnapshot)
deriving DecidableEq, Repr

def Call.exec : Call → M Reply
  | .createTask slot generation priority affinityMask => do
      return .task (← Smp.createTask slot generation priority affinityMask)
  | .activate id cpu => do Smp.activate id cpu; return .done
  | .blockRunnable id => do Smp.blockRunnable id; return .done
  | .stageWake id target requestAttempt requestSequence => do
      return .ticket (← Smp.stageWake id target requestAttempt requestSequence)
  | .stageMigration id target requestAttempt requestSequence => do
      return .ticket (← Smp.stageMigration id target requestAttempt requestSequence)
  | .stageOfflineProbe id targetCpu requestAttempt requestSequence => do
      return .ticket (← Smp.stageOfflineProbe id targetCpu requestAttempt requestSequence)
  | .stageDispatch cpu requestAttempt requestSequence => do
      return .ticket (← Smp.stageDispatch cpu requestAttempt requestSequence)
  | .stagePreempt cpu requestAttempt requestSequence => do
      return .ticket (← Smp.stagePreempt cpu requestAttempt requestSequence)
  | .acknowledge ticket ack => do Smp.acknowledge ticket ack; return .done
  | .acknowledgeReschedule ticket ack => do Smp.acknowledgeReschedule ticket ack; return .done
  | .cancelTask id => do Smp.cancelTask id; return .done
  | .timeout ticket => do Smp.timeout ticket; return .done
  | .rejectStaleAck ticket ack => do Smp.rejectStaleAck ticket ack; return .done
  | .completeCurrent cpu => do return .task (← Smp.completeCurrent cpu)
  | .dispatchLocal cpu => do return .task (← Smp.dispatchLocal cpu)
  | .offlineIdleCpu cpu => do Smp.offlineIdleCpu cpu; return .done
  | .taskSnapshot id => do return .snapshot (← Smp.taskSnapshot id)

/-- The state after a sequence of operations, whatever each of them returned. -/
def run (s : SmpScheduler) (calls : List Call) : SmpScheduler :=
  calls.foldl (fun s call => (call.exec.run s).2) s

end PooleOS.Smp
