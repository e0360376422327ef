import PooleOS.Lib.Op

/- Deferred work: a top half queues requests into eight generation-tagged slots,
and one of two workers claims and finishes them after the end of interrupt.
Every method works on a copy, and says which results make the copy visible. -/
namespace PooleOS.Deferred

inductive Error
  | capacity
  | duplicate
  | intakeClosed
  | topHalfContext
  | recursion
  | invalidRequest
  | invalidWorker
  | dispatchBeforeEoi
  | empty
  | staleId
  | state
  | workerOwnership
  | flushPending
  | shutdownPending
  | faultInjected
  | counter
  | invariant
deriving DecidableEq, Repr

inductive Priority
  | high
  | normal
deriving DecidableEq, Repr

inductive Operation
  | add (value : Nat)
  | xor (value : Nat)
  | fence (value : Nat)
deriving DecidableEq, Repr

/-- `operation_value`. -/
def operationValue : Operation → Nat
  | .add value => value
  | .xor value => value
  | .fence value => value

structure WorkRequest where
  key : Nat
  source : Nat
  priority : Priority
  operation : Operation
deriving DecidableEq, Repr

structure WorkId where
  slot : Nat
  generation : Nat
deriving DecidableEq, Repr

inductive WorkState
  | free
  | reserved
  | queued
  | running
  | completed
  | cancelled
deriving DecidableEq, Repr

/-- `matches!(state, WorkState::Completed | WorkState::Cancelled)`. -/
def WorkState.Terminal (state : WorkState) : Prop := state = .completed ∨ state = .cancelled

instance (state : WorkState) : Decidable state.Terminal := inferInstanceAs (Decidable (_ ∨ _))

structure TopHalfContext where
  interruptDepth : Nat
  interruptsDisabled : Bool
  queueLockHeld : Bool
  workerContext : Bool
deriving DecidableEq, Repr

structure DispatchPermit where
  eoiEpoch : Nat
deriving DecidableEq, Repr

structure Receipt where
  id : WorkId
  worker : Nat
  state : WorkState
  completionSequence : Nat
  result : Nat
deriving DecidableEq, Repr

inductive FaultPoint
  | none
  | afterReserve
  | afterQueue
  | beforeExecute
  | beforeCommit
  | cleanup
deriving DecidableEq, Repr

def u8Max : Nat := 255
def u32Values : Nat := 4294967296
def u64Values : Nat := 18446744073709551616
def workerCount : Nat := 2
def maxHighBypass : Nat := 3

def emptyRequest : WorkRequest := ⟨0, 0, .normal, .fence 0⟩

structure Slot where
  generation : Nat
  state : WorkState
  request : WorkRequest
  enqueueSequence : Nat
  completionSequence : Nat
  owner : Nat
  cancelRequested : Bool
  result : Nat
deriving DecidableEq, Repr

/-- `Slot { generation, ..Slot::EMPTY }`. -/
def Slot.emptied (generation : Nat) : Slot :=
  ⟨generation, .free, emptyRequest, 0, 0, u8Max, false, 0⟩

/-- A position in the array of slots. -/
abbrev Index : Type := Fin 8

structure Controller where
  slots : Index → Slot
  intakeOpen : Bool
  shutdownComplete : Bool
  activeWorker : Nat
  enqueueSequence : Nat
  completionSequence : Nat
  eoiEpoch : Nat
  enqueued : Nat
  completed : Nat
  cancelled : Nat
  duplicateSuppressed : Nat
  runningCancelRequests : Nat
  dispatches : Nat
  retired : Nat
  rollbackCount : Nat
  highBypass : Nat
  maxHighBypassObserved : Nat
  sumLane : Nat
  xorLane : Nat
  fenceLane : Nat

namespace Controller

def new : Controller where
  slots := fun _ => Slot.emptied 0
  intakeOpen := true
  shutdownComplete := false
  activeWorker := u8Max
  enqueueSequence := 0
  completionSequence := 0
  eoiEpoch := 0
  enqueued := 0
  completed := 0
  cancelled := 0
  duplicateSuppressed := 0
  runningCancelRequests := 0
  dispatches := 0
  retired := 0
  rollbackCount := 0
  highBypass := 0
  maxHighBypassObserved := 0
  sumLane := 0
  xorLane := 0
  fenceLane := 0

def setSlot (s : Controller) (index : Index) (f : Slot → Slot) : Controller :=
  { s with slots := Function.update s.slots index (f (s.slots index)) }

/-- `slots[index].id(index)`. -/
def id (s : Controller) (index : Index) : WorkId := ⟨index.val, (s.slots index).generation⟩

def resolve (s : Controller) (id : WorkId) : Except Error Index :=
  if inside : id.slot < 8 then
    if (s.slots ⟨id.slot, inside⟩).state = .free ∨
        (s.slots ⟨id.slot, inside⟩).generation ≠ id.generation then .error .staleId
    else .ok ⟨id.slot, inside⟩
  else .error .staleId

/-- A slot that is not free holds this key and source. -/
def Holds (s : Controller) (request : WorkRequest) (index : Index) : Prop :=
  (s.slots index).state ≠ .free ∧ (s.slots index).request.key = request.key ∧
    (s.slots index).request.source = request.source

instance (s : Controller) (request : WorkRequest) (index : Index) :
    Decidable (s.Holds request index) := inferInstanceAs (Decidable (_ ∧ _))

/-- `slots.iter().position(|slot| slot.state == WorkState::Free)`. -/
def firstFree (s : Controller) : Option Index :=
  (List.finRange 8).find? (fun index => (s.slots index).state = .free)

def oldestQueued (s : Controller) (priority : Priority) : Option Index :=
  ((List.finRange 8).filter (fun index => (s.slots index).state = .queued ∧
    (s.slots index).request.priority = priority)).argmin (fun index => (s.slots index).enqueueSequence)

/-- `select_next`: the slot it picks and the bypass fields it leaves. -/
def selectNext (s : Controller) : Option Index × Controller :=
  match s.oldestQueued .high, s.oldestQueued .normal with
  | some high, some normal =>
    if maxHighBypass ≤ s.highBypass then (some normal, { s with highBypass := 0 })
    else (some high, { s with
      highBypass := s.highBypass + 1
      maxHighBypassObserved := max s.maxHighBypassObserved (s.highBypass + 1) })
  | some high, none => (some high, { s with highBypass := 0 })
  | none, some normal => (some normal, { s with highBypass := 0 })
  | none, none => (none, s)

/-- The body of the loop of `validate`, with the running slots counted so far. -/
def validateSlot (s : Controller) (running : Nat) (index : Index) : Except Error Nat :=
  let slot := s.slots index
  if slot.state = .free then
    if slot.owner ≠ u8Max ∨ slot.cancelRequested ∨ slot.enqueueSequence ≠ 0 ∨
        slot.completionSequence ≠ 0 then .error .invariant
    else .ok running
  else if slot.generation = 0 ∨ slot.request.key = 0 ∨ slot.enqueueSequence = 0 then
    .error .invariant
  else do
    let running ←
      if slot.state = .running then do
        let running ← orError (checkedAdd (u8Max + 1) running 1) .counter
        if workerCount ≤ slot.owner ∨ s.activeWorker ≠ slot.owner then .error .invariant
        else .ok running
      else if slot.owner ≠ u8Max then .error .invariant
      else .ok running
    if ¬ (slot.state.Terminal ↔ slot.completionSequence ≠ 0) then .error .invariant
    else if ∃ other, index < other ∧ s.Holds slot.request other then .error .invariant
    else .ok running

def validate (s : Controller) : Except Error Unit := do
  let running ← (List.finRange 8).foldlM s.validateSlot 0
  if ¬ (running = 0 ↔ s.activeWorker = u8Max) ∨ 1 < running then .error .invariant
  else if s.shutdownComplete ∧ (s.intakeOpen ∨ ∃ index, (s.slots index).state ≠ .free) then
    .error .invariant
  else .ok ()

end Controller

/-- A method of the controller. -/
abbrev M (α : Type) : Type := Op Controller Error α

/-- `self.validate()?`. -/
def check : M Unit := do
  Op.lift (← Op.read).validate

def resolve (id : WorkId) : M Index := do
  Op.lift ((← Op.read).resolve id)

def modifySlot (index : Index) (f : Slot → Slot) : M Unit :=
  Op.update (fun s => s.setSlot index f)

/-- `self.field = self.field.checked_add(1).ok_or(Error::Counter)?`. -/
def advance (limit : Nat) (get : Controller → Nat) (set : Nat → Controller → Controller) : M Unit := do
  let value ← Op.lift (orError (checkedAdd limit (get (← Op.read)) 1) .counter)
  Op.update (set value)

/-- `self.field = increment(self.field)?`. -/
def increment (get : Controller → Nat) (set : Nat → Controller → Controller) : M Unit :=
  advance u32Values get set

def countEnqueued : M Unit :=
  increment Controller.enqueued (fun value s => { s with enqueued := value })

def countCompleted : M Unit :=
  increment Controller.completed (fun value s => { s with completed := value })

def countCancelled : M Unit :=
  increment Controller.cancelled (fun value s => { s with cancelled := value })

def countDuplicate : M Unit :=
  increment Controller.duplicateSuppressed (fun value s => { s with duplicateSuppressed := value })

def countRunningCancel : M Unit :=
  increment Controller.runningCancelRequests
    (fun value s => { s with runningCancelRequests := value })

def countDispatch : M Unit :=
  increment Controller.dispatches (fun value s => { s with dispatches := value })

def countRetired : M Unit :=
  increment Controller.retired (fun value s => { s with retired := value })

def countRollback : M Unit :=
  increment Controller.rollbackCount (fun value s => { s with rollbackCount := value })

def advanceEnqueueSequence : M Unit :=
  advance u64Values Controller.enqueueSequence (fun value s => { s with enqueueSequence := value })

def advanceCompletionSequence : M Unit :=
  advance u64Values Controller.completionSequence
    (fun value s => { s with completionSequence := value })

def setActiveWorker (worker : Nat) : M Unit :=
  Op.update (fun s => { s with activeWorker := worker })

def rollbackSlot (index : Index) : M Unit := do
  modifySlot index (fun slot => Slot.emptied slot.generation)
  countRollback

/-- A fault after the slot has been written: undo it and report the fault. -/
def rollbackFault (index : Index) : M Unit := do
  rollbackSlot index
  Op.fail .faultInjected

def suppressDuplicate : M Unit := do
  countDuplicate
  Op.fail .duplicate

def enqueueInner (request : WorkRequest) (context : TopHalfContext) (fault : FaultPoint) : M WorkId := do
  let s ← Op.read
  Op.ensure (¬ (context.workerContext ∨ s.activeWorker ≠ u8Max)) .recursion
  Op.ensure (¬ (context.interruptDepth ≠ 1 ∨ ¬ context.interruptsDisabled ∨ ¬ context.queueLockHeld)) .topHalfContext
  Op.ensure s.intakeOpen .intakeClosed
  Op.ensure (¬ (request.key = 0 ∨ operationValue request.operation = 0)) .invalidRequest
  Op.when (∃ index, s.Holds request index) suppressDuplicate
  let index ← Op.lift (orError s.firstFree .capacity)
  let generation := ((s.slots index).generation + 1) % u32Values
  Op.ensure (generation ≠ 0) .counter
  modifySlot index (fun _ => ⟨generation, .reserved, request, 0, 0, u8Max, false, 0⟩)
  Op.when (fault = .afterReserve) (rollbackFault index)
  advanceEnqueueSequence
  let sequence := (← Op.read).enqueueSequence
  modifySlot index (fun slot => { slot with enqueueSequence := sequence, state := .queued })
  Op.when (fault = .afterQueue) (rollbackFault index)
  countEnqueued
  check
  return (← Op.read).id index

/-- The errors of `enqueue_from_top_half` whose effects are published. -/
def Visible (reason : Error) : Prop := reason = .duplicate ∨ reason = .faultInjected

instance (reason : Error) : Decidable (Visible reason) := inferInstanceAs (Decidable (_ ∨ _))

def enqueueFromTopHalf (request : WorkRequest) (context : TopHalfContext) (fault : FaultPoint) : M WorkId :=
  Op.publish Visible (enqueueInner request context fault)

def observeEoi : M DispatchPermit := do
  Op.ensure ((← Op.read).activeWorker = u8Max) .workerOwnership
  advance u64Values Controller.eoiEpoch (fun value s => { s with eoiEpoch := value })
  return ⟨(← Op.read).eoiEpoch⟩

/-- The injected failure before a claim. -/
def claimFault : M Unit := do
  countRollback
  Op.fail .faultInjected

def claimInner (worker : Nat) (permit : DispatchPermit) (fault : FaultPoint) : M WorkId := do
  let s ← Op.read
  Op.ensure (worker < workerCount) .invalidWorker
  Op.ensure (¬ (permit.eoiEpoch = 0 ∨ permit.eoiEpoch ≠ s.eoiEpoch)) .dispatchBeforeEoi
  Op.ensure (s.activeWorker = u8Max) .workerOwnership
  Op.when (fault = .beforeExecute ∧ ∃ index, (s.slots index).state = .queued) claimFault
  Op.update (fun s => s.selectNext.2)
  let index ← Op.lift (orError s.selectNext.1 .empty)
  modifySlot index (fun slot => { slot with state := .running, owner := worker })
  setActiveWorker worker
  countDispatch
  check
  return (← Op.read).id index

def claimOne (worker : Nat) (permit : DispatchPermit) (fault : FaultPoint) : M WorkId :=
  Op.publish (· = .faultInjected) (claimInner worker permit fault)

/-- `apply`: the lane that the operation names. -/
def apply : Operation → M Nat
  | .add value => do
      let lane ← Op.lift (orError (checkedAdd u32Values (← Op.read).sumLane value) .counter)
      Op.update (fun s => { s with sumLane := lane })
      return lane
  | .xor value => do
      Op.update (fun s => { s with xorLane := s.xorLane ^^^ value })
      return (← Op.read).xorLane
  | .fence value => do
      let lane ← Op.lift (orError (checkedAdd u32Values (← Op.read).fenceLane value) .counter)
      Op.update (fun s => { s with fenceLane := lane })
      return lane

/-- The injected failure before a commit: the item is queued again. -/
def finishFault (index : Index) : M Unit := do
  modifySlot index (fun slot => { slot with state := .queued, owner := u8Max })
  setActiveWorker u8Max
  countRollback
  check
  Op.fail .faultInjected

/-- The last writes of `finish_inner`. -/
def settle (index : Index) (state : WorkState) (result : Nat) : M Unit := do
  let sequence := (← Op.read).completionSequence
  modifySlot index (fun slot => { slot with
    state := state, owner := u8Max, completionSequence := sequence, result := result })
  setActiveWorker u8Max
  check

/-- `finish_inner` past its checks: cancelled while running, or applied. -/
def finishCancelled (index : Index) : M (WorkState × Nat) := do
  advanceCompletionSequence
  countCancelled
  settle index .cancelled 0
  return (.cancelled, 0)

def finishApplied (index : Index) : M (WorkState × Nat) := do
  let result ← apply ((← Op.read).slots index).request.operation
  advanceCompletionSequence
  countCompleted
  settle index .completed result
  return (.completed, result)

def finishInner (worker : Nat) (id : WorkId) (fault : FaultPoint) : M Receipt := do
  let index ← resolve id
  let s ← Op.read
  Op.ensure (¬ (s.activeWorker ≠ worker ∨ (s.slots index).owner ≠ worker ∨
    (s.slots index).state ≠ .running)) .workerOwnership
  Op.when (fault = .beforeCommit) (finishFault index)
  let (state, result) ←
    if (s.slots index).cancelRequested then finishCancelled index else finishApplied index
  return ⟨id, worker, state, (← Op.read).completionSequence, result⟩

def finishClaimed (worker : Nat) (id : WorkId) (fault : FaultPoint) : M Receipt :=
  Op.publish (· = .faultInjected) (finishInner worker id fault)

def dispatchOne (worker : Nat) (permit : DispatchPermit) : M Receipt :=
  Op.transact do
    let id ← claimInner worker permit .none
    finishInner worker id .none

def completeCancel (index : Index) : M Unit := do
  advanceCompletionSequence
  let sequence := (← Op.read).completionSequence
  modifySlot index (fun slot => { slot with
    state := .cancelled, owner := u8Max, completionSequence := sequence, result := 0 })
  countCancelled

/-- A running item is told to stop. -/
def requestCancel (index : Index) : M Unit := do
  modifySlot index (fun slot => { slot with cancelRequested := true })
  countRunningCancel

def cancelInner (id : WorkId) : M Unit := do
  let index ← resolve id
  let slot := (← Op.read).slots index
  match slot.state with
  | .queued => do
      completeCancel index
      check
  | .running => do
      Op.ensure (¬ slot.cancelRequested) .state
      requestCancel index
      check
  | _ => Op.fail .state

def cancel (id : WorkId) : M Unit := Op.transact (cancelInner id)

def request (id : WorkId) : M WorkRequest := do
  let index ← resolve id
  return ((← Op.read).slots index).request

/-- The injected failure of a cleanup. -/
def retireFault : M Unit := do
  countRollback
  Op.fail .faultInjected

def retireInner (id : WorkId) (fault : FaultPoint) : M Unit := do
  let index ← resolve id
  Op.ensure ((← Op.read).slots index).state.Terminal .state
  Op.when (fault = .cleanup) retireFault
  modifySlot index (fun slot => Slot.emptied slot.generation)
  countRetired
  check

def retire (id : WorkId) (fault : FaultPoint) : M Unit :=
  Op.publish (· = .faultInjected) (retireInner id fault)

/-- One round of `retire_all_terminal_inner`, and the count after it. -/
def retireTerminal (retired : Nat) (index : Index) : M Nat := do
  let s ← Op.read
  if (s.slots index).state.Terminal then
    retireInner (s.id index) .none
    Op.lift (orError (checkedAdd (u8Max + 1) retired 1) .counter)
  else
    return retired

def retireAllTerminalInner : M Nat := (List.finRange 8).foldlM retireTerminal 0

def retireAllTerminal : M Nat := Op.transact retireAllTerminalInner

/-- One round of `begin_shutdown_inner`, and the count after it. -/
def shutDownSlot (cancelled : Nat) (index : Index) : M Nat := do
  let slot := (← Op.read).slots index
  if slot.state = .queued then
    completeCancel index
    Op.lift (orError (checkedAdd (u8Max + 1) cancelled 1) .counter)
  else if slot.state = .running ∧ ¬ slot.cancelRequested then
    requestCancel index
    return cancelled
  else
    return cancelled

def beginShutdown : M Nat :=
  Op.transact do
    Op.update (fun s => { s with intakeOpen := false })
    let cancelled ← (List.finRange 8).foldlM shutDownSlot 0
    check
    return cancelled

def finishShutdown : M Nat :=
  Op.transact do
    let s ← Op.read
    Op.ensure (¬ (s.intakeOpen ∨ s.activeWorker ≠ u8Max ∨ ∃ index,
      (s.slots index).state = .reserved ∨ (s.slots index).state = .queued ∨
        (s.slots index).state = .running)) .shutdownPending
    let retired ← retireAllTerminalInner
    Op.update (fun s => { s with shutdownComplete := true })
    check
    return retired

structure FlushToken where
  enqueueWatermark : Nat
deriving DecidableEq, Repr

namespace Controller

def beginFlush (s : Controller) : FlushToken := ⟨s.enqueueSequence⟩

def flushComplete (s : Controller) (token : FlushToken) : Bool :=
  (List.finRange 8).all (fun index =>
    (s.slots index).enqueueSequence = 0 ∨ token.enqueueWatermark < (s.slots index).enqueueSequence ∨
      (s.slots index).state.Terminal ∨ (s.slots index).state = .free)

end Controller

/-- A public operation with its arguments. -/
inductive Call
  | enqueueFromTopHalf (request : WorkRequest) (context : TopHalfContext) (fault : FaultPoint)
  | observeEoi
  | claimOne (worker : Nat) (permit : DispatchPermit) (fault : FaultPoint)
  | finishClaimed (worker : Nat) (id : WorkId) (fault : FaultPoint)
  | dispatchOne (worker : Nat) (permit : DispatchPermit)
  | cancel (id : WorkId)
  | retire (id : WorkId) (fault : FaultPoint)
  | retireAllTerminal
  | beginShutdown
  | finishShutdown
deriving DecidableEq, Repr

/-- What an operation returns. -/
inductive Reply
  | id (value : WorkId)
  | permit (value : DispatchPermit)
  | receipt (value : Receipt)
  | count (value : Nat)
  | done
deriving DecidableEq, Repr

def Call.exec : Call → M Reply
  | .enqueueFromTopHalf request context fault => do
      return .id (← Deferred.enqueueFromTopHalf request context fault)
  | .observeEoi => do return .permit (← Deferred.observeEoi)
  | .claimOne worker permit fault => do return .id (← Deferred.claimOne worker permit fault)
  | .finishClaimed worker id fault => do
      return .receipt (← Deferred.finishClaimed worker id fault)
  | .dispatchOne worker permit => do return .receipt (← Deferred.dispatchOne worker permit)
  | .cancel id => do Deferred.cancel id; return .done
  | .retire id fault => do Deferred.retire id fault; return .done
  | .retireAllTerminal => do return .count (← Deferred.retireAllTerminal)
  | .beginShutdown => do return .count (← Deferred.beginShutdown)
  | .finishShutdown => do return .count (← Deferred.finishShutdown)

def step (s : Controller) (call : Call) : Controller := (call.exec.run s).2

/-- The state after a sequence of operations, whatever each of them returned. -/
def run (s : Controller) (calls : List Call) : Controller := calls.foldl step s

end PooleOS.Deferred
