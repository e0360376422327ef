import PooleOS.Kernel.Ident
import PooleOS.Lib.Cells

/- The PKSCHED5 workers (`native/kernel/src/scheduler_ap_workers.rs`): a top half
queues typed items into fifteen generation-tagged slots, each item is dispatched
to its processor under a ticket, and the exact acknowledgement of the ticket
completes it. Every method but two works on a copy that an error discards. -/
namespace PooleOS.Workers

open Function (update)

inductive Error
  | capacity
  | duplicate
  | intakeClosed
  | topHalfContext
  | cpuRange
  | cpuOffline
  | invalidRequest
  | dispatchBeforeEoi
  | empty
  | pendingBusy
  | pendingMissing
  | ticketMismatch
  | acknowledgement
  | timeoutTarget
  | staleId
  | state
  | flushPending
  | reclaimOrder
  | workerBusy
  | counter
  | invariant
deriving DecidableEq, Repr

inductive Priority
  | high
  | normal
deriving DecidableEq, Repr

def u8Values : Nat := 256
def u32Values : Nat := 4294967296
def u64Values : Nat := 18446744073709551616
def workCapacity : Nat := 15
def apCount : Nat := 3
def onlineMaskAll : BitVec 8 := 0x0f#8
def offlineProbeCpu : Nat := 4
def maxHighBypass : Nat := 2
def callFunctionOperation : Nat := 3
def ackAccepted : Nat := 1
def errorNone : Nat := 0
def callDriverTimerToken : Nat := 0x504b445256520001
def callServiceReclaimToken : Nat := 0x504b535256430001
def resultCallDriverTimer : Nat := 0x4452565254494d45
def resultCallServiceReclaim : Nat := 0x5352564352434c4d

inductive Consumer
  | driverTimerBottomHalf (vector sample : Nat)
  | serviceGenerationReclaim (retiredGeneration activeGeneration : Nat)
deriving DecidableEq, Repr

namespace Consumer

def payload : Consumer → Nat
  | driverTimerBottomHalf _ _ => callDriverTimerToken
  | serviceGenerationReclaim _ _ => callServiceReclaimToken

def expectedResult : Consumer → Nat
  | driverTimerBottomHalf _ _ => resultCallDriverTimer
  | serviceGenerationReclaim _ _ => resultCallServiceReclaim

/-- `Consumer::valid`. -/
def Valid : Consumer → Prop
  | driverTimerBottomHalf vector sample => vector = 64 ∧ sample ≠ 0
  | serviceGenerationReclaim retiredGeneration activeGeneration =>
    retiredGeneration ≠ 0 ∧ checkedAdd u32Values retiredGeneration 1 = some activeGeneration

instance (consumer : Consumer) : Decidable consumer.Valid :=
  match consumer with
  | driverTimerBottomHalf _ _ => inferInstanceAs (Decidable (_ ∧ _))
  | serviceGenerationReclaim _ _ => inferInstanceAs (Decidable (_ ∧ _))

end Consumer

structure WorkRequest where
  key : Nat
  sourceCpu : Nat
  targetCpu : Nat
  priority : Priority
  consumer : Consumer
deriving DecidableEq, Repr

structure WorkId where
  slot : Nat
  generation : Nat
deriving DecidableEq, Repr

inductive WorkState
  | free
  | queued
  | dispatching
  | completed
  | cancelled
deriving DecidableEq, Repr

/-- `matches!(state, WorkState::Completed | WorkState::Cancelled)`. -/
def WorkState.Terminal (state : WorkState) : Prop := state = .completed ∨ state = .cancelled

instance (state : WorkState) : Decidable state.Terminal := inferInstanceAs (Decidable (_ ∨ _))

structure TopHalfContext where
  interruptDepth : Nat
  interruptsDisabled : Bool
  queueLockHeld : Bool
  workerContext : Bool
deriving DecidableEq, Repr

structure DispatchPermit where
  eoiEpoch : Nat
  enqueueWatermark : Nat
deriving DecidableEq, Repr

structure FlushToken where
  enqueueWatermark : Nat
deriving DecidableEq, Repr

structure DispatchTicket where
  transaction : Nat
  id : WorkId
  sourceCpu : Nat
  targetCpu : Nat
  workerGeneration : Nat
  requestAttempt : Nat
  requestSequence : Nat
  payload : Nat
  expectedResult : Nat
deriving DecidableEq, Repr

structure RemoteAck where
  targetCpu : Nat
  attempt : Nat
  sequence : Nat
  operation : Nat
  status : Nat
  error : Nat
  result : Nat
deriving DecidableEq, Repr

structure Receipt where
  id : WorkId
  targetCpu : Nat
  state : WorkState
  completionSequence : Nat
  result : Nat
deriving DecidableEq, Repr

/-- `EMPTY_REQUEST`. -/
def emptyRequest : WorkRequest := ⟨0, 0, 1, .normal, .driverTimerBottomHalf 64 1⟩

structure Slot where
  generation : Nat
  state : WorkState
  request : WorkRequest
  enqueueSequence : Nat
  completionSequence : Nat
  cancelRequested : Bool
  result : Nat
deriving DecidableEq, Repr

/-- `Slot { generation, ..Slot::EMPTY }`. -/
def Slot.emptied (generation : Nat) : Slot := ⟨generation, .free, emptyRequest, 0, 0, false, 0⟩

/-- A position in the array of slots. -/
abbrev Index : Type := Fin workCapacity

structure Controller where
  slots : Index → Slot
  pending : CpuId → Option DispatchTicket
  offlinePending : Option DispatchTicket
  lastTimedOut : Option DispatchTicket
  intakeOpen : Bool
  shutdownComplete : Bool
  onlineMask : BitVec 8
  workerGeneration : CpuId → Nat
  highBypass : CpuId → Nat
  enqueueSequence : Nat
  completionSequence : Nat
  eoiEpoch : Nat
  transactionSequence : Nat
  enqueued : Nat
  completed : Nat
  cancelled : Nat
  queuedCancellations : Nat
  remoteCancelRequests : Nat
  remoteCancelCompletions : Nat
  duplicateSuppressed : Nat
  dispatches : Nat
  remoteAcks : Nat
  timeoutCount : Nat
  rollbackCount : Nat
  staleRejections : Nat
  reclaimed : Nat
  workerRetirements : Nat
  driverExecutions : Nat
  serviceExecutions : Nat
  workerEntries : Fin apCount → Nat
  maximumHighBypass : Nat
  driverSampleSum : Nat
  activeServiceGeneration : Nat

namespace Controller

def new : Controller where
  slots := fun _ => Slot.emptied 0
  pending := fun _ => none
  offlinePending := none
  lastTimedOut := none
  intakeOpen := true
  shutdownComplete := false
  onlineMask := onlineMaskAll
  workerGeneration := fun cpu => if cpu = 0 then 0 else 1
  highBypass := fun _ => 0
  enqueueSequence := 0
  completionSequence := 0
  eoiEpoch := 0
  transactionSequence := 0
  enqueued := 0
  completed := 0
  cancelled := 0
  queuedCancellations := 0
  remoteCancelRequests := 0
  remoteCancelCompletions := 0
  duplicateSuppressed := 0
  dispatches := 0
  remoteAcks := 0
  timeoutCount := 0
  rollbackCount := 0
  staleRejections := 0
  reclaimed := 0
  workerRetirements := 0
  driverExecutions := 0
  serviceExecutions := 0
  workerEntries := fun _ => 0
  maximumHighBypass := 0
  driverSampleSum := 0
  activeServiceGeneration := 1

def setSlot (s : Controller) (index : Index) (f : Slot → Slot) : Controller :=
  { s with slots := update s.slots index (f (s.slots index)) }

def setPending (s : Controller) (cpu : CpuId) (ticket : Option DispatchTicket) : Controller :=
  { s with pending := update s.pending cpu ticket }

/-- `slots[index].id(index)`. -/
def id (s : Controller) (index : Index) : WorkId := ⟨index.val, (s.slots index).generation⟩

def resolve (s : Controller) (id : WorkId) : Except Error Index :=
  if inside : id.slot < workCapacity then
    if (s.slots ⟨id.slot, inside⟩).state = .free ∨
        (s.slots ⟨id.slot, inside⟩).generation ≠ id.generation then .error .staleId
    else .ok ⟨id.slot, inside⟩
  else .error .staleId

def requireAp (s : Controller) (cpu : Nat) : Except Error CpuId :=
  if inside : cpu ≠ 0 ∧ cpu < 4 then
    if Allows s.onlineMask ⟨cpu, inside.2⟩ then .ok ⟨cpu, inside.2⟩ else .error .cpuOffline
  else .error .cpuRange

def requireDispatchPermit (s : Controller) (permit : DispatchPermit) : Except Error Unit :=
  demand (¬ (permit.eoiEpoch = 0 ∨ permit.eoiEpoch ≠ s.eoiEpoch ∨
    s.enqueueSequence < permit.enqueueWatermark)) .dispatchBeforeEoi

def flushComplete (s : Controller) (token : FlushToken) : Prop :=
  ∀ index, (s.slots index).state = .free ∨
    token.enqueueWatermark < (s.slots index).enqueueSequence ∨ (s.slots index).state.Terminal

instance (s : Controller) (token : FlushToken) : Decidable (s.flushComplete token) :=
  inferInstanceAs (Decidable (∀ _, _))

/-- A slot that is not free holds an item with this key for this processor. -/
def Holds (s : Controller) (request : WorkRequest) (index : Index) : Prop :=
  (s.slots index).state ≠ .free ∧ (s.slots index).request.key = request.key ∧
    (s.slots index).request.targetCpu = request.targetCpu

instance (s : Controller) (request : WorkRequest) (index : Index) :
    Decidable (s.Holds request index) := inferInstanceAs (Decidable (_ ∧ _))

/-- `slots.iter().position(|slot| slot.state == WorkState::Free)`. -/
def firstFree (s : Controller) : Option Index :=
  (List.finRange workCapacity).find? (fun index => (s.slots index).state = .free)

def oldestQueued (s : Controller) (targetCpu : Nat) (priority : Priority) : Option Index :=
  ((List.finRange workCapacity).filter (fun index => (s.slots index).state = .queued ∧
    (s.slots index).request.targetCpu = targetCpu ∧ (s.slots index).request.priority = priority)).argmin
      (fun index => (s.slots index).enqueueSequence)

def setHighBypass (s : Controller) (cpu : CpuId) (bypass : Nat) : Controller :=
  { s with highBypass := update s.highBypass cpu bypass }

/-- `select_next`: the slot it picks and the bypass fields it leaves. -/
def selectNext (s : Controller) (cpu : CpuId) : Option Index × Controller :=
  match s.oldestQueued cpu.val .high, s.oldestQueued cpu.val .normal with
  | some high, some normal =>
    if maxHighBypass ≤ s.highBypass cpu then (some normal, s.setHighBypass cpu 0)
    else (some high, { s.setHighBypass cpu (s.highBypass cpu + 1) with
      maximumHighBypass := max s.maximumHighBypass (s.highBypass cpu + 1) })
  | some high, none => (some high, s)
  | none, some normal => (some normal, s.setHighBypass cpu 0)
  | none, none => (none, s)

/-- A ticket for this item is out. -/
def Owned (s : Controller) (id : WorkId) : Prop :=
  (∃ cpu, (s.pending cpu).any (fun ticket => ticket.id = id)) ∨
    s.offlinePending.any (fun ticket => ticket.id = id)

instance (s : Controller) (id : WorkId) : Decidable (s.Owned id) :=
  inferInstanceAs (Decidable (_ ∨ _))

/-- What `validate` asks of a slot that is not free. -/
def Admissible (s : Controller) (slot : Slot) : Prop :=
  slot.generation ≠ 0 ∧ slot.request.key ≠ 0 ∧ slot.request.sourceCpu = 0 ∧
    slot.request.targetCpu ≠ 0 ∧ slot.request.targetCpu < 4 ∧ slot.request.consumer.Valid ∧
      slot.enqueueSequence ≠ 0 ∧ slot.enqueueSequence ≤ s.enqueueSequence

instance (s : Controller) (slot : Slot) : Decidable (s.Admissible slot) :=
  inferInstanceAs (Decidable (_ ∧ _))

/-- The body of the loop of `validate`, with the dispatching slots counted so far. -/
def validateSlot (s : Controller) (dispatching : Nat) (index : Index) : Except Error Nat :=
  let slot := s.slots index
  if slot.state = .free then .ok dispatching
  else if ¬ s.Admissible slot then .error .invariant
  else if slot.state = .dispatching ∧ ¬ s.Owned (s.id index) then .error .invariant
  else if slot.state.Terminal ∧ slot.completionSequence = 0 then .error .invariant
  else if ∃ later, index < later ∧ s.Holds slot.request later then .error .invariant
  else .ok (if slot.state = .dispatching then dispatching + 1 else dispatching)

/-- The number of tickets that are out. -/
def pendingCount (s : Controller) : Nat :=
  Cells.count s.pending (fun _ => true) + if s.offlinePending.isSome then 1 else 0

/-- `validate`. -/
def validate (s : Controller) : Except Error Unit := do
  demand (s.onlineMask &&& 1#8 ≠ 0#8 ∧ Within s.onlineMask onlineMaskAll) .invariant
  let dispatching ← (List.finRange workCapacity).foldlM s.validateSlot 0
  demand (s.pendingCount = dispatching ∧ s.completed + s.cancelled ≤ s.enqueued ∧
    s.remoteCancelCompletions ≤ s.remoteCancelRequests ∧
    s.remoteAcks = ∑ lane, s.workerEntries lane ∧ s.maximumHighBypass ≤ maxHighBypass ∧
    s.workerRetirements ≤ apCount ∧ s.activeServiceGeneration ≠ 0) .invariant
  demand (¬ (s.shutdownComplete = true ∧ (s.intakeOpen = true ∨ s.onlineMask ≠ 1#8 ∨
    s.pendingCount ≠ 0 ∨ ∃ index, (s.slots index).state ≠ .free))) .invariant

/-- The ticket that was issued first among those out on the processors. -/
def firstPending (s : Controller) : Option DispatchTicket :=
  ((List.finRange 4).filterMap s.pending).argmin (fun ticket => ticket.transaction)

end Controller

/-- A method of the controller. -/
abbrev M (α : Type) : Type := Op Controller Error α

/-- `self.validate()?`. -/
def check : M Unit := do
  Op.lift (← Op.read).validate

def resolve (id : WorkId) : M Index := do
  Op.lift ((← Op.read).resolve id)

def requireAp (cpu : Nat) : M CpuId := do
  Op.lift ((← Op.read).requireAp cpu)

def requireDispatchPermit (permit : DispatchPermit) : M Unit := do
  Op.lift ((← Op.read).requireDispatchPermit permit)

def modifySlot (index : Index) (f : Slot → Slot) : M Unit :=
  Op.update (fun s => s.setSlot index f)

/-- `self.field = self.field.checked_add(1).ok_or(Error::Counter)?`. -/
def advance (limit : Nat) (get : Controller → Nat) (set : Nat → Controller → Controller) : M Unit := do
  let value ← Op.lift (orError (checkedAdd limit (get (← Op.read)) 1) .counter)
  Op.update (set value)

/-- `self.field = increment(self.field)?`. -/
def increment (get : Controller → Nat) (set : Nat → Controller → Controller) : M Unit :=
  advance u32Values get set

section Enqueue

def suppressDuplicate : M Unit := do
  increment Controller.duplicateSuppressed (fun value s => { s with duplicateSuppressed := value })
  Op.fail .duplicate

def enqueueFromTopHalfInner (context : TopHalfContext) (request : WorkRequest) : M WorkId := do
  let s ← Op.read
  Op.ensure (s.intakeOpen = true) .intakeClosed
  Op.ensure (¬ (context.interruptDepth ≠ 1 ∨ context.interruptsDisabled = false ∨
    context.queueLockHeld = true ∨ context.workerContext = true)) .topHalfContext
  Op.ensure (¬ (request.key = 0 ∨ request.sourceCpu ≠ 0 ∨ request.targetCpu = 0 ∨
    4 ≤ request.targetCpu ∨ ¬ request.consumer.Valid)) .invalidRequest
  Op.ensure (s.onlineMask &&& 1#8 <<< request.targetCpu ≠ 0#8) .cpuOffline
  Op.when (∃ index, s.Holds request index) suppressDuplicate
  let index ← Op.lift (orError s.firstFree .capacity)
  advance u64Values Controller.enqueueSequence (fun value s => { s with enqueueSequence := value })
  let generation ←
    Op.lift (orError (checkedAdd u32Values (s.slots index).generation 1) .counter)
  let sequence := (← Op.read).enqueueSequence
  modifySlot index (fun _ => ⟨generation, .queued, request, sequence, 0, false, 0⟩)
  increment Controller.enqueued (fun value s => { s with enqueued := value })
  check
  return (← Op.read).id index

/-- Duplicate suppression is kept on rejection. -/
def enqueueFromTopHalf (context : TopHalfContext) (request : WorkRequest) : M WorkId :=
  Op.publish (· = .duplicate) (enqueueFromTopHalfInner context request)

/-- `observe_eoi`. -/
def observeEoi : M DispatchPermit := do
  advance u64Values Controller.eoiEpoch (fun value s => { s with eoiEpoch := value })
  let s ← Op.read
  return ⟨s.eoiEpoch, s.enqueueSequence⟩

end Enqueue

section Completion

/-- `complete_terminal`. -/
def completeTerminal (index : Index) (state : WorkState) (result : Nat) : M Unit := do
  advance u64Values Controller.completionSequence
    (fun value s => { s with completionSequence := value })
  let sequence := (← Op.read).completionSequence
  modifySlot index (fun slot =>
    { slot with state := state, completionSequence := sequence, result := result })
  match state with
  | .completed => increment Controller.completed (fun value s => { s with completed := value })
  | .cancelled => increment Controller.cancelled (fun value s => { s with cancelled := value })
  | _ => Op.fail .state

/-- The lane of `worker_entries` that belongs to a processor. -/
def lane (cpu : CpuId) : Fin apCount := ⟨cpu.val - 1, by have := cpu.isLt; unfold apCount; omega⟩

def countEntry (cpu : CpuId) : M Unit :=
  increment (fun s => s.workerEntries (lane cpu))
    (fun value s => { s with workerEntries := update s.workerEntries (lane cpu) value })

def countExecution : Consumer → M Unit
  | .driverTimerBottomHalf _ _ =>
    increment Controller.driverExecutions (fun value s => { s with driverExecutions := value })
  | .serviceGenerationReclaim _ _ =>
    increment Controller.serviceExecutions (fun value s => { s with serviceExecutions := value })

/-- The sample sum and the service generation after the consumer has run. -/
def applied (s : Controller) : Consumer → Except Error (Nat × Nat)
  | .driverTimerBottomHalf _ sample => do
      let sum ← orError (checkedAdd u32Values s.driverSampleSum sample) .counter
      return (sum, s.activeServiceGeneration)
  | .serviceGenerationReclaim retiredGeneration activeGeneration => do
      demand (retiredGeneration = s.activeServiceGeneration) .reclaimOrder
      return (s.driverSampleSum, activeGeneration)

/-- The end of an item that was cancelled, or that completes with these results. -/
def finishItem (cancelRequested : Bool) (effects : Nat × Nat) : M WorkState :=
  if cancelRequested then do
    increment Controller.remoteCancelCompletions
      (fun value s => { s with remoteCancelCompletions := value })
    return .cancelled
  else do
    Op.update (fun s =>
      { s with driverSampleSum := effects.1, activeServiceGeneration := effects.2 })
    return .completed

def commitAcknowledgement (ticket : DispatchTicket) : M Receipt := do
  let target ← requireAp ticket.targetCpu
  Op.ensure ((← Op.read).pending target = some ticket) .ticketMismatch
  let index ← resolve ticket.id
  let s ← Op.read
  let slot := s.slots index
  Op.ensure (¬ (slot.state ≠ .dispatching ∨ slot.request.targetCpu ≠ ticket.sourceCpu ∨
    s.workerGeneration target ≠ ticket.workerGeneration)) .state
  let effects ← Op.lift (if slot.cancelRequested then
    .ok (s.driverSampleSum, s.activeServiceGeneration) else applied s slot.request.consumer)
  Op.update (fun s => s.setPending target none)
  countEntry target
  increment Controller.remoteAcks (fun value s => { s with remoteAcks := value })
  countExecution slot.request.consumer
  let state ← finishItem slot.cancelRequested effects
  completeTerminal index state ticket.expectedResult
  let sequence := ((← Op.read).slots index).completionSequence
  check
  return ⟨ticket.id, ticket.targetCpu, state, sequence, ticket.expectedResult⟩

/-- The acknowledgement that a ticket waits for. -/
def Matches (ticket : DispatchTicket) (ack : RemoteAck) : Prop :=
  ack.targetCpu = ticket.targetCpu ∧ ack.attempt = ticket.requestAttempt ∧
    ack.sequence = ticket.requestSequence ∧ ack.operation = callFunctionOperation ∧
      ack.status = ackAccepted ∧ ack.error = errorNone ∧ ack.result = ticket.expectedResult

instance (ticket : DispatchTicket) (ack : RemoteAck) : Decidable (Matches ticket ack) :=
  inferInstanceAs (Decidable (_ ∧ _))

def acknowledgeInner (ticket : DispatchTicket) (ack : RemoteAck) : M Receipt := do
  let target ← requireAp ticket.targetCpu
  Op.ensure ((← Op.read).pending target = some ticket) .ticketMismatch
  Op.ensure (Matches ticket ack) .acknowledgement
  commitAcknowledgement ticket

def acknowledge (ticket : DispatchTicket) (ack : RemoteAck) : M Receipt :=
  Op.transact (acknowledgeInner ticket ack)

def timeoutInner (ticket : DispatchTicket) : M Unit := do
  Op.ensure (¬ (ticket.targetCpu ≠ offlineProbeCpu ∨ (← Op.read).offlinePending ≠ some ticket)) .timeoutTarget
  let index ← resolve ticket.id
  let slot := (← Op.read).slots index
  Op.ensure (¬ (slot.state ≠ .dispatching ∨ slot.request.targetCpu ≠ ticket.sourceCpu)) .state
  modifySlot index (fun slot => { slot with state := .queued })
  Op.update (fun s => { s with offlinePending := none, lastTimedOut := some ticket })
  increment Controller.timeoutCount (fun value s => { s with timeoutCount := value })
  increment Controller.rollbackCount (fun value s => { s with rollbackCount := value })
  check

def timeout (ticket : DispatchTicket) : M Unit := Op.transact (timeoutInner ticket)

end Completion

section Dispatch

/-- The rounds of the loop of `preflight_pending_commits`. A round clears one of the four pending
cells, so four rounds are all the loop can take. -/
def commitPending : Nat → M Unit
  | 0 => pure ()
  | rounds + 1 => do
      match (← Op.read).firstPending with
      | none => pure ()
      | some ticket => do
          let _ ← commitAcknowledgement ticket
          commitPending rounds

def preflightPendingCommits : M Unit :=
  Op.dryRun do
    commitPending 4
    Op.whenSome (← Op.read).offlinePending timeoutInner

def installTicket (index : Index) (sourceCpu targetCpu workerGeneration requestAttempt
    requestSequence : Nat) : M DispatchTicket := do
  Op.ensure (¬ (requestAttempt = 0 ∨ requestSequence = 0)) .invalidRequest
  advance u64Values Controller.transactionSequence
    (fun value s => { s with transactionSequence := value })
  modifySlot index (fun slot => { slot with state := .dispatching })
  let s ← Op.read
  let consumer := (s.slots index).request.consumer
  return ⟨s.transactionSequence, s.id index, sourceCpu, targetCpu, workerGeneration, requestAttempt,
    requestSequence, consumer.payload, consumer.expectedResult⟩

def stageDispatchInner (targetCpu : Nat) (permit : DispatchPermit)
    (requestAttempt requestSequence : Nat) : M DispatchTicket := do
  requireDispatchPermit permit
  let target ← requireAp targetCpu
  let s ← Op.read
  Op.ensure (s.pending target = none) .pendingBusy
  Op.update (fun s => (s.selectNext target).2)
  let index ← Op.lift (orError (s.selectNext target).1 .empty)
  let slot := (← Op.read).slots index
  Op.ensure (¬ permit.enqueueWatermark < slot.enqueueSequence) .dispatchBeforeEoi
  let ticket ← installTicket index slot.request.targetCpu targetCpu (s.workerGeneration target)
    requestAttempt requestSequence
  Op.update (fun s => s.setPending target (some ticket))
  increment Controller.dispatches (fun value s => { s with dispatches := value })
  check
  return ticket

def stageDispatch (targetCpu : Nat) (permit : DispatchPermit)
    (requestAttempt requestSequence : Nat) : M DispatchTicket :=
  Op.transact do
    let ticket ← stageDispatchInner targetCpu permit requestAttempt requestSequence
    preflightPendingCommits
    return ticket

def stageOfflineProbeInner (id : WorkId) (offlineCpu : Nat) (permit : DispatchPermit)
    (requestAttempt requestSequence : Nat) : M DispatchTicket := do
  requireDispatchPermit permit
  Op.ensure (offlineCpu = offlineProbeCpu) .timeoutTarget
  Op.ensure ((← Op.read).offlinePending = none) .pendingBusy
  let index ← resolve id
  let slot := (← Op.read).slots index
  Op.ensure (slot.state = .queued) .state
  Op.ensure (¬ permit.enqueueWatermark < slot.enqueueSequence) .dispatchBeforeEoi
  let ticket ← installTicket index slot.request.targetCpu offlineCpu 0 requestAttempt requestSequence
  Op.update (fun s => { s with offlinePending := some ticket })
  check
  return ticket

def stageOfflineProbe (id : WorkId) (offlineCpu : Nat) (permit : DispatchPermit)
    (requestAttempt requestSequence : Nat) : M DispatchTicket :=
  Op.transact do
    let ticket ← stageOfflineProbeInner id offlineCpu permit requestAttempt requestSequence
    preflightPendingCommits
    return ticket

end Dispatch

section Cleanup

def cancelInner (id : WorkId) : M Unit := do
  let index ← resolve id
  let slot := (← Op.read).slots index
  match slot.state with
  | .queued => do
      completeTerminal index .cancelled 0
      increment Controller.queuedCancellations (fun value s => { s with queuedCancellations := value })
      check
  | .dispatching => do
      Op.ensure (slot.cancelRequested = false) .state
      modifySlot index (fun slot => { slot with cancelRequested := true })
      increment Controller.remoteCancelRequests
        (fun value s => { s with remoteCancelRequests := value })
      check
  | _ => Op.fail .state

def cancel (id : WorkId) : M Unit := Op.transact (cancelInner id)

def rejectStaleAck (ticket : DispatchTicket) (ack : RemoteAck) : M Unit := do
  let s ← Op.read
  Op.ensure (¬ (s.lastTimedOut ≠ some ticket ∨ s.offlinePending.isSome = true ∨
    ack.targetCpu ≠ ticket.targetCpu ∨ ack.attempt ≠ ticket.requestAttempt ∨
      ack.sequence ≠ ticket.requestSequence)) .ticketMismatch
  increment Controller.staleRejections (fun value s => { s with staleRejections := value })

def reclaimInner (id : WorkId) (token : FlushToken) : M Unit := do
  Op.ensure ((← Op.read).flushComplete token) .flushPending
  let index ← resolve id
  let slot := (← Op.read).slots index
  Op.ensure (¬ token.enqueueWatermark < slot.enqueueSequence) .reclaimOrder
  Op.ensure slot.state.Terminal .state
  modifySlot index (fun slot => Slot.emptied slot.generation)
  increment Controller.reclaimed (fun value s => { s with reclaimed := value })
  check

def reclaim (id : WorkId) (token : FlushToken) : M Unit := Op.transact (reclaimInner id token)

/-- One round of `retire_all_terminal_inner`, and the count after it. -/
def retireTerminal (token : FlushToken) (retired : Nat) (index : Index) : M Nat := do
  let s ← Op.read
  if (s.slots index).state.Terminal ∧ (s.slots index).enqueueSequence ≤ token.enqueueWatermark then do
    reclaimInner (s.id index) token
    Op.lift (orError (checkedAdd u8Values retired 1) .counter)
  else return retired

def retireAllTerminal (token : FlushToken) : M Nat :=
  Op.transact do
    Op.ensure ((← Op.read).flushComplete token) .flushPending
    (List.finRange workCapacity).foldlM (retireTerminal token) 0

def offlineWorkerInner (cpu : Nat) : M Unit := do
  let index ← requireAp cpu
  let s ← Op.read
  Op.ensure (¬ ((s.pending index).isSome = true ∨ ∃ slot, (s.slots slot).state ≠ .free ∧
    (s.slots slot).request.targetCpu = cpu)) .workerBusy
  Op.update (fun s => { s with onlineMask := s.onlineMask &&& ~~~index.mask })
  advance u32Values (fun s => s.workerGeneration index)
    (fun value s => { s with workerGeneration := update s.workerGeneration index value })
  increment Controller.workerRetirements (fun value s => { s with workerRetirements := value })
  check

def offlineWorker (cpu : Nat) : M Unit := Op.transact (offlineWorkerInner cpu)

def finishShutdown : M Unit :=
  Op.transact do
    Op.update (fun s => { s with intakeOpen := false })
    let s ← Op.read
    Op.ensure (¬ (s.onlineMask ≠ 1#8 ∨ s.offlinePending.isSome = true ∨
      (∃ cpu, (s.pending cpu).isSome = true) ∨ ∃ index, (s.slots index).state ≠ .free)) .workerBusy
    Op.update (fun s => { s with shutdownComplete := true })
    check

end Cleanup

end PooleOS.Workers
