import PooleOS.Locks.Context

/- The sleeping mutex: an owner, up to eight waiters, and a handoff that picks
the most urgent waiter unless one of them has been passed over too often. A
call works on the mutex, on the caller's context and on the order graph. -/
namespace PooleOS.Locks

def maxMutexWaiters : Nat := 8
def maxMutexBypass : Nat := 7

structure MutexWaiter where
  owner : Nat
  priority : Nat
  ticket : Nat
  deadline : Nat
  bypass : Nat
deriving DecidableEq, Repr

inductive MutexAcquire
  | acquired
  | blocked (ticket donatePriority : Nat)
deriving DecidableEq, Repr

inductive WakeReason
  | granted
  | timedOut
  | cancelled
  | ownerDead
  | notified
deriving DecidableEq, Repr

structure Wake where
  owner : Nat
  ticket : Nat
  reason : WakeReason
deriving DecidableEq, Repr

/-- `waiters` is the filled prefix of the source's array of eight. -/
structure SleepMutex where
  rank : LockRank
  owner : Nat
  ownerBasePriority : Nat
  ownerEffectivePriority : Nat
  waiters : List MutexWaiter
  nextTicket : Nat
  handoffPending : Bool
  handoffs : Nat
  ownerDeaths : Nat
  maximumBypass : Nat
deriving DecidableEq, Repr

/-- `SleepMutex::new`. -/
def SleepMutex.new (rank : LockRank) : SleepMutex := ⟨rank, 0, 0, 0, [], 1, false, 0, 0, 0⟩

/-- `validate_sleep_context`. -/
def validateSleepContext (context : LockContext) (priority : Nat) : Except Error Unit := do
  demand (context.interruptDepth = 0) .interruptContext
  demand (context.preemptionDepth = 0) .preemptionContext
  demand (context.canSleep = true) .sleepForbidden
  demand (1 ≤ priority ∧ priority ≤ 31) .priority

namespace SleepMutex

/-- The first waiter with the lowest ticket among those passed over often enough. -/
def starved (mutex : SleepMutex) : Option (MutexWaiter × Nat) :=
  (mutex.waiters.zipIdx.filter (fun entry => maxMutexBypass ≤ entry.1.bypass)).argmin
    (fun entry => entry.1.ticket)

/-- The last waiter with the highest priority, older tickets first. -/
def urgent (mutex : SleepMutex) : Option (MutexWaiter × Nat) :=
  mutex.waiters.zipIdx.reverse.argmax
    (fun entry => toLex (entry.1.priority, OrderDual.toDual entry.1.ticket))

def selected (mutex : SleepMutex) : Nat :=
  match mutex.starved with
  | some entry => entry.2
  | none =>
    match mutex.urgent with
    | some entry => entry.2
    | none => 0

/-- `bypass.saturating_add(1).min(MAX_MUTEX_BYPASS)`. -/
def MutexWaiter.passedOver (waiter : MutexWaiter) : MutexWaiter :=
  { waiter with bypass := min (min (waiter.bypass + 1) u8Max) maxMutexBypass }

/-- Every waiter but the selected one is passed over. -/
def passOver (selected : Nat) (waiters : List MutexWaiter) : List MutexWaiter :=
  waiters.mapIdx (fun index waiter =>
    if index ≠ selected then MutexWaiter.passedOver waiter else waiter)

/-- `select_waiter`, with the index it returns. -/
def selectWaiter (mutex : SleepMutex) : Nat × SleepMutex :=
  let waiters := passOver mutex.selected mutex.waiters
  (mutex.selected, { mutex with
      waiters
      maximumBypass := (waiters.eraseIdx mutex.selected).foldl
        (fun maximum waiter => max maximum waiter.bypass) mutex.maximumBypass })

/-- `waiter_index`. -/
def waiterIndex (mutex : SleepMutex) (owner : Nat) : Except Error Nat := do
  demand (owner ≠ 0) .ownerToken
  orError (mutex.waiters.findIdx? (fun waiter => waiter.owner = owner)) .queueMissing

/-- `remove_waiter`. -/
def removeWaiter (mutex : SleepMutex) (index : Nat) : Except Error (MutexWaiter × SleepMutex) :=
  match mutex.waiters[index]? with
  | none => .error .queueMissing
  | some waiter => .ok (waiter, { mutex with waiters := mutex.waiters.eraseIdx index })

/-- `recompute_donation`. -/
def recomputeDonation (mutex : SleepMutex) : SleepMutex :=
  { mutex with
    ownerEffectivePriority := mutex.waiters.foldl
      (fun effective waiter => max effective waiter.priority) mutex.ownerBasePriority }

/-- `clear_owner`. -/
def clearOwner (mutex : SleepMutex) : SleepMutex :=
  { mutex with
    owner := 0, ownerBasePriority := 0, ownerEffectivePriority := 0, handoffPending := false }

end SleepMutex

/-- The mutex, the caller's context and the order graph a call works on. -/
structure Site where
  mutex : SleepMutex
  context : LockContext
  graph : LockOrderGraph

namespace Site

def setMutex (mutex : SleepMutex) : Op Site Error Unit :=
  Op.update (fun site => { site with mutex })

/-- `graph.record_acquire(context, self.rank)?`. -/
def recordAcquire : Op Site Error Unit := ⟨fun site =>
  let recorded := (LockOrderGraph.recordAcquire site.context site.mutex.rank).run site.graph
  (recorded.1, { site with graph := recorded.2 })⟩

/-- `context.acquired(self.rank)?`. -/
def contextAcquired : Op Site Error Unit := do
  let site ← Op.read
  let context ← Op.lift (site.context.acquired site.mutex.rank)
  Op.update (fun site => { site with context })

/-- `context.released(self.rank)?`. -/
def contextReleased : Op Site Error Unit := do
  let site ← Op.read
  let context ← Op.lift (site.context.released site.mutex.rank)
  Op.update (fun site => { site with context })

def tryLock (priority : Nat) : Op Site Error Unit := do
  let site ← Op.read
  Op.lift (validateSleepContext site.context priority)
  Op.lift (site.context.authorize site.mutex.rank)
  Op.ensure (site.mutex.owner ≠ site.context.owner) .recursive
  Op.ensure (site.mutex.owner = 0) .busy
  recordAcquire
  contextAcquired
  setMutex
    { site.mutex with
      owner := site.context.owner
      ownerBasePriority := priority
      ownerEffectivePriority := priority
      handoffPending := false }

/-- The rest of `lock_or_enqueue` once the mutex is known to be owned. -/
def enqueue (priority deadline : Nat) : Op Site Error MutexAcquire := do
  let site ← Op.read
  Op.ensure (site.mutex.owner ≠ site.context.owner) .recursive
  Op.ensure (∀ waiter ∈ site.mutex.waiters, waiter.owner ≠ site.context.owner) .duplicateWaiter
  Op.ensure (site.mutex.waiters.length ≠ maxMutexWaiters) .queueFull
  let nextTicket ← Op.lift (orError (checkedAdd u32Values site.mutex.nextTicket 1) .counter)
  let effective := max site.mutex.ownerEffectivePriority priority
  setMutex
    { site.mutex with
      nextTicket
      waiters := site.mutex.waiters ++
        [⟨site.context.owner, priority, site.mutex.nextTicket, deadline, 0⟩]
      ownerEffectivePriority := effective }
  return .blocked site.mutex.nextTicket effective

def acquire (priority : Nat) : Op Site Error MutexAcquire := do
  tryLock priority
  return .acquired

def lockOrEnqueue (priority deadline now : Nat) : Op Site Error MutexAcquire := do
  let site ← Op.read
  Op.lift (validateSleepContext site.context priority)
  Op.lift (site.context.authorize site.mutex.rank)
  Op.ensure (now < deadline) .deadline
  if site.mutex.owner = 0 then acquire priority else enqueue priority deadline

/-- `if self.waiter_count == 0 { self.handoffs } else { increment(self.handoffs)? }`. -/
def nextHandoffs (mutex : SleepMutex) : Except Error Nat :=
  if mutex.waiters = [] then .ok mutex.handoffs else increment mutex.handoffs

/-- The handoff of `unlock`: a waiter is selected, removed and made the owner. -/
def handOff (nextHandoffs : Nat) : Op Site Error (Option Wake) := do
  let site ← Op.read
  let selection := site.mutex.selectWaiter
  setMutex selection.2
  let (waiter, rest) ← Op.lift (selection.2.removeWaiter selection.1)
  setMutex
    { rest with
      owner := waiter.owner
      ownerBasePriority := waiter.priority
      ownerEffectivePriority := waiter.priority
      handoffPending := true
      handoffs := nextHandoffs }.recomputeDonation
  return some ⟨waiter.owner, waiter.ticket, .granted⟩

def release : Op Site Error (Option Wake) := do
  Op.update (fun site => { site with mutex := site.mutex.clearOwner })
  return none

def unlock : Op Site Error (Option Wake) := do
  let site ← Op.read
  Op.ensure (site.mutex.owner = site.context.owner ∧ site.mutex.handoffPending = false) .notOwner
  let handoffs ← Op.lift (nextHandoffs site.mutex)
  contextReleased
  if site.mutex.waiters = [] then release else handOff handoffs

def claimHandoff (wake : Wake) : Op Site Error Unit := do
  let site ← Op.read
  Op.ensure (wake.reason = .granted ∧ site.mutex.handoffPending = true ∧
    site.mutex.owner = site.context.owner ∧ wake.owner = site.context.owner) .handoff
  recordAcquire
  contextAcquired
  Op.update (fun site => { site with mutex := { site.mutex with handoffPending := false } })

/-- The waiter at this index leaves for a reason of its own. -/
def withdraw (index : Nat) (reason : WakeReason) : Op Site Error Wake := do
  let site ← Op.read
  let (waiter, rest) ← Op.lift (site.mutex.removeWaiter index)
  setMutex rest.recomputeDonation
  return ⟨waiter.owner, waiter.ticket, reason⟩

def timeout (owner now : Nat) : Op Site Error Wake := do
  let site ← Op.read
  let index ← Op.lift (site.mutex.waiterIndex owner)
  Op.ensure (∀ waiter ∈ site.mutex.waiters[index]?, waiter.deadline ≤ now) .deadline
  withdraw index .timedOut

def cancel (owner : Nat) : Op Site Error Wake := do
  let site ← Op.read
  let index ← Op.lift (site.mutex.waiterIndex owner)
  withdraw index .cancelled

/-- The loop of `owner_died`: the waiters leave from the front. -/
def dismiss : Nat → Op Site Error (List Wake)
  | 0 => return []
  | count + 1 => do
      let site ← Op.read
      let (waiter, rest) ← Op.lift (site.mutex.removeWaiter 0)
      setMutex rest
      let wakes ← dismiss count
      return ⟨waiter.owner, waiter.ticket, .ownerDead⟩ :: wakes

/-- `owner_died`. The list is the filled prefix of the array the source returns, and its length
the count beside it. -/
def ownerDied (owner : Nat) : Op Site Error (List Wake) := do
  let site ← Op.read
  Op.ensure (owner ≠ 0 ∧ site.mutex.owner = owner) .notOwner
  let deaths ← Op.lift (increment site.mutex.ownerDeaths)
  let wakes ← dismiss site.mutex.waiters.length
  Op.update (fun site =>
    { site with mutex := { site.mutex.clearOwner with ownerDeaths := deaths } })
  return wakes

end Site

/-- A call with everything the caller passes in. -/
inductive MutexCall
  | tryLock (context : LockContext) (graph : LockOrderGraph) (priority : Nat)
  | lockOrEnqueue (context : LockContext) (graph : LockOrderGraph) (priority deadline now : Nat)
  | unlock (context : LockContext)
  | claimHandoff (context : LockContext) (graph : LockOrderGraph) (wake : Wake)
  | timeout (owner now : Nat)
  | cancel (owner : Nat)
  | ownerDied (owner : Nat)

/-- What a call can answer. -/
inductive MutexReply
  | unit
  | acquire (acquire : MutexAcquire)
  | wake (wake : Wake)
  | maybeWake (wake : Option Wake)
  | wakes (wakes : List Wake)
deriving DecidableEq, Repr

namespace MutexCall

def context : MutexCall → LockContext
  | .tryLock context _ _ => context
  | .lockOrEnqueue context _ _ _ _ => context
  | .unlock context => context
  | .claimHandoff context _ _ => context
  | _ => ⟨0, 0, 0, true, true, []⟩

def graph : MutexCall → LockOrderGraph
  | .tryLock _ graph _ => graph
  | .lockOrEnqueue _ graph _ _ _ => graph
  | .claimHandoff _ graph _ => graph
  | _ => .new

def exec : MutexCall → Op Site Error MutexReply
  | .tryLock _ _ priority => do
      Site.tryLock priority
      return .unit
  | .lockOrEnqueue _ _ priority deadline now => do
      let acquire ← Site.lockOrEnqueue priority deadline now
      return .acquire acquire
  | .unlock _ => do
      let wake ← Site.unlock
      return .maybeWake wake
  | .claimHandoff _ _ wake => do
      Site.claimHandoff wake
      return .unit
  | .timeout owner now => do
      let wake ← Site.timeout owner now
      return .wake wake
  | .cancel owner => do
      let wake ← Site.cancel owner
      return .wake wake
  | .ownerDied owner => do
      let wakes ← Site.ownerDied owner
      return .wakes wakes

end MutexCall

namespace SleepMutex

/-- The answer to a call and the mutex it leaves. The context and the graph stay with the caller,
who may bring any others next time. -/
def apply (mutex : SleepMutex) (call : MutexCall) : Except Error MutexReply × SleepMutex :=
  let done := call.exec.run ⟨mutex, call.context, call.graph⟩
  (done.1, done.2.mutex)

def run (mutex : SleepMutex) (calls : List MutexCall) : SleepMutex :=
  calls.foldl (fun mutex call => (mutex.apply call).2) mutex

end SleepMutex

end PooleOS.Locks
