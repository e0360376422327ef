import PooleOS.Locks.Context

/- The ticket spin lock at the grain of its atomics. Every load, fetch-op and
compare-exchange is one step of its thread, and any thread may take the next
step. Counters are 32-bit words that wrap. -/
namespace PooleOS.Locks.Ticket

def maxOutstandingTickets : Nat := 32

/-- `left.wrapping_sub(right)` on 32-bit words. -/
def wrappingSub (left right : Nat) : Nat := (left + (u32Values - right)) % u32Values

/-- `value.wrapping_add(1)` and `fetch_add(1)` on 32-bit words. -/
def wrappingSucc (value : Nat) : Nat := (value + 1) % u32Values

/-- `1u32 << (ticket & 31)`. -/
def bit (ticket : Nat) : BitVec 32 := BitVec.twoPow 32 (ticket % 32)

/-- The shared words of the lock. -/
structure Lock where
  next : Nat
  serving : Nat
  owner : Nat
  cancelled : BitVec 32
  acquisitions : Nat
  contentions : Nat
  timeouts : Nat
deriving DecidableEq, Repr

/-- `TicketSpinLock::new`. -/
def Lock.new : Lock := ⟨0, 0, 0, 0, 0, 0, 0⟩

/-- Where `advance_cancelled` was called from. -/
inductive Ending
  | timedOut
  | unlocked
deriving DecidableEq, Repr

/-- The next atomic access of a thread, with the values its operation has read so far. The number
of attempts left is absent in `lock`, which polls without a bound. -/
inductive Pc
  | idle
  -- `try_lock`
  | tryOwner
  | tryServing
  | tryNext (serving : Nat)
  | tryTake (next : Nat)
  -- `lock` and `lock_bounded` with `reserve_ticket`
  | lockOwner (attempts : Option Nat)
  | reserveNext (attempts : Option Nat)
  | reserveServing (attempts : Option Nat) (next : Nat)
  | reserveAgain (attempts : Option Nat) (next : Nat)
  | reserveTake (attempts : Option Nat) (next : Nat)
  | poll (attempts : Option Nat) (ticket : Nat)
  | contend (attempts : Option Nat) (ticket : Nat)
  | lastPoll (ticket : Nat)
  -- `claim`
  | claim (ticket : Nat)
  | claimed (ticket : Nat)
  -- `cancel`
  | cancelServing (ticket : Nat)
  | cancelMark (ticket : Nat)
  -- `advance_cancelled`
  | advanceOwner (ending : Ending)
  | advanceServing (ending : Ending)
  | advanceLook (ending : Ending) (serving : Nat)
  | advanceLoad (ending : Ending) (serving : Nat)
  | advanceClear (ending : Ending) (serving : Nat) (cancelled : BitVec 32)
  | advanceBump (ending : Ending) (serving : Nat)
  | countTimeout
  -- `unlock`
  | unlockServing (ticket : Nat)
  | unlockOwner (ticket : Nat)
  | unlockBump (ticket : Nat)
deriving DecidableEq, Repr

inductive Result
  | locked (ticket : Nat)
  | unlocked
  | failed (reason : Error)
deriving DecidableEq, Repr

/-- What a step means for the statements: the operation returned, took a ticket, was granted the
lock, gave its ticket up or released the lock. -/
inductive Note
  | quiet
  | returned (result : Result)
  | reserved
  | granted (ticket : Nat)
  | abandoned (ticket : Nat)
  | released (ticket : Nat)
deriving DecidableEq, Repr

structure Outcome where
  lock : Lock
  pc : Pc
  note : Note

def goto (lock : Lock) (pc : Pc) : Outcome := ⟨lock, pc, .quiet⟩

def finish (lock : Lock) (result : Result) : Outcome := ⟨lock, .idle, .returned result⟩

/-- After a poll that found another ticket served. -/
def pollAgain (attempts : Option Nat) (ticket : Nat) : Pc :=
  match attempts with
  | none => .poll none ticket
  | some left => if left ≤ 1 then .lastPoll ticket else .poll (some (left - 1)) ticket

/-- After `advance_cancelled` has returned. -/
def advanced (lock : Lock) : Ending → Outcome
  | .timedOut => goto lock .countTimeout
  | .unlocked => finish lock .unlocked

/-- One atomic access of the thread with this owner token. A weak compare-exchange may fail
although the word is the expected one. -/
def access (token : Nat) (spurious : Bool) (lock : Lock) : Pc → Outcome
  | .idle => goto lock .idle
  | .tryOwner =>
    if lock.owner = token then finish lock (.failed .recursive) else goto lock .tryServing
  | .tryServing => goto lock (.tryNext lock.serving)
  | .tryNext serving =>
    if lock.next ≠ serving then finish lock (.failed .busy) else goto lock (.tryTake lock.next)
  | .tryTake next =>
    if lock.next = next then ⟨{ lock with next := wrappingSucc next }, .claim next, .reserved⟩
    else finish lock (.failed .busy)
  | .lockOwner attempts =>
    if lock.owner = token then finish lock (.failed .recursive)
    else if attempts = some 0 then finish lock (.failed .deadline)
    else goto lock (.reserveNext attempts)
  | .reserveNext attempts => goto lock (.reserveServing attempts lock.next)
  | .reserveServing attempts next =>
    if maxOutstandingTickets ≤ wrappingSub next lock.serving then
      goto lock (.reserveAgain attempts next)
    else goto lock (.reserveTake attempts next)
  | .reserveAgain attempts next =>
    if lock.next ≠ next then goto lock (.reserveNext attempts)
    else finish lock (.failed .queueFull)
  | .reserveTake attempts next =>
    if lock.next = next ∧ spurious = false then
      ⟨{ lock with next := wrappingSucc next }, .poll attempts next, .reserved⟩
    else goto lock (.reserveNext attempts)
  | .poll attempts ticket =>
    if lock.serving = ticket then goto lock (.claim ticket) else goto lock (.contend attempts ticket)
  | .contend attempts ticket =>
    goto { lock with contentions := wrappingSucc lock.contentions } (pollAgain attempts ticket)
  | .lastPoll ticket =>
    if lock.serving = ticket then goto lock (.claim ticket) else goto lock (.cancelServing ticket)
  | .claim ticket =>
    if lock.owner = 0 then ⟨{ lock with owner := token }, .claimed ticket, .granted ticket⟩
    else finish lock (.failed .invariant)
  | .claimed ticket =>
    finish { lock with acquisitions := wrappingSucc lock.acquisitions } (.locked ticket)
  | .cancelServing ticket =>
    if maxOutstandingTickets ≤ wrappingSub ticket lock.serving then
      finish lock (.failed .invariant)
    else goto lock (.cancelMark ticket)
  | .cancelMark ticket =>
    ⟨{ lock with cancelled := lock.cancelled ||| bit ticket }, .advanceOwner .timedOut, .abandoned ticket⟩
  | .advanceOwner ending =>
    if lock.owner ≠ 0 then advanced lock ending else goto lock (.advanceServing ending)
  | .advanceServing ending => goto lock (.advanceLook ending lock.serving)
  | .advanceLook ending serving =>
    if lock.cancelled &&& bit serving = 0 then advanced lock ending
    else goto lock (.advanceLoad ending serving)
  | .advanceLoad ending serving => goto lock (.advanceClear ending serving lock.cancelled)
  | .advanceClear ending serving cancelled =>
    if lock.cancelled = cancelled then
      goto { lock with cancelled := cancelled &&& ~~~bit serving } (.advanceBump ending serving)
    else goto lock (.advanceOwner ending)
  | .advanceBump ending serving =>
    if lock.serving = serving then
      goto { lock with serving := wrappingSucc serving } (.advanceOwner ending)
    else goto lock (.advanceOwner ending)
  | .countTimeout =>
    finish { lock with timeouts := wrappingSucc lock.timeouts } (.failed .timeout)
  | .unlockServing ticket =>
    if lock.serving ≠ ticket then finish lock (.failed .notOwner)
    else goto lock (.unlockOwner ticket)
  | .unlockOwner ticket =>
    if lock.owner = token then ⟨{ lock with owner := 0 }, .unlockBump ticket, .released ticket⟩
    else finish lock (.failed .notOwner)
  | .unlockBump _ =>
    goto { lock with serving := wrappingSucc lock.serving } (.advanceOwner .unlocked)

/-- A call by a thread that has no operation in progress. -/
inductive Call
  | tryLock
  | lock
  | lockBounded (attempts : Nat)
  | unlock (ticket : Nat)
deriving DecidableEq, Repr

/-- The first access of a call. -/
def Call.entry : Call → Pc
  | .tryLock => .tryOwner
  | .lock => .lockOwner none
  | .lockBounded attempts => .lockOwner (some attempts)
  | .unlock ticket => .unlockServing ticket

variable {I : Type}

/-- The lock among its threads. Beside the shared words and the program counters it records the
permits that are out, the tickets granted and given up so far, how many were handed out, and
every result. -/
structure World (I : Type) where
  lock : Lock
  pc : I → Pc
  outstanding : List (I × Nat)
  grants : List Nat
  abandoned : List Nat
  issued : Nat
  history : List (I × Result)

def World.new : World I := ⟨.new, fun _ => .idle, [], [], [], 0, []⟩

inductive Move (I : Type)
  | call (thread : I) (call : Call)
  | step (thread : I) (spurious : Bool)

variable [DecidableEq I]

def record (world : World I) (thread : I) : Note → World I
  | .quiet => world
  | .returned result => { world with history := world.history ++ [(thread, result)] }
  | .reserved => { world with issued := world.issued + 1 }
  | .granted ticket =>
    { world with
      outstanding := world.outstanding ++ [(thread, ticket)]
      grants := world.grants ++ [ticket] }
  | .abandoned ticket => { world with abandoned := world.abandoned ++ [ticket] }
  | .released ticket => { world with outstanding := world.outstanding.erase (thread, ticket) }

def land (world : World I) (thread : I) (outcome : Outcome) : World I :=
  record { world with
    lock := outcome.lock, pc := Function.update world.pc thread outcome.pc } thread outcome.note

variable (token : I → Nat)

def step (world : World I) : Move I → World I
  | .call thread call =>
    match world.pc thread with
    | .idle =>
      if token thread = 0 then land world thread (finish world.lock (.failed .ownerToken))
      else land world thread (goto world.lock call.entry)
    | _ => world
  | .step thread spurious =>
    land world thread (access (token thread) spurious world.lock (world.pc thread))

def run (world : World I) (moves : List (Move I)) : World I := moves.foldl (step token) world

end PooleOS.Locks.Ticket
