import PooleOS.Locks.Ticket

/- The reader-writer lock at the grain of its atomics. One word packs the reader
count (16 bits), the number of waiting writers (15 bits) and the writer bit;
owners, writer tickets and cancelled tickets are words of their own. -/
namespace PooleOS.Locks.ReaderWriter

open Ticket (wrappingSub wrappingSucc bit maxOutstandingTickets)

def readerValues : Nat := 65536
def waitingValues : Nat := 32768
def waitingWriterOne : Nat := 65536
def writerBit : Nat := 2147483648

/-- `state & READER_MASK`. -/
def readerField (state : Nat) : Nat := state % readerValues

/-- `(state & WAITING_WRITER_MASK) >> 16`. -/
def waitingField (state : Nat) : Nat := state / waitingWriterOne % waitingValues

/-- `(state & WRITER_BIT) >> 31`. -/
def writerField (state : Nat) : Nat := state / writerBit % 2

/-- The shared words of the lock. -/
structure Lock where
  state : Nat
  readerOwners : BitVec 32
  writerOwner : Nat
  writerNext : Nat
  writerServing : Nat
  cancelledWriters : BitVec 32
  readerContentions : Nat
  writerContentions : Nat
  writerTimeouts : Nat
deriving DecidableEq, Repr

/-- `ReaderWriterLock::new`. -/
def Lock.new : Lock := ⟨0, 0, 0, 0, 0, 0, 0, 0, 0⟩

/-- How long an operation tries: `try_`, `_bounded` with the attempts left, or `_lock`. -/
inductive Patience
  | once
  | bounded (left : Nat)
  | forever
deriving DecidableEq, Repr

/-- What is returned after `advance_cancelled_writers`. -/
inductive Ending
  | timedOut
  | unlocked (ticket : Nat)
  | failing (reason : Error)
deriving DecidableEq, Repr

/-- The next atomic access of a thread, with the values its operation has read so far. -/
inductive Pc
  | idle
  -- `try_read`, `read_bounded` and `read_lock`
  | readOwners (patience : Patience)
  | readWriter (patience : Patience)
  | readState (patience : Patience)
  | readTake (patience : Patience) (state : Nat)
  | readMark
  | readContend (patience : Patience)
  -- `read_unlock`
  | readUnmark
  | readDrop
  -- `try_write`, `write_bounded` and `write_lock`
  | writeOwner (patience : Patience)
  | writeReaders (patience : Patience)
  | tryNext
  | tryServing (next : Nat)
  | tryState
  | reserveNext (patience : Patience)
  | reserveServing (patience : Patience) (next : Nat)
  | reserveAgain (patience : Patience) (next : Nat)
  | reserveTake (patience : Patience) (next : Nat)
  | addState (patience : Patience) (ticket : Nat)
  | addTake (patience : Patience) (ticket : Nat) (state : Nat)
  | poll (patience : Patience) (ticket : Nat)
  | writeState (patience : Patience) (ticket : Nat)
  | writeTake (patience : Patience) (ticket : Nat) (state : Nat)
  | writeStore (ticket : Nat)
  | writeContend (patience : Patience) (ticket : Nat)
  | removeState (ending : Ending) (ticket : Nat)
  | removeTake (ending : Ending) (ticket : Nat) (state : Nat)
  | cancelMark (ending : Ending) (ticket : Nat)
  -- `advance_cancelled_writers`
  | advanceOwner (ending : Ending)
  | advanceServing (ending : Ending)
  | advanceLoad (ending : Ending) (serving : Nat)
  | advanceClear (ending : Ending) (serving : Nat) (cancelled : BitVec 32)
  | advanceBump (ending : Ending) (serving : Nat)
  | countTimeout
  -- `write_unlock`
  | unlockOwner (ticket : Nat)
  | unlockServing (ticket : Nat)
  | unlockStore (ticket : Nat)
  | unlockClear (ticket : Nat)
  | unlockBump (ticket : Nat)
deriving DecidableEq, Repr

inductive Result
  | reading
  | writing (ticket : Nat)
  | readUnlocked
  | writeUnlocked (ticket : Nat)
  | failed (reason : Error)
deriving DecidableEq, Repr

/-- What a step means for the permits and tickets. -/
inductive Note
  | quiet
  | readTaken
  | readDropped
  | reserved
  | waits
  | writeTaken (ticket : Nat)
  | waitsNoMore
  | abandoned (ticket : Nat)
  | writeDropped
deriving DecidableEq, Repr

structure Outcome where
  lock : Lock
  pc : Pc
  note : Note
  result : Option Result

def goto (lock : Lock) (pc : Pc) : Outcome := ⟨lock, pc, .quiet, none⟩

def finish (lock : Lock) (result : Result) : Outcome := ⟨lock, .idle, .quiet, some result⟩

/-- `state | WRITER_BIT`. -/
def withWriter (state : Nat) : Nat := if writerField state = 0 then state + writerBit else state

/-- `if state & READER_MASK == 0 || state & WRITER_BIT != 0 { Err(Invariant) } else { Ok(()) }`. -/
def readReleased (state : Nat) : Result :=
  if readerField state = 0 ∨ writerField state ≠ 0 then .failed .invariant else .readUnlocked

/-- `write_unlock` after the writer bit was cleared in this word. -/
def writeReleased (lock : Lock) (ticket state : Nat) : Outcome :=
  if writerField state = 0 ∨ readerField state ≠ 0 then
    ⟨lock, .idle, .writeDropped, some (.failed .invariant)⟩
  else ⟨lock, .unlockBump ticket, .writeDropped, none⟩

/-- `try_read` found a writer: `try_read` itself returns, the loops count a contention. -/
def readBusy (lock : Lock) : Patience → Outcome
  | .once => finish lock (.failed .busy)
  | patience => goto lock (.readContend patience)

/-- The next round of `read_bounded` or `read_lock`. -/
def readAgain (lock : Lock) : Patience → Outcome
  | .bounded left =>
    if left ≤ 1 then finish lock (.failed .timeout)
    else goto lock (.readOwners (.bounded (left - 1)))
  | patience => goto lock (.readOwners patience)

/-- Once the caller is known to hold nothing. -/
def writeBegin (lock : Lock) : Patience → Outcome
  | .once => goto lock .tryNext
  | patience => goto lock (.reserveNext patience)

/-- A reserved and counted writer: `try_write` goes for the writer bit at once, the loops wait for
their ticket. -/
def writeWait (patience : Patience) (ticket : Nat) : Pc :=
  match patience with
  | .once => .writeState .once ticket
  | _ => .poll patience ticket

/-- The writer bit was not to be had. -/
def writeMissed (patience : Patience) (ticket : Nat) : Pc :=
  match patience with
  | .once => .removeState (.failing .busy) ticket
  | _ => .writeContend patience ticket

/-- The next round of `write_bounded` or `write_lock`. -/
def writeAgain (patience : Patience) (ticket : Nat) : Pc :=
  match patience with
  | .bounded left =>
    if left ≤ 1 then .removeState .timedOut ticket else .poll (.bounded (left - 1)) ticket
  | _ => .poll patience ticket

/-- After `advance_cancelled_writers` has returned. -/
def advanced (lock : Lock) : Ending → Outcome
  | .timedOut => goto lock .countTimeout
  | .unlocked ticket => finish lock (.writeUnlocked ticket)
  | .failing reason => finish lock (.failed reason)

/-- One atomic access of the thread with this owner token. A weak compare-exchange may fail
although the word is the expected one. -/
def access (token : Nat) (spurious : Bool) (lock : Lock) : Pc → Outcome
  | .idle => goto lock .idle
  | .readOwners patience =>
    if lock.readerOwners.getLsbD token = true then finish lock (.failed .recursive)
    else goto lock (.readWriter patience)
  | .readWriter patience =>
    if lock.writerOwner = token then finish lock (.failed .recursive)
    else goto lock (.readState patience)
  | .readState patience =>
    if writerField lock.state ≠ 0 ∨ waitingField lock.state ≠ 0 then readBusy lock patience
    else if readerField lock.state = readerValues - 1 then finish lock (.failed .counter)
    else goto lock (.readTake patience lock.state)
  | .readTake patience state =>
    if lock.state = state ∧ spurious = false then
      ⟨{ lock with state := state + 1 }, .readMark, .readTaken, none⟩
    else goto lock (.readState patience)
  | .readMark =>
    finish { lock with readerOwners := lock.readerOwners ||| bit token } .reading
  | .readContend patience =>
    readAgain { lock with readerContentions := wrappingSucc lock.readerContentions } patience
  | .readUnmark =>
    if lock.readerOwners.getLsbD token = false then
      finish { lock with readerOwners := lock.readerOwners &&& ~~~bit token } (.failed .notOwner)
    else goto { lock with readerOwners := lock.readerOwners &&& ~~~bit token } .readDrop
  | .readDrop =>
    ⟨{ lock with state := wrappingSub lock.state 1 }, .idle, .readDropped, some (readReleased lock.state)⟩
  | .writeOwner patience =>
    if lock.writerOwner = token then finish lock (.failed .recursive)
    else goto lock (.writeReaders patience)
  | .writeReaders patience =>
    if lock.readerOwners.getLsbD token = true then finish lock (.failed .recursive)
    else writeBegin lock patience
  | .tryNext => goto lock (.tryServing lock.writerNext)
  | .tryServing next =>
    if next ≠ lock.writerServing then finish lock (.failed .busy) else goto lock .tryState
  | .tryState =>
    if lock.state ≠ 0 then finish lock (.failed .busy) else goto lock (.reserveNext .once)
  | .reserveNext patience => goto lock (.reserveServing patience lock.writerNext)
  | .reserveServing patience next =>
    if maxOutstandingTickets ≤ wrappingSub next lock.writerServing then
      goto lock (.reserveAgain patience next)
    else goto lock (.reserveTake patience next)
  | .reserveAgain patience next =>
    if lock.writerNext ≠ next then goto lock (.reserveNext patience)
    else finish lock (.failed .queueFull)
  | .reserveTake patience next =>
    if lock.writerNext = next ∧ spurious = false then
      ⟨{ lock with writerNext := wrappingSucc next }, .addState patience next, .reserved, none⟩
    else goto lock (.reserveNext patience)
  | .addState patience ticket =>
    if waitingField lock.state = waitingValues - 1 then
      goto lock (.cancelMark (.failing .queueFull) ticket)
    else goto lock (.addTake patience ticket lock.state)
  | .addTake patience ticket state =>
    if lock.state = state ∧ spurious = false then
      ⟨{ lock with state := state + waitingWriterOne }, writeWait patience ticket, .waits, none⟩
    else goto lock (.addState patience ticket)
  | .poll patience ticket =>
    if lock.writerServing = ticket then goto lock (.writeState patience ticket)
    else goto lock (.writeContend patience ticket)
  | .writeState patience ticket =>
    if writerField lock.state = 0 ∧ readerField lock.state = 0 then
      goto lock (.writeTake patience ticket lock.state)
    else goto lock (writeMissed patience ticket)
  | .writeTake patience ticket state =>
    if lock.state = state then
      ⟨{ lock with state := withWriter (wrappingSub state waitingWriterOne) }, .writeStore ticket,
        .writeTaken ticket, none⟩
    else goto lock (writeMissed patience ticket)
  | .writeStore ticket =>
    finish { lock with writerOwner := token } (.writing ticket)
  | .writeContend patience ticket =>
    goto { lock with writerContentions := wrappingSucc lock.writerContentions }
      (writeAgain patience ticket)
  | .removeState ending ticket =>
    if waitingField lock.state = 0 then goto lock (.cancelMark (.failing .invariant) ticket)
    else goto lock (.removeTake ending ticket lock.state)
  | .removeTake ending ticket state =>
    if lock.state = state ∧ spurious = false then
      ⟨{ lock with state := wrappingSub state waitingWriterOne }, .cancelMark ending ticket, .waitsNoMore, none⟩
    else goto lock (.removeState ending ticket)
  | .cancelMark ending ticket =>
    ⟨{ lock with cancelledWriters := lock.cancelledWriters ||| bit ticket }, .advanceOwner ending,
      .abandoned ticket, none⟩
  | .advanceOwner ending =>
    if lock.writerOwner ≠ 0 then advanced lock ending else goto lock (.advanceServing ending)
  | .advanceServing ending => goto lock (.advanceLoad ending lock.writerServing)
  | .advanceLoad ending serving =>
    if lock.cancelledWriters &&& bit serving = 0 then advanced lock ending
    else goto lock (.advanceClear ending serving lock.cancelledWriters)
  | .advanceClear ending serving cancelled =>
    if lock.cancelledWriters = cancelled then
      goto { lock with cancelledWriters := cancelled &&& ~~~bit serving }
        (.advanceBump ending serving)
    else goto lock (.advanceOwner ending)
  | .advanceBump ending serving =>
    if lock.writerServing = serving then
      goto { lock with writerServing := wrappingSucc serving } (.advanceOwner ending)
    else goto lock (.advanceOwner ending)
  | .countTimeout =>
    finish { lock with writerTimeouts := wrappingSucc lock.writerTimeouts } (.failed .timeout)
  | .unlockOwner ticket =>
    if lock.writerOwner ≠ token then finish lock (.failed .notOwner)
    else goto lock (.unlockServing ticket)
  | .unlockServing ticket =>
    if lock.writerServing ≠ ticket then finish lock (.failed .notOwner)
    else goto lock (.unlockStore ticket)
  | .unlockStore ticket => goto { lock with writerOwner := 0 } (.unlockClear ticket)
  | .unlockClear ticket =>
    writeReleased { lock with state := lock.state % writerBit } ticket lock.state
  | .unlockBump ticket =>
    goto { lock with writerServing := wrappingSucc lock.writerServing }
      (.advanceOwner (.unlocked ticket))

/-- `owner_bit`. -/
def ownerBit (owner : Nat) : Except Error Unit :=
  if owner = 0 then .error .ownerToken
  else if 32 ≤ owner then .error .ownerRange
  else .ok ()

/-- A call by a thread that has no operation in progress. An unlock passes a permit with the
caller's own token. -/
inductive Call
  | tryRead
  | readBounded (attempts : Nat)
  | readLock
  | readUnlock (write : Bool)
  | tryWrite
  | writeBounded (attempts : Nat)
  | writeLock
  | writeUnlock (ticket : Nat) (write : Bool)
deriving DecidableEq, Repr

/-- The first access after `owner_bit` has accepted the token. -/
def checked (lock : Lock) (token : Nat) (pc : Pc) : Outcome :=
  match ownerBit token with
  | .error reason => finish lock (.failed reason)
  | .ok _ => goto lock pc

/-- A call up to its first atomic access. -/
def Call.begin (lock : Lock) (token : Nat) : Call → Outcome
  | .tryRead => checked lock token (.readOwners .once)
  | .readBounded attempts =>
    if attempts = 0 then finish lock (.failed .deadline)
    else checked lock token (.readOwners (.bounded attempts))
  | .readLock => checked lock token (.readOwners .forever)
  | .readUnlock write =>
    if write = true then finish lock (.failed .notOwner) else checked lock token .readUnmark
  | .tryWrite => checked lock token (.writeOwner .once)
  | .writeBounded attempts =>
    match ownerBit token with
    | .error reason => finish lock (.failed reason)
    | .ok _ =>
      if attempts = 0 then finish lock (.failed .deadline)
      else goto lock (.writeOwner (.bounded attempts))
  | .writeLock => checked lock token (.writeOwner .forever)
  | .writeUnlock ticket write =>
    if write = false then finish lock (.failed .notOwner) else goto lock (.unlockOwner ticket)

variable {I : Type}

/-- The lock among its threads. A read or write permit is out from the access that takes its place
in the state word to the access that gives it back; a writer waits from the access that counts it
to the one that takes it off. -/
structure World (I : Type) where
  lock : Lock
  pc : I → Pc
  readers : List I
  waiting : List I
  writers : List (I × Nat)
  abandoned : List Nat
  issued : Nat
  history : List (I × Result)

def World.new : World I := ⟨.new, fun _ => .idle, [], [], [], [], 0, []⟩

inductive Move (I : Type)
  | call (thread : I) (call : Call)
  | step (thread : I) (spurious : Bool)

variable [DecidableEq I]

def record (world : World I) (thread : I) : Note → World I
  | .quiet => world
  | .readTaken => { world with readers := world.readers ++ [thread] }
  | .readDropped => { world with readers := world.readers.erase thread }
  | .reserved => { world with issued := world.issued + 1 }
  | .waits => { world with waiting := world.waiting ++ [thread] }
  | .writeTaken ticket =>
    { world with
      waiting := world.waiting.erase thread
      writers := world.writers ++ [(thread, ticket)] }
  | .waitsNoMore => { world with waiting := world.waiting.erase thread }
  | .abandoned ticket => { world with abandoned := world.abandoned ++ [ticket] }
  | .writeDropped =>
    { world with writers := world.writers.filter (fun permit => permit.1 ≠ thread) }

def land (world : World I) (thread : I) (outcome : Outcome) : World I :=
  let next := record { world with
    lock := outcome.lock, pc := Function.update world.pc thread outcome.pc } thread outcome.note
  { next with
    history := next.history ++ (outcome.result.toList.map (fun result => (thread, result))) }

variable (token : I → Nat)

def step (world : World I) : Move I → World I
  | .call thread call =>
    match world.pc thread with
    | .idle => land world thread (call.begin world.lock (token thread))
    | _ => world
  | .step thread spurious =>
    land world thread (access (token thread) spurious world.lock (world.pc thread))

def run (world : World I) (moves : List (Move I)) : World I := moves.foldl (step token) world

end PooleOS.Locks.ReaderWriter
