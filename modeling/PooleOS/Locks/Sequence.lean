import PooleOS.Locks.TicketSafety

/- The sequence lock at the grain of its atomics. A writer takes the ticket lock, makes the sequence
odd, stores the value and makes the sequence even again; a reader loads the sequence on both
sides of the value. -/
namespace PooleOS.Locks.Sequence

def u64Values : Nat := 18446744073709551616

/-- The next atomic access of a writer. The accesses to the ticket lock are its own. -/
inductive WriterPc
  | idle
  | locking (value : Nat)
  | loadBefore (value ticket : Nat)
  | exchange (value ticket before : Nat)
  | store (value ticket before : Nat)
  | bump (value ticket before : Nat)
  | unlocking (value before odd : Nat)
  -- `let _ = self.writer.unlock(permit)` on the way to `Error::Sequence`
  | refusing
deriving DecidableEq, Repr

/-- The next atomic access of a reader. The number of attempts is absent in `read`. -/
inductive ReaderPc
  | idle
  | loadBefore (attempts : Option Nat) (retries : Nat)
  | loadValue (attempts : Option Nat) (retries before : Nat)
  | loadAfter (attempts : Option Nat) (retries before value : Nat)
  | countRetry (attempts : Option Nat) (retries : Nat)
deriving DecidableEq, Repr

inductive Write
  | wrote (value sequence : Nat)
  | failed (reason : Error)
  | panicked
deriving DecidableEq, Repr

inductive Read
  | read (value sequence retries : Nat)
  | failed (reason : Error)
deriving DecidableEq, Repr

variable {I J : Type}

/-- The lock among its writers and its readers. Beside the shared words and the program counters it
records, for each time that the sequence became even again, who did it, the value that was stored
and the sequence, and every result. -/
structure World (I J : Type) where
  lock : Ticket.World I
  sequence : Nat
  value : Nat
  readRetries : Nat
  writer : I → WriterPc
  reader : J → ReaderPc
  published : List (I × Nat × Nat)
  writes : List (I × Write)
  reads : List (J × Read)

/-- `SequenceLock::new`. -/
def World.new (value : Nat) : World I J :=
  ⟨.new, 0, value, 0, fun _ => .idle, fun _ => .idle, [], [], []⟩

inductive WriterCall
  | write (value : Nat)
  | writeBounded (value attempts : Nat)
deriving DecidableEq, Repr

inductive ReaderCall
  | read
  | readBounded (attempts : Nat)
deriving DecidableEq, Repr

inductive Move (I J : Type)
  | callWriter (thread : I) (call : WriterCall)
  | callReader (thread : J) (call : ReaderCall)
  | stepWriter (thread : I) (spurious : Bool)
  | stepReader (thread : J)

variable [DecidableEq I] [DecidableEq J]

section Writers

def gotoWriter (world : World I J) (thread : I) (pc : WriterPc) : World I J :=
  { world with writer := Function.update world.writer thread pc }

def finishWriter (world : World I J) (thread : I) (result : Write) : World I J :=
  { gotoWriter world thread .idle with writes := world.writes ++ [(thread, result)] }

variable (token : I → Nat)

/-- A call of the ticket lock. -/
def callLock (world : World I J) (thread : I) (call : Ticket.Call) (pc : WriterPc) : World I J :=
  { gotoWriter world thread pc with lock := Ticket.step token world.lock (.call thread call) }

/-- What a step of the ticket lock returns, if it returns. -/
def returned : Ticket.Note → Option Ticket.Result
  | .returned result => some result
  | _ => none

/-- One access to the ticket lock, and what its operation returns. -/
def stepLock (world : World I J) (thread : I) (spurious : Bool) : World I J × Option Ticket.Result :=
  let outcome := Ticket.access (token thread) spurious world.lock.lock (world.lock.pc thread)
  ({ world with lock := Ticket.land world.lock thread outcome }, returned outcome.note)

/-- The end of `write`, after the unlock went well. -/
def answer (value before odd : Nat) : Write :=
  if odd ≠ before + 1 then .failed .sequence
  else if odd + 1 < u64Values then .wrote value (odd + 1)
  else .panicked

def startWriter (world : World I J) (thread : I) : WriterCall → World I J
  | .write value =>
    if token thread = 0 then finishWriter world thread (.failed .ownerToken)
    else callLock token world thread .lock (.locking value)
  | .writeBounded value attempts =>
    if token thread = 0 then finishWriter world thread (.failed .ownerToken)
    else callLock token world thread (.lockBounded attempts) (.locking value)

def stepWriter (world : World I J) (thread : I) (spurious : Bool) : World I J :=
  match world.writer thread with
  | .idle => world
  | .locking value =>
    let (after, result) := stepLock token world thread spurious
    match result with
    | none => after
    | some (.locked ticket) => gotoWriter after thread (.loadBefore value ticket)
    | some .unlocked => after
    | some (.failed reason) => finishWriter after thread (.failed reason)
  | .loadBefore value ticket =>
    if world.sequence % 2 ≠ 0 then callLock token world thread (.unlock ticket) .refusing
    else gotoWriter world thread (.exchange value ticket world.sequence)
  | .exchange value ticket before =>
    if world.sequence = before then
      gotoWriter { world with sequence := before + 1 } thread (.store value ticket before)
    else callLock token world thread (.unlock ticket) .refusing
  | .store value ticket before =>
    gotoWriter { world with value := value } thread (.bump value ticket before)
  | .bump value ticket before =>
    let next := (world.sequence + 1) % u64Values
    callLock token
      { world with sequence := next, published := world.published ++ [(thread, value, next)] } thread
      (.unlock ticket) (.unlocking value before world.sequence)
  | .unlocking value before odd =>
    let (after, result) := stepLock token world thread spurious
    match result with
    | none => after
    | some (.failed reason) => finishWriter after thread (.failed reason)
    | some _ => finishWriter after thread (answer value before odd)
  | .refusing =>
    let (after, result) := stepLock token world thread spurious
    match result with
    | none => after
    | some _ => finishWriter after thread (.failed .sequence)

end Writers

section Readers

def gotoReader (world : World I J) (thread : J) (pc : ReaderPc) : World I J :=
  { world with reader := Function.update world.reader thread pc }

def finishReader (world : World I J) (thread : J) (result : Read) : World I J :=
  { gotoReader world thread .idle with reads := world.reads ++ [(thread, result)] }

def startReader (world : World I J) (thread : J) : ReaderCall → World I J
  | .read => gotoReader world thread (.loadBefore none 0)
  | .readBounded attempts =>
    if attempts = 0 then finishReader world thread (.failed .deadline)
    else gotoReader world thread (.loadBefore (some attempts) 0)

/-- The next round of a reader, if it has one left. -/
def readAgain (world : World I J) (thread : J) (attempts : Option Nat) (retries : Nat) : World I J :=
  match attempts with
  | none => gotoReader world thread (.loadBefore none (Ticket.wrappingSucc retries))
  | some limit =>
    if retries + 1 < limit then gotoReader world thread (.loadBefore attempts (retries + 1))
    else finishReader world thread (.failed .timeout)

def stepReader (world : World I J) (thread : J) : World I J :=
  match world.reader thread with
  | .idle => world
  | .loadBefore attempts retries =>
    if world.sequence % 2 ≠ 0 then gotoReader world thread (.countRetry attempts retries)
    else gotoReader world thread (.loadValue attempts retries world.sequence)
  | .loadValue attempts retries before =>
    gotoReader world thread (.loadAfter attempts retries before world.value)
  | .loadAfter attempts retries before value =>
    if before = world.sequence ∧ world.sequence % 2 = 0 then
      finishReader world thread (.read value world.sequence retries)
    else gotoReader world thread (.countRetry attempts retries)
  | .countRetry attempts retries =>
    readAgain { world with readRetries := Ticket.wrappingSucc world.readRetries } thread attempts retries

end Readers

variable (token : I → Nat)

def step (world : World I J) : Move I J → World I J
  | .callWriter thread call =>
    match world.writer thread with
    | .idle => startWriter token world thread call
    | _ => world
  | .callReader thread call =>
    match world.reader thread with
    | .idle => startReader world thread call
    | _ => world
  | .stepWriter thread spurious => stepWriter token world thread spurious
  | .stepReader thread => stepReader world thread

def run (world : World I J) (moves : List (Move I J)) : World I J := moves.foldl (step token) world

end PooleOS.Locks.Sequence
