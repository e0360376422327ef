import PooleOS.Locks.Exclusion
import PooleOS.Locks.TicketRuns

/- The permits over whole runs of the reader-writer lock: each access keeps the
exact counts, so every interleaving does. -/
namespace PooleOS.Locks.ReaderWriter

open Ticket (wrappingSucc bit getLsbD_clear)

variable {I : Type} [DecidableEq I] {token : I → Nat} {world : World I} {thread : I} {pc old : Pc}

/-- Only words outside the counts are written. -/
theorem sameWords_rest (lock : Lock) (next serving : Nat) (cancelled : BitVec 32) (reads writes timeouts : Nat)
    : SameWords lock ⟨lock.state, lock.readerOwners, lock.writerOwner, next, serving, cancelled, reads, writes,
        timeouts⟩ := ⟨rfl, rfl, rfl⟩

/-- An access at a point where the thread can hold nothing. -/
theorem Exact.through (exact : Exact token world) (tokens : Tokens token) {lock' : Lock}
    (same : SameWords world.lock lock') (here : world.pc thread = old) (plain : ¬ old.Special) (reads : ¬ old.MayRead)
    (writes : ¬ old.MayWrite) (waits : pc.Waiting ↔ old.Waiting) (knows : Knows token world thread pc) :
    Exact token (land world thread (ReaderWriter.goto lock' pc)) :=
  exact.goto tokens same here plain waits (fun _ may => absurd may reads)
    (fun _ may => absurd may writes) knows

/-- `advance_cancelled_writers` returns. -/
theorem Exact.advanced (exact : Exact token world) (tokens : Tokens token) {ending : Ending}
    (here : world.pc thread = old) (plain : ¬ old.Special) (reads : ¬ old.MayRead)
    (writes : ¬ old.MayWrite) (waits : ¬ old.Waiting) (fine : ending.Fine) :
    Exact token (land world thread (ReaderWriter.advanced world.lock ending)) := by
  cases ending with
  | timedOut =>
    exact exact.through tokens (sameWords_refl _) here plain reads writes ⟨False.elim, waits⟩ trivial
  | unlocked ticket => exact exact.finish tokens (sameWords_refl _) here plain waits nofun
  | failing reason =>
    refine exact.finish tokens (sameWords_refl _) here plain waits ?_
    intro bad
    cases bad
    exact fine rfl

omit [DecidableEq I] in
/-- A write permit and a marked read permit exclude each other. -/
theorem Exact.owner_unmarked (exact : Exact token world) (tokens : Tokens token)
    (owner : world.lock.writerOwner = token thread) : ¬ world.lock.readerOwners.getLsbD (token thread) = true := by
  intro set
  obtain ⟨ticket, writes⟩ := exact.owner_writes tokens owner
  have empty := exact.apart (List.ne_nil_of_mem writes)
  exact List.not_mem_nil (empty ▸ exact.marked thread set)

omit [DecidableEq I] in
/-- Clearing an owner's bit that is not set changes nothing. -/
theorem Tokens.clear_absent (tokens : Tokens token) {word : BitVec 32}
    (clear : word.getLsbD (token thread) = false) : word &&& ~~~bit (token thread) = word := by
  apply BitVec.eq_of_getLsbD_eq
  intro index inside
  rw [getLsbD_clear _ _ _ inside, Nat.mod_eq_of_lt (tokens.small thread)]
  by_cases same : index = token thread
  · subst same
    rw [clear]
    rfl
  · simp [same]

omit [DecidableEq I] in
/-- A word without writers counts only readers. -/
theorem Exact.calm_lt (exact : Exact token world) (tokens : Tokens token)
    (calm : ¬ (writerField world.lock.state ≠ 0 ∨ waitingField world.lock.state ≠ 0)) :
    world.lock.state < readerValues - 1 := by
  obtain ⟨_, waits, writes⟩ := exact.fields tokens
  rw [waits, writes] at calm
  have nobody : world.writers.length = 0 := by
    by_contra some_
    exact calm (.inl some_)
  have none_ : world.waiting.length = 0 := by
    by_contra some_
    exact calm (.inr some_)
  have few := exact.readers_lt tokens
  rw [exact.word, nobody, none_]
  exact Nat.lt_sub_of_add_lt few

omit [DecidableEq I] in
/-- A waiting writer is counted. -/
theorem Exact.counted (exact : Exact token world) (tokens : Tokens token)
    (waits : (world.pc thread).Waiting) : 1 ≤ waitingField world.lock.state := by
  rw [(exact.fields tokens).2.1]
  exact List.length_pos_of_mem ((exact.waits thread).mpr waits)

omit [DecidableEq I] in
theorem Exact.waitingField_lt (exact : Exact token world) (tokens : Tokens token) :
    waitingField world.lock.state < waitingValues - 1 := by
  rw [(exact.fields tokens).2.1]
  exact Nat.lt_sub_of_add_lt (exact.waiting_lt tokens)

variable {patience : Patience}

section

variable (exact : Exact token world) (tokens : Tokens token)
include exact tokens

theorem Exact.access_readState (spurious : Bool)
    (here : world.pc thread = .readState patience) : Exact token (land world thread
      (access (token thread) spurious world.lock (.readState patience))) := by
  have same := sameWords_refl world.lock
  unfold access
  dsimp only
  split
  · cases patience with
    | once => exact exact.finish tokens same here id id nofun
    | bounded left => exact exact.through tokens same here id id id .rfl trivial
    | forever => exact exact.through tokens same here id id id .rfl trivial
  · rename_i calm
    split
    · exact exact.finish tokens same here id id nofun
    · exact exact.through tokens same here id id id .rfl (exact.calm_lt tokens calm)

theorem Exact.access_readContend (spurious : Bool)
    (here : world.pc thread = .readContend patience) : Exact token (land world thread
      (access (token thread) spurious world.lock (.readContend patience))) := by
  have same := sameWords_rest world.lock world.lock.writerNext world.lock.writerServing
    world.lock.cancelledWriters (wrappingSucc world.lock.readerContentions)
    world.lock.writerContentions world.lock.writerTimeouts
  unfold access readAgain
  cases patience with
  | once => exact exact.through tokens same here id id id .rfl trivial
  | bounded left =>
    dsimp only
    split
    · exact exact.finish tokens same here id id nofun
    · exact exact.through tokens same here id id id .rfl trivial
  | forever => exact exact.through tokens same here id id id .rfl trivial

theorem Exact.access_writeContend (spurious : Bool) {ticket : Nat}
    (here : world.pc thread = .writeContend patience ticket) : Exact token (land world thread
      (access (token thread) spurious world.lock (.writeContend patience ticket))) := by
  have same := sameWords_rest world.lock world.lock.writerNext world.lock.writerServing
    world.lock.cancelledWriters world.lock.readerContentions
    (wrappingSucc world.lock.writerContentions) world.lock.writerTimeouts
  unfold access writeAgain
  cases patience with
  | once => exact exact.through tokens same here id id id .rfl trivial
  | bounded left =>
    dsimp only
    split
    · exact exact.through tokens same here id id id .rfl nofun
    · exact exact.through tokens same here id id id .rfl trivial
  | forever => exact exact.through tokens same here id id id .rfl trivial

/-- The writer bit was not to be had. -/
theorem Exact.writeMissed {ticket : Nat}
    (here : world.pc thread = old) (plain : ¬ old.Special) (reads : ¬ old.MayRead) (writes : ¬ old.MayWrite)
    (waits : old.Waiting) : Exact token (land world thread
      (ReaderWriter.goto world.lock (ReaderWriter.writeMissed patience ticket))) := by
  have same := sameWords_refl world.lock
  cases patience with
  | once => exact exact.through tokens same here plain reads writes ⟨fun _ => waits, fun _ => trivial⟩ nofun
  | bounded left =>
    exact exact.through tokens same here plain reads writes ⟨fun _ => waits, fun _ => trivial⟩ trivial
  | forever =>
    exact exact.through tokens same here plain reads writes ⟨fun _ => waits, fun _ => trivial⟩ trivial

theorem Exact.access_writeReaders (spurious : Bool)
    (here : world.pc thread = .writeReaders patience) : Exact token (land world thread
      (access (token thread) spurious world.lock (.writeReaders patience))) := by
  have same := sameWords_refl world.lock
  unfold access
  dsimp only
  split
  · exact exact.finish tokens same here id id nofun
  · rename_i clear
    cases patience <;>
      exact exact.goto tokens same here id .rfl (absurd · clear)
        (fun _ => False.elim) trivial

/-- Every access keeps the counts exact. -/
theorem Exact.access (thread : I)
    (spurious : Bool) : Exact token (land world thread
      (ReaderWriter.access (token thread) spurious world.lock (world.pc thread))) := by
  have same := sameWords_refl world.lock
  have knows := exact.knows thread
  cases here : world.pc thread with
  | idle => exact exact.goto tokens same here id .rfl (fun _ => id) (fun _ => id) trivial
  | readOwners patience =>
    unfold ReaderWriter.access
    dsimp only
    split
    · exact exact.finish tokens same here id id nofun
    · rename_i clear
      exact exact.goto tokens same here id .rfl (absurd · clear)
        (fun _ => id) trivial
  | readWriter patience =>
    unfold ReaderWriter.access
    dsimp only
    split
    · exact exact.finish tokens same here id id nofun
    · rename_i other
      exact exact.goto tokens same here id .rfl (fun _ => id)
        (absurd · other) trivial
  | readState patience => exact exact.access_readState tokens spurious here
  | readTake patience state =>
    unfold ReaderWriter.access
    dsimp only
    split
    · rename_i taken
      obtain ⟨rfl, _⟩ := taken
      exact exact.readTake tokens here
    · exact exact.through tokens same here id id id .rfl trivial
  | readMark => exact exact.readMark tokens here
  | readContend patience => exact exact.access_readContend tokens spurious here
  | readUnmark =>
    unfold ReaderWriter.access
    dsimp only
    split
    · rename_i clear
      refine exact.finish tokens ⟨rfl, ?_, rfl⟩ here id id nofun
      exact tokens.clear_absent clear
    · rename_i set
      exact exact.readUnmark tokens here (Bool.eq_true_of_not_eq_false set)
  | readDrop =>
    rw [here] at knows
    obtain ⟨released, lowered⟩ := exact.readDrop_word tokens knows.1
    unfold ReaderWriter.access
    rw [released]
    exact exact.readDrop tokens here lowered
  | writeOwner patience =>
    unfold ReaderWriter.access
    dsimp only
    split
    · exact exact.finish tokens same here id id nofun
    · rename_i other
      exact exact.goto tokens same here id .rfl (fun _ => id)
        (absurd · other) trivial
  | writeReaders patience => exact exact.access_writeReaders tokens spurious here
  | tryNext => exact exact.through tokens same here id id id .rfl trivial
  | tryServing next =>
    unfold ReaderWriter.access
    dsimp only
    split
    · exact exact.finish tokens same here id id nofun
    · exact exact.through tokens same here id id id .rfl trivial
  | tryState =>
    unfold ReaderWriter.access
    dsimp only
    split
    · exact exact.finish tokens same here id id nofun
    · exact exact.through tokens same here id id id .rfl trivial
  | reserveNext patience => exact exact.through tokens same here id id id .rfl trivial
  | reserveServing patience next =>
    unfold ReaderWriter.access
    dsimp only
    split
    · exact exact.through tokens same here id id id .rfl trivial
    · exact exact.through tokens same here id id id .rfl trivial
  | reserveAgain patience next =>
    unfold ReaderWriter.access
    dsimp only
    split
    · exact exact.through tokens same here id id id .rfl trivial
    · exact exact.finish tokens same here id id nofun
  | reserveTake patience next =>
    unfold ReaderWriter.access
    dsimp only
    split
    · exact exact.quiet tokens ⟨sameWords_rest .., rfl, rfl, rfl, rfl⟩ here id .rfl
        (fun _ => False.elim) (fun _ => False.elim) trivial (exact.clean_land nofun)
    · exact exact.through tokens same here id id id .rfl trivial
  | addState patience ticket =>
    unfold ReaderWriter.access
    dsimp only
    split
    · exact exact.through tokens same here id id id .rfl nofun
    · exact exact.through tokens same here id id id .rfl (exact.waitingField_lt tokens)
  | addTake patience ticket state =>
    unfold ReaderWriter.access
    dsimp only
    split
    · rename_i taken
      obtain ⟨rfl, _⟩ := taken
      exact exact.addTake tokens here
    · exact exact.through tokens same here id id id .rfl trivial
  | poll patience ticket =>
    unfold ReaderWriter.access
    dsimp only
    split
    · exact exact.through tokens same here id id id .rfl trivial
    · exact exact.through tokens same here id id id .rfl trivial
  | writeState patience ticket =>
    unfold ReaderWriter.access
    dsimp only
    split
    · rename_i free
      exact exact.through tokens same here id id id .rfl
        ⟨free.1, free.2, exact.counted tokens (waiting_of here trivial)⟩
    · exact exact.writeMissed tokens here id id id trivial
  | writeTake patience ticket state =>
    unfold ReaderWriter.access
    dsimp only
    split
    · rename_i taken
      subst taken
      have waits := waiting_of here trivial
      have word := exact.unwait_word tokens waits
      exact exact.writeTake tokens here
        (exact.writeTake_word tokens waits (exact.writeTake_alone tokens here).1 word)
    · exact exact.writeMissed tokens here id id id trivial
  | writeStore ticket => exact exact.writeStore tokens here
  | writeContend patience ticket => exact exact.access_writeContend tokens spurious here
  | removeState ending ticket =>
    rw [here] at knows
    have counted := exact.counted tokens (waiting_of here trivial)
    unfold ReaderWriter.access
    dsimp only
    rw [if_neg (Nat.ne_of_gt counted)]
    exact exact.through tokens same here id id id .rfl ⟨knows, counted⟩
  | removeTake ending ticket state =>
    rw [here] at knows
    unfold ReaderWriter.access
    dsimp only
    split
    · rename_i taken
      obtain ⟨rfl, _⟩ := taken
      exact exact.removeTake tokens here (exact.unwait_word tokens (waiting_of here trivial))
    · exact exact.through tokens same here id id id .rfl knows.1
  | cancelMark ending ticket =>
    rw [here] at knows
    exact exact.quiet tokens ⟨sameWords_rest .., rfl, rfl, rfl, rfl⟩ here id .rfl
      (fun _ => False.elim) (fun _ => False.elim) knows (exact.clean_land nofun)
  | advanceOwner ending =>
    rw [here] at knows
    unfold ReaderWriter.access
    dsimp only
    split
    · exact exact.advanced tokens here id id id id knows
    · exact exact.through tokens same here id id id .rfl knows
  | advanceServing ending =>
    rw [here] at knows
    exact exact.through tokens same here id id id .rfl knows
  | advanceLoad ending serving =>
    rw [here] at knows
    unfold ReaderWriter.access
    dsimp only
    split
    · exact exact.advanced tokens here id id id id knows
    · exact exact.through tokens same here id id id .rfl knows
  | advanceClear ending serving cancelled =>
    rw [here] at knows
    unfold ReaderWriter.access
    dsimp only
    split
    · exact exact.through tokens (sameWords_rest ..) here id id id .rfl knows
    · exact exact.through tokens same here id id id .rfl knows
  | advanceBump ending serving =>
    rw [here] at knows
    unfold ReaderWriter.access
    dsimp only
    split
    · exact exact.through tokens (sameWords_rest ..) here id id id .rfl knows
    · exact exact.through tokens same here id id id .rfl knows
  | countTimeout => exact exact.finish tokens (sameWords_rest ..) here id id nofun
  | unlockOwner ticket =>
    unfold ReaderWriter.access
    dsimp only
    split
    · exact exact.finish tokens same here id id nofun
    · rename_i mine
      have owner := not_not.mp mine
      exact exact.goto tokens same here id .rfl
        (absurd · (exact.owner_unmarked tokens owner)) (fun _ => id) owner
  | unlockServing ticket =>
    rw [here] at knows
    unfold ReaderWriter.access
    dsimp only
    split
    · exact exact.finish tokens same here id id nofun
    · exact exact.goto tokens same here id .rfl (fun _ => id) (fun _ => id) knows
  | unlockStore ticket => exact exact.unlockStore tokens here
  | unlockClear ticket =>
    rw [here] at knows
    obtain ⟨_, held, writes⟩ := knows
    unfold ReaderWriter.access
    dsimp only
    rw [(exact.unlockClear_word tokens writes _ ticket).1]
    exact exact.unlockClear tokens here (exact.unlockClear_word tokens writes world.lock ticket).2
  | unlockBump ticket =>
    exact exact.through tokens (sameWords_rest ..) here id id id .rfl nofun

/-- The first step of a call keeps the counts exact. -/
theorem Exact.begin (idle : world.pc thread = .idle) (call : Call) :
    Exact token (land world thread (call.begin world.lock (token thread))) := by
  have same := sameWords_refl world.lock
  have valid : ownerBit (token thread) = .ok () := by
    unfold ownerBit
    rw [if_neg (Nat.ne_of_gt (tokens.positive thread)), if_neg (Nat.not_le.mpr (tokens.small thread))]
  have enter : ∀ pc : Pc, (pc.Waiting ↔ False) → pc.MayRead → pc.MayWrite →
      Knows token world thread pc →
        Exact token (land world thread (ReaderWriter.goto world.lock pc)) := by
    intro pc waits reads writes knows
    exact exact.goto tokens same idle id waits (fun _ _ => reads) (fun _ _ => writes) knows
  have refuse : ∀ reason, reason ≠ .invariant → Exact token (land world thread
      (ReaderWriter.finish world.lock (.failed reason))) := by
    intro reason fine
    exact exact.finish tokens same idle id id (fun bad => fine (Result.failed.inj bad))
  cases call with
  | tryRead =>
    unfold Call.begin checked
    rw [valid]
    exact enter _ .rfl trivial trivial trivial
  | readBounded attempts =>
    unfold Call.begin checked
    rw [valid]
    dsimp only
    split
    · exact refuse _ nofun
    · exact enter _ .rfl trivial trivial trivial
  | readLock =>
    unfold Call.begin checked
    rw [valid]
    exact enter _ .rfl trivial trivial trivial
  | readUnlock write =>
    unfold Call.begin checked
    rw [valid]
    dsimp only
    split
    · exact refuse _ nofun
    · exact enter _ .rfl trivial trivial trivial
  | tryWrite =>
    unfold Call.begin checked
    rw [valid]
    exact enter _ .rfl trivial trivial trivial
  | writeBounded attempts =>
    unfold Call.begin
    rw [valid]
    dsimp only
    split
    · exact refuse _ nofun
    · exact enter _ .rfl trivial trivial trivial
  | writeLock =>
    unfold Call.begin checked
    rw [valid]
    exact enter _ .rfl trivial trivial trivial
  | writeUnlock ticket write =>
    unfold Call.begin
    dsimp only
    split
    · exact refuse _ nofun
    · exact enter _ .rfl trivial trivial trivial

theorem Exact.move (move : Move I) :
    Exact token (ReaderWriter.step token world move) := by
  cases move with
  | call thread call =>
    unfold ReaderWriter.step
    dsimp only
    split
    · rename_i idle
      exact exact.begin tokens idle call
    · exact exact
  | step thread spurious => exact exact.access tokens thread spurious

end

theorem run_exact (tokens : Tokens token) (moves : List (Move I)) :
    ∀ world : World I, Exact token world → Exact token (run token world moves) := by
  induction moves with
  | nil => exact fun _ exact => exact
  | cons move rest ih => exact fun world exact => ih _ (exact.move tokens move)

omit [DecidableEq I] in
/-- Nobody waits while no operation is in progress. -/
theorem Exact.waiting_quiet (exact : Exact token world) (quiet : ∀ thread, world.pc thread = .idle) :
    world.waiting = [] := by
  apply List.eq_nil_iff_forall_not_mem.mpr
  intro thread member
  have waits := (exact.waits thread).mp member
  rw [quiet thread] at waits
  exact waits

/-- Exclusion over every interleaving, with the state word as the exact count of the permits that
are out and the writers that wait. -/
theorem run_keeps_apart (tokens : Tokens token) (moves : List (Move I)) :
    let world := run token World.new moves
    world.writers.length ≤ 1 ∧
      (world.writers ≠ [] → world.readers = []) ∧
      world.lock.state = pack world.readers.length world.waiting.length world.writers.length ∧
      (readerField world.lock.state = world.readers.length ∧ waitingField world.lock.state = world.waiting.length ∧
        writerField world.lock.state = world.writers.length) ∧
      (∀ thread, (thread, .failed .invariant) ∉ world.history) ∧
      ((∀ thread, world.pc thread = .idle) → readerField world.lock.state = world.readers.length ∧
          waitingField world.lock.state = 0 ∧
          (writerField world.lock.state = 1 ↔ world.writers ≠ [])) := by
  intro world
  have exact : Exact token world := run_exact tokens moves _ exact_new
  have fields := exact.fields tokens
  refine ⟨exact.one, exact.apart, exact.word, fields, exact.clean, ?_⟩
  intro quiet
  refine ⟨fields.1, ?_, ?_⟩
  · rw [fields.2.1, exact.waiting_quiet quiet]
    rfl
  · have one := exact.one
    rw [← List.length_pos_iff]
    omega

/-- One thread reads while the other gives up waiting to write. -/
def oneReader : List (Move Bool) :=
  .call true .tryRead :: List.replicate 5 (.step true false) ++
    .call false (.writeBounded 1) :: List.replicate 22 (.step false false)

theorem run_keeps_apart_oneReader :
    let world := run Ticket.boolToken World.new oneReader
    (world.readers = [true] ∧ (false, .failed .timeout) ∈ world.history ∧
      ∀ thread, world.pc thread = .idle) ∧ readerField world.lock.state = 1 ∧
        waitingField world.lock.state = 0 := by
  have tokens : Tokens Ticket.boolToken := ⟨by decide, by decide, by decide⟩
  have ran : (run Ticket.boolToken World.new oneReader).readers = [true] ∧
      (false, .failed .timeout) ∈ (run Ticket.boolToken World.new oneReader).history ∧
      ∀ thread, (run Ticket.boolToken World.new oneReader).pc thread = .idle := by
    decide +kernel
  obtain ⟨_, _, _, _, _, quiet⟩ := run_keeps_apart tokens oneReader
  obtain ⟨reads, waits, _⟩ := quiet ran.2.2
  exact ⟨ran, reads, waits⟩

end PooleOS.Locks.ReaderWriter
