import PooleOS.Locks.ReaderWriter
import PooleOS.Locks.TicketSafety

/- Exclusion of readers and writers. The state word counts exactly the permits
that are out and the writers that wait, so none of its three fields ever borrows
from another. -/
namespace PooleOS.Locks.ReaderWriter

open List Nat
open Ticket (wrappingSub getLsbD_bit getLsbD_mark getLsbD_clear)

section Words

/-- The word that packs the three counts. -/
def pack (readers waiting writers : Nat) : Nat :=
  readers + waitingWriterOne * waiting + writerBit * writers

variable {readers waiting writers : Nat}

theorem readerField_pack (few : readers < readerValues) : readerField (pack readers waiting writers) = readers := by
  unfold readerField pack readerValues waitingWriterOne writerBit at *
  omega

theorem waitingField_pack (few : readers < readerValues) (queue : waiting < waitingValues) :
    waitingField (pack readers waiting writers) = waiting := by
  unfold waitingField pack readerValues waitingValues waitingWriterOne writerBit at *
  omega

theorem writerField_pack (few : readers < readerValues) (queue : waiting < waitingValues)
    (one : writers ≤ 1) : writerField (pack readers waiting writers) = writers := by
  unfold writerField pack readerValues waitingValues waitingWriterOne writerBit at *
  omega

theorem pack_reader : pack (readers + 1) waiting writers = pack readers waiting writers + 1 := by
  unfold pack
  omega

theorem pack_wait : pack readers (waiting + 1) writers = pack readers waiting writers + waitingWriterOne := by
  unfold pack
  rw [mul_succ]
  omega

theorem pack_drop (few : readers + 1 < readerValues) (queue : waiting < waitingValues) (one : writers ≤ 1) :
    wrappingSub (pack (readers + 1) waiting writers) 1 = pack readers waiting writers := by
  unfold wrappingSub pack u32Values readerValues waitingValues waitingWriterOne writerBit at *
  omega

theorem pack_unwait (few : readers < readerValues) (queue : waiting + 1 < waitingValues) (one : writers ≤ 1) :
    wrappingSub (pack readers (waiting + 1) writers) waitingWriterOne = pack readers waiting writers := by
  unfold wrappingSub pack u32Values readerValues waitingValues waitingWriterOne writerBit at *
  omega

theorem pack_take (few : readers < readerValues) (queue : waiting < waitingValues) :
    withWriter (pack readers waiting 0) = pack readers waiting 1 := by
  unfold withWriter
  rw [writerField_pack few queue (zero_le _), if_pos rfl]
  unfold pack
  omega

theorem pack_free (few : readers < readerValues) (queue : waiting < waitingValues) :
    pack readers waiting writers % writerBit = pack readers waiting 0 := by
  unfold pack readerValues waitingValues waitingWriterOne writerBit at *
  omega

end Words

/-- The writer is counted in the state word and has neither taken the bit nor left. -/
def Pc.Waiting : Pc → Prop
  | .poll _ _ => True
  | .writeState _ _ => True
  | .writeTake _ _ _ => True
  | .writeContend _ _ => True
  | .removeState _ _ => True
  | .removeTake _ _ _ => True
  | _ => False

/-- The access after which a permit changes hands. -/
def Pc.Special : Pc → Prop
  | .readMark => True
  | .readDrop => True
  | .writeStore _ => True
  | .unlockClear _ => True
  | _ => False

/-- A thread with a marked read permit can only be here. -/
def Pc.MayRead : Pc → Prop
  | .idle => True
  | .readOwners _ => True
  | .readUnmark => True
  | .writeOwner _ => True
  | .writeReaders _ => True
  | .unlockOwner _ => True
  | _ => False

/-- A thread with a stored write permit can only be here. -/
def Pc.MayWrite : Pc → Prop
  | .idle => True
  | .readOwners _ => True
  | .readWriter _ => True
  | .readUnmark => True
  | .writeOwner _ => True
  | .unlockOwner _ => True
  | .unlockServing _ => True
  | .unlockStore _ => True
  | _ => False

def Ending.Fine (ending : Ending) : Prop := ending ≠ .failing .invariant

variable {I : Type}

/-- What the values a thread has read, and the point it has reached, say about the lock. -/
def Knows (token : I → Nat) (world : World I) (thread : I) : Pc → Prop
  | .readTake _ state => state < readerValues - 1
  | .readMark => thread ∈ world.readers ∧ world.lock.readerOwners.getLsbD (token thread) = false
  | .readDrop => thread ∈ world.readers ∧ world.lock.readerOwners.getLsbD (token thread) = false
  | .addTake _ _ state => waitingField state < waitingValues - 1
  | .writeTake _ _ state => writerField state = 0 ∧ readerField state = 0 ∧ 1 ≤ waitingField state
  | .writeStore ticket => (thread, ticket) ∈ world.writers
  | .removeState ending _ => ending.Fine
  | .removeTake ending _ state => ending.Fine ∧ 1 ≤ waitingField state
  | .cancelMark ending _ => ending.Fine
  | .advanceOwner ending => ending.Fine
  | .advanceServing ending => ending.Fine
  | .advanceLoad ending _ => ending.Fine
  | .advanceClear ending _ _ => ending.Fine
  | .advanceBump ending _ => ending.Fine
  | .unlockServing _ => world.lock.writerOwner = token thread
  | .unlockStore _ => world.lock.writerOwner = token thread
  | .unlockClear _ => world.lock.writerOwner = 0 ∧ ∃ ticket, (thread, ticket) ∈ world.writers
  | _ => True

structure Exact (token : I → Nat) (world : World I) : Prop where
  word : world.lock.state = pack world.readers.length world.waiting.length world.writers.length
  one : world.writers.length ≤ 1
  apart : world.writers ≠ [] → world.readers = []
  readersDistinct : world.readers.Nodup
  waitingDistinct : world.waiting.Nodup
  waits : ∀ thread, thread ∈ world.waiting ↔ (world.pc thread).Waiting
  marked : ∀ thread, world.lock.readerOwners.getLsbD (token thread) = true → thread ∈ world.readers
  reading : ∀ thread ∈ world.readers, world.pc thread = .readMark ∨ world.pc thread = .readDrop ∨
    world.lock.readerOwners.getLsbD (token thread) = true ∧ (world.pc thread).MayRead
  writing : ∀ thread ticket, (thread, ticket) ∈ world.writers →
    world.pc thread = .writeStore ticket ∨ (∃ passed, world.pc thread = .unlockClear passed) ∨
      world.lock.writerOwner = token thread ∧ (world.pc thread).MayWrite
  stored : world.lock.writerOwner ≠ 0 →
    ∃ thread ticket, token thread = world.lock.writerOwner ∧ (thread, ticket) ∈ world.writers
  knows : ∀ thread, Knows token world thread (world.pc thread)
  clean : ∀ thread, (thread, .failed .invariant) ∉ world.history

/-- Each thread has its own token among 1 to 31. -/
structure Tokens (token : I → Nat) : Prop where
  distinct : Function.Injective token
  positive : ∀ thread, 1 ≤ token thread
  small : ∀ thread, token thread < 32

section Facts

variable {token : I → Nat} {world : World I} {thread : I} {old : Pc}

theorem Tokens.length_le (tokens : Tokens token) {threads : List I} (distinct : threads.Nodup) :
    threads.length ≤ 31 := by
  have inside : (threads.map token).toFinset ⊆ Finset.Icc 1 31 := by
    intro value member
    obtain ⟨thread, _, rfl⟩ := mem_map.mp (mem_toFinset.mp member)
    have low := tokens.positive thread
    have high := tokens.small thread
    rw [Finset.mem_Icc]
    omega
  have count := Finset.card_le_card inside
  rw [toFinset_card_of_nodup (distinct.map tokens.distinct), length_map, card_Icc] at count
  exact count

theorem exact_new : Exact token World.new where
  word := rfl
  one := zero_le _
  apart := fun _ => rfl
  readersDistinct := nodup_nil
  waitingDistinct := nodup_nil
  waits := by simp [World.new, Pc.Waiting]
  marked := by simp [World.new, Lock.new]
  reading := by simp [World.new]
  writing := by simp [World.new]
  stored := fun owned => absurd rfl owned
  knows := fun _ => trivial
  clean := by simp [World.new]

section

variable (exact : Exact token world)
include exact

theorem Exact.readers_lt (tokens : Tokens token) :
    world.readers.length + 1 < readerValues := by
  have few := tokens.length_le exact.readersDistinct
  unfold readerValues
  omega

theorem Exact.waiting_lt (tokens : Tokens token) :
    world.waiting.length + 1 < waitingValues := by
  have few := tokens.length_le exact.waitingDistinct
  unfold waitingValues
  omega

theorem Exact.fields (tokens : Tokens token) :
    readerField world.lock.state = world.readers.length ∧ waitingField world.lock.state = world.waiting.length ∧
        writerField world.lock.state = world.writers.length := by
  have few := exact.readers_lt tokens
  have queue := exact.waiting_lt tokens
  rw [exact.word]
  exact ⟨readerField_pack (by omega), waitingField_pack (by omega) (by omega),
    writerField_pack (by omega) (by omega) exact.one⟩

/-- There is one writer at most. -/
theorem Exact.only {ticket : Nat}
    (writes : (thread, ticket) ∈ world.writers) : world.writers = [(thread, ticket)] := by
  obtain ⟨permit, single⟩ := length_eq_one_iff.mp
    (le_antisymm exact.one (length_pos_of_mem writes))
  rw [single] at writes ⊢
  rw [mem_singleton.mp writes]

theorem Exact.owner_writes (tokens : Tokens token)
    (owner : world.lock.writerOwner = token thread) : ∃ ticket, (thread, ticket) ∈ world.writers := by
  have named : world.lock.writerOwner ≠ 0 := by
    have := tokens.positive thread
    omega
  obtain ⟨holder, ticket, same, writes⟩ := exact.stored named
  obtain rfl : holder = thread := tokens.distinct (same.trans owner)
  exact ⟨ticket, writes⟩

end

section

variable (tokens : Tokens token) (word : BitVec 32)
include tokens word

/-- Setting one owner's bit leaves the others' bits. -/
theorem Tokens.mark_other {other : I} (apart : other ≠ thread) :
    (word ||| Ticket.bit (token thread)).getLsbD (token other) = word.getLsbD (token other) := by
  have differs : token other ≠ token thread % 32 := by
    rw [mod_eq_of_lt (tokens.small thread)]
    exact fun same => apart (tokens.distinct same)
  simp [getLsbD_bit, differs]

theorem Tokens.clear_other {other : I} (apart : other ≠ thread) :
    (word &&& ~~~Ticket.bit (token thread)).getLsbD (token other) = word.getLsbD (token other) := by
  have differs : token other ≠ token thread % 32 := by
    rw [mod_eq_of_lt (tokens.small thread)]
    exact fun same => apart (tokens.distinct same)
  rw [getLsbD_clear _ _ _ (tokens.small other)]
  simp [differs]

theorem Tokens.clear_self :
    (word &&& ~~~Ticket.bit (token thread)).getLsbD (token thread) = false := by
  rw [getLsbD_clear _ _ _ (tokens.small thread), mod_eq_of_lt (tokens.small thread)]
  simp

theorem Tokens.mark_self :
    (word ||| Ticket.bit (token thread)).getLsbD (token thread) = true := by
  rw [getLsbD_mark, mod_eq_of_lt (tokens.small thread)]
  simp

end

theorem Exact.not_reading (exact : Exact token world) (here : world.pc thread = old)
    (plain : ¬ old.Special) (may : ¬ old.MayRead) : thread ∉ world.readers := by
  intro member
  rcases exact.reading thread member with mark | drop | ⟨_, able⟩
  · rw [here] at mark
    exact plain (mark ▸ trivial)
  · rw [here] at drop
    exact plain (drop ▸ trivial)
  · exact may (here ▸ able)

theorem Exact.not_writing (exact : Exact token world) (here : world.pc thread = old) (plain : ¬ old.Special)
    (may : ¬ old.MayWrite) (ticket : Nat) : (thread, ticket) ∉ world.writers := by
  intro member
  rcases exact.writing thread ticket member with store | ⟨_, clear⟩ | ⟨_, able⟩
  · rw [here] at store
    exact plain (store ▸ trivial)
  · rw [here] at clear
    exact plain (clear ▸ trivial)
  · exact may (here ▸ able)

end Facts

/-- Everything a step of one thread leaves alone. -/
structure Elsewhere [DecidableEq I] (token : I → Nat) (world world' : World I) (thread : I) (pc : Pc) : Prop where
  pcs : world'.pc = Function.update world.pc thread pc
  waiting : ∀ other, other ≠ thread → (other ∈ world'.waiting ↔ other ∈ world.waiting)
  marks : ∀ other, other ≠ thread → world'.lock.readerOwners.getLsbD (token other) =
    world.lock.readerOwners.getLsbD (token other)
  readers : ∀ other, other ≠ thread → (other ∈ world'.readers ↔ other ∈ world.readers)
  writers : ∀ other ticket, other ≠ thread →
    ((other, ticket) ∈ world'.writers ↔ (other, ticket) ∈ world.writers)
  owner : ∀ other ticket, other ≠ thread → (other, ticket) ∈ world.writers →
    world'.lock.writerOwner = world.lock.writerOwner

section Steps

variable [DecidableEq I] {token : I → Nat} {world world' : World I} {thread : I} {pc old : Pc}

theorem Knows.elsewhere (exact : Exact token world) (tokens : Tokens token)
    (rest : Elsewhere token world world' thread pc) {other : I} (apart : other ≠ thread) {at_ : Pc}
    (knows : Knows token world other at_) : Knows token world' other at_ := by
  have owner : world.lock.writerOwner = token other → world'.lock.writerOwner = token other := by
    intro mine
    obtain ⟨ticket, writes⟩ := exact.owner_writes tokens mine
    exact (rest.owner other ticket apart writes).trans mine
  cases at_ with
  | readMark => exact ⟨(rest.readers other apart).mpr knows.1, (rest.marks other apart).trans knows.2⟩
  | readDrop => exact ⟨(rest.readers other apart).mpr knows.1, (rest.marks other apart).trans knows.2⟩
  | writeStore ticket => exact (rest.writers other ticket apart).mpr knows
  | unlockServing ticket => exact owner knows
  | unlockStore ticket => exact owner knows
  | unlockClear ticket =>
    obtain ⟨zero, passed, writes⟩ := knows
    exact ⟨(rest.owner other passed apart writes).trans zero, passed, (rest.writers other passed apart).mpr writes⟩
  | _ => exact knows

/-- A step keeps the invariant when its own thread's part of it holds afterwards. -/
theorem Exact.step (exact : Exact token world) (tokens : Tokens token) (rest : Elsewhere token world world' thread pc)
    (word : world'.lock.state = pack world'.readers.length world'.waiting.length world'.writers.length)
    (one : world'.writers.length ≤ 1) (apart : world'.writers ≠ [] → world'.readers = [])
    (readersDistinct : world'.readers.Nodup) (waitingDistinct : world'.waiting.Nodup)
    (waits : thread ∈ world'.waiting ↔ pc.Waiting)
    (marked : world'.lock.readerOwners.getLsbD (token thread) = true → thread ∈ world'.readers)
    (reading : thread ∈ world'.readers → pc = .readMark ∨ pc = .readDrop ∨
      world'.lock.readerOwners.getLsbD (token thread) = true ∧ pc.MayRead)
    (writing : ∀ ticket, (thread, ticket) ∈ world'.writers →
      pc = .writeStore ticket ∨ (∃ passed, pc = .unlockClear passed) ∨
        world'.lock.writerOwner = token thread ∧ pc.MayWrite) (stored : world'.lock.writerOwner ≠ 0 →
      ∃ thread ticket, token thread = world'.lock.writerOwner ∧ (thread, ticket) ∈ world'.writers)
    (knows : Knows token world' thread pc) (clean : ∀ thread, (thread, .failed .invariant) ∉ world'.history)
    : Exact token world' := by
  have here : world'.pc thread = pc := by
    rw [rest.pcs, Function.update_self]
  have there : ∀ other, other ≠ thread → world'.pc other = world.pc other := by
    intro other elsewhere
    rw [rest.pcs, Function.update_of_ne elsewhere]
  refine ⟨word, one, apart, readersDistinct, waitingDistinct, ?_, ?_, ?_, ?_, stored, ?_, clean⟩
  · intro other
    by_cases same : other = thread
    · subst same
      rw [here]
      exact waits
    · rw [there other same, rest.waiting other same]
      exact exact.waits other
  · intro other set
    by_cases same : other = thread
    · subst same
      exact marked set
    · rw [rest.marks other same] at set
      exact (rest.readers other same).mpr (exact.marked other set)
  · intro other member
    by_cases same : other = thread
    · subst same
      rw [here]
      exact reading member
    · rw [there other same, rest.marks other same]
      exact exact.reading other ((rest.readers other same).mp member)
  · intro other ticket member
    by_cases same : other = thread
    · subst same
      rw [here]
      exact writing ticket member
    · have before := (rest.writers other ticket same).mp member
      rw [there other same, rest.owner other ticket same before]
      exact exact.writing other ticket before
  · intro other
    by_cases same : other = thread
    · subst same
      rw [here]
      exact knows
    · rw [there other same]
      exact (exact.knows other).elsewhere exact tokens rest same

/-- The words the counts live in are as they were. -/
structure SameWords (lock lock' : Lock) : Prop where
  state : lock'.state = lock.state
  readerOwners : lock'.readerOwners = lock.readerOwners
  writerOwner : lock'.writerOwner = lock.writerOwner

theorem sameWords_refl (lock : Lock) : SameWords lock lock := ⟨rfl, rfl, rfl⟩

/-- The parts of the world the counts speak about, after a step that changes none of them. -/
structure SameCounts (world world' : World I) (thread : I) (pc : Pc) : Prop where
  words : SameWords world.lock world'.lock
  pcs : world'.pc = Function.update world.pc thread pc
  readers : world'.readers = world.readers
  waiting : world'.waiting = world.waiting
  writers : world'.writers = world.writers

/-- A load, a failed compare-exchange, or a word the counts do not speak about. -/
theorem Exact.quiet (exact : Exact token world) (tokens : Tokens token) (same : SameCounts world world' thread pc)
    (here : world.pc thread = old) (plain : ¬ old.Special) (waits : pc.Waiting ↔ old.Waiting)
    (reads : world.lock.readerOwners.getLsbD (token thread) = true → old.MayRead → pc.MayRead)
    (writes : world.lock.writerOwner = token thread → old.MayWrite → pc.MayWrite) (knows : Knows token world thread pc)
    (clean : ∀ thread, (thread, .failed .invariant) ∉ world'.history) : Exact token world' := by
  have rest : Elsewhere token world world' thread pc := by
    refine ⟨same.pcs, ?_, ?_, ?_, ?_, fun _ _ _ _ => same.words.writerOwner⟩
    · exact fun _ _ => by rw [same.waiting]
    · exact fun _ _ => by rw [same.words.readerOwners]
    · exact fun _ _ => by rw [same.readers]
    · exact fun _ _ _ => by rw [same.writers]
  have knows' : Knows token world' thread pc := by
    cases pc <;> simp only [Knows] at knows ⊢ <;>
      first
        | exact knows
        | simpa only [same.readers, same.writers, same.words.readerOwners, same.words.writerOwner] using knows
  refine exact.step tokens rest ?_ ?_ ?_ ?_ ?_ ?_ ?_ ?_ ?_ ?_ knows' clean
  · rw [same.words.state, same.readers, same.waiting, same.writers]
    exact exact.word
  · exact same.writers ▸ exact.one
  · rw [same.writers, same.readers]
    exact exact.apart
  · exact same.readers ▸ exact.readersDistinct
  · exact same.waiting ▸ exact.waitingDistinct
  · rw [same.waiting, exact.waits, here]
    exact waits.symm
  · rw [same.words.readerOwners, same.readers]
    exact exact.marked thread
  · rw [same.words.readerOwners, same.readers]
    intro member
    rcases exact.reading thread member with mark | drop | ⟨set, able⟩
    · rw [here] at mark
      exact absurd (mark ▸ trivial) plain
    · rw [here] at drop
      exact absurd (drop ▸ trivial) plain
    · rw [here] at able
      exact .inr (.inr ⟨set, reads set able⟩)
  · rw [same.words.writerOwner, same.writers]
    intro ticket member
    rcases exact.writing thread ticket member with store | ⟨passed, clear⟩ | ⟨owner, able⟩
    · rw [here] at store
      exact absurd (store ▸ trivial) plain
    · rw [here] at clear
      exact absurd (clear ▸ trivial) plain
    · rw [here] at able
      exact .inr (.inr ⟨owner, writes owner able⟩)
  · rw [same.words.writerOwner, same.writers]
    exact exact.stored

theorem history_land (outcome : Outcome) : (land world thread outcome).history =
      world.history ++ outcome.result.toList.map (fun result => (thread, result)) := by
  unfold land record
  cases outcome.note <;> rfl

theorem Exact.clean_land (exact : Exact token world) {outcome : Outcome}
    (fine : outcome.result ≠ some (.failed .invariant)) (other : I) :
    (other, .failed .invariant) ∉ (land world thread outcome).history := by
  rw [history_land, mem_append]
  rintro (old | new)
  · exact exact.clean other old
  · obtain ⟨result, member, same⟩ := mem_map.mp new
    rw [Option.mem_toList] at member
    cases same
    exact fine member

theorem Exact.goto (exact : Exact token world) (tokens : Tokens token) {lock' : Lock}
    (same : SameWords world.lock lock') (here : world.pc thread = old)
    (plain : ¬ old.Special) (waits : pc.Waiting ↔ old.Waiting)
    (reads : world.lock.readerOwners.getLsbD (token thread) = true → old.MayRead → pc.MayRead)
    (writes : world.lock.writerOwner = token thread → old.MayWrite → pc.MayWrite)
    (knows : Knows token world thread pc) :
    Exact token (land world thread (ReaderWriter.goto lock' pc)) :=
  exact.quiet tokens ⟨same, rfl, rfl, rfl, rfl⟩ here plain waits reads writes knows
    (exact.clean_land nofun)

theorem Exact.finish (exact : Exact token world) (tokens : Tokens token) {lock' : Lock} {result : Result}
    (same : SameWords world.lock lock') (here : world.pc thread = old) (plain : ¬ old.Special) (waits : ¬ old.Waiting)
    (fine : result ≠ .failed .invariant) : Exact token (land world thread (ReaderWriter.finish lock' result)) := by
  refine exact.quiet tokens ⟨same, rfl, rfl, rfl, rfl⟩ here plain ⟨False.elim, waits⟩
    (fun _ _ => trivial) (fun _ _ => trivial) trivial (exact.clean_land ?_)
  exact fun equal => fine (Option.some.inj equal)

variable {patience : Patience}

section

variable (exact : Exact token world) (tokens : Tokens token)
include exact tokens

/-- A reader is counted. -/
theorem Exact.readTake
    (here : world.pc thread = .readTake patience world.lock.state) : Exact token (land world thread
      ⟨{ world.lock with state := world.lock.state + 1 }, .readMark, .readTaken, none⟩) := by
  have fresh := exact.not_reading here id id
  have low : world.lock.state < readerValues - 1 := by
    have knows := exact.knows thread
    rw [here] at knows
    exact knows
  have word := exact.word
  have nobody : world.writers = [] := by
    rw [← length_eq_zero_iff]
    unfold pack readerValues waitingWriterOne writerBit at *
    omega
  have unmarked : world.lock.readerOwners.getLsbD (token thread) = false := by
    rw [← Bool.not_eq_true]
    exact fun set => fresh (exact.marked thread set)
  have mine : thread ∈ world.readers ++ [thread] :=
    mem_append_right _ (mem_singleton_self _)
  have rest : Elsewhere token world (land world thread
      ⟨{ world.lock with state := world.lock.state + 1 }, .readMark, .readTaken, none⟩) thread
        .readMark := by
    refine ⟨rfl, fun _ _ => .rfl, fun _ _ => rfl, fun other apart => ?_, fun _ _ _ => .rfl, fun _ _ _ _ => rfl⟩
    simp [land, record, apart]
  refine exact.step tokens rest ?_ exact.one (fun some_ => absurd nobody some_) ?_
    exact.waitingDistinct ?_ (fun _ => mine) (fun _ => .inl rfl) ?_ exact.stored
    ⟨mine, unmarked⟩ (exact.clean_land nofun)
  · change world.lock.state + 1 =
      pack (world.readers ++ [thread]).length world.waiting.length world.writers.length
    rw [word, length_append, length_singleton, pack_reader]
  · exact exact.readersDistinct.append (nodup_singleton _)
      (disjoint_singleton.mpr fresh)
  · exact (exact.waits thread).trans (by rw [here]; exact .rfl)
  · exact fun ticket member => absurd (nobody ▸ member) not_mem_nil

/-- The permit of a counted reader is marked with its owner's bit. -/
theorem Exact.readMark (here : world.pc thread = .readMark) :
    Exact token (land world thread (ReaderWriter.finish
      { world.lock with readerOwners := world.lock.readerOwners ||| Ticket.bit (token thread) }
      .reading)) := by
  have knows := exact.knows thread
  rw [here] at knows
  have nobody : ∀ ticket, (thread, ticket) ∉ world.writers := by
    intro ticket member
    have empty := exact.apart (ne_nil_of_mem member)
    exact not_mem_nil (empty ▸ knows.1)
  refine exact.step tokens ⟨rfl, fun _ _ => .rfl, ?_, fun _ _ => .rfl, fun _ _ _ => .rfl,
    fun _ _ _ _ => rfl⟩ exact.word exact.one exact.apart exact.readersDistinct
    exact.waitingDistinct ?_ (fun _ => knows.1) (fun _ => .inr (.inr ⟨?_, trivial⟩)) ?_ exact.stored
    trivial (exact.clean_land (by nofun))
  · exact fun other apart => tokens.mark_other _ apart
  · exact (exact.waits thread).trans (by rw [here]; exact .rfl)
  · exact tokens.mark_self _
  · exact fun ticket member => absurd member (nobody ticket)

/-- The owner's bit of a read permit that is given back is cleared first. -/
theorem Exact.readUnmark (here : world.pc thread = .readUnmark)
    (set : world.lock.readerOwners.getLsbD (token thread) = true) : Exact token (land world thread (ReaderWriter.goto
      { world.lock with readerOwners := world.lock.readerOwners &&& ~~~Ticket.bit (token thread) }
      .readDrop)) := by
  have reads := exact.marked thread set
  have nobody : ∀ ticket, (thread, ticket) ∉ world.writers := by
    intro ticket member
    have empty := exact.apart (ne_nil_of_mem member)
    exact not_mem_nil (empty ▸ reads)
  refine exact.step tokens ⟨rfl, fun _ _ => .rfl, ?_, fun _ _ => .rfl, fun _ _ _ => .rfl,
    fun _ _ _ _ => rfl⟩ exact.word exact.one exact.apart exact.readersDistinct
    exact.waitingDistinct ?_ (fun _ => reads) (fun _ => .inr (.inl rfl)) ?_ exact.stored
    ⟨reads, tokens.clear_self _⟩ (exact.clean_land nofun)
  · exact fun other apart => tokens.clear_other _ apart
  · exact (exact.waits thread).trans (by rw [here]; exact .rfl)
  · exact fun ticket member => absurd member (nobody ticket)

/-- The word and the result of counting a reader off. -/
theorem Exact.readDrop_word (reads : thread ∈ world.readers) :
    readReleased world.lock.state = .readUnlocked ∧ wrappingSub world.lock.state 1 =
      pack (world.readers.erase thread).length world.waiting.length world.writers.length := by
  have nobody : world.writers = [] := by
    by_contra some_
    exact not_mem_nil (exact.apart some_ ▸ reads)
  have count : world.readers.length = (world.readers.erase thread).length + 1 :=
    (length_erase_add_one reads).symm
  have few := exact.readers_lt tokens
  have queue := exact.waiting_lt tokens
  refine ⟨?_, ?_⟩
  · obtain ⟨readField, _, writeField⟩ := exact.fields tokens
    unfold readReleased
    rw [readField, writeField, nobody, if_neg]
    simp [ne_nil_of_mem reads]
  · rw [exact.word, count]
    rw [count] at few
    exact pack_drop (lt_of_succ_lt few) (lt_of_succ_lt queue) exact.one

end

variable {state : Nat}

/-- A reader is counted off. -/
theorem Exact.readDrop (exact : Exact token world) (tokens : Tokens token)
    (here : world.pc thread = .readDrop) (lowered : state =
      pack (world.readers.erase thread).length world.waiting.length world.writers.length) :
    Exact token (land world thread ⟨{ world.lock with state }, .idle, .readDropped, some .readUnlocked⟩) := by
  have knows := exact.knows thread
  rw [here] at knows
  have nobody : world.writers = [] := by
    by_contra some_
    exact not_mem_nil (exact.apart some_ ▸ knows.1)
  have rest : Elsewhere token world (land world thread
      ⟨{ world.lock with state }, .idle, .readDropped, some .readUnlocked⟩) thread .idle := by
    refine ⟨rfl, fun _ _ => .rfl, fun _ _ => rfl, fun other apart => ?_, fun _ _ _ => .rfl, fun _ _ _ _ => rfl⟩
    exact mem_erase_of_ne apart
  have gone : thread ∉ world.readers.erase thread := exact.readersDistinct.not_mem_erase
  refine exact.step tokens rest lowered exact.one (fun some_ => absurd nobody some_)
    (exact.readersDistinct.erase thread) exact.waitingDistinct ?_ (fun set => ?_)
    (absurd · gone) ?_ exact.stored trivial
    (exact.clean_land (by nofun))
  · exact (exact.waits thread).trans (by rw [here]; exact .rfl)
  · have clear : world.lock.readerOwners.getLsbD (token thread) = false := knows.2
    have set : world.lock.readerOwners.getLsbD (token thread) = true := set
    rw [clear] at set
    cases set
  · exact fun ticket member => absurd (nobody ▸ member) not_mem_nil

variable {ticket : Nat}

/-- A writer is counted as waiting. -/
theorem Exact.addTake (exact : Exact token world) (tokens : Tokens token)
    (here : world.pc thread = .addTake patience ticket world.lock.state) : Exact token (land world thread
      ⟨{ world.lock with state := world.lock.state + waitingWriterOne }, writeWait patience ticket,
        .waits, none⟩) := by
  have fresh : thread ∉ world.waiting := by
    rw [exact.waits, here]
    exact id
  have raised : world.lock.state + waitingWriterOne =
      pack world.readers.length (world.waiting ++ [thread]).length world.writers.length := by
    rw [exact.word, length_append, length_singleton, pack_wait]
  generalize world.lock.state + waitingWriterOne = state at raised ⊢
  have mine : thread ∈ world.waiting ++ [thread] :=
    mem_append_right _ (mem_singleton_self _)
  have begun : (writeWait patience ticket).Waiting ∧ Knows token (land world thread
      ⟨{ world.lock with state }, writeWait patience ticket, .waits, none⟩) thread
        (writeWait patience ticket) := by
    cases patience <;> exact ⟨trivial, trivial⟩
  have rest : Elsewhere token world (land world thread
      ⟨{ world.lock with state }, writeWait patience ticket, .waits, none⟩) thread
        (writeWait patience ticket) := by
    refine ⟨rfl, fun other apart => ?_, fun _ _ => rfl, fun _ _ => .rfl, fun _ _ _ => .rfl, fun _ _ _ _ => rfl⟩
    simp [land, record, apart]
  refine exact.step tokens rest raised exact.one exact.apart exact.readersDistinct ?_
    ⟨fun _ => begun.1, fun _ => mine⟩ (exact.marked thread) ?_ ?_ exact.stored begun.2
    (exact.clean_land nofun)
  · exact exact.waitingDistinct.append (nodup_singleton _) (disjoint_singleton.mpr fresh)
  · exact fun member => absurd member (exact.not_reading here id id)
  · exact fun number member => absurd member (exact.not_writing here id id number)

omit [DecidableEq I] in
theorem waiting_of (here : world.pc thread = old) (waits : old.Waiting) : (world.pc thread).Waiting := here ▸ waits

/-- The waiting list after a writer has left it. -/
theorem Exact.unwait (exact : Exact token world) (waits : (world.pc thread).Waiting) :
    world.waiting.length = (world.waiting.erase thread).length + 1 ∧ thread ∉ world.waiting.erase thread :=
  ⟨(length_erase_add_one ((exact.waits thread).mpr waits)).symm, exact.waitingDistinct.not_mem_erase⟩

/-- The word of a waiting writer that is no longer counted. -/
theorem Exact.unwait_word (exact : Exact token world) (tokens : Tokens token)
    (waits : (world.pc thread).Waiting) : wrappingSub world.lock.state waitingWriterOne =
      pack world.readers.length (world.waiting.erase thread).length world.writers.length := by
  have few := exact.readers_lt tokens
  have queue := exact.waiting_lt tokens
  have count := (exact.unwait waits).1
  rw [count] at queue
  rw [exact.word, count]
  exact pack_unwait (lt_of_succ_lt few) (lt_of_succ_lt queue) exact.one

/-- The word of a waiting writer that has taken the writer bit. -/
theorem Exact.writeTake_word (exact : Exact token world) (tokens : Tokens token) (waits : (world.pc thread).Waiting)
    (nobody : world.writers = []) (lowered : state =
      pack world.readers.length (world.waiting.erase thread).length world.writers.length) : withWriter state = pack
    world.readers.length (world.waiting.erase thread).length 1 := by
  have few := exact.readers_lt tokens
  have queue := exact.waiting_lt tokens
  rw [(exact.unwait waits).1] at queue
  rw [lowered, nobody]
  exact pack_take (lt_of_succ_lt few) (lt_of_succ_lt (lt_of_succ_lt queue))

section

variable (exact : Exact token world) (tokens : Tokens token)
include exact tokens

omit [DecidableEq I] in
theorem Exact.writeTake_alone
    (here : world.pc thread = .writeTake patience ticket world.lock.state) :
    world.writers = [] ∧ world.readers = [] := by
  have knows := exact.knows thread
  rw [here] at knows
  obtain ⟨reads, _, writes⟩ := exact.fields tokens
  exact ⟨length_eq_zero_iff.mp (writes.symm.trans knows.1),
    length_eq_zero_iff.mp (reads.symm.trans knows.2.1)⟩

/-- A waiting writer takes the writer bit of a word without readers and writers. -/
theorem Exact.writeTake
    (here : world.pc thread = .writeTake patience ticket world.lock.state) (taken : state =
      pack world.readers.length (world.waiting.erase thread).length 1) : Exact token (land world thread
      ⟨{ world.lock with state }, .writeStore ticket, .writeTaken ticket, none⟩) := by
  obtain ⟨nobody, unread⟩ := exact.writeTake_alone tokens here
  obtain ⟨count, gone⟩ := exact.unwait (waiting_of here trivial)
  have rest : Elsewhere token world (land world thread
      ⟨{ world.lock with state }, .writeStore ticket, .writeTaken ticket, none⟩) thread
        (.writeStore ticket) := by
    refine ⟨rfl, fun other apart => mem_erase_of_ne apart, fun _ _ => rfl, fun _ _ => .rfl,
      fun other number apart => ?_, fun _ _ _ _ => rfl⟩
    simp [land, record, apart]
  have mine : (thread, ticket) ∈ world.writers ++ [(thread, ticket)] :=
    mem_append_right _ (mem_singleton_self _)
  have single : (world.writers ++ [(thread, ticket)]).length = 1 := by
    rw [nobody, nil_append, length_singleton]
  refine exact.step tokens rest ?_ (le_of_eq single) (fun _ => unread) exact.readersDistinct
    (exact.waitingDistinct.erase thread) ⟨fun member => absurd member gone, False.elim⟩
    (exact.marked thread) ?_ ?_ ?_ mine (exact.clean_land nofun)
  · change state = pack world.readers.length (world.waiting.erase thread).length
      (world.writers ++ [(thread, ticket)]).length
    rw [single]
    exact taken
  · exact fun member => absurd member (exact.not_reading here id id)
  · intro number member
    have member : (thread, number) ∈ world.writers ++ [(thread, ticket)] := member
    rw [nobody, nil_append, mem_singleton] at member
    cases member
    exact .inl rfl
  · intro owned
    obtain ⟨other, number, _, writes⟩ := exact.stored owned
    exact absurd (nobody ▸ writes) not_mem_nil

/-- A waiting writer gives up and is counted off. -/
theorem Exact.removeTake {ending : Ending}
    (here : world.pc thread = .removeTake ending ticket world.lock.state) (lowered : state =
      pack world.readers.length (world.waiting.erase thread).length world.writers.length) :
    Exact token (land world thread ⟨{ world.lock with state }, .cancelMark ending ticket, .waitsNoMore, none⟩) := by
  have knows := exact.knows thread
  rw [here] at knows
  obtain ⟨count, gone⟩ := exact.unwait (waiting_of here trivial)
  have rest : Elsewhere token world (land world thread
      ⟨{ world.lock with state }, .cancelMark ending ticket, .waitsNoMore, none⟩) thread
        (.cancelMark ending ticket) :=
    ⟨rfl, fun _ apart => mem_erase_of_ne apart, fun _ _ => rfl, fun _ _ => .rfl,
      fun _ _ _ => .rfl, fun _ _ _ _ => rfl⟩
  refine exact.step tokens rest lowered exact.one exact.apart exact.readersDistinct
    (exact.waitingDistinct.erase thread) ⟨fun member => absurd member gone, False.elim⟩
    (exact.marked thread) ?_ ?_ exact.stored knows.1 (exact.clean_land nofun)
  · exact fun member => absurd member (exact.not_reading here id id)
  · exact fun number member => absurd member (exact.not_writing here id id number)

/-- The owner word is written by the thread that has the writer bit. -/
theorem Exact.writeStore
    (here : world.pc thread = .writeStore ticket) : Exact token (land world thread (ReaderWriter.finish
      { world.lock with writerOwner := token thread } (.writing ticket))) := by
  have writes := exact.knows thread
  rw [here] at writes
  have only := exact.only writes
  have unread := exact.apart (ne_nil_of_mem writes)
  refine exact.step tokens ⟨rfl, fun _ _ => .rfl, fun _ _ => rfl, fun _ _ => .rfl,
    fun _ _ _ => .rfl, ?_⟩ exact.word exact.one exact.apart exact.readersDistinct
    exact.waitingDistinct ?_ (exact.marked thread) ?_ (fun _ _ => .inr (.inr ⟨rfl, trivial⟩))
    (fun _ => ⟨thread, ticket, rfl, writes⟩) trivial (exact.clean_land (by nofun))
  · intro other number apart member
    rw [only, mem_singleton] at member
    exact absurd (congrArg Prod.fst member) apart
  · exact (exact.waits thread).trans (by rw [here]; exact .rfl)
  · exact fun member => absurd (unread ▸ member) not_mem_nil

/-- The owner word is cleared before the writer bit. -/
theorem Exact.unlockStore
    (here : world.pc thread = .unlockStore ticket) : Exact token (land world thread (ReaderWriter.goto
      { world.lock with writerOwner := 0 } (.unlockClear ticket))) := by
  have owner : world.lock.writerOwner = token thread := by
    have knows := exact.knows thread
    rw [here] at knows
    exact knows
  obtain ⟨held, writes⟩ := exact.owner_writes tokens owner
  have only := exact.only writes
  have unread := exact.apart (ne_nil_of_mem writes)
  refine exact.step tokens ⟨rfl, fun _ _ => .rfl, fun _ _ => rfl, fun _ _ => .rfl,
    fun _ _ _ => .rfl, ?_⟩ exact.word exact.one exact.apart exact.readersDistinct
    exact.waitingDistinct ?_ (exact.marked thread) ?_ (fun _ _ => .inr (.inl ⟨ticket, rfl⟩))
    (fun owned => absurd rfl owned) ⟨rfl, held, writes⟩ (exact.clean_land nofun)
  · intro other number apart member
    rw [only, mem_singleton] at member
    exact absurd (congrArg Prod.fst member) apart
  · exact (exact.waits thread).trans (by rw [here]; exact .rfl)
  · exact fun member => absurd (unread ▸ member) not_mem_nil

end

omit [DecidableEq I] in
/-- The word and the outcome of clearing the writer bit. -/
theorem Exact.unlockClear_word (exact : Exact token world) (tokens : Tokens token) {held : Nat}
    (writes : (thread, held) ∈ world.writers) (lock : Lock) (ticket : Nat) :
    writeReleased lock ticket world.lock.state = ⟨lock, .unlockBump ticket, .writeDropped, none⟩ ∧
      world.lock.state % writerBit = pack world.readers.length world.waiting.length 0 := by
  have only := exact.only writes
  have unread := exact.apart (ne_nil_of_mem writes)
  have few := exact.readers_lt tokens
  have queue := exact.waiting_lt tokens
  refine ⟨?_, ?_⟩
  · obtain ⟨readField, _, writeField⟩ := exact.fields tokens
    unfold writeReleased
    rw [readField, writeField, only, unread, if_neg]
    simp
  · rw [exact.word]
    exact pack_free (lt_of_succ_lt few) (lt_of_succ_lt queue)

/-- The writer bit is cleared by the thread that had it. -/
theorem Exact.unlockClear (exact : Exact token world) (tokens : Tokens token)
    (here : world.pc thread = .unlockClear ticket)
    (cleared : state = pack world.readers.length world.waiting.length 0) :
    Exact token (land world thread
      ⟨{ world.lock with state }, .unlockBump ticket, .writeDropped, none⟩) := by
  have knows := exact.knows thread
  rw [here] at knows
  obtain ⟨zero, held, writes⟩ := knows
  have unread := exact.apart (ne_nil_of_mem writes)
  have emptied : world.writers.filter (fun permit => permit.1 ≠ thread) = [] := by
    rw [exact.only writes]
    simp
  have rest : Elsewhere token world (land world thread
      ⟨{ world.lock with state }, .unlockBump ticket, .writeDropped, none⟩) thread
        (.unlockBump ticket) := by
    refine ⟨rfl, fun _ _ => .rfl, fun _ _ => rfl, fun _ _ => .rfl, fun other number apart => ?_,
      fun _ _ _ _ => rfl⟩
    simp [land, record, apart]
  refine exact.step tokens rest ?_ ?_ (fun _ => unread) exact.readersDistinct
    exact.waitingDistinct ?_ (exact.marked thread) ?_ ?_ (fun owned => absurd zero owned) trivial
    (exact.clean_land nofun)
  · change state = pack world.readers.length world.waiting.length
      (world.writers.filter (fun permit => permit.1 ≠ thread)).length
    rw [emptied]
    exact cleared
  · change (world.writers.filter (fun permit => permit.1 ≠ thread)).length ≤ 1
    rw [emptied]
    exact zero_le _
  · exact (exact.waits thread).trans (by rw [here]; exact .rfl)
  · exact fun member => absurd (unread ▸ member) not_mem_nil
  · intro number member
    have member : (thread, number) ∈ world.writers.filter (fun permit => permit.1 ≠ thread) := member
    rw [emptied] at member
    exact nomatch member

end Steps

end PooleOS.Locks.ReaderWriter
