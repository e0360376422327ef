import PooleOS.Locks.SequenceOwner
import PooleOS.Locks.TicketRuns

/- What a read of the sequence lock returns, over every interleaving. -/
namespace PooleOS.Locks.Sequence

open List Nat Option
open Function (update update_eq_self update_of_ne update_self)
open Ticket (Pc access)

variable {I J : Type} [DecidableEq I] {token : I → Nat}

/-- What one access of a writer does. Only its own program counter changes. -/
inductive WriterStep (world : World I J) (thread : I) : World I J → Prop
  | called (lock : Ticket.World I) (value : Nat) (here : world.writer thread = .idle) :
      WriterStep world thread (gotoWriter { world with lock := lock } thread (.locking value))
  | unnamed (here : world.writer thread = .idle) :
      WriterStep world thread (finishWriter world thread (.failed .ownerToken))
  | inner (lock : Ticket.World I) : WriterStep world thread { world with lock := lock }
  | locked (lock : Ticket.World I) (value ticket : Nat) (here : world.writer thread = .locking value) :
      WriterStep world thread (gotoWriter { world with lock := lock } thread (.loadBefore value ticket))
  | unlocked (lock : Ticket.World I) (value : Nat) (reason : Error) (other : reason ≠ .sequence)
      (here : world.writer thread = .locking value) :
      WriterStep world thread (finishWriter { world with lock := lock } thread (.failed reason))
  | looked (value ticket : Nat) (here : world.writer thread = .loadBefore value ticket)
      (even : world.sequence % 2 = 0) :
      WriterStep world thread (gotoWriter world thread (.exchange value ticket world.sequence))
  | opened (value ticket : Nat) (here : world.writer thread = .exchange value ticket world.sequence) :
      WriterStep world thread
        (gotoWriter { world with sequence := world.sequence + 1 } thread (.store value ticket world.sequence))
  | stored (value ticket before : Nat) (here : world.writer thread = .store value ticket before) :
      WriterStep world thread (gotoWriter { world with value := value } thread (.bump value ticket before))
  | closed (lock : Ticket.World I) (value ticket before : Nat) (here : world.writer thread = .bump value ticket before) :
      WriterStep world thread (gotoWriter { world with
        lock := lock
        sequence := (world.sequence + 1) % u64Values
        published := world.published ++ [(thread, value, (world.sequence + 1) % u64Values)] } thread
        (.unlocking value before world.sequence))
  | stuck (lock : Ticket.World I) (value before odd ticket : Nat)
      (here : world.writer thread = .unlocking value before odd)
      (held : held (world.writer thread) (world.lock.pc thread) = some ticket)
      (stale : world.lock.lock.serving ≠ ticket) :
      WriterStep world thread (finishWriter { world with lock := lock } thread (.failed .notOwner))
  | returned (lock : Ticket.World I) (value before odd : Nat)
      (here : world.writer thread = .unlocking value before odd) :
      WriterStep world thread (finishWriter { world with lock := lock } thread (answer value before odd))

section Steps

variable {world : World I J} {thread : I} {spurious : Bool}

theorem land_pc (lock : Ticket.World I) (outcome : Ticket.Outcome) :
    (Ticket.land lock thread outcome).pc = update lock.pc thread outcome.pc := by
  unfold Ticket.land Ticket.record
  split <;> rfl

theorem land_lock (lock : Ticket.World I) (outcome : Ticket.Outcome) :
    (Ticket.land lock thread outcome).lock = outcome.lock := by
  unfold Ticket.land Ticket.record
  split <;> rfl

theorem land_quiet {lock : Ticket.World I} {outcome : Ticket.Outcome} (quiet : Quiet outcome.note) :
    (Ticket.land lock thread outcome).outstanding = lock.outstanding := by
  unfold Ticket.land Ticket.record
  split <;> rename_i note <;> rw [note] at quiet
  all_goals first | rfl | exact quiet.elim

theorem returned_quiet {note : Ticket.Note} (quiet : Quiet note) : returned note = none := by
  cases note <;> first | rfl | exact quiet.elim

theorem land_permits (lock : Ticket.World I) (outcome : Ticket.Outcome) {other : I} (apart : other ≠ thread) {ticket : Nat}
    (permit : (other, ticket) ∈ lock.outstanding) :
    (other, ticket) ∈ (Ticket.land lock thread outcome).outstanding := by
  unfold Ticket.land Ticket.record
  split
  · exact permit
  · exact permit
  · exact permit
  · exact mem_append_left _ permit
  · exact permit
  · refine (mem_erase_of_ne (fun same => apart ?_)).mpr permit
    exact congrArg Prod.fst same

variable {after : World I J} {pc : WriterPc}

/-- A step outside the ticket lock. -/
theorem moves_plain (owned : Owned token world) (busy : world.writer thread ≠ .idle) (lock : after.lock = world.lock)
    (writer : after.writer = update world.writer thread pc) (fits : Fits pc (world.lock.pc thread))
    (kept : ∀ ticket, held pc (world.lock.pc thread) = some ticket →
      held (world.writer thread) (world.lock.pc thread) = some ticket) : Moves token world after thread := by
  refine ⟨fun other apart => ?_, fun _ _ => by rw [lock], ?_, fun _ => owned.named thread busy, .inl (by rw [lock]),
    fun _ _ _ permit => by rwa [lock], fun ticket holds => ?_, .inl lock⟩
  · rw [writer, update_of_ne apart]
  · rw [writer, lock, update_self]
    exact fits
  · rw [writer, lock, update_self] at holds
    rw [lock]
    exact owned.holder thread ticket (kept ticket holds)

/-- A step inside the ticket lock. -/
theorem moves_inner (spurious : Bool) (pc : WriterPc) (owned : Owned token world) (busy : world.writer thread ≠ .idle)
    (lock : after.lock = Ticket.land world.lock thread
      (access (token thread) spurious world.lock.lock (world.lock.pc thread)))
    (writer : after.writer = update world.writer thread pc)
    (fits : Fits pc (access (token thread) spurious world.lock.lock (world.lock.pc thread)).pc)
    (holder : ∀ ticket, held pc (access (token thread) spurious world.lock.lock (world.lock.pc thread)).pc = some ticket →
      after.lock.lock.owner = token thread ∧ (thread, ticket) ∈ after.lock.outstanding) :
    Moves token world after thread := by
  refine ⟨fun other apart => ?_, fun other apart => ?_, ?_, fun _ => owned.named thread busy, ?_,
    fun other apart ticket permit => ?_, fun ticket holds => ?_, .inr ⟨.step thread spurious, lock⟩⟩
  · rw [writer, update_of_ne apart]
  · rw [lock, land_pc, update_of_ne apart]
  · rw [writer, lock, land_pc, update_self, update_self]
    exact fits
  · rw [lock, land_lock]
    rcases @access_owner (token thread) spurious world.lock.lock (world.lock.pc thread) with same | free | mine
    · exact .inl same
    · exact .inr (.inl free.1)
    · exact .inr (.inr mine.1)
  · rw [lock]
    exact land_permits _ _ apart permit
  · rw [writer, lock, land_pc, update_self, update_self] at holds
    exact holder ticket holds

/-- A call of the ticket lock. -/
theorem moves_call (call : Ticket.Call) (owned : Owned token world) (named : token thread ≠ 0)
    (idle : world.lock.pc thread = .idle) (lock : after.lock = Ticket.step token world.lock (.call thread call))
    (writer : after.writer = update world.writer thread pc) (fits : Fits pc call.entry)
    (kept : ∀ ticket, held pc call.entry = some ticket →
      held (world.writer thread) (world.lock.pc thread) = some ticket) : Moves token world after thread := by
  have entered : Ticket.step token world.lock (.call thread call) =
      Ticket.land world.lock thread (Ticket.goto world.lock.lock call.entry) := by
    unfold Ticket.step
    simp only [idle, if_neg named]
  have path : after.lock = world.lock ∨ ∃ move, after.lock = Ticket.step token world.lock move :=
    .inr ⟨_, lock⟩
  rw [entered] at lock
  have quiet := @land_quiet I _ thread world.lock (Ticket.goto world.lock.lock call.entry) trivial
  refine ⟨fun other apart => ?_, fun other apart => ?_, ?_, fun _ => named, .inl ?_,
    fun _ _ _ permit => ?_, fun ticket holds => ?_, path⟩
  · rw [writer, update_of_ne apart]
  · rw [lock, land_pc, update_of_ne apart]
  · rw [writer, lock, land_pc, update_self, update_self]
    exact fits
  · rw [lock, land_lock]
    rfl
  · rw [lock, quiet]
    exact permit
  · rw [writer, lock, land_pc, update_self, update_self] at holds
    rw [lock, land_lock, quiet]
    exact owned.holder thread ticket (kept ticket holds)

/-- What a writer has read still holds, so that it does not give up. -/
def Steady (world : World I J) : WriterPc → Prop
  | .loadBefore _ _ => world.sequence % 2 = 0
  | .exchange _ _ before => world.sequence = before
  | .refusing => False
  | _ => True

theorem update_same (here : world.writer thread = pc) : world.writer = update world.writer thread pc := by
  rw [← here, update_eq_self]

theorem stepWriter_cases (owned : Owned token world) (steady : Steady world (world.writer thread)) :
    Moves token world (stepWriter token world thread spurious) thread ∧
      WriterStep world thread (stepWriter token world thread spurious) := by
  have fits := owned.fits thread
  have holder := owned.holder thread
  cases here : world.writer thread with
  | idle =>
    have still : stepWriter token world thread spurious = world := by
      unfold stepWriter
      rw [here]
    rw [still]
    exact ⟨⟨fun _ _ => rfl, fun _ _ => rfl, fits, owned.named thread, .inl rfl, fun _ _ _ permit => permit,
      holder, .inl rfl⟩, .inner world.lock⟩
  | locking value =>
    have busy : world.writer thread ≠ .idle := fun rest => nomatch here.symm.trans rest
    rw [here] at fits holder
    unfold stepWriter
    simp only [here, stepLock]
    rcases @access_acquires (token thread) spurious world.lock.lock (world.lock.pc thread) fits with
      ⟨acquiring, outside, owner, note⟩ | ⟨ticket, acquiring, holds, owner, note⟩ |
      ⟨ticket, inner, idle, owner, note⟩ | ⟨reason, other, idle, owner, note⟩
    · rw [returned_quiet note]
      refine ⟨moves_inner spurious (.locking value) owned busy rfl (update_same here)
        acquiring (fun ticket holds => ?_), .inner _⟩
      exact absurd (outside.symm.trans holds) nofun
    · rw [note]
      refine ⟨moves_inner spurious (.locking value) owned busy rfl (update_same here)
        acquiring (fun other granted => ?_), .inner _⟩
      obtain rfl := some.inj (holds.symm.trans granted)
      refine ⟨(congrArg Ticket.Lock.owner (land_lock _ _)).trans owner, ?_⟩
      unfold Ticket.land Ticket.record
      rw [note]
      exact mem_append_right _ (mem_singleton.mpr rfl)
    · rw [note]
      refine ⟨moves_inner spurious (.loadBefore value ticket) owned busy rfl rfl
        idle (fun other holds => ?_), .locked _ value ticket here⟩
      obtain rfl := some.inj holds
      obtain ⟨mine, permit⟩ := holder ticket inner
      refine ⟨(congrArg Ticket.Lock.owner (land_lock _ _)).trans (owner.trans mine), ?_⟩
      unfold Ticket.land Ticket.record
      rw [note]
      exact permit
    · rw [note]
      exact ⟨moves_inner spurious .idle owned busy rfl rfl idle
        (fun other holds => nomatch holds), .unlocked _ value reason other here⟩
  | loadBefore value ticket =>
    have busy : world.writer thread ≠ .idle := fun rest => nomatch here.symm.trans rest
    rw [here] at fits steady
    have even : world.sequence % 2 = 0 := steady
    unfold stepWriter
    simp only [here, if_neg (not_not.mpr even)]
    exact ⟨moves_plain owned busy rfl rfl fits
      (fun other holds => by rw [here]; exact holds), .looked value ticket here even⟩
  | exchange value ticket before =>
    have busy : world.writer thread ≠ .idle := fun rest => nomatch here.symm.trans rest
    rw [here] at fits steady
    obtain rfl : world.sequence = before := steady
    unfold stepWriter
    simp only [here, if_true]
    exact ⟨moves_plain owned busy rfl rfl fits
      (fun other holds => by rw [here]; exact holds), .opened value ticket here⟩
  | store value ticket before =>
    have busy : world.writer thread ≠ .idle := fun rest => nomatch here.symm.trans rest
    rw [here] at fits
    unfold stepWriter
    simp only [here]
    exact ⟨moves_plain owned busy rfl rfl fits
      (fun other holds => by rw [here]; exact holds), .stored value ticket before here⟩
  | bump value ticket before =>
    have busy : world.writer thread ≠ .idle := fun rest => nomatch here.symm.trans rest
    rw [here] at fits
    unfold stepWriter
    simp only [here]
    exact ⟨moves_call (.unlock ticket) owned (owned.named thread busy) fits rfl rfl
      trivial (fun other holds => by rw [here]; exact holds), .closed _ value ticket before here⟩
  | unlocking value before odd =>
    have busy : world.writer thread ≠ .idle := fun rest => nomatch here.symm.trans rest
    rw [here] at fits holder
    unfold stepWriter
    simp only [here, stepLock]
    rcases @access_releases (token thread) spurious world.lock.lock (world.lock.pc thread) fits with
      ⟨releasing, same, owner, note⟩ | ⟨ticket, releasing, outside, owner, note⟩ | ⟨idle, owner, note⟩ |
      ⟨ticket, inner, stale, idle, owner, note⟩
    · rw [returned_quiet note]
      refine ⟨moves_inner spurious (.unlocking value before odd) owned busy rfl
        (update_same here) releasing (fun ticket holds => ?_), .inner _⟩
      obtain ⟨mine, permit⟩ := holder ticket (same.symm.trans holds)
      refine ⟨(congrArg Ticket.Lock.owner (land_lock _ _)).trans (owner.trans mine), ?_⟩
      rw [land_quiet note]
      exact permit
    · rw [note]
      refine ⟨moves_inner spurious (.unlocking value before odd) owned busy rfl
        (update_same here) releasing (fun other holds => ?_), .inner _⟩
      exact absurd (outside.symm.trans holds) nofun
    · rw [note]
      exact ⟨moves_inner spurious .idle owned busy rfl rfl idle
        (fun other holds => nomatch holds), .returned _ value before odd here⟩
    · rw [note]
      refine ⟨moves_inner spurious .idle owned busy rfl rfl idle
        (fun other holds => nomatch holds), .stuck _ value before odd ticket here ?_ (stale (holder ticket inner).1)⟩
      rw [here]
      exact inner
  | refusing =>
    rw [here] at steady
    exact steady.elim

theorem startWriter_cases (owned : Owned token world) (here : world.writer thread = .idle) (call : WriterCall) :
    Moves token world (startWriter token world thread call) thread ∧
      WriterStep world thread (startWriter token world thread call) := by
  have unnamed : Moves token world (finishWriter world thread (.failed .ownerToken)) thread := by
    refine ⟨fun other apart => update_of_ne apart _ _, fun _ _ => rfl, ?_, fun busy => ?_, .inl rfl,
      fun _ _ _ permit => permit, fun ticket holds => ?_, .inl rfl⟩
    · change Fits (update world.writer thread .idle thread) _
      rw [update_self]
      exact owned.idle here
    · exact absurd (update_self ..) busy
    · change held (update world.writer thread .idle thread) _ = _ at holds
      rw [update_self] at holds
      exact nomatch holds
  cases call with
  | write value =>
    rw [startWriter]
    split
    · exact ⟨unnamed, .unnamed here⟩
    · rename_i named
      exact ⟨moves_call _ owned named (owned.idle here) rfl rfl trivial nofun, .called _ value here⟩
  | writeBounded value attempts =>
    rw [startWriter]
    split
    · exact ⟨unnamed, .unnamed here⟩
    · rename_i named
      exact ⟨moves_call _ owned named (owned.idle here) rfl rfl trivial nofun, .called _ value here⟩

end Steps

section Invariant

/-- The value after so many writes. -/
def valueAt (initial : Nat) (published : List (I × Nat × Nat)) (count : Nat) : Option Nat :=
  (initial :: published.map (fun entry => entry.2.1))[count]?

/-- The sequence is odd because of this writer. -/
def Writing : WriterPc → Prop
  | .store _ _ _ => True
  | .bump _ _ _ => True
  | _ => False

/-- What a writer knows. -/
def Writes (world : World I J) (thread : I) : WriterPc → Prop
  | .exchange _ _ before => world.sequence = before
  | .store _ _ before => world.sequence = before + 1
  | .bump value _ before => world.sequence = before + 1 ∧ world.value = value
  | .unlocking value before odd => odd = before + 1 ∧ odd + 1 < u64Values ∧
      (thread, value, odd + 1) ∈ world.published ∧ ∀ other written, (other, .wrote written (odd + 1)) ∉ world.writes
  | .refusing => False
  | _ => True

/-- What a reader knows. -/
def Reads (initial : Nat) (world : World I J) : ReaderPc → Prop
  | .loadValue _ _ before => before % 2 = 0 ∧ before ≤ world.sequence
  | .loadAfter _ _ before value => before % 2 = 0 ∧ before ≤ world.sequence ∧
      (before = world.sequence → valueAt initial world.published (before / 2) = some value)
  | _ => True

/-- The sequence that a write returned. -/
def Write.sequence : Write → Option Nat
  | .wrote _ sequence => some sequence
  | _ => none

structure Sound (token : I → Nat) (initial : Nat) (world : World I J) : Prop where
  owned : Owned token world
  numbered : ∀ (index : Nat) (entry : I × Nat × Nat), world.published[index]? = some entry →
    entry.2.2 = 2 * (index + 1)
  even : (∀ thread, ¬ Writing (world.writer thread)) → world.sequence = 2 * world.published.length ∧
    valueAt initial world.published world.published.length = some world.value
  odd : ∀ thread, Writing (world.writer thread) → world.sequence = 2 * world.published.length + 1
  writers : ∀ thread, Writes world thread (world.writer thread)
  readers : ∀ thread, Reads initial world (world.reader thread)
  wrote : ∀ thread value sequence, (thread, .wrote value sequence) ∈ world.writes →
    (thread, value, sequence) ∈ world.published
  once : (world.writes.filterMap (fun entry => entry.2.sequence)).Nodup
  clean : ∀ thread, (thread, .failed .sequence) ∉ world.writes ∧ (thread, .panicked) ∉ world.writes
  read : ∀ thread value sequence retries, (thread, .read value sequence retries) ∈ world.reads →
    sequence % 2 = 0 ∧ valueAt initial world.published (sequence / 2) = some value

variable {initial : Nat} {world after : World I J} {thread : I}

omit [DecidableEq I] in
theorem sound_new : Sound token initial (World.new initial : World I J) where
  owned := owned_new initial
  numbered _ _ found := nomatch found
  even _ := ⟨rfl, rfl⟩
  odd _ writing := writing.elim
  writers _ := trivial
  readers _ := trivial
  wrote _ _ _ member := nomatch member
  once := nodup_nil
  clean _ := ⟨not_mem_nil, not_mem_nil⟩
  read _ _ _ _ member := nomatch member

omit [DecidableEq I] in
theorem valueAt_append {published : List (I × Nat × Nat)} (more : List (I × Nat × Nat)) {count value : Nat}
    (found : valueAt initial published count = some value) :
    valueAt initial (published ++ more) count = some value := by
  unfold valueAt at *
  obtain ⟨less, _⟩ := List.getElem?_eq_some_iff.mp found
  rw [map_append, ← cons_append, getElem?_append_left less]
  exact found

omit [DecidableEq I] in
/-- What a reader knows survives every step of a writer. -/
theorem Reads.stable {pc : ReaderPc} (reads : Reads initial world pc) (grows : world.sequence ≤ after.sequence)
    (more : ∀ count value, valueAt initial world.published count = some value →
      valueAt initial after.published count = some value) : Reads initial after pc := by
  cases pc with
  | loadValue attempts retries before => exact ⟨reads.1, reads.2.trans grows⟩
  | loadAfter attempts retries before value =>
    obtain ⟨even, low, known⟩ := reads
    refine ⟨even, low.trans grows, fun same => more _ _ (known ?_)⟩
    omega
  | _ => trivial

omit [DecidableEq I] in
/-- Each sequence was reached by one write. -/
theorem Sound.publisher (sound : Sound token initial world) {first second : I} {value other sequence : Nat}
    (one : (first, value, sequence) ∈ world.published) (two : (second, other, sequence) ∈ world.published) :
    first = second ∧ value = other := by
  obtain ⟨early, found⟩ := mem_iff_getElem?.mp one
  obtain ⟨late, also⟩ := mem_iff_getElem?.mp two
  have count : sequence = 2 * (early + 1) := sound.numbered early _ found
  have again : sequence = 2 * (late + 1) := sound.numbered late _ also
  obtain rfl : early = late := by omega
  have same := some.inj (found.symm.trans also)
  exact ⟨congrArg Prod.fst same, congrArg (fun entry => entry.2.1) same⟩

omit [DecidableEq I] in
/-- While a writer has the permit and the sequence is not odd because of it, it is even. -/
theorem Sound.quiet (sound : Sound token initial world) (distinct : Function.Injective token) {ticket : Nat}
    (holds : held (world.writer thread) (world.lock.pc thread) = some ticket)
    (plain : ¬ Writing (world.writer thread)) : ∀ other, ¬ Writing (world.writer other) := by
  intro other writing
  have also : ∃ second, held (world.writer other) (world.lock.pc other) = some second := by
    cases here : world.writer other with
    | store value ticket before => exact ⟨ticket, rfl⟩
    | bump value ticket before => exact ⟨ticket, rfl⟩
    | _ =>
      rw [here] at writing
      exact writing.elim
  obtain ⟨second, also⟩ := also
  exact plain (sound.owned.unique distinct holds also ▸ writing)

omit [DecidableEq I] in
theorem Sound.steady (sound : Sound token initial world) (distinct : Function.Injective token) (thread : I) :
    Steady world (world.writer thread) := by
  have writes := sound.writers thread
  cases here : world.writer thread with
  | loadBefore value ticket =>
    have quiet := @sound.quiet _ _ _ _ _ thread distinct ticket (by rw [here]; rfl) (by rw [here]; exact id)
    have even := (sound.even quiet).1
    change world.sequence % 2 = 0
    omega
  | exchange value ticket before =>
    rw [here] at writes
    exact writes
  | refusing =>
    rw [here] at writes
    exact writes.elim
  | _ => trivial

omit [DecidableEq I] in
/-- A result is recorded. -/
theorem Sound.log (sound : Sound token initial world) {result : Write} (fine : result ≠ .failed .sequence)
    (alive : result ≠ .panicked) (wrote : ∀ value sequence, result = .wrote value sequence →
      (thread, value, sequence) ∈ world.published ∧ (∀ other written, (other, .wrote written sequence) ∉ world.writes) ∧
      ∀ other written before odd, world.writer other = .unlocking written before odd → odd + 1 ≠ sequence) : Sound token
    initial { world with writes := world.writes ++ [(thread, result)] } := by
  refine ⟨⟨sound.owned.fits, sound.owned.named, sound.owned.holder⟩, sound.numbered, sound.even, sound.odd,
    fun other => ?_, sound.readers, ?_, ?_, ?_, sound.read⟩
  · have writes := sound.writers other
    cases here : world.writer other with
    | unlocking value before odd =>
      rw [here] at writes
      obtain ⟨same, small, member, fresh⟩ := writes
      refine ⟨same, small, member, fun one written recorded => ?_⟩
      rcases mem_append.mp recorded with old | new
      · exact fresh one written old
      · obtain ⟨_, rfl⟩ := Prod.mk.inj (mem_singleton.mp new)
        exact (wrote written (odd + 1) rfl).2.2 other value before odd here rfl
    | _ =>
      rw [here] at writes
      exact writes
  · intro other value sequence recorded
    rcases mem_append.mp recorded with old | new
    · exact sound.wrote other value sequence old
    · obtain ⟨rfl, rfl⟩ := Prod.mk.inj (mem_singleton.mp new)
      exact (wrote value sequence rfl).1
  · rw [filterMap_append]
    cases result with
    | wrote value sequence =>
      refine nodup_append'.mpr ⟨sound.once, nodup_singleton _, ?_⟩
      rintro number listed last
      obtain rfl := mem_singleton.mp last
      obtain ⟨⟨other, written⟩, member, same⟩ := mem_filterMap.mp listed
      cases written with
      | wrote one two =>
        obtain rfl := some.inj same
        exact (wrote value _ rfl).2.1 other one member
      | _ => exact nomatch same
    | _ => simpa only [filterMap_cons, filterMap_nil, append_nil, Write.sequence] using sound.once
  · intro other
    constructor
    · intro recorded
      rcases mem_append.mp recorded with old | new
      · exact (sound.clean other).1 old
      · exact fine (congrArg Prod.snd (mem_singleton.mp new)).symm
    · intro recorded
      rcases mem_append.mp recorded with old | new
      · exact (sound.clean other).2 old
      · exact alive (congrArg Prod.snd (mem_singleton.mp new)).symm

/-- Two worlds with the same words and the same writes. -/
structure SameData (world after : World I J) : Prop where
  sequence : after.sequence = world.sequence
  value : after.value = world.value
  published : after.published = world.published
  writes : after.writes = world.writes

omit [DecidableEq I] in
theorem Writes.same {pc : WriterPc} (writes : Writes world thread pc) (same : SameData world after) :
    Writes after thread pc := by
  cases pc with
  | exchange value ticket before => exact same.sequence.trans writes
  | store value ticket before => exact same.sequence.trans writes
  | bump value ticket before => exact ⟨same.sequence.trans writes.1, same.value.trans writes.2⟩
  | unlocking value before odd =>
    obtain ⟨next, small, member, fresh⟩ := writes
    refine ⟨next, small, ?_, ?_⟩
    · rw [same.published]
      exact member
    · rw [same.writes]
      exact fresh
  | refusing => exact writes
  | _ => trivial

/-- A step of a writer that changes neither the words nor the records. -/
theorem Sound.still {old pc : WriterPc} (sound : Sound token initial world) (distinct : Function.Injective token)
    (moves : Moves token world after thread) (same : SameData world after) (reader : after.reader = world.reader)
    (reads : after.reads = world.reads) (here : world.writer thread = old) (next : after.writer thread = pc)
    (plain : ¬ Writing old) (rest : ¬ Writing pc) (mine : Writes after thread pc) : Sound token initial after := by
  subst here next
  have quiet : ∀ other, Writing (after.writer other) ↔ Writing (world.writer other) := by
    intro other
    by_cases self : other = thread
    · subst self
      exact ⟨fun writing => absurd writing rest, fun writing => absurd writing plain⟩
    · rw [moves.writer other self]
  refine ⟨sound.owned.moved distinct moves, ?_, ?_, ?_, fun other => ?_, fun other => ?_, ?_, ?_, ?_, ?_⟩
  · rw [same.published]
    exact sound.numbered
  · rw [same.sequence, same.published, same.value]
    exact fun none => sound.even (fun other writing => none other ((quiet other).mpr writing))
  · rw [same.sequence, same.published]
    exact fun other writing => sound.odd other ((quiet other).mp writing)
  · by_cases self : other = thread
    · exact self ▸ mine
    · have writes := sound.writers other
      rw [moves.writer other self]
      exact writes.same same
  · rw [reader]
    refine (sound.readers other).stable (le_of_eq same.sequence.symm) ?_
    rw [same.published]
    exact fun _ _ found => found
  · rw [same.writes, same.published]
    exact sound.wrote
  · rw [same.writes]
    exact sound.once
  · rw [same.writes]
    exact sound.clean
  · rw [reads, same.published]
    exact sound.read

/-- A writer that returns is back at rest. -/
theorem Sound.back {result : Write} {lock : Ticket.World I} {pc : WriterPc} (sound : Sound token initial world)
    (distinct : Function.Injective token)
    (moves : Moves token world (finishWriter { world with lock := lock } thread result) thread)
    (here : world.writer thread = pc) (plain : ¬ Writing pc) :
    Sound token initial (gotoWriter { world with lock := lock } thread .idle) :=
  sound.still distinct ⟨moves.writer, moves.inner, moves.fits, moves.named, moves.owner, moves.permits, moves.holder,
    moves.path⟩ ⟨rfl, rfl, rfl, rfl⟩ rfl rfl here (update_self ..) plain id trivial

omit [DecidableEq I] in
/-- What a writer without the permit knows depends on the records only. -/
theorem Writes.apart {pc : WriterPc} {inner : Pc} (writes : Writes world thread pc) (free : held pc inner = none)
    (published : ∀ entry ∈ world.published, entry ∈ after.published) (same : after.writes = world.writes) :
    Writes after thread pc := by
  cases pc with
  | exchange value ticket before => exact nomatch free
  | store value ticket before => exact nomatch free
  | bump value ticket before => exact nomatch free
  | unlocking value before odd =>
    obtain ⟨next, small, member, fresh⟩ := writes
    refine ⟨next, small, published _ member, ?_⟩
    rw [same]
    exact fresh
  | refusing => exact writes
  | _ => trivial

/-- The step of a writer with the permit, to a new program counter. -/
structure Holding (world after : World I J) (thread : I) (ticket : Nat) (pc : WriterPc) : Prop where
  holds : held (world.writer thread) (world.lock.pc thread) = some ticket
  writer : after.writer = update world.writer thread pc
  reader : after.reader = world.reader
  writes : after.writes = world.writes
  reads : after.reads = world.reads
  grows : world.sequence ≤ after.sequence
  published : ∃ more, after.published = world.published ++ more

/-- A step with the permit keeps what the others know. -/
theorem Sound.holding {ticket : Nat} {pc : WriterPc} (sound : Sound token initial world)
    (distinct : Function.Injective token) (moves : Moves token world after thread)
    (holding : Holding world after thread ticket pc) (mine : Writes after thread pc)
    (numbered : ∀ (index : Nat) (entry : I × Nat × Nat), after.published[index]? = some entry →
      entry.2.2 = 2 * (index + 1)) (odd : Writing pc → after.sequence = 2 * after.published.length + 1)
    (even : ¬ Writing pc → after.sequence = 2 * after.published.length ∧
      valueAt initial after.published after.published.length = some after.value) : Sound token initial after := by
  obtain ⟨holds, writer, reader, writes, reads, grows, more, published⟩ := holding
  have kept : ∀ entry ∈ world.published, entry ∈ after.published := by
    rw [published]
    exact fun entry member => mem_append_left _ member
  have stays : ∀ count value, valueAt initial world.published count = some value →
      valueAt initial after.published count = some value := by
    rw [published]
    exact fun count value found => valueAt_append more found
  have free : ∀ other, other ≠ thread → held (world.writer other) (world.lock.pc other) = none := by
    intro other apart
    cases also : held (world.writer other) (world.lock.pc other) with
    | none => rfl
    | some second => exact absurd (sound.owned.unique distinct also holds) apart
  have plain : ∀ other, other ≠ thread → ¬ Writing (world.writer other) := by
    intro other apart writing
    have none := free other apart
    cases here : world.writer other with
    | store value ticket before =>
      rw [here] at none
      exact nomatch none
    | bump value ticket before =>
      rw [here] at none
      exact nomatch none
    | _ =>
      rw [here] at writing
      exact writing.elim
  refine ⟨sound.owned.moved distinct moves, numbered, fun none => ?_, fun other writing => ?_, fun other => ?_,
    fun other => ?_, ?_, ?_, ?_, ?_⟩
  · refine even (fun writing => none thread ?_)
    rw [writer, update_self]
    exact writing
  · by_cases self : other = thread
    · rw [self, writer, update_self] at writing
      exact odd writing
    · rw [writer, update_of_ne self] at writing
      exact absurd writing (plain other self)
  · by_cases self : other = thread
    · rw [self, writer, update_self]
      exact mine
    · rw [writer, update_of_ne self]
      exact (sound.writers other).apart (free other self) kept writes
  · rw [reader]
    exact (sound.readers other).stable grows stays
  · rw [writes]
    exact fun other value sequence member => kept _ (sound.wrote other value sequence member)
  · rw [writes]
    exact sound.once
  · rw [writes]
    exact sound.clean
  · rw [reads]
    exact fun other value sequence retries member =>
      ⟨(sound.read other value sequence retries member).1, stays _ _ (sound.read other value sequence retries member).2⟩

/-- A step of a writer keeps the invariant. -/
theorem writerStep_sound (sound : Sound token initial world) (distinct : Function.Injective token)
    (moves : Moves token world after thread) (step : WriterStep world thread after)
    (small : 2 * after.published.length < u64Values) : Sound token initial after := by
  have writes := sound.writers thread
  cases step with
  | called lock value here =>
    exact sound.still distinct moves ⟨rfl, rfl, rfl, rfl⟩ rfl rfl here (update_self ..) id id trivial
  | unnamed here =>
    have back := sound.back distinct moves here id
    exact back.log (by decide) (by decide) nofun
  | inner lock =>
    by_cases writing : Writing (world.writer thread)
    · have busy : ∃ ticket, held (world.writer thread) (world.lock.pc thread) = some ticket := by
        cases here : world.writer thread with
        | store value ticket before => exact ⟨ticket, rfl⟩
        | bump value ticket before => exact ⟨ticket, rfl⟩
        | _ =>
          rw [here] at writing
          exact writing.elim
      obtain ⟨ticket, holds⟩ := busy
      exact sound.holding distinct moves ⟨holds, (update_eq_self ..).symm, rfl, rfl, rfl, le_rfl, [],
        (append_nil _).symm⟩ writes sound.numbered
        (fun _ => sound.odd thread writing) (fun plain => absurd writing plain)
    · exact sound.still distinct moves ⟨rfl, rfl, rfl, rfl⟩ rfl rfl rfl rfl writing writing writes
  | locked lock value ticket here =>
    exact sound.still distinct moves ⟨rfl, rfl, rfl, rfl⟩ rfl rfl here (update_self ..) id id trivial
  | unlocked lock value reason other here =>
    have back := sound.back distinct moves here id
    exact back.log (fun same => other (Write.failed.inj same)) nofun nofun
  | looked value ticket here even =>
    exact sound.still distinct moves ⟨rfl, rfl, rfl, rfl⟩ rfl rfl here (update_self ..) id id rfl
  | opened value ticket here =>
    have holds : held (world.writer thread) (world.lock.pc thread) = some ticket := by
      rw [here]
      rfl
    have even := (sound.even (sound.quiet distinct holds (by rw [here]; exact id))).1
    exact sound.holding distinct moves ⟨holds, rfl, rfl, rfl, rfl, le_succ _, [], (append_nil _).symm⟩
      rfl sound.numbered (fun _ => congrArg succ even) (fun plain => absurd trivial plain)
  | stored value ticket before here =>
    have holds : held (world.writer thread) (world.lock.pc thread) = some ticket := by
      rw [here]
      rfl
    rw [here] at writes
    exact sound.holding distinct moves ⟨holds, rfl, rfl, rfl, rfl, le_rfl, [], (append_nil _).symm⟩
      ⟨writes, rfl⟩ sound.numbered (fun _ => sound.odd thread (by rw [here]; trivial))
      (fun plain => absurd trivial plain)
  | closed lock value ticket before here =>
    have holds : held (world.writer thread) (world.lock.pc thread) = some ticket := by
      rw [here]
      rfl
    have odd := sound.odd thread (by rw [here]; trivial)
    rw [here] at writes
    obtain ⟨next, known⟩ := writes
    have count : (world.published ++ [(thread, value, (world.sequence + 1) % u64Values)]).length =
        world.published.length + 1 := by
      rw [length_append, length_singleton]
    have fits : 2 * (world.published.length + 1) < u64Values := count ▸ small
    have same : (world.sequence + 1) % u64Values = 2 * (world.published.length + 1) := by
      rw [odd, mod_eq_of_lt (by omega)]
      omega
    refine sound.holding distinct moves ⟨holds, rfl, rfl, rfl, rfl, ?_, _, rfl⟩ ⟨next, ?_, ?_, ?_⟩ ?_ nofun
      (fun _ => ⟨?_, ?_⟩)
    · change world.sequence ≤ (world.sequence + 1) % u64Values
      omega
    · omega
    · have up : world.sequence + 1 = (world.sequence + 1) % u64Values := by omega
      rw [← up]
      exact mem_append_right _ (mem_singleton.mpr rfl)
    · intro other written recorded
      obtain ⟨index, found⟩ := mem_iff_getElem?.mp (sound.wrote other written _ recorded)
      obtain ⟨less, _⟩ := List.getElem?_eq_some_iff.mp found
      have number : world.sequence + 1 = 2 * (index + 1) := sound.numbered index _ found
      omega
    · intro index entry found
      change (world.published ++ _)[index]? = some entry at found
      by_cases old : index < world.published.length
      · rw [getElem?_append_left old] at found
        exact sound.numbered index entry found
      · obtain ⟨less, _⟩ := List.getElem?_eq_some_iff.mp found
        obtain rfl : index = world.published.length := by omega
        rw [getElem?_append_right le_rfl, Nat.sub_self] at found
        obtain rfl := some.inj found
        exact same
    · exact same.trans (congrArg (2 * ·) count.symm)
    · change valueAt initial (world.published ++ _) (world.published ++ _).length = some world.value
      rw [count, known]
      unfold valueAt
      simp
  | stuck lock value before odd ticket here held stale =>
    have back := sound.back distinct moves here id
    exact back.log (by decide) (by decide) nofun
  | returned lock value before odd here =>
    have back := sound.back distinct moves here id
    rw [here] at writes
    obtain ⟨next, fits, member, fresh⟩ := writes
    have told : answer value before odd = .wrote value (odd + 1) := by
      unfold answer
      rw [if_neg (not_not.mpr next), if_pos fits]
    rw [told]
    refine back.log nofun nofun (fun one two same => ?_)
    obtain ⟨rfl, rfl⟩ := Write.wrote.inj same
    refine ⟨member, fresh, fun other written early late unlocking clash => ?_⟩
    by_cases self : other = thread
    · subst self
      change update world.writer other .idle other = _ at unlocking
      rw [update_self] at unlocking
      exact nomatch unlocking
    · change update world.writer thread .idle other = _ at unlocking
      rw [update_of_ne self] at unlocking
      have theirs := sound.writers other
      rw [unlocking] at theirs
      have also := theirs.2.2.1
      rw [clash] at also
      exact self (sound.publisher also member).1

end Invariant

section Readers

variable [DecidableEq J] {initial : Nat} {world : World I J} {thread : J}

omit [DecidableEq I] [DecidableEq J] in
/-- Readers write to their own records only. -/
theorem Sound.reading (sound : Sound token initial world) {reader : J → ReaderPc} {reads : List (J × Read)}
    {readRetries : Nat} (now : ∀ other, Reads initial world (reader other))
    (fine : ∀ other value sequence retries, (other, .read value sequence retries) ∈ reads →
      sequence % 2 = 0 ∧ valueAt initial world.published (sequence / 2) = some value) :
    Sound token initial { world with reader, reads, readRetries } :=
  ⟨⟨sound.owned.fits, sound.owned.named, sound.owned.holder⟩, sound.numbered, sound.even, sound.odd,
    sound.writers, now, sound.wrote, sound.once, sound.clean, fine⟩

omit [DecidableEq I] in
theorem Sound.gotoReader (sound : Sound token initial world) {pc : ReaderPc} (reads : Reads initial world pc) :
    Sound token initial (gotoReader world thread pc) := by
  refine sound.reading (fun other => ?_) sound.read
  by_cases self : other = thread
  · rw [self, update_self]
    exact reads
  · rw [update_of_ne self]
    exact sound.readers other

omit [DecidableEq I] in
theorem Sound.finishReader (sound : Sound token initial world) {result : Read}
    (fine : ∀ value sequence retries, result = .read value sequence retries →
      sequence % 2 = 0 ∧ valueAt initial world.published (sequence / 2) = some value) :
    Sound token initial (finishReader world thread result) := by
  have back : Sound token initial (Sequence.gotoReader world thread .idle) := sound.gotoReader trivial
  refine back.reading back.readers fun other value sequence retries member => ?_
  rcases mem_append.mp member with old | new
  · exact back.read other value sequence retries old
  · exact fine value sequence retries (congrArg Prod.snd (mem_singleton.mp new)).symm

omit [DecidableEq I] in
theorem stepReader_sound (sound : Sound token initial world) : Sound token initial (stepReader world thread) := by
  have reads := sound.readers thread
  unfold stepReader
  split
  · exact sound
  · split
    · exact sound.gotoReader trivial
    · rename_i even
      exact sound.gotoReader ⟨not_ne_iff.mp even, le_rfl⟩
  · rename_i attempts retries before here
    rw [here] at reads
    refine sound.gotoReader ⟨reads.1, reads.2, fun same => ?_⟩
    -- an even sequence has no writer between its two steps
    have quiet : ∀ other, ¬ Writing (world.writer other) := by
      intro other writing
      have odd := sound.odd other writing
      have even := reads.1
      omega
    obtain ⟨count, stored⟩ := sound.even quiet
    have half : before / 2 = world.published.length := by omega
    rw [half]
    exact stored
  · rename_i attempts retries before value here
    rw [here] at reads
    split
    · rename_i unchanged
      refine sound.finishReader (fun one two three same => ?_)
      obtain ⟨rfl, rfl, -⟩ := Read.read.inj same
      exact ⟨unchanged.2, unchanged.1 ▸ reads.2.2 unchanged.1⟩
    · exact sound.gotoReader trivial
  · have counted : Sound token initial
        { world with readRetries := Ticket.wrappingSucc world.readRetries } := sound.reading sound.readers sound.read
    unfold readAgain
    split
    · exact counted.gotoReader trivial
    · split
      · exact counted.gotoReader trivial
      · exact counted.finishReader nofun

omit [DecidableEq I] in
theorem startReader_sound (sound : Sound token initial world) (call : ReaderCall) :
    Sound token initial (startReader world thread call) := by
  cases call with
  | read => exact sound.gotoReader trivial
  | readBounded attempts =>
    rw [startReader]
    split
    · exact sound.finishReader nofun
    · exact sound.gotoReader trivial

end Readers

section Runs

variable [DecidableEq J] {initial : Nat} {world : World I J}

/-- What a move of a reader leaves alone, and what a move of a writer does. -/
inductive StepOf (token : I → Nat) (world after : World I J) : Prop
  | reader (lock : after.lock = world.lock) (writer : after.writer = world.writer)
      (published : after.published = world.published) (writes : after.writes = world.writes)
  | writer (thread : I) (moves : Moves token world after thread) (step : WriterStep world thread after)

theorem step_cases (sound : Sound token initial world) (distinct : Function.Injective token) (move : Move I J) :
    StepOf token world (step token world move) ∧
      (2 * (step token world move).published.length < u64Values → Sound token initial (step token world move)) := by
  cases move with
  | callWriter thread call =>
    rw [step]
    split
    · rename_i here
      obtain ⟨moves, done⟩ := startWriter_cases sound.owned here call
      exact ⟨.writer thread moves done, writerStep_sound sound distinct moves done⟩
    · exact ⟨.reader rfl rfl rfl rfl, fun _ => sound⟩
  | callReader thread call =>
    rw [step]
    split
    · refine ⟨?_, fun _ => startReader_sound sound call⟩
      cases call with
      | read => exact .reader rfl rfl rfl rfl
      | readBounded attempts =>
        rw [startReader]
        split <;> exact .reader rfl rfl rfl rfl
    · exact ⟨.reader rfl rfl rfl rfl, fun _ => sound⟩
  | stepWriter thread spurious =>
    obtain ⟨moves, done⟩ := @stepWriter_cases I J _ token world thread spurious sound.owned
      (sound.steady distinct thread)
    exact ⟨.writer thread moves done, writerStep_sound sound distinct moves done⟩
  | stepReader thread =>
    rw [step]
    refine ⟨?_, fun _ => stepReader_sound sound⟩
    unfold stepReader readAgain
    split <;> (try split) <;> (try split) <;> exact .reader rfl rfl rfl rfl

/-- A write that made the sequence even again has returned it, or is giving the ticket lock back. -/
def Delivered (world : World I J) : Prop :=
  ∀ writer value sequence, (writer, value, sequence) ∈ world.published →
    (writer, .wrote value sequence) ∈ world.writes ∨
      ∃ before odd, world.writer writer = .unlocking value before odd ∧ odd + 1 = sequence

omit [DecidableEq J] in
theorem Delivered.keeps {after : World I J} {thread : I} (delivered : Delivered world)
    (moves : Moves token world after thread) (writes : ∀ entry ∈ world.writes, entry ∈ after.writes)
    (mine : ∀ value before odd, world.writer thread = .unlocking value before odd →
      (thread, .wrote value (odd + 1)) ∈ after.writes ∨ after.writer thread = .unlocking value before odd)
    {writer : I} {value sequence : Nat} (member : (writer, value, sequence) ∈ world.published) :
    (writer, .wrote value sequence) ∈ after.writes ∨
      ∃ before odd, after.writer writer = .unlocking value before odd ∧ odd + 1 = sequence := by
  rcases delivered writer value sequence member with told | ⟨before, odd, here, rfl⟩
  · exact .inl (writes _ told)
  · by_cases self : writer = thread
    · subst self
      exact (mine value before odd here).imp_right (fun still => ⟨before, odd, still, rfl⟩)
    · rw [moves.writer writer self]
      exact .inr ⟨before, odd, here, rfl⟩

omit [DecidableEq I] [DecidableEq J] in
/-- While the tickets have not wrapped, the owner serves its own ticket. -/
theorem Sound.served (sound : Sound token initial world) (inner : Ticket.Sound token world.lock) {thread : I}
    {ticket : Nat} (holds : held (world.writer thread) (world.lock.pc thread) = some ticket) :
    world.lock.lock.serving = ticket := by
  have busy : world.writer thread ≠ .idle := by
    intro rest
    rw [rest] at holds
    exact nomatch holds
  obtain ⟨mine, permit⟩ := sound.owned.holder thread ticket holds
  have owned : world.lock.lock.owner ≠ 0 := mine ▸ sound.owned.named thread busy
  obtain ⟨_, _, only, _⟩ := inner.held owned
  rw [only] at permit
  exact (congrArg Prod.snd (mem_singleton.mp permit)).symm

omit [DecidableEq J] in
theorem Delivered.step {after : World I J} (delivered : Delivered world) (sound : Sound token initial world)
    (inner : Ticket.Sound token world.lock) (step : StepOf token world after)
    (small : 2 * after.published.length < u64Values) : Delivered after := by
  cases step with
  | reader lock writer published writes =>
    unfold Delivered
    rw [writer, published, writes]
    exact delivered
  | writer thread moves step =>
    intro one two three member
    cases step with
    | called lock value here =>
      exact delivered.keeps moves (fun _ old => old) (fun _ _ _ also => nomatch here.symm.trans also) member
    | unnamed here =>
      exact delivered.keeps moves (fun _ old => mem_append_left _ old)
        (fun _ _ _ also => nomatch here.symm.trans also) member
    | inner lock => exact delivered.keeps moves (fun _ old => old) (fun _ _ _ here => .inr here) member
    | locked lock value ticket here =>
      exact delivered.keeps moves (fun _ old => old) (fun _ _ _ also => nomatch here.symm.trans also) member
    | unlocked lock value reason other here =>
      exact delivered.keeps moves (fun _ old => mem_append_left _ old)
        (fun _ _ _ also => nomatch here.symm.trans also) member
    | looked value ticket here even =>
      exact delivered.keeps moves (fun _ old => old) (fun _ _ _ also => nomatch here.symm.trans also) member
    | opened value ticket here =>
      exact delivered.keeps moves (fun _ old => old) (fun _ _ _ also => nomatch here.symm.trans also) member
    | stored value ticket before here =>
      exact delivered.keeps moves (fun _ old => old) (fun _ _ _ also => nomatch here.symm.trans also) member
    | closed lock value ticket before here =>
      rcases mem_append.mp member with old | new
      · exact delivered.keeps moves (fun _ old => old) (fun _ _ _ also => nomatch here.symm.trans also) old
      · obtain ⟨rfl, rfl, rfl⟩ : one = thread ∧ two = value ∧ three = (world.sequence + 1) % u64Values := by
          simpa only [Prod.mk.injEq] using mem_singleton.mp new
        refine .inr ⟨before, world.sequence, update_self .., ?_⟩
        have odd := sound.odd one (by rw [here]; trivial)
        have count : (world.published ++ [(one, two, (world.sequence + 1) % u64Values)]).length =
            world.published.length + 1 := by
          rw [length_append, length_singleton]
        have fits : 2 * (world.published.length + 1) < u64Values := count ▸ small
        rw [mod_eq_of_lt (by omega)]
    | stuck lock value before odd ticket here held stale => exact absurd (sound.served inner held) stale
    | returned lock value before odd here =>
      have told : answer value before odd = .wrote value (odd + 1) := by
        have writes := sound.writers thread
        rw [here] at writes
        unfold answer
        rw [if_neg (not_not.mpr writes.1), if_pos writes.2.1]
      refine delivered.keeps moves (fun _ old => mem_append_left _ old) (fun _ _ _ also => .inl ?_) member
      obtain ⟨rfl, rfl, rfl⟩ := WriterPc.unlocking.inj (here.symm.trans also)
      exact mem_append_right _ (mem_singleton.mpr (congrArg _ told.symm))

theorem published_mono (world : World I J) (move : Move I J) :
    world.published.length ≤ (step token world move).published.length := by
  cases move with
  | callWriter thread call =>
    rw [step]
    split
    · cases call <;> rw [startWriter] <;> split <;> exact le_rfl
    · exact le_rfl
  | callReader thread call =>
    rw [step]
    split
    · cases call with
      | read => exact le_rfl
      | readBounded attempts =>
        rw [startReader]
        split <;> exact le_rfl
    · exact le_rfl
  | stepWriter thread spurious =>
    rw [step]
    unfold stepWriter
    simp only [stepLock]
    split
    case h_6 =>
      change world.published.length ≤ (world.published ++ _).length
      rw [length_append]
      exact le_add_right _ _
    all_goals (try split) <;> exact le_rfl
  | stepReader thread =>
    rw [step]
    unfold stepReader readAgain
    split <;> (try split) <;> (try split) <;> exact le_rfl

theorem run_concat (world : World I J) (moves : List (Move I J)) (move : Move I J) :
    run token world (moves ++ [move]) = step token (run token world moves) move := by
  unfold run
  rw [foldl_append]
  rfl

section

variable (distinct : Function.Injective token) (moves : List (Move I J)) (small : 2 * (run token (World.new initial) moves).published.length < u64Values)
include distinct moves small

theorem run_sound :
    Sound token initial (run token (World.new initial) moves) := by
  induction moves using reverseRecOn with
  | nil => exact sound_new
  | append_singleton moves move ih =>
    rw [run_concat] at small ⊢
    have grows := @published_mono I J _ token _ (run token (World.new initial) moves) move
    exact (step_cases (ih (by omega)) distinct move).2 small

/-- The ticket lock of a run is one of its own runs. -/
theorem run_lock :
    ∃ path, (run token (World.new initial) moves).lock = Ticket.run token Ticket.World.new path := by
  induction moves using reverseRecOn with
  | nil => exact ⟨[], rfl⟩
  | append_singleton moves move ih =>
    rw [run_concat] at small ⊢
    have grows := @published_mono I J _ token _ (run token (World.new initial) moves) move
    have less : 2 * (run token (World.new initial) moves).published.length < u64Values := by omega
    obtain ⟨path, same⟩ := ih less
    cases (step_cases (run_sound distinct moves less) distinct move).1 with
    | reader lock _ _ _ => exact ⟨path, lock.trans same⟩
    | writer thread taken _ =>
      rcases taken.path with still | ⟨next, stepped⟩
      · exact ⟨path, still.trans same⟩
      · refine ⟨path ++ [next], stepped.trans ?_⟩
        unfold Ticket.run
        rw [same, foldl_append]
        rfl

theorem run_delivered
    (tickets : (run token (World.new initial) moves).lock.issued < u32Values) :
    Delivered (run token (World.new initial) moves) := by
  induction moves using reverseRecOn with
  | nil => exact fun _ _ _ member => nomatch member
  | append_singleton moves move ih =>
    rw [run_concat] at small tickets ⊢
    have grows := @published_mono I J _ token _ (run token (World.new initial) moves) move
    have less : 2 * (run token (World.new initial) moves).published.length < u64Values := by omega
    have sound := run_sound distinct moves less
    have stepped := (step_cases sound distinct move).1
    have fewer : (run token (World.new initial) moves).lock.issued < u32Values := by
      refine lt_of_le_of_lt ?_ tickets
      cases stepped with
      | reader lock _ _ _ => exact le_of_eq (congrArg Ticket.World.issued lock.symm)
      | writer thread taken _ =>
        rcases taken.path with still | ⟨next, moved⟩
        · exact le_of_eq (congrArg Ticket.World.issued still.symm)
        · rw [moved]
          exact Ticket.issued_mono next
    obtain ⟨path, same⟩ := run_lock distinct moves less
    have inner : Ticket.Sound token (run token (World.new initial) moves).lock := by
      rw [same]
      exact Ticket.run_sound distinct path _ Ticket.sound_new (same ▸ fewer)
    exact (ih less fewer).step sound inner stepped small

end

/-- Reads of the sequence lock are consistent over every interleaving in which the sequence does not
wrap. While the tickets of the writer lock do not wrap either, every write that was read returns. -/
theorem run_consistent (distinct : Function.Injective token) (initial : Nat) (moves : List (Move I J))
    (small : 2 * (run token (World.new initial) moves).published.length < u64Values) :
    let world := run token (World.new initial) moves
    (∀ reader value sequence retries, (reader, .read value sequence retries) ∈ world.reads →
      sequence % 2 = 0 ∧ (sequence = 0 → value = initial) ∧
      (sequence ≠ 0 → ∃ writer, (writer, value, sequence) ∈ world.published) ∧
      ∀ writer written, (writer, .wrote written sequence) ∈ world.writes → written = value) ∧
    (∀ writer value sequence, (writer, .wrote value sequence) ∈ world.writes →
      (writer, value, sequence) ∈ world.published) ∧
    (world.writes.filterMap (fun entry => entry.2.sequence)).Nodup ∧
    (∀ writer, (writer, .failed .sequence) ∉ world.writes) ∧
    (world.lock.issued < u32Values → Delivered world) := by
  intro world
  have sound : Sound token initial world := run_sound distinct moves small
  refine ⟨fun reader value sequence retries member => ?_, sound.wrote, sound.once,
    fun writer => (sound.clean writer).1, run_delivered distinct moves small⟩
  obtain ⟨even, found⟩ := sound.read reader value sequence retries member
  have stored : sequence ≠ 0 → ∃ writer, (writer, value, sequence) ∈ world.published := by
    intro positive
    have half : sequence / 2 = sequence / 2 - 1 + 1 := by omega
    unfold valueAt at found
    rw [half, getElem?_cons_succ, getElem?_map, map_eq_some_iff] at found
    obtain ⟨⟨writer, one, two⟩, listed, rfl⟩ := found
    have number : two = 2 * (sequence / 2 - 1 + 1) := sound.numbered _ _ listed
    obtain rfl : two = sequence := by omega
    exact ⟨writer, mem_of_getElem? listed⟩
  refine ⟨even, fun zero => ?_, stored, fun writer written told => ?_⟩
  · subst zero
    exact (some.inj found).symm
  · have published := sound.wrote writer written sequence told
    have positive : sequence ≠ 0 := by
      obtain ⟨index, listed⟩ := mem_iff_getElem?.mp published
      have number : sequence = 2 * (index + 1) := sound.numbered index _ listed
      omega
    obtain ⟨other, also⟩ := stored positive
    exact (sound.publisher published also).2

/-- One write, and a second one that comes between the loads of a reader. -/
def interrupted : List (Move Bool Unit) :=
  .callWriter true (.write 7) :: List.replicate 17 (.stepWriter true false) ++
    .callReader () .read :: .stepReader () ::
    .callWriter false (.writeBounded 9 3) :: List.replicate 9 (.stepWriter false false) ++
    List.replicate 4 (.stepReader ()) ++ List.replicate 8 (.stepWriter false false) ++ List.replicate 4 (.stepReader ())

theorem run_consistent_interrupted :
    let world := run Ticket.boolToken (World.new 5) interrupted
    (world.reads = [((), .read 9 4 2)] ∧ world.writes = [(true, .wrote 7 2), (false, .wrote 9 4)]) ∧
      (∀ reader value sequence retries, (reader, .read value sequence retries) ∈ world.reads → sequence % 2 = 0) ∧
      (∀ writer, (writer, .failed .sequence) ∉ world.writes) := by
  refine ⟨by decide +kernel, ?_⟩
  have distinct : Function.Injective Ticket.boolToken := by decide
  obtain ⟨reads, _, _, clean, _⟩ := run_consistent distinct 5 interrupted (by decide)
  exact ⟨fun reader value sequence retries member => (reads reader value sequence retries member).1, clean⟩

end Runs

end PooleOS.Locks.Sequence
