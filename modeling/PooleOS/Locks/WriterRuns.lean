import PooleOS.Locks.Permits
import PooleOS.Locks.WriterOrder

/- Releasing a write permit. As long as no `try_write` takes the writer bit ahead
of the ticket being served, the permit that is out is the one being served, so its
release goes through whatever the other threads do. -/
namespace PooleOS.Locks.ReaderWriter

open Nat
open Ticket (wrappingSucc reserve_room and_bit_eq_zero)

variable {I : Type}

section Serving

variable {token : I → Nat} {world : World I} {thread : I}

theorem Exact.no_store (exact : Exact token world) (tokens : Tokens token) (free : world.writers = []) (other : I)
    (ticket : Nat) : world.pc other ≠ .unlockStore ticket ∧ world.pc other ≠ .unlockClear ticket := by
  have knows := exact.knows other
  refine ⟨fun store => ?_, fun release => ?_⟩
  · rw [store] at knows
    obtain ⟨held, writes⟩ := exact.owner_writes tokens knows
    exact List.not_mem_nil (free ▸ writes)
  · rw [release] at knows
    obtain ⟨_, held, writes⟩ := knows
    exact List.not_mem_nil (free ▸ writes)

/-- Nobody has the permit while a thread waits for, or passes on, the ticket being served. -/
theorem InOrder.free_of_wants (inOrder : InOrder world.queue)
    (wants : (world.pc thread).ticket = some world.lock.writerServing) : world.writers = [] := by
  apply List.eq_nil_iff_forall_not_mem.mpr
  rintro ⟨holder, number⟩ writes
  obtain ⟨served, _, _, nobody⟩ := inOrder.held holder number writes
  exact nobody thread (wants.trans (congrArg some served.symm))

theorem InOrder.free_of_gone (inOrder : InOrder world.queue)
    (gone : world.lock.writerServing ∈ world.abandoned) : world.writers = [] := by
  apply List.eq_nil_iff_forall_not_mem.mpr
  rintro ⟨holder, number⟩ writes
  exact inOrder.held_kept writes gone

theorem InOrder.serving_succ (inOrder : InOrder world.queue) (below : world.lock.writerServing < world.lock.writerNext)
    (small : world.issued < u32Values) : wrappingSucc world.lock.writerServing = world.lock.writerServing + 1 := by
  have counted : world.lock.writerNext = world.issued := inOrder.counted
  unfold wrappingSucc
  rw [mod_eq_of_lt]
  omega

end Serving

variable [DecidableEq I] {token : I → Nat} {world : World I} {thread : I} {pc old : Pc}

/-- A `try_write` that takes the writer bit now has the ticket being served. -/
def Pc.inTurn (lock : Lock) : Pc → Bool
  | .writeTake .once ticket state => decide (lock.state = state → lock.writerServing = ticket)
  | _ => true

def InTurn (world : World I) : Move I → Prop
  | .call _ _ => True
  | .step thread _ => (world.pc thread).inTurn world.lock = true

instance (world : World I) : (move : Move I) → Decidable (InTurn world move)
  | .call _ _ => isTrue trivial
  | .step thread _ => inferInstanceAs (Decidable ((world.pc thread).inTurn world.lock = true))

/-- Every move of the run is in turn. -/
def RunsInTurn (token : I → Nat) : World I → List (Move I) → Prop
  | _, [] => True
  | world, move :: rest => InTurn world move ∧ RunsInTurn token (step token world move) rest

instance decidableRunsInTurn (token : I → Nat) :
    (world : World I) → (moves : List (Move I)) → Decidable (RunsInTurn token world moves)
  | _, [] => isTrue trivial
  | world, move :: rest =>
    haveI := decidableRunsInTurn token (step token world move) rest
    inferInstanceAs (Decidable (InTurn world move ∧ RunsInTurn token (step token world move) rest))

/-- A step of the queue: in order afterwards, and the serving counter has not gone back. -/
structure Advances (queue queue' : Queue I) : Prop where
  inOrder : InOrder queue'
  grows : queue.serving ≤ queue'.serving

/-- The notes that leave the tickets alone. -/
def Note.Plain : Note → Prop
  | .quiet => True
  | .readTaken => True
  | .readDropped => True
  | .waits => True
  | .waitsNoMore => True
  | _ => False

/-- The words of the tickets are as they were. -/
structure SameTickets (lock lock' : Lock) : Prop where
  next : lock'.writerNext = lock.writerNext
  serving : lock'.writerServing = lock.writerServing
  cancelled : lock'.cancelledWriters = lock.cancelledWriters

theorem sameTickets_rest (lock : Lock) (state : Nat) (readers : BitVec 32) (writer reads writes timeouts : Nat)
    : SameTickets lock ⟨state, readers, writer, lock.writerNext, lock.writerServing, lock.cancelledWriters, reads,
        writes, timeouts⟩ := ⟨rfl, rfl, rfl⟩

theorem sameTickets_refl (lock : Lock) : SameTickets lock lock := ⟨rfl, rfl, rfl⟩

theorem queue_land (outcome : Outcome) : (land world thread outcome).queue =
    ⟨Function.update world.pc thread outcome.pc, outcome.lock.writerNext,
      outcome.lock.writerServing, outcome.lock.cancelledWriters,
      (record world thread outcome.note).writers, (record world thread outcome.note).abandoned,
      (record world thread outcome.note).issued⟩ := by
  unfold land record
  cases outcome.note <;> rfl

section

variable (inOrder : InOrder world.queue)
include inOrder

theorem InOrder.plain {outcome : Outcome} (same : SameTickets world.lock outcome.lock)
    (plain : outcome.note.Plain) (here : world.pc thread = old) (ticket : outcome.pc.ticket = old.ticket)
    (recalls : Recalls world.queue outcome.pc) : Advances world.queue (land world thread outcome).queue := by
  have kept : (land world thread outcome).queue =
      { world.queue with pc := Function.update world.pc thread outcome.pc } := by
    rw [queue_land, same.next, same.serving, same.cancelled]
    cases note : outcome.note <;> rw [note] at plain <;>
      first
        | rfl
        | exact plain.elim
  rw [kept]
  exact ⟨inOrder.quiet (ticket.trans (congrArg Pc.ticket here.symm)) recalls, le_refl _⟩

/-- `advance_cancelled_writers` returns. -/
theorem InOrder.advanced (here : world.pc thread = old) (ticket : old.ticket = none)
    (ending : Ending) : Advances world.queue (land world thread (ReaderWriter.advanced world.lock ending)).queue := by
  have same := sameTickets_refl world.lock
  cases ending <;> exact inOrder.plain same trivial here ticket.symm trivial

/-- The ticket being served is passed on. -/
theorem InOrder.serve_land (exact : Exact token world) (tokens : Tokens token)
    (small : world.issued < u32Values) (below : world.lock.writerServing < world.lock.writerNext)
    (free : world.writers = [])
    (nobody : ∀ other, other ≠ thread → (world.pc other).ticket ≠ some world.lock.writerServing)
    (clear : world.lock.cancelledWriters.getLsbD (world.lock.writerServing % 32) = false) {ending : Ending}
    (passed : ending.Passed (world.lock.writerServing + 1)) : Advances world.queue (land world thread (ReaderWriter.goto
      { world.lock with writerServing := wrappingSucc world.lock.writerServing }
      (.advanceOwner ending))).queue := by
  rw [inOrder.serving_succ below small, queue_land]
  exact ⟨inOrder.serve below free (exact.no_store tokens free) nobody clear passed, le_succ _⟩

theorem InOrder.access_advanceBump (exact : Exact token world) (tokens : Tokens token)
    (small : world.issued < u32Values) (spurious : Bool) {ending : Ending} {serving : Nat}
    (here : world.pc thread = .advanceBump ending serving) : Advances world.queue (land world thread
      (access (token thread) spurious world.lock (.advanceBump ending serving))).queue := by
  have recalls := inOrder.recalls thread
  change Recalls world.queue (world.pc thread) at recalls
  rw [here] at recalls
  obtain ⟨passed, _, gone⟩ := recalls
  unfold access
  dsimp only
  split
  · rename_i same
    obtain ⟨left, clear⟩ := gone same
    subst same
    refine inOrder.serve_land exact tokens small (inOrder.past _ left) (inOrder.free_of_gone left) ?_
      clear (passed.mono (le_succ _))
    exact fun other _ wants => (inOrder.owned other _ wants).2.2 left
  · exact inOrder.plain (sameTickets_refl _) trivial here rfl passed

theorem InOrder.access_unlockBump (exact : Exact token world) (tokens : Tokens token)
    (small : world.issued < u32Values) (spurious : Bool) {ticket : Nat} (here : world.pc thread = .unlockBump ticket) :
    Advances world.queue (land world thread
      (access (token thread) spurious world.lock (.unlockBump ticket))).queue := by
  have served := inOrder.recalls thread
  change Recalls world.queue (world.pc thread) at served
  rw [here] at served
  change world.lock.writerServing = ticket at served
  have wants : (world.pc thread).ticket = some world.lock.writerServing := by
    rw [here, served]
    rfl
  obtain ⟨_, below, alive⟩ := inOrder.owned thread _ wants
  refine inOrder.serve_land exact tokens small below (inOrder.free_of_wants wants) ?_ ?_ ?_
  · exact fun other elsewhere also => elsewhere (inOrder.unique other thread _ also wants)
  · rw [← Bool.not_eq_true]
    exact fun set => alive (inOrder.served_bit set)
  · exact lt_succ_of_le (le_of_eq served.symm)

theorem InOrder.access_advanceLoad (spurious : Bool) {ending : Ending} {serving : Nat}
    (here : world.pc thread = .advanceLoad ending serving) : Advances world.queue (land world thread
      (access (token thread) spurious world.lock (.advanceLoad ending serving))).queue := by
  have recalls := inOrder.recalls thread
  change Recalls world.queue (world.pc thread) at recalls
  rw [here] at recalls
  unfold access
  dsimp only
  split
  · exact inOrder.advanced here rfl ending
  · rename_i set
    refine inOrder.plain (sameTickets_refl _) trivial here rfl ⟨recalls.1, recalls.2, fun same => ?_⟩
    subst same
    rw [and_bit_eq_zero, Bool.not_eq_false] at set
    exact inOrder.served_bit set

/-- A `try_write` or a waiting writer takes the writer bit in turn. -/
theorem InOrder.access_writeTake (exact : Exact token world) (tokens : Tokens token)
    (spurious : Bool) {patience : Patience} {ticket state : Nat}
    (here : world.pc thread = .writeTake patience ticket state) (turn : InTurn world (.step thread spurious)) :
    Advances world.queue (land world thread
      (access (token thread) spurious world.lock (.writeTake patience ticket state))).queue := by
  have recalls := inOrder.recalls thread
  change Recalls world.queue (world.pc thread) at recalls
  rw [here] at recalls
  unfold access
  dsimp only
  split
  · rename_i free
    have served : world.lock.writerServing = ticket := by
      by_cases once : patience = .once
      · subst once
        change (world.pc thread).inTurn world.lock = true at turn
        rw [here] at turn
        exact of_decide_eq_true turn free
      · exact recalls once
    subst free
    have wants : (world.pc thread).ticket = some ticket := by
      rw [here]
      rfl
    rw [queue_land]
    exact ⟨inOrder.take wants served (exact.writeTake_alone tokens here).1 rfl trivial, le_refl _⟩
  · cases patience with
    | once => exact inOrder.plain (sameTickets_refl _) trivial here rfl trivial
    | bounded left => exact inOrder.plain (sameTickets_refl _) trivial here rfl trivial
    | forever => exact inOrder.plain (sameTickets_refl _) trivial here rfl trivial

theorem InOrder.access_reserveTake (spurious : Bool) {patience : Patience} {next : Nat}
    (here : world.pc thread = .reserveTake patience next) (small : (land world thread
      (access (token thread) spurious world.lock (.reserveTake patience next))).issued < u32Values) :
    Advances world.queue (land world thread
      (access (token thread) spurious world.lock (.reserveTake patience next))).queue := by
  have room := inOrder.recalls thread
  change Recalls world.queue (world.pc thread) at room
  rw [here] at room
  unfold access at small ⊢
  dsimp only at small ⊢
  split
  · rename_i taken
    rw [if_pos taken] at small
    obtain ⟨rfl, _⟩ := taken
    have grown : wrappingSucc world.lock.writerNext = world.lock.writerNext + 1 := by
      have counted : world.lock.writerNext = world.issued := inOrder.counted
      unfold wrappingSucc
      rw [mod_eq_of_lt]
      rw [counted]
      exact small
    rw [grown]
    exact ⟨inOrder.reserve room rfl trivial, le_refl _⟩
  · exact inOrder.plain (sameTickets_refl _) trivial here rfl trivial

theorem InOrder.access_unlockClear (exact : Exact token world) (tokens : Tokens token)
    (spurious : Bool) {ticket : Nat} (here : world.pc thread = .unlockClear ticket) :
    Advances world.queue (land world thread
      (access (token thread) spurious world.lock (.unlockClear ticket))).queue := by
  have knows := exact.knows thread
  rw [here] at knows
  obtain ⟨_, held, writes⟩ := knows
  have served := inOrder.recalls thread
  change Recalls world.queue (world.pc thread) at served
  rw [here] at served
  obtain rfl : held = ticket := (inOrder.held thread held writes).1.trans served
  have only := exact.only writes
  unfold access
  dsimp only
  rw [(exact.unlockClear_word tokens writes _ held).1, queue_land]
  have emptied : world.writers.filter (fun permit => permit.1 ≠ thread) = [] := by
    rw [only]
    simp
  dsimp only [record]
  rw [emptied]
  exact ⟨inOrder.release here only, le_refl _⟩

end

theorem issued_land (outcome : Outcome) : world.issued ≤ (land world thread outcome).issued := by
  unfold land record
  split <;> simp

/-- Every access in turn keeps the tickets in order. -/
theorem InOrder.access (inOrder : InOrder world.queue) (exact : Exact token world) (tokens : Tokens token) (thread : I)
    (spurious : Bool) (turn : InTurn world (.step thread spurious)) (small : (land world thread
      (ReaderWriter.access (token thread) spurious world.lock (world.pc thread))).issued < u32Values) :
    Advances world.queue (land world thread
      (ReaderWriter.access (token thread) spurious world.lock (world.pc thread))).queue := by
  have fits : world.issued < u32Values := lt_of_le_of_lt (issued_land _) small
  have same := sameTickets_refl world.lock
  have recalls := inOrder.recalls thread
  change Recalls world.queue (world.pc thread) at recalls
  cases here : world.pc thread with
  | idle => exact inOrder.plain same trivial here rfl trivial
  | readOwners patience =>
    unfold ReaderWriter.access
    dsimp only
    split <;> exact inOrder.plain same trivial here rfl trivial
  | readWriter patience =>
    unfold ReaderWriter.access
    dsimp only
    split <;> exact inOrder.plain same trivial here rfl trivial
  | readState patience =>
    unfold ReaderWriter.access
    dsimp only
    split
    · cases patience <;> exact inOrder.plain same trivial here rfl trivial
    · split <;> exact inOrder.plain same trivial here rfl trivial
  | readTake patience state =>
    unfold ReaderWriter.access
    dsimp only
    split
    · exact inOrder.plain (sameTickets_rest ..) trivial here rfl trivial
    · exact inOrder.plain same trivial here rfl trivial
  | readMark => exact inOrder.plain (sameTickets_rest ..) trivial here rfl trivial
  | readContend patience =>
    unfold ReaderWriter.access readAgain
    cases patience with
    | once => exact inOrder.plain (sameTickets_rest ..) trivial here rfl trivial
    | bounded left =>
      dsimp only
      split <;> exact inOrder.plain (sameTickets_rest ..) trivial here rfl trivial
    | forever => exact inOrder.plain (sameTickets_rest ..) trivial here rfl trivial
  | readUnmark =>
    unfold ReaderWriter.access
    dsimp only
    split <;> exact inOrder.plain (sameTickets_rest ..) trivial here rfl trivial
  | readDrop => exact inOrder.plain (sameTickets_rest ..) trivial here rfl trivial
  | writeOwner patience =>
    unfold ReaderWriter.access
    dsimp only
    split <;> exact inOrder.plain same trivial here rfl trivial
  | writeReaders patience =>
    unfold ReaderWriter.access
    dsimp only
    split
    · exact inOrder.plain same trivial here rfl trivial
    · cases patience <;> exact inOrder.plain same trivial here rfl trivial
  | tryNext => exact inOrder.plain same trivial here rfl trivial
  | tryServing next =>
    unfold ReaderWriter.access
    dsimp only
    split <;> exact inOrder.plain same trivial here rfl trivial
  | tryState =>
    unfold ReaderWriter.access
    dsimp only
    split <;> exact inOrder.plain same trivial here rfl trivial
  | reserveNext patience =>
    refine inOrder.plain same trivial here rfl ?_
    exact lt_of_le_of_lt (le_of_eq inOrder.counted) fits
  | reserveServing patience next =>
    rw [here] at recalls
    unfold ReaderWriter.access
    dsimp only
    split
    · exact inOrder.plain same trivial here rfl trivial
    · rename_i room
      have less : world.lock.writerServing < u32Values :=
        lt_of_le_of_lt (le_trans inOrder.ordered (le_of_eq inOrder.counted)) fits
      exact inOrder.plain same trivial here rfl
        (reserve_room (le_refl _) recalls less room)
  | reserveAgain patience next =>
    unfold ReaderWriter.access
    dsimp only
    split <;> exact inOrder.plain same trivial here rfl trivial
  | reserveTake patience next =>
    rw [here] at small
    exact inOrder.access_reserveTake spurious here small
  | addState patience ticket =>
    unfold ReaderWriter.access
    dsimp only
    split <;> exact inOrder.plain same trivial here rfl trivial
  | addTake patience ticket state =>
    unfold ReaderWriter.access
    dsimp only
    split
    · cases patience with
      | once => exact inOrder.plain (sameTickets_rest ..) trivial here rfl (fun no => absurd rfl no)
      | bounded left => exact inOrder.plain (sameTickets_rest ..) trivial here rfl trivial
      | forever => exact inOrder.plain (sameTickets_rest ..) trivial here rfl trivial
    · exact inOrder.plain same trivial here rfl trivial
  | poll patience ticket =>
    unfold ReaderWriter.access
    dsimp only
    split
    · rename_i served
      exact inOrder.plain same trivial here rfl (fun _ => served)
    · exact inOrder.plain same trivial here rfl trivial
  | writeState patience ticket =>
    rw [here] at recalls
    unfold ReaderWriter.access
    dsimp only
    split
    · exact inOrder.plain same trivial here rfl recalls
    · cases patience <;> exact inOrder.plain same trivial here rfl trivial
  | writeTake patience ticket state =>
    exact inOrder.access_writeTake exact tokens spurious here turn
  | writeStore ticket => exact inOrder.plain (sameTickets_rest ..) trivial here rfl trivial
  | writeContend patience ticket =>
    unfold ReaderWriter.access writeAgain
    cases patience with
    | once => exact inOrder.plain (sameTickets_rest ..) trivial here rfl trivial
    | bounded left =>
      dsimp only
      split <;> exact inOrder.plain (sameTickets_rest ..) trivial here rfl trivial
    | forever => exact inOrder.plain (sameTickets_rest ..) trivial here rfl trivial
  | removeState ending ticket =>
    rw [here] at recalls
    unfold ReaderWriter.access
    dsimp only
    split
    · exact inOrder.plain same trivial here rfl trivial
    · exact inOrder.plain same trivial here rfl recalls
  | removeTake ending ticket state =>
    rw [here] at recalls
    unfold ReaderWriter.access
    dsimp only
    split
    · exact inOrder.plain (sameTickets_rest ..) trivial here rfl recalls
    · exact inOrder.plain same trivial here rfl recalls
  | cancelMark ending ticket =>
    rw [here] at recalls
    have wants : (world.pc thread).ticket = some ticket := by
      rw [here]
      rfl
    exact ⟨inOrder.mark wants rfl recalls, le_refl _⟩
  | advanceOwner ending =>
    rw [here] at recalls
    unfold ReaderWriter.access
    dsimp only
    split
    · exact inOrder.advanced here rfl ending
    · exact inOrder.plain same trivial here rfl recalls
  | advanceServing ending =>
    rw [here] at recalls
    exact inOrder.plain same trivial here rfl ⟨recalls, le_refl _⟩
  | advanceLoad ending serving => exact inOrder.access_advanceLoad spurious here
  | advanceClear ending serving cancelled =>
    rw [here] at recalls
    unfold ReaderWriter.access
    dsimp only
    split
    · rename_i equal
      subst equal
      exact ⟨inOrder.clear here, le_refl _⟩
    · exact inOrder.plain same trivial here rfl recalls.1
  | advanceBump ending serving => exact inOrder.access_advanceBump exact tokens fits spurious here
  | countTimeout => exact inOrder.plain (sameTickets_rest ..) trivial here rfl trivial
  | unlockOwner ticket =>
    unfold ReaderWriter.access
    dsimp only
    split <;> exact inOrder.plain same trivial here rfl trivial
  | unlockServing ticket =>
    unfold ReaderWriter.access
    dsimp only
    split
    · exact inOrder.plain same trivial here rfl trivial
    · rename_i served
      exact inOrder.plain same trivial here rfl (not_not.mp served)
  | unlockStore ticket =>
    rw [here] at recalls
    exact inOrder.plain (sameTickets_rest ..) trivial here rfl recalls
  | unlockClear ticket => exact inOrder.access_unlockClear exact tokens spurious here
  | unlockBump ticket => exact inOrder.access_unlockBump exact tokens fits spurious here

end PooleOS.Locks.ReaderWriter
