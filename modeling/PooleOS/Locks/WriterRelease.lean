import PooleOS.Locks.WriterRuns

/- Runs in turn and the release of a write permit: alone it returns with the lock
free, and among other threads the first thing it returns is its permit. -/
namespace PooleOS.Locks.ReaderWriter

open List Nat
open Function (update update_self)
open Ticket (wrappingSucc boolToken)

section Access

variable {token : Nat} {spurious : Bool} {lock : Lock} {pc : Pc}

/-- A release returns from `advance_cancelled_writers` only. -/
theorem access_unlocked {ticket : Nat} (done : (access token spurious lock pc).result = some (.writeUnlocked ticket)) :
    pc = .advanceOwner (.unlocked ticket) ∨ ∃ serving, pc = .advanceLoad (.unlocked ticket) serving := by
  cases pc with
  | advanceOwner ending =>
    unfold access at done
    dsimp only at done
    split at done
    · cases ending <;> simp_all [advanced, goto, finish]
    · cases done
  | advanceLoad ending serving =>
    unfold access at done
    dsimp only at done
    split at done
    · cases ending <;> simp_all [advanced, goto, finish]
    · cases done
  | _ =>
    unfold access at done
    try unfold readBusy at done
    try unfold readAgain at done
    try unfold writeBegin at done
    try unfold readReleased at done
    try unfold writeReleased at done
    simp only [goto, finish] at done
    repeat' split at done
    all_goals cases done

end Access

variable {I : Type} [DecidableEq I] {token : I → Nat} {world : World I} {thread : I}

structure Orderly (token : I → Nat) (world : World I) : Prop where
  exact : Exact token world
  inOrder : InOrder world.queue
  told : ∀ thread ticket, (thread, .writeUnlocked ticket) ∈ world.history →
    ticket < world.lock.writerServing

omit [DecidableEq I] in
theorem orderly_new : Orderly token (World.new : World I) :=
  ⟨exact_new, inOrder_new, by simp [World.new]⟩

variable {ticket : Nat}

omit [DecidableEq I] in
/-- A release that returns has passed its ticket on. -/
theorem Orderly.told_access (orderly : Orderly token world) (spurious : Bool)
    (done : (access (token thread) spurious world.lock (world.pc thread)).result =
      some (.writeUnlocked ticket)) : ticket < world.lock.writerServing := by
  have recalls := orderly.inOrder.recalls thread
  change Recalls world.queue (world.pc thread) at recalls
  rcases access_unlocked done with here | ⟨serving, here⟩
  · rw [here] at recalls
    exact recalls
  · rw [here] at recalls
    exact recalls.1

variable {outcome : Outcome}

theorem Orderly.told_land (orderly : Orderly token world)
    (grows : world.queue.serving ≤ (land world thread outcome).queue.serving)
    (mine : ∀ ticket, outcome.result = some (.writeUnlocked ticket) →
      ticket < world.lock.writerServing) (other : I) (ticket : Nat)
    (member : (other, .writeUnlocked ticket) ∈ (land world thread outcome).history) :
    ticket < (land world thread outcome).lock.writerServing := by
  rw [history_land, mem_append] at member
  refine lt_of_lt_of_le ?_ grows
  rcases member with old | new
  · exact orderly.told other ticket old
  · obtain ⟨result, member, same⟩ := mem_map.mp new
    rw [Option.mem_toList] at member
    cases same
    exact mine ticket member

theorem Orderly.access (orderly : Orderly token world) (tokens : Tokens token) (thread : I)
    (spurious : Bool) (turn : InTurn world (.step thread spurious))
    (small : (step token world (.step thread spurious)).issued < u32Values) :
    Orderly token (step token world (.step thread spurious)) := by
  have advances := orderly.inOrder.access orderly.exact tokens thread spurious turn small
  exact ⟨orderly.exact.access tokens thread spurious, advances.inOrder,
    orderly.told_land advances.grows (fun _ done => orderly.told_access spurious done)⟩

omit [DecidableEq I] in
/-- A call begins without a ticket. -/
theorem begin_plain (call : Call) (lock : Lock) (number : Nat) :
    ∃ pc result, call.begin lock number = ⟨lock, pc, .quiet, result⟩ ∧ pc.ticket = none ∧
      (∀ queue : Queue I, Recalls queue pc) ∧ ∀ ticket, result ≠ some (.writeUnlocked ticket) := by
  cases call with
  | writeUnlock ticket write => cases write <;> exact ⟨_, _, rfl, rfl, fun _ => trivial, nofun⟩
  | _ =>
    unfold Call.begin
    try unfold checked
    repeat' split
    all_goals exact ⟨_, _, rfl, rfl, fun _ => trivial, nofun⟩

theorem Orderly.move (orderly : Orderly token world) (tokens : Tokens token) (move : Move I) (turn : InTurn world move)
    (small : (step token world move).issued < u32Values) : Orderly token (step token world move) := by
  cases move with
  | call thread call =>
    have exact := orderly.exact.move tokens (.call thread call)
    cases here : world.pc thread with
    | idle =>
      obtain ⟨pc, result, begins, free, recalls, quiet⟩ :=
        begin_plain (I := I) call world.lock (token thread)
      have landed : step token world (.call thread call) =
          land world thread ⟨world.lock, pc, .quiet, result⟩ := by
        unfold step
        dsimp only
        rw [here, ← begins]
      rw [landed] at exact ⊢
      have advances : Advances world.queue
          (land world thread ⟨world.lock, pc, .quiet, result⟩).queue :=
        orderly.inOrder.plain (sameTickets_refl _) trivial here free (recalls _)
      exact ⟨exact, advances.inOrder, orderly.told_land advances.grows (fun ticket done => absurd done (quiet ticket))⟩
    | _ =>
      have kept : step token world (.call thread call) = world := by
        unfold step
        dsimp only
        rw [here]
      rw [kept]
      exact orderly
  | step thread spurious => exact orderly.access tokens thread spurious turn small

theorem issued_mono (move : Move I) : world.issued ≤ (step token world move).issued := by
  cases move with
  | call thread call =>
    unfold step
    dsimp only
    split
    · exact issued_land _
    · exact le_refl _
  | step thread spurious => exact issued_land _

theorem issued_run (moves : List (Move I)) (world : World I) : world.issued ≤ (run token world moves).issued := by
  induction moves generalizing world with
  | nil => exact le_refl _
  | cons move rest ih => exact le_trans (issued_mono move) (ih (step token world move))

theorem run_orderly (tokens : Tokens token) (moves : List (Move I)) (world : World I)
    (orderly : Orderly token world) (turns : RunsInTurn token world moves)
    (small : (run token world moves).issued < u32Values) : Orderly token (run token world moves) := by
  induction moves generalizing world with
  | nil => exact orderly
  | cons move rest ih =>
    have fits : (step token world move).issued < u32Values :=
      lt_of_le_of_lt (issued_run rest (step token world move)) small
    exact ih _ (orderly.move tokens move turns.1 fits) turns.2 small

/-- The accesses of `write_unlock` before the permit is given back. -/
def Pc.Opening (ticket : Nat) : Pc → Prop
  | .unlockOwner passed => passed = ticket
  | .unlockServing passed => passed = ticket
  | .unlockStore passed => passed = ticket
  | .unlockClear passed => passed = ticket
  | _ => False

/-- The accesses of `write_unlock` after the permit was given back. -/
def Pc.Closing (ticket : Nat) : Pc → Prop
  | .unlockBump passed => passed = ticket
  | .advanceOwner ending => ending = .unlocked ticket
  | .advanceServing ending => ending = .unlocked ticket
  | .advanceLoad ending _ => ending = .unlocked ticket
  | .advanceClear ending _ _ => ending = .unlocked ticket
  | .advanceBump ending _ => ending = .unlocked ticket
  | _ => False

/-- A release of the permit with this ticket is in progress. -/
def Releasing (world : World I) (thread : I) (ticket : Nat) : Prop :=
  (thread, ticket) ∈ world.writers ∧ (world.pc thread).Opening ticket ∨
    (world.pc thread).Closing ticket

theorem pc_land (outcome : Outcome) : (land world thread outcome).pc = update world.pc thread outcome.pc := by
  unfold land record
  cases outcome.note <;> rfl

theorem writers_land_quiet (quiet : outcome.note = .quiet) : (land world thread outcome).writers = world.writers := by
  unfold land record
  rw [quiet]

theorem writers_land_other (outcome : Outcome) {other : I} (apart : other ≠ thread) (ticket : Nat) :
    (other, ticket) ∈ (land world thread outcome).writers ↔ (other, ticket) ∈ world.writers := by
  unfold land record
  cases outcome.note <;> simp [apart]

/-- What one access of a release does. -/
def Proceeds (world : World I) (thread : I) (ticket : Nat) (outcome : Outcome) : Prop :=
  outcome.result = none ∧ Releasing (land world thread outcome) thread ticket ∨
    outcome.result = some (.writeUnlocked ticket)

theorem proceeds_opening {lock : Lock} {pc : Pc} (writes : (thread, ticket) ∈ world.writers)
    (opening : pc.Opening ticket) : Proceeds world thread ticket (goto lock pc) := by
  refine .inl ⟨rfl, .inl ⟨?_, ?_⟩⟩
  · rw [writers_land_quiet rfl]
    exact writes
  · rw [pc_land, update_self]
    exact opening

theorem proceeds_closing (silent : outcome.result = none)
    (closing : outcome.pc.Closing ticket) : Proceeds world thread ticket outcome := by
  refine .inl ⟨silent, .inr ?_⟩
  rw [pc_land, update_self]
  exact closing

/-- An access of a release does not fail while its permit is the one being served. -/
theorem Orderly.proceeds (orderly : Orderly token world) (tokens : Tokens token)
    (releasing : Releasing world thread ticket) (spurious : Bool) : Proceeds world thread ticket
      (ReaderWriter.access (token thread) spurious world.lock (world.pc thread)) := by
  have exact := orderly.exact
  rcases releasing with ⟨writes, opening⟩ | closing
  · obtain ⟨served, _⟩ := orderly.inOrder.held thread ticket writes
    have owner : world.lock.writerOwner = token thread ∨ ∃ passed, world.pc thread = .unlockClear passed := by
      rcases exact.writing thread ticket writes with store | clear | ⟨owner, _⟩
      · rw [store] at opening
        exact opening.elim
      · exact .inr clear
      · exact .inl owner
    cases here : world.pc thread with
    | unlockOwner passed =>
      rw [here] at opening owner
      rcases owner with owner | ⟨_, impossible⟩
      · unfold ReaderWriter.access
        dsimp only
        rw [if_neg (not_not.mpr owner)]
        exact proceeds_opening writes opening
      · cases impossible
    | unlockServing passed =>
      rw [here] at opening
      have same : world.lock.writerServing = passed := served.symm.trans opening.symm
      unfold ReaderWriter.access
      dsimp only
      rw [if_neg (not_not.mpr same)]
      exact proceeds_opening writes opening
    | unlockStore passed =>
      rw [here] at opening
      exact proceeds_opening writes opening
    | unlockClear passed =>
      rw [here] at opening
      unfold ReaderWriter.access
      dsimp only
      rw [(exact.unlockClear_word tokens writes _ passed).1]
      exact proceeds_closing rfl opening
    | _ =>
      rw [here] at opening
      exact opening.elim
  · cases here : world.pc thread with
    | unlockBump passed =>
      rw [here] at closing
      exact proceeds_closing rfl (congrArg Ending.unlocked closing)
    | advanceOwner ending =>
      rw [here] at closing
      obtain rfl : ending = .unlocked ticket := closing
      unfold ReaderWriter.access
      dsimp only
      split
      · exact .inr rfl
      · exact proceeds_closing rfl rfl
    | advanceServing ending =>
      rw [here] at closing
      exact proceeds_closing rfl closing
    | advanceLoad ending serving =>
      rw [here] at closing
      obtain rfl : ending = .unlocked ticket := closing
      unfold ReaderWriter.access
      dsimp only
      split
      · exact .inr rfl
      · exact proceeds_closing rfl rfl
    | advanceClear ending serving cancelled =>
      rw [here] at closing
      unfold ReaderWriter.access
      dsimp only
      split <;> exact proceeds_closing rfl closing
    | advanceBump ending serving =>
      rw [here] at closing
      unfold ReaderWriter.access
      dsimp only
      split <;> exact proceeds_closing rfl closing
    | _ =>
      rw [here] at closing
      exact closing.elim

/-- Since the history was this, the thread has returned nothing but, perhaps, its released permit
first. -/
def Answers (start : List (I × Result)) (thread : I) (ticket : Nat) (world : World I) : Prop :=
  ∃ new, world.history = start ++ new ∧
    (Releasing world thread ticket ∧ (∀ result, (thread, result) ∉ new) ∨
      ∃ earlier later, new = earlier ++ (thread, .writeUnlocked ticket) :: later ∧
        ∀ result, (thread, result) ∉ earlier)

variable {start : List (I × Result)} {ticket : Nat}

section

variable (answers : Answers start thread ticket world)
include answers

/-- A release goes on while another thread takes a step. -/
theorem Answers.other {other : I} (apart : thread ≠ other)
    (outcome : Outcome) : Answers start thread ticket (land world other outcome) := by
  obtain ⟨new, history, answer⟩ := answers
  refine ⟨new ++ outcome.result.toList.map (fun result => (other, result)), ?_, ?_⟩
  · rw [history_land, history, append_assoc]
  rcases answer with ⟨releasing, silent⟩ | ⟨earlier, later, answered, silent⟩
  · refine .inl ⟨?_, fun result member => ?_⟩
    · unfold Releasing at releasing ⊢
      rw [pc_land, Function.update_of_ne apart, writers_land_other outcome apart]
      exact releasing
    · rcases mem_append.mp member with old | added
      · exact silent result old
      · obtain ⟨_, _, same⟩ := mem_map.mp added
        exact apart (congrArg Prod.fst same).symm
  · refine .inr ⟨earlier, later ++ outcome.result.toList.map (fun result => (other, result)), ?_, silent⟩
    rw [answered, append_assoc, cons_append]

/-- A release takes a step of its own. -/
theorem Answers.own
    (proceeds : Releasing world thread ticket → Proceeds world thread ticket outcome) :
    Answers start thread ticket (land world thread outcome) := by
  obtain ⟨new, history, answer⟩ := answers
  rcases answer with ⟨releasing, silent⟩ | ⟨earlier, later, answered, silent⟩
  · rcases proceeds releasing with ⟨none_, goes⟩ | done
    · refine ⟨new, ?_, .inl ⟨goes, silent⟩⟩
      rw [history_land, none_, history]
      simp
    · refine ⟨new ++ [(thread, .writeUnlocked ticket)], ?_, .inr ⟨new, [], rfl, silent⟩⟩
      rw [history_land, done, history]
      simp
  · refine ⟨new ++ outcome.result.toList.map (fun result => (thread, result)), ?_,
      .inr ⟨earlier, later ++ outcome.result.toList.map (fun result => (thread, result)), ?_, silent⟩⟩
    · rw [history_land, history, append_assoc]
    · rw [answered, append_assoc, cons_append]

theorem Answers.move (orderly : Orderly token world)
    (tokens : Tokens token) (move : Move I) : Answers start thread ticket (step token world move) := by
  cases move with
  | call other call =>
    unfold step
    dsimp only
    split
    · rename_i idle
      by_cases same : thread = other
      · subst same
        refine answers.own (fun releasing => ?_)
        unfold Releasing at releasing
        rw [idle] at releasing
        exact (releasing.elim (fun both => both.2) id).elim
      · exact answers.other same _
    · exact answers
  | step other spurious =>
    by_cases same : thread = other
    · subst same
      exact answers.own (fun releasing => orderly.proceeds tokens releasing spurious)
    · exact answers.other same _

end

theorem run_answers (tokens : Tokens token) (moves : List (Move I)) (world : World I)
    (answers : Answers start thread ticket world) (orderly : Orderly token world) (turns : RunsInTurn token world moves)
    (small : (run token world moves).issued < u32Values) : Answers start thread ticket (run token world moves) := by
  induction moves generalizing world with
  | nil => exact answers
  | cons move rest ih =>
    have fits : (step token world move).issued < u32Values :=
      lt_of_le_of_lt (issued_run rest (step token world move)) small
    exact ih _ (answers.move orderly tokens move) (orderly.move tokens move turns.1 fits) turns.2
      small

section Alone

theorem lock_land (outcome : Outcome) : (land world thread outcome).lock = outcome.lock := by
  unfold land record
  cases outcome.note <;> rfl

theorem issued_land_quiet {outcome : Outcome} (quiet : outcome.note = .quiet) :
    (land world thread outcome).issued = world.issued := by
  unfold land record
  rw [quiet]

/-- The thread alone returns its released permit and disturbs neither permits nor counts. -/
def Finishes (token : I → Nat) (thread : I) (ticket : Nat) (world : World I) : Prop :=
  ∃ count, let after := run token world (List.replicate count (.step thread false))
    after.pc thread = .idle ∧ after.history = world.history ++ [(thread, .writeUnlocked ticket)] ∧
      after.writers = world.writers ∧ after.lock.state = world.lock.state ∧
        after.lock.writerOwner = world.lock.writerOwner ∧ ticket < after.lock.writerServing

variable {lock : Lock} {pc : Pc}

theorem run_lands {outcome : Outcome} {count : Nat}
    (moves : access (token thread) false world.lock (world.pc thread) = outcome) :
    run token world (replicate (count + 1) (.step thread false)) =
      run token (land world thread outcome) (replicate count (.step thread false)) := by
  rw [← moves]
  rfl

theorem Finishes.after_goto (moves : access (token thread) false world.lock (world.pc thread) = goto lock pc)
    (same : SameWords world.lock lock) (rest : Finishes token thread ticket (land world thread (goto lock pc))) :
    Finishes token thread ticket world := by
  obtain ⟨count, idle, history, writers, state, owner, passed⟩ := rest
  refine ⟨count + 1, ?_⟩
  dsimp only
  rw [run_lands moves]
  refine ⟨idle, ?_, writers.trans (writers_land_quiet rfl), ?_, ?_, passed⟩
  · rw [history, history_land]
    simp [goto]
  · rw [state, lock_land]
    exact same.state
  · rw [owner, lock_land]
    exact same.writerOwner

theorem finishes_now (moves : access (token thread) false world.lock (world.pc thread) =
      finish lock (.writeUnlocked ticket)) (same : SameWords world.lock lock) (passed : ticket < lock.writerServing) :
    Finishes token thread ticket world := by
  refine ⟨0 + 1, ?_⟩
  dsimp only
  rw [run_lands moves, replicate_zero, run, foldl_nil]
  refine ⟨?_, ?_, writers_land_quiet rfl, ?_, ?_, ?_⟩
  · rw [pc_land, update_self]
    rfl
  · rw [history_land]
    rfl
  · rw [lock_land]
    exact same.state
  · rw [lock_land]
    exact same.writerOwner
  · rw [lock_land]
    exact passed

omit [DecidableEq I] in
theorem Orderly.recalls (orderly : Orderly token world) (here : world.pc thread = pc) : Recalls world.queue pc :=
  here ▸ orderly.inOrder.recalls thread

/-- What holds after such a step of a thread in turn. -/
theorem Orderly.lands (orderly : Orderly token world) (tokens : Tokens token) (small : world.issued < u32Values)
    (moves : ReaderWriter.access (token thread) false world.lock (world.pc thread) = goto lock pc)
    (turn : (world.pc thread).inTurn world.lock = true) : let after := land world thread (goto lock pc)
      Orderly token after ∧ after.issued < u32Values ∧ after.lock = lock ∧ after.pc thread = pc := by
  have landed : step token world (.step thread false) = land world thread (goto lock pc) :=
    congrArg (land world thread) moves
  have less : (land world thread (goto lock pc)).issued < u32Values := by
    rw [issued_land_quiet rfl]
    exact small
  refine ⟨?_, less, lock_land _, ?_⟩
  · rw [← landed]
    exact orderly.access tokens thread false turn (landed ▸ less)
  · rw [pc_land, update_self]
    rfl

/-- The releases that have fewer tickets to pass end. -/
def Later (token : I → Nat) (thread : I) (ticket bound : Nat) : Prop :=
  ∀ world : World I, Orderly token world → world.issued < u32Values →
    world.lock.writerNext - world.lock.writerServing < bound →
      world.pc thread = .advanceOwner (.unlocked ticket) → Finishes token thread ticket world

section

variable (orderly : Orderly token world) (tokens : Tokens token) (small : world.issued < u32Values)
include orderly tokens small

/-- A ticket that was given up is passed. -/
theorem bump_alone
    (here : world.pc thread = .advanceBump (.unlocked ticket) world.lock.writerServing)
    (later : Later token thread ticket (world.lock.writerNext - world.lock.writerServing)) :
    Finishes token thread ticket world := by
  have recalls := orderly.recalls here
  have below : world.lock.writerServing < world.lock.writerNext :=
    orderly.inOrder.past _ (recalls.2.2 rfl).1
  have moves : access (token thread) false world.lock (world.pc thread) =
      goto { world.lock with writerServing := world.lock.writerServing + 1 }
        (.advanceOwner (.unlocked ticket)) := by
    rw [here, ← orderly.inOrder.serving_succ below small]
    unfold access
    dsimp only
    rw [if_pos rfl]
  obtain ⟨ordered, less, kept, ends⟩ := orderly.lands tokens small moves (by rw [here]; rfl)
  refine Finishes.after_goto moves (sameWords_rest ..) (later _ ordered less ?_ ends)
  rw [kept]
  exact Nat.sub_lt_sub_left below (Nat.lt_succ_self _)

/-- Its bit is cleared first. -/
theorem clear_alone
    (here : world.pc thread = .advanceClear (.unlocked ticket) world.lock.writerServing world.lock.cancelledWriters)
    (later : Later token thread ticket (world.lock.writerNext - world.lock.writerServing)) :
    Finishes token thread ticket world := by
  have moves : access (token thread) false world.lock (world.pc thread) =
      goto { world.lock with
          cancelledWriters := world.lock.cancelledWriters &&& ~~~Ticket.bit world.lock.writerServing }
        (.advanceBump (.unlocked ticket) world.lock.writerServing) := by
    rw [here]
    unfold access
    dsimp only
    rw [if_pos rfl]
  obtain ⟨ordered, less, kept, ends⟩ := orderly.lands tokens small moves (by rw [here]; rfl)
  refine Finishes.after_goto moves (sameWords_rest ..) (bump_alone ordered tokens less ?_ ?_)
  · rw [ends, kept]
  · rw [kept]
    exact later

theorem load_alone
    (here : world.pc thread = .advanceLoad (.unlocked ticket) world.lock.writerServing)
    (later : Later token thread ticket (world.lock.writerNext - world.lock.writerServing)) :
    Finishes token thread ticket world := by
  by_cases clear : world.lock.cancelledWriters &&& Ticket.bit world.lock.writerServing = 0
  · have recalls := orderly.recalls here
    refine finishes_now ?_ (sameWords_refl world.lock) recalls.1
    rw [here]
    unfold access
    dsimp only
    rw [if_pos clear]
    rfl
  have moves : access (token thread) false world.lock (world.pc thread) =
      goto world.lock (.advanceClear (.unlocked ticket) world.lock.writerServing
        world.lock.cancelledWriters) := by
    rw [here]
    unfold access
    dsimp only
    rw [if_neg clear]
  obtain ⟨ordered, less, kept, ends⟩ := orderly.lands tokens small moves (by rw [here]; rfl)
  refine Finishes.after_goto moves (sameWords_refl _) (clear_alone ordered tokens less ?_ ?_)
  · rw [ends, kept]
  · rw [kept]
    exact later

theorem serving_alone
    (here : world.pc thread = .advanceServing (.unlocked ticket))
    (later : Later token thread ticket (world.lock.writerNext - world.lock.writerServing)) :
    Finishes token thread ticket world := by
  have moves : access (token thread) false world.lock (world.pc thread) =
      goto world.lock (.advanceLoad (.unlocked ticket) world.lock.writerServing) := by
    rw [here]
    rfl
  obtain ⟨ordered, less, kept, ends⟩ := orderly.lands tokens small moves (by rw [here]; rfl)
  refine Finishes.after_goto moves (sameWords_refl _) (load_alone ordered tokens less ?_ ?_)
  · rw [ends, kept]
  · rw [kept]
    exact later

end

/-- `advance_cancelled_writers` of a release ends: every round passes one ticket. -/
theorem advance_alone (tokens : Tokens token) (left : Nat) : Later token thread ticket left := by
  induction left using Nat.strongRecOn with
  | ind left ih =>
    intro world orderly small less here
    by_cases owned : world.lock.writerOwner = 0
    · have moves : access (token thread) false world.lock (world.pc thread) =
          goto world.lock (.advanceServing (.unlocked ticket)) := by
        rw [here]
        unfold access
        dsimp only
        rw [if_neg (not_not.mpr owned)]
      obtain ⟨ordered, fits, kept, ends⟩ := orderly.lands tokens small moves (by rw [here]; rfl)
      refine Finishes.after_goto moves (sameWords_refl _) (serving_alone ordered tokens fits ends ?_)
      rw [kept]
      exact ih _ less
    · have recalls := orderly.recalls here
      refine finishes_now ?_ (sameWords_refl world.lock) recalls
      rw [here]
      unfold access
      dsimp only
      rw [if_pos owned]
      rfl

/-- The permit was given back; its ticket is passed on. -/
theorem unlockBump_alone (orderly : Orderly token world) (tokens : Tokens token) (small : world.issued < u32Values)
    (here : world.pc thread = .unlockBump ticket) : Finishes token thread ticket world := by
  have moves : access (token thread) false world.lock (world.pc thread) =
      goto { world.lock with writerServing := wrappingSucc world.lock.writerServing }
        (.advanceOwner (.unlocked ticket)) := by
    rw [here]
    rfl
  obtain ⟨ordered, less, -, ends⟩ := orderly.lands tokens small moves (by rw [here]; rfl)
  exact Finishes.after_goto moves (sameWords_rest ..) (advance_alone tokens _ _ ordered less (lt_succ_self _) ends)

/-- The thread alone returns its released permit and leaves the lock free. -/
def Frees (token : I → Nat) (thread : I) (ticket : Nat) (world : World I) : Prop :=
  ∃ count, let after := run token world (List.replicate count (.step thread false))
    after.pc thread = .idle ∧ after.history = world.history ++ [(thread, .writeUnlocked ticket)] ∧
      after.writers = [] ∧ writerField after.lock.state = 0 ∧ after.lock.writerOwner = 0 ∧
        ticket < after.lock.writerServing

theorem Frees.after_goto (moves : access (token thread) false world.lock (world.pc thread) = goto lock pc)
    (rest : Frees token thread ticket (land world thread (goto lock pc))) : Frees token thread ticket world := by
  obtain ⟨count, idle, history, freed⟩ := rest
  refine ⟨count + 1, ?_⟩
  dsimp only
  rw [run_lands moves]
  refine ⟨idle, ?_, freed⟩
  rw [history, history_land]
  simp [goto]

section

variable (orderly : Orderly token world) (tokens : Tokens token) (small : world.issued < u32Values)
include orderly tokens small

theorem unlockClear_alone
    (here : world.pc thread = .unlockClear ticket) : Frees token thread ticket world := by
  have exact := orderly.exact
  have knows := exact.knows thread
  rw [here] at knows
  obtain ⟨zero, held, writes⟩ := knows
  obtain ⟨released, cleared⟩ := exact.unlockClear_word tokens writes
    { world.lock with state := world.lock.state % writerBit } ticket
  have moves : access (token thread) false world.lock (world.pc thread) =
      ⟨{ world.lock with state := world.lock.state % writerBit }, .unlockBump ticket, .writeDropped,
        none⟩ := by
    rw [here]
    exact released
  generalize dropped : (⟨{ world.lock with state := world.lock.state % writerBit },
    .unlockBump ticket, .writeDropped, none⟩ : Outcome) = outcome at moves
  have landed : step token world (.step thread false) = land world thread outcome :=
    congrArg (land world thread) moves
  have fits : (land world thread outcome).issued < u32Values := by
    rw [← dropped]
    exact small
  have here' : (land world thread outcome).pc thread = .unlockBump ticket := by
    rw [pc_land, update_self, ← dropped]
  have after : Orderly token (land world thread outcome) := by
    rw [← landed]
    refine orderly.access tokens thread false (by rw [InTurn, here]; rfl) ?_
    rw [landed]
    exact fits
  obtain ⟨count, idle, history, writers, state, owner, passed⟩ :=
    unlockBump_alone after tokens fits here'
  refine ⟨count + 1, ?_⟩
  dsimp only
  rw [run_lands moves]
  refine ⟨idle, ?_, ?_, ?_, ?_, passed⟩
  · rw [history, history_land, ← dropped]
    simp
  · rw [writers, ← dropped]
    change world.writers.filter (fun permit => permit.1 ≠ thread) = []
    rw [exact.only writes]
    simp
  · rw [state, lock_land, ← dropped, cleared]
    exact writerField_pack (lt_of_succ_lt (exact.readers_lt tokens))
      (lt_of_succ_lt (exact.waiting_lt tokens)) (zero_le _)
  · rw [owner, lock_land, ← dropped]
    exact zero

theorem unlockStore_alone
    (here : world.pc thread = .unlockStore ticket) : Frees token thread ticket world := by
  have moves : access (token thread) false world.lock (world.pc thread) =
      goto { world.lock with writerOwner := 0 } (.unlockClear ticket) := by
    rw [here]
    rfl
  obtain ⟨ordered, less, -, ends⟩ := orderly.lands tokens small moves (by rw [here]; rfl)
  exact Frees.after_goto moves (unlockClear_alone ordered tokens less ends)

theorem unlockServing_alone (served : world.lock.writerServing = ticket)
    (here : world.pc thread = .unlockServing ticket) : Frees token thread ticket world := by
  have moves : access (token thread) false world.lock (world.pc thread) =
      goto world.lock (.unlockStore ticket) := by
    rw [here]
    unfold access
    dsimp only
    rw [if_neg (not_not.mpr served)]
  obtain ⟨ordered, less, -, ends⟩ := orderly.lands tokens small moves (by rw [here]; rfl)
  exact Frees.after_goto moves (unlockStore_alone ordered tokens less ends)

/-- A release that still has its permit ends with the lock free. -/
theorem unlockOwner_alone (writes : (thread, ticket) ∈ world.writers)
    (here : world.pc thread = .unlockOwner ticket) : Frees token thread ticket world := by
  obtain ⟨served, _⟩ := orderly.inOrder.held thread ticket writes
  have owner : world.lock.writerOwner = token thread := by
    rcases orderly.exact.writing thread ticket writes with store | ⟨_, clear⟩ | ⟨owner, _⟩
    · rw [here] at store
      cases store
    · rw [here] at clear
      cases clear
    · exact owner
  have moves : access (token thread) false world.lock (world.pc thread) =
      goto world.lock (.unlockServing ticket) := by
    rw [here]
    unfold access
    dsimp only
    rw [if_neg (not_not.mpr owner)]
  obtain ⟨ordered, less, kept, ends⟩ := orderly.lands tokens small moves (by rw [here]; rfl)
  refine Frees.after_goto moves (unlockServing_alone ordered tokens less ?_ ends)
  rw [kept]
  exact served.symm

end

end Alone

/-- `write_unlock` with a permit is called by its holder. -/
theorem call_writeUnlock (token : I → Nat) (ticket : Nat) (idle : world.pc thread = .idle) :
    step token world (.call thread (.writeUnlock ticket true)) =
      land world thread (goto world.lock (.unlockOwner ticket)) := by
  unfold step
  dsimp only
  rw [idle]
  rfl

/-- In every run in turn a permit can be released: alone `write_unlock` returns its ticket and
leaves the lock free, among other threads its ticket is the first thing it returns, and a ticket it
has returned is passed. -/
theorem run_releases (tokens : Tokens token) (moves : List (Move I))
    (turns : RunsInTurn token World.new moves)
    (small : (run token World.new moves).issued < u32Values) :
    let world := run token World.new moves
    (∀ thread ticket, (thread, ticket) ∈ world.writers → world.pc thread = .idle →
      Frees token thread ticket (step token world (.call thread (.writeUnlock ticket true))) ∧
      ∀ more, RunsInTurn token world (.call thread (.writeUnlock ticket true) :: more) →
        (run token world (.call thread (.writeUnlock ticket true) :: more)).issued < u32Values →
        Answers world.history thread ticket
          (run token world (.call thread (.writeUnlock ticket true) :: more))) ∧
      ∀ thread ticket, (thread, .writeUnlocked ticket) ∈ world.history →
        ticket < world.lock.writerServing := by
  intro world
  have orderly : Orderly token world := run_orderly tokens moves _ orderly_new turns small
  refine ⟨fun thread ticket writes idle => ?_, orderly.told⟩
  have landed := call_writeUnlock token ticket idle
  have called : Orderly token (step token world (.call thread (.writeUnlock ticket true))) :=
    orderly.move tokens _ trivial (by rw [landed, issued_land_quiet rfl]; exact small)
  have writes' : (thread, ticket) ∈
      (step token world (.call thread (.writeUnlock ticket true))).writers := by
    rw [landed, writers_land_quiet rfl]
    exact writes
  have here : (step token world (.call thread (.writeUnlock ticket true))).pc thread =
      .unlockOwner ticket := by
    rw [landed, pc_land, update_self]
    rfl
  refine ⟨?_, fun more turns fits => ?_⟩
  · refine unlockOwner_alone called tokens ?_ writes' here
    rw [landed, issued_land_quiet rfl]
    exact small
  · refine run_answers tokens more _ ⟨[], ?_, .inl ⟨.inl ⟨writes', ?_⟩, nofun⟩⟩ called turns.2 fits
    · rw [landed, history_land]
      rfl
    · rw [here]
      rfl

/-- One thread takes the lock for writing. -/
def oneWriter : List (Move Bool) := .call true .tryWrite :: List.replicate 13 (.step true false)

theorem run_releases_oneWriter :
    let world := run boolToken World.new oneWriter
    (world.writers = [(true, 0)] ∧ world.pc true = .idle) ∧
      Frees boolToken true 0 (step boolToken world (.call true (.writeUnlock 0 true))) := by
  have tokens : Tokens boolToken := ⟨by decide, by decide, by decide⟩
  have ran : (run boolToken World.new oneWriter).writers = [(true, 0)] ∧
      (run boolToken World.new oneWriter).pc true = .idle := by
    decide +kernel
  obtain ⟨releases, _⟩ := run_releases tokens oneWriter (by decide) (by decide)
  refine ⟨ran, (releases true 0 ?_ ran.2).1⟩
  rw [ran.1]
  exact mem_singleton_self _

/-- Two `try_write` reserve tickets in order, the second takes the writer bit first, and the first
then gives up. -/
def outOfTurn : List (Move Bool) :=
  .call true .tryWrite :: List.replicate 5 (.step true false) ++
    .call false .tryWrite :: List.replicate 5 (.step false false) ++
    List.replicate 5 (.step true false) ++ List.replicate 8 (.step false false) ++
    List.replicate 5 (.step true false)

theorem outOfTurn_refused :
    let world := run boolToken World.new outOfTurn
    let after := run boolToken world
      (.call false (.writeUnlock 1 true) :: replicate 2 (.step false false))
    ((false, 1) ∈ world.writers ∧ world.pc false = .idle ∧ (false, .writing 1) ∈ world.history) ∧
      after.history = world.history ++ [(false, .failed .notOwner)] ∧ after.pc false = .idle ∧
      after.writers = [(false, 1)] ∧ writerField after.lock.state = 1 := by
  decide

end PooleOS.Locks.ReaderWriter
