import PooleOS.Locks.TicketRuns

/- When no ticket is lost. A ticket that was given up keeps its bit until the lock
serves it, and then some thread is on the way to pass it, unless a thread that
read an older ticket clears the bit: the bits repeat after 32 tickets. -/
namespace PooleOS.Locks.Ticket

open List Nat
open Function (update update_of_ne update_self)

variable {I : Type} [DecidableEq I] {token : I → Nat} {world : World I} {thread : I}

/-- The access clears a set bit although the lock has moved past the ticket the thread read. -/
def clearsStale (lock : Lock) : Pc → Bool
  | .advanceClear _ serving cancelled =>
    lock.cancelled = cancelled ∧ cancelled.getLsbD (serving % 32) = true ∧ lock.serving ≠ serving
  | _ => false

/-- The step does not clear the bit of a ticket other than the one being served. -/
def Careful (world : World I) : Move I → Prop
  | .call _ _ => True
  | .step thread _ => clearsStale world.lock (world.pc thread) = false

def CarefulRun (token : I → Nat) : World I → List (Move I) → Prop
  | _, [] => True
  | world, move :: rest => Careful world move ∧ CarefulRun token (step token world move) rest

omit [DecidableEq I] in
instance (world : World I) : (move : Move I) → Decidable (Careful world move)
  | .call _ _ => inferInstanceAs (Decidable True)
  | .step thread _ => inferInstanceAs (Decidable (clearsStale world.lock (world.pc thread) = false))

instance decidableCarefulRun (token : I → Nat) :
    (world : World I) → (moves : List (Move I)) → Decidable (CarefulRun token world moves)
  | _, [] => inferInstanceAs (Decidable True)
  | world, move :: rest =>
    haveI := decidableCarefulRun token (step token world move) rest
    inferInstanceAs (Decidable (Careful world move ∧ CarefulRun token (step token world move) rest))

/-- The thread will look at the ticket being served again, or is passing it. -/
def OnDuty (serving : Nat) : Pc → Prop
  | .advanceOwner _ => True
  | .advanceServing _ => True
  | .advanceLook _ seen => seen = serving
  | .advanceLoad _ _ => True
  | .advanceClear _ _ _ => True
  | .advanceBump _ _ => True
  | _ => False

structure Lossless (world : World I) : Prop where
  placed : ∀ ticket, world.lock.serving ≤ ticket → ticket < world.lock.next →
    (∃ thread, (world.pc thread).ticket = some ticket) ∨
      (∃ thread, (thread, ticket) ∈ world.outstanding) ∨ ticket ∈ world.abandoned
  marked : ∀ ticket ∈ world.abandoned, world.lock.serving < ticket →
    world.lock.cancelled.getLsbD (ticket % 32) = true
  duty : world.lock.serving ∈ world.abandoned →
    (∃ thread, OnDuty world.lock.serving (world.pc thread)) ∧
      (world.lock.cancelled.getLsbD (world.lock.serving % 32) = true ∨
        ∃ thread ending, world.pc thread = .advanceBump ending world.lock.serving)

omit [DecidableEq I] in
theorem lossless_new : Lossless (World.new : World I) where
  placed := by
    intro ticket _ below
    simp [World.new, Lock.new] at below
  marked := by simp [World.new]
  duty := by simp [World.new]

section Effects

variable {pc : Pc}

/-- Somebody who had a ticket still has it. -/
theorem placed_update {ticket : Nat} (same : pc.ticket = (world.pc thread).ticket)
    (has : ∃ other, (world.pc other).ticket = some ticket) :
    ∃ other, (update world.pc thread pc other).ticket = some ticket := by
  obtain ⟨other, has⟩ := has
  refine ⟨other, ?_⟩
  by_cases self : other = thread
  · subst self
    rwa [update_self, same]
  · rwa [update_of_ne self]

variable {serving : Nat}

theorem bump_update (mine : ∀ ending, world.pc thread ≠ .advanceBump ending serving) :
    (∃ other ending, world.pc other = .advanceBump ending serving) →
      ∃ other ending, update world.pc thread pc other = .advanceBump ending serving := by
  rintro ⟨other, ending, passing⟩
  refine ⟨other, ending, ?_⟩
  have apart : other ≠ thread := by
    rintro rfl
    exact mine ending passing
  rwa [update_of_ne apart]

theorem duty_update (keeps : OnDuty serving (world.pc thread) →
      OnDuty serving pc ∨ ∃ other, other ≠ thread ∧ OnDuty serving (world.pc other))
    (some_ : ∃ other, OnDuty serving (world.pc other)) :
    ∃ other, OnDuty serving (update world.pc thread pc other) := by
  by_cases mine : OnDuty serving (world.pc thread)
  · rcases keeps mine with still | ⟨other, apart, duty⟩
    · exact ⟨thread, by rwa [update_self]⟩
    · exact ⟨other, by rwa [update_of_ne apart]⟩
  · obtain ⟨other, duty⟩ := some_
    have apart : other ≠ thread := by
      rintro rfl
      exact mine duty
    exact ⟨other, by rwa [update_of_ne apart]⟩

/-- Who is on duty besides this thread. -/
def Relieved (world : World I) (thread : I) : Prop :=
  ∃ other, other ≠ thread ∧ OnDuty world.lock.serving (world.pc other)

variable {lock' : Lock}

theorem Lossless.quiet (lossless : Lossless world)
    (same : SameWords world.lock lock') (ticket : pc.ticket = (world.pc thread).ticket)
    (keeps : world.lock.serving ∈ world.abandoned → OnDuty world.lock.serving (world.pc thread) →
      OnDuty world.lock.serving pc ∨ Relieved world thread)
    (bump : ∀ ending, world.pc thread ≠ .advanceBump ending world.lock.serving) :
    Lossless { world with lock := lock', pc := update world.pc thread pc } := by
  refine ⟨?_, ?_, ?_⟩
  · intro number low high
    simp only [same.serving] at low
    simp only [same.next] at high
    rcases lossless.placed number low high with has | rest
    · exact .inl (placed_update ticket has)
    · exact .inr rest
  · intro number gone above
    simp only [same.serving] at above
    simp only [same.cancelled]
    exact lossless.marked number gone above
  · simp only [same.serving, same.cancelled]
    intro gone
    obtain ⟨duty, set⟩ := lossless.duty gone
    exact ⟨duty_update (keeps gone) duty, set.imp_right (bump_update bump)⟩

variable {old : Pc}

theorem Lossless.goto (lossless : Lossless world) (same : SameWords world.lock lock') (here : world.pc thread = old)
    (ticket : pc.ticket = old.ticket) (keeps : world.lock.serving ∈ world.abandoned → OnDuty world.lock.serving old →
      OnDuty world.lock.serving pc ∨ Relieved world thread)
    (bump : ∀ ending, old ≠ .advanceBump ending world.lock.serving) :
    Lossless (land world thread (Ticket.goto lock' pc)) := by
  subst here
  exact lossless.quiet same ticket keeps bump

theorem Lossless.finish (lossless : Lossless world) {result : Result} (same : SameWords world.lock lock')
    (here : world.pc thread = old) (ticket : old.ticket = none)
    (keeps : world.lock.serving ∈ world.abandoned → OnDuty world.lock.serving old → Relieved world thread)
    (bump : ∀ ending, old ≠ .advanceBump ending world.lock.serving) :
    Lossless (land world thread (Ticket.finish lock' result)) := by
  subst here
  have quiet : Lossless { world with
      lock := lock', pc := update world.pc thread .idle } :=
    lossless.quiet same ticket.symm (fun gone duty => .inr (keeps gone duty)) bump
  exact ⟨quiet.placed, quiet.marked, quiet.duty⟩

theorem Lossless.advanced (lossless : Lossless world) (here : world.pc thread = old) (ticket : old.ticket = none)
    (keeps : world.lock.serving ∈ world.abandoned → OnDuty world.lock.serving old → Relieved world thread)
    (bump : ∀ ending, old ≠ .advanceBump ending world.lock.serving) (ending : Ending) :
    Lossless (land world thread (Ticket.advanced world.lock ending)) := by
  cases ending with
  | timedOut =>
    exact lossless.goto (sameWords_refl _) here ticket.symm (fun gone duty => .inr (keeps gone duty))
      bump
  | unlocked => exact lossless.finish (sameWords_refl _) here ticket keeps bump

variable {number : Nat}

/-- A new ticket is held by the thread that took it. -/
theorem Lossless.reserve (lossless : Lossless world) {next : Nat}
    (here : world.pc thread = old) (newest : world.lock.next = number)
    (grown : next = number + 1) (ticket : pc.ticket = some number) (none : old.ticket = none)
    (off : ¬ OnDuty world.lock.serving old) :
    Lossless { world with
      lock := { world.lock with next }
      pc := update world.pc thread pc
      issued := world.issued + 1 } := by
  subst here newest grown
  refine ⟨?_, lossless.marked, ?_⟩
  · intro number low high
    have high : number < world.lock.next + 1 := high
    by_cases last : number = world.lock.next
    · refine .inl ⟨thread, ?_⟩
      simp only [update_self, ticket, last]
    · rcases lossless.placed number low (by omega) with ⟨other, has⟩ | rest
      · refine .inl ⟨other, ?_⟩
        have apart : other ≠ thread := by
          rintro rfl
          rw [none] at has
          cases has
        simpa only [update_of_ne apart] using has
      · exact .inr rest
  · intro gone
    obtain ⟨duty, set⟩ := lossless.duty gone
    refine ⟨duty_update (absurd · off) duty, set.imp_right (bump_update ?_)⟩
    intro ending here
    rw [here] at off
    exact off trivial

/-- A granted ticket is recorded with the permit. -/
theorem Lossless.claim (lossless : Lossless world) {owner : Nat} (here : world.pc thread = .claim number) :
    Lossless { world with
      lock := { world.lock with owner }
      pc := update world.pc thread (.claimed number)
      outstanding := world.outstanding ++ [(thread, number)]
      grants := world.grants ++ [number] } := by
  refine ⟨?_, lossless.marked, ?_⟩
  · intro ticket low high
    rcases lossless.placed ticket low high with ⟨other, has⟩ | ⟨other, out⟩ | gone
    · by_cases self : other = thread
      · subst self
        rw [here] at has
        obtain rfl : number = ticket := Option.some.inj has
        exact .inr (.inl ⟨other, mem_append_right _ (mem_singleton_self _)⟩)
      · refine .inl ⟨other, ?_⟩
        simpa only [update_of_ne self] using has
    · exact .inr (.inl ⟨other, mem_append_left _ out⟩)
    · exact .inr (.inr gone)
  · intro gone
    obtain ⟨duty, set⟩ := lossless.duty gone
    refine ⟨duty_update (fun mine => ?_) duty, set.imp_right (bump_update ?_)⟩
    · rw [here] at mine
      exact mine.elim
    · rw [here]
      nofun

/-- A ticket given up is marked, and its thread is on duty. -/
theorem Lossless.mark (lossless : Lossless world) (here : world.pc thread = .cancelMark number) :
    Lossless { world with
      lock := { world.lock with cancelled := world.lock.cancelled ||| bit number }
      pc := update world.pc thread (.advanceOwner .timedOut)
      abandoned := world.abandoned ++ [number] } := by
  have stays : ∀ index, world.lock.cancelled.getLsbD index = true →
      (world.lock.cancelled ||| bit number).getLsbD index = true := by
    intro index set
    rw [getLsbD_mark, set, Bool.true_or]
  have marks : (world.lock.cancelled ||| bit number).getLsbD (number % 32) = true := by
    rw [getLsbD_mark]
    simp
  refine ⟨?_, ?_, ?_⟩
  · intro ticket low high
    rcases lossless.placed ticket low high with ⟨other, has⟩ | ⟨other, out⟩ | gone
    · by_cases self : other = thread
      · subst self
        rw [here] at has
        obtain rfl : number = ticket := Option.some.inj has
        exact .inr (.inr (mem_append_right _ (mem_singleton_self _)))
      · refine .inl ⟨other, ?_⟩
        simpa only [update_of_ne self] using has
    · exact .inr (.inl ⟨other, out⟩)
    · exact .inr (.inr (mem_append_left _ gone))
  · intro ticket gone above
    rcases mem_append.mp gone with old | new
    · exact stays _ (lossless.marked ticket old above)
    · rw [mem_singleton.mp new]
      exact marks
  · intro gone
    refine ⟨⟨thread, by simp only [update_self]; trivial⟩, ?_⟩
    rcases mem_append.mp gone with old | new
    · refine (lossless.duty old).2.imp (stays _) (bump_update ?_)
      rw [here]
      nofun
    · refine .inl ?_
      have same : world.lock.serving = number := mem_singleton.mp new
      simp only [same]
      exact marks

/-- A cleared bit is the one of the ticket being served, or was not set. -/
theorem Lossless.clear (sound : Sound token world) (lossless : Lossless world) {ending : Ending}
    {cancelled : BitVec 32}
    (here : world.pc thread = .advanceClear ending serving cancelled)
    (careful : world.lock.cancelled.getLsbD (serving % 32) = true → world.lock.serving = serving) :
    Lossless { world with
      lock := { world.lock with cancelled := world.lock.cancelled &&& ~~~bit serving }
      pc := update world.pc thread (.advanceBump ending serving) } := by
  have placed : ∀ ticket, world.lock.serving ≤ ticket → ticket < world.lock.next →
      (∃ other, (update world.pc thread (.advanceBump ending serving) other).ticket =
        some ticket) ∨ (∃ thread, (thread, ticket) ∈ world.outstanding) ∨
          ticket ∈ world.abandoned := by
    intro ticket low high
    refine (lossless.placed ticket low high).imp_left (placed_update ?_)
    rw [here]
    rfl
  have onDuty : ∃ other, OnDuty world.lock.serving
      (update world.pc thread (.advanceBump ending serving) other) :=
    ⟨thread, by simp only [update_self]; trivial⟩
  have kept : ∀ index, index < 32 → index ≠ serving % 32 →
      world.lock.cancelled.getLsbD index = true →
        (world.lock.cancelled &&& ~~~bit serving).getLsbD index = true := by
    intro index small apart set
    rw [getLsbD_clear _ _ _ small, set]
    simp [apart]
  by_cases set : world.lock.cancelled.getLsbD (serving % 32) = true
  · have served := careful set
    refine ⟨placed, ?_, ?_⟩
    · intro ticket gone above
      have below := sound.past ticket gone
      have window := sound.window
      have above : world.lock.serving < ticket := above
      unfold maxOutstandingTickets at window
      refine kept _ (mod_lt _ (by omega)) ?_ (lossless.marked ticket gone above)
      rw [← served]
      intro same
      have equal := window_unique (le_of_lt above) (by omega) le_rfl (by omega) same
      omega
    · intro _
      refine ⟨onDuty, .inr ⟨thread, ending, ?_⟩⟩
      simp only [update_self, served]
  · -- the bit was clear already, so no bit changes
    have bump : ∀ other, world.pc thread ≠ .advanceBump other world.lock.serving := by
      rw [here]
      nofun
    have still : ∀ index, index < 32 → world.lock.cancelled.getLsbD index = true →
        (world.lock.cancelled &&& ~~~bit serving).getLsbD index = true := by
      intro index small isSet
      refine kept index small ?_ isSet
      rintro rfl
      exact set isSet
    refine ⟨placed, ?_, ?_⟩
    · intro ticket gone above
      exact still _ (mod_lt _ (by omega)) (lossless.marked ticket gone above)
    · intro gone
      refine ⟨onDuty, (lossless.duty gone).2.imp (still _ (mod_lt _ (by omega))) ?_⟩
      exact bump_update bump

/-- Whoever passes the ticket being served looks at the next one. -/
theorem Lossless.serve (lossless : Lossless world) (ending : Ending)
    (grown : serving = world.lock.serving + 1)
    (mine : ∀ ticket, (world.pc thread).ticket = some ticket → ticket = world.lock.serving) :
    Lossless { world with
      lock := { world.lock with serving }
      pc := update world.pc thread (.advanceOwner ending) } := by
  subst grown
  refine ⟨?_, ?_, ?_⟩
  · intro ticket low high
    have low : world.lock.serving + 1 ≤ ticket := low
    rcases lossless.placed ticket (by omega) high with ⟨other, has⟩ | rest
    · refine .inl ⟨other, ?_⟩
      have apart : other ≠ thread := by
        rintro rfl
        have same := mine ticket has
        omega
      simpa only [update_of_ne apart] using has
    · exact .inr rest
  · intro ticket gone above
    exact lossless.marked ticket gone (lt_of_succ_lt above)
  · intro gone
    refine ⟨⟨thread, by simp only [update_self]; trivial⟩, .inl ?_⟩
    exact lossless.marked _ gone (lt_succ_self _)

/-- The ticket of a released permit stays with the thread that is passing it. -/
theorem Lossless.release (lossless : Lossless world)
    (here : world.pc thread = .unlockOwner number)
    (only : world.outstanding = [(thread, number)]) :
    Lossless { world with
      lock := { world.lock with owner := 0 }
      pc := update world.pc thread (.unlockBump number)
      outstanding := world.outstanding.erase (thread, number) } := by
  refine ⟨?_, lossless.marked, ?_⟩
  · intro ticket low high
    rcases lossless.placed ticket low high with ⟨other, has⟩ | ⟨other, out⟩ | gone
    · refine .inl ⟨other, ?_⟩
      have apart : other ≠ thread := by
        rintro rfl
        rw [here] at has
        cases has
      simpa only [update_of_ne apart] using has
    · rw [only, mem_singleton] at out
      cases out
      refine .inl ⟨thread, ?_⟩
      simp only [update_self]
      rfl
    · exact .inr (.inr gone)
  · intro gone
    obtain ⟨duty, set⟩ := lossless.duty gone
    refine ⟨duty_update (fun mine => ?_) duty, set.imp_right (bump_update ?_)⟩
    · rw [here] at mine
      exact mine.elim
    · rw [here]
      nofun

end Effects

/-- A thread that is off duty steps without touching the counters. -/
theorem Lossless.step_off (lossless : Lossless world) {lock' : Lock} {old pc : Pc} (same : SameWords world.lock lock')
    (here : world.pc thread = old) (ticket : pc.ticket = old.ticket) (off : ¬ OnDuty world.lock.serving old) :
    Lossless (land world thread (Ticket.goto lock' pc)) := by
  refine lossless.goto same here ticket (fun _ duty => absurd duty off) ?_
  rintro ending rfl
  exact off trivial

theorem Lossless.finish_off (lossless : Lossless world) {lock' : Lock} {old : Pc} {result : Result}
    (same : SameWords world.lock lock') (here : world.pc thread = old) (ticket : old.ticket = none)
    (off : ¬ OnDuty world.lock.serving old) : Lossless (land world thread (Ticket.finish lock' result)) := by
  refine lossless.finish same here ticket (fun _ duty => absurd duty off) ?_
  rintro ending rfl
  exact off trivial

/-- One atomic access loses no ticket unless it clears another ticket's bit. -/
theorem access_lossless (sound : Sound token world) (distinct : Function.Injective token) (lossless : Lossless world)
    (spurious : Bool) (careful : Careful world (.step thread spurious)) (small : (land world thread
      (access (token thread) spurious world.lock (world.pc thread))).issued < u32Values) : Lossless (land world thread
      (access (token thread) spurious world.lock (world.pc thread))) := by
  have fits : world.issued < u32Values := lt_of_le_of_lt (issued_land _) small
  have succ : ∀ value, value < world.issued → wrappingSucc value = value + 1 := by
    intro value below
    unfold wrappingSucc
    rw [mod_eq_of_lt]
    omega
  have knows := sound.knows thread
  cases here : world.pc thread with
  | idle => exact lossless.step_off (sameWords_refl _) here rfl id
  | tryOwner =>
    rw [access]
    split
    · exact lossless.finish_off (sameWords_refl _) here rfl id
    · exact lossless.step_off (sameWords_refl _) here rfl id
  | tryServing => exact lossless.step_off (sameWords_refl _) here rfl id
  | tryNext serving =>
    rw [access]
    split
    · exact lossless.finish_off (sameWords_refl _) here rfl id
    · exact lossless.step_off (sameWords_refl _) here rfl id
  | tryTake next =>
    rw [here] at small
    rw [access] at small ⊢
    split
    · rename_i same
      rw [if_pos same] at small
      refine lossless.reserve here same ?_ rfl rfl id
      have counted := sound.counted
      have more : world.issued + 1 < u32Values := small
      unfold wrappingSucc
      rw [mod_eq_of_lt]
      omega
    · exact lossless.finish_off (sameWords_refl _) here rfl id
  | lockOwner attempts =>
    rw [access]
    split
    · exact lossless.finish_off (sameWords_refl _) here rfl id
    · split
      · exact lossless.finish_off (sameWords_refl _) here rfl id
      · exact lossless.step_off (sameWords_refl _) here rfl id
  | reserveNext attempts => exact lossless.step_off (sameWords_refl _) here rfl id
  | reserveServing attempts next =>
    rw [access]
    split <;> exact lossless.step_off (sameWords_refl _) here rfl id
  | reserveAgain attempts next =>
    rw [access]
    split
    · exact lossless.step_off (sameWords_refl _) here rfl id
    · exact lossless.finish_off (sameWords_refl _) here rfl id
  | reserveTake attempts next =>
    rw [here] at small
    rw [access] at small ⊢
    split
    · rename_i taken
      rw [if_pos taken] at small
      refine lossless.reserve here taken.1 ?_ rfl rfl id
      have counted := sound.counted
      have more : world.issued + 1 < u32Values := small
      have same := taken.1
      unfold wrappingSucc
      rw [mod_eq_of_lt]
      omega
    · exact lossless.step_off (sameWords_refl _) here rfl id
  | poll attempts ticket =>
    rw [access]
    split <;> exact lossless.step_off (sameWords_refl _) here rfl id
  | contend attempts ticket =>
    rw [access]
    refine lossless.step_off ⟨rfl, rfl, rfl, rfl⟩ here ?_ id
    unfold pollAgain
    split
    · rfl
    · split <;> rfl
  | lastPoll ticket =>
    rw [access]
    split <;> exact lossless.step_off (sameWords_refl _) here rfl id
  | claim ticket =>
    rw [access, if_pos (sound.claim distinct here).1]
    exact lossless.claim here
  | claimed ticket => exact lossless.finish_off ⟨rfl, rfl, rfl, rfl⟩ here rfl id
  | cancelServing ticket =>
    obtain ⟨low, below, _⟩ := sound.owned thread ticket (by rw [here]; rfl)
    have window := sound.window
    have counted := sound.counted
    unfold maxOutstandingTickets at window
    rw [access, if_neg (cancel_room low (by omega) (by omega))]
    exact lossless.step_off (sameWords_refl _) here rfl id
  | cancelMark ticket => exact lossless.mark here
  | advanceOwner ending =>
    rw [access]
    split
    · rename_i owned
      exact lossless.advanced here rfl (fun gone _ => absurd (sound.given_up gone) owned)
        (fun _ same => by cases same) ending
    · exact lossless.goto (sameWords_refl _) here rfl (fun _ _ => .inl trivial) (fun _ same => by cases same)
  | advanceServing ending =>
    exact lossless.goto (sameWords_refl _) here rfl (fun _ _ => .inl rfl) (fun _ same => by cases same)
  | advanceLook ending serving =>
    rw [access]
    split
    · rename_i unset
      rw [and_bit_eq_zero] at unset
      refine lossless.advanced here rfl (fun gone duty => ?_) (fun _ same => by cases same) ending
      -- the bit is gone although its ticket is served: another thread is passing it
      have served : serving = world.lock.serving := duty
      subst served
      rcases (lossless.duty gone).2 with set | ⟨other, ending', passing⟩
      · rw [unset] at set
        cases set
      · refine ⟨other, ?_, by rw [passing]; trivial⟩
        rintro rfl
        rw [here] at passing
        cases passing
    · exact lossless.goto (sameWords_refl _) here rfl (fun _ _ => .inl trivial) (fun _ same => by cases same)
  | advanceLoad ending serving =>
    exact lossless.goto (sameWords_refl _) here rfl (fun _ _ => .inl trivial) (fun _ same => by cases same)
  | advanceClear ending serving cancelled =>
    rw [access]
    split
    · rename_i same
      subst same
      refine lossless.clear sound here (fun set => ?_)
      simpa [Careful, here, clearsStale, set] using careful
    · exact lossless.goto (sameWords_refl _) here rfl (fun _ _ => .inl trivial) (fun _ same => by cases same)
  | advanceBump ending serving =>
    rw [here] at knows
    rw [access]
    split
    · rename_i same
      have below := sound.past _ (knows.2 same).1
      have counted := sound.counted
      subst same
      refine lossless.serve ending (succ _ (by omega)) ?_
      rw [here]
      intro _ same
      cases same
    · rename_i moved
      refine lossless.goto (sameWords_refl _) here rfl (fun _ _ => .inl trivial) ?_
      intro other same
      exact moved (Pc.advanceBump.inj same).2.symm
  | countTimeout => exact lossless.finish_off ⟨rfl, rfl, rfl, rfl⟩ here rfl id
  | unlockServing ticket =>
    rw [access]
    split
    · exact lossless.finish_off (sameWords_refl _) here rfl id
    · exact lossless.step_off (sameWords_refl _) here rfl id
  | unlockOwner ticket =>
    rw [here] at knows
    rw [access]
    split
    · rename_i mine
      refine lossless.release here ?_
      rw [← knows mine]
      exact (sound.holder distinct (sound.named thread (by simp [here])) mine).1
    · exact lossless.finish_off (sameWords_refl _) here rfl id
  | unlockBump ticket =>
    rw [here] at knows
    have served : world.lock.serving = ticket := knows
    have below := (sound.owned thread ticket (by rw [here]; rfl)).2.1
    have counted := sound.counted
    rw [access]
    refine lossless.serve .unlocked (succ _ (by omega)) ?_
    rw [here]
    intro number same
    exact (Option.some.inj same).symm.trans served.symm

theorem step_lossless (sound : Sound token world) (distinct : Function.Injective token) (lossless : Lossless world)
    (move : Move I) (careful : Careful world move) (small : (step token world move).issued < u32Values) :
    Lossless (step token world move) := by
  cases move with
  | call thread call =>
    rw [step]
    split
    · rename_i here
      split
      · exact lossless.finish_off (sameWords_refl _) here rfl id
      · refine lossless.step_off (sameWords_refl _) here ?_ id
        cases call <;> rfl
    · exact lossless
  | step thread spurious => exact access_lossless sound distinct lossless spurious careful small

theorem run_lossless (distinct : Function.Injective token) (moves : List (Move I)) (world : World I)
    (sound : Sound token world) (lossless : Lossless world) (careful : CarefulRun token world moves)
    (small : (run token world moves).issued < u32Values) : Lossless (run token world moves) := by
  induction moves generalizing world with
  | nil => exact lossless
  | cons move rest ih =>
    have fits : (step token world move).issued < u32Values :=
      lt_of_le_of_lt (issued_run rest (step token world move)) small
    exact ih _ (step_sound sound distinct move fits)
      (step_lossless sound distinct lossless move careful.1 fits) careful.2 small

/-- Nobody is inside an operation and no permit is out. -/
def Quiescent (world : World I) : Prop := (∀ thread, world.pc thread = .idle) ∧ world.outstanding = []

omit [DecidableEq I] in
theorem Lossless.idle (sound : Sound token world) (lossless : Lossless world) (quiescent : Quiescent world) :
    world.lock.next = world.lock.serving ∧ world.lock.owner = 0 ∧ world.lock.cancelled = 0 := by
  obtain ⟨idle, none⟩ := quiescent
  have served : world.lock.next = world.lock.serving := by
    by_contra apart
    have ordered := sound.ordered
    have below : world.lock.serving < world.lock.next := by omega
    rcases lossless.placed _ le_rfl below with ⟨thread, has⟩ | ⟨thread, out⟩ | gone
    · rw [idle thread] at has
      cases has
    · rw [none] at out
      cases out
    · obtain ⟨⟨thread, duty⟩, _⟩ := lossless.duty gone
      rw [idle thread] at duty
      exact duty
  refine ⟨served, ?_, ?_⟩
  · by_contra owned
    obtain ⟨_, _, only, _⟩ := sound.held owned
    rw [none] at only
    cases only
  · refine BitVec.eq_of_getLsbD_eq (fun index _ => ?_)
    rw [BitVec.ofNat_eq_ofNat, BitVec.getLsbD_zero, ← Bool.not_eq_true]
    intro set
    obtain ⟨ticket, gone, low, _⟩ := sound.bits index set
    have below := sound.past ticket gone
    omega

/-- On an idle lock `lock_bounded` acquires without waiting: seven accesses of its own. -/
theorem lockBounded_acquires (idle : world.pc thread = .idle) (named : token thread ≠ 0)
    (served : world.lock.next = world.lock.serving) (unowned : world.lock.owner = 0) (none : world.outstanding = [])
    (small : world.lock.next < u32Values) {attempts : Nat} (tries : 0 < attempts) :
    (run token world (.call thread (.lockBounded attempts) ::
      replicate 7 (.step thread false))).outstanding = [(thread, world.lock.next)] := by
  have room : ¬ maxOutstandingTickets ≤ wrappingSub world.lock.serving world.lock.serving := by
    have whole : world.lock.serving + (u32Values - world.lock.serving) = u32Values := by omega
    unfold wrappingSub
    rw [whole, mod_self]
    decide
  have positive : attempts ≠ 0 := by omega
  simp [run, replicate, step, idle, named, land, record, Ticket.goto, Ticket.finish, access,
    Call.entry, unowned, served, none, room, positive, Ne.symm named]

/-- No ticket is lost in a run whose steps never clear another ticket's bit. -/
theorem run_loses_nothing (distinct : Function.Injective token) (moves : List (Move I))
    (small : (run token World.new moves).issued < u32Values)
    (careful : CarefulRun token World.new moves)
    (quiescent : Quiescent (run token World.new moves)) :
    let world := run token World.new moves
    world.lock.next = world.lock.serving ∧ world.lock.owner = 0 ∧ world.lock.cancelled = 0 ∧
      ∀ thread attempts, token thread ≠ 0 → 0 < attempts →
        (run token world (.call thread (.lockBounded attempts) ::
          replicate 7 (.step thread false))).outstanding = [(thread, world.lock.next)] := by
  intro world
  have sound : Sound token world := run_sound distinct moves _ sound_new small
  have lossless : Lossless world :=
    run_lossless distinct moves _ sound_new lossless_new careful small
  obtain ⟨served, unowned, clear⟩ := lossless.idle sound quiescent
  refine ⟨served, unowned, clear, fun thread attempts named tries => ?_⟩
  have fits : world.lock.next < u32Values := by
    rw [sound.counted]
    exact small
  exact lockBounded_acquires (quiescent.1 thread) named served unowned quiescent.2 fits tries

def threeToken (thread : Fin 3) : Nat := thread.val + 1

def steps (thread : Fin 3) (count : Nat) : List (Move (Fin 3)) :=
  List.replicate count (.step thread false)

/-- A whole `lock_bounded` that finds the lock held and gives up. -/
def timesOut (thread : Fin 3) : List (Move (Fin 3)) :=
  .call thread (.lockBounded 1) :: steps thread 11

/-- Thread 0 takes and releases the lock while thread 1 gives up behind it. -/
def oneRound : List (Move (Fin 3)) :=
  .call 0 .tryLock :: steps 0 6 ++ timesOut 1 ++ .call 0 (.unlock 0) :: steps 0 12

theorem run_loses_nothing_oneRound :
    let world := run threeToken World.new oneRound
    world.lock.next = 2 ∧ world.abandoned = [1] ∧ world.lock.next = world.lock.serving := by
  have careful : CarefulRun threeToken World.new oneRound := by decide
  refine ⟨by decide, by decide, ?_⟩
  exact (run_loses_nothing (by decide) oneRound (by decide) careful
    ⟨by decide, by decide⟩).1

/-- Thread 2 reads ticket 1 and its bit, and stalls. The lock moves on to ticket 3, thirty more
tickets are given up, and ticket 33 sets the same bit; then thread 2 clears it. -/
def lostTicket : List (Move (Fin 3)) :=
  .call 0 .tryLock :: steps 0 6 ++ timesOut 1 ++
    .call 2 (.lockBounded 1) :: steps 2 9 ++
    .call 0 (.unlock 0) :: steps 0 3 ++ steps 2 3 ++ steps 0 15 ++
    .call 0 .tryLock :: steps 0 6 ++ (List.replicate 30 (timesOut 1)).flatten ++
    steps 2 5 ++
    .call 0 (.unlock 3) :: steps 0 180

theorem lostTicket_stuck :
    let world := run threeToken World.new lostTicket
    Function.Injective threeToken ∧ (∀ thread, threeToken thread ≠ 0) ∧
      world.issued = 34 ∧ Quiescent world ∧ world.lock.next ≠ world.lock.serving ∧
        (run threeToken world (.call 0 (.lockBounded 1) :: steps 0 13)).history.getLast? =
          some (0, .failed .timeout) := by
  refine ⟨by decide, by decide, by decide +kernel, ⟨by decide +kernel, by decide +kernel⟩,
    by decide +kernel, by decide +kernel⟩

end PooleOS.Locks.Ticket
