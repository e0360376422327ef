import PooleOS.Locks.TicketSafety

/- Runs of the ticket lock: every atomic access of every thread keeps the
invariant, so every interleaving does, as long as fewer than 2^32 tickets are
handed out. -/
namespace PooleOS.Locks.Ticket

open Nat Function

variable {I : Type} [DecidableEq I] {token : I → Nat} {world : World I} {thread : I}

theorem sameWords_refl (lock : Lock) : SameWords lock lock := ⟨rfl, rfl, rfl, rfl⟩

theorem Sound.goto (sound : Sound token world) {lock' : Lock} {old pc : Pc} (same : SameWords world.lock lock')
    (here : world.pc thread = old) (busy : old ≠ .idle) (ticket : pc.ticket = old.ticket)
    (may : old.MayHold → pc.MayHold ∨ world.lock.owner ≠ token thread) (bump : ∀ ticket, old ≠ .unlockBump ticket)
    (knows : Knows (token thread) world.lock world.abandoned pc) :
    Sound token (land world thread (Ticket.goto lock' pc)) := by
  subst here
  exact sound.quiet same ticket (fun _ => sound.named thread busy) may bump knows

/-- A thread that cannot hold the lock moves on. -/
theorem Sound.goto_off (sound : Sound token world) {old pc : Pc} (here : world.pc thread = old)
    (ticket : pc.ticket = old.ticket) (off : ¬ old.MayHold) (bump : ∀ ticket, old ≠ .unlockBump ticket)
    (knows : Knows (token thread) world.lock world.abandoned pc) :
    Sound token (land world thread (Ticket.goto world.lock pc)) := by
  refine sound.goto (sameWords_refl _) here ?_ ticket (fun able => absurd able off) bump knows
  rintro rfl
  exact off trivial

theorem Sound.finish (sound : Sound token world) {lock' : Lock} {old : Pc} {result : Result}
    (same : SameWords world.lock lock') (here : world.pc thread = old) (ticket : old.ticket = none)
    (fine : result ≠ .failed .invariant) : Sound token (land world thread (Ticket.finish lock' result)) := by
  subst here
  have bump : ∀ number, world.pc thread ≠ .unlockBump number := by
    intro number releasing
    rw [releasing] at ticket
    cases ticket
  have quiet : Sound token
      { world with lock := lock', pc := update world.pc thread .idle } :=
    sound.quiet same ticket.symm (fun busy => absurd rfl busy) (fun _ => .inl trivial) bump trivial
  exact quiet.log fine

theorem Sound.advanced (sound : Sound token world) {old : Pc} (here : world.pc thread = old)
    (busy : old ≠ .idle) (ticket : old.ticket = none) (may : ¬ old.MayHold) (ending : Ending) :
    Sound token (land world thread (Ticket.advanced world.lock ending)) := by
  cases ending with
  | timedOut =>
    refine sound.goto (sameWords_refl _) here busy ticket.symm (absurd · may) ?_
      trivial
    rintro number rfl
    cases ticket
  | unlocked => exact sound.finish (sameWords_refl _) here ticket (by nofun)

/-- A ticket taken after a look at the counters is inside the window. -/
theorem reserve_room {next serving limit : Nat} (bound : serving ≤ limit) (small : next < u32Values)
    (less : serving < u32Values) (room : ¬ maxOutstandingTickets ≤ wrappingSub next serving) :
    next < limit + maxOutstandingTickets := by
  unfold wrappingSub maxOutstandingTickets u32Values at *
  omega

theorem cancel_room {ticket serving : Nat} (low : serving ≤ ticket) (high : ticket < serving + 32)
    (small : ticket < u32Values) : ¬ maxOutstandingTickets ≤ wrappingSub ticket serving := by
  unfold wrappingSub maxOutstandingTickets u32Values at *
  omega

theorem issued_land (outcome : Outcome) : world.issued ≤ (land world thread outcome).issued := by
  unfold land record
  split <;> simp

/-- One atomic access keeps the invariant. -/
theorem access_sound (sound : Sound token world) (distinct : Function.Injective token) (spurious : Bool)
    (small : (land world thread (access (token thread) spurious world.lock (world.pc thread))).issued < u32Values) :
    Sound token (land world thread (access (token thread) spurious world.lock (world.pc thread))) := by
  have fits : world.issued < u32Values := lt_of_le_of_lt (issued_land _) small
  have knows := sound.knows thread
  cases here : world.pc thread with
  | idle =>
    have quiet : Sound token
        { world with lock := world.lock, pc := update world.pc thread .idle } :=
      sound.quiet (sameWords_refl _) (by rw [here]) (fun busy => absurd rfl busy)
        (fun _ => .inl trivial) (by rw [here]; nofun) trivial
    exact quiet
  | tryOwner =>
    rw [access]
    split
    · exact sound.finish (sameWords_refl _) here rfl (by nofun)
    · rename_i other
      exact sound.goto (sameWords_refl _) here (by nofun) rfl (fun _ => .inr other) (by nofun)
        trivial
  | tryServing =>
    exact sound.goto_off here rfl id (by nofun)
      (le_refl _)
  | tryNext serving =>
    rw [here] at knows
    rw [access]
    split
    · exact sound.finish (sameWords_refl _) here rfl (by nofun)
    · rename_i same
      refine sound.goto_off here rfl id (by nofun) ?_
      rw [not_ne_iff.mp same]
      exact knows
  | tryTake next =>
    rw [here] at knows small
    rw [access] at small ⊢
    split
    · rename_i same
      rw [if_pos same] at small
      have ordered := sound.ordered
      have low : next ≤ world.lock.serving := knows
      have served : world.lock.serving = next := by omega
      refine sound.reserve same ?_ small rfl (by rw [here]; rfl)
        (sound.named thread (by rw [here]; nofun)) (by rw [here]; exact id) served
      rw [← served]
      exact Nat.lt_add_of_pos_right (by decide)
    · exact sound.finish (sameWords_refl _) here rfl (by nofun)
  | lockOwner attempts =>
    rw [access]
    split
    · exact sound.finish (sameWords_refl _) here rfl (by nofun)
    · rename_i other
      split
      · exact sound.finish (sameWords_refl _) here rfl (by nofun)
      · exact sound.goto (sameWords_refl _) here (by nofun) rfl (fun _ => .inr other) (by nofun)
          trivial
  | reserveNext attempts =>
    refine sound.goto_off here rfl id (by nofun) ?_
    rw [sound.counted]
    exact fits
  | reserveServing attempts next =>
    rw [here] at knows
    rw [access]
    split
    · exact sound.goto_off here rfl id (by nofun) trivial
    · rename_i room
      exact sound.goto_off here rfl id (by nofun)
        (reserve_room (le_refl _) knows (sound.serving_lt fits) room)
  | reserveAgain attempts next =>
    rw [access]
    split
    · exact sound.goto_off here rfl id (by nofun) trivial
    · exact sound.finish (sameWords_refl _) here rfl (by nofun)
  | reserveTake attempts next =>
    rw [here] at knows small
    rw [access] at small ⊢
    split
    · rename_i taken
      rw [if_pos taken] at small
      exact sound.reserve taken.1 knows small rfl (by rw [here]; rfl)
        (sound.named thread (by rw [here]; nofun)) (by rw [here]; exact id) trivial
    · exact sound.goto_off here rfl id (by nofun) trivial
  | poll attempts ticket =>
    rw [access]
    split
    · rename_i served
      exact sound.goto_off here rfl id (by nofun) served
    · exact sound.goto_off here rfl id (by nofun) trivial
  | contend attempts ticket =>
    refine sound.goto ⟨rfl, rfl, rfl, rfl⟩ here (by nofun) ?_ (fun able => able.elim) (by nofun) ?_
    · unfold pollAgain
      split
      · rfl
      · split <;> rfl
    · unfold pollAgain
      split
      · trivial
      · split <;> trivial
  | lastPoll ticket =>
    rw [access]
    split
    · rename_i served
      exact sound.goto_off here rfl id (by nofun) served
    · exact sound.goto_off here rfl id (by nofun) trivial
  | claim ticket =>
    obtain ⟨unowned, after⟩ := sound.claim distinct here
    rw [access, if_pos unowned]
    exact after
  | claimed ticket =>
    exact sound.finish ⟨rfl, rfl, rfl, rfl⟩ here rfl (by nofun)
  | cancelServing ticket =>
    obtain ⟨low, below, _⟩ := sound.owned thread ticket (by rw [here]; rfl)
    have window := sound.window
    have counted := sound.counted
    unfold maxOutstandingTickets at window
    rw [access, if_neg (cancel_room low (by omega) (by omega))]
    exact sound.goto_off here rfl id (by nofun) trivial
  | cancelMark ticket =>
    exact sound.mark here
  | advanceOwner ending =>
    rw [access]
    split
    · exact sound.advanced here (by nofun) rfl id ending
    · exact sound.goto_off here rfl id (by nofun) trivial
  | advanceServing ending =>
    exact sound.goto_off here rfl id (by nofun)
      (le_refl _)
  | advanceLook ending serving =>
    rw [here] at knows
    rw [access]
    split
    · exact sound.advanced here (by nofun) rfl id ending
    · rename_i set
      refine sound.goto_off here rfl id (by nofun)
        ⟨knows, fun same => ?_⟩
      -- the bit belongs to a ticket of the window, so to the one being served
      rw [and_bit_eq_zero, Bool.not_eq_false] at set
      obtain ⟨ticket, gone, low, equal⟩ := sound.bits _ set
      have below := sound.past ticket gone
      have window := sound.window
      unfold maxOutstandingTickets at window
      have mine : ticket = serving :=
        window_unique low (by omega) (le_of_eq same) (by omega) equal
      exact mine ▸ gone
  | advanceLoad ending serving =>
    rw [here] at knows
    exact sound.goto_off here rfl id (by nofun) knows
  | advanceClear ending serving cancelled =>
    rw [access]
    split
    · rename_i same
      rw [← same]
      exact sound.clear here
    · exact sound.goto_off here rfl id (by nofun) trivial
  | advanceBump ending serving =>
    rw [here] at knows
    rw [access]
    split
    · rename_i same
      obtain ⟨gone, clear⟩ := knows.2 same
      subst same
      refine sound.serve fits (sound.given_up gone) (sound.past _ gone) ?_ clear
        (sound.named thread (by rw [here]; nofun)) ending
      intro other _ wants
      exact (sound.owned other _ wants).2.2 gone
    · exact sound.goto_off here rfl id (by nofun) trivial
  | countTimeout =>
    exact sound.finish ⟨rfl, rfl, rfl, rfl⟩ here rfl (by nofun)
  | unlockServing ticket =>
    rw [access]
    split
    · exact sound.finish (sameWords_refl _) here rfl (by nofun)
    · rename_i served
      exact sound.goto (sameWords_refl _) here (by nofun) rfl (fun _ => .inl trivial) (by nofun)
        (fun _ => not_ne_iff.mp served)
  | unlockOwner ticket =>
    rw [access]
    split
    · rename_i mine
      exact sound.release distinct here mine
    · exact sound.finish (sameWords_refl _) here rfl (by nofun)
  | unlockBump ticket =>
    rw [here] at knows
    have served : world.lock.serving = ticket := knows
    have wants : (world.pc thread).ticket = some world.lock.serving := by
      rw [here, served]
      rfl
    obtain ⟨_, below, alive⟩ := sound.owned thread _ wants
    refine sound.serve fits (sound.unowned wants) below ?_ ?_
      (sound.named thread (by rw [here]; nofun)) .unlocked
    · intro other elsewhere also
      exact elsewhere (sound.unique other thread _ also wants)
    · rw [← Bool.not_eq_true]
      intro set
      obtain ⟨ticket, gone, low, equal⟩ := sound.bits _ set
      have less := sound.past ticket gone
      have window := sound.window
      unfold maxOutstandingTickets at window
      have mine : ticket = world.lock.serving :=
        window_unique low (by omega) (le_refl _) (by omega) equal
      exact alive (mine ▸ gone)

theorem call_sound (sound : Sound token world) (call : Call) : Sound token (step token world (.call thread call)) := by
  rw [step]
  split
  · rename_i here
    split
    · exact sound.finish (sameWords_refl _) here rfl (by nofun)
    · rename_i named
      have quiet : Sound token
          { world with lock := world.lock, pc := update world.pc thread call.entry } := by
        refine sound.quiet (sameWords_refl _) ?_ (fun _ => named) (fun _ => .inl ?_)
          (by rw [here]; nofun) ?_
        · rw [here]
          cases call <;> rfl
        · cases call <;> trivial
        · cases call <;> trivial
      exact quiet
  · exact sound

theorem step_sound (sound : Sound token world) (distinct : Function.Injective token) (move : Move I)
    (small : (step token world move).issued < u32Values) : Sound token (step token world move) := by
  cases move with
  | call thread call => exact call_sound sound call
  | step thread spurious => exact access_sound sound distinct spurious small

theorem issued_mono (move : Move I) : world.issued ≤ (step token world move).issued := by
  cases move with
  | call thread call =>
    rw [step]
    split
    · split <;> exact issued_land _
    · exact le_refl _
  | step thread spurious => exact issued_land _

theorem issued_run (moves : List (Move I)) (world : World I) : world.issued ≤ (run token world moves).issued := by
  induction moves generalizing world with
  | nil => exact le_refl _
  | cons move rest ih => exact le_trans (issued_mono move) (ih (step token world move))

theorem run_sound (distinct : Function.Injective token) (moves : List (Move I)) (world : World I)
    (sound : Sound token world) (small : (run token world moves).issued < u32Values) :
    Sound token (run token world moves) := by
  induction moves generalizing world with
  | nil => exact sound
  | cons move rest ih =>
    have fits : (step token world move).issued < u32Values :=
      lt_of_le_of_lt (issued_run rest (step token world move)) small
    exact ih (step token world move) (step_sound sound distinct move fits) small

/-- Mutual exclusion, ticket order and the window over every interleaving. -/
theorem run_excludes (distinct : Function.Injective token) (moves : List (Move I))
    (small : (run token World.new moves).issued < u32Values) :
    let world := run token World.new moves
    world.outstanding.length ≤ 1 ∧
      (∀ thread, (thread, .failed .invariant) ∉ world.history) ∧
      world.grants.Pairwise (· < ·) ∧
      (∀ ticket ∈ world.abandoned, ticket ∉ world.grants) ∧
      world.lock.serving ≤ world.lock.next ∧
      world.lock.next - world.lock.serving ≤ maxOutstandingTickets := by
  intro world
  have sound : Sound token world := run_sound distinct moves _ sound_new small
  refine ⟨?_, sound.clean, sound.rising, ?_, sound.ordered, ?_⟩
  · by_cases owned : world.lock.owner = 0
    · rw [sound.free owned]
      exact zero_le _
    · obtain ⟨_, _, only, _⟩ := sound.held owned
      rw [only]
      exact le_refl _
  · exact fun ticket gone granted => (sound.given ticket granted).1 gone
  · have window := sound.window
    omega

/-- Two threads, one of which gives up while the other holds the lock. -/
def oneTimeout : List (Move Bool) :=
  .call true .tryLock :: List.replicate 6 (.step true false) ++
    .call false (.lockBounded 1) :: List.replicate 11 (.step false false)

def boolToken (thread : Bool) : Nat := if thread then 1 else 2

theorem run_excludes_oneTimeout :
    let world := run boolToken World.new oneTimeout
    (world.outstanding = [(true, 0)] ∧ world.abandoned = [1]) ∧ world.outstanding.length ≤ 1 := by
  refine ⟨by decide, ?_⟩
  exact (run_excludes (by decide) oneTimeout (by decide +kernel)).1

end PooleOS.Locks.Ticket
