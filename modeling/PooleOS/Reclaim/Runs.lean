import PooleOS.Reclaim.Safety

/- Whole runs of the pool among its callers: one step keeps the record sound and
accounts for every value handed in, and so does every interleaving. -/
namespace PooleOS.Reclaim

open List

variable {T : Type} {N : Nat}

/-- The value a caller handed in with this step. -/
def offered : Move T N → Option T
  | .call (.publish _ value) => some value
  | .contend (.publish _ value) => some value
  | _ => none

/-- The value a finished call handed back. -/
def Event.handedBack : Event T N → Option T
  | .returned _ value => some value
  | .reclaimed _ value => value
  | _ => none

namespace World

def handedBack (world : World T N) : Multiset T :=
  (world.history.map (fun event => optional event.handedBack)).sum

/-- The value of a `publish` that is inside the gate and undecided. -/
def undecided (world : World T N) : Option T :=
  match world.inside with
  | some (.entered (.publish _ value)) => some value
  | _ => none

/-- Every place a value can be. -/
def holdings (world : World T N) : Multiset T :=
  gather world.pool.values + world.handedBack + optional world.undecided

structure Fine (world : World T N) : Prop where
  sound : Reclaim.Sound world.pool world.live world.history
  ready : Ready world.pool world.inside

variable {world : World T N}

theorem busy_inert (call : Call T N) : (busy call).Inert := by
  cases call <;> trivial

theorem busy_handedBack (call : Call T N) : (busy call).handedBack = offered (.contend call) := by
  cases call <;> rfl

theorem Fine.log (fine : world.Fine) {event : Event T N} (inert : event.Inert) : (world.log event).Fine :=
  ⟨fine.sound.inert inert, fine.ready⟩

theorem Fine.enter (fine : world.Fine) (call : Call T N) : (world.enter call).Fine := by
  cases call with
  | publish owner value =>
    rw [World.enter]
    split
    · exact ⟨fine.sound.inert trivial, trivial⟩
    · rename_i handle pool ok
      obtain ⟨free, own, next, rfl⟩ := publish_ok ok
      exact ⟨fine.sound.publish free own next, trivial⟩
  | pin handle =>
    rw [World.enter]
    split
    · exact ⟨fine.sound.inert trivial, trivial⟩
    · rename_i ok
      exact ⟨fine.sound, checkPin_ok ok⟩
  | retire handle owner =>
    rw [World.enter]
    split
    · exact ⟨fine.sound.inert trivial, trivial⟩
    · rename_i ok
      obtain ⟨current, rfl⟩ := retire_ok ok
      exact ⟨fine.sound.retire current, trivial⟩
  | reclaim handle owner =>
    rw [World.enter]
    split
    · exact ⟨fine.sound.inert trivial, trivial⟩
    · rename_i ok
      exact ⟨fine.sound, checkReclaim_ok ok⟩
  | beginShutdown => exact ⟨fine.sound.beginShutdown.inert trivial, trivial⟩

/-- What the section under way knows survives a pin dropped by somebody else. -/
theorem ready_drop {pool : Pool T N} {live : List (Pin N)} {history : List (Event T N)}
    (sound : Reclaim.Sound pool live history) {inside : Option (Section T N)} (ready : Ready pool inside) {pin : Pin N}
    (member : pin ∈ live) : Ready (pool.dropPin pin.slot) inside := by
  obtain ⟨position, bound, at_⟩ := getElem_of_mem member
  have here : live[position]? = some pin := List.getElem?_eq_some_iff.mpr ⟨bound, at_⟩
  obtain ⟨positive, after⟩ := sound.drop here
  rcases inside with _ | ⟨call | handle | handle | _⟩
  · trivial
  · trivial
  · obtain ⟨current, live, room⟩ := ready
    refine ⟨current, live, ?_⟩
    by_cases same : handle.slot = pin.slot
    · rw [same] at room ⊢
      rw [sound.lowered positive]
      exact Nat.lt_of_le_of_lt (Nat.sub_le _ _) room
    · simpa [Pool.dropPin, same] using room
  · obtain ⟨current, retired, zero⟩ := ready
    refine ⟨current, retired, ?_⟩
    have other : handle.slot ≠ pin.slot := (sound.unpinned zero member).symm
    simpa [Pool.dropPin, other] using zero
  · trivial

theorem Fine.proceed (fine : world.Fine) {inside : Section T N}
    (here : world.inside = some inside) : (world.proceed inside).Fine := by
  have ready := here ▸ fine.ready
  cases inside with
  | entered call => exact fine.enter call
  | admitting handle => exact ⟨fine.sound.pin ready.1 ready.2.2, trivial⟩
  | taking handle =>
    obtain ⟨value, holds, _, after⟩ := fine.sound.reclaim ready.1 ready.2.2
    refine ⟨?_, trivial⟩
    have same : (world.pool.takeValue handle.slot).1 = some value := holds
    simp only [World.proceed, World.leave, same]
    exact after
  | leaving => exact ⟨fine.sound, trivial⟩

theorem Fine.step (fine : world.Fine) (move : Move T N) : (world.step move).Fine := by
  cases move with
  | call call =>
    rw [World.step]
    split
    · exact ⟨fine.sound, trivial⟩
    · exact fine.log (busy_inert call)
  | contend call => exact fine.log (busy_inert call)
  | proceed =>
    rw [World.step]
    split
    · exact fine
    · rename_i here
      exact fine.proceed here
  | drop position =>
    rw [World.step]
    split
    · exact fine
    · rename_i pin here
      exact ⟨(fine.sound.drop here).2, ready_drop fine.sound fine.ready (mem_of_getElem? here)⟩

theorem fine_new {start : World T N} {address : Nat} {limits : Limits}
    (opened : World.new address limits = .ok start) : start.Fine := by
  obtain ⟨pool, made, result⟩ := bind_eq_ok opened
  cases result
  unfold Pool.new at made
  split at made
  · cases made
  · cases made
    exact ⟨⟨fun _ => rfl, fun _ => Nat.zero_le _, by simp, by simp [Entry.empty], by simp, by simp,
      by simp, by simp, .nil⟩, trivial⟩

theorem run_fine {start : World T N} (fine : start.Fine) (moves : List (Move T N)) : (start.run moves).Fine := by
  have keeps : ∀ (world : World T N) (move : Move T N), world.Fine → (world.step move).Fine :=
    fun _ move fine => fine.step move
  exact Op.foldl_invariant keeps moves start fine

section Accounts

theorem holdings_leave (event : Event T N) : (world.leave event).holdings =
      gather world.pool.values + world.handedBack + optional event.handedBack := by
  simp only [World.holdings, World.leave, World.handedBack, World.undecided, map_append,
    sum_append, map_singleton, sum_singleton, add_assoc]
  exact congrArg _ (congrArg _ (add_zero _))

theorem holdings_log (event : Event T N) : (world.log event).holdings = world.holdings + optional event.handedBack := by
  simp only [World.holdings, World.log, World.handedBack, World.undecided, map_append,
    sum_append, map_singleton, sum_singleton]
  exact (congrArg (· + _) (add_assoc _ _ _).symm).trans (add_right_comm _ _ _)

/-- A call that is decided inside the gate hands its value to the pool or back. -/
theorem holdings_enter (fine : world.Fine) (call : Call T N) : (world.enter call).holdings =
      gather world.pool.values + world.handedBack + optional (offered (.call call)) := by
  cases call with
  | publish owner value =>
    rw [World.enter]
    split
    · rename_i reason given failed
      rw [holdings_leave, publish_error failed]
      rfl
    · rename_i handle pool ok
      obtain ⟨free, _, _, rfl⟩ := publish_ok ok
      have empty : world.pool.values handle.slot = none := (fine.sound.occupied _).mp free
      have moved := gather_update world.pool.values handle.slot (some value)
      rw [empty] at moved
      rw [holdings_leave]
      change gather (Function.update world.pool.values handle.slot (some value)) +
        world.handedBack + 0 = gather world.pool.values + world.handedBack + optional (some value)
      rw [add_zero, add_right_comm, ← moved, optional_none, add_zero]
  | pin handle =>
    rw [World.enter]
    split
    · rw [holdings_leave]
      rfl
    · rfl
  | retire handle owner =>
    rw [World.enter]
    split
    · rw [holdings_leave]
      rfl
    · rename_i ok
      obtain ⟨_, rfl⟩ := retire_ok ok
      rw [holdings_leave]
      rfl
  | reclaim handle owner =>
    rw [World.enter]
    split
    · rw [holdings_leave]
      rfl
    · rfl
  | beginShutdown =>
    rw [World.enter, holdings_leave]
    rfl

theorem holdings_proceed (fine : world.Fine) {inside : Section T N} (here : world.inside = some inside) :
    (world.proceed inside).holdings = world.holdings := by
  have pending : world.holdings = gather world.pool.values + world.handedBack +
      optional (World.undecided { world with inside := some inside }) := by
    rw [← here]
    rfl
  rw [pending]
  cases inside with
  | entered call =>
    rw [World.proceed, holdings_enter fine call]
    cases call <;> rfl
  | admitting handle =>
    rw [World.proceed, holdings_leave]
    rfl
  | taking handle =>
    have moved := gather_update world.pool.values handle.slot none
    rw [World.proceed, holdings_leave]
    change gather (Function.update world.pool.values handle.slot none) + world.handedBack +
      optional (world.pool.values handle.slot) = gather world.pool.values + world.handedBack + 0
    rw [add_right_comm, moved, optional_none, add_zero, add_zero]
  | leaving => rfl

/-- A step adds the value it was handed to what is accounted for, and loses nothing. -/
theorem holdings_step (fine : world.Fine) (move : Move T N) :
    (world.step move).holdings = world.holdings + optional (offered move) := by
  cases move with
  | call call =>
    rw [World.step]
    split
    · rename_i outside
      have none : world.holdings = gather world.pool.values + world.handedBack := by
        rw [World.holdings, World.undecided, outside]
        exact add_zero _
      rw [none]
      cases call <;> rfl
    · rw [holdings_log, busy_handedBack]
      cases call <;> rfl
  | contend call =>
    rw [World.step, holdings_log, busy_handedBack]
  | proceed =>
    rw [World.step]
    split
    · exact (add_zero _).symm
    · rename_i inside here
      rw [holdings_proceed fine here]
      exact (add_zero _).symm
  | drop position =>
    rw [World.step]
    split
    · exact (add_zero _).symm
    · exact (add_zero _).symm

theorem run_holdings {start : World T N} (fine : start.Fine) (moves : List (Move T N)) : (start.run moves).holdings =
      start.holdings + (moves.map (fun move => optional (offered move))).sum := by
  induction moves generalizing start with
  | nil => exact (add_zero _).symm
  | cons move rest ih =>
    rw [World.run, foldl_cons, ← World.run, ih (fine.step move), holdings_step fine move,
      map_cons, sum_cons, add_assoc]

end Accounts

section Statements

theorem enter_not_reclaimed (call : Call T N) {handle : Handle N} {result : Option T} :
    (world.enter call).history ≠ world.history ++ [.reclaimed handle result] := by
  cases call with
  | publish owner value =>
    rw [World.enter]
    split <;> simp [World.leave]
  | pin handle =>
    rw [World.enter]
    split <;> simp [World.leave]
  | retire handle owner =>
    rw [World.enter]
    split <;> simp [World.leave]
  | reclaim handle owner =>
    rw [World.enter]
    split <;> simp [World.leave]
  | beginShutdown => simp [World.enter, World.leave]

/-- Only the last step of a reclaim hands a stored value back. -/
theorem reclaimed_taking {move : Move T N} {handle : Handle N} {result : Option T}
    (event : (world.step move).history = world.history ++ [.reclaimed handle result]) :
    world.inside = some (.taking handle) := by
  cases move with
  | call call =>
    rw [World.step] at event
    split at event
    · simp at event
    · cases call <;> simp [World.log, World.busy] at event
  | contend call => cases call <;> simp [World.step, World.log, World.busy] at event
  | proceed =>
    rw [World.step] at event
    split at event
    · simp at event
    · rename_i inside here
      cases inside with
      | entered call => exact absurd event (enter_not_reclaimed call)
      | admitting other => simp [World.proceed, World.leave] at event
      | taking other =>
        simp only [World.proceed, World.leave, append_cancel_left_eq, cons.injEq,
          Event.reclaimed.injEq] at event
        rw [here, event.1.1]
      | leaving => simp [World.proceed] at event
  | drop position =>
    rw [World.step] at event
    split at event <;> simp at event

/-- A handle is published once, so it names one value. -/
theorem published_unique {history : List (Event T N)} (ordered : history.Pairwise Follows) {handle : Handle N} {value value' : T}
    (first : .published handle value ∈ history) (second : .published handle value' ∈ history) :
    value = value' := by
  obtain ⟨i, inside, here⟩ := getElem_of_mem first
  obtain ⟨j, inside', here'⟩ := getElem_of_mem second
  rw [pairwise_iff_getElem] at ordered
  rcases Nat.lt_trichotomy i j with before | same | after
  · have follows := ordered i j inside inside' before
    have less := follows.2 handle value handle value' here here' rfl
    omega
  · subst same
    rw [here] at here'
    cases here'
    rfl
  · have follows := ordered j i inside' inside after
    have less := follows.2 handle value' handle value here' here rfl
    omega

/-- A reclaimed handle is turned away as stale. -/
theorem validate_spent {pool : Pool T N} {handle : Handle N} (own : handle.pool = pool.address)
    (spent : Spent pool handle) : pool.validate handle = .error .stale := by
  unfold Pool.validate
  rw [if_neg (not_ne_iff.mpr own), if_pos]
  rcases spent with older | ⟨_, free⟩
  · right
    omega
  · exact .inl free

end Statements

end World

open World in
/-- The pool over every interleaving of its callers. -/
theorem run_reclaims {start : World T N} {address : Nat} {limits : Limits}
    (opened : World.new address limits = .ok start) (moves : List (Move T N)) :
    let world := start.run moves
    -- every value handed in is in one place: stored, handed back, or in a call under way
    gather world.pool.values + world.handedBack + optional world.undecided =
        (moves.map (fun move => optional (offered move))).sum ∧
      (∀ handle result, .reclaimed handle result ∈ world.history →
        ∃ value, result = some value ∧ .published handle value ∈ world.history) ∧
      -- a reclaim succeeds only when no pin on the slot is out
      (∀ move handle result, (world.step move).history = world.history ++ [.reclaimed handle result] →
          ∀ pin ∈ world.live, pin.slot ≠ handle.slot) ∧
      -- a live pin reads the one value published under its handle
      (∀ pin ∈ world.live, ∃ value, world.pool.deref pin = some value ∧
        ∀ other, .published pin.handle other ∈ world.history ↔ other = value) ∧
      -- a reclaimed handle is stale in every later state, and no later call accepted it
      (∀ handle result, .reclaimed handle result ∈ world.history → world.pool.validate handle = .error .stale) ∧
      world.history.Pairwise Follows ∧
      -- the counts are the pins, and neither end of the counter is reached
      (∀ slot, world.pool.pins slot = world.live.countP (fun pin => pin.slot = slot)) ∧
      (∀ pin ∈ world.live, 0 < world.pool.pins pin.slot) ∧
      ∀ handle, world.inside = some (.admitting handle) →
        world.pool.pins handle.slot + 1 < u32Values := by
  intro world
  have fine : world.Fine := run_fine (fine_new opened) moves
  have sound := fine.sound
  refine ⟨?_, sound.given, ?_, ?_, ?_, sound.ordered, sound.counted, ?_, ?_⟩
  · have accounts := run_holdings (fine_new opened) moves
    have empty : start.holdings = 0 := by
      obtain ⟨pool, made, result⟩ := bind_eq_ok opened
      cases result
      unfold Pool.new at made
      split at made
      · cases made
      · cases made
        simp [World.holdings, gather, World.handedBack, World.undecided]
    rw [empty, zero_add] at accounts
    exact accounts
  · intro move handle result event pin member
    have ready := fine.ready
    rw [reclaimed_taking event] at ready
    exact sound.unpinned ready.2.2 member
  · intro pin member
    have current := sound.held pin member
    obtain ⟨value, holds⟩ : ∃ value, world.pool.values pin.slot = some value := by
      refine Option.ne_none_iff_exists'.mp (fun empty => ?_)
      exact current.2.1 ((sound.occupied pin.slot).mpr empty)
    have published : .published pin.handle value ∈ world.history := by
      have old := sound.origin pin.slot value holds
      rwa [← current.1, Pin.slot, current.2.2] at old
    refine ⟨value, holds, fun other => ⟨fun again => ?_, fun same => same ▸ published⟩⟩
    exact published_unique sound.ordered again published
  · intro handle result member
    obtain ⟨value, _, published⟩ := sound.given handle result member
    exact validate_spent (sound.issued handle value published).1 (sound.spent handle result member)
  · intro pin member
    rw [sound.counted, countP_pos_iff]
    exact ⟨pin, member, decide_eq_true rfl⟩
  · intro handle here
    have ready := fine.ready
    rw [here] at ready
    have room := ready.2.2
    have fits := world.pool.limits.pins_lt
    omega

def oneEach : Limits := ⟨1, 1, by decide, by decide⟩

/-- One slot, published and pinned. -/
def onePin : List (Move Bool 1) :=
  [.call (.publish ⟨1, 1⟩ true), .proceed, .proceed, .call (.pin ⟨7, 0, 1⟩), .proceed, .proceed]

theorem run_reclaims_onePin : ∃ start : World Bool 1, World.new 7 oneEach = .ok start ∧
      ((start.run onePin).live = [⟨⟨7, 0, 1⟩⟩] ∧ (start.run onePin).pool.validate ⟨7, 0, 1⟩ = .ok 0) ∧
      ∀ slot, (start.run onePin).pool.pins slot = (start.run onePin).live.countP (fun pin => pin.slot = slot) := by
  refine ⟨_, rfl, ⟨by decide, by decide⟩, ?_⟩
  exact (@run_reclaims Bool 1 _ 7 oneEach rfl onePin).2.2.2.2.2.2.1

end PooleOS.Reclaim
