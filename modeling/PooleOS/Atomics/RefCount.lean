import PooleOS.Lib.Result

/- The reference counter of the kernel (`kernel/src/atomics.rs`). Threads call `acquire` and `release`;
each load and each weak compare-exchange of theirs is one step. -/
namespace PooleOS.Atomics

open Function Option
open List

/-- `u32::MAX - 1`. -/
def maxRefcount : Nat := 2 ^ 32 - 2

inductive RefCountError
  | initialValue
  | overflow
  | underflow
deriving DecidableEq, Repr

structure RefRelease where
  remaining : Nat
  becameZero : Bool
deriving DecidableEq, Repr

namespace RefCount

def tryNew (value : Nat) : Except RefCountError Nat :=
  if value = 0 ∨ maxRefcount < value then .error .initialValue else .ok value

inductive Method
  | acquire
  | release
deriving DecidableEq, Repr

inductive Answer
  | acquired (value : Nat)
  | released (release : RefRelease)
  | refused (error : RefCountError)
deriving DecidableEq, Repr

/-- What the loop of a method makes of an observed value: the value that it tries to store. -/
def attempt : Method → Nat → Except RefCountError Nat
  | .acquire, observed => do
    demand (observed ≠ 0) RefCountError.underflow
    demand (observed ≠ maxRefcount) RefCountError.overflow
    return observed + 1
  | .release, observed => do
    demand (observed ≠ 0) RefCountError.underflow
    return observed - 1

/-- The answer of a method whose exchange went through. -/
def Method.stored : Method → Nat → Answer
  | .acquire, value => .acquired value
  | .release, remaining => .released ⟨remaining, remaining = 0⟩

section Threads

variable (T : Type)

/-- The calls of a thread are numbered. -/
structure Call where
  thread : T
  number : Nat
deriving DecidableEq

inductive Event
  | called (call : Call T) (method : Method)
  | settled (call : Call T) (method : Method) (answer : Answer)
  | returned (call : Call T) (answer : Answer)
deriving DecidableEq

end Threads

/-- Where a thread stands. -/
inductive Pc
  | idle
  | called (method : Method)
  | looping (method : Method) (observed next : Nat)
  | answered (answer : Answer)
deriving DecidableEq, Repr

/-- `log` is a ghost: the oldest event comes first, and a call is settled by the step that decides its answer. -/
structure World (T : Type) where
  value : Nat
  pc : T → Pc
  calls : T → Nat
  log : List (Event T)

inductive Move
  | call (method : Method)
  | access (spurious : Bool)

variable {T : Type} [DecidableEq T]

def start (value : Nat) : World T := ⟨value, fun _ => .idle, fun _ => 0, []⟩

namespace World

/-- The call that the thread is in, or its next one. -/
def current (world : World T) (thread : T) : Call T := ⟨thread, world.calls thread⟩

def goto (world : World T) (thread : T) (value : Nat) (pc : Pc) (events : List (Event T)) : World T :=
  { world with value, pc := Function.update world.pc thread pc, log := world.log ++ events }

/-- The loop goes on with the value that a load or a failed exchange has brought. -/
def observe (world : World T) (thread : T) (method : Method) : World T :=
  match attempt method world.value with
  | .ok next => world.goto thread world.value (.looping method world.value next) []
  | .error reason => world.goto thread world.value (.answered (.refused reason))
      [.settled (world.current thread) method (.refused reason)]

def step (world : World T) (thread : T) (move : Move) : World T :=
  match world.pc thread, move with
  | .idle, .call method => world.goto thread world.value (.called method) [.called (world.current thread) method]
  | .called method, .access _ => world.observe thread method
  | .looping method observed next, .access spurious =>
    if world.value = observed ∧ spurious = false then
      world.goto thread next (.answered (method.stored next))
        [.settled (world.current thread) method (method.stored next)]
    else world.observe thread method
  | .answered answer, .access _ =>
    { world.goto thread world.value .idle [.returned (world.current thread) answer] with
      calls := Function.update world.calls thread (world.calls thread + 1) }
  | _, _ => world

def run (world : World T) (schedule : List (T × Move)) : World T :=
  schedule.foldl (fun world turn => world.step turn.1 turn.2) world

end World

namespace Event

def call : Event T → Call T
  | called call _ => call
  | settled call _ _ => call
  | returned call _ => call

def acquires : Event T → Bool
  | settled _ _ (.acquired _) => true
  | _ => false

def releases : Event T → Bool
  | settled _ _ (.released _) => true
  | _ => false

def settles (call : Call T) : Event T → Bool
  | settled other _ _ => other = call
  | _ => false

end Event

/-- The methods one after the other, without threads. -/
def Method.run (method : Method) (value : Nat) : Answer × Nat :=
  match attempt method value with
  | .ok next => (method.stored next, next)
  | .error reason => (.refused reason, value)

/-- The settled calls, taken in their order, are answered as the methods answer one after the other. -/
def replay (value : Nat) : Event T → Option Nat
  | .settled _ method answer => if (method.run value).1 = answer then some (method.run value).2 else none
  | _ => some value

/-- What holds of a run that began with this value. -/
structure Exact (initial : Nat) (world : World T) : Prop where
  balance : world.value + world.log.countP Event.releases = initial + world.log.countP Event.acquires
  range : world.value ≤ maxRefcount
  sequential : world.log.foldlM replay initial = some world.value
  once : ∀ call, world.log.countP (Event.settles call) ≤ 1
  answers : ∀ call answer, .returned call answer ∈ world.log →
    ∃ method, .called call method ∈ world.log ∧ .settled call method answer ∈ world.log
  realTime : ∀ {first second : Call T} {method method' called' : Method} {answer answer' returned' : Answer},
    [.returned first returned', .called second called'].Sublist world.log →
      .settled first method answer ∈ world.log → .settled second method' answer' ∈ world.log →
        [Event.settled first method answer, .settled second method' answer'].Sublist world.log
  last : ∀ {front back : List (Event T)} {call : Call T} {remaining : Nat},
    world.log = front ++ .settled call .release (.released ⟨remaining, true⟩) :: back →
      (∀ other method answer, .settled other method answer ∈ back → answer = .refused .underflow) ∧
        ∀ other method answer, .called other method ∈ back → .returned other answer ∈ world.log →
          answer = .refused .underflow

section Order

omit [DecidableEq T]

/-- The call is made and not settled. -/
def Open (log : List (Event T)) (call : Call T) (method : Method) : Prop :=
  .called call method ∈ log ∧ ∀ method' answer, .settled call method' answer ∉ log

/-- An event that may come after these. -/
def Fits (log : List (Event T)) : Event T → Prop
  | .called call _ => ∀ event ∈ log, event.call ≠ call
  | .settled call method _ => Open log call method
  | .returned call answer => ∃ method, .settled call method answer ∈ log

def Ordered (log : List (Event T)) : Prop :=
  ∀ front event back, log = front ++ event :: back → Fits front event

variable {log front back : List (Event T)} {event : Event T} {call : Call T} {method method' : Method}
  {answer answer' : Answer}

theorem Ordered.concat (ordered : Ordered log) (fits : Fits log event) : Ordered (log ++ [event]) := by
  intro front other back split
  rcases append_eq_append_iff.mp split with ⟨middle, rfl, rest⟩ | ⟨middle, rfl, rest⟩
  · cases middle with
    | nil =>
      rw [append_nil, ← (cons.inj rest).1]
      exact fits
    | cons head tail =>
      have none := (cons.inj rest).2
      simp at none
  · cases middle with
    | nil =>
      rw [append_nil] at fits
      rw [(cons.inj rest).1]
      exact fits
    | cons head tail =>
      obtain ⟨rfl, -⟩ := cons.inj rest
      exact ordered front other tail rfl

theorem Ordered.prefix (ordered : Ordered (front ++ back)) : Ordered front := by
  intro earlier event later split
  exact ordered earlier event (later ++ back) (by rw [split]; simp)

theorem Ordered.fits (ordered : Ordered (front ++ back)) (member : event ∈ back) :
    ∃ between, Fits (front ++ between) event := by
  obtain ⟨between, later, rfl⟩ := mem_iff_append.mp member
  exact ⟨between, ordered (front ++ between) event later (by simp)⟩

theorem Ordered.settled (ordered : Ordered log) (returned : .returned call answer ∈ log) :
    ∃ method, .called call method ∈ log ∧ .settled call method answer ∈ log := by
  obtain ⟨front, back, rfl⟩ := mem_iff_append.mp returned
  obtain ⟨method, settled⟩ := ordered front _ back rfl
  obtain ⟨earlier, later, rfl⟩ := mem_iff_append.mp settled
  obtain ⟨called, -⟩ := ordered.prefix earlier _ later rfl
  exact ⟨method, by simp [called], by simp⟩

/-- A call that has returned was settled before. -/
theorem Ordered.before (ordered : Ordered (front ++ back)) (returned : .returned call answer' ∈ front)
    (settled : .settled call method answer ∈ front ++ back) : .settled call method answer ∈ front := by
  rcases mem_append.mp settled with early | late
  · exact early
  · obtain ⟨between, -, never⟩ := ordered.fits late
    obtain ⟨other, -, already⟩ := ordered.prefix.settled returned
    exact absurd (mem_append_left between already) (never other answer')

/-- A call is settled after it is made. -/
theorem Ordered.after (ordered : Ordered (front ++ back)) (called : .called call method' ∈ back)
    (settled : .settled call method answer ∈ front ++ back) : .settled call method answer ∈ back := by
  rcases mem_append.mp settled with early | late
  · obtain ⟨between, new⟩ := ordered.fits called
    exact absurd rfl (new _ (mem_append_left between early))
  · exact late

end Order

theorem Ordered.once {log : List (Event T)} (ordered : Ordered log) (call : Call T) : log.countP (Event.settles call) ≤ 1 := by
  induction log using reverseRecOn with
  | nil => exact Nat.zero_le 1
  | append_singleton front event ih =>
    have rest := ih ordered.prefix
    rw [countP_append, countP_singleton]
    split
    · rename_i settles
      have fits := ordered front event [] rfl
      cases event with
      | settled other method answer =>
        obtain rfl : other = call := of_decide_eq_true settles
        have none : front.countP (Event.settles other) = 0 := by
          rw [countP_eq_zero]
          rintro (_ | ⟨call, method, answer⟩ | _) member same
          · cases same
          · obtain rfl : call = other := of_decide_eq_true same
            exact fits.2 method answer member
          · cases same
        omega
      | called => cases settles
      | returned => cases settles
    · omega

section Sequential

omit [DecidableEq T]

variable {log : List (Event T)} {value value' initial : Nat} {method : Method} {next : Nat}

theorem attempt_acquire : attempt .acquire value = .ok next ↔ value ≠ 0 ∧ value ≠ maxRefcount ∧ next = value + 1 := by
  unfold attempt
  rw [demand_bind_eq_ok, demand_bind_eq_ok, pure_eq_ok]

theorem attempt_release : attempt .release value = .ok next ↔ value ≠ 0 ∧ next = value - 1 := by
  unfold attempt
  rw [demand_bind_eq_ok, pure_eq_ok]

theorem attempt_range (range : value ≤ maxRefcount) (goes : attempt method value = .ok next) : next ≤ maxRefcount := by
  cases method with
  | acquire =>
    rw [attempt_acquire] at goes
    omega
  | release =>
    rw [attempt_release] at goes
    omega

theorem replay_settled {call : Call T} {answer : Answer} : replay value (.settled call method answer) = some next ↔
    method.run value = (answer, next) := by
  change (if (method.run value).1 = answer then some (method.run value).2 else none) = some next ↔ _
  rw [ite_none_right_eq_some, some.injEq, Prod.ext_iff]

/-- One settled call changes the value by what it counts. -/
theorem replay_balance {event : Event T} (replayed : replay value event = some next) :
    next + (if event.releases then 1 else 0) = value + (if event.acquires then 1 else 0) := by
  cases event with
  | called => cases replayed; rfl
  | returned => cases replayed; rfl
  | settled call method answer =>
    rw [replay_settled, Method.run] at replayed
    cases goes : attempt method value with
    | error reason =>
      rw [goes] at replayed
      obtain ⟨rfl, rfl⟩ := Prod.mk.inj replayed
      rfl
    | ok stored =>
      rw [goes] at replayed
      obtain ⟨rfl, rfl⟩ := Prod.mk.inj replayed
      cases method with
      | acquire => exact (attempt_acquire.mp goes).2.2
      | release =>
        obtain ⟨some, less⟩ := attempt_release.mp goes
        change stored + 1 = value
        omega

theorem foldlM_balance (replayed : log.foldlM replay initial = some value) :
    value + log.countP Event.releases = initial + log.countP Event.acquires := by
  induction log generalizing initial with
  | nil =>
    cases replayed
    rfl
  | cons event rest ih =>
    rw [foldlM_cons, bind_eq_bind, bind_eq_some_iff] at replayed
    obtain ⟨between, first, later⟩ := replayed
    have one := replay_balance first
    have more := ih later
    rw [countP_cons, countP_cons]
    omega

/-- Once the value is zero, every call is refused. -/
theorem foldlM_zero (replayed : log.foldlM replay 0 = some value) : ∀ {call : Call T} {method answer},
    .settled call method answer ∈ log → answer = .refused .underflow := by
  induction log with
  | nil => exact nofun
  | cons event rest ih =>
    intro call method answer member
    rw [foldlM_cons, bind_eq_bind, bind_eq_some_iff] at replayed
    obtain ⟨between, first, later⟩ := replayed
    have stays : ∀ method : Method, method.run 0 = (.refused .underflow, 0) := by
      intro method
      cases method <;> rfl
    rcases mem_cons.mp member with rfl | inside
    · rw [replay_settled, stays] at first
      exact (Prod.mk.inj first).1.symm
    · refine ih ?_ inside
      cases event with
      | settled other method' answer' =>
        rw [replay_settled, stays] at first
        obtain ⟨-, rfl⟩ := Prod.mk.inj first
        exact later
      | called => cases first; exact later
      | returned => cases first; exact later

end Sequential

/-- What the log shows of the call that a thread is in, or of its next one. -/
def Stands (log : List (Event T)) (call : Call T) : Pc → Prop
  | .idle => ∀ event ∈ log, event.call ≠ call
  | .called method => Open log call method
  | .looping method observed next => Open log call method ∧ attempt method observed = .ok next
  | .answered answer => ∃ method, .settled call method answer ∈ log

structure Sound (initial : Nat) (world : World T) : Prop where
  sequential : world.log.foldlM replay initial = some world.value
  range : world.value ≤ maxRefcount
  ordered : Ordered world.log
  numbered : ∀ event ∈ world.log, event.call.number ≤ world.calls event.call.thread
  stands : ∀ thread, Stands world.log (world.current thread) (world.pc thread)

section Steps

variable {initial : Nat} {world : World T} {thread : T} {log : List (Event T)} {call : Call T} {pc : Pc}
  {event : Event T} {method : Method} {value next : Nat} {answer : Answer}

omit [DecidableEq T] in
/-- An event of another call does not change how a call stands. -/
theorem Stands.other (stands : Stands log call pc) (other : event.call ≠ call) : Stands (log ++ [event]) call pc := by
  have opened : ∀ {method}, Open log call method → Open (log ++ [event]) call method := by
    rintro method ⟨called, never⟩
    refine ⟨mem_append_left _ called, fun method' answer' member => ?_⟩
    rcases mem_append.mp member with early | new
    · exact never method' answer' early
    · exact other (by rw [← mem_singleton.mp new]; rfl)
  cases pc with
  | idle =>
    intro earlier member
    rcases mem_append.mp member with early | new
    · exact stands earlier early
    · rw [mem_singleton.mp new]
      exact other
  | called method => exact opened stands
  | looping method observed next => exact ⟨opened stands.1, stands.2⟩
  | answered answer =>
    obtain ⟨method, settled⟩ := stands
    exact ⟨method, mem_append_left _ settled⟩

/-- A thread moves on and nothing is recorded. -/
theorem Sound.quiet (sound : Sound initial world) (stands : Stands world.log (world.current thread) pc) :
    Sound initial (world.goto thread world.value pc []) := by
  obtain ⟨sequential, range, ordered, numbered, others⟩ := sound
  have same : (world.goto thread world.value pc []).log = world.log := append_nil _
  refine ⟨by rw [same]; exact sequential, range, by rw [same]; exact ordered, by rw [same]; exact numbered, fun other => ?_⟩
  rw [same]
  change Stands world.log (world.current other) (update world.pc thread pc other)
  by_cases here : other = thread
  · subst here
    rw [update_self]
    exact stands
  · rw [update_of_ne here]
    exact others other

/-- A thread moves on with an event of its call. -/
theorem Sound.record (sound : Sound initial world) (mine : event.call = world.current thread)
    (fits : Fits world.log event) (replayed : replay world.value event = some next) (range : next ≤ maxRefcount)
    (stands : Stands (world.log ++ [event]) (world.current thread) pc) :
    Sound initial (world.goto thread next pc [event]) := by
  refine ⟨?_, range, sound.ordered.concat fits, fun other member => ?_, fun other => ?_⟩
  · change (world.log ++ [event]).foldlM replay initial = some next
    rw [foldlM_append, sound.sequential]
    simpa using replayed
  · rcases mem_append.mp member with early | new
    · exact sound.numbered other early
    · rw [mem_singleton.mp new, mine]
      exact Nat.le_refl _
  · change Stands (world.log ++ [event]) (world.current other) (update world.pc thread pc other)
    by_cases here : other = thread
    · subst here
      rw [update_self]
      exact stands
    · rw [update_of_ne here]
      refine (sound.stands other).other ?_
      rw [mine]
      exact fun same => here (congrArg Call.thread same).symm

/-- The answered call is left, and the next call of the thread has the next number. -/
theorem Sound.leave (sound : Sound initial world) (stands : Stands world.log (world.current thread) (.answered answer)) :
    Sound initial { world.goto thread world.value .idle [.returned (world.current thread) answer] with
      calls := update world.calls thread (world.calls thread + 1) } := by
  have returned : Sound initial
      (world.goto thread world.value (.answered answer) [.returned (world.current thread) answer]) :=
    sound.record rfl stands rfl sound.range (stands.imp fun method => mem_append_left _)
  have grows : ∀ other, world.calls other ≤ update world.calls thread (world.calls thread + 1) other := by
    intro other
    by_cases here : other = thread
    · subst here
      rw [update_self]
      exact Nat.le_succ _
    · exact Nat.le_of_eq (update_of_ne here _ _).symm
  refine ⟨returned.sequential, returned.range, returned.ordered,
    fun event member => Nat.le_trans (returned.numbered event member) (grows _), fun other => ?_⟩
  by_cases here : other = thread
  · subst here
    change Stands _ ⟨other, update world.calls other _ other⟩ (update world.pc other _ other)
    rw [update_self, update_self]
    intro event member same
    have bound := returned.numbered event member
    rw [same] at bound
    exact absurd bound (Nat.not_succ_le_self _)
  · have stays := returned.stands other
    change Stands _ ⟨other, update world.calls thread _ other⟩ (update world.pc thread _ other)
    change Stands _ ⟨other, world.calls other⟩ (update world.pc thread _ other) at stays
    rw [update_of_ne here] at stays ⊢
    rw [update_of_ne here]
    exact stays

theorem Sound.observe (sound : Sound initial world)
    (opened : Open world.log (world.current thread) method) :
    Sound initial (world.observe thread method) := by
  unfold World.observe
  split
  · rename_i next goes
    exact sound.quiet ⟨opened, goes⟩
  · rename_i reason stops
    refine sound.record rfl opened ?_ sound.range ⟨method, by simp⟩
    rw [replay_settled, Method.run, stops]

/-- One atomic access, one call or one return keeps the invariant. -/
theorem Sound.step (sound : Sound initial world) (thread : T) (move : Move) :
    Sound initial (world.step thread move) := by
  have stands := sound.stands thread
  unfold World.step
  split
  · rename_i method idle
    rw [idle] at stands
    refine sound.record rfl stands rfl sound.range ⟨by simp, fun method' answer member => ?_⟩
    rcases mem_append.mp member with early | new
    · exact stands _ early rfl
    · cases mem_singleton.mp new
  · rename_i method _ called
    rw [called] at stands
    exact sound.observe stands
  · rename_i method observed next spurious looping
    rw [looping] at stands
    split
    · rename_i exchanged
      obtain ⟨rfl, -⟩ := exchanged
      refine sound.record rfl stands.1 ?_ (attempt_range sound.range stands.2) ⟨method, by simp⟩
      rw [replay_settled, Method.run, stands.2]
    · exact sound.observe stands.1
  · rename_i answer _ answered
    rw [answered] at stands
    exact sound.leave stands
  · exact sound

theorem Sound.run (sound : Sound initial world) (schedule : List (T × Move)) : Sound initial (world.run schedule) := by
  induction schedule generalizing world with
  | nil => exact sound
  | cons turn rest ih => exact ih (sound.step turn.1 turn.2)

theorem Sound.exact (sound : Sound initial world) : Exact initial world := by
  obtain ⟨sequential, range, ordered, -, -⟩ := sound
  refine ⟨foldlM_balance sequential, range, sequential, ordered.once, fun _ _ => ordered.settled, ?_, ?_⟩
  · intro first second method method' called answer answer' returned precedes settled settled'
    obtain ⟨front, back, split, early, late⟩ := cons_sublist_iff.mp precedes
    rw [split] at ordered settled settled'
    rw [split]
    refine cons_sublist_iff.mpr ⟨front, back, rfl, ordered.before early settled, ?_⟩
    exact singleton_sublist.mpr (ordered.after (singleton_sublist.mp late) settled')
  · intro front back call remaining split
    rw [split, foldlM_append, bind_eq_bind, bind_eq_some_iff] at sequential
    obtain ⟨value, -, sequential⟩ := sequential
    rw [foldlM_cons, bind_eq_bind, bind_eq_some_iff] at sequential
    obtain ⟨next, last, sequential⟩ := sequential
    have zero : next = 0 := by
      rw [replay_settled, Method.run] at last
      split at last
      · obtain ⟨same, rfl⟩ := Prod.mk.inj last
        simp only [Method.stored, Answer.released.injEq, RefRelease.mk.injEq, decide_eq_true_eq] at same
        exact same.2
      · cases last
    subst zero
    refine ⟨fun other method answer => foldlM_zero sequential, fun other method answer called returned => ?_⟩
    obtain ⟨method', -, settled⟩ := ordered.settled returned
    rw [split, append_cons] at ordered settled
    exact foldlM_zero sequential (ordered.after called settled)

end Steps

/-- In every interleaving of any number of threads the counter counts exactly, and the calls are answered
as if they ran one after the other. -/
theorem counts_exact {initial value : Nat} (created : tryNew initial = .ok value) (schedule : List (T × Move)) :
    Exact initial ((start value).run schedule) := by
  unfold tryNew at created
  split at created
  · cases created
  · rename_i fits
    cases created
    have sound : Sound initial (start initial : World T) :=
      ⟨rfl, Nat.not_lt.mp (not_or.mp fits).2, fun front event back split => by simp [start] at split, nofun, fun thread => nofun⟩
    exact (sound.run schedule).exact

/-- Two threads release the last reference: the one that comes too late is refused. -/
theorem counts_exact_lastReference : Exact 1 ((start 1 : World Bool).run [(true, .call .release), (false, .call .release),
    (true, .access false), (false, .access false), (true, .access false), (false, .access false)]) :=
  counts_exact rfl _

end RefCount
end PooleOS.Atomics
