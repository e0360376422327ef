import PooleOS.Lib.Tally
import PooleOS.Reclaim.Pool

/- What the pool guarantees across every interleaving: the pin counts are the
pins, a pinned slot keeps its value, and a handle whose slot was reclaimed is
never accepted again. -/
namespace PooleOS.Reclaim

open List Function

variable {T : Type} {N : Nat}

/-- The handle names the value its slot holds now. -/
def Current (pool : Pool T N) (handle : Handle N) : Prop :=
  handle.pool = pool.address ∧ (pool.entries handle.slot).phase ≠ .free ∧
    (pool.entries handle.slot).generation = handle.generation

/-- The slot of the handle has been reclaimed, and may have been reused since. -/
def Spent (pool : Pool T N) (handle : Handle N) : Prop :=
  handle.generation < (pool.entries handle.slot).generation ∨
    handle.generation = (pool.entries handle.slot).generation ∧
      (pool.entries handle.slot).phase = .free

theorem Spent.not_current {pool : Pool T N} {handle : Handle N} (spent : Spent pool handle) :
    ¬ Current pool handle := by
  rintro ⟨_, occupied, generation⟩
  rcases spent with older | ⟨_, free⟩
  · omega
  · exact occupied free

section Methods

variable {pool pool' : Pool T N} {handle : Handle N} {owner : Owner} {slot : Fin N}

theorem validate_ok (ok : pool.validate handle = .ok slot) : Current pool handle ∧ slot = handle.slot := by
  unfold Pool.validate at ok
  split at ok
  · cases ok
  · rename_i own
    split at ok
    · cases ok
    · rename_i fresh
      rw [not_or, not_ne_iff] at fresh
      cases ok
      exact ⟨⟨not_ne_iff.mp own, fresh.1, fresh.2⟩, rfl⟩

theorem checkPin_ok (ok : pool.checkPin handle = .ok slot) :
    Current pool handle ∧ (pool.entries handle.slot).phase = .live ∧
      pool.pins handle.slot < pool.limits.pinsPerObject := by
  obtain ⟨_, valid, rest⟩ := bind_eq_ok ok
  obtain ⟨current, rfl⟩ := validate_ok valid
  split at rest
  · cases rest
  · split at rest
    · cases rest
    · rename_i live
      split at rest
      · cases rest
      · rename_i room
        exact ⟨current, not_ne_iff.mp live, Nat.lt_of_not_le room⟩

theorem retire_ok (ok : pool.retire handle owner = .ok pool') : Current pool handle ∧ pool' = pool.setEntry handle.slot
      { pool.entries handle.slot with phase := .retired } := by
  obtain ⟨_, valid, rest⟩ := bind_eq_ok ok
  obtain ⟨current, rfl⟩ := validate_ok valid
  split at rest
  · cases rest
  · split at rest
    · cases rest
    · cases rest
      exact ⟨current, rfl⟩

theorem checkReclaim_ok (ok : pool.checkReclaim handle owner = .ok slot) :
    Current pool handle ∧ (pool.entries handle.slot).phase = .retired ∧ pool.pins handle.slot = 0 := by
  obtain ⟨_, valid, rest⟩ := bind_eq_ok ok
  obtain ⟨current, rfl⟩ := validate_ok valid
  split at rest
  · cases rest
  · split at rest
    · cases rest
    · rename_i retired
      split at rest
      · cases rest
      · rename_i unpinned
        exact ⟨current, not_ne_iff.mp retired, not_ne_iff.mp unpinned⟩

/-- The pool after a value was stored in a free slot. -/
def Pool.stored (pool : Pool T N) (slot : Fin N) (owner : Owner) (value : T) : Pool T N :=
  (pool.setValue slot (some value)).setEntry slot
    ⟨.live, (pool.entries slot).generation + 1, owner⟩

theorem publish_ok {value : T} (ok : pool.publish owner value = .ok (handle, pool')) :
    (pool.entries handle.slot).phase = .free ∧ handle.pool = pool.address ∧
      handle.generation = (pool.entries handle.slot).generation + 1 ∧ pool' = pool.stored handle.slot owner value := by
  unfold Pool.publish at ok
  split at ok
  · cases ok
  · split at ok
    · cases ok
    · split at ok
      · cases ok
      · rename_i slot found
        have free := find?_some found
        simp only [decide_eq_true_eq] at free
        cases ok
        exact ⟨free.1, rfl, rfl, rfl⟩

theorem publish_error {value given : T} {reason : Error}
    (failed : pool.publish owner value = .error (reason, given)) : given = value := by
  unfold Pool.publish at failed
  split at failed
  · cases failed
    rfl
  · split at failed
    · cases failed
      rfl
    · split at failed
      · cases failed
        rfl
      · cases failed

end Methods

/-- The call succeeded on this handle. -/
def Event.Accepts (event : Event T N) (handle : Handle N) : Prop :=
  event = .pinned handle ∨ event = .retired handle ∨ ∃ value, event = .reclaimed handle value

/-- No call after a reclaim accepts the reclaimed handle, and a slot is published under growing
generations. -/
def Follows (earlier later : Event T N) : Prop :=
  (∀ handle value, earlier = .reclaimed handle value → ¬ later.Accepts handle) ∧
    ∀ handle value handle' value', earlier = .published handle value →
      later = .published handle' value' → handle.slot = handle'.slot →
        handle.generation < handle'.generation

/-- The event names no handle and stores nothing. -/
def Event.Inert : Event T N → Prop
  | .returned _ _ => True
  | .failed _ _ => True
  | .sealed => True
  | _ => False

structure Sound (pool : Pool T N) (live : List (Pin N)) (history : List (Event T N)) : Prop where
  counted : ∀ slot, pool.pins slot = live.countP (fun pin => pin.slot = slot)
  within : ∀ slot, pool.pins slot ≤ pool.limits.pinsPerObject
  held : ∀ pin ∈ live, Current pool pin.handle
  occupied : ∀ slot, (pool.entries slot).phase = .free ↔ pool.values slot = none
  origin : ∀ slot value, pool.values slot = some value →
    .published ⟨pool.address, slot, (pool.entries slot).generation⟩ value ∈ history
  issued : ∀ handle value, .published handle value ∈ history →
    handle.pool = pool.address ∧ handle.generation ≤ (pool.entries handle.slot).generation
  spent : ∀ handle value, .reclaimed handle value ∈ history → Spent pool handle
  given : ∀ handle result, .reclaimed handle result ∈ history →
    ∃ value, result = some value ∧ .published handle value ∈ history
  ordered : history.Pairwise Follows

/-- What the call inside the gate has already established. -/
def Ready (pool : Pool T N) : Option (Section T N) → Prop
  | some (.admitting handle) =>
    Current pool handle ∧ (pool.entries handle.slot).phase = .live ∧
      pool.pins handle.slot < pool.limits.pinsPerObject
  | some (.taking handle) =>
    Current pool handle ∧ (pool.entries handle.slot).phase = .retired ∧
      pool.pins handle.slot = 0
  | _ => True

section Keeps

variable {pool : Pool T N} {live : List (Pin N)} {history : List (Event T N)}

variable {event : Event T N}

/-- One more event at the end of the history. -/
theorem ordered_snoc (ordered : history.Pairwise Follows) (last : ∀ earlier ∈ history, Follows earlier event) :
    (history ++ [event]).Pairwise Follows := by
  rw [pairwise_append]
  refine ⟨ordered, pairwise_singleton _ _, ?_⟩
  intro earlier member later single
  rw [mem_singleton.mp single]
  exact last earlier member

theorem follows_inert (inert : event.Inert) (earlier : Event T N) : Follows earlier event := by
  refine ⟨?_, ?_⟩
  · rintro handle value - (rfl | rfl | ⟨_, rfl⟩) <;> exact inert
  · rintro handle value handle' value' - rfl
    exact inert.elim

variable {handle : Handle N}

/-- An accepted handle was not reclaimed before. -/
theorem Sound.follows_accept (sound : Sound pool live history) (current : Current pool handle)
    (only : ∀ other, event.Accepts other → other = handle) (quiet : ∀ other value, event ≠ .published other value) :
    ∀ earlier ∈ history, Follows earlier event := by
  intro earlier member
  refine ⟨?_, fun _ _ handle' value' _ published => absurd published (quiet handle' value')⟩
  rintro other value rfl accepts
  rw [only other accepts] at member
  exact (sound.spent handle value member).not_current current

theorem mem_snoc_of_ne {last : Event T N} (member : event ∈ history ++ [last])
    (differs : event ≠ last) : event ∈ history := by
  rcases mem_append.mp member with old | new
  · exact old
  · exact absurd (mem_singleton.mp new) differs

/-- Only what a new event says has to be checked; the rest of the record is unchanged. -/
theorem Sound.log (sound : Sound pool live history)
    (unpublished : ∀ handle value, event ≠ .published handle value)
    (unreclaimed : ∀ handle value, event ≠ .reclaimed handle value)
    (last : ∀ earlier ∈ history, Follows earlier event) :
    Sound pool live (history ++ [event]) where
  counted := sound.counted
  within := sound.within
  held := sound.held
  occupied := sound.occupied
  origin := fun slot value holds => mem_append_left _ (sound.origin slot value holds)
  issued := fun handle value member =>
    sound.issued handle value (mem_snoc_of_ne member (unpublished handle value).symm)
  spent := fun handle value member =>
    sound.spent handle value (mem_snoc_of_ne member (unreclaimed handle value).symm)
  given := by
    intro handle result member
    obtain ⟨value, same, published⟩ :=
      sound.given handle result (mem_snoc_of_ne member (unreclaimed handle result).symm)
    exact ⟨value, same, mem_append_left _ published⟩
  ordered := ordered_snoc sound.ordered last

theorem Sound.inert (sound : Sound pool live history) (inert : event.Inert) : Sound pool live (history ++ [event]) := by
  refine sound.log ?_ ?_ (fun earlier _ => follows_inert inert earlier)
  · rintro handle value rfl
    exact inert
  · rintro handle value rfl
    exact inert

theorem Sound.beginShutdown (sound : Sound pool live history) : Sound pool.beginShutdown live history :=
  ⟨sound.counted, sound.within, sound.held, sound.occupied, sound.origin, sound.issued,
    sound.spent, sound.given, sound.ordered⟩

variable {slot : Fin N}

theorem Sound.unpinned (sound : Sound pool live history)
    (zero : pool.pins slot = 0) {pin : Pin N} (member : pin ∈ live) : pin.slot ≠ slot := by
  intro same
  have none := countP_eq_zero.mp ((sound.counted slot).symm.trans zero) pin member
  exact none (decide_eq_true same)

theorem Sound.free_unpinned (sound : Sound pool live history) (free : (pool.entries slot).phase = .free) {pin : Pin N}
    (member : pin ∈ live) : pin.slot ≠ slot := by
  rintro rfl
  exact (sound.held pin member).2.1 free

/-- Another slot's entry does not decide whether a handle is current. -/
theorem current_setEntry_other {entry : Entry} (other : handle.slot ≠ slot) :
    Current (pool.setEntry slot entry) handle ↔ Current pool handle := by
  simp only [Current, Pool.setEntry, update_of_ne other]

theorem Spent.mono {pool' : Pool T N} (spent : Spent pool handle)
    (grows : (pool.entries handle.slot).generation < (pool'.entries handle.slot).generation ∨
      (pool'.entries handle.slot).generation = (pool.entries handle.slot).generation ∧
        ((pool.entries handle.slot).phase = .free → (pool'.entries handle.slot).phase = .free)) :
    Spent pool' handle := by
  unfold Spent at *
  rcases grows with more | ⟨same, free⟩
  · left
    rcases spent with older | ⟨equal, _⟩ <;> omega
  · rw [same]
    rcases spent with older | ⟨equal, idle⟩
    · exact .inl older
    · exact .inr ⟨equal, free idle⟩

section

variable (sound : Sound pool live history)
include sound

theorem Sound.publish {owner : Owner} {value : T}
    (free : (pool.entries handle.slot).phase = .free) (own : handle.pool = pool.address)
    (next : handle.generation = (pool.entries handle.slot).generation + 1) :
    Sound (pool.stored handle.slot owner value) live (history ++ [.published handle value]) where
  counted := sound.counted
  within := sound.within
  held := by
    intro pin member
    have other : pin.handle.slot ≠ handle.slot := sound.free_unpinned free member
    exact (current_setEntry_other other).mpr (sound.held pin member)
  occupied := by
    intro slot
    by_cases same : slot = handle.slot
    · subst same
      simp [Pool.stored, Pool.setEntry, Pool.setValue]
    · simpa [Pool.stored, Pool.setEntry, Pool.setValue, same] using sound.occupied slot
  origin := by
    intro slot held holds
    by_cases same : slot = handle.slot
    · subst same
      have equal : value = held := by
        simpa [Pool.stored, Pool.setEntry, Pool.setValue] using holds
      subst equal
      have named : handle = ⟨pool.address, handle.slot, (pool.entries handle.slot).generation + 1⟩ := by
        rw [← own, ← next]
      rw [mem_append, mem_singleton]
      right
      simp only [Pool.stored, Pool.setEntry, Pool.setValue, update_self]
      rw [← named]
    · have before : pool.values slot = some held := by
        simpa [Pool.stored, Pool.setEntry, Pool.setValue, same] using holds
      have old := sound.origin slot held before
      rw [mem_append]
      left
      simpa [Pool.stored, Pool.setEntry, Pool.setValue, same] using old
  issued := by
    intro other given member
    rcases mem_append.mp member with old | new
    · obtain ⟨home, older⟩ := sound.issued other given old
      refine ⟨home, ?_⟩
      by_cases same : other.slot = handle.slot
      · simp only [Pool.stored, Pool.setEntry, same, update_self]
        rw [same] at older
        omega
      · simpa [Pool.stored, Pool.setEntry, Pool.setValue, same] using older
    · cases mem_singleton.mp new
      refine ⟨own, ?_⟩
      simp [Pool.stored, Pool.setEntry, next]
  spent := by
    intro other result member
    have old := mem_snoc_of_ne member (by simp)
    refine (sound.spent other result old).mono ?_
    by_cases same : other.slot = handle.slot
    · left
      simp [Pool.stored, Pool.setEntry, same]
    · right
      simp [Pool.stored, Pool.setEntry, Pool.setValue, same]
  given := by
    intro other result member
    obtain ⟨first, same, published⟩ := sound.given other result (mem_snoc_of_ne member (by simp))
    exact ⟨first, same, mem_append_left _ published⟩
  ordered := by
    refine ordered_snoc sound.ordered (fun earlier member => ⟨?_, ?_⟩)
    · rintro other result - (accepts | accepts | ⟨_, accepts⟩) <;> cases accepts
    · rintro other first handle' value' rfl published same
      cases published
      have older := (sound.issued other first member).2
      rw [same] at older
      omega

theorem Sound.pin (current : Current pool handle)
    (room : pool.pins handle.slot < pool.limits.pinsPerObject) :
    Sound (pool.addPin handle.slot) (live ++ [⟨handle⟩]) (history ++ [.pinned handle]) := by
  have fits := pool.limits.pins_lt
  have logged : Sound pool live (history ++ [.pinned handle]) := by
    refine sound.log (by simp) (by simp) (sound.follows_accept current ?_ (by simp))
    rintro other (accepts | accepts | ⟨_, accepts⟩) <;> cases accepts
    rfl
  have bumped : (pool.pins handle.slot + 1) % u32Values = pool.pins handle.slot + 1 :=
    Nat.mod_eq_of_lt (by omega)
  refine ⟨?_, ?_, ?_, logged.occupied, logged.origin, logged.issued, logged.spent, logged.given, logged.ordered⟩
  · intro slot
    rw [countP_append, countP_singleton, ← sound.counted]
    by_cases same : slot = handle.slot
    · subst same
      simp [Pool.addPin, bumped, Pin.slot]
    · simp [Pool.addPin, same, Pin.slot, Ne.symm same]
  · intro slot
    by_cases same : slot = handle.slot
    · subst same
      simp only [Pool.addPin, update_self, bumped]
      omega
    · simpa [Pool.addPin, same] using sound.within slot
  · intro pin member
    rcases mem_append.mp member with old | new
    · exact sound.held pin old
    · rw [mem_singleton.mp new]
      exact current

theorem Sound.retire (current : Current pool handle) :
    Sound (pool.setEntry handle.slot { pool.entries handle.slot with phase := .retired }) live
      (history ++ [.retired handle]) := by
  have logged : Sound pool live (history ++ [.retired handle]) := by
    refine sound.log (by simp) (by simp) (sound.follows_accept current ?_ (by simp))
    rintro other (accepts | accepts | ⟨_, accepts⟩) <;> cases accepts
    rfl
  have generations : ∀ slot, ((pool.setEntry handle.slot
      { pool.entries handle.slot with phase := .retired }).entries slot).generation =
        (pool.entries slot).generation := by
    intro slot
    by_cases same : slot = handle.slot
    · subst same
      simp [Pool.setEntry]
    · simp [Pool.setEntry, same]
  have phases : ∀ slot, ((pool.setEntry handle.slot
      { pool.entries handle.slot with phase := .retired }).entries slot).phase = .free ↔
        (pool.entries slot).phase = .free := by
    intro slot
    by_cases same : slot = handle.slot
    · subst same
      simp [Pool.setEntry, current.2.1]
    · simp [Pool.setEntry, same]
  refine ⟨logged.counted, logged.within, ?_, ?_, ?_, ?_, ?_, logged.given, logged.ordered⟩
  · intro pin member
    obtain ⟨own, occupied, same⟩ := sound.held pin member
    exact ⟨own, fun free => occupied ((phases _).mp free), (generations _).trans same⟩
  · exact fun slot => (phases slot).trans (logged.occupied slot)
  · intro slot value holds
    rw [generations]
    exact logged.origin slot value holds
  · intro other value member
    rw [generations]
    exact logged.issued other value member
  · intro other value member
    exact (logged.spent other value member).mono (.inr ⟨generations _, (phases _).mpr⟩)

/-- The pool after its value was moved out of a retired slot. -/
theorem Sound.reclaim (current : Current pool handle)
    (unpinned : pool.pins handle.slot = 0) : ∃ value, pool.values handle.slot = some value ∧
      .published handle value ∈ history ∧ Sound (pool.takeValue handle.slot).2 live
          (history ++ [.reclaimed handle (some value)]) := by
  obtain ⟨value, holds⟩ : ∃ value, pool.values handle.slot = some value := by
    refine Option.ne_none_iff_exists'.mp (fun empty => ?_)
    exact current.2.1 ((sound.occupied handle.slot).mpr empty)
  have published : .published handle value ∈ history := by
    have old := sound.origin handle.slot value holds
    rwa [← current.1, current.2.2] at old
  refine ⟨value, holds, published, sound.counted, sound.within, ?_, ?_, ?_, ?_, ?_, ?_, ?_⟩
  · intro pin member
    have other : pin.handle.slot ≠ handle.slot := sound.unpinned unpinned member
    exact (current_setEntry_other other).mpr (sound.held pin member)
  · intro slot
    by_cases same : slot = handle.slot
    · subst same
      simp [Pool.takeValue, Pool.setEntry, Pool.setValue]
    · simpa [Pool.takeValue, Pool.setEntry, Pool.setValue, same] using sound.occupied slot
  · intro slot other stays
    by_cases same : slot = handle.slot
    · subst same
      simp [Pool.takeValue, Pool.setEntry, Pool.setValue] at stays
    · have before : pool.values slot = some other := by
        simpa [Pool.takeValue, Pool.setEntry, Pool.setValue, same] using stays
      have old := sound.origin slot other before
      rw [mem_append]
      left
      simpa [Pool.takeValue, Pool.setEntry, Pool.setValue, same] using old
  · intro other given member
    obtain ⟨home, older⟩ := sound.issued other given (mem_snoc_of_ne member (by simp))
    refine ⟨home, ?_⟩
    by_cases same : other.slot = handle.slot
    · simpa [Pool.takeValue, Pool.setEntry, same] using same ▸ older
    · simpa [Pool.takeValue, Pool.setEntry, Pool.setValue, same] using older
  · intro other result member
    rcases mem_append.mp member with old | new
    · refine (sound.spent other result old).mono (.inr ?_)
      by_cases same : other.slot = handle.slot
      · simp [Pool.takeValue, Pool.setEntry, same]
      · simp [Pool.takeValue, Pool.setEntry, Pool.setValue, same]
    · cases mem_singleton.mp new
      right
      simp [Pool.takeValue, Pool.setEntry, current.2.2]
  · intro other result member
    rcases mem_append.mp member with old | new
    · obtain ⟨first, same, member⟩ := sound.given other result old
      exact ⟨first, same, mem_append_left _ member⟩
    · cases mem_singleton.mp new
      exact ⟨value, rfl, mem_append_left _ published⟩
  · refine ordered_snoc sound.ordered (sound.follows_accept current ?_ (by simp))
    rintro other (accepts | accepts | ⟨_, accepts⟩) <;> cases accepts
    rfl

/-- The decrement of a positive count does not wrap. -/
theorem Sound.lowered
    (positive : 0 < pool.pins slot) : (pool.dropPin slot).pins slot = pool.pins slot - 1 := by
  have fits := pool.limits.pins_lt
  have bound := sound.within slot
  have again : pool.pins slot + (u32Values - 1) = pool.pins slot - 1 + u32Values := by
    unfold u32Values at *
    omega
  simp only [Pool.dropPin, update_self]
  rw [again, Nat.add_mod_right, Nat.mod_eq_of_lt (by omega)]

/-- A dropped pin takes itself out of the count and nothing else. -/
theorem Sound.drop {position : Nat} {pin : Pin N}
    (here : live[position]? = some pin) :
    0 < pool.pins pin.slot ∧ Sound (pool.dropPin pin.slot) (live.eraseIdx position) history := by
  obtain ⟨inside, at_⟩ := List.getElem?_eq_some_iff.mp here
  have split : (pin :: live.eraseIdx position).Perm live :=
    at_ ▸ getElem_cons_eraseIdx_perm inside
  have counts : ∀ slot, pool.pins slot =
      (live.eraseIdx position).countP (fun other => other.slot = slot) +
        (if pin.slot = slot then 1 else 0) := by
    intro slot
    rw [sound.counted, ← split.countP_eq, countP_cons]
    simp only [decide_eq_true_eq]
  have own := counts pin.slot
  rw [if_pos rfl] at own
  have positive : 0 < pool.pins pin.slot := by omega
  refine ⟨positive, ?_, ?_, ?_, sound.occupied, sound.origin, sound.issued, sound.spent, sound.given, sound.ordered⟩
  · intro slot
    by_cases same : slot = pin.slot
    · subst same
      rw [sound.lowered positive]
      omega
    · have count := counts slot
      rw [if_neg (Ne.symm same)] at count
      simpa [Pool.dropPin, same] using count
  · intro slot
    by_cases same : slot = pin.slot
    · subst same
      rw [sound.lowered positive]
      exact Nat.le_trans (Nat.sub_le _ _) (sound.within pin.slot)
    · simpa [Pool.dropPin, same] using sound.within slot
  · intro other member
    exact sound.held other (mem_of_mem_eraseIdx member)

end

end Keeps

end PooleOS.Reclaim
