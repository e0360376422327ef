import PooleOS.Lib.Result
import PooleOS.Lib.Tally
import PooleOS.Deferred.Model

/- The invariant of the controller and the account it keeps of its items. -/
namespace PooleOS.Deferred

open List
open Controller

variable {s s' s'' : Controller}

/-- What one slot may hold. -/
structure Fits (slot : Slot) : Prop where
  bounded : slot.generation < u32Values
  settled : slot.state ≠ .reserved
  free : slot.state = .free → slot.cancelRequested = false ∧ slot.enqueueSequence = 0 ∧
    slot.completionSequence = 0
  used : slot.state ≠ .free → slot.generation ≠ 0 ∧ slot.request.key ≠ 0 ∧ slot.enqueueSequence ≠ 0
  owned : slot.state = .running → slot.owner < workerCount
  unowned : slot.state ≠ .running → slot.owner = u8Max
  ended : slot.state.Terminal ↔ slot.completionSequence ≠ 0

/-- The active worker owns the one running item. -/
def Worked (s : Controller) : Prop :=
  (s.activeWorker = u8Max ∧ ∀ index, (s.slots index).state ≠ .running) ∨
    ∃ index, (s.slots index).state = .running ∧ s.activeWorker = (s.slots index).owner ∧
      ∀ other, (s.slots other).state = .running → other = index

structure Consistent (s : Controller) : Prop where
  fits : ∀ index, Fits (s.slots index)
  distinct : ∀ index other, (s.slots index).state ≠ .free →
    s.Holds (s.slots index).request other → other = index
  worked : Worked s
  closed : s.shutdownComplete = true →
    s.intakeOpen = false ∧ ∀ index, (s.slots index).state = .free

/-- The item is queued or running. -/
def Slot.Live (slot : Slot) : Prop := slot.state = .queued ∨ slot.state = .running

instance (slot : Slot) : Decidable slot.Live := inferInstanceAs (Decidable (_ ∨ _))

def live (s : Controller) : Nat := (Finset.univ.filter (fun index => (s.slots index).Live)).card

def ended (s : Controller) : Nat :=
  (Finset.univ.filter (fun index => (s.slots index).state.Terminal)).card

/-- No item is lost between the counters and the slots. -/
structure Balanced (s : Controller) : Prop where
  enqueued : s.enqueued = s.completed + s.cancelled + live s
  retired : s.completed + s.cancelled = s.retired + ended s

structure Sound (s : Controller) : Prop where
  consistent : Consistent s
  balanced : Balanced s

theorem fits_emptied {generation : Nat} (bounded : generation < u32Values) : Fits (Slot.emptied generation) where
  bounded := bounded
  settled := by simp [Slot.emptied]
  free := fun _ => ⟨rfl, rfl, rfl⟩
  used := fun used => absurd rfl used
  owned := by simp [Slot.emptied]
  unowned := fun _ => rfl
  ended := by simp [Slot.emptied, WorkState.Terminal]

theorem Slot.Live.used {slot : Slot} (live : slot.Live) : slot.state ≠ .free := by
  rcases live with live | live <;> rw [live] <;> decide

theorem Slot.Live.unended {slot : Slot} (live : slot.Live) : ¬ slot.state.Terminal := by
  rcases live with live | live <;> rw [live] <;> decide

/-- An item that has not ended stays well formed in the queue and on a worker. -/
theorem Fits.move {slot : Slot} (fits : Fits slot) (live : slot.Live) {state : WorkState} {owner : Nat}
    (place : state = .queued ∧ owner = u8Max ∨ state = .running ∧ owner < workerCount) (flag : Bool) :
    Fits { slot with state := state, owner := owner, cancelRequested := flag } := by
  have open' : slot.completionSequence = 0 := by
    by_contra ended
    exact live.unended (fits.ended.mpr ended)
  refine ⟨fits.bounded, ?_, ?_, fun _ => fits.used live.used, ?_, ?_, ?_⟩ <;>
    rcases place with ⟨rfl, owned⟩ | ⟨rfl, owned⟩ <;> simp [WorkState.Terminal, open', owned]

/-- An item that ends is stamped with a completion sequence. -/
theorem Fits.finish {slot : Slot} (fits : Fits slot) (live : slot.Live) {state : WorkState}
    (ends : state.Terminal) (sequence result : Nat) :
    Fits { slot with
      state := state, owner := u8Max, completionSequence := sequence + 1, result := result } := by
  refine ⟨fits.bounded, ?_, ?_, fun _ => fits.used live.used, ?_, fun _ => rfl, ?_⟩ <;>
    rcases ends with rfl | rfl <;> simp [WorkState.Terminal]

theorem new_sound : Sound Controller.new := by
  have free : ∀ index, (Controller.new.slots index).state = .free := fun _ => rfl
  refine ⟨⟨fun _ => fits_emptied (by decide), ?_, .inl ⟨rfl, ?_⟩, ?_⟩, ⟨rfl, rfl⟩⟩
  · exact fun index _ used => absurd (free index) used
  · intro index
    rw [free]
    decide
  · intro shut
    cases shut

/-- The running slots that the rest of the loop still meets. -/
def runningAmong (s : Controller) (indices : List Index) : Nat :=
  indices.countP (fun index => (s.slots index).state = .running)

theorem runningAmong_worked (worked : Worked s) : (s.activeWorker = u8Max ∧ runningAmong s (finRange 8) = 0) ∨
      (∃ index, s.activeWorker = (s.slots index).owner ∧ (s.slots index).state = .running ∧
        runningAmong s (finRange 8) = 1) := by
  rcases worked with ⟨idle, none⟩ | ⟨index, running, active, unique⟩
  · refine .inl ⟨idle, ?_⟩
    unfold runningAmong
    rw [countP_eq_zero]
    intro index _
    simpa using none index
  · refine .inr ⟨index, active, running, ?_⟩
    have same : ∀ other ∈ finRange 8,
        (decide ((s.slots other).state = .running) = true ↔ (other == index) = true) := by
      intro other _
      rw [decide_eq_true_iff, beq_iff_eq]
      exact ⟨unique other, fun equal => equal ▸ running⟩
    unfold runningAmong
    rw [countP_congr same]
    exact count_eq_one_of_mem (nodup_finRange 8) (mem_finRange index)

theorem validateSlot_ok (consistent : Consistent s) (index : Index) {running : Nat} (few : running ≤ 8) :
    s.validateSlot running index = .ok (running + if (s.slots index).state = .running then 1 else 0) := by
  have fits := consistent.fits index
  unfold validateSlot
  by_cases free : (s.slots index).state = .free
  · have clear := fits.free free
    have unowned := fits.unowned (by rw [free]; decide)
    simp [free, clear, unowned]
  have used := fits.used free
  have alone : ¬ ∃ other, index < other ∧ s.Holds (s.slots index).request other := by
    rintro ⟨other, after, holds⟩
    rw [consistent.distinct index other free holds] at after
    exact absurd after (lt_irrefl index)
  by_cases busy : (s.slots index).state = .running
  · have owned := fits.owned busy
    have active : s.activeWorker = (s.slots index).owner := by
      rcases consistent.worked with ⟨_, none⟩ | ⟨other, _, active, unique⟩
      · exact absurd busy (none index)
      · rw [unique index busy]
        exact active
    have room : checkedAdd (u8Max + 1) running 1 = some (running + 1) := by
      rw [checkedAdd_eq_some]
      exact ⟨by unfold u8Max; omega, rfl⟩
    have below : ¬ workerCount ≤ (s.slots index).owner := by omega
    have ended := fits.ended
    rw [busy] at ended
    simp [used, busy, room, active, below, alone, ended]
  · have unowned := fits.unowned busy
    simp [free, used, busy, unowned, alone, fits.ended]

theorem validate_ok (consistent : Consistent s) : s.validate = .ok () := by
  have scanned : ∃ running, (finRange 8).foldlM s.validateSlot 0 = .ok running ∧
      running + runningAmong s [] = runningAmong s (finRange 8) := by
    refine foldlM_ok
      (fun rest running => running + runningAmong s rest = runningAmong s (finRange 8)) ?_
      (finRange 8) 0 (Nat.zero_add _)
    intro index rest running counted
    have most : runningAmong s (finRange 8) ≤ (finRange 8).length :=
      countP_le_length
    rw [length_finRange] at most
    refine ⟨_, validateSlot_ok consistent index (by omega), ?_⟩
    unfold runningAmong at counted ⊢
    rw [countP_cons] at counted
    simp only [decide_eq_true_eq] at counted
    omega
  obtain ⟨running, folded, total⟩ := scanned
  unfold validate
  rw [folded]
  have shut : ¬ (s.shutdownComplete = true ∧
      (s.intakeOpen = true ∨ ∃ index, (s.slots index).state ≠ .free)) := by
    rintro ⟨shut, opened⟩
    obtain ⟨closed, free⟩ := consistent.closed shut
    rcases opened with opened | ⟨index, used⟩
    · rw [closed] at opened
      cases opened
    · exact used (free index)
  have counted : (running = 0 ↔ s.activeWorker = u8Max) ∧ running ≤ 1 := by
    rcases runningAmong_worked consistent.worked with ⟨idle, none⟩ | ⟨index, active, busy, one⟩
    · exact ⟨by simp [idle]; omega, by omega⟩
    · have owned := (consistent.fits index).owned busy
      simp only [runningAmong, countP_nil] at total one
      have different : s.activeWorker ≠ u8Max := by
        unfold workerCount at owned
        unfold u8Max
        omega
      exact ⟨by simp [different]; omega, by omega⟩
  change (if ¬ (running = 0 ↔ s.activeWorker = u8Max) ∨ 1 < running then _ else _) = _
  rw [if_neg (by have := counted.2; simp only [counted.1, not_true, false_or]; omega), if_neg shut]

/-- The item with this generation is in the slot. -/
def Alive (s : Controller) (index : Index) (generation : Nat) : Prop :=
  (s.slots index).state ≠ .free ∧ (s.slots index).generation = generation

/-- The item with this generation has been completed and not been retired. -/
def Done (s : Controller) (index : Index) (generation : Nat) : Prop :=
  (s.slots index).state = .completed ∧ (s.slots index).generation = generation

instance (s : Controller) (index : Index) (generation : Nat) :
    Decidable (Done s index generation) := inferInstanceAs (Decidable (_ ∧ _))

theorem Done.alive {index : Index} {generation : Nat} (done : Done s index generation) :
    Alive s index generation := ⟨by rw [done.1]; decide, done.2⟩

/-- Generations only grow, none is used twice, and what is completed stays completed. -/
structure Ages (s s' : Controller) : Prop where
  grows : ∀ index, (s.slots index).generation ≤ (s'.slots index).generation
  fresh : ∀ index generation, Alive s' index generation →
    Alive s index generation ∨ (s.slots index).generation < generation
  lasting : ∀ index generation, Done s index generation → Alive s' index generation →
    Done s' index generation

/-- Nothing ages while the slots stay as they are. -/
theorem Ages.still (same : s'.slots = s.slots) : Ages s s' := by
  refine ⟨fun index => by rw [same], fun index generation alive => .inl ?_,
    fun index generation done _ => ?_⟩
  · unfold Alive at alive ⊢
    rw [same] at alive
    exact alive
  · unfold Done at done ⊢
    rw [same]
    exact done

theorem Ages.trans (first : Ages s s') (second : Ages s' s'') : Ages s s'' := by
  refine ⟨fun index => (first.grows index).trans (second.grows index), ?_, ?_⟩
  · intro index generation alive
    rcases second.fresh index generation alive with alive' | newer
    · exact first.fresh index generation alive'
    · exact .inr ((first.grows index).trans_lt newer)
  · intro index generation done alive
    rcases second.fresh index generation alive with alive' | newer
    · exact second.lasting index generation (first.lasting index generation done alive') alive
    · have grown := first.grows index
      have same := done.2
      omega

/-- A step that completes no item. -/
structure Plain (s s' : Controller) : Prop where
  sound : Sound s'
  ages : Ages s s'
  completed : s'.completed = s.completed
  lanes : (s'.sumLane, s'.xorLane, s'.fenceLane) = (s.sumLane, s.xorLane, s.fenceLane)
  fewer : ∀ index generation, Done s' index generation → Done s index generation

theorem Plain.refl (sound : Sound s) : Plain s s :=
  ⟨sound, Ages.still rfl, rfl, rfl, fun _ _ done => done⟩

theorem Plain.trans (first : Plain s s') (second : Plain s' s'') : Plain s s'' :=
  ⟨second.sound, first.ages.trans second.ages, second.completed.trans first.completed, second.lanes.trans first.lanes,
    fun index generation done => first.fewer index generation (second.fewer index generation done)⟩

/-- One slot is rewritten, and the fields that `validate` reads besides are given. -/
structure Rewrites (s s' : Controller) (index : Index) (slot : Slot) : Prop where
  slots : s'.slots = Function.update s.slots index slot
  intake : s'.intakeOpen = s.intakeOpen
  shutdown : s'.shutdownComplete = s.shutdownComplete

section Rewrites

variable {index : Index} {slot : Slot}

section

variable (change : Rewrites s s' index slot)
include change

theorem Rewrites.self : s'.slots index = slot := by
  rw [change.slots, Function.update_self]

theorem Rewrites.other {other : Index} (apart : other ≠ index) :
    s'.slots other = s.slots other := by
  rw [change.slots, Function.update_of_ne apart]

/-- A slot may take what fits it, unless its key is in use or everything is shut down. -/
theorem Rewrites.consistent (before : Consistent s) (fits : Fits slot)
    (worked : Worked s') (unique : slot.state ≠ .free → ∀ other, s.Holds slot.request other → other = index)
    (opened : slot.state ≠ .free → s.shutdownComplete = false) : Consistent s' := by
  refine ⟨fun other => ?_, ?_, worked, ?_⟩
  · by_cases same : other = index
    · subst same
      rw [change.self]
      exact fits
    · rw [change.other same]
      exact before.fits other
  · intro one two used holds
    unfold Controller.Holds at holds
    by_cases first : one = index <;> by_cases second : two = index
    · rw [first, second]
    · subst first
      rw [change.self] at used holds
      rw [change.other second] at holds
      exact unique used two holds
    · subst second
      rw [change.other first] at used holds
      rw [change.self] at holds
      exact (unique holds.1 one ⟨used, holds.2.1.symm, holds.2.2.symm⟩).symm
    · rw [change.other first] at used holds
      rw [change.other second] at holds
      exact before.distinct one two used holds
  · intro shut
    rw [change.shutdown] at shut
    obtain ⟨closed, free⟩ := before.closed shut
    refine ⟨change.intake.trans closed, fun other => ?_⟩
    by_cases same : other = index
    · subst same
      rw [change.self]
      by_contra used
      rw [opened used] at shut
      cases shut
    · rw [change.other same]
      exact free other

theorem Rewrites.live :
    live s' + (if (s.slots index).Live then 1 else 0) = live s + (if slot.Live then 1 else 0) := by
  have counted := card_update Slot.Live s.slots index slot
  rw [← change.slots] at counted
  exact counted

theorem Rewrites.ended :
    ended s' + (if (s.slots index).state.Terminal then 1 else 0) =
      ended s + (if slot.state.Terminal then 1 else 0) := by
  have counted := card_update (fun slot : Slot => slot.state.Terminal) s.slots index slot
  rw [← change.slots] at counted
  exact counted

/-- What the counters owe for a rewritten slot. -/
theorem Rewrites.balanced (before : Balanced s)
    (items : s'.enqueued + (s.completed + s.cancelled) + (if (s.slots index).Live then 1 else 0) =
      s.enqueued + (s'.completed + s'.cancelled) + (if slot.Live then 1 else 0))
    (ends : s'.completed + s'.cancelled + s.retired + (if (s.slots index).state.Terminal then 1 else 0) =
      s.completed + s.cancelled + s'.retired + (if slot.state.Terminal then 1 else 0)) : Balanced s' := by
  have one := change.live
  have two := change.ended
  have three := before.enqueued
  have four := before.retired
  exact ⟨by omega, by omega⟩

/-- A slot keeps its item, loses it, or is taken by a newer one. -/
theorem Rewrites.ages (grows : (s.slots index).generation ≤ slot.generation)
    (fresh : slot.state ≠ .free → (s.slots index).state ≠ .free ∨ (s.slots index).generation < slot.generation)
    (lasting : (s.slots index).state = .completed → slot.state = .free) : Ages s s' := by
  refine ⟨fun other => ?_, ?_, ?_⟩
  · by_cases same : other = index
    · subst same
      rw [change.self]
      exact grows
    · rw [change.other same]
  · intro other generation alive
    unfold Alive at alive ⊢
    by_cases same : other = index
    · subst same
      rw [change.self] at alive
      rcases fresh alive.1 with used | newer
      · by_cases equal : (s.slots other).generation = generation
        · exact .inl ⟨used, equal⟩
        · exact .inr (by omega)
      · exact .inr (alive.2 ▸ newer)
    · rw [change.other same] at alive
      exact .inl alive
  · intro other generation done alive
    unfold Alive at alive
    by_cases same : other = index
    · subst same
      rw [change.self] at alive
      exact absurd (lasting done.1) alive.1
    · unfold Done
      rw [change.other same]
      exact done

/-- No item is completed by a slot that ends up in another state. -/
theorem Rewrites.fewer (open' : slot.state ≠ .completed) (other : Index)
    (generation : Nat) (done : Done s' other generation) : Done s other generation := by
  unfold Done at done ⊢
  by_cases same : other = index
  · subst same
    rw [change.self] at done
    exact absurd done.1 open'
  · rw [change.other same] at done
    exact done

end

end Rewrites

end PooleOS.Deferred
