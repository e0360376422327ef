import PooleOS.Deferred.Flow

/- Items along a run. An accepted item stays in its slot, with the sequence that it was
given, until it has ended. -/
namespace PooleOS.Deferred

open List
open Controller

section

variable {s s' : Controller} {call : Call} {index : Index} {calls : List Call} {id : WorkId}

/-- The items that a run accepts, in order. -/
def admitted (s : Controller) : List Call → List WorkId
  | [] => []
  | call :: rest => (accepted s call).toList ++ admitted (step s call) rest

/-- The item has been completed or cancelled at some point of a run. -/
def Settled (s : Controller) (calls : List Call) (id : WorkId) : Prop :=
  ∃ front back, calls = front ++ back ∧ ∃ index, id = (run s front).id index ∧
    ((run s front).slots index).state.Terminal

/-- The slot holds this item, and it has not ended. -/
def Pending (s : Controller) (index : Index) (id : WorkId) : Prop :=
  id = s.id index ∧ (s.slots index).Live

theorem Settled.now (named : id = s.id index) (ended : (s.slots index).state.Terminal) : Settled s calls id :=
  ⟨[], calls, rfl, index, named, ended⟩

theorem Settled.cons (settled : Settled (step s call) calls id) : Settled s (call :: calls) id := by
  obtain ⟨front, back, rfl, found⟩ := settled
  exact ⟨call :: front, back, rfl, found⟩

theorem Settled.append (settled : Settled s calls id) (more : List Call) : Settled s (calls ++ more) id := by
  obtain ⟨front, back, rfl, found⟩ := settled
  exact ⟨front, back ++ more, by rw [append_assoc], found⟩

/-- The later part of a run settles items of the whole run. -/
theorem Settled.after {earlier : List Call} (settled : Settled (run s earlier) calls id) :
    Settled s (earlier ++ calls) id := by
  obtain ⟨front, back, rfl, found⟩ := settled
  refine ⟨earlier ++ front, back, by rw [append_assoc], ?_⟩
  rw [run_append]
  exact found

section Turns

/-- A slot in use holds an old item or the one that was accepted. -/
theorem Turn.origin (turn : Turn s call) (used : ((step s call).slots index).state ≠ .free) :
    ((s.slots index).state ≠ .free ∧ SameItem (s.slots index) ((step s call).slots index)) ∨
      accepted s call = some ((step s call).id index) ∧ Admits s (step s call) index := by
  have still : (step s call).slots index = s.slots index → (s.slots index).state ≠ .free ∧
      SameItem (s.slots index) ((step s call).slots index) := by
    intro same
    rw [same] at used ⊢
    exact ⟨used, rfl, rfl, rfl⟩
  cases turn with
  | flow _ _ flow =>
    cases flow.slots index with
    | same equal => exact .inl (still equal)
    | moved live item _ => exact .inl ⟨live.used, item⟩
    | freed _ _ free => exact absurd free used
  | admits place accepts _ _ admits =>
    by_cases same : index = place
    · subst same
      exact .inr ⟨accepts, admits⟩
    · exact .inl (still (admits.others index same))
  | picks place _ _ picks =>
    by_cases same : index = place
    · subst same
      refine .inl ⟨?_, picks.item⟩
      rw [selectNext_queued picks.picked]
      decide
    · exact .inl (still (picks.others index same))

/-- An item that has not ended stays in its slot. -/
theorem Turn.live (turn : Turn s call) (live : (s.slots index).Live) :
    SameItem (s.slots index) ((step s call).slots index) ∧
      (((step s call).slots index).Live ∨ ((step s call).slots index).state.Terminal) := by
  have still : (step s call).slots index = s.slots index → SameItem (s.slots index) ((step s call).slots index) ∧
      (((step s call).slots index).Live ∨ ((step s call).slots index).state.Terminal) := by
    intro same
    rw [same]
    exact ⟨⟨rfl, rfl, rfl⟩, .inl live⟩
  cases turn with
  | flow _ _ flow =>
    cases flow.slots index with
    | same equal => exact still equal
    | moved _ item moves => exact ⟨item, moves.symm.imp And.right (fun ended => ended)⟩
    | freed dead _ _ => exact absurd live dead
  | admits place _ _ _ admits =>
    refine still (admits.others index ?_)
    rintro rfl
    exact live.used admits.free
  | picks place _ _ picks =>
    by_cases same : index = place
    · subst same
      exact ⟨picks.item, picks.moves.imp .inr (fun ended => ended)⟩
    · exact still (picks.others index same)

/-- What has ended stays as it is until it leaves its slot. -/
theorem Turn.ended (turn : Turn s call) (ended : (s.slots index).state.Terminal) :
    (step s call).slots index = s.slots index ∨ ((step s call).slots index).state = .free := by
  cases turn with
  | flow _ _ flow =>
    cases flow.slots index with
    | same equal => exact .inl equal
    | moved live _ _ => exact absurd live (not_live_of_terminal ended)
    | freed _ _ free => exact .inr free
  | admits place _ _ _ admits =>
    refine .inl (admits.others index ?_)
    rintro rfl
    rw [admits.free] at ended
    exact absurd ended (by decide)
  | picks place _ _ picks =>
    refine .inl (picks.others index ?_)
    rintro rfl
    rw [selectNext_queued picks.picked] at ended
    exact absurd ended (by decide)

theorem Turn.clock (turn : Turn s call) : s.enqueueSequence ≤ (step s call).enqueueSequence := by
  cases turn with
  | flow _ _ flow => exact flow.clock
  | admits _ _ _ _ admits => exact admits.clock.le
  | picks _ _ _ picks => exact picks.clock.ge

/-- Sequences in use have been given, each to one slot. -/
structure Ordered (s : Controller) : Prop where
  stamped : ∀ index, (s.slots index).state ≠ .free → (s.slots index).enqueueSequence ≤ s.enqueueSequence
  distinct : ∀ index other, (s.slots index).state ≠ .free → (s.slots other).state ≠ .free →
    (s.slots other).enqueueSequence = (s.slots index).enqueueSequence → other = index

theorem Turn.ordered (turn : Turn s call) (ordered : Ordered s) : Ordered (step s call) := by
  have old : ∀ index, (s.slots index).state ≠ .free ∧ SameItem (s.slots index) ((step s call).slots index) →
      ((step s call).slots index).enqueueSequence ≤ s.enqueueSequence := by
    rintro index ⟨used, item⟩
    rw [item.sequence]
    exact ordered.stamped index used
  have new : ∀ index, Admits s (step s call) index →
      s.enqueueSequence < ((step s call).slots index).enqueueSequence := by
    intro index admits
    rw [admits.stamped]
    exact admits.clock
  constructor
  · intro index used
    rcases turn.origin used with kept | ⟨_, admits⟩
    · exact (old index kept).trans turn.clock
    · exact admits.stamped.le
  · intro index other used used' same
    rcases turn.origin used with kept | ⟨accepts, admits⟩ <;> rcases turn.origin used' with kept' | ⟨accepts', admits'⟩
    · rw [kept.2.sequence, kept'.2.sequence] at same
      exact ordered.distinct index other kept.1 kept'.1 same
    · have less := new other admits'
      have small := old index kept
      omega
    · have less := new index admits
      have small := old other kept'
      omega
    · rw [accepts] at accepts'
      exact Fin.ext (congrArg WorkId.slot (Option.some.inj accepts')).symm

end Turns

section Runs

theorem step_sound (sound : Sound s) (call : Call) : Sound (step s call) := (step_outcome sound call).sound

theorem sound_run (sound : Sound s) (calls : List Call) : Sound (run s calls) := by
  have keeps : ∀ s call, Sound s → Sound (step s call) := fun _ call sound => step_sound sound call
  exact Op.foldl_invariant keeps calls s sound

theorem new_ordered : Ordered Controller.new :=
  ⟨fun _ used => absurd rfl used, fun _ _ used => absurd rfl used⟩

/-- The invariant of a run and the order of its sequences. -/
theorem run_ordered (sound : Sound s) (ordered : Ordered s) (calls : List Call) :
    Sound (run s calls) ∧ Ordered (run s calls) := by
  have keeps : ∀ s call, Sound s ∧ Ordered s → Sound (step s call) ∧ Ordered (step s call) :=
    fun s call both => ⟨step_sound both.1 call, (turn both.1 call).ordered both.2⟩
  exact Op.foldl_invariant keeps calls s ⟨sound, ordered⟩

theorem id_of_sameItem (item : SameItem (s.slots index) (s'.slots index)) : s'.id index = s.id index := by
  unfold Controller.id
  rw [item.generation]

/-- An item that has not ended is still in its slot after a run, or has been settled. -/
theorem pending_or_settled (sound : Sound s) (pending : Pending s index id) (calls : List Call) :
    (Pending (run s calls) index id ∧ SameItem (s.slots index) ((run s calls).slots index)) ∨ Settled s calls id := by
  induction calls generalizing s with
  | nil => exact .inl ⟨pending, rfl, rfl, rfl⟩
  | cons call rest ih =>
    obtain ⟨item, state⟩ := (turn sound call).live pending.2
    have named : id = (step s call).id index := pending.1.trans (id_of_sameItem item).symm
    rcases state with live | ended
    · rcases ih (step_sound sound call) ⟨named, live⟩ with ⟨still, later⟩ | settled
      · exact .inl ⟨still, item.trans later⟩
      · exact .inr settled.cons
    · exact .inr (Settled.cons (.now named ended))

/-- Every accepted item is still pending at the end of the run, or has been settled. -/
theorem admitted_or_settled (sound : Sound s) (member : id ∈ admitted s calls) :
    (∃ index, Pending (run s calls) index id) ∨ Settled s calls id := by
  induction calls generalizing s with
  | nil => exact nomatch member
  | cons call rest ih =>
    rcases mem_append.mp member with here | later
    · cases turn sound call with
      | flow refuses _ _ =>
        rw [refuses] at here
        exact nomatch here
      | admits index accepts _ _ admits =>
        rw [accepts, Option.toList_some, mem_singleton] at here
        rcases pending_or_settled (step_sound sound call) ⟨here, .inl admits.queued⟩ rest with ⟨still, _⟩ | settled
        · exact .inl ⟨index, still⟩
        · exact .inr settled.cons
      | picks _ refuses _ _ =>
        rw [refuses] at here
        exact nomatch here
    · exact (ih (step_sound sound call) later).imp (fun found => found) Settled.cons

/-- A pending item was pending before the run, or the run has accepted it. -/
theorem pending_admitted (sound : Sound s) (pending : Pending (run s calls) index id) :
    (Pending s index id ∧ SameItem (s.slots index) ((run s calls).slots index)) ∨
      id ∈ admitted s calls ∧ s.enqueueSequence < ((run s calls).slots index).enqueueSequence := by
  induction calls generalizing s with
  | nil => exact .inl ⟨pending, rfl, rfl, rfl⟩
  | cons call rest ih =>
    have turned := turn sound call
    rcases ih (step_sound sound call) pending with ⟨before, later⟩ | ⟨member, after⟩
    · rcases turned.origin before.2.used with ⟨used, item⟩ | ⟨accepts, admits⟩
      · refine .inl ⟨⟨before.1.trans (id_of_sameItem item), ?_⟩, item.trans later⟩
        have settled := (sound.consistent.fits index).settled
        by_contra dead
        have ended : (s.slots index).state.Terminal := by
          cases state : (s.slots index).state <;> simp_all [Slot.Live, WorkState.Terminal]
        rcases turned.ended ended with same | free
        · have live := before.2
          rw [same] at live
          exact dead live
        · exact before.2.used free
      · refine .inr ⟨mem_append_left _ ?_, ?_⟩
        · rw [accepts, Option.toList_some, mem_singleton]
          exact before.1
        · change _ < ((run (step s call) rest).slots index).enqueueSequence
          rw [later.sequence, admits.stamped]
          exact admits.clock
    · exact .inr ⟨mem_append_right _ member, lt_of_le_of_lt turned.clock after⟩

end Runs

end

variable {s : Controller} {index : Index} {calls : List Call} {id : WorkId}

theorem flushComplete_iff (sound : Sound s) (token : FlushToken) : s.flushComplete token = true ↔
      ∀ index, (s.slots index).Live → token.enqueueWatermark < (s.slots index).enqueueSequence := by
  unfold flushComplete
  simp only [all_eq_true, mem_finRange, forall_true_left, decide_eq_true_eq]
  refine forall_congr' (fun index => ?_)
  have used := (sound.consistent.fits index).used
  have settled := (sound.consistent.fits index).settled
  constructor
  · rintro (zero | after | ended | free) live
    · exact absurd zero (used live.used).2.2
    · exact after
    · exact absurd ended live.unended
    · exact absurd free live.used
  · intro later
    by_cases live : (s.slots index).Live
    · exact .inr (.inl (later live))
    · cases state : (s.slots index).state <;> simp_all [Slot.Live, WorkState.Terminal]

theorem run_clock (sound : Sound s) (calls : List Call) : s.enqueueSequence ≤ (run s calls).enqueueSequence := by
  induction calls generalizing s with
  | nil => exact le_rfl
  | cons call rest ih => exact (turn sound call).clock.trans (ih (step_sound sound call))

/-- An item that has ended never comes back. -/
theorem not_pending_after (sound : Sound s) (ended : (s.slots index).state.Terminal) (calls : List Call) :
    ¬ Pending (run s calls) index (s.id index) := by
  induction calls generalizing s with
  | nil => exact fun pending => pending.2.unended ended
  | cons call rest ih =>
    have next := step_sound sound call
    rcases (turn sound call).ended ended with same | free
    · have named : (step s call).id index = s.id index := by
        unfold Controller.id
        rw [same]
      have later := ih next (by rw [same]; exact ended)
      rw [named] at later
      exact later
    · rintro ⟨named, live⟩
      have grown := (step_outcome sound call).ages.grows index
      have generation : (s.slots index).generation = ((run (step s call) rest).slots index).generation :=
        congrArg WorkId.generation named
      rcases (run_ages next rest).fresh index _ ⟨live.used, rfl⟩ with alive | newer
      · exact alive.1 free
      · omega

theorem not_pending_of_settled (sound : Sound s) (settled : Settled s calls id) : ¬ Pending (run s calls) index id := by
  obtain ⟨front, back, rfl, place, rfl, ended⟩ := settled
  intro pending
  have same : index = place := Fin.ext (congrArg WorkId.slot pending.1).symm
  subst same
  rw [run_append] at pending
  exact not_pending_after (sound_run sound front) ended back pending

theorem not_pending_new : ¬ Pending Controller.new index id := fun pending => pending.2.used rfl

/-- A flush is complete exactly when everything accepted before it has ended, and stays so. -/
theorem flush_exact (before after : List Call) :
    let token := (run Controller.new before).beginFlush
    ((run Controller.new (before ++ after)).flushComplete token = true ↔
        ∀ id ∈ admitted Controller.new before, Settled Controller.new (before ++ after) id) ∧
      ∀ later, (run Controller.new (before ++ after)).flushComplete token = true →
        (run Controller.new (before ++ after ++ later)).flushComplete token = true := by
  obtain ⟨sound, ordered⟩ := run_ordered new_sound new_ordered before
  have middle : Sound (run Controller.new (before ++ after)) := run_sound (before ++ after)
  refine ⟨⟨fun complete id member => ?_, fun all => ?_⟩, fun later complete => ?_⟩
  · rw [flushComplete_iff middle] at complete
    rcases admitted_or_settled new_sound member with ⟨index, pending⟩ | settled
    · rcases pending_or_settled sound pending after with ⟨still, item⟩ | settled
      · rw [← run_append] at still item
        have less := complete index still.2
        rw [item.sequence] at less
        exact absurd (ordered.stamped index pending.2.used) (Nat.not_le.mpr less)
      · exact settled.after
    · exact settled.append after
  · rw [flushComplete_iff middle]
    intro index live
    by_contra early
    have pending : Pending (run Controller.new (before ++ after)) index
        ((run Controller.new (before ++ after)).id index) := ⟨rfl, live⟩
    have here := pending
    rw [run_append] at here
    rcases pending_admitted sound here with ⟨old, _⟩ | ⟨_, less⟩
    · rcases pending_admitted new_sound old with ⟨none, _⟩ | ⟨member, _⟩
      · exact not_pending_new none
      · have settled := all _ member
        rw [← run_append] at settled
        exact not_pending_of_settled new_sound settled pending
    · rw [← run_append] at less
      exact early less
  · have last : Sound (run Controller.new (before ++ after ++ later)) := run_sound _
    rw [flushComplete_iff middle] at complete
    rw [flushComplete_iff last]
    intro index live
    have here : Pending (run Controller.new (before ++ after ++ later)) index
        ((run Controller.new (before ++ after ++ later)).id index) := ⟨rfl, live⟩
    rw [run_append] at here
    rcases pending_admitted middle here with ⟨old, item⟩ | ⟨_, less⟩
    · rw [run_append _ _ later, item.sequence]
      exact complete index old.2
    · rw [run_append _ _ later]
      refine lt_of_le_of_lt ?_ less
      rw [run_append]
      exact run_clock sound after

end PooleOS.Deferred
