import PooleOS.Sched.Atomic

/- Operations that recompute priorities. `recompute_effective_priorities` counts
the owner's outside donation and `validate` does not, so these operations keep
a valid scheduler valid exactly while that donation stays covered. -/
namespace PooleOS.Sched

open Op
open Scheduler

variable {s : Scheduler} {places : Places Place Slot} {rest : List Slot}

/-- Every slot in use has the priority it inherits. -/
def repriced (s : Scheduler) : Scheduler :=
  { s with tasks := fun slot =>
      if (s.tasks slot).generation ≠ 0 then
        { s.tasks slot with effectivePriority := inherited s slot }
      else s.tasks slot }

variable {slot : Slot}

theorem repriced_used (used : (s.tasks slot).generation ≠ 0) :
    (repriced s).tasks slot = { s.tasks slot with effectivePriority := inherited s slot } :=
  if_pos used

theorem repriced_unused (unused : (s.tasks slot).generation = 0) :
    (repriced s).tasks slot = s.tasks slot := if_neg (not_not.mpr unused)

/-- Only the effective priority of a task may differ. -/
theorem repriced_task (s : Scheduler) (slot : Slot) :
    ∃ priority, (repriced s).tasks slot = { s.tasks slot with effectivePriority := priority } := by
  by_cases used : (s.tasks slot).generation = 0
  · exact ⟨_, repriced_unused used⟩
  · exact ⟨_, repriced_used used⟩

theorem repriced_quiet (s : Scheduler) : Quiet s (repriced s) := by
  refine ⟨rfl, rfl, rfl, ?_⟩
  intro slot
  obtain ⟨priority, same⟩ := repriced_task s slot
  rw [same]
  exact ⟨rfl, rfl, rfl, rfl, rfl, rfl, rfl⟩

theorem taskAt_base_congr {s s' : Scheduler} (same : ∀ slot, (s'.tasks slot).basePriority = (s.tasks slot).basePriority)
    (id : TaskId) : (s'.taskAt id).basePriority = (s.taskAt id).basePriority := by
  unfold taskAt
  cases id.index? with
  | none => rfl
  | some slot => exact same slot

theorem waitersBase_congr (s s' : Scheduler) (waiters : s'.mutexWaiters = s.mutexWaiters)
    (same : ∀ slot, (s'.tasks slot).basePriority = (s.tasks slot).basePriority) (start : Nat) :
    waitersBase s' start = waitersBase s start := by
  unfold waitersBase
  simp only [waiters, taskAt_base_congr same]

theorem repriced_base (s : Scheduler) (slot : Slot) :
    ((repriced s).tasks slot).basePriority = (s.tasks slot).basePriority := by
  obtain ⟨priority, same⟩ := repriced_task s slot
  rw [same]

theorem repriced_waitersBase (s : Scheduler) (start : Nat) : waitersBase (repriced s) start = waitersBase s start :=
  waitersBase_congr s (repriced s) rfl (repriced_base s) start

theorem repriced_inherited (s : Scheduler) (slot : Slot) : inherited (repriced s) slot = inherited s slot := by
  unfold inherited
  simp only [repriced_base, repriced_waitersBase, (repriced_quiet s).ids]
  rfl

theorem repriced_shaped (shaped : Shaped s places rest) : Shaped (repriced s) places rest := by
  refine ⟨shaped.owned.quiet (repriced_quiet s), ?_, ?_, ?_, ?_⟩
  · intro slot outside
    obtain ⟨priority, same⟩ := repriced_task s slot
    rw [same]
    exact shaped.stands slot outside
  · intro slot
    obtain ⟨priority, same⟩ := repriced_task s slot
    rw [same]
    exact shaped.affinity slot
  · intro slot
    rw [repriced_base]
    exact shaped.bounded slot
  · intro slot
    obtain ⟨priority, same⟩ := repriced_task s slot
    rw [same]
    exact shaped.undonated slot

theorem repriced_priced (s : Scheduler) : Priced (repriced s) := by
  intro slot used
  rw [((repriced_quiet s).tasks slot).generation] at used
  rw [repriced_inherited, repriced_used used]

theorem repriced_covered : Covered (repriced s) ↔ Covered s := by
  unfold Covered
  simp only [repriced_waitersBase, repriced_base, (repriced_quiet s).ids]
  rfl

theorem repriced_valid (shaped : Shaped s places []) (alive : OwnerAlive s) (covered : Covered s) :
    Valid (repriced s) places := by
  refine ⟨repriced_shaped shaped, ?_, repriced_priced s, repriced_covered.mpr covered⟩
  · rcases alive with free | ⟨slot, owner, used, runs⟩
    · exact .inl free
    · refine .inr ⟨slot, ?_, ?_, ?_⟩
      · rw [(repriced_quiet s).ids]
        exact owner
      · rw [repriced_used used]
        exact used
      · rw [repriced_used used]
        exact runs

theorem recomputeBase_base (s : Scheduler) (slot : Slot) :
    ((recomputeBase s).tasks slot).basePriority = (s.tasks slot).basePriority := by
  unfold recomputeBase
  dsimp only
  split <;> rfl

theorem recomputeBase_free (free : s.mutexOwner = none) : recomputeBase s = repriced s := by
  have tasks : (recomputeBase s).tasks = (repriced s).tasks := by
    funext slot
    unfold recomputeBase repriced inherited
    simp [free]
  exact congrArg (fun tasks => { s with tasks := tasks }) tasks

theorem recomputeBase_owned (owner : s.mutexOwner = some (s.idOf slot))
    (used : (s.tasks slot).generation ≠ 0) {required : Nat} (priority : required = inherited s slot) :
    (recomputeBase s).setTask slot (fun task => { task with effectivePriority := required }) =
      repriced s := by
  have tasks : ((recomputeBase s).setTask slot (fun task =>
      { task with effectivePriority := required })).tasks = (repriced s).tasks := by
    funext other
    by_cases here : other = slot
    · subst here
      rw [setTask_here, repriced_used used, priority]
      unfold recomputeBase
      simp [used]
    · rw [setTask_other _ _ here]
      have differs : s.mutexOwner ≠ some (s.idOf other) := by
        rw [owner]
        intro equal
        exact here (idOf_injective s (Option.some.inj equal)).symm
      unfold recomputeBase repriced inherited
      simp [differs]
  exact congrArg (fun tasks => { s with tasks := tasks }) tasks

variable {failed : Error → Scheduler → Prop}

/-- `recompute_effective_priorities` computes exactly these priorities. -/
theorem wp_recompute (owned : Owned s places noFloor) (alive : OwnerAlive s) {done : Unit → Scheduler → Prop}
    (pass : done () (repriced s)) : wp recomputeEffectivePriorities done failed s := by
  have quiet := recomputeBase_quiet s
  unfold recomputeEffectivePriorities
  simp only [wp_bind, wp_update, wp_read]
  rcases alive with ⟨free, _⟩ | ⟨slot, owner, used, _⟩
  · have same : (recomputeBase s).mutexOwner = none := free
    rw [same]
    rw [wp_pure, recomputeBase_free free]
    exact pass
  · have same : (recomputeBase s).mutexOwner = some (s.idOf slot) := owner
    rw [same]
    simp only [wp_bind, wp_update]
    refine wp_index_idOf (by rw [quiet.ids]) (by rw [(quiet.tasks slot).generation]; exact used) ?_
    rw [waiterPriority_ok (owned.quiet quiet), wp_lift_ok, recomputeBase_owned owner used]
    · exact pass
    · rw [waitersBase_congr s (recomputeBase s) rfl (recomputeBase_base s), recomputeBase_base]
      unfold inherited
      rw [if_pos owner]
      rfl

/-- Recomputation, `bump_sequence` and `validate`, which refuses an owner that is not covered. -/
theorem wp_recompute_conclude (shaped : Shaped s places []) (alive : OwnerAlive s)
    (late : ¬ Covered s → ∀ reason s', failed reason s') : wp recomputeEffectivePriorities
      (fun _ s' => wp check (fun _ s'' => Accepted s'' ∧ Covered s) failed s'.bumpSequence) failed s := by
  refine wp_recompute shaped.owned alive ?_
  by_cases covered : Covered s
  · exact wp_mono (wp_finish (repriced_valid shaped alive covered))
      (fun _ _ accepted => ⟨accepted, covered⟩) (fun _ _ kept => kept)
  · refine wp_mono (wp_conclude (repriced_shaped shaped) (repriced_priced s)
      (fun _ => late covered)) (fun _ _ accepted => ?_) (fun _ _ kept => kept)
    exact absurd (repriced_covered.mp accepted.2.2) covered

/-- The same with an inheritance to count. -/
theorem wp_inheritance_conclude (shaped : Shaped s places []) (alive : OwnerAlive s) {condition : Prop}
    [Decidable condition] (late : ¬ (Covered s ∧ (condition → Room s.priorityInheritanceCount)) →
      ∀ reason s', failed reason s') : wp (when condition countInheritance)
      (fun _ s' => wp check (fun _ s'' => Accepted s'' ∧ Covered s ∧
        (condition → Room s.priorityInheritanceCount)) failed s'.bumpSequence) failed (repriced s) := by
  have conclude : ∀ {s' : Scheduler}, Unseen (repriced s) s' →
      (condition → Room s.priorityInheritanceCount) →
      wp check (fun _ s'' => Accepted s'' ∧ Covered s ∧
        (condition → Room s.priorityInheritanceCount)) failed s'.bumpSequence := by
    intro s' unseen room
    by_cases covered : Covered s
    · exact wp_mono (wp_finish (unseen.valid (repriced_valid shaped alive covered)))
        (fun _ _ accepted => ⟨accepted, covered, room⟩) (fun _ _ kept => kept)
    · refine wp_mono (wp_conclude (unseen.shaped (repriced_shaped shaped))
        (unseen.moved.priced (repriced_priced s)) (fun _ => late (fun both => covered both.1)))
        (fun _ _ accepted => ?_) (fun _ _ kept => kept)
      have kept : Covered (repriced s) := by
        intro slot owner
        have before := accepted.2.2 slot (by
          rw [unseen.owner, unseen.moved.ids]
          exact owner)
        rw [unseen.donation, unseen.moved.waitersBase_eq, (unseen.moved.tasks slot).basePriority]
          at before
        exact before
      exact absurd (repriced_covered.mp kept) covered
  refine wp_when_intro (fun holds => ?_) (fun fails => ?_)
  · refine wp_count_late (fun full => late (fun both => full (both.2 holds))) (fun room => ?_)
    exact conclude ⟨rfl, rfl, rfl, rfl, rfl, rfl, rfl⟩ (fun _ => room)
  · exact conclude ⟨rfl, rfl, rfl, rfl, rfl, rfl, rfl⟩ (absurd · fails)

theorem setDonation_other (s : Scheduler) {slot' : Slot} (priority : Nat) (differs : slot' ≠ slot) :
    (s.setDonation slot priority).externalPriorityDonation slot' =
      s.externalPriorityDonation slot' := Function.update_of_ne differs _ _

theorem setDonation_here (s : Scheduler) (slot : Slot) (priority : Nat) :
    (s.setDonation slot priority).externalPriorityDonation slot = priority :=
  Function.update_self _ _ _

theorem Shaped.setDonation (shaped : Shaped s places rest) (slot : Slot) {priority : Nat}
    (bound : priority ≤ maxPriority)
    (live : (s.tasks slot).generation = 0 ∨ (s.tasks slot).state = .dead → priority = 0) :
    Shaped (s.setDonation slot priority) places rest := by
  refine ⟨shaped.owned.quiet (setDonation_quiet s slot priority), shaped.stands, shaped.affinity, ?_, ?_⟩
  · intro slot'
    refine ⟨(shaped.bounded slot').1, ?_⟩
    by_cases same : slot' = slot
    · subst same
      rw [setDonation_here]
      exact bound
    · rw [setDonation_other s priority same]
      exact (shaped.bounded slot').2
  · intro slot' unused
    by_cases same : slot' = slot
    · subst same
      rw [setDonation_here]
      exact live unused
    · rw [setDonation_other s priority same]
      exact shaped.undonated slot' unused

/-- The guards of `donate_priority` pass and the donation is above the task's priority. -/
def Raises (s : Scheduler) (id : TaskId) (priority : Nat) : Prop :=
  minPriority ≤ priority ∧ priority ≤ maxPriority ∧ ∃ slot, s.taskIndex id = .ok slot ∧
    ((s.tasks slot).state = .runnable ∨ (s.tasks slot).state = .running) ∧
    (s.tasks slot).effectivePriority < priority

/-- What the owner inherits, split into its donation and the rest. -/
theorem inherited_owner (owner : s.mutexOwner = some (s.idOf slot)) : inherited s slot =
      max (s.externalPriorityDonation slot) (waitersBase s (s.tasks slot).basePriority) := by
  unfold inherited
  rw [if_pos owner, waitersBase_max]

theorem inherited_other (other : s.mutexOwner ≠ some (s.idOf slot)) :
    inherited s slot = max (s.tasks slot).basePriority (s.externalPriorityDonation slot) := by
  unfold inherited
  rw [if_neg other]

/-- The guards of `donate_priority`. -/
def Donates (s : Scheduler) (id : TaskId) (priority : Nat) : Prop :=
  minPriority ≤ priority ∧ priority ≤ maxPriority ∧ ∃ slot, s.taskIndex id = .ok slot ∧
    ((s.tasks slot).state = .runnable ∨ (s.tasks slot).state = .running)

/-- The scheduler with the donation recorded and nothing recomputed yet. -/
def donated (s : Scheduler) (slot : Slot) (priority : Nat) : Scheduler :=
  s.setDonation slot (max (s.externalPriorityDonation slot) priority)

theorem donated_inherited (s : Scheduler) (slot : Slot) (priority : Nat) :
    inherited (donated s slot priority) slot = max (inherited s slot) priority := by
  by_cases owner : s.mutexOwner = some (s.idOf slot)
  · have ownerAfter : (donated s slot priority).mutexOwner =
        some ((donated s slot priority).idOf slot) := owner
    rw [inherited_owner owner, inherited_owner ownerAfter]
    unfold donated
    rw [setDonation_here]
    change max _ (waitersBase s (s.tasks slot).basePriority) = _
    omega
  · have otherAfter : (donated s slot priority).mutexOwner ≠
        some ((donated s slot priority).idOf slot) := owner
    rw [inherited_other owner, inherited_other otherAfter]
    unfold donated
    rw [setDonation_here]
    change max (s.tasks slot).basePriority _ = _
    omega

section

variable (valid : Valid s places)
include valid

/-- The owner stays covered unless the donation is its own and above its priority. -/
theorem donated_covered (priority : Nat) (used : (s.tasks slot).generation ≠ 0) :
    Covered (donated s slot priority) ↔
      ((s.tasks slot).effectivePriority < priority → s.mutexOwner ≠ some (s.idOf slot)) := by
  have priced := valid.priced slot used
  constructor
  · intro covered raises owner
    have after : (donated s slot priority).externalPriorityDonation slot ≤
        waitersBase s (s.tasks slot).basePriority := covered slot owner
    unfold donated at after
    rw [setDonation_here] at after
    rw [inherited_owner owner] at priced
    omega
  · intro low slot' stored
    have owner : s.mutexOwner = some (s.idOf slot') := stored
    have before := valid.covered slot' owner
    change (donated s slot priority).externalPriorityDonation slot' ≤
      waitersBase s (s.tasks slot').basePriority
    unfold donated
    by_cases here : slot' = slot
    · subst here
      rw [setDonation_here]
      rw [inherited_owner owner] at priced
      have notRaised : ¬ (s.tasks slot').effectivePriority < priority := fun raises =>
        low raises owner
      omega
    · rw [setDonation_other s _ here]
      exact before

/-- `donate_priority` fails early on its guards, and late when the owner is not covered
or the counter is full. -/
theorem wp_donatePriority {id : TaskId} {priority : Nat}
    (stop : ¬ Donates s id priority → ∀ reason, failed reason s)
    (late : ¬ (Raises s id priority → s.mutexOwner ≠ some id ∧ Room s.priorityInheritanceCount) →
      ∀ reason s', failed reason s') : wp (donatePriority id priority) (fun _ s' => Accepted s' ∧
      (Raises s id priority → s.mutexOwner ≠ some id ∧ Room s.priorityInheritanceCount)) failed s := by
  unfold donatePriority
  simp only [wp_bind, wp_read, wp_update, wp_bump]
  refine wp_ensure_intro (fun range => ?_)
    (fun outside => stop (fun donates => outside ⟨donates.1, donates.2.1⟩) _)
  refine wp_index (fun slot same used => ?_) (fun reason missing => stop (fun donates => ?_) _)
  swap
  · obtain ⟨_, _, slot, found, _⟩ := donates
    rw [found] at missing
    cases missing
  subst same
  have found : s.taskIndex (s.idOf slot) = .ok slot := Owned.taskIndex_idOf used
  refine wp_ensure_intro (fun runs => ?_) (fun idle => stop (fun donates => ?_) _)
  swap
  · obtain ⟨_, _, slot', found', runs⟩ := donates
    rw [found] at found'
    cases found'
    exact idle runs
  have bound : max (s.externalPriorityDonation slot) priority ≤ maxPriority :=
    Nat.max_le.mpr ⟨(valid.shaped.bounded slot).2, range.2⟩
  have shaped : Shaped (donated s slot priority) places [] :=
    valid.shaped.setDonation slot bound (fun unused => by
      rcases unused with unused | dead
      · exact absurd unused used
      · rw [dead] at runs
        rcases runs with runs | runs <;> cases runs)
  have alive : OwnerAlive (donated s slot priority) := valid.owner
  have covers := donated_covered valid priority used
  have priced := valid.priced slot used
  have price : ((repriced (donated s slot priority)).tasks slot).effectivePriority =
      max (s.tasks slot).effectivePriority priority := by
    rw [repriced_used (s := donated s slot priority) used]
    rw [donated_inherited, priced]
  -- Raising the priority is the same as being above it before.
  have raises : Raises s (s.idOf slot) priority ↔ (s.tasks slot).effectivePriority < priority := by
    refine ⟨?_, fun above => ⟨range.1, range.2, slot, found, runs, above⟩⟩
    rintro ⟨_, _, slot', found', _, above⟩
    rw [found] at found'
    cases found'
    exact above
  have ready : (Raises s (s.idOf slot) priority → s.mutexOwner ≠ some (s.idOf slot) ∧ Room s.priorityInheritanceCount) ↔
      Covered (donated s slot priority) ∧ ((s.tasks slot).effectivePriority <
        ((repriced (donated s slot priority)).tasks slot).effectivePriority →
          Room (donated s slot priority).priorityInheritanceCount) := by
    have counter : (donated s slot priority).priorityInheritanceCount =
        s.priorityInheritanceCount := rfl
    have rose : (s.tasks slot).effectivePriority < max (s.tasks slot).effectivePriority priority ↔
        (s.tasks slot).effectivePriority < priority := by omega
    rw [raises, covers, price, rose, counter]
    exact imp_and
  refine wp_recompute shaped.owned alive ?_
  refine wp_mono (wp_inheritance_conclude shaped alive
    (fun unready => late (fun holds => unready (ready.mp holds)))) (fun _ s' concluded => ?_)
    (fun _ _ kept => kept)
  exact wp_mono concluded (fun _ _ accepted => ⟨accepted.1, ready.mpr accepted.2⟩)
    (fun _ _ kept => kept)

theorem donatePriority_settles (id : TaskId) (priority : Nat) :
    Settles (Raises s id priority → s.mutexOwner ≠ some id ∧ Room s.priorityInheritanceCount)
      (donatePriority id priority) s :=
  Settles.intro (fun _ => wp_donatePriority valid)

theorem revokePriorityDonation_lands (id : TaskId) : Lands (revokePriorityDonation id) s := by
  unfold Lands revokePriorityDonation
  simp only [wp_bind, wp_update, wp_bump]
  refine wp_index (fun slot _ _ => ?_) (fun _ _ => rfl)
  have covered : Covered (s.setDonation slot 0) := by
    intro slot' owner
    by_cases here : slot' = slot
    · subst here
      rw [setDonation_here]
      exact Nat.zero_le _
    · rw [setDonation_other s 0 here]
      exact valid.covered slot' owner
  have shaped := valid.shaped.setDonation slot (Nat.zero_le _) (fun _ => rfl)
  exact wp_recompute shaped.owned valid.owner (wp_finish (repriced_valid shaped valid.owner covered))

theorem setPriority_settles (id : TaskId) (priority : Nat) :
    Settles (∀ slot, s.taskIndex id = .ok slot → minPriority ≤ priority → priority ≤ maxPriority →
      Covered (s.setTask slot (fun task => { task with basePriority := priority })))
      (setPriority id priority) s := by
  unfold Settles setPriority
  simp only [wp_bind, wp_update, wp_bump]
  refine wp_ensure_intro (fun range => ?_) (fun _ _ => rfl)
  refine wp_index (fun slot same used => ?_) (fun _ _ _ => rfl)
  refine wp_mono (wp_recompute_conclude
    (valid.shaped.setTask slot ⟨rfl, rfl, rfl, rfl, rfl, rfl, rfl⟩ (fun pending => pending) range.2) ?_ ?_)
    (fun _ _ concluded => wp_mono concluded (fun _ _ accepted => accepted.1)
      (fun _ _ kept => kept)) (fun _ _ kept => kept)
  swap
  · exact fun uncovered _ _ ready =>
      absurd (ready slot (Owned.taskIndex_ok.mpr ⟨same, used⟩) range.1 range.2) uncovered
  have ids := setTask_idOf s slot (f := fun task => { task with basePriority := priority }) rfl
  rcases valid.owner with free | ⟨owner, taken, ownerUsed, runs⟩
  · exact .inl free
  · refine .inr ⟨owner, ?_, ?_, ?_⟩
    · rw [ids]
      exact taken
    · have place := Quiet.setTask s slot (f := fun task => { task with basePriority := priority })
        ⟨rfl, rfl, rfl, rfl, rfl, rfl, rfl⟩
      rw [(place.tasks owner).generation]
      exact ownerUsed
    · rw [setTask_states s slot rfl]
      exact runs

end

end PooleOS.Sched
