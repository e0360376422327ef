import PooleOS.Deferred.Items

/- Claims are fair: normal items wait for three high ones at most, and items of one priority
are claimed in the order in which they were accepted. -/
namespace PooleOS.Deferred

open Op Option
open List
open Controller

section

variable {s : Controller} {call : Call} {index : Index} {calls : List Call} {id old : WorkId}

/-- The successful claims of a run: the state before each, and the item it selects. -/
def claims (s : Controller) : List Call → List (Controller × WorkId)
  | [] => []
  | call :: rest => (claimed s call).toList.map (fun id => (s, id)) ++ claims (step s call) rest

/-- An item of this priority is queued in the slot. -/
def Queued (s : Controller) (index : Index) (priority : Priority) : Prop :=
  (s.slots index).state = .queued ∧ (s.slots index).request.priority = priority

/-- The claim selects an item of this priority. -/
def Selects (claim : Controller × WorkId) (priority : Priority) : Prop :=
  ∃ index, claim.2 = claim.1.id index ∧ Queued claim.1 index priority

/-- The call accepts an item of this priority. -/
def Accepts (s : Controller) (call : Call) (id : WorkId) (priority : Priority) : Prop :=
  accepted s call = some id ∧
    ∃ request context fault, call = .enqueueFromTopHalf request context fault ∧ request.priority = priority

/-- One item was accepted before another one of the same priority. -/
def Precedes (calls : List Call) (old id : WorkId) : Prop :=
  ∃ priority front first between second back, calls = front ++ first :: between ++ second :: back ∧
    Accepts (run Controller.new front) first old priority ∧
      Accepts (run Controller.new (front ++ first :: between)) second id priority

section Selection

theorem oldestQueued_eq {priority : Priority} (found : s.oldestQueued priority = some index) : Queued s index priority ∧
      ∀ other, Queued s other priority → (s.slots index).enqueueSequence ≤ (s.slots other).enqueueSequence := by
  have member := argmin_mem found
  rw [mem_filter, decide_eq_true_iff] at member
  refine ⟨member.2, fun other queued => ?_⟩
  have inside : other ∈ (finRange 8).filter (fun index => (s.slots index).state = .queued ∧
      (s.slots index).request.priority = priority) := by
    rw [mem_filter, decide_eq_true_iff]
    exact ⟨mem_finRange other, queued⟩
  exact @List.le_of_mem_argmin _ _ _ (fun index => (s.slots index).enqueueSequence) _ _ _ inside found

theorem oldestQueued_isSome {priority : Priority} (queued : Queued s index priority) :
    ∃ oldest, s.oldestQueued priority = some oldest := by
  refine ne_none_iff_exists'.mp (fun missing => ?_)
  have empty := argmin_eq_none.mp missing
  have member : index ∈ (finRange 8).filter (fun index => (s.slots index).state = .queued ∧
      (s.slots index).request.priority = priority) := by
    rw [mem_filter, decide_eq_true_iff]
    exact ⟨mem_finRange index, queued⟩
  rw [empty] at member
  exact not_mem_nil member

/-- What is picked is the oldest of its priority. -/
theorem selectNext_oldest (picked : s.selectNext.1 = some index) :
    s.oldestQueued (s.slots index).request.priority = some index := by
  obtain ⟨priority, found⟩ := selectNext_priority picked
  rw [(oldestQueued_eq found).1.2]
  exact found

/-- A high item that is picked before a normal one uses up one bypass. -/
theorem selectNext_bypass (picked : s.selectNext.1 = some index)
    (high : (s.slots index).request.priority = .high) {normal : Index} (queued : Queued s normal .normal) :
    s.highBypass < maxHighBypass ∧ s.selectNext.2.highBypass = s.highBypass + 1 := by
  obtain ⟨oldest, found⟩ := oldestQueued_isSome queued
  have first := selectNext_oldest picked
  rw [high] at first
  unfold selectNext at picked ⊢
  rw [first, found] at picked ⊢
  dsimp only at picked ⊢
  split at picked
  · obtain rfl := some.inj picked
    rw [(oldestQueued_eq found).1.2] at high
    cases high
  · rename_i room
    rw [if_neg room]
    exact ⟨Nat.lt_of_not_le room, rfl⟩

/-- Three high items at most are claimed in a row while normal ones wait. -/
theorem bypass_bounded (sound : Sound s) (waits : ∀ claim ∈ claims s calls, Selects claim .high ∧
    ∃ normal, Queued claim.1 normal .normal) :
    claims s calls = [] ∨ s.highBypass + (claims s calls).length ≤ maxHighBypass := by
  induction calls generalizing s with
  | nil => exact .inl rfl
  | cons call rest ih =>
    have later := ih (step_sound sound call) (fun claim member => waits claim (mem_append_right _ member))
    rw [claims] at waits ⊢
    cases turn sound call with
    | flow _ idle flow =>
      rw [idle, toList_none, map_nil, nil_append, ← flow.bypass]
      exact later
    | admits _ _ idle _ admits =>
      rw [idle, toList_none, map_nil, nil_append, ← admits.bypass]
      exact later
    | picks place _ claims picks =>
      rw [claims, toList_some, map_singleton] at waits ⊢
      obtain ⟨⟨other, named, queued⟩, normal, waiting⟩ := waits (s, s.id place) (mem_cons_self ..)
      obtain rfl : place = other := Fin.ext (congrArg WorkId.slot named)
      obtain ⟨room, raised⟩ := selectNext_bypass picks.picked queued.2 waiting
      rw [picks.bypass, raised] at later
      refine .inr ?_
      rw [length_append, length_singleton]
      rcases later with none | some
      · rw [none]
        exact room
      · omega

/-- A claim selects the oldest item of its priority. -/
theorem claimed_oldest (sound : Sound s) (ordered : Ordered s) (claims : claimed s call = some id) :
    ∃ index, id = s.id index ∧ (s.slots index).state = .queued ∧
      ∀ other, Queued s other (s.slots index).request.priority → other ≠ index →
        (s.slots index).enqueueSequence < (s.slots other).enqueueSequence := by
  cases turn sound call with
  | flow _ idle _ =>
    rw [idle] at claims
    cases claims
  | admits _ _ idle _ _ =>
    rw [idle] at claims
    cases claims
  | picks index _ claims' picks =>
    rw [claims'] at claims
    obtain ⟨queued, least⟩ := oldestQueued_eq (selectNext_oldest picks.picked)
    refine ⟨index, (some.inj claims).symm, queued.1, fun other waits apart => ?_⟩
    refine lt_of_le_of_ne (least other waits) (fun same => apart ?_)
    refine ordered.distinct index other ?_ ?_ same.symm
    · rw [queued.1]
      decide
    · rw [waits.1]
      decide

end Selection

section Order

/-- A queued item stays queued until it is claimed or has ended. -/
theorem queued_until (sound : Sound s) (named : id = s.id index) (queued : (s.slots index).state = .queued)
    (calls : List Call) : (id = (run s calls).id index ∧ ((run s calls).slots index).state = .queued) ∨
      id ∈ (claims s calls).map Prod.snd ∨ Settled s calls id := by
  induction calls generalizing s with
  | nil => exact .inl ⟨named, queued⟩
  | cons call rest ih =>
    have next := step_sound sound call
    have still : (step s call).slots index = s.slots index →
        (id = (run s (call :: rest)).id index ∧ ((run s (call :: rest)).slots index).state = .queued) ∨
          id ∈ (claims s (call :: rest)).map Prod.snd ∨ Settled s (call :: rest) id := by
      intro same
      have named' : id = (step s call).id index := by
        rw [named]
        unfold Controller.id
        rw [same]
      rcases ih next named' (by rw [same]; exact queued) with here | there | settled
      · exact .inl here
      · refine .inr (.inl ?_)
        rw [claims, map_append]
        exact mem_append_right _ there
      · exact .inr (.inr settled.cons)
    cases turn sound call with
    | flow _ _ flow =>
      cases flow.slots index with
      | same equal => exact still equal
      | moved _ item moves =>
        rcases moves with ended | ⟨running, _⟩
        · exact .inr (.inr (Settled.cons (.now (named.trans (id_of_sameItem item).symm) ended)))
        · rw [queued] at running
          cases running
      | freed dead _ _ => exact absurd (.inl queued) dead
    | admits place _ _ _ admits =>
      refine still (admits.others index ?_)
      rintro rfl
      rw [admits.free] at queued
      cases queued
    | picks place _ claimed picks =>
      by_cases same : index = place
      · subst same
        refine .inr (.inl ?_)
        rw [claims, claimed, toList_some, map_append]
        exact mem_append_left _ (by simp [named])
      · exact still (picks.others index same)

/-- What an accepted item keeps as long as it is pending. -/
theorem accepted_keeps (sound : Sound s) {priority : Priority} (accepts : Accepts s call id priority) {rest : List Call}
    (pending : Pending (run (step s call) rest) index id) :
    ((run (step s call) rest).slots index).enqueueSequence = (step s call).enqueueSequence ∧
      ((run (step s call) rest).slots index).request.priority = priority ∧
        s.enqueueSequence < (step s call).enqueueSequence := by
  obtain ⟨found, request, context, fault, asked, known⟩ := accepts
  cases turn sound call with
  | flow refuses _ _ =>
    rw [refuses] at found
    cases found
  | picks _ refuses _ _ =>
    rw [refuses] at found
    cases found
  | admits place accepts _ asks admits =>
    rw [accepts] at found
    obtain rfl := some.inj found
    have same : index = place := Fin.ext (congrArg WorkId.slot pending.1).symm
    subst same
    have next := step_sound sound call
    rcases pending_or_settled next ⟨rfl, .inl admits.queued⟩ rest with ⟨_, item⟩ | settled
    · obtain ⟨context', fault', asked'⟩ := asks
      obtain ⟨stored, _, _⟩ := Call.enqueueFromTopHalf.inj (asked.symm.trans asked')
      refine ⟨item.sequence.trans admits.stamped, ?_, admits.clock⟩
      rw [item.request, ← stored]
      exact known
    · exact absurd pending (not_pending_of_settled next settled)

theorem accepted_queued (sound : Sound s) {priority : Priority} (accepts : Accepts s call id priority) :
    ∃ index, id = (step s call).id index ∧ ((step s call).slots index).state = .queued := by
  have found := accepts.1
  cases turn sound call with
  | flow refuses _ _ =>
    rw [refuses] at found
    cases found
  | picks _ refuses _ _ =>
    rw [refuses] at found
    cases found
  | admits place accepts' _ _ admits =>
    rw [accepts'] at found
    exact ⟨place, (some.inj found).symm, admits.queued⟩

theorem run_cons_append (front : List Call) (call : Call) (rest : List Call) :
    run Controller.new (front ++ call :: rest) = run (step (run Controller.new front) call) rest := by
  rw [run_append]
  rfl

/-- No item that was accepted before the claimed one waits with the same priority. -/
theorem not_queued_before (precedes : Precedes calls old id)
    (claims : claimed (run Controller.new calls) call = some id) (named : old = (run Controller.new calls).id index) :
    ((run Controller.new calls).slots index).state ≠ .queued := by
  intro queued
  obtain ⟨priority, front, first, between, second, back, rfl, earlier, later⟩ := precedes
  obtain ⟨sound, ordered⟩ := run_ordered new_sound new_ordered (front ++ first :: between ++ second :: back)
  obtain ⟨place, rfl, picked, least⟩ := claimed_oldest sound ordered claims
  have oldRun : run Controller.new (front ++ first :: between ++ second :: back) =
      run (step (run Controller.new front) first) (between ++ second :: back) := by
    rw [append_assoc, cons_append, run_cons_append]
  have newRun : run Controller.new (front ++ first :: between ++ second :: back) =
      run (step (run Controller.new (front ++ first :: between)) second) back := run_cons_append _ _ _
  have middle : run Controller.new (front ++ first :: between) =
      run (step (run Controller.new front) first) between := run_cons_append _ _ _
  have oldPending : Pending (run (step (run Controller.new front) first) (between ++ second :: back)) index old := by
    rw [← oldRun]
    exact ⟨named, .inl queued⟩
  have newPending : Pending (run (step (run Controller.new (front ++ first :: between)) second) back) place
      ((run Controller.new (front ++ first :: between ++ second :: back)).id place) := by
    rw [← newRun]
    exact ⟨rfl, .inl picked⟩
  obtain ⟨oldStamp, oldPriority, _⟩ := accepted_keeps (run_sound front) earlier oldPending
  obtain ⟨newStamp, newPriority, after⟩ := accepted_keeps (run_sound _) later newPending
  rw [← oldRun] at oldStamp oldPriority
  rw [← newRun] at newStamp newPriority
  have clock := run_clock (step_sound (run_sound front) first) between
  rw [← middle] at clock
  have less : ((run Controller.new (front ++ first :: between ++ second :: back)).slots index).enqueueSequence <
      ((run Controller.new (front ++ first :: between ++ second :: back)).slots place).enqueueSequence := by
    rw [oldStamp, newStamp]
    exact lt_of_le_of_lt clock after
  have apart : index ≠ place := by
    rintro rfl
    exact lt_irrefl _ less
  have more := least index ⟨queued, oldPriority.trans newPriority.symm⟩ apart
  omega

/-- An item whose commit has failed is queued again. -/
theorem finishClaimed_back {worker : Nat}
    (failed : ((finishClaimed worker id .beforeCommit).run s).1 = .error .faultInjected) :
    let back := step s (.finishClaimed worker id .beforeCommit)
    ∃ index, id = back.id index ∧ (back.slots index).state = .queued := by
  intro back
  have holds : wp (finishClaimed worker id .beforeCommit) (fun _ _ => True)
      (fun reason s' => reason = .faultInjected → ∃ index, id = s'.id index ∧ (s'.slots index).state = .queued) s := by
    refine wp_publish (wp_mono (turns_finishInner s worker id .beforeCommit) (fun _ _ _ => trivial) ?_)
    refine fun reason s' turned => ⟨fun visible _ => ?_, fun hidden visible => absurd visible hidden⟩
    obtain ⟨index, named, _, turns⟩ := turned visible
    exact ⟨index, named.trans (id_of_sameItem turns.item).symm, turns.now⟩
  have found := (wp_iff.mp holds).2 _ failed rfl
  have same : back = ((finishClaimed worker id .beforeCommit).run s).2 := step_eq rfl
  rw [same]
  exact found

/-- An item that was queued at some point of a run is claimed after it, or ends, before an item of
its priority that was accepted later is claimed. -/
theorem claimed_or_settled {s : Controller} (sound : Sound s) (named : old = s.id index)
    (queued : (s.slots index).state = .queued) {between : List Call}
    (reaches : run s between = run Controller.new calls) (precedes : Precedes calls old id)
    (claimed : claimed (run Controller.new calls) call = some id) :
    old ∈ (claims s between).map Prod.snd ∨ Settled s between old := by
  rcases queued_until sound named queued between with ⟨still, waits⟩ | done
  · rw [reaches] at still waits
    exact absurd waits (not_queued_before precedes claimed still)
  · exact done

theorem claims_append (s : Controller) (first second : List Call) :
    claims s (first ++ second) = claims s first ++ claims (run s first) second := by
  induction first generalizing s with
  | nil => rfl
  | cons call rest ih =>
    rw [cons_append, claims, claims, ih, append_assoc]
    rfl

end Order

/-- Fairness and order of the claims of every run. -/
theorem claims_fair (calls : List Call) :
    (∀ before segment after, calls = before ++ segment ++ after → (∀ claim ∈ claims (run Controller.new before) segment,
        Selects claim .high ∧ ∃ normal, Queued claim.1 normal .normal) →
        (claims (run Controller.new before) segment).length ≤ maxHighBypass) ∧
    (∀ before call after id, calls = before ++ call :: after → claimed (run Controller.new before) call = some id →
      let s := run Controller.new before
      (∃ index, id = s.id index ∧ (s.slots index).state = .queued ∧
        ∀ other, Queued s other (s.slots index).request.priority → other ≠ index →
          (s.slots index).enqueueSequence < (s.slots other).enqueueSequence) ∧
      (∀ old, Precedes before old id →
        old ∈ (claims Controller.new before).map Prod.snd ∨ Settled Controller.new before old) ∧
      ∀ early worker old between, before = early ++ .finishClaimed worker old .beforeCommit :: between →
        ((finishClaimed worker old .beforeCommit).run (run Controller.new early)).1 = .error .faultInjected →
          Precedes before old id →
            let back := step (run Controller.new early) (.finishClaimed worker old .beforeCommit)
            old ∈ (claims back between).map Prod.snd ∨ Settled back between old) := by
  refine ⟨?_, ?_⟩
  · rintro before segment after rfl waits
    rcases bypass_bounded (run_sound before) waits with none | some
    · rw [none]
      exact Nat.zero_le _
    · omega
  · rintro before call after id rfl claimed s
    obtain ⟨sound, ordered⟩ := run_ordered new_sound new_ordered before
    refine ⟨claimed_oldest sound ordered claimed, ?_, ?_⟩
    · intro old precedes
      obtain ⟨priority, front, first, between, second, back, rfl, earlier, later⟩ := precedes
      obtain ⟨index, named, queued⟩ := accepted_queued (run_sound front) earlier
      have reaches : run (step (run Controller.new front) first) (between ++ second :: back) =
          run Controller.new (front ++ first :: between ++ second :: back) := by
        rw [append_assoc, cons_append, run_cons_append]
      have split : front ++ first :: between ++ second :: back = (front ++ [first]) ++ (between ++ second :: back) := by
        simp
      have start : step (run Controller.new front) first = run Controller.new (front ++ [first]) :=
        (run_cons_append front first []).symm
      rcases claimed_or_settled (step_sound (run_sound front) first) named queued reaches
        ⟨priority, front, first, between, second, back, rfl, earlier, later⟩ claimed with member | settled
      · refine .inl ?_
        rw [start] at member
        rw [split, claims_append, map_append]
        exact mem_append_right _ member
      · refine .inr ?_
        rw [start] at settled
        rw [split]
        exact settled.after
    · rintro early worker old between rfl failed precedes back
      obtain ⟨index, named, queued⟩ := finishClaimed_back failed
      exact claimed_or_settled (step_sound (run_sound early) _) named queued (run_cons_append early _ between).symm
        precedes claimed

end

variable {s : Controller} {index : Index}

/-- A counter that the end of an item advances is at its end. -/
def EndsExhausted (s : Controller) : Prop :=
  u32Values ≤ s.completed + 1 ∨ u32Values ≤ s.cancelled + 1 ∨ u64Values ≤ s.completionSequence + 1

/-- A counter that a dispatch advances is at its end. -/
def Exhausted (s : Controller) : Prop := u32Values ≤ s.dispatches + 1 ∨ EndsExhausted s

/-- The item of the slot has not been cancelled, and its operand does not fit its lane. -/
def Blocks (s : Controller) (index : Index) : Prop :=
  (s.slots index).cancelRequested = false ∧ Overruns (lanes s) (s.slots index).request.operation

instance (lanes : Nat × Nat × Nat) (operation : Operation) : Decidable (Overruns lanes operation) :=
  match operation with
  | .add _ => inferInstanceAs (Decidable (_ ≤ _))
  | .xor _ => inferInstanceAs (Decidable False)
  | .fence _ => inferInstanceAs (Decidable (_ ≤ _))

instance (s : Controller) (index : Index) : Decidable (Blocks s index) := inferInstanceAs (Decidable (_ ∧ _))

instance (s : Controller) : Decidable (EndsExhausted s) := inferInstanceAs (Decidable (_ ∨ _))

instance (s : Controller) : Decidable (Exhausted s) := inferInstanceAs (Decidable (_ ∨ _))

section Rules

variable {done : Unit → Controller → Prop} {failed : Error → Controller → Prop}

theorem wp_resolve_id {done : Index → Controller → Prop} (used : (s.slots index).state ≠ .free) (pass : done index s) :
    wp (resolve (s.id index)) done failed s := by
  have found : s.resolve (s.id index) = .ok index := by
    unfold Controller.resolve
    have inside : (s.id index).slot < 8 := index.isLt
    rw [dif_pos inside]
    exact if_neg (not_or.mpr ⟨used, not_not.mpr rfl⟩)
  unfold resolve
  rw [wp_bind, wp_read, found]
  exact pass

end Rules

/-- The selected item is running. -/
structure Started (s s' : Controller) (index : Index) (worker : Nat) : Prop where
  sound : Sound s'
  active : s'.activeWorker = worker
  slot : s'.slots index = { s.slots index with state := .running, owner := worker }
  lanes : lanes s' = lanes s
  counts : (s'.completed, s'.cancelled, s'.completionSequence) = (s.completed, s.cancelled, s.completionSequence)

theorem selectNext_counters (s : Controller) :
    (s.selectNext.2.dispatches, s.selectNext.2.completed, s.selectNext.2.cancelled, s.selectNext.2.completionSequence) =
      (s.dispatches, s.completed, s.cancelled, s.completionSequence) := by
  unfold selectNext
  split
  · split <;> rfl
  all_goals rfl

theorem claimInner_starts (sound : Sound s) {worker : Nat} {permit : DispatchPermit} (inside : worker < workerCount)
    (idle : s.activeWorker = u8Max) (current : permit.eoiEpoch ≠ 0 ∧ permit.eoiEpoch = s.eoiEpoch)
    (picked : s.selectNext.1 = some index) :
    wp (claimInner worker permit .none) (fun id s' => id = s'.id index ∧ Started s s' index worker)
      (fun reason _ => reason = .counter ∧ Exhausted s) s := by
  have queued := selectNext_queued picked
  have rests := selectNext_rests s
  have counters := selectNext_counters s
  unfold claimInner
  simp only [wp_bind, wp_read]
  refine wp_ensure_intro (fun _ => ?_) (fun outside => absurd inside outside)
  refine wp_ensure_intro (fun _ => ?_) (fun invalid => ?_)
  · refine wp_ensure_intro (fun _ => ?_) (fun busy => absurd idle busy)
    refine wp_when_intro (fun fault => absurd fault.1 (by decide)) (fun _ => ?_)
    rw [wp_update, picked, orError_some, wp_lift_ok]
    generalize s.selectNext.2 = s₁ at rests counters
    have selected := rests.plain sound
    have flags := rests.flags
    simp only [Prod.mk.injEq] at flags counters
    have start : (s₁.slots index).state = .queued := by
      rw [rests.slots]
      exact queued
    simp only [wp_pure]
    refine wp_advance_room _ _ _ ?_ (fun full => ⟨rfl, .inl ?_⟩)
    · have started : Claims s₁ { s₁.setSlot index (fun slot => { slot with state := .running, owner := worker })
          with activeWorker := worker, dispatches := s₁.dispatches + 1 } :=
        claims_start selected.sound inside (flags.2.2.trans idle) start ⟨rfl, rfl, rfl⟩ rfl rfl rfl
      refine wp_check started.sound.consistent ⟨trivial, started.sound, rfl, ?_, rests.lanes, ?_⟩
      · simp [setSlot, rests.slots]
      · simp [setSlot, counters]
    · have same : s₁.dispatches = s.dispatches := counters.1
      rw [← same]
      exact full
  · exact absurd current (fun both => invalid (not_or.mpr ⟨both.1, not_not.mpr both.2⟩))

theorem finishInner_ends (sound : Sound s) {worker : Nat} (running : (s.slots index).state = .running)
    (owned : (s.slots index).owner = worker) (active : s.activeWorker = worker) :
    wp (finishInner worker (s.id index) .none) (fun _ _ => ¬ Blocks s index)
      (fun reason _ => reason = .counter ∧ (EndsExhausted s ∨ Blocks s index)) s := by
  have live : (s.slots index).Live := .inr running
  unfold finishInner
  rw [wp_bind]
  refine wp_resolve_id live.used ?_
  rw [wp_bind, wp_read, wp_bind]
  refine wp_ensure_intro (fun _ => ?_) (fun differs => ?_)
  · split
    · rename_i cancelled
      have free : ¬ Blocks s index := fun blocks => by rw [blocks.1] at cancelled; cases cancelled
      unfold finishCancelled settle advanceCompletionSequence countCancelled modifySlot setActiveWorker increment
      simp only [wp_bind, wp_read, wp_update, wp_pure]
      refine wp_advance_room _ _ _ ?_ (fun full => ⟨rfl, .inl (.inr (.inr full))⟩)
      refine wp_advance_room _ _ _ ?_ (fun full => ⟨rfl, .inl (.inr (.inl full))⟩)
      exact wp_check_plain (plain_cancel sound (.inr ⟨running, rfl⟩) ⟨rfl, rfl, rfl⟩ rfl rfl) (fun _ => free)
    · rename_i kept
      have still : (s.slots index).cancelRequested = false := Bool.eq_false_of_not_eq_true kept
      unfold finishApplied settle advanceCompletionSequence countCompleted modifySlot setActiveWorker increment
      simp only [wp_bind, wp_read, wp_update, wp_pure]
      refine wp_apply_room (fun result sum xor fence fits credited => ?_) (fun overruns => ⟨rfl, .inr ⟨still, overruns⟩⟩)
      refine wp_advance_room _ _ _ ?_ (fun full => ⟨rfl, .inl (.inr (.inr full))⟩)
      refine wp_advance_room _ _ _ ?_ (fun full => ⟨rfl, .inl (.inl full)⟩)
      refine wp_mono (wp_check_finishes (s := s) (.inr ⟨index, completes_finish sound running ⟨rfl, rfl, rfl⟩ rfl rfl
        credited⟩)) (fun _ _ _ blocks => fits blocks.2) (fun _ _ (impossible : False) => impossible.elim)
  · refine absurd ?_ differs
    simp [running, owned, active]

/-- A dispatch of the selected item succeeds unless a counter is at its end or the item blocks. -/
theorem dispatchOne_outcome (sound : Sound s) {worker : Nat} {permit : DispatchPermit} (inside : worker < workerCount)
    (idle : s.activeWorker = u8Max) (current : permit.eoiEpoch ≠ 0 ∧ permit.eoiEpoch = s.eoiEpoch)
    (picked : s.selectNext.1 = some index) : wp (dispatchOne worker permit) (fun _ _ => ¬ Blocks s index)
      (fun reason s' => (reason = .counter ∧ (Exhausted s ∨ Blocks s index)) ∧ s' = s) s := by
  refine wp_transact ?_
  rw [wp_bind]
  refine wp_mono (claimInner_starts sound inside idle current picked) ?_
    (fun _ _ both => ⟨⟨both.1, .inl both.2⟩, rfl⟩)
  rintro _ s' ⟨rfl, started⟩
  have slot := started.slot
  have counts := started.counts
  simp only [Prod.mk.injEq] at counts
  have same : Blocks s' index ↔ Blocks s index := by
    unfold Blocks
    rw [slot, started.lanes]
  have spent : EndsExhausted s' ↔ EndsExhausted s := by
    unfold EndsExhausted
    rw [counts.1, counts.2.1, counts.2.2]
  refine wp_mono (finishInner_ends started.sound (by rw [slot]) (by rw [slot]) started.active)
    (fun _ _ free => same.not.mp free) (fun _ _ both => ⟨⟨both.1, ?_⟩, rfl⟩)
  exact both.2.imp (fun full => .inr (spent.mp full)) same.mp

theorem selectNext_isSome (queued : (s.slots index).state = .queued) : ∃ picked, s.selectNext.1 = some picked := by
  obtain ⟨oldest, found⟩ := @oldestQueued_isSome s index (s.slots index).request.priority ⟨queued, rfl⟩
  unfold selectNext
  cases priority : (s.slots index).request.priority with
  | high =>
    rw [priority] at found
    rw [found]
    cases s.oldestQueued .normal with
    | none => exact ⟨_, rfl⟩
    | some normal =>
      dsimp only
      split
      · exact ⟨_, rfl⟩
      · exact ⟨_, rfl⟩
  | normal =>
    rw [priority] at found
    rw [found]
    cases s.oldestQueued .high with
    | none => exact ⟨_, rfl⟩
    | some high =>
      dsimp only
      split
      · exact ⟨_, rfl⟩
      · exact ⟨_, rfl⟩

/-- In every reachable state a dispatch can only be stopped by a counter at its end, or by a lane
that has no room for the selected item; then it leaves the state as it was. -/
theorem dispatch_progresses (calls : List Call) (worker : Nat) (permit : DispatchPermit)
    (inside : worker < workerCount) (idle : (run Controller.new calls).activeWorker = u8Max)
    (current : permit.eoiEpoch ≠ 0 ∧ permit.eoiEpoch = (run Controller.new calls).eoiEpoch)
    (waiting : ∃ index, ((run Controller.new calls).slots index).state = .queued) :
    let s := run Controller.new calls
    ∃ index, s.selectNext.1 = some index ∧
      (¬ Exhausted s → ((∃ receipt, ((dispatchOne worker permit).run s).1 = .ok receipt) ↔ ¬ Blocks s index)) ∧
      ∀ reason, ((dispatchOne worker permit).run s).1 = .error reason →
        (dispatchOne worker permit).run s = (.error .counter, s) := by
  intro s
  obtain ⟨queued, state⟩ := waiting
  obtain ⟨index, picked⟩ := selectNext_isSome state
  have outcome := wp_iff.mp (dispatchOne_outcome (run_sound calls) inside idle current picked)
  refine ⟨index, picked, fun room => ⟨?_, fun free => ?_⟩, fun reason failed => ?_⟩
  · rintro ⟨receipt, done⟩
    exact outcome.1 receipt done
  · rcases done : ((dispatchOne worker permit).run s).1 with reason | receipt
    · rcases (outcome.2 reason done).1.2 with full | blocks
      · exact absurd full room
      · exact absurd blocks free
    · exact ⟨receipt, rfl⟩
  · obtain ⟨⟨rfl, _⟩, kept⟩ := outcome.2 reason failed
    exact Prod.ext failed kept

/-- The producer of a request, in an interrupt of depth one. -/
def topHalf : TopHalfContext := ⟨1, true, true, false⟩

/-- One item, after an end of interrupt. -/
def oneItem : List Call := [.enqueueFromTopHalf ⟨1, 7, .normal, .add 5⟩ topHalf .none, .observeEoi]

theorem oneItem_dispatches : ∃ index, (run Controller.new oneItem).selectNext.1 = some index ∧
    (¬ Exhausted (run Controller.new oneItem) →
      ((∃ receipt, ((dispatchOne 0 ⟨1⟩).run (run Controller.new oneItem)).1 = .ok receipt) ↔
        ¬ Blocks (run Controller.new oneItem) index)) ∧
    ∀ reason, ((dispatchOne 0 ⟨1⟩).run (run Controller.new oneItem)).1 = .error reason →
      (dispatchOne 0 ⟨1⟩).run (run Controller.new oneItem) = (.error .counter, run Controller.new oneItem) :=
  dispatch_progresses oneItem 0 ⟨1⟩ (by decide) (by decide +kernel) (by decide +kernel) (by decide +kernel)

/-- The sum lane is full, and one more item is accepted for it. -/
def fullLane : List Call := [
  .enqueueFromTopHalf ⟨1, 7, .normal, .add 4294967295⟩ topHalf .none, .observeEoi, .dispatchOne 0 ⟨1⟩,
  .enqueueFromTopHalf ⟨2, 7, .normal, .add 1⟩ topHalf .none]

/-- The item that was accepted last cannot be dispatched. -/
theorem full_lane_blocks :
    (run Controller.new fullLane).activeWorker = u8Max ∧ (run Controller.new fullLane).eoiEpoch = 1 ∧
      (∃ index, ((run Controller.new fullLane).slots index).state = .queued) ∧
      ¬ Exhausted (run Controller.new fullLane) ∧
      ((dispatchOne 0 ⟨1⟩).run (run Controller.new fullLane)).1 = .error .counter := by
  decide +kernel

end PooleOS.Deferred
