import PooleOS.Sched.Ownership

/- `dispatch` takes the highest, most bypassed task off a queue and ages the
equal-priority tasks it leaves behind. -/
namespace PooleOS.Sched

open Op Function Finset Slots Places
open List
open Scheduler

variable {s : Scheduler} {places : Places Place Slot} {floor : Slot → Nat}

/-- `other` does not come before `chosen`: lower priority, or equal and bypassed no more. -/
def Yields (s : Scheduler) (chosen other : Slot) : Prop :=
  (s.tasks other).effectivePriority < (s.tasks chosen).effectivePriority ∨
    ((s.tasks other).effectivePriority = (s.tasks chosen).effectivePriority ∧
      (s.tasks other).bypassCount ≤ (s.tasks chosen).bypassCount)

theorem Yields.trans {first second third : Slot} (left : Yields s second first)
    (right : Yields s third second) : Yields s third first := by
  unfold Yields at *
  omega

variable {cursor : Nat}

theorem queue_get (owned : Owned s places floor) (cpu : CpuId) (inside : cursor < (places.items (.queue cpu)).length) :
    (s.queues cpu).get cursor = some (s.idOf ((places.items (.queue cpu)).get ⟨cursor, inside⟩)) := by
  rw [owned.queues, get_ofList (Owned.length_le places _)]
  simp [inside]

theorem pickStep_ok (owned : Owned s places floor) (cpu : CpuId) {selected : Nat}
    (one : selected < (places.items (.queue cpu)).length) (two : cursor < (places.items (.queue cpu)).length) :
    ∃ next, s.pickStep (s.queues cpu) selected cursor = .ok next ∧
      ((next = cursor ∧ Yields s ((places.items (.queue cpu)).get ⟨cursor, two⟩)
          ((places.items (.queue cpu)).get ⟨selected, one⟩)) ∨
        (next = selected ∧ Yields s ((places.items (.queue cpu)).get ⟨selected, one⟩)
          ((places.items (.queue cpu)).get ⟨cursor, two⟩))) := by
  have candidate := owned.taskIndex_fits (get_mem (places.items (.queue cpu)) ⟨cursor, two⟩)
  have incumbent := owned.taskIndex_fits (get_mem (places.items (.queue cpu)) ⟨selected, one⟩)
  unfold pickStep
  rw [queue_get owned cpu two, queue_get owned cpu one]
  simp only [orError_some, candidate, incumbent, bind, Except.bind, pure, Except.pure]
  split
  · refine ⟨cursor, rfl, .inl ⟨rfl, ?_⟩⟩
    unfold Yields
    omega
  · refine ⟨selected, rfl, .inr ⟨rfl, ?_⟩⟩
    unfold Yields
    omega

variable {cpu : CpuId}

theorem pickQueueIndex_empty (owned : Owned s places floor)
    (empty : places.items (.queue cpu) = []) : s.pickQueueIndex cpu = .error .cpuIdle := by
  unfold pickQueueIndex
  rw [owned.queues, empty]
  rfl

/-- A queue that is not empty has a member to which every other yields. -/
theorem pickQueueIndex_ok (owned : Owned s places floor) (cpu : CpuId) (waiting : places.items (.queue cpu) ≠ []) :
    ∃ index, ∃ inside : index < (places.items (.queue cpu)).length,
      s.pickQueueIndex cpu = .ok index ∧ ∀ other ∈ places.items (.queue cpu),
        Yields s ((places.items (.queue cpu)).get ⟨index, inside⟩) other := by
  have len : (s.queues cpu).len = (places.items (.queue cpu)).length := by
    rw [owned.queues, ofList_len, length_map]
  have positive : 0 < (places.items (.queue cpu)).length := length_pos_of_ne_nil waiting
  obtain ⟨index, folded, inside, best⟩ := foldlM_range_ok
    (s.pickStep (s.queues cpu)) 1 ((places.items (.queue cpu)).length - 1) 0
    (fun cursor selected => ∃ one : selected < (places.items (.queue cpu)).length,
      ∀ other, ∀ two : other < (places.items (.queue cpu)).length, other < cursor →
        Yields s ((places.items (.queue cpu)).get ⟨selected, one⟩)
          ((places.items (.queue cpu)).get ⟨other, two⟩))
    (by
      intro cursor selected after before ⟨one, best⟩
      have two : cursor < (places.items (.queue cpu)).length := by omega
      obtain ⟨next, stepped, result⟩ := pickStep_ok owned cpu one two
      refine ⟨next, stepped, ?_⟩
      rcases result with ⟨rfl, better⟩ | ⟨rfl, worse⟩
      · refine ⟨two, ?_⟩
        intro other three earlier
        by_cases same : other = next
        · subst same
          exact .inr ⟨rfl, le_rfl⟩
        · exact (best other three (by omega)).trans better
      · refine ⟨one, ?_⟩
        intro other three earlier
        by_cases same : other = cursor
        · subst same
          exact worse
        · exact best other three (by omega))
    ⟨positive, fun other two first => by
      have same : other = 0 := by omega
      subst same
      exact .inr ⟨rfl, le_rfl⟩⟩
  refine ⟨index, inside, ?_, ?_⟩
  · unfold pickQueueIndex
    dsimp only
    rw [len, if_neg (by omega)]
    exact folded
  · intro other member
    obtain ⟨cursor, same⟩ := mem_iff_get.mp member
    rw [← same]
    exact best cursor.val cursor.isLt (by have := cursor.isLt; omega)

/-- `remove_at` on a stored queue takes exactly that entry out. -/
theorem removeAt_ok (owned : Owned s places floor) (cpu : CpuId) {index : Nat}
    (inside : index < (places.items (.queue cpu)).length) : (s.queues cpu).removeAt index =
      .ok (s.idOf ((places.items (.queue cpu)).get ⟨index, inside⟩), ofList (((places.items (.queue cpu)).erase
          ((places.items (.queue cpu)).get ⟨index, inside⟩)).map s.idOf)) := by
  have length := Owned.length_le (s := s) places (.queue cpu)
  have same : (places.items (.queue cpu)).erase ((places.items (.queue cpu)).get ⟨index, inside⟩) =
      (places.items (.queue cpu)).eraseIdx index := by
    simpa using (places.nodup (.queue cpu)).erase_getElem index inside
  have stored := queue_get owned cpu inside
  have len : (s.queues cpu).len = (places.items (.queue cpu)).length := by
    rw [owned.queues, ofList_len, length_map]
  unfold RunQueue.removeAt
  rw [len, if_neg (by omega), stored]
  rw [same, ← eraseIdx_map, owned.queues, closeGap_ofList length (by simpa using inside)]

/-- The counters after one pass over the entries left behind. -/
def aged (s : Scheduler) (slots : List Slot) (priority : Nat) : Scheduler :=
  { s with tasks := fun slot =>
      if slot ∈ slots ∧ (s.tasks slot).effectivePriority = priority then
        { s.tasks slot with bypassCount := (s.tasks slot).bypassCount + 1 }
      else s.tasks slot }

variable {slot : Slot}

theorem aged_snoc (s : Scheduler) (slots : List Slot) (priority : Nat)
    (equal : (s.tasks slot).effectivePriority = priority) (fresh : slot ∉ slots) :
    (aged s slots priority).setTask slot (fun task =>
        { task with bypassCount := (s.tasks slot).bypassCount + 1 }) =
      aged s (slots ++ [slot]) priority := by
  have tasks : update (aged s slots priority).tasks slot
      { (aged s slots priority).tasks slot with bypassCount := (s.tasks slot).bypassCount + 1 } =
        (aged s (slots ++ [slot]) priority).tasks := by
    funext other
    by_cases same : other = slot
    · subst same
      simp [aged, equal, fresh]
    · simp [aged, same]
  exact congrArg (fun tasks => { s with tasks := tasks }) tasks

theorem aged_snoc_other (s : Scheduler) (slots : List Slot) (priority : Nat)
    (other : (s.tasks slot).effectivePriority ≠ priority) :
    aged s (slots ++ [slot]) priority = aged s slots priority := by
  have tasks : (aged s (slots ++ [slot]) priority).tasks = (aged s slots priority).tasks := by
    funext slot'
    by_cases same : slot' = slot
    · subst same
      simp [aged, other]
    · simp [aged, same]
  exact congrArg (fun tasks => { s with tasks := tasks }) tasks

theorem aged_idOf (s : Scheduler) (slots : List Slot) (priority : Nat) :
    (aged s slots priority).idOf = s.idOf := by
  funext slot
  unfold aged idOf Task.id
  dsimp only
  split <;> rfl

variable {failed : Error → Scheduler → Prop}

/-- One turn of the loop of `dispatch`. -/
theorem bypassOther_run (owned : Owned s places floor) (cpu : CpuId) (priority : Nat)
    (young : ∀ slot ∈ places.items (.queue cpu), (s.tasks slot).effectivePriority = priority →
      (s.tasks slot).bypassCount < maxBypass)
    (inside : cursor < (places.items (.queue cpu)).length)
    {done : Unit → Scheduler → Prop}
    (pass : done () (aged s ((places.items (.queue cpu)).take (cursor + 1)) priority)) :
    wp (bypassOther cpu priority cursor) done failed
      (aged s ((places.items (.queue cpu)).take cursor) priority) := by
  set items := places.items (.queue cpu) with itemsDef
  set slot := items.get ⟨cursor, inside⟩ with slotDef
  have member : slot ∈ items := get_mem _ _
  have used : (s.tasks slot).generation ≠ 0 := (owned.fits member).generation
  have fresh : slot ∉ items.take cursor := by
    intro earlier
    obtain ⟨other, before, same⟩ := mem_take_iff_getElem.mp earlier
    have equal := (places.nodup (.queue cpu)).getElem_inj_iff.mp (same.trans slotDef)
    omega
  have grown : items.take (cursor + 1) = items.take cursor ++ [slot] := by
    rw [take_succ_eq_append_getElem inside]
    rfl
  have stored : (aged s (items.take cursor) priority).tasks slot = s.tasks slot := by
    simp [aged, fresh]
  rw [grown] at pass
  unfold bypassOther
  simp only [wp_bind, wp_read]
  have entry : ((aged s (items.take cursor) priority).queues cpu).get cursor =
      some ((aged s (items.take cursor) priority).idOf slot) := by
    rw [aged_idOf]
    exact queue_get owned cpu inside
  rw [entry, orError_some, wp_lift_ok]
  refine wp_index_idOf rfl (by rw [stored]; exact used) ?_
  rw [stored]
  refine wp_when_intro (fun equal => ?_) (fun other => ?_)
  · have few := young slot member equal
    have small : (s.tasks slot).bypassCount + 1 < u8Values := by
      unfold u8Values maxBypass at *
      omega
    have counted : checkedAdd u8Values (s.tasks slot).bypassCount 1 =
        some ((s.tasks slot).bypassCount + 1) := checkedAdd_eq_some.mpr ⟨small, rfl⟩
    simp only [counted, orError_some, wp_bind, wp_lift_ok, wp_update]
    refine wp_ensure_intro (fun _ => ?_) (fun high => absurd few high)
    rw [aged_snoc s _ priority equal fresh]
    exact pass
  · rw [aged_snoc_other s _ priority other] at pass
    exact pass

theorem bypassOthers_run (owned : Owned s places floor) (cpu : CpuId) (priority : Nat)
    (young : ∀ slot ∈ places.items (.queue cpu), (s.tasks slot).effectivePriority = priority →
      (s.tasks slot).bypassCount < maxBypass) {done : Unit → Scheduler → Prop}
    (pass : done () (aged s (places.items (.queue cpu)) priority)) :
    wp (forEach (range (places.items (.queue cpu)).length) (bypassOther cpu priority)) done failed s := by
  have start : s = aged s ((places.items (.queue cpu)).take 0) priority := by
    simp [aged]
  refine wp_mono (wp_forEach_range (fun _ _ => False)
    (fun cursor s' => s' = aged s ((places.items (.queue cpu)).take cursor) priority) ?_ start)
    (fun _ s' finished => ?_) (fun _ _ impossible => impossible.elim)
  · intro cursor s' inside current
    subst current
    exact bypassOther_run owned cpu priority young inside rfl
  · rw [take_length] at finished
    rw [finished]
    exact pass

/-- Only the bypass counters of an owned scheduler are replaced. -/
theorem Owned.recount (owned : Owned s places floor) {counts floor' : Slot → Nat} (bounded : Ageing.Bounded counts)
    (floored : ∀ {cpu slot}, slot ∈ places.items (.queue cpu) → floor' slot ≤ counts slot) :
    Owned { s with tasks := fun slot => { s.tasks slot with bypassCount := counts slot } }
      places floor' := by
  refine ⟨owned.queues, owned.running, owned.waiters, ?_, owned.unqueued, bounded, floored⟩
  intro place slot member
  have fits := owned.fits member
  cases place <;> exact fits

/-- What the floor of a queued task becomes when `chosen` overtakes it. -/
def raisedFloor (s : Scheduler) (places : Places Place Slot) (cpu : CpuId) (chosen : Slot)
    (floor : Slot → Nat) (slot : Slot) : Nat :=
  if slot ∈ places.items (.queue cpu) ∧ slot ≠ chosen ∧
      (s.tasks slot).effectivePriority = (s.tasks chosen).effectivePriority then
    floor slot + 1
  else floor slot

theorem raisedFloor_ge (s : Scheduler) (places : Places Place Slot) (cpu : CpuId) (chosen : Slot) (floor : Slot → Nat)
    (slot : Slot) : floor slot ≤ raisedFloor s places cpu chosen floor slot := by
  unfold raisedFloor
  split
  · omega
  · exact le_rfl

variable {chosen : Slot}

/-- The selected task is out of the queue, reset, and the rest of its class is aged. -/
theorem overtake_keeps (owned : Owned s places floor) (member : chosen ∈ places.items (.queue cpu))
    (best : ∀ other ∈ places.items (.queue cpu), Yields s chosen other) {queue : RunQueue}
    (stored : queue = ofList (((places.items (.queue cpu)).erase chosen).map s.idOf)) :
    Owned ((aged (s.setQueue cpu queue) ((places.leave (.queue cpu) chosen).items (.queue cpu))
        (s.tasks chosen).effectivePriority).setTask chosen (taken cpu))
      (places.leave (.queue cpu) chosen) (raisedFloor s places cpu chosen floor) := by
  have left := owned.setQueue_leave stored
  have absent : (places.leave (.queue cpu) chosen).Absent chosen := absent_leave member
  have reset := left.rewrite absent (f := taken cpu) (fun _ => rfl) (Nat.zero_le _)
  set priority := (s.tasks chosen).effectivePriority with priorityDef
  set rest := (places.leave (.queue cpu) chosen).items (.queue cpu) with restDef
  set counts : Slot → Nat := fun slot =>
    if slot = chosen then 0
    else if slot ∈ rest ∧ (s.tasks slot).effectivePriority = priority then
      (s.tasks slot).bypassCount + 1
    else (s.tasks slot).bypassCount with countsDef
  have inRest : ∀ {slot}, slot ∈ rest ↔ slot ∈ places.items (.queue cpu) ∧ slot ≠ chosen := by
    intro slot
    rw [restDef, mem_leave]
    constructor
    · intro inside
      exact ⟨inside.1, fun same => inside.2 ⟨rfl, same⟩⟩
    · intro inside
      exact ⟨inside.1, fun same => inside.2 same.2⟩
  have tasks : ((aged (s.setQueue cpu queue) rest priority).setTask chosen (taken cpu)).tasks =
      fun slot => { ((s.setQueue cpu queue).setTask chosen (taken cpu)).tasks slot with
        bypassCount := counts slot } := by
    funext slot
    by_cases same : slot = chosen
    · subst same
      have out : slot ∉ rest := fun inside => (inRest.mp inside).2 rfl
      simp [setTask, aged, setQueue, counts, taken, out]
    · by_cases there : slot ∈ rest ∧ (s.tasks slot).effectivePriority = priority
      · simp [setTask, aged, setQueue, counts, same, there]
      · simp [setTask, aged, setQueue, counts, same, there]
  have whole : (aged (s.setQueue cpu queue) rest priority).setTask chosen (taken cpu) =
      { (s.setQueue cpu queue).setTask chosen (taken cpu) with
        tasks := fun slot => { ((s.setQueue cpu queue).setTask chosen (taken cpu)).tasks slot with
          bypassCount := counts slot } } :=
    congrArg (fun tasks => { s.setQueue cpu queue with tasks := tasks }) tasks
  rw [whole]
  refine reset.recount ?_ ?_
  · -- One round over the tasks of the selected priority in this queue.
    refine owned.aged.round ((places.items (.queue cpu)).toFinset.filter
      (fun slot => (s.tasks slot).effectivePriority = priority)) chosen ?_ ?_ ?_ ?_ ?_
    · simp [member, priorityDef]
    · intro slot inside
      have inside := Finset.mem_filter.mp inside
      have yields := best slot (mem_toFinset.mp inside.1)
      unfold Yields at yields
      omega
    · simp [counts]
    · intro slot inside
      simp only [counts]
      split
      · omega
      · split <;> omega
    · intro slot outside
      simp only [counts]
      split
      · omega
      · split
        · rename_i there
          refine absurd ?_ outside
          rw [Finset.mem_filter, mem_toFinset]
          exact ⟨(inRest.mp there.1).1, there.2⟩
        · exact le_rfl
  · intro cpu' slot inside
    have before := ((mem_leave _ _ _ _ _).mp inside).1
    have kept := owned.floored before
    have differs : slot ≠ chosen := fun same => absent _ (same ▸ inside)
    simp only [counts, raisedFloor, if_neg differs]
    by_cases there : slot ∈ rest ∧ (s.tasks slot).effectivePriority = priority
    · rw [if_pos ⟨(inRest.mp there.1).1, differs, there.2⟩, if_pos there]
      omega
    · rw [if_neg (fun holds => there ⟨inRest.mpr ⟨holds.1, differs⟩, holds.2.2⟩), if_neg there]
      exact kept

/-- `dispatch` got past its guards: one task left the queue and overtook its class. -/
structure Overtaken (s : Scheduler) (places : Places Place Slot) (floor : Slot → Nat)
    (cpu : CpuId) (chosen : Slot) (s' : Scheduler) : Prop where
  member : chosen ∈ places.items (.queue cpu)
  ids : s'.idOf = s.idOf
  queue : s'.queues cpu =
    Slots.ofList (((places.items (.queue cpu)).erase chosen).map s.idOf)
  sound : Sound (raisedFloor s places cpu chosen floor) s'

theorem Overtaken.quiet {s' s'' : Scheduler}
    (overtaken : Overtaken s places floor cpu chosen s') (same : Quiet s' s'') :
    Overtaken s places floor cpu chosen s'' :=
  ⟨overtaken.member, same.ids.trans overtaken.ids, by rw [same.queues, overtaken.queue],
    overtaken.sound.quiet same⟩

/-- No member of the selected class but the selected one is at the limit. -/
theorem Owned.young (owned : Owned s places floor) (best : Yields s chosen slot) (differs : slot ≠ chosen)
    (equal : (s.tasks slot).effectivePriority = (s.tasks chosen).effectivePriority) :
    (s.tasks slot).bypassCount < maxBypass := by
  by_contra old
  have pair : ({slot, chosen} : Finset Slot) ⊆
      univ.filter (fun other => maxBypass ≤ (s.tasks other).bypassCount) := by
    intro other inside
    rw [Finset.mem_insert, Finset.mem_singleton] at inside
    rw [Finset.mem_filter]
    unfold Yields at best
    rcases inside with rfl | rfl
    · exact ⟨mem_univ _, by omega⟩
    · exact ⟨mem_univ _, by omega⟩
  have two := card_le_card pair
  have limit : (univ.filter (fun other => maxBypass ≤ (s.tasks other).bypassCount)).card ≤
      8 - 7 := owned.aged maxBypass
  rw [card_pair differs] at two
  omega

def NoOverflow (reason : Error) : Prop := reason ≠ .bypassOverflow

instance (reason : Error) : Decidable (NoOverflow reason) :=
  inferInstanceAs (Decidable (reason ≠ .bypassOverflow))

theorem taskIndex_noOverflow (s : Scheduler) (id : TaskId) : OnlyFails NoOverflow (s.taskIndex id) := by
  unfold taskIndex
  split
  · exact .error (by decide)
  · split
    · exact .error (by decide)
    · split
      · exact .error (by decide)
      · exact .ok _

theorem tally_noOverflow (tally : Slot → Nat) (slot : Slot) : OnlyFails NoOverflow (do
      let count ← orError (checkedAdd u8Values (tally slot) 1) Error.invariant
      return update tally slot count) :=
  .bind (.orError (by decide)) (fun _ _ => .ok _)

theorem validateCpu_noOverflow (s : Scheduler) (counts : (Slot → Nat) × (Slot → Nat))
    (cpu : CpuId) : OnlyFails NoOverflow (s.validateCpu counts cpu) := by
  unfold validateCpu
  dsimp only
  split
  · exact .error (by decide)
  · refine .bind (.foldlM (fun queued cursor => ?_) _ _) (fun queued _ => ?_)
    · refine .bind (.orError (by decide)) (fun id _ => ?_)
      refine .bind (taskIndex_noOverflow s id) (fun slot _ => ?_)
      dsimp only
      split
      · exact .error (by decide)
      · exact tally_noOverflow queued slot
    · split
      · exact .error (by decide)
      · refine .bind ?_ (fun _ _ => .ok _)
        unfold validateRunning
        split
        · exact .ok _
        · refine .bind (taskIndex_noOverflow s _) (fun slot _ => ?_)
          dsimp only
          split
          · exact .error (by decide)
          · exact tally_noOverflow counts.2 slot

theorem validateTask_noOverflow (s : Scheduler) (queued running : Slot → Nat) (slot : Slot) :
    OnlyFails NoOverflow (s.validateTask queued running slot) := by
  unfold validateTask
  dsimp only
  split
  · split
    · exact .error (by decide)
    · exact .ok _
  · refine .bind ?_ (fun _ _ => ?_)
    · unfold validateState
      split <;> split <;> first | exact .ok _ | exact .error (by decide)
    · split
      · exact .error (by decide)
      · split
        · exact .error (by decide)
        · exact .ok _

theorem validateOwner_noOverflow (s : Scheduler) : OnlyFails NoOverflow s.validateOwner := by
  unfold validateOwner
  split
  · refine .bind (taskIndex_noOverflow s _) (fun slot _ => ?_)
    split
    · exact .error (by decide)
    · refine .bind (.foldlM (fun required cursor => ?_) _ _) (fun required _ => ?_)
      · exact .bind (.orError (by decide)) (fun _ _ => .ok _)
      · split
        · exact .error (by decide)
        · exact .ok _
  · split
    · exact .error (by decide)
    · exact .ok _

theorem validate_noOverflow (s : Scheduler) : OnlyFails NoOverflow s.validate := by
  refine .bind (.foldlM (validateCpu_noOverflow s) _ _) (fun counts _ => ?_)
  refine .bind (.forM (validateTask_noOverflow s counts.1 counts.2) _) (fun _ _ => ?_)
  refine .bind (.foldlM (fun waiters cursor => ?_) _ _) (fun waiters _ => ?_)
  · refine .bind (.orError (by decide)) (fun id _ => ?_)
    refine .bind (taskIndex_noOverflow s id) (fun slot _ => ?_)
    dsimp only
    split
    · exact .error (by decide)
    · exact tally_noOverflow waiters slot
  · split
    · exact .error (by decide)
    · refine .bind (.forM (fun slot => ?_) _) (fun _ _ => validateOwner_noOverflow s)
      unfold validateWaiting
      split
      · exact .error (by decide)
      · split
        · exact .error (by decide)
        · exact .ok _

/-- The second half of `dispatch`, with the selected task nowhere. -/
theorem wp_runSelected {s₀ : Scheduler} {places₁ : Places Place Slot}
    (owned : Owned (s.setTask chosen (taken cpu)) places₁ (raisedFloor s₀ places cpu chosen floor))
    (member : chosen ∈ places.items (.queue cpu)) (ids : s.idOf = s₀.idOf) (queue : s.queues cpu =
      ofList (((places.items (.queue cpu)).erase chosen).map s₀.idOf)) (idle : s.current cpu = none)
    (absent : places₁.Absent chosen) (fits : Fits (s.tasks chosen) (.queue cpu)) :
    wp (runSelected cpu chosen (s₀.idOf chosen)) (fun _ s' => Overtaken s₀ places floor cpu chosen s')
      (fun reason s' => NoOverflow reason ∧ Overtaken s₀ places floor cpu chosen s') s := by
  unfold runSelected
  simp only [wp_bind, wp_read, wp_update, wp_bump]
  set s₁ := s.setTask chosen (taken cpu) with s₁Def
  have here : s₁.tasks chosen = taken cpu (s.tasks chosen) := setTask_here _ _ _
  have ids₁ : s₁.idOf = s₀.idOf := (setTask_idOf s chosen rfl).trans ids
  have out : Overtaken s₀ places floor cpu chosen s₁ := ⟨member, ids₁, queue, owned.sound⟩
  refine wp_lift_intro (fun dispatches _ => ?_) (fun reason failed => ?_)
  · -- The processor takes the task; its counter changes nothing about places.
    have quiet : Quiet s₁ (s₁.setTask chosen (fun task =>
        { task with dispatchCount := dispatches })) :=
      Quiet.setTask _ _ ⟨rfl, rfl, rfl, rfl, rfl, rfl, rfl⟩
    have counted := owned.quiet quiet
    have running : Fits ((s₁.setTask chosen (fun task =>
        { task with dispatchCount := dispatches })).tasks chosen) (.running cpu) := by
      rw [setTask_here, here]
      exact ⟨fits.generation, rfl, rfl, rfl, fits.2.2.2.2⟩
    have joined := counted.current_join absent idle running
    rw [quiet.ids, ids₁] at joined
    have final : Overtaken s₀ places floor cpu chosen ((s₁.setTask chosen (fun task =>
        { task with dispatchCount := dispatches })).setCurrent cpu (some (s₀.idOf chosen))) :=
      ⟨member, quiet.ids.trans ids₁, out.queue, joined.sound⟩
    refine wp_count _ _ (fun _ => ?_) (fun _ => ⟨by decide, final⟩)
    have last : Overtaken s₀ places floor cpu chosen (Scheduler.bumpSequence { (s₁.setTask chosen (fun task =>
            { task with dispatchCount := dispatches })).setCurrent cpu (some (s₀.idOf chosen)) with
          dispatchCount := s₁.dispatchCount + 1 }) :=
      final.quiet ⟨rfl, rfl, rfl, fun _ => .refl _⟩
    refine wp_iff.mpr ⟨fun _ _ => last, fun reason failed => ?_⟩
    exact ⟨validate_noOverflow _ reason failed, last⟩
  · exact ⟨OnlyFails.orError (by decide) reason failed, out⟩

/-- `dispatch` up to its second half: refused, or one task is selected and its class aged. -/
theorem wp_dispatch_selected (owned : Owned s places floor) (cpu : CpuId) {done : TaskId → Scheduler → Prop}
    (stop : ∀ reason, NoOverflow reason → failed reason s)
    (pass : ∀ index chosen queue, s.current cpu = none → s.pickQueueIndex cpu = .ok index →
      (s.queues cpu).get index = some (s.idOf chosen) → chosen ∈ places.items (.queue cpu) →
      (∀ other ∈ places.items (.queue cpu), Yields s chosen other) →
      queue = ofList (((places.items (.queue cpu)).erase chosen).map s.idOf) →
      (aged (s.setQueue cpu queue) ((places.leave (.queue cpu) chosen).items (.queue cpu))
        (s.tasks chosen).effectivePriority).tasks chosen = s.tasks chosen →
      wp (runSelected cpu chosen (s.idOf chosen)) (fun _ => done (s.idOf chosen)) failed
        (aged (s.setQueue cpu queue) ((places.leave (.queue cpu) chosen).items (.queue cpu))
          (s.tasks chosen).effectivePriority)) : wp (dispatch cpu) done failed s := by
  unfold dispatch
  simp only [wp_bind, wp_read, wp_update, wp_pure]
  refine wp_online (fun _ => ?_) (fun _ => stop _ (by decide))
  refine wp_ensure_intro (fun idle => ?_) (fun _ => stop _ (by decide))
  by_cases waiting : places.items (.queue cpu) = []
  · rw [pickQueueIndex_empty owned waiting, wp_lift_error]
    exact stop _ (by decide)
  obtain ⟨index, inside, picked, best⟩ := pickQueueIndex_ok owned cpu waiting
  have stored := queue_get owned cpu inside
  rw [picked, wp_lift_ok, removeAt_ok owned cpu inside, wp_lift_ok]
  generalize (places.items (.queue cpu)).get ⟨index, inside⟩ = chosen at *
  have member : chosen ∈ places.items (.queue cpu) := by
    have live : s.idOf chosen ∈ (places.items (.queue cpu)).map s.idOf := by
      rw [owned.queues, get_ofList (Owned.length_le places _)] at stored
      exact mem_of_getElem? stored
    exact (mem_map_of_injective (idOf_injective s)).mp live
  set queue : RunQueue := ofList (((places.items (.queue cpu)).erase chosen).map s.idOf)
    with queueDef
  have items : (places.leave (.queue cpu) chosen).items (.queue cpu) =
      (places.items (.queue cpu)).erase chosen := by
    rw [leave_items, if_pos rfl]
  have len : queue.len = ((places.leave (.queue cpu) chosen).items (.queue cpu)).length := by
    rw [queueDef, ofList_len, length_map, items]
  refine wp_index_idOf rfl (owned.fits member).generation ?_
  rw [len]
  refine bypassOthers_run (owned.setQueue_leave queueDef) cpu _ (fun slot there equal => ?_) ?_
  · have before := (mem_leave _ _ _ _ _).mp there
    exact owned.young (best slot before.1) (fun same => before.2 ⟨rfl, same⟩) equal
  · refine pass index chosen queue idle picked stored member best queueDef ?_
    simp [aged]

theorem wp_dispatch (owned : Owned s places floor) (cpu : CpuId) : wp (dispatch cpu)
      (fun id s' => ∃ chosen, id = s.idOf chosen ∧ Overtaken s places floor cpu chosen s')
      (fun reason s' => NoOverflow reason ∧ (s' = s ∨ ∃ chosen, Overtaken s places floor cpu chosen s')) s := by
  refine wp_dispatch_selected owned cpu (fun _ fine => ⟨fine, .inl rfl⟩) ?_
  intro index chosen queue idle _ _ member best stored unaged
  have fits : Fits (s.tasks chosen) (.queue cpu) := owned.fits member
  refine wp_mono (wp_runSelected (overtake_keeps owned member best stored) member
    (aged_idOf _ _ _) ?_ idle (absent_leave member) ?_)
    (fun _ s' passed => ⟨chosen, rfl, passed⟩) (fun _ s' passed => ⟨passed.1, .inr ⟨chosen, passed.2⟩⟩)
  · rw [← stored]
    exact update_self _ _ _
  · rw [unaged]
    exact fits

end PooleOS.Sched
