import PooleOS.Lib.Select
import PooleOS.Smp.Valid

/- What each shared step of the operations does to a shaped scheduler. -/
namespace PooleOS.Smp

open Function Slots Op
open List
open SmpScheduler

variable {s : SmpScheduler} {places : Places Seat Slot} {lifted : Option Slot}

/-- A 32-bit counter that can still be advanced. -/
def Room (value : Nat) : Prop := value + 1 < u32Values

instance (value : Nat) : Decidable (Room value) := inferInstanceAs (Decidable (_ < _))

section Rules

variable {done : Unit → SmpScheduler → Prop} {failed : Error → SmpScheduler → Prop}

/-- An identity that `task_index` does not know belongs to no slot in use. -/
theorem wp_index_known {id : TaskId} {done : Slot → SmpScheduler → Prop}
    (pass : ∀ slot, id = s.idOf slot → (s.tasks slot).generation ≠ 0 → done slot s)
    (stop : ∀ reason, (∀ slot, id = s.idOf slot → (s.tasks slot).generation = 0) → failed reason s) :
    wp (index id) done failed s := by
  refine wp_lift_intro (fun slot found => ?_) (fun reason missing => stop reason ?_)
  · obtain ⟨same, used⟩ := taskIndex_ok.mp found
    exact pass slot same used
  · intro slot same
    by_contra used
    rw [same, taskIndex_idOf used] at missing
    cases missing

theorem wp_index {id : TaskId} {done : Slot → SmpScheduler → Prop}
    (pass : ∀ slot, id = s.idOf slot → (s.tasks slot).generation ≠ 0 → done slot s)
    (stop : ∀ reason, failed reason s) : wp (index id) done failed s :=
  wp_index_known pass fun reason _ => stop reason

theorem wp_index_idOf {id : TaskId} (slot : Slot) {done : Slot → SmpScheduler → Prop} (same : id = s.idOf slot)
    (used : (s.tasks slot).generation ≠ 0) (pass : done slot s) : wp (index id) done failed s := by
  subst same
  unfold index
  simp only [wp_bind, wp_read]
  rw [taskIndex_idOf used, wp_lift_ok]
  exact pass

theorem wp_online {cpu : CpuId} (pass : Allows s.onlineMask cpu → done () s)
    (stop : ¬ Allows s.onlineMask cpu → failed .cpuOffline s) :
    wp (online cpu) done failed s := by
  unfold online requireOnline
  simp only [wp_bind, wp_read]
  split
  · rename_i allowed
    exact pass allowed
  · rename_i offline
    exact stop offline

theorem wp_noPending (pass : s.pending = none → done () s) (stop : s.pending ≠ none →
    failed .pendingBusy s) : wp noPending done failed s := by
  unfold noPending requireNoPending
  simp only [wp_bind, wp_read]
  cases pending : s.pending with
  | none => exact pass pending
  | some ticket => exact stop (by rw [pending]; simp)

/-- The closing validation of a state that is known to be accepted. -/
theorem wp_check (valid : s.validate = .ok ()) (pass : done () s) : wp check done failed s := by
  unfold check
  simp only [wp_bind, wp_read]
  rw [valid, wp_lift_ok]
  exact pass

@[simp] theorem wp_bump : wp bump done failed s ↔ done () s.bumpSequence := .rfl

theorem bumpSequence_quiet (s : SmpScheduler) : Quiet s s.bumpSequence := ⟨rfl, rfl, rfl, rfl⟩

variable {value : Nat}

theorem increment_ok (room : Room value) : increment value = .ok (value + 1) := by
  unfold increment
  rw [checkedAdd_eq_some.mpr ⟨room, rfl⟩, orError_some]

theorem increment_error (full : ¬ Room value) : increment value = .error .counter := by
  unfold increment
  rw [checkedAdd_eq_none.mpr (Nat.le_of_not_lt full), orError_none]

theorem wp_increment {done : Nat → SmpScheduler → Prop} (pass : Room value → done (value + 1) s)
    (stop : ¬ Room value → failed .counter s) : wp (lift (increment value)) done failed s := by
  by_cases room : Room value
  · rw [increment_ok room]
    exact pass room
  · rw [increment_error room]
    exact stop room

theorem wp_count (get : SmpScheduler → Nat) (set : Nat → SmpScheduler → SmpScheduler)
    (pass : Room (get s) → done () (set (get s + 1) s)) (stop : ¬ Room (get s) → failed .counter s) :
    wp (count get set) done failed s := by
  unfold count
  simp only [wp_bind, wp_read, wp_update]
  exact wp_increment pass stop

theorem wp_advanceEpoch {slot : Slot}
    (pass : Room (s.tasks slot).ownerEpoch → done () (s.setTask slot (fun task =>
      { task with ownerEpoch := (s.tasks slot).ownerEpoch + 1 })))
    (stop : ¬ Room (s.tasks slot).ownerEpoch → failed .counter s) :
    wp (advanceEpoch slot) done failed s := by
  unfold advanceEpoch
  simp only [wp_bind, wp_read, wp_update]
  exact wp_increment pass stop

theorem wp_advanceDispatches {slot : Slot}
    (pass : Room (s.tasks slot).dispatchCount → done () (s.setTask slot (fun task =>
      { task with dispatchCount := (s.tasks slot).dispatchCount + 1 })))
    (stop : ¬ Room (s.tasks slot).dispatchCount → failed .counter s) :
    wp (advanceDispatches slot) done failed s := by
  unfold advanceDispatches
  simp only [wp_bind, wp_read, wp_update]
  exact wp_increment pass stop

/-- The counter of the processor's class. -/
def classCount (s : SmpScheduler) (cpu : CpuId) : Nat :=
  if cpu.val = 0 then s.bspDispatchCount else s.apDispatchCount

theorem wp_countDispatchOn {cpu : CpuId} (pass : Room s.dispatchCount → Room (classCount s cpu) → ∀ s', Quiet s s' →
      s'.pending = s.pending → s'.transaction = s.transaction → s'.remoteAckCount = s.remoteAckCount → done () s')
    (stop : ∀ reason s', ¬ (Room s.dispatchCount ∧ Room (classCount s cpu)) → failed reason s') :
    wp (countDispatchOn cpu) done failed s := by
  unfold countDispatchOn
  rw [wp_bind]
  refine wp_count _ _ (fun room => ?_) (fun full => stop _ _ (fun both => full both.1))
  unfold classCount at pass stop
  by_cases boot : cpu.val = 0
  · rw [if_pos boot] at pass stop ⊢
    refine wp_count _ _ (fun more => ?_) (fun full => stop _ _ (fun both => full both.2))
    exact pass room more _ ⟨rfl, rfl, rfl, rfl⟩ rfl rfl rfl
  · rw [if_neg boot] at pass stop ⊢
    refine wp_count _ _ (fun more => ?_) (fun full => stop _ _ (fun both => full both.2))
    exact pass room more _ ⟨rfl, rfl, rfl, rfl⟩ rfl rfl rfl

end Rules

variable {slot : Slot}

theorem push_absent (shaped : Shaped s places lifted) (absent : places.Absent slot) (cpu : CpuId) :
    (s.queues cpu).push (s.idOf slot) = .ok (Slots.ofList ((places.items (.queue cpu) ++ [slot]).map s.idOf)) := by
  have room : ((places.items (.queue cpu)).map s.idOf).length < 8 := Shaped.length_lt absent _
  have missing : (s.queues cpu).position (s.idOf slot) = none := by
    rw [shaped.queues cpu, Slots.position_ofList_none (by omega)]
    exact Shaped.idOf_notMem absent _
  unfold Queue.push Queue.insert
  rw [if_neg (by omega), missing, if_neg (by simp), shaped.queues cpu, Slots.ofList_len,
    if_neg (by omega), Slots.openGap_ofList room (le_refl _), insertIdx_length_self,
    map_append, map_singleton]

theorem removeAt_ok (shaped : Shaped s places lifted) (cpu : CpuId) (cursor : Fin (places.items (.queue cpu)).length) :
    (s.queues cpu).removeAt cursor.val = .ok (s.idOf ((places.items (.queue cpu)).get cursor),
        ofList (((places.items (.queue cpu)).erase ((places.items (.queue cpu)).get cursor)).map s.idOf)) := by
  have length := Shaped.length_le (s := s) places (.queue cpu)
  have inside : cursor.val < ((places.items (.queue cpu)).map s.idOf).length := by
    rw [length_map]
    exact cursor.isLt
  have erased : (places.items (.queue cpu)).eraseIdx cursor.val =
      (places.items (.queue cpu)).erase ((places.items (.queue cpu)).get cursor) := by
    rw [erase_eq_eraseIdx_of_idxOf]
    exact List.Nodup.idxOf_getElem (places.nodup (.queue cpu)) cursor.val cursor.isLt
  have closed : (s.queues cpu).closeGap cursor.val = ofList
      (((places.items (.queue cpu)).erase ((places.items (.queue cpu)).get cursor)).map s.idOf) := by
    rw [shaped.queues, closeGap_ofList length inside, eraseIdx_map, erased]
  unfold Queue.removeAt
  rw [if_neg (by rw [queue_len shaped]; exact Nat.not_le.mpr cursor.isLt), queue_get shaped cpu cursor,
    closed]

variable {cpu : CpuId}

theorem remove_ok (shaped : Shaped s places lifted) (member : slot ∈ places.items (.queue cpu)) :
    (s.queues cpu).remove (s.idOf slot) = .ok (ofList (((places.items (.queue cpu)).erase slot).map s.idOf)) := by
  have length := Shaped.length_le (s := s) places (.queue cpu)
  have stored : s.idOf slot ∈ (places.items (.queue cpu)).map s.idOf := mem_map_of_mem member
  cases found : (s.queues cpu).position (s.idOf slot) with
  | none =>
    rw [shaped.queues, position_ofList_none length] at found
    exact absurd stored found
  | some position =>
    have here := found
    rw [shaped.queues] at here
    have cell := position_ofList_some length here
    rw [getElem?_map, Option.map_eq_some_iff] at cell
    obtain ⟨other, at', same⟩ := cell
    obtain ⟨inside, rfl⟩ := List.getElem?_eq_some_iff.mp at'
    have slots := idOf_injective s same
    have removed := removeAt_ok shaped cpu ⟨position, inside⟩
    unfold Queue.remove
    rw [found]
    dsimp only at removed ⊢
    rw [removed, ← slots]
    rfl

/-- What `enqueue` writes: a queue, and the field of the task that records it. -/
structure Enqueued (s s' : SmpScheduler) (slot : Slot) (cpu : CpuId) : Prop where
  tasks : s'.tasks = Function.update s.tasks slot { s.tasks slot with queuedCpu := some cpu }
  rest : s' = { s with tasks := s'.tasks, queues := s'.queues }

theorem Enqueued.other {s s' : SmpScheduler}
    (enqueued : Enqueued s s' slot cpu) {slot' : Slot} (differs : slot' ≠ slot) :
    s'.tasks slot' = s.tasks slot' := by
  rw [enqueued.tasks, update_of_ne differs]

theorem Enqueued.here {s s' : SmpScheduler} (enqueued : Enqueued s s' slot cpu) :
    s'.tasks slot = { s.tasks slot with queuedCpu := some cpu } := by
  rw [enqueued.tasks, update_self]

variable {done : Unit → SmpScheduler → Prop} {failed : Error → SmpScheduler → Prop}

/-- `enqueue` of a lifted task on a processor that it owns and may use. -/
theorem wp_enqueue (shaped : Shaped s places (some slot)) (absent : places.Absent slot) (cpu : CpuId)
    (used : (s.tasks slot).generation ≠ 0) (epoch : (s.tasks slot).ownerEpoch ≠ 0)
    (runnable : (s.tasks slot).state = .runnable) (unqueued : (s.tasks slot).queuedCpu = none)
    (owner : (s.tasks slot).ownerCpu = some cpu) (allowed : Allows (s.tasks slot).affinityMask cpu)
    (awake : Allows s.onlineMask cpu) (pass : ∀ s', Shaped s' (places.join (.queue cpu) slot absent) none →
      Enqueued s s' slot cpu → done () s') : wp (enqueue slot cpu) done failed s := by
  have pushed : (s.queues cpu).push ((s.tasks slot).id slot) = _ := push_absent shaped absent cpu
  unfold enqueue
  simp only [wp_bind, wp_read, wp_update]
  refine wp_ensure_intro (fun _ => ?_) (fun refused => absurd ⟨runnable, unqueued⟩ refused)
  refine wp_ensure_intro (fun _ => ?_) (fun refused => absurd allowed refused)
  rw [pushed, wp_lift_ok]
  exact pass _ (shaped.join_queue absent used epoch runnable owner allowed awake) ⟨rfl, rfl⟩

/-- Higher priority first, then the longest wait. -/
def SmpScheduler.rank (s : SmpScheduler) (slot : Slot) : ℕ ×ₗ ℕ :=
  toLex ((s.tasks slot).priority, (s.tasks slot).bypassCount)

theorem pick_ok (shaped : Shaped s places lifted) (nonempty : 0 < (places.items (.queue cpu)).length) :
    ∃ index : Fin (places.items (.queue cpu)).length, s.pick cpu = .ok index.val ∧
      (places.items (.queue cpu)).argmax s.rank = some ((places.items (.queue cpu)).get index) := by
  set items := places.items (.queue cpu) with itemsDef
  have each : ∀ selected cursor : Fin items.length,
      s.pickStep (s.queues cpu) selected.val cursor.val =
        .ok (if s.rank (items.get selected) < s.rank (items.get cursor) then cursor.val
          else selected.val) := by
    intro selected cursor
    have known : ∀ position : Fin items.length,
        s.taskIndex (s.idOf (items.get position)) = .ok (items.get position) :=
      fun position => shaped.taskIndex_fits (get_mem items position)
    have better : s.rank (items.get selected) < s.rank (items.get cursor) ↔
        (s.tasks (items.get selected)).priority < (s.tasks (items.get cursor)).priority ∨
          ((s.tasks (items.get cursor)).priority = (s.tasks (items.get selected)).priority ∧
            (s.tasks (items.get selected)).bypassCount <
              (s.tasks (items.get cursor)).bypassCount) := by
      unfold rank
      rw [Prod.Lex.toLex_lt_toLex]
      exact or_congr_right (and_congr_left' eq_comm)
    unfold pickStep
    rw [queue_get shaped cpu cursor, queue_get shaped cpu selected, orError_some, orError_some]
    change (s.taskIndex _ >>= fun _ => s.taskIndex _ >>= _) = _
    rw [known, known]
    change (if _ then _ else _) = _
    by_cases wins : s.rank (items.get selected) < s.rank (items.get cursor)
    · rw [if_pos wins, if_pos (better.mp wins)]
      rfl
    · rw [if_neg wins, if_neg (fun wins' => wins (better.mpr wins'))]
      rfl
  have scanned := scan_argmax nonempty each
  unfold pick
  dsimp only
  rw [queue_len shaped, if_neg (Nat.ne_of_gt nonempty)]
  exact scanned

/-- What `pick` selects and `remove_at` then takes out. -/
theorem pick_removeAt (shaped : Shaped s places lifted) (nonempty : 0 < (places.items (.queue cpu)).length) :
    ∃ index next, s.pick cpu = .ok index ∧ (s.queues cpu).removeAt index = .ok (s.idOf next,
        ofList (((places.items (.queue cpu)).erase next).map s.idOf)) ∧
      (places.items (.queue cpu)).argmax s.rank = some next := by
  obtain ⟨cursor, picked, best⟩ := pick_ok shaped nonempty
  exact ⟨cursor.val, _, picked, removeAt_ok shaped cpu cursor, best⟩

theorem pick_empty (shaped : Shaped s places lifted)
    (empty : (places.items (.queue cpu)).length = 0) : s.pick cpu = .error .cpuNotIdle := by
  unfold pick
  dsimp only
  rw [queue_len shaped, if_pos empty]

variable {items : List Slot} {chosen : Slot}

/-- The chosen task has waited longest among those of its priority. -/
theorem oldest_of_argmax (best : items.argmax s.rank = some chosen) (member : slot ∈ items)
    (equal : (s.tasks slot).priority = (s.tasks chosen).priority) :
    (s.tasks slot).bypassCount ≤ (s.tasks chosen).bypassCount := by
  have below : s.rank slot ≤ s.rank chosen := le_of_mem_argmax member best
  unfold rank at below
  rw [Prod.Lex.toLex_le_toLex] at below
  rcases below with lower | ⟨_, less⟩
  · exact absurd equal (Nat.ne_of_lt lower)
  · exact less

/-- The tasks once every listed one of this priority has been bypassed. -/
def bypassed (tasks : Slot → Task) (items : List Slot) (priority : Nat) (slot : Slot) : Task :=
  if slot ∈ items ∧ (tasks slot).priority = priority then
    { tasks slot with bypassCount := (tasks slot).bypassCount + 1 }
  else tasks slot

@[simp] theorem bypassed_generation (tasks : Slot → Task) (items : List Slot) (priority : Nat)
    (slot : Slot) : (bypassed tasks items priority slot).generation = (tasks slot).generation := by
  unfold bypassed
  split <;> rfl

variable {priority : Nat}

theorem bypassed_other {tasks : Slot → Task}
    (absent : slot ∉ items) : bypassed tasks items priority slot = tasks slot := by
  unfold bypassed
  rw [if_neg (fun both => absent both.1)]

def afterBypass (s : SmpScheduler) (items : List Slot) (priority maximum : Nat) : SmpScheduler :=
  { s with tasks := bypassed s.tasks items priority, maximumBypass := maximum }

@[simp] theorem afterBypass_tasks (s : SmpScheduler) (items : List Slot) (priority maximum : Nat) :
    (afterBypass s items priority maximum).tasks = bypassed s.tasks items priority := rfl

@[simp] theorem afterBypass_idOf (s : SmpScheduler) (items : List Slot) (priority maximum : Nat) :
    (afterBypass s items priority maximum).idOf = s.idOf := by
  funext slot
  simp only [idOf, Task.id, afterBypass_tasks, bypassed_generation]

/-- The loop over the queue bypasses every task of this priority once. -/
theorem wp_bypassOthers (stored : s.queues cpu = ofList (items.map s.idOf)) (short : items.length ≤ 8)
    (distinct : items.Nodup) (used : ∀ slot ∈ items, (s.tasks slot).generation ≠ 0)
    (young : ∀ slot ∈ items, (s.tasks slot).priority = priority → (s.tasks slot).bypassCount < maxEqualPriorityBypass)
    (pass : ∀ maximum, done () (afterBypass s items priority maximum)) :
    wp (bypassOthers cpu priority) done failed s := by
  have len : (s.queues cpu).len = items.length := by
    rw [stored, ofList_len, length_map]
  unfold bypassOthers
  simp only [wp_bind, wp_read]
  rw [len]
  refine wp_mono (wp_forEach_range failed (fun cursor s' => ∃ maximum, s' = afterBypass s (items.take cursor) priority maximum)
    ?_ ⟨s.maximumBypass, ?_⟩) ?_ (fun _ _ kept => kept)
  · rintro cursor s' inside ⟨maximum, rfl⟩
    set slot := items.get ⟨cursor, inside⟩ with slotDef
    have member : slot ∈ items := get_mem _ _
    have unmet : slot ∉ items.take cursor := by
      intro earlier
      obtain ⟨other, position, same⟩ := mem_take_iff_getElem.mp earlier
      have equal := distinct.getElem_inj_iff.mp (same.trans slotDef)
      omega
    have entry : (s.queues cpu).get cursor = some (s.idOf slot) := by
      rw [stored, get_ofList (by rw [length_map]; exact short), getElem?_map,
        getElem?_eq_getElem inside]
      rfl
    have untouched : bypassed s.tasks (items.take cursor) priority slot = s.tasks slot :=
      bypassed_other unmet
    have grown : items.take (cursor + 1) = items.take cursor ++ [slot] :=
      take_succ_eq_append_getElem inside
    have read : (afterBypass s (items.take cursor) priority maximum).queues cpu = s.queues cpu := rfl
    unfold bypassOther
    simp only [wp_bind, wp_read, read, afterBypass_tasks]
    rw [entry, orError_some, wp_lift_ok]
    apply wp_index_idOf slot (by rw [afterBypass_idOf])
    · rw [afterBypass_tasks, untouched]
      exact used slot member
    · simp only [untouched]
      refine wp_when_intro (fun equal => ?_) (fun differs => ?_)
      · have low := young slot member equal
        have fits : (s.tasks slot).bypassCount + 1 < u8Values := by
          unfold maxEqualPriorityBypass at low
          unfold u8Values
          omega
        simp only [wp_bind, wp_update]
        rw [checkedAdd_eq_some.mpr ⟨fits, rfl⟩, orError_some, wp_lift_ok]
        refine wp_ensure_intro (fun _ => ?_) (fun above => absurd (Nat.succ_le_of_lt low) above)
        refine ⟨max maximum ((s.tasks slot).bypassCount + 1), ?_⟩
        have next : bypassed s.tasks (items.take (cursor + 1)) priority =
            update (bypassed s.tasks (items.take cursor) priority) slot
              { bypassed s.tasks (items.take cursor) priority slot with
                bypassCount := (s.tasks slot).bypassCount + 1 } := by
          funext other
          by_cases same : other = slot
          · rw [same, update_self, untouched, grown]
            simp [bypassed, equal]
          · rw [update_of_ne same, grown]
            simp [bypassed, same]
        exact (congrArg (fun tasks => { s with
          tasks := tasks, maximumBypass := max maximum ((s.tasks slot).bypassCount + 1) }) next).symm
      · refine ⟨maximum, ?_⟩
        have next : bypassed s.tasks (items.take (cursor + 1)) priority =
            bypassed s.tasks (items.take cursor) priority := by
          funext other
          rw [grown]
          by_cases same : other = slot
          · rw [same, untouched]
            simp [bypassed, differs]
          · simp [bypassed, same]
        exact (congrArg (fun tasks => { s with tasks := tasks, maximumBypass := maximum }) next).symm
  · unfold afterBypass
    have none' : bypassed s.tasks (items.take 0) priority = s.tasks := by
      funext slot
      simp [bypassed]
    rw [none']
  · rintro _ s' ⟨maximum, rfl⟩
    rw [take_length]
    exact pass maximum

section

variable (shaped : Shaped s places (some chosen)) (absent : places.Absent chosen)
include shaped absent

/-- One selection: the chosen task stops waiting while the others of its priority age. -/
theorem Shaped.promote (maximum : Nat)
    (waits : (s.tasks chosen).state = .runnable)
    (oldest : ∀ slot ∈ places.items (.queue cpu), (s.tasks slot).priority = priority →
      (s.tasks slot).bypassCount ≤ (s.tasks chosen).bypassCount) {f : Task → Task}
    (reset : age (f (s.tasks chosen)) = 0) (generation : (f (s.tasks chosen)).generation = (s.tasks chosen).generation)
    (affinity : (f (s.tasks chosen)).affinityMask = (s.tasks chosen).affinityMask) :
    Shaped ((afterBypass s (places.items (.queue cpu)) priority maximum).setTask chosen f) places (some chosen) := by
  set items := places.items (.queue cpu) with itemsDef
  set s' := (afterBypass s items priority maximum).setTask chosen f
  have here : s'.tasks chosen = f (s.tasks chosen) := by
    rw [setTask_here]
    exact congrArg f (bypassed_other (absent _))
  have others : ∀ slot, slot ≠ chosen → s'.tasks slot = bypassed s.tasks items priority slot :=
    fun slot differs => setTask_other _ _ differs
  have ids : s'.idOf = s.idOf := by
    funext slot
    by_cases same : slot = chosen
    · subst same
      simp only [idOf, Task.id, here, generation]
    · simp only [idOf, Task.id, others slot same, bypassed_generation]
  have kept : ∀ {seat slot}, slot ∈ places.items seat → slot ≠ chosen := by
    intro seat slot member same
    exact absent seat (same ▸ member)
  refine ⟨?_, ?_, ?_, ?_, ?_, ?_, shaped.online, shaped.awake⟩
  · rw [ids]
    exact shaped.queues
  · rw [ids]
    exact shaped.running
  · intro seat slot member
    have fits := shaped.fits member
    rw [others slot (kept member)]
    unfold bypassed
    split
    · cases seat <;> exact fits
    · exact fits
  · intro slot other
    have stands := shaped.stands slot other
    rw [others slot (fun same => other (congrArg some same.symm))]
    unfold bypassed
    split
    · rename_i counted
      have runnable := (shaped.fits counted.1).2.1
      unfold Stands at stands ⊢
      rw [runnable] at stands ⊢
      exact stands
    · exact stands
  · refine Ageing.Bounded.round shaped.aged
      (insert chosen (items.toFinset.filter (fun slot => (s.tasks slot).priority = priority)))
      chosen (Finset.mem_insert_self _ _) ?_ ?_ ?_ ?_
    · intro slot member
      rw [Finset.mem_insert, Finset.mem_filter, mem_toFinset] at member
      rcases member with same | ⟨inside, equal⟩
      · rw [same]
      · have wait := (shaped.fits inside).2.1
        simp only [age, wait, waits, if_true]
        exact oldest slot inside equal
    · rw [here]
      exact reset
    · intro slot member
      by_cases same : slot = chosen
      · rw [same, here, reset]
        exact Nat.zero_le _
      · rw [others slot same]
        unfold bypassed age
        split <;> split <;> simp_all
    · intro slot outside
      rw [Finset.mem_insert, Finset.mem_filter, mem_toFinset, not_or] at outside
      rw [others slot outside.1]
      unfold bypassed
      rw [if_neg outside.2]
  · intro slot
    by_cases same : slot = chosen
    · rw [same, here, generation, affinity]
      exact shaped.affinity chosen
    · rw [others slot same]
      have masks := shaped.affinity slot
      unfold bypassed
      split <;> exact masks

/-- After a selection nobody's counter passes the limit. -/
theorem Shaped.bypass_room
    (waits : (s.tasks chosen).state = .runnable)
    (oldest : ∀ slot ∈ places.items (.queue cpu), (s.tasks slot).priority = priority →
      (s.tasks slot).bypassCount ≤ (s.tasks chosen).bypassCount) (member : slot ∈ places.items (.queue cpu))
    (equal : (s.tasks slot).priority = priority) : (s.tasks slot).bypassCount < maxEqualPriorityBypass := by
  have differs : slot ≠ chosen := fun same => absent _ (same ▸ member)
  have promoted := shaped.promote absent 0 waits oldest
    (f := fun task => { task with state := .running }) rfl rfl rfl
  have young := promoted.young member
  rw [setTask_other _ _ differs, afterBypass_tasks, bypassed, if_pos ⟨member, equal⟩] at young
  exact young

/-- The bypass loop on a processor whose first choice has just been taken out. -/
theorem wp_bypass_rest
    (waits : (s.tasks chosen).state = .runnable)
    (oldest : ∀ slot ∈ places.items (.queue cpu), (s.tasks slot).priority = priority →
      (s.tasks slot).bypassCount ≤ (s.tasks chosen).bypassCount)
    (pass : ∀ maximum, done () (afterBypass s (places.items (.queue cpu)) priority maximum)) :
    wp (bypassOthers cpu priority) done failed s := by
  refine wp_bypassOthers (shaped.queues cpu) (places.length_le _) (places.nodup _) ?_ ?_ pass
  · intro slot member
    exact (shaped.fits member).generation
  · intro slot member equal
    exact shaped.bypass_room absent waits oldest member equal

end

end PooleOS.Smp
