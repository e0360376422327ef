import PooleOS.Lib.Places
import PooleOS.Lib.Ageing
import PooleOS.Sched.Model

/- Where the scheduler keeps its tasks. `Owned` ties the concrete arrays to
exclusive places; every single write of the source keeps it, so it also holds
at the early exits of operations that fail after they have written. -/
namespace PooleOS.Sched

open Op Function Slots Places
open List
open Scheduler

inductive Place where
  | queue (cpu : CpuId)
  | running (cpu : CpuId)
  | waiters
deriving DecidableEq

/-- What a task in a place says about itself. -/
def Fits (task : Task) : Place → Prop
  | .queue cpu => task.generation ≠ 0 ∧ task.state = .runnable ∧ task.queuedCpu = some cpu ∧
      task.assignedCpu = some cpu ∧ Allows task.affinityMask cpu
  | .running cpu => task.generation ≠ 0 ∧ task.state = .running ∧ task.queuedCpu = none ∧
      task.assignedCpu = some cpu ∧ Allows task.affinityMask cpu
  | .waiters => task.generation ≠ 0 ∧ task.state = .blocked ∧ task.waitKind = .mutex

theorem Fits.generation {task : Task} {place : Place} (fits : Fits task place) : task.generation ≠ 0 := by
  cases place <;> exact fits.1

def Scheduler.idOf (s : Scheduler) (slot : Slot) : TaskId := (s.tasks slot).id slot

@[simp] theorem idOf_index (s : Scheduler) (slot : Slot) : (s.idOf slot).index? = some slot :=
  TaskId.index?_mk slot _

theorem idOf_injective (s : Scheduler) : Function.Injective s.idOf := by
  intro left right same
  have slots : (s.idOf left).index? = (s.idOf right).index? := congrArg TaskId.index? same
  simpa using slots

/-- Two values of a task that differ in priorities, wake reason and statistics only. -/
structure SamePlace (task task' : Task) : Prop where
  generation : task'.generation = task.generation
  state : task'.state = task.state
  queuedCpu : task'.queuedCpu = task.queuedCpu
  assignedCpu : task'.assignedCpu = task.assignedCpu
  affinityMask : task'.affinityMask = task.affinityMask
  waitKind : task'.waitKind = task.waitKind
  bypassCount : task'.bypassCount = task.bypassCount

theorem SamePlace.refl (task : Task) : SamePlace task task := ⟨rfl, rfl, rfl, rfl, rfl, rfl, rfl⟩

/-- Writes that touch no array and no placement field of any task. -/
structure Quiet (s s' : Scheduler) : Prop where
  queues : s'.queues = s.queues
  current : s'.current = s.current
  waiters : s'.mutexWaiters = s.mutexWaiters
  tasks : ∀ slot, SamePlace (s.tasks slot) (s'.tasks slot)

namespace Quiet

theorem refl (s : Scheduler) : Quiet s s := ⟨rfl, rfl, rfl, fun _ => .refl _⟩

theorem trans {s s' s'' : Scheduler} (first : Quiet s s') (second : Quiet s' s'') : Quiet s s'' :=
  ⟨second.queues.trans first.queues, second.current.trans first.current, second.waiters.trans first.waiters, fun slot =>
      let one := first.tasks slot
      let two := second.tasks slot
      ⟨two.generation.trans one.generation, two.state.trans one.state,
        two.queuedCpu.trans one.queuedCpu, two.assignedCpu.trans one.assignedCpu,
        two.affinityMask.trans one.affinityMask, two.waitKind.trans one.waitKind,
        two.bypassCount.trans one.bypassCount⟩⟩

theorem ids {s s' : Scheduler} (same : Quiet s s') : s'.idOf = s.idOf := by
  funext slot
  simp only [idOf, Task.id, (same.tasks slot).generation]

theorem setTask (s : Scheduler) (slot : Slot) {f : Task → Task}
    (same : SamePlace (s.tasks slot) (f (s.tasks slot))) : Quiet s (s.setTask slot f) := by
  refine ⟨rfl, rfl, rfl, ?_⟩
  intro slot'
  by_cases here : slot' = slot
  · subst here
    simpa only [Scheduler.setTask, update_self] using same
  · simpa only [Scheduler.setTask, update_of_ne here] using SamePlace.refl _

end Quiet

/-- The arrays store exactly these places. `floor` is a lower bound that queued
tasks' bypass counters keep while an operation runs. -/
structure Owned (s : Scheduler) (places : Places Place Slot) (floor : Slot → Nat) : Prop where
  queues : ∀ cpu, s.queues cpu = Slots.ofList ((places.items (.queue cpu)).map s.idOf)
  running : ∀ cpu, (places.items (.running cpu)).map s.idOf = (s.current cpu).toList
  waiters : s.mutexWaiters = Slots.ofList ((places.items .waiters).map s.idOf)
  fits : ∀ {place slot}, slot ∈ places.items place → Fits (s.tasks slot) place
  unqueued : ∀ slot, (s.tasks slot).state ≠ .runnable → (s.tasks slot).queuedCpu = none
  aged : Ageing.Bounded (fun slot => (s.tasks slot).bypassCount)
  floored : ∀ {cpu slot}, slot ∈ places.items (.queue cpu) → floor slot ≤ (s.tasks slot).bypassCount

namespace Owned

variable {s : Scheduler} {places : Places Place Slot} {floor : Slot → Nat}

theorem length_le (places : Places Place Slot) (place : Place) : ((places.items place).map s.idOf).length ≤ 8 := by
  rw [length_map]
  exact places.length_le place

variable {slot : Slot}

theorem length_lt (absent : places.Absent slot) (place : Place) : ((places.items place).map s.idOf).length < 8 := by
  rw [length_map]
  exact places.length_lt absent place

theorem nodup (places : Places Place Slot) (place : Place) : ((places.items place).map s.idOf).Nodup :=
  (places.nodup place).map (idOf_injective s)

theorem idOf_notMem (absent : places.Absent slot) (place : Place) : s.idOf slot ∉ (places.items place).map s.idOf := by
  intro member
  obtain ⟨other, here, same⟩ := mem_map.mp member
  exact absent place (idOf_injective s same ▸ here)

/-- `task_index` accepts exactly the identities of slots in use. -/
theorem taskIndex_ok {id : TaskId} : s.taskIndex id = .ok slot ↔ id = s.idOf slot ∧ (s.tasks slot).generation ≠ 0 := by
  rw [idOf, Task.id, TaskId.eq_mk_iff, taskIndex]
  cases id.index? with
  | none => simp
  | some index => by_cases same : index = slot <;> grind

theorem taskIndex_idOf (used : (s.tasks slot).generation ≠ 0) : s.taskIndex (s.idOf slot) = .ok slot :=
  taskIndex_ok.mpr ⟨rfl, used⟩

theorem taskIndex_fits (owned : Owned s places floor) {place : Place}
    (member : slot ∈ places.items place) : s.taskIndex (s.idOf slot) = .ok slot :=
  taskIndex_idOf (owned.fits member).generation

theorem taskAt_idOf (s : Scheduler) (slot : Slot) : s.taskAt (s.idOf slot) = s.tasks slot := by
  unfold taskAt
  rw [idOf_index]

variable {cpu : CpuId}

section

variable (owned : Owned s places floor)
include owned

/-- The task on a processor. -/
theorem current_eq {id : TaskId} (current : s.current cpu = some id) :
    ∃ slot, id = s.idOf slot ∧ places.items (.running cpu) = [slot] := by
  have stored := owned.running cpu
  rw [current, Option.toList_some] at stored
  obtain ⟨slot, items, same⟩ := map_eq_singleton_iff.mp stored
  exact ⟨slot, same.symm, items⟩

theorem current_of_mem
    (member : slot ∈ places.items (.running cpu)) : s.current cpu = some (s.idOf slot) := by
  have stored : s.idOf slot ∈ (s.current cpu).toList :=
    owned.running cpu ▸ mem_map_of_mem member
  exact Option.mem_toList.mp stored

theorem idle (current : s.current cpu = none) : places.items (.running cpu) = [] := by
  have stored := owned.running cpu
  rw [current, Option.toList_none, map_eq_nil_iff] at stored
  exact stored

/-- A task whose fields fit no place is in none. -/
theorem absent_of_not_fits
    (unfit : ∀ place, ¬ Fits (s.tasks slot) place) : places.Absent slot :=
  fun place member => unfit place (owned.fits member)

theorem absent_of_dormant
    (dormant : (s.tasks slot).state = .dormant) : places.Absent slot := by
  refine owned.absent_of_not_fits ?_
  rintro (_ | _ | _) fits <;> simp [Fits, dormant] at fits

theorem absent_of_dead (dead : (s.tasks slot).state = .dead) : places.Absent slot := by
  refine owned.absent_of_not_fits ?_
  rintro (_ | _ | _) fits <;> simp [Fits, dead] at fits

theorem absent_of_unused (unused : (s.tasks slot).generation = 0) : places.Absent slot :=
  owned.absent_of_not_fits (fun _ fits => fits.generation unused)

theorem absent_of_blocked (blocked : (s.tasks slot).state = .blocked)
    (other : (s.tasks slot).waitKind ≠ .mutex) : places.Absent slot := by
  refine owned.absent_of_not_fits ?_
  rintro (_ | _ | _) fits
  · simp [Fits, blocked] at fits
  · simp [Fits, blocked] at fits
  · exact other fits.2.2

theorem quiet {s' : Scheduler} (same : Quiet s s') : Owned s' places floor := by
  have ids : s'.idOf = s.idOf := same.ids
  refine ⟨?_, ?_, ?_, ?_, ?_, ?_, ?_⟩
  · intro cpu
    rw [same.queues, ids, owned.queues]
  · intro cpu
    rw [same.current, ids, owned.running]
  · rw [same.waiters, ids, owned.waiters]
  · intro place slot member
    have fits := owned.fits member
    have agree := same.tasks slot
    cases place <;> simpa only [Fits, agree.generation, agree.state, agree.queuedCpu,
      agree.assignedCpu, agree.affinityMask, agree.waitKind] using fits
  · intro slot other
    rw [(same.tasks slot).queuedCpu]
    exact owned.unqueued slot ((same.tasks slot).state ▸ other)
  · simpa only [fun slot => (same.tasks slot).bypassCount] using owned.aged
  · intro cpu slot member
    rw [(same.tasks slot).bypassCount]
    exact owned.floored member

/-- A task that is nowhere may be rewritten freely, short of raising its counter. -/
theorem rewrite (absent : places.Absent slot) {f : Task → Task}
    (unqueued : (f (s.tasks slot)).state ≠ .runnable → (f (s.tasks slot)).queuedCpu = none)
    (bypass : (f (s.tasks slot)).bypassCount ≤ (s.tasks slot).bypassCount) : Owned (s.setTask slot f) places floor := by
  have other : ∀ {slot'}, slot' ≠ slot → (s.setTask slot f).tasks slot' = s.tasks slot' :=
    fun differs => update_of_ne differs _ _
  have here : (s.setTask slot f).tasks slot = f (s.tasks slot) := update_self _ _ _
  have kept : ∀ {place slot'}, slot' ∈ places.items place → slot' ≠ slot := by
    rintro place slot' member rfl
    exact absent place member
  have ids : ∀ place, (places.items place).map (s.setTask slot f).idOf =
      (places.items place).map s.idOf := by
    intro place
    apply map_congr_left
    intro slot' member
    simp only [idOf, other (kept member)]
  refine ⟨?_, ?_, ?_, ?_, ?_, ?_, ?_⟩
  · intro cpu
    rw [ids]
    exact owned.queues cpu
  · intro cpu
    rw [ids]
    exact owned.running cpu
  · rw [ids]
    exact owned.waiters
  · intro place slot' member
    rw [other (kept member)]
    exact owned.fits member
  · intro slot'
    by_cases same : slot' = slot
    · subst same
      rw [here]
      exact unqueued
    · rw [other same]
      exact owned.unqueued slot'
  · refine owned.aged.mono ?_
    intro slot'
    by_cases same : slot' = slot
    · subst same
      rw [here]
      exact bypass
    · rw [other same]
  · intro cpu slot' member
    rw [other (kept member)]
    exact owned.floored member

end

/-- The queue entry of a task that was nowhere, with the field that records it. -/
def enqueued (s : Scheduler) (slot : Slot) (cpu : CpuId) (queue : RunQueue) : Scheduler :=
  (s.setQueue cpu queue).setTask slot (fun task => { task with queuedCpu := some cpu })

theorem push_absent (owned : Owned s places floor) (absent : places.Absent slot) (cpu : CpuId) :
    (s.queues cpu).push (s.idOf slot) = .ok (ofList (((places.items (.queue cpu)) ++ [slot]).map s.idOf)) := by
  have room : ((places.items (.queue cpu)).map s.idOf).length < 8 := length_lt absent _
  have missing : (s.queues cpu).position (s.idOf slot) = none := by
    rw [owned.queues cpu, position_ofList_none (by omega)]
    exact idOf_notMem absent _
  have grown : { (s.queues cpu).put (s.queues cpu).len (some (s.idOf slot)) with
      len := (s.queues cpu).len + 1 } =
        (s.queues cpu).openGap (s.queues cpu).len (s.idOf slot) := by
    simp [openGap, shiftUp]
  unfold RunQueue.push
  rw [missing, if_neg (by simp), if_neg (by rw [owned.queues cpu, ofList_len]; omega), grown,
    owned.queues cpu, ofList_len, openGap_ofList room (le_refl _),
    insertIdx_length_self, map_append, map_singleton]

theorem enqueue_keeps (owned : Owned s places floor) (absent : places.Absent slot)
    (used : (s.tasks slot).generation ≠ 0) (runnable : (s.tasks slot).state = .runnable)
    (assigned : (s.tasks slot).assignedCpu = some cpu) (allowed : Allows (s.tasks slot).affinityMask cpu)
    (bypass : floor slot ≤ (s.tasks slot).bypassCount) : Owned (enqueued s slot cpu
        (ofList (((places.items (.queue cpu)) ++ [slot]).map s.idOf)))
      (places.join (.queue cpu) slot absent) floor := by
  set s' := enqueued s slot cpu (ofList (((places.items (.queue cpu)) ++ [slot]).map s.idOf))
  have other : ∀ {slot'}, slot' ≠ slot → s'.tasks slot' = s.tasks slot' :=
    fun differs => update_of_ne differs _ _
  have here : s'.tasks slot = { s.tasks slot with queuedCpu := some cpu } :=
    update_self _ _ _
  have ids : s'.idOf = s.idOf := by
    funext slot'
    by_cases same : slot' = slot
    · subst same
      simp only [idOf, Task.id, here]
    · simp only [idOf, other same]
  have counters : ∀ slot', (s'.tasks slot').bypassCount = (s.tasks slot').bypassCount := by
    intro slot'
    by_cases same : slot' = slot
    · subst same
      rw [here]
    · rw [other same]
  refine ⟨?_, ?_, ?_, ?_, ?_, ?_, ?_⟩
  · intro cpu'
    rw [ids, join_items]
    by_cases same : cpu' = cpu
    · subst same
      simp only [if_true]
      exact update_self _ _ _
    · rw [if_neg (by simpa using same), ← owned.queues]
      exact update_of_ne same _ _
  · intro cpu'
    rw [ids, join_items, if_neg (by simp)]
    exact owned.running cpu'
  · rw [ids, join_items, if_neg (by simp)]
    exact owned.waiters
  · intro place slot' member
    rw [mem_join] at member
    rcases member with member | ⟨rfl, rfl⟩
    · rw [other (by rintro rfl; exact absent place member)]
      exact owned.fits member
    · rw [here]
      exact ⟨used, runnable, rfl, assigned, allowed⟩
  · intro slot'
    by_cases same : slot' = slot
    · subst same
      rw [here]
      exact fun other => absurd runnable other
    · rw [other same]
      exact owned.unqueued slot'
  · simpa only [counters] using owned.aged
  · intro cpu' slot' member
    rw [counters]
    rw [mem_join] at member
    rcases member with member | ⟨_, rfl⟩
    · exact owned.floored member
    · exact bypass

/-- Taking one task out of a queue, out of a processor or out of the waiters. -/
theorem leave_keeps (owned : Owned s places floor) {s' : Scheduler} {place : Place} (tasks : s'.tasks = s.tasks)
    (queues : ∀ cpu, s'.queues cpu = ofList (((places.leave place slot).items (.queue cpu)).map s.idOf))
    (running : ∀ cpu, ((places.leave place slot).items (.running cpu)).map s.idOf = (s'.current cpu).toList)
    (waiters : s'.mutexWaiters = ofList (((places.leave place slot).items .waiters).map s.idOf)) : Owned s'
    (places.leave place slot) floor := by
  have ids : s'.idOf = s.idOf := by
    funext slot'
    simp only [idOf, tasks]
  refine ⟨?_, ?_, ?_, ?_, ?_, ?_, ?_⟩
  · intro cpu
    rw [ids]
    exact queues cpu
  · intro cpu
    rw [ids]
    exact running cpu
  · rw [ids]
    exact waiters
  · intro place' slot' member
    rw [tasks]
    exact owned.fits ((mem_leave _ _ _ _ _).mp member).1
  · rw [tasks]
    exact owned.unqueued
  · simpa only [tasks] using owned.aged
  · intro cpu slot' member
    rw [tasks]
    exact owned.floored ((mem_leave _ _ _ _ _).mp member).1

theorem erase_map (s : Scheduler) (items : List Slot) (slot : Slot) :
    (items.map s.idOf).erase (s.idOf slot) = (items.erase slot).map s.idOf := by
  rw [map_erase (idOf_injective s)]

theorem closeGap_leave (places : Places Place Slot) (place : Place) {position : Nat}
    (found : (ofList ((places.items place).map s.idOf) : Slots TaskId 8).position (s.idOf slot) = some position) :
    (ofList ((places.items place).map s.idOf) : Slots TaskId 8).closeGap position = ofList
    (((places.items place).erase slot).map s.idOf) := by
  have fits := length_le (s := s) places place
  have here := position_ofList_some fits found
  obtain ⟨inside, _⟩ := List.getElem?_eq_some_iff.mp here
  rw [closeGap_ofList fits inside, eraseIdx_position fits found (nodup places place), erase_map]

section

variable (owned : Owned s places floor)
include owned

theorem setQueue_leave {queue : RunQueue}
    (stored : queue = ofList (((places.items (.queue cpu)).erase slot).map s.idOf)) :
    Owned (s.setQueue cpu queue) (places.leave (.queue cpu) slot) floor := by
  refine owned.leave_keeps rfl ?_ ?_ ?_
  · intro cpu'
    by_cases same : cpu' = cpu
    · subst same
      rw [leave_items, if_pos rfl, ← stored]
      exact update_self _ _ _
    · rw [leave_items, if_neg (by simpa using same), ← owned.queues]
      exact update_of_ne same _ _
  · intro cpu'
    exact owned.running cpu'
  · exact owned.waiters

/-- The task on a processor is taken off it. -/
theorem setCurrent_leave (current : places.items (.running cpu) = [slot]) :
    Owned (s.setCurrent cpu none) (places.leave (.running cpu) slot) floor := by
  refine owned.leave_keeps rfl ?_ ?_ ?_
  · intro cpu'
    exact owned.queues cpu'
  · intro cpu'
    by_cases same : cpu' = cpu
    · subst same
      rw [leave_items, if_pos rfl, current]
      simp [setCurrent]
    · rw [leave_items, if_neg (by simpa using same), owned.running]
      simp [setCurrent, same]
  · exact owned.waiters

theorem waiters_leave {position : Nat}
    (found : s.mutexWaiters.position (s.idOf slot) = some position) :
    Owned { s with mutexWaiters := s.mutexWaiters.closeGap position }
      (places.leave .waiters slot) floor := by
  rw [owned.waiters] at found
  refine owned.leave_keeps rfl ?_ ?_ ?_
  · intro cpu
    exact owned.queues cpu
  · intro cpu
    exact owned.running cpu
  · rw [leave_items, if_pos rfl, ← closeGap_leave places .waiters found, ← owned.waiters]

/-- A waiter joins the list while its task is rewritten to blocked. -/
theorem waiters_join (absent : places.Absent slot)
    (fits : Fits (s.tasks slot) .waiters) :
    Owned { s with mutexWaiters := { s.mutexWaiters.put s.mutexWaiters.len (some (s.idOf slot)) with
        len := s.mutexWaiters.len + 1 } } (places.join .waiters slot absent) floor := by
  have room : ((places.items .waiters).map s.idOf).length < 8 := length_lt absent _
  have grown : { s.mutexWaiters.put s.mutexWaiters.len (some (s.idOf slot)) with
      len := s.mutexWaiters.len + 1 } =
        ofList (((places.items .waiters) ++ [slot]).map s.idOf) := by
    calc { s.mutexWaiters.put s.mutexWaiters.len (some (s.idOf slot)) with
            len := s.mutexWaiters.len + 1 }
        = s.mutexWaiters.openGap s.mutexWaiters.len (s.idOf slot) := by
          simp [openGap, shiftUp]
      _ = ofList (((places.items .waiters) ++ [slot]).map s.idOf) := by
          rw [owned.waiters, ofList_len, openGap_ofList room (le_refl _),
            insertIdx_length_self, map_append, map_singleton]
  refine ⟨?_, ?_, ?_, ?_, owned.unqueued, owned.aged, ?_⟩
  · intro cpu
    exact owned.queues cpu
  · intro cpu
    exact owned.running cpu
  · exact grown
  · intro place slot' member
    rw [mem_join] at member
    rcases member with member | ⟨rfl, rfl⟩
    · exact owned.fits member
    · exact fits
  · intro cpu slot' member
    rw [mem_join] at member
    rcases member with member | ⟨impossible, _⟩
    · exact owned.floored member
    · cases impossible

/-- An idle processor receives a task that was nowhere. -/
theorem current_join (absent : places.Absent slot) (idle : s.current cpu = none)
    (fits : Fits (s.tasks slot) (.running cpu)) :
    Owned (s.setCurrent cpu (some (s.idOf slot))) (places.join (.running cpu) slot absent) floor := by
  refine ⟨?_, ?_, ?_, ?_, owned.unqueued, owned.aged, ?_⟩
  · intro cpu'
    exact owned.queues cpu'
  · intro cpu'
    by_cases same : cpu' = cpu
    · subst same
      rw [join_items, if_pos rfl, owned.idle idle]
      simp [setCurrent, idOf]
    · rw [join_items, if_neg (by simpa using same)]
      change (places.items (.running cpu')).map s.idOf = _
      rw [owned.running]
      simp [setCurrent, same]
  · exact owned.waiters
  · intro place slot' member
    rw [mem_join] at member
    rcases member with member | ⟨rfl, rfl⟩
    · exact owned.fits member
    · exact fits
  · intro cpu' slot' member
    rw [mem_join] at member
    rcases member with member | ⟨impossible, _⟩
    · exact owned.floored member
    · cases impossible

end

end Owned

variable {s : Scheduler} {places : Places Place Slot} {floor : Slot → Nat}

/-- Some exclusive places fit the arrays. -/
def Sound (floor : Slot → Nat) (s : Scheduler) : Prop := ∃ places, Owned s places floor

theorem Owned.sound (owned : Owned s places floor) : Sound floor s := ⟨places, owned⟩

theorem Sound.quiet {s' : Scheduler} (sound : Sound floor s) (same : Quiet s s') : Sound floor s' := by
  obtain ⟨places, owned⟩ := sound
  exact ⟨places, owned.quiet same⟩

theorem setTask_here (s : Scheduler) (slot : Slot) (f : Task → Task) :
    (s.setTask slot f).tasks slot = f (s.tasks slot) := update_self _ _ _

variable {slot : Slot}

theorem setTask_other (s : Scheduler) {slot' : Slot} (f : Task → Task)
    (differs : slot' ≠ slot) : (s.setTask slot f).tasks slot' = s.tasks slot' :=
  update_of_ne differs _ _

@[simp] theorem setQueue_tasks (s : Scheduler) (cpu : CpuId) (queue : RunQueue) :
    (s.setQueue cpu queue).tasks = s.tasks := rfl

@[simp] theorem setCurrent_tasks (s : Scheduler) (cpu : CpuId) (id : Option TaskId) :
    (s.setCurrent cpu id).tasks = s.tasks := rfl

/-- A rewrite that keeps the generation keeps every identity. -/
theorem setTask_idOf (s : Scheduler) (slot : Slot) {f : Task → Task}
    (generation : (f (s.tasks slot)).generation = (s.tasks slot).generation) : (s.setTask slot f).idOf = s.idOf := by
  funext slot'
  by_cases here : slot' = slot
  · subst here
    simp only [idOf, Task.id, setTask_here, generation]
  · simp only [idOf, setTask_other s f here]

theorem bumpSequence_quiet (s : Scheduler) : Quiet s s.bumpSequence :=
  ⟨rfl, rfl, rfl, fun _ => .refl _⟩

theorem check_run (s : Scheduler) : check.run s = (s.validate, s) := rfl

variable {id : TaskId} {failed : Error → Scheduler → Prop}

/-- `task_index` succeeds on the identity of a slot in use and on nothing else. -/
theorem wp_index {done : Slot → Scheduler → Prop}
    (pass : ∀ slot, id = s.idOf slot → (s.tasks slot).generation ≠ 0 → done slot s)
    (stop : ∀ reason, s.taskIndex id = .error reason → failed reason s) :
    wp (index id) done failed s := by
  refine wp_lift_intro (fun slot found => ?_) stop
  obtain ⟨same, used⟩ := Owned.taskIndex_ok.mp found
  exact pass slot same used

theorem wp_index_idOf {done : Slot → Scheduler → Prop} (same : id = s.idOf slot) (used : (s.tasks slot).generation ≠ 0)
    (pass : done slot s) : wp (index id) done failed s := by
  subst same
  unfold index
  simp only [wp_bind, wp_read]
  rw [Owned.taskIndex_idOf used, wp_lift_ok]
  exact pass

variable {done : Unit → Scheduler → Prop} {cpu : CpuId}

theorem wp_online (pass : Allows s.cpuOnlineMask cpu → done () s)
    (stop : ¬ Allows s.cpuOnlineMask cpu → failed .cpuOffline s) :
    wp (online cpu) done failed s := by
  unfold online requireOnline
  simp only [wp_bind, wp_read]
  split
  · rename_i allowed
    exact pass allowed
  · rename_i offline
    exact stop offline

theorem currentId_ok (found : s.currentId cpu = .ok id) : s.current cpu = some id := by
  unfold currentId requireOnline at found
  split at found
  · cases stored : s.current cpu with
    | none =>
      rw [stored] at found
      cases found
    | some value =>
      rw [stored] at found
      exact congrArg some (Except.ok.inj found)
  · cases found

/-- A condition on the state alone passes through the closing bump and validation. -/
theorem wp_bump : wp bump done failed s ↔ done () s.bumpSequence := .rfl

theorem wp_check {condition : Scheduler → Prop} (holds : condition s) :
    wp check (fun _ => condition) (fun _ => condition) s := by
  rw [wp_state, check_run]
  exact holds

/-- A 32-bit counter advances, or the operation stops where it stands. -/
theorem wp_count (get : Scheduler → Nat) (set : Nat → Scheduler → Scheduler)
    (pass : get s + 1 < u32Values → done () (set (get s + 1) s)) (stop : u32Values ≤ get s + 1 → failed .invariant s) :
    wp (count get set) done failed s := by
  unfold count
  simp only [wp_bind, wp_read, wp_update]
  by_cases room : get s + 1 < u32Values
  · rw [checkedAdd_eq_some.mpr ⟨room, rfl⟩, orError_some, wp_lift_ok]
    exact pass room
  · rw [checkedAdd_eq_none.mpr (Nat.le_of_not_lt room), orError_none, wp_lift_error]
    exact stop (Nat.le_of_not_lt room)

theorem count_quiet (get : Scheduler → Nat) (set : Nat → Scheduler → Scheduler)
    (quiet : ∀ value s, Quiet s (set value s)) (s : Scheduler) : Quiet s ((count get set).run s).2 := by
  refine wp_state.mp (?_ : wp _ (fun _ => Quiet s) (fun _ => Quiet s) s)
  exact wp_count get set (fun _ => quiet _ s) (fun _ => .refl s)

theorem countMigration_quiet (s : Scheduler) : Quiet s (countMigration.run s).2 := by
  refine count_quiet _ _ ?_ s
  exact fun _ _ => ⟨rfl, rfl, rfl, fun _ => .refl _⟩

theorem countWake_quiet (s : Scheduler) : Quiet s (countWake.run s).2 := by
  refine count_quiet _ _ ?_ s
  exact fun _ _ => ⟨rfl, rfl, rfl, fun _ => .refl _⟩

theorem countTeardown_quiet (s : Scheduler) : Quiet s (countTeardown.run s).2 := by
  refine count_quiet _ _ ?_ s
  exact fun _ _ => ⟨rfl, rfl, rfl, fun _ => .refl _⟩

theorem countInheritance_quiet (s : Scheduler) : Quiet s (countInheritance.run s).2 := by
  refine count_quiet _ _ ?_ s
  exact fun _ _ => ⟨rfl, rfl, rfl, fun _ => .refl _⟩

theorem recomputeBase_quiet (s : Scheduler) : Quiet s (recomputeBase s) := by
  refine ⟨rfl, rfl, rfl, ?_⟩
  intro slot
  unfold recomputeBase
  dsimp only
  split
  · exact ⟨rfl, rfl, rfl, rfl, rfl, rfl, rfl⟩
  · exact .refl _

theorem recompute_quiet (s : Scheduler) : Quiet s (recomputeEffectivePriorities.run s).2 := by
  have base := recomputeBase_quiet s
  refine wp_state.mp (?_ : wp _ (fun _ => Quiet s) (fun _ => Quiet s) s)
  unfold recomputeEffectivePriorities
  simp only [wp_bind, wp_update, wp_read]
  split
  · exact base
  · simp only [wp_bind, index, wp_read]
    refine wp_lift_intro (fun slot _ => ?_) (fun _ _ => base)
    refine wp_lift_intro (fun required _ => ?_) (fun _ _ => base)
    exact base.trans (Quiet.setTask _ _ ⟨rfl, rfl, rfl, rfl, rfl, rfl, rfl⟩)

/-- A step that is quiet on every exit keeps sound places on every exit. -/
theorem wp_quiet {α : Type} {method : M α} {done : α → Scheduler → Prop} (same : Quiet s (method.run s).2)
    (pass : ∀ value s', Quiet s s' → done value s') (stop : ∀ reason s', Quiet s s' → failed reason s') :
    wp method done failed s := by
  rw [wp_iff]
  exact ⟨fun value _ => pass value _ same, fun reason _ => stop reason _ same⟩

section

variable (owned : Owned s places floor)
include owned

/-- A runnable task that is nowhere joins the queue of a processor it may use. -/
theorem enqueue_ok (absent : places.Absent slot)
    (runnable : (s.tasks slot).state = .runnable) (unqueued : (s.tasks slot).queuedCpu = none)
    (allowed : Allows (s.tasks slot).affinityMask cpu) : (enqueue slot cpu).run s = (.ok (), Owned.enqueued s slot cpu
      (ofList (((places.items (.queue cpu)) ++ [slot]).map s.idOf))) := by
  have pushed : (s.queues cpu).push ((s.tasks slot).id slot) = _ := owned.push_absent absent cpu
  unfold enqueue
  simp only [run_bind, run_read, run_ensure, run_lift, run_update, runnable,
    unqueued, allowed, and_self, ↓reduceIte, pushed]
  rfl

/-- `enqueue` on a task that is nowhere: it is refused, or it joins the queue. -/
theorem enqueue_cases (absent : places.Absent slot) (cpu : CpuId) :
    (∃ reason, (enqueue slot cpu).run s = (.error reason, s)) ∨
      ((s.tasks slot).state = .runnable ∧ (s.tasks slot).queuedCpu = none ∧ Allows (s.tasks slot).affinityMask cpu ∧
        (enqueue slot cpu).run s = (.ok (), Owned.enqueued s slot cpu
          (ofList (((places.items (.queue cpu)) ++ [slot]).map s.idOf)))) := by
  by_cases ready : (s.tasks slot).state = .runnable ∧ (s.tasks slot).queuedCpu = none
  · by_cases allowed : Allows (s.tasks slot).affinityMask cpu
    · exact .inr ⟨ready.1, ready.2, allowed, enqueue_ok owned absent ready.1 ready.2 allowed⟩
    · refine .inl ⟨.affinity, ?_⟩
      unfold enqueue
      simp only [run_bind, run_read, run_ensure, ready, allowed, and_self, ↓reduceIte]
  · refine .inl ⟨.state, ?_⟩
    unfold enqueue
    simp only [run_bind, run_read, run_ensure, ready, ↓reduceIte]

/-- The queue takes a task that is nowhere, or nothing changes. -/
theorem wp_enqueue (absent : places.Absent slot) (used : (s.tasks slot).generation ≠ 0)
    (assigned : (s.tasks slot).assignedCpu = some cpu) (bypass : floor slot ≤ (s.tasks slot).bypassCount)
    (pass : ∀ s', Owned s' (places.join (.queue cpu) slot absent) floor → done () s') (stop : ∀ reason, failed reason s)
    : wp (enqueue slot cpu) done failed s := by
  unfold wp
  rcases enqueue_cases owned absent cpu with ⟨reason, refused⟩ | ⟨runnable, _, allowed, joined⟩
  · rw [refused]
    exact stop reason
  · rw [joined]
    exact pass _ (owned.enqueue_keeps absent used runnable assigned allowed bypass)

/-- `take_current` on a processor: offline, idle, or the task leaves it. -/
theorem wp_takeCurrent {done : TaskId → Scheduler → Prop}
    (pass : ∀ slot, s.current cpu = some (s.idOf slot) → slot ∈ places.items (.running cpu) →
      Owned (s.setCurrent cpu none) (places.leave (.running cpu) slot) floor →
      done (s.idOf slot) (s.setCurrent cpu none)) (stop : ∀ reason, failed reason s)
    : wp (takeCurrent cpu) done failed s := by
  unfold takeCurrent online
  simp only [wp_bind, wp_read, wp_update]
  refine wp_lift_intro (fun _ _ => ?_) (fun reason _ => stop reason)
  cases current : s.current cpu with
  | none =>
    have unchanged : s.setCurrent cpu none = s := by
      unfold setCurrent
      rw [← current, update_eq_self]
    rw [orError_none, wp_lift_error, unchanged]
    exact stop _
  | some id =>
    obtain ⟨slot, rfl, items⟩ := owned.current_eq current
    exact pass slot current (by rw [items]; exact mem_singleton_self slot)
      (owned.setCurrent_leave items)

/-- A waiter leaves the list, or the list does not have it. -/
theorem wp_removeMutexWaiter
    (pass : ∀ slot position, id = s.idOf slot → slot ∈ places.items .waiters →
      Owned { s with mutexWaiters := s.mutexWaiters.closeGap position }
        (places.leave .waiters slot) floor →
      done () { s with mutexWaiters := s.mutexWaiters.closeGap position })
    (stop : ∀ reason, (∀ slot ∈ places.items .waiters, id ≠ s.idOf slot) → failed reason s) :
    wp (removeMutexWaiter id) done failed s := by
  have length := Owned.length_le (s := s) places .waiters
  unfold removeMutexWaiter
  simp only [wp_bind, wp_read, wp_update]
  cases found : s.mutexWaiters.position id with
  | none =>
    refine stop _ ?_
    rintro slot member rfl
    rw [owned.waiters, position_ofList_none length] at found
    exact found (mem_map_of_mem member)
  | some position =>
    have stored := found
    rw [owned.waiters] at stored
    obtain ⟨slot, member, rfl⟩ :=
      mem_map.mp (mem_of_getElem? (position_ofList_some length stored))
    exact pass slot position rfl member (owned.waiters_leave found)

/-- A queue without the identity that left it. -/
theorem remove_cases (cpu : CpuId) (slot : Slot) : (slot ∉ places.items (.queue cpu) ∧
      (s.queues cpu).remove (s.idOf slot) = .error .queueMissing) ∨
    (slot ∈ places.items (.queue cpu) ∧ (s.queues cpu).remove (s.idOf slot) =
      .ok (ofList (((places.items (.queue cpu)).erase slot).map s.idOf))) := by
  have length := Owned.length_le (s := s) places (.queue cpu)
  have stored : s.idOf slot ∈ (places.items (.queue cpu)).map s.idOf ↔
      slot ∈ places.items (.queue cpu) := mem_map_of_injective (idOf_injective s)
  cases found : (s.queues cpu).position (s.idOf slot) with
  | none =>
    refine .inl ⟨fun member => ?_, by simp only [RunQueue.remove, found]⟩
    rw [owned.queues, position_ofList_none length] at found
    exact found (stored.mpr member)
  | some position =>
    rw [owned.queues] at found
    have here := position_ofList_some length found
    obtain ⟨inside, _⟩ := List.getElem?_eq_some_iff.mp here
    refine .inr ⟨stored.mp (mem_of_getElem? here), ?_⟩
    rw [owned.queues]
    unfold RunQueue.remove RunQueue.removeAt
    rw [found]
    dsimp only
    rw [if_neg (by rw [ofList_len]; omega), get_ofList length, here]
    rw [Owned.closeGap_leave places (.queue cpu) found]

end

end PooleOS.Sched
