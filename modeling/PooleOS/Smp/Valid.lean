import PooleOS.Lib.Places
import PooleOS.Lib.Ageing
import PooleOS.Smp.Model
import PooleOS.Lib.Tally

/- Where the ownership scheduler keeps its tasks. A task is queued on one
processor, runs on one processor, or is in neither place; at most one task at a
time is lifted out of its place while an operation runs. -/
namespace PooleOS.Smp

open List Function Option Slots Places
open SmpScheduler

section

inductive Seat where
  | queue (cpu : CpuId)
  | running (cpu : CpuId)
deriving DecidableEq

def Seat.cpu : Seat → CpuId
  | .queue cpu => cpu
  | .running cpu => cpu

/-- What a task in a place says about itself. -/
def Fits (task : Task) : Seat → Prop
  | .queue cpu => task.generation ≠ 0 ∧ task.state = .runnable ∧ task.queuedCpu = some cpu ∧
      task.ownerCpu = some cpu ∧ Allows task.affinityMask cpu
  | .running cpu => task.generation ≠ 0 ∧ task.state = .running ∧ task.queuedCpu = none ∧
      task.ownerCpu = some cpu ∧ Allows task.affinityMask cpu

theorem Fits.generation {task : Task} {seat : Seat} (fits : Fits task seat) : task.generation ≠ 0 := by
  cases seat <;> exact fits.1

/-- What a task's state requires of the rest of the task and of where it is. -/
def Stands (task : Task) (at' : Seat → Prop) : Prop :=
  (task.state = .dormant ∨ (task.generation ≠ 0 ∧ task.ownerEpoch ≠ 0)) ∧
    match task.state with
    | .dormant => task.ownerCpu = none ∧ task.queuedCpu = none ∧ task.bypassCount = 0 ∧
        task.dispatchCount = 0
    | .runnable => ∃ cpu, at' (.queue cpu)
    | .blocked => task.ownerCpu ≠ none ∧ task.queuedCpu = none ∧ task.bypassCount = 0
    | .transfer => task.queuedCpu = none
    | .running => task.bypassCount = 0 ∧ ∃ cpu, at' (.running cpu)
    | .dead => task.ownerCpu = none ∧ task.queuedCpu = none ∧ task.bypassCount = 0

/-- A counter ages a task only while it waits. -/
def age (task : Task) : Nat := if task.state = .runnable then task.bypassCount else 0

def SmpScheduler.idOf (s : SmpScheduler) (slot : Slot) : TaskId := (s.tasks slot).id slot

@[simp] theorem idOf_index (s : SmpScheduler) (slot : Slot) : (s.idOf slot).index? = some slot :=
  TaskId.index?_mk slot _

theorem idOf_injective (s : SmpScheduler) : Function.Injective s.idOf := by
  intro left right same
  have slots : (s.idOf left).index? = (s.idOf right).index? := congrArg TaskId.index? same
  simpa using slots

/-- The arrays store exactly these places, and every task but the lifted one stands. -/
structure Shaped (s : SmpScheduler) (places : Places Seat Slot) (lifted : Option Slot) : Prop where
  queues : ∀ cpu, s.queues cpu = Slots.ofList ((places.items (.queue cpu)).map s.idOf)
  running : ∀ cpu, (places.items (.running cpu)).map s.idOf = (s.current cpu).toList
  fits : ∀ {seat slot}, slot ∈ places.items seat → Fits (s.tasks slot) seat
  stands : ∀ slot, lifted ≠ some slot →
    Stands (s.tasks slot) (fun seat => slot ∈ places.items seat)
  aged : Ageing.Bounded (fun slot => age (s.tasks slot))
  affinity : ∀ slot, (s.tasks slot).generation ≠ 0 →
    (s.tasks slot).affinityMask ≠ 0 ∧ Within (s.tasks slot).affinityMask onlineMaskAll
  online : Allows s.onlineMask 0 ∧ Within s.onlineMask onlineMaskAll
  awake : ∀ {seat slot}, slot ∈ places.items seat → Allows s.onlineMask seat.cpu

@[simp] theorem setTask_here (s : SmpScheduler) (slot : Slot) (f : Task → Task) :
    (s.setTask slot f).tasks slot = f (s.tasks slot) := update_self _ _ _

variable {slot : Slot}

theorem setTask_other (s : SmpScheduler) {slot' : Slot} (f : Task → Task)
    (differs : slot' ≠ slot) : (s.setTask slot f).tasks slot' = s.tasks slot' :=
  update_of_ne differs _ _

@[simp] theorem setTask_setTask (s : SmpScheduler) (slot : Slot) (f g : Task → Task) :
    (s.setTask slot f).setTask slot g = s.setTask slot (fun task => g (f task)) := by
  unfold setTask
  simp

@[simp] theorem setQueue_tasks (s : SmpScheduler) (cpu : CpuId) (queue : Queue) :
    (s.setQueue cpu queue).tasks = s.tasks := rfl

@[simp] theorem setCurrent_tasks (s : SmpScheduler) (cpu : CpuId) (id : Option TaskId) :
    (s.setCurrent cpu id).tasks = s.tasks := rfl

/-- A rewrite that keeps the generation keeps every identity. -/
theorem setTask_idOf (s : SmpScheduler) (slot : Slot) {f : Task → Task}
    (generation : (f (s.tasks slot)).generation = (s.tasks slot).generation) : (s.setTask slot f).idOf = s.idOf := by
  funext slot'
  by_cases here : slot' = slot
  · subst here
    simp only [idOf, Task.id, setTask_here, generation]
  · simp only [idOf, setTask_other s f here]

/-- Writes to counters, to the sequence and to the pending slot. -/
structure Quiet (s s' : SmpScheduler) : Prop where
  tasks : s'.tasks = s.tasks
  queues : s'.queues = s.queues
  current : s'.current = s.current
  onlineMask : s'.onlineMask = s.onlineMask

variable {s : SmpScheduler}

theorem Quiet.ids {s' : SmpScheduler} (same : Quiet s s') : s'.idOf = s.idOf := by
  funext slot
  simp only [idOf, same.tasks]

/-- `task_index` accepts exactly the identities of slots in use. -/
theorem taskIndex_ok {id : TaskId} : s.taskIndex id = .ok slot ↔ id = s.idOf slot ∧ (s.tasks slot).generation ≠ 0 := by
  rw [idOf, Task.id, TaskId.eq_mk_iff, taskIndex]
  cases id.index? with
  | none => simp
  | some index => by_cases same : index = slot <;> grind

theorem taskIndex_idOf (used : (s.tasks slot).generation ≠ 0) : s.taskIndex (s.idOf slot) = .ok slot :=
  taskIndex_ok.mpr ⟨rfl, used⟩

namespace Shaped

variable {s : SmpScheduler} {places : Places Seat Slot} {lifted : Option Slot}

theorem length_le (places : Places Seat Slot) (seat : Seat) : ((places.items seat).map s.idOf).length ≤ 8 := by
  rw [length_map]
  exact places.length_le seat

variable {slot : Slot}

theorem length_lt (absent : places.Absent slot) (seat : Seat) : ((places.items seat).map s.idOf).length < 8 := by
  rw [length_map]
  exact places.length_lt absent seat

theorem idOf_notMem (absent : places.Absent slot) (seat : Seat) : s.idOf slot ∉ (places.items seat).map s.idOf := by
  intro member
  obtain ⟨other, here, same⟩ := mem_map.mp member
  exact absent seat (idOf_injective s same ▸ here)

variable {seat : Seat}

theorem taskIndex_fits (shaped : Shaped s places lifted)
    (member : slot ∈ places.items seat) : s.taskIndex (s.idOf slot) = .ok slot :=
  taskIndex_idOf (shaped.fits member).generation

variable {cpu : CpuId}

section

variable (shaped : Shaped s places lifted)
include shaped

/-- The task on a processor. -/
theorem current_eq {id : TaskId} (current : s.current cpu = some id) :
    ∃ slot, id = s.idOf slot ∧ places.items (.running cpu) = [slot] := by
  have stored := shaped.running cpu
  rw [current, toList_some] at stored
  obtain ⟨slot, items, same⟩ := map_eq_singleton_iff.mp stored
  exact ⟨slot, same.symm, items⟩

theorem current_of_mem
    (member : slot ∈ places.items (.running cpu)) : s.current cpu = some (s.idOf slot) := by
  have stored : s.idOf slot ∈ (s.current cpu).toList :=
    shaped.running cpu ▸ mem_map_of_mem member
  exact mem_toList.mp stored

theorem idle (current : s.current cpu = none) : places.items (.running cpu) = [] := by
  have stored := shaped.running cpu
  rw [current, toList_none, map_eq_nil_iff] at stored
  exact stored

/-- A task that neither waits nor runs is in no place. -/
theorem absent (waits : (s.tasks slot).state ≠ .runnable)
    (runs : (s.tasks slot).state ≠ .running) : places.Absent slot := by
  intro seat member
  have fits := shaped.fits member
  cases seat with
  | queue cpu => exact waits fits.2.1
  | running cpu => exact runs fits.2.1

end

theorem queued (shaped : Shaped s places none)
    (runnable : (s.tasks slot).state = .runnable) : ∃ cpu, slot ∈ places.items (.queue cpu) := by
  have stands := (shaped.stands slot (by simp)).2
  rw [runnable] at stands
  exact stands

theorem young (shaped : Shaped s places lifted) (member : slot ∈ places.items (.queue cpu)) :
    (s.tasks slot).bypassCount ≤ maxEqualPriorityBypass := by
  have bound : age (s.tasks slot) < 8 := shaped.aged.lt slot
  have waits : (s.tasks slot).state = .runnable := (shaped.fits member).2.1
  rw [age, if_pos waits] at bound
  unfold maxEqualPriorityBypass
  omega

variable {s' : SmpScheduler}

theorem quiet (shaped : Shaped s places lifted) (same : Quiet s s') : Shaped s' places lifted := by
  have ids : s'.idOf = s.idOf := same.ids
  refine ⟨?_, ?_, ?_, ?_, ?_, ?_, ?_, ?_⟩
  · intro cpu
    rw [same.queues, ids, shaped.queues]
  · intro cpu
    rw [same.current, ids, shaped.running]
  · intro seat slot member
    rw [same.tasks]
    exact shaped.fits member
  · rw [same.tasks]
    exact shaped.stands
  · rw [same.tasks]
    exact shaped.aged
  · rw [same.tasks]
    exact shaped.affinity
  · rw [same.onlineMask]
    exact shaped.online
  · intro seat slot member
    rw [same.onlineMask]
    exact shaped.awake member

/-- Nothing is required of a task while it is lifted. -/
theorem lift (shaped : Shaped s places none) (slot : Slot) : Shaped s places (some slot) :=
  { shaped with stands := fun slot' _ => shaped.stands slot' (by simp) }

/-- A lifted task that stands in no place is put down as it is. -/
theorem settle (shaped : Shaped s places (some slot)) (absent : places.Absent slot)
    (stands : Stands (s.tasks slot) (fun _ => False)) : Shaped s places none := by
  refine { shaped with stands := ?_ }
  intro slot' _
  by_cases here : slot' = slot
  · subst here
    have nowhere : (fun seat => slot' ∈ places.items seat) = fun _ => False := by
      funext seat
      exact eq_false (absent seat)
    rw [nowhere]
    exact stands
  · exact shaped.stands slot' (fun same => here (some.inj same).symm)

/-- A lifted task may be rewritten freely, short of ageing it. -/
theorem rewrite (shaped : Shaped s places (some slot)) (absent : places.Absent slot) {f : Task → Task}
    (younger : age (f (s.tasks slot)) ≤ age (s.tasks slot))
    (affinity : (f (s.tasks slot)).generation ≠ 0 → (f (s.tasks slot)).affinityMask ≠ 0 ∧
      Within (f (s.tasks slot)).affinityMask onlineMaskAll) : Shaped (s.setTask slot f) places (some slot) := by
  have kept : ∀ {seat slot'}, slot' ∈ places.items seat → slot' ≠ slot := by
    intro seat slot' member same
    exact absent seat (same ▸ member)
  have ids : ∀ seat, (places.items seat).map (s.setTask slot f).idOf =
      (places.items seat).map s.idOf := by
    intro seat
    apply map_congr_left
    intro slot' member
    simp only [idOf, setTask_other s f (kept member)]
  refine ⟨?_, ?_, ?_, ?_, ?_, ?_, shaped.online, shaped.awake⟩
  · intro cpu
    rw [ids]
    exact shaped.queues cpu
  · intro cpu
    rw [ids]
    exact shaped.running cpu
  · intro seat slot' member
    rw [setTask_other s f (kept member)]
    exact shaped.fits member
  · intro slot' other
    have differs : slot' ≠ slot := fun same => other (congrArg some same.symm)
    rw [setTask_other s f differs]
    exact shaped.stands slot' other
  · refine shaped.aged.mono ?_
    intro slot'
    by_cases same : slot' = slot
    · subst same
      rw [setTask_here]
      exact younger
    · rw [setTask_other s f same]
  · intro slot'
    by_cases same : slot' = slot
    · subst same
      rw [setTask_here]
      exact affinity
    · rw [setTask_other s f same]
      exact shaped.affinity slot'

/-- Taking one task out of a place lifts it. -/
theorem leave (shaped : Shaped s places none) (tasks : s'.tasks = s.tasks) (mask : s'.onlineMask = s.onlineMask)
    (queues : ∀ cpu, s'.queues cpu = ofList (((places.leave seat slot).items (.queue cpu)).map s.idOf))
    (running : ∀ cpu, ((places.leave seat slot).items (.running cpu)).map s.idOf = (s'.current cpu).toList) : Shaped s'
    (places.leave seat slot) (some slot) := by
  have ids : s'.idOf = s.idOf := by
    funext slot'
    simp only [idOf, tasks]
  have old : ∀ {seat' slot'}, slot' ∈ (places.leave seat slot).items seat' →
      slot' ∈ places.items seat' := by
    intro seat' slot' inside
    exact ((mem_leave _ _ _ _ _).mp inside).1
  refine ⟨?_, ?_, ?_, ?_, ?_, ?_, ?_, ?_⟩
  · intro cpu
    rw [ids]
    exact queues cpu
  · intro cpu
    rw [ids]
    exact running cpu
  · intro seat' slot' inside
    rw [tasks]
    exact shaped.fits (old inside)
  · intro slot' other
    have differs : slot' ≠ slot := fun same => other (congrArg some same.symm)
    have same : (fun seat' => slot' ∈ (places.leave seat slot).items seat') =
        fun seat' => slot' ∈ places.items seat' := by
      funext seat'
      rw [mem_leave]
      exact propext ⟨fun both => both.1, fun here => ⟨here, fun both => differs both.2⟩⟩
    rw [tasks, same]
    exact shaped.stands slot' (by simp)
  · rw [tasks]
    exact shaped.aged
  · rw [tasks]
    exact shaped.affinity
  · rw [mask]
    exact shaped.online
  · intro seat' slot' inside
    rw [mask]
    exact shaped.awake (old inside)

theorem leave_queue (shaped : Shaped s places none) {queue : Queue}
    (stored : queue = ofList (((places.items (.queue cpu)).erase slot).map s.idOf)) :
    Shaped (s.setQueue cpu queue) (places.leave (.queue cpu) slot) (some slot) := by
  refine shaped.leave rfl rfl ?_ ?_
  · intro cpu'
    by_cases same : cpu' = cpu
    · subst same
      rw [leave_items, if_pos rfl, ← stored]
      exact update_self _ _ _
    · rw [leave_items, if_neg (by simpa using same), ← shaped.queues]
      exact update_of_ne same _ _
  · intro cpu'
    exact shaped.running cpu'

theorem leave_running (shaped : Shaped s places none) (current : places.items (.running cpu) = [slot]) :
    Shaped (s.setCurrent cpu none) (places.leave (.running cpu) slot) (some slot) := by
  refine shaped.leave rfl rfl ?_ ?_
  · intro cpu'
    exact shaped.queues cpu'
  · intro cpu'
    by_cases same : cpu' = cpu
    · subst same
      rw [leave_items, if_pos rfl, current]
      simp [setCurrent]
    · rw [leave_items, if_neg (by simpa using same), shaped.running]
      simp [setCurrent, same]

section

variable (shaped : Shaped s places (some slot)) (absent : places.Absent slot)
include shaped absent

/-- A lifted task is put down in a place that it fits. -/
theorem join
    (others : ∀ slot', slot' ≠ slot → s'.tasks slot' = s.tasks slot') (mask : s'.onlineMask = s.onlineMask)
    (awake : Allows s.onlineMask seat.cpu) (generation : (s'.tasks slot).generation = (s.tasks slot).generation)
    (affinity : (s'.tasks slot).affinityMask = (s.tasks slot).affinityMask) (fits : Fits (s'.tasks slot) seat)
    (stands : Stands (s'.tasks slot) (fun seat' => seat' = seat)) (younger : age (s'.tasks slot) ≤ age (s.tasks slot))
    (queues : ∀ cpu, s'.queues cpu = ofList (((places.join seat slot absent).items (.queue cpu)).map s.idOf))
    (running : ∀ cpu, ((places.join seat slot absent).items (.running cpu)).map s.idOf = (s'.current cpu).toList) :
    Shaped s' (places.join seat slot absent) none := by
  have ids : s'.idOf = s.idOf := by
    funext slot'
    by_cases same : slot' = slot
    · subst same
      simp only [idOf, Task.id, generation]
    · simp only [idOf, others slot' same]
  refine ⟨?_, ?_, ?_, ?_, ?_, ?_, ?_, ?_⟩
  · intro cpu
    rw [ids]
    exact queues cpu
  · intro cpu
    rw [ids]
    exact running cpu
  · intro seat' slot' inside
    rw [mem_join] at inside
    rcases inside with inside | ⟨rfl, rfl⟩
    · rw [others slot' (fun same => absent seat' (same ▸ inside))]
      exact shaped.fits inside
    · exact fits
  · intro slot' _
    by_cases same : slot' = slot
    · subst same
      have here : (fun seat' => slot' ∈ (places.join seat slot' absent).items seat') =
          fun seat' => seat' = seat := by
        funext seat'
        rw [mem_join]
        exact propext ⟨fun either => either.elim (absurd · (absent seat'))
          (fun both => both.1), fun equal => .inr ⟨equal, rfl⟩⟩
      rw [here]
      exact stands
    · have there : (fun seat' => slot' ∈ (places.join seat slot absent).items seat') =
          fun seat' => slot' ∈ places.items seat' := by
        funext seat'
        rw [mem_join]
        exact propext ⟨fun either => either.elim id (fun both => absurd both.2 same), .inl⟩
      rw [there, others slot' same]
      exact shaped.stands slot' (fun equal => same (some.inj equal).symm)
  · refine shaped.aged.mono ?_
    intro slot'
    by_cases same : slot' = slot
    · subst same
      exact younger
    · rw [others slot' same]
  · intro slot'
    by_cases same : slot' = slot
    · subst same
      rw [generation, affinity]
      exact shaped.affinity slot'
    · rw [others slot' same]
      exact shaped.affinity slot'
  · rw [mask]
    exact shaped.online
  · intro seat' slot' inside
    rw [mask]
    rw [mem_join] at inside
    rcases inside with inside | ⟨rfl, _⟩
    · exact shaped.awake inside
    · exact awake

/-- The end of a queue, with the field that records it. -/
theorem join_queue
    (used : (s.tasks slot).generation ≠ 0) (epoch : (s.tasks slot).ownerEpoch ≠ 0)
    (runnable : (s.tasks slot).state = .runnable) (owner : (s.tasks slot).ownerCpu = some cpu)
    (allowed : Allows (s.tasks slot).affinityMask cpu) (awake : Allows s.onlineMask cpu) :
    Shaped ((s.setQueue cpu (ofList ((places.items (.queue cpu) ++ [slot]).map s.idOf))).setTask
      slot (fun task => { task with queuedCpu := some cpu }))
      (places.join (.queue cpu) slot absent) none := by
  refine shaped.join absent (fun _ differs => setTask_other _ _ differs) rfl awake ?_ ?_ ?_ ?_ ?_ ?_ ?_
  · rw [setTask_here, setQueue_tasks]
  · rw [setTask_here, setQueue_tasks]
  · rw [setTask_here, setQueue_tasks]
    exact ⟨used, runnable, rfl, owner, allowed⟩
  · rw [setTask_here, setQueue_tasks]
    refine ⟨.inr ⟨used, epoch⟩, ?_⟩
    rw [runnable]
    exact ⟨cpu, rfl⟩
  · rw [setTask_here, setQueue_tasks]
    exact le_refl _
  · intro cpu'
    rw [join_items]
    by_cases same : cpu' = cpu
    · subst same
      rw [if_pos rfl]
      exact update_self _ _ _
    · rw [if_neg (by simpa using same), ← shaped.queues]
      exact update_of_ne same _ _
  · intro cpu'
    exact shaped.running cpu'

/-- An idle processor. -/
theorem join_running (cpu : CpuId)
    (idle : s.current cpu = none) (fits : Fits (s.tasks slot) (.running cpu)) (epoch : (s.tasks slot).ownerEpoch ≠ 0)
    (bypass : (s.tasks slot).bypassCount = 0) (awake : Allows s.onlineMask cpu) :
    Shaped (s.setCurrent cpu (some (s.idOf slot))) (places.join (.running cpu) slot absent) none := by
  refine shaped.join absent (fun _ _ => rfl) rfl awake rfl rfl fits ?_ (le_refl _) ?_ ?_
  · refine ⟨.inr ⟨fits.1, epoch⟩, ?_⟩
    have runs : ((s.setCurrent cpu (some (s.idOf slot))).tasks slot).state = .running := fits.2.1
    rw [runs]
    exact ⟨bypass, cpu, rfl⟩
  · intro cpu'
    exact shaped.queues cpu'
  · intro cpu'
    by_cases same : cpu' = cpu
    · subst same
      rw [join_items, if_pos rfl, shaped.idle idle]
      simp [setCurrent]
    · rw [join_items, if_neg (by simpa using same), shaped.running]
      simp [setCurrent, same]

end

end Shaped

end

variable {s : SmpScheduler} {places : Places Seat Slot}

/-- The state a task is in while a transfer of this kind is pending. -/
def kindState : TransferKind → TaskState
  | .wake => .blocked
  | .migration => .runnable
  | .dispatch => .transfer
  | .offlineProbe => .runnable
  | .preempt => .running

/-- Only the task of the pending ticket can be between places. -/
def Transfers (s : SmpScheduler) : Prop :=
  match s.pending with
  | none => ∀ slot, (s.tasks slot).state ≠ .transfer
  | some ticket => ∃ slot, ticket.task = s.idOf slot ∧ (s.tasks slot).generation ≠ 0 ∧
      (s.tasks slot).state = kindState ticket.kind ∧
      ∀ slot', (s.tasks slot').state = .transfer → slot' = slot

theorem queue_get {lifted : Option Slot} (shaped : Shaped s places lifted) (cpu : CpuId)
    (cursor : Fin (places.items (.queue cpu)).length) :
    (s.queues cpu).get cursor.val = some (s.idOf ((places.items (.queue cpu)).get cursor)) := by
  rw [shaped.queues, get_ofList (Shaped.length_le places _), getElem?_map,
    getElem?_eq_getElem cursor.isLt]
  rfl

theorem queue_len {lifted : Option Slot} (shaped : Shaped s places lifted) (cpu : CpuId) :
    (s.queues cpu).len = (places.items (.queue cpu)).length := by
  rw [shaped.queues, ofList_len, length_map]

theorem validateQueued_ok (shaped : Shaped s places none) (cpu : CpuId) (counted : List Slot)
    (fresh : ∀ slot ∈ places.items (.queue cpu), slot ∉ counted) :
    (range (s.queues cpu).len).foldlM (s.validateQueued cpu) (seen counted) =
      .ok (seen (counted ++ places.items (.queue cpu))) := by
  rw [queue_len shaped]
  apply tally_range (places.nodup (.queue cpu)) fresh
  intro cursor met unseen
  have entry := queue_get shaped cpu cursor
  set slot := (places.items (.queue cpu)).get cursor
  have member : slot ∈ places.items (.queue cpu) := get_mem _ _
  have fits : Fits (s.tasks slot) (.queue cpu) := shaped.fits member
  have young : ¬ maxEqualPriorityBypass < (s.tasks slot).bypassCount :=
    Nat.not_lt.mpr (shaped.young member)
  have index : s.taskIndex (s.idOf slot) = .ok slot := shaped.taskIndex_fits member
  unfold validateQueued
  rw [entry, orError_some]
  change (s.taskIndex (s.idOf slot) >>= _) = _
  rw [index]
  change (if _ then _ else _) = _
  rw [if_neg]
  · exact tally_seen unseen (by decide) Error.invariant
  · simp only [fits.2.1, fits.2.2.1, fits.2.2.2.1, fits.2.2.2.2, young]
    simp

theorem validateRunning_ok (shaped : Shaped s places none) (cpu : CpuId) (counted : List Slot)
    (fresh : ∀ slot ∈ places.items (.running cpu), slot ∉ counted) : s.validateRunning cpu (seen counted) =
      .ok (seen (counted ++ places.items (.running cpu))) := by
  unfold validateRunning
  cases current : s.current cpu with
  | none =>
    rw [shaped.idle current, append_nil]
  | some id =>
    obtain ⟨slot, rfl, items⟩ := shaped.current_eq current
    have member : slot ∈ places.items (.running cpu) := by
      rw [items]
      exact mem_singleton_self slot
    have fits : Fits (s.tasks slot) (.running cpu) := shaped.fits member
    have index : s.taskIndex (s.idOf slot) = .ok slot := shaped.taskIndex_fits member
    change (s.taskIndex (s.idOf slot) >>= _) = _
    rw [index, items]
    change (if _ then _ else _) = _
    rw [if_neg]
    · exact tally_seen (fresh slot member) (by decide) Error.invariant
    · simp only [fits.2.1, fits.2.2.1, fits.2.2.2.1]
      simp

/-- All slots in the places of these processors. -/
def queuedOn (places : Places Seat Slot) (cpus : List CpuId) : List Slot :=
  cpus.flatMap (fun cpu => places.items (.queue cpu))

def runningOn (places : Places Seat Slot) (cpus : List CpuId) : List Slot :=
  cpus.flatMap (fun cpu => places.items (.running cpu))

section

variable (shaped : Shaped s places none)
include shaped

theorem validateCpu_ok {done : List CpuId} {cpu : CpuId} (next : cpu ∉ done) :
    s.validateCpu (seen (queuedOn places done), seen (runningOn places done)) cpu =
      .ok (seen (queuedOn places (done ++ [cpu])), seen (runningOn places (done ++ [cpu]))) := by
  have quiet : ¬ (¬ Allows s.onlineMask cpu ∧ ((s.queues cpu).len ≠ 0 ∨ s.current cpu ≠ none)) := by
    intro ⟨offline, busy⟩
    rcases busy with busy | busy
    · rw [queue_len shaped] at busy
      obtain ⟨slot, member⟩ := exists_mem_of_length_pos (Nat.pos_of_ne_zero busy)
      exact offline (shaped.awake member)
    · obtain ⟨id, current⟩ := ne_none_iff_exists'.mp busy
      obtain ⟨slot, _, items⟩ := shaped.current_eq current
      have member : slot ∈ places.items (.running cpu) := items ▸ mem_singleton_self slot
      exact offline (shaped.awake member)
  have tidy : ¬ (8 < (s.queues cpu).len ∨
      ∃ cell : Slot, (s.queues cpu).len ≤ cell.val ∧ (s.queues cpu).entries cell ≠ none) := by
    have length := Shaped.length_le (s := s) places (.queue cpu)
    rw [shaped.queues, ofList_len]
    rintro (long | ⟨cell, beyond, present⟩)
    · omega
    · exact present (getElem?_eq_none beyond)
  have queued := validateQueued_ok shaped cpu (queuedOn places done) (by
    intro slot member earlier
    obtain ⟨other, before, there⟩ := mem_flatMap.mp earlier
    have same : Seat.queue other = .queue cpu := places.apart there member
    exact next (Seat.queue.inj same ▸ before))
  have running := validateRunning_ok shaped cpu (runningOn places done) (by
    intro slot member earlier
    obtain ⟨other, before, there⟩ := mem_flatMap.mp earlier
    have same : Seat.running other = .running cpu := places.apart there member
    exact next (Seat.running.inj same ▸ before))
  unfold validateCpu
  rw [if_neg quiet, if_neg tidy, queued, running]
  simp [queuedOn, runningOn, bind, Except.bind, pure, Except.pure]

theorem validateCpus_ok :
    (finRange 4).foldlM s.validateCpu (fun _ => 0, fun _ => 0) =
      .ok (seen (queuedOn places (finRange 4)), seen (runningOn places (finRange 4))) := by
  exact @foldlM_made _ _ _ _ (fun done => (seen (queuedOn places done), seen (runningOn places done)))
    (validateCpu_ok shaped) _ [] (nodup_finRange 4)

/-- Where a task is counted follows from its state. -/
theorem Shaped.counts (slot : Slot) :
    (seen (queuedOn places (finRange 4)) slot =
        if (s.tasks slot).state = .runnable then 1 else 0) ∧
      seen (runningOn places (finRange 4)) slot =
        if (s.tasks slot).state = .running then 1 else 0 := by
  have stands := (shaped.stands slot (by simp)).2
  refine ⟨?_, ?_⟩
  · apply if_congr _ rfl rfl
    simp only [queuedOn, mem_flatMap, mem_finRange, true_and]
    constructor
    · intro ⟨cpu, member⟩
      exact (shaped.fits member).2.1
    · intro runnable
      exact shaped.queued runnable
  · apply if_congr _ rfl rfl
    simp only [runningOn, mem_flatMap, mem_finRange, true_and]
    constructor
    · intro ⟨cpu, member⟩
      exact (shaped.fits member).2.1
    · intro running
      rw [running] at stands
      exact stands.2

theorem validateState_ok (slot : Slot) :
    validateState (s.tasks slot) (seen (queuedOn places (finRange 4)) slot)
      (seen (runningOn places (finRange 4)) slot) = .ok () := by
  obtain ⟨queued, running⟩ := shaped.counts slot
  have stands := (shaped.stands slot (by simp)).2
  rw [queued, running]
  unfold validateState
  cases state : (s.tasks slot).state <;> rw [state] at stands <;> dsimp only at stands ⊢
  case dormant => simp [stands]
  case runnable =>
    obtain ⟨cpu, member⟩ := stands
    simp [(shaped.fits member).2.2.1]
  case blocked => simp [stands]
  case transfer => simp [stands]
  case running =>
    obtain ⟨_, cpu, member⟩ := stands
    simp [(shaped.fits member).2.2.1]
  case dead => simp [stands]

theorem validateTask_ok (slot : Slot) :
    s.validateTask (seen (queuedOn places (finRange 4)))
      (seen (runningOn places (finRange 4))) slot = .ok () := by
  obtain ⟨queued, running⟩ := shaped.counts slot
  have stands := (shaped.stands slot (by simp)).1
  unfold validateTask
  by_cases unused : (s.tasks slot).generation = 0
  · have dormant : (s.tasks slot).state = .dormant := by
      rcases stands with dormant | ⟨used, _⟩
      · exact dormant
      · exact absurd unused used
    rw [if_pos unused, queued, running, dormant]
    simp
  · have masks := shaped.affinity slot unused
    have once : ¬ (1 < seen (queuedOn places (finRange 4)) slot ∨
        1 < seen (runningOn places (finRange 4)) slot ∨
        ((s.tasks slot).ownerEpoch = 0 ∧ (s.tasks slot).state ≠ .dormant)) := by
      rintro (many | many | ⟨zero, awake⟩)
      · rw [queued] at many
        split at many <;> omega
      · rw [running] at many
        split at many <;> omega
      · rcases stands with dormant | ⟨_, nonzero⟩
        · exact awake dormant
        · exact nonzero zero
    rw [if_neg unused, if_neg (fun broken => broken.elim masks.1 (fun outside => outside masks.2)), validateState_ok shaped]
    change (if _ then _ else _) = _
    rw [if_neg once]

end

theorem validatePending_ok (transfers : Transfers s) : s.validatePending = .ok () := by
  unfold Transfers at transfers
  unfold validatePending
  cases pending : s.pending with
  | none =>
    rw [pending] at transfers
    rw [if_neg (fun ⟨slot, state⟩ => transfers slot state)]
  | some ticket =>
    rw [pending] at transfers
    obtain ⟨slot, same, used, state, _⟩ := transfers
    dsimp only
    rw [same, taskIndex_idOf used]
    change validateKind ticket.kind (s.tasks slot).state = .ok ()
    rw [state]
    cases ticket.kind <;> rfl

/-- `validate` accepts every state that is shaped and whose ticket agrees with its task. -/
theorem validate_ok (shaped : Shaped s places none) (transfers : Transfers s) : s.validate = .ok () := by
  have some' : s.onlineMask ≠ 0 := by
    intro none'
    apply shaped.online.1
    rw [none']
    exact BitVec.zero_and
  have tasks : (finRange 8).forM (s.validateTask
      (seen (queuedOn places (finRange 4))) (seen (runningOn places (finRange 4)))) =
      .ok () := forM_ok (fun slot _ => validateTask_ok shaped slot)
  unfold validate
  rw [if_neg (fun broken => broken.elim some' (fun outside => outside shaped.online.2)), validateCpus_ok shaped]
  change ((finRange 8).forM (s.validateTask
    (seen (queuedOn places (finRange 4))) (seen (runningOn places (finRange 4)))) >>= _) = _
  rw [tasks]
  exact validatePending_ok transfers

end PooleOS.Smp
