import PooleOS.Sched.Dispatch

/- What holds after any sequence of operations, whatever each of them returned. -/
namespace PooleOS.Sched

open Op Slots
open List
open Scheduler

variable {s : Scheduler} {places : Places Place Slot} {floor : Slot → Nat}

def noFloor : Slot → Nat := fun _ => 0

theorem Owned.lower {floor' : Slot → Nat} (owned : Owned s places floor)
    (below : ∀ slot, floor' slot ≤ floor slot) : Owned s places floor' := by
  refine ⟨owned.queues, owned.running, owned.waiters, owned.fits, owned.unqueued, owned.aged, ?_⟩
  intro cpu slot member
  exact Nat.le_trans (below slot) (owned.floored member)

theorem Sound.lower {floor' : Slot → Nat} (sound : Sound floor s)
    (below : ∀ slot, floor' slot ≤ floor slot) : Sound floor' s := by
  obtain ⟨places, owned⟩ := sound
  exact ⟨places, owned.lower below⟩

open Classical in
/-- The bypass counters of queued tasks, the floor an operation starts from. -/
noncomputable def queuedFloor (s : Scheduler) (places : Places Place Slot) (slot : Slot) : Nat :=
  if ∃ cpu, slot ∈ places.items (.queue cpu) then (s.tasks slot).bypassCount else 0

theorem Owned.begins (owned : Owned s places floor) : Begins s places (queuedFloor s places) := by
  refine ⟨⟨owned.queues, owned.running, owned.waiters, owned.fits, owned.unqueued, owned.aged, ?_⟩, ?_⟩
  · intro cpu slot member
    unfold queuedFloor
    split
    · exact le_rfl
    · exact Nat.zero_le _
  · intro slot outside
    unfold queuedFloor
    rw [if_neg (fun ⟨cpu, member⟩ => outside cpu member)]

theorem wp_reply {α : Type} {method : M α} {reply : α → Reply} {condition : Scheduler → Prop}
    (holds : wp method (fun _ => condition) (fun _ => condition) s) :
    condition ((method >>= fun value => pure (reply value)).run s).2 := by
  apply wp_state.mp
  rw [wp_bind]
  exact holds

/-- One operation: a counter never falls while its task is queued. -/
theorem exec_sound (begins : Begins s places floor) (call : Call) : Sound floor (call.exec.run s).2 := by
  cases call with
  | createTask slot generation priority affinityMask =>
    exact wp_reply (createTask_keeps begins slot generation priority affinityMask)
  | activate id cpu => exact wp_reply (activate_keeps begins id cpu)
  | dispatch cpu =>
    apply wp_reply
    refine wp_mono (wp_dispatch begins.owned cpu) ?_ ?_
    · intro id s' ⟨chosen, _, overtaken⟩
      exact overtaken.sound.lower (raisedFloor_ge s places cpu chosen floor)
    · intro reason s' ⟨_, result⟩
      rcases result with same | ⟨chosen, overtaken⟩
      · rw [same]
        exact begins.sound
      · exact overtaken.sound.lower (raisedFloor_ge s places cpu chosen floor)
  | accountTick cpu ticks => exact wp_reply (accountTick_keeps begins cpu ticks)
  | yieldCurrent cpu => exact wp_reply (yieldCurrent_keeps begins cpu)
  | blockCurrent cpu => exact wp_reply (blockCurrentFor_keeps begins .event cpu)
  | blockCurrentForLock cpu => exact wp_reply (blockCurrentFor_keeps begins .externalLock cpu)
  | wakeLockWaiter id cpu reason => exact wp_reply (wakeLockWaiter_keeps begins id cpu reason)
  | donatePriority id priority => exact wp_reply (donatePriority_keeps begins id priority)
  | revokePriorityDonation id => exact wp_reply (revokePriorityDonation_keeps begins id)
  | cancelWait id cpu => exact wp_reply (wake_keeps begins id cpu .cancelled)
  | timeoutWait id cpu => exact wp_reply (wake_keeps begins id cpu .timedOut)
  | signalWait id cpu => exact wp_reply (wake_keeps begins id cpu .signalled)
  | consumeWake cpu => exact wp_reply (consumeWake_keeps begins cpu)
  | migrate id target => exact wp_reply (migrate_keeps begins id target)
  | setPriority id priority => exact wp_reply (setPriority_keeps begins id priority)
  | lockMutex cpu => exact wp_reply (lockMutex_keeps begins cpu)
  | unlockMutex cpu => exact wp_reply (unlockMutex_keeps begins cpu)
  | teardown id => exact wp_reply (teardown_keeps begins id)

theorem new_sound {mask : BitVec 8} (created : Scheduler.new mask = .ok s) : Sound noFloor s := by
  unfold Scheduler.new at created
  split at created
  · cases created
  · cases created
    refine ⟨Places.empty, ?_, ?_, ?_, ?_, ?_, ?_, ?_⟩
    · intro cpu
      exact empty_eq
    · intro cpu
      rfl
    · exact empty_eq
    · intro place slot member
      cases member
    · intro slot _
      rfl
    · exact Ageing.bounded_zero
    · intro cpu slot member
      cases member

theorem step_sound (sound : Sound noFloor s) (call : Call) : Sound noFloor (call.exec.run s).2 := by
  obtain ⟨places, owned⟩ := sound
  exact (exec_sound owned.begins call).lower (fun _ => Nat.zero_le _)

/-- The places are exclusive in every state of every run. -/
theorem run_sound {mask : BitVec 8} (created : Scheduler.new mask = .ok s) (calls : List Call) :
    Sound noFloor (run s calls) := by
  refine foldl_invariant ?_ calls s (new_sound created)
  intro s' call sound
  exact step_sound sound call

def placements (s : Scheduler) : List TaskId :=
  (List.finRange 4).flatMap (fun cpu => (s.queues cpu).live ++ (s.current cpu).toList)

theorem Owned.live_eq (owned : Owned s places floor) (cpu : CpuId) :
    (s.queues cpu).live = (places.items (.queue cpu)).map s.idOf := by
  rw [owned.queues, live_ofList (Owned.length_le places _)]

theorem Owned.placements_nodup (owned : Owned s places floor) : (placements s).Nodup := by
  have order : ((finRange 4).flatMap (fun cpu => [Place.queue cpu, Place.running cpu])).Nodup := by decide
  have slots := (places.nodup_flatMap order).map (idOf_injective s)
  have same : placements s = (((finRange 4).flatMap
      (fun cpu => [Place.queue cpu, Place.running cpu])).flatMap places.items).map s.idOf := by
    rw [flatMap_assoc, map_flatMap]
    apply flatMap_congr
    intro cpu _
    rw [owned.live_eq, ← owned.running]
    simp
  rw [same]
  exact slots

/-- No task is runnable or running twice, none runs where it may not, and no
queue has a gap, after any operations, failed ones included. -/
theorem run_placements {mask : BitVec 8} (created : Scheduler.new mask = .ok s) (calls : List Call) :
    (placements (run s calls)).Nodup ∧
      (∀ cpu id, id ∈ ((run s calls).queues cpu).live ∨ (run s calls).current cpu = some id →
        ∃ slot, (run s calls).taskIndex id = .ok slot ∧ Allows ((run s calls).tasks slot).affinityMask cpu) ∧
      ∀ cpu, ((run s calls).queues cpu).GapFree := by
  obtain ⟨places, owned⟩ := run_sound created calls
  refine ⟨owned.placements_nodup, ?_, ?_⟩
  · intro cpu id placed
    rcases placed with queued | current
    · rw [owned.live_eq] at queued
      obtain ⟨slot, member, rfl⟩ := mem_map.mp queued
      exact ⟨slot, owned.taskIndex_fits member, (owned.fits member).2.2.2.2⟩
    · obtain ⟨slot, rfl, items⟩ := owned.current_eq current
      have member : slot ∈ places.items (.running cpu) := by
        rw [items]
        exact mem_singleton_self slot
      exact ⟨slot, owned.taskIndex_fits member, (owned.fits member).2.2.2.2⟩
  · intro cpu
    rw [owned.queues]
    exact gapFree_ofList (Owned.length_le places _)

theorem new_full : Scheduler.new 0x0f#8 = .ok (Scheduler.empty 0x0f#8) := rfl

/-- Two tasks, one of them running and one queued behind it. -/
def twoTasks : List Call :=
  [.createTask 0 1 16 1#8, .createTask 1 1 16 1#8, .activate ⟨0, 1⟩ 0, .activate ⟨1, 1⟩ 0, .dispatch 0]

theorem run_placements_twoTasks : Scheduler.new 0x0f#8 = .ok (Scheduler.empty 0x0f#8) ∧
      placements (run (Scheduler.empty 0x0f#8) twoTasks) = [⟨1, 1⟩, ⟨0, 1⟩] ∧
      (placements (run (Scheduler.empty 0x0f#8) twoTasks)).Nodup :=
  ⟨new_full, by decide +kernel, (run_placements new_full twoTasks).1⟩

/-- A dispatch, finished or not, took another task of equal priority off this queue. -/
def PassedOver (cpu : CpuId) (id : TaskId) (s : Scheduler) (call : Call) : Prop :=
  call = .dispatch cpu ∧ ∃ other ∈ (s.queues cpu).live, other ≠ id ∧
    other ∉ ((call.exec.run s).2.queues cpu).live ∧
      (s.taskAt other).effectivePriority = (s.taskAt id).effectivePriority

instance (cpu : CpuId) (id : TaskId) (s : Scheduler) (call : Call) :
    Decidable (PassedOver cpu id s call) := inferInstanceAs (Decidable (_ ∧ _))

/-- How often the task is passed over along a run. -/
def passes (cpu : CpuId) (id : TaskId) (s : Scheduler) : List Call → Nat
  | [] => 0
  | call :: rest =>
    (if PassedOver cpu id s call then 1 else 0) + passes cpu id (call.exec.run s).2 rest

/-- The task is in the queue of this processor in every state of the run. -/
def StaysQueued (cpu : CpuId) (id : TaskId) (s : Scheduler) : List Call → Prop
  | [] => id ∈ (s.queues cpu).live
  | call :: rest => id ∈ (s.queues cpu).live ∧ StaysQueued cpu id (call.exec.run s).2 rest

variable {cpu : CpuId} {id : TaskId}

theorem StaysQueued.here {calls : List Call} (stays : StaysQueued cpu id s calls) : id ∈ (s.queues cpu).live := by
  cases calls with
  | nil => exact stays
  | cons call rest => exact stays.1

theorem Owned.queued_eq (owned : Owned s places floor) (queued : id ∈ (s.queues cpu).live) :
    ∃ slot ∈ places.items (.queue cpu), id = s.idOf slot ∧ s.taskAt id = s.tasks slot := by
  rw [owned.live_eq] at queued
  obtain ⟨slot, member, rfl⟩ := mem_map.mp queued
  exact ⟨slot, member, rfl, Owned.taskAt_idOf s slot⟩

/-- The floor of a queued task bounds its counter from below. -/
theorem Sound.floored {s' : Scheduler} {slot : Slot} (sound : Sound floor s')
    (queued : s.idOf slot ∈ (s'.queues cpu).live) : floor slot ≤ (s'.taskAt (s.idOf slot)).bypassCount := by
  obtain ⟨places', owned⟩ := sound
  obtain ⟨slot', member, same, stored⟩ := owned.queued_eq queued
  have slots : slot = slot' := by
    simpa using congrArg TaskId.index? same
  subst slots
  rw [stored]
  exact owned.floored member

theorem dispatch_state (cpu : CpuId) : ((Call.dispatch cpu).exec.run s).2 = ((dispatch cpu).run s).2 := by
  simp only [Call.exec, run_bind]
  rcases (dispatch cpu).run s with ⟨reason | id, s'⟩ <;> rfl

theorem wp_dispatch_state (owned : Owned s places floor) (cpu : CpuId) : ((dispatch cpu).run s).2 = s ∨
      ∃ chosen, Overtaken s places floor cpu chosen ((dispatch cpu).run s).2 := by
  have both := wp_iff.mp (wp_dispatch owned cpu)
  cases result : ((dispatch cpu).run s).1 with
  | ok id =>
    obtain ⟨chosen, _, overtaken⟩ := both.1 id result
    exact .inr ⟨chosen, overtaken⟩
  | error reason => exact (both.2 reason result).2

/-- While a task is queued, its counter pays for every time it is passed over. -/
theorem exec_pays (sound : Sound noFloor s) (call : Call)
    (before : id ∈ (s.queues cpu).live) (after : id ∈ ((call.exec.run s).2.queues cpu).live) :
    (s.taskAt id).bypassCount + (if PassedOver cpu id s call then 1 else 0) ≤
      ((call.exec.run s).2.taskAt id).bypassCount := by
  obtain ⟨places, owned⟩ := sound
  have begins := owned.begins
  obtain ⟨slot, member, rfl, stored⟩ := owned.queued_eq before
  have floorHere : queuedFloor s places slot = (s.tasks slot).bypassCount := by
    unfold queuedFloor
    rw [if_pos ⟨cpu, member⟩]
  rw [stored]
  split
  · rename_i passed
    obtain ⟨rfl, other, there, differs, gone, equal⟩ := passed
    rw [dispatch_state] at gone after ⊢
    rcases wp_dispatch_state begins.owned cpu with same | ⟨chosen, overtaken⟩
    · rw [same] at gone
      exact absurd there gone
    · obtain ⟨left, leftMember, rfl, leftStored⟩ := owned.queued_eq there
      have removed : left = chosen := by
        by_contra kept
        refine gone ?_
        rw [overtaken.queue, live_ofList (by
          rw [length_map]
          exact Nat.le_trans (length_erase_le) (places.length_le _))]
        exact mem_map_of_mem ((mem_erase_of_ne kept).mpr leftMember)
      subst removed
      have paid := overtaken.sound.floored after
      have distinct : slot ≠ left := fun same => differs (by rw [same])
      rw [leftStored, stored] at equal
      unfold raisedFloor at paid
      rw [if_pos ⟨member, distinct, equal.symm⟩, floorHere] at paid
      exact paid
  · have kept := (exec_sound begins call).floored after
    rw [floorHere] at kept
    exact kept

theorem passes_le (sound : Sound noFloor s) (cpu : CpuId) (id : TaskId) : ∀ calls, StaysQueued cpu id s calls →
      (s.taskAt id).bypassCount + passes cpu id s calls ≤ maxBypass := by
  intro calls
  induction calls generalizing s with
  | nil =>
    intro stays
    obtain ⟨places, owned⟩ := sound
    obtain ⟨slot, _, _, stored⟩ := owned.queued_eq stays.here
    have bound : (s.tasks slot).bypassCount < 8 := owned.aged.lt slot
    rw [stored]
    unfold passes maxBypass
    omega
  | cons call rest ih =>
    intro stays
    have paid := exec_pays sound call stays.here stays.2.here
    have later := ih (step_sound sound call) stays.2
    unfold passes
    omega

/-- Bounded bypass. The task may even change priority while it stays queued: only
overtaking by a task of the priority it has at that moment is counted. -/
theorem run_bypass {mask : BitVec 8} (created : Scheduler.new mask = .ok s) (calls : List Call) :
    (∀ slot, ((run s calls).tasks slot).bypassCount ≤ maxBypass) ∧
      (∀ cpu, ((dispatch cpu).run (run s calls)).1 ≠ .error .bypassOverflow) ∧
      ∀ cpu id more, StaysQueued cpu id (run s calls) more → passes cpu id (run s calls) more ≤ maxBypass := by
  have sound := run_sound created calls
  refine ⟨?_, ?_, ?_⟩
  · intro slot
    obtain ⟨places, owned⟩ := sound
    have bound : ((run s calls).tasks slot).bypassCount < 8 := owned.aged.lt slot
    unfold maxBypass
    omega
  · intro cpu overflow
    obtain ⟨places, owned⟩ := sound
    exact ((wp_iff.mp (wp_dispatch owned cpu)).2 _ overflow).1 rfl
  · intro cpu id more stays
    have bound := passes_le sound cpu id more stays
    omega

theorem run_bypass_twoTasks : StaysQueued 0 ⟨1, 1⟩ (run (Scheduler.empty 0x0f#8) (twoTasks.take 4)) [.dispatch 0] ∧
      passes 0 ⟨1, 1⟩ (run (Scheduler.empty 0x0f#8) (twoTasks.take 4)) [.dispatch 0] = 1 ∧
      passes 0 ⟨1, 1⟩ (run (Scheduler.empty 0x0f#8) (twoTasks.take 4)) [.dispatch 0] ≤ maxBypass := by
  have stays : StaysQueued 0 ⟨1, 1⟩ (run (Scheduler.empty 0x0f#8) (twoTasks.take 4))
      [.dispatch 0] := by
    refine ⟨by decide +kernel, ?_⟩
    show ⟨1, 1⟩ ∈ (((Call.dispatch 0).exec.run (run (Scheduler.empty 0x0f#8) (twoTasks.take 4))).2.queues 0).live
    decide +kernel
  exact ⟨stays, by decide, (run_bypass new_full (twoTasks.take 4)).2.2 _ _ _ stays⟩

end PooleOS.Sched
