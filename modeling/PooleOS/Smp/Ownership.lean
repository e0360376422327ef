import PooleOS.Smp.Transfer

/- Who holds a task. In every run an identity stands in one place at most. -/
namespace PooleOS.Smp

open List

variable {s : SmpScheduler} {places : Places Seat Slot} {seat : Seat} {index : Nat} {id : TaskId}

/-- The identity that the arrays store there. -/
def stored (s : SmpScheduler) : Seat → Nat → Option TaskId
  | .queue cpu, index => (s.queues cpu).get index
  | .running cpu, index => (s.current cpu).toList[index]?

theorem stored_iff (shaped : Shaped s places none) : stored s seat index = some id ↔
    ∃ slot, (places.items seat)[index]? = some slot ∧ s.idOf slot = id := by
  have same : stored s seat index = ((places.items seat)[index]?).map s.idOf := by
    cases seat with
    | queue cpu =>
      rw [stored, shaped.queues, Slots.get_ofList (Shaped.length_le places _), getElem?_map]
    | running cpu =>
      rw [stored, ← shaped.running, getElem?_map]
  rw [same, Option.map_eq_some_iff]

/-- In every run a task is queued once or runs on one processor, never both; it is a live task whose
record names that online processor, which its affinity allows; and no task that waits or runs is lost. -/
theorem run_exclusive (calls : List Call) : let s := run .new calls
    (∀ id seat seat' index index', stored s seat index = some id → stored s seat' index' = some id →
      seat = seat' ∧ index = index') ∧
    (∀ id seat index, stored s seat index = some id → ∃ slot, s.taskIndex id = .ok slot ∧ Fits (s.tasks slot) seat ∧
      Allows s.onlineMask seat.cpu) ∧
    ∀ slot, (s.tasks slot).state = .runnable ∨ (s.tasks slot).state = .running →
      ∃ seat index, stored s seat index = some (s.idOf slot) := by
  intro s
  obtain ⟨places, shaped⟩ := (run_keeps_sound calls new_sound).shaped
  have placed : ∀ {seat slot}, slot ∈ places.items seat → ∃ seat index, stored s seat index = some (s.idOf slot) := by
    intro seat slot member
    obtain ⟨index, found⟩ := mem_iff_getElem?.mp member
    exact ⟨seat, index, (stored_iff shaped).mpr ⟨slot, found, rfl⟩⟩
  refine ⟨fun id seat seat' index index' here there => ?_, fun id seat index here => ?_, fun slot live => ?_⟩
  · obtain ⟨slot, found, rfl⟩ := (stored_iff shaped).mp here
    obtain ⟨slot', found', same⟩ := (stored_iff shaped).mp there
    obtain rfl := idOf_injective s same
    obtain rfl := places.apart (mem_of_getElem? found) (mem_of_getElem? found')
    exact ⟨rfl, (getElem?_inj (List.getElem?_eq_some_iff.mp found).1 (places.nodup _)).mp (found.trans found'.symm)⟩
  · obtain ⟨slot, found, rfl⟩ := (stored_iff shaped).mp here
    have member := mem_of_getElem? found
    exact ⟨slot, shaped.taskIndex_fits member, shaped.fits member, shaped.awake member⟩
  · have stands := (shaped.stands slot nofun).2
    rcases live with waits | runs
    · obtain ⟨cpu, member⟩ := shaped.queued waits
      exact placed member
    · rw [runs] at stands
      obtain ⟨-, cpu, member⟩ := stands
      exact placed member

end PooleOS.Smp
