import Mathlib

/- Lists of items with a due time, kept in order of that time and, among equal
times, in order of arrival. -/
namespace PooleOS.Agenda

open List

variable {α : Type} {due : α → Nat} {items before after : List α} {item : α}

/-- Due times never decrease along the list. -/
def Ordered (due : α → Nat) (items : List α) : Prop :=
  items.Pairwise (fun first later => due first ≤ due later)

/-- The items due at one time, in list order. -/
def dueAt (due : α → Nat) (time : Nat) (items : List α) : List α :=
  items.filter (fun item => due item = time)

theorem mem_dueAt {time : Nat} : item ∈ dueAt due time items ↔ item ∈ items ∧ due item = time := by
  simp [dueAt]

theorem dueAt_append (time : Nat) (left right : List α) :
    dueAt due time (left ++ right) = dueAt due time left ++ dueAt due time right :=
  filter_append ..

theorem dueAt_other {time other : Nat} (apart : time ≠ other) :
    dueAt due other (items.filter (fun item => due item ≠ time)) = dueAt due other items := by
  unfold dueAt
  rw [filter_filter]
  apply filter_congr
  intro item _
  by_cases here : due item = other
  · simp [here, apart.symm]
  · simp [here]

/-- Insertion at a place splits the list there. -/
theorem insertIdx_eq_append (item : α) : ∀ {items : List α} {place : Nat}, place ≤ items.length →
    items.insertIdx place item = items.take place ++ item :: items.drop place
  | _, 0, _ => rfl
  | first :: rest, place + 1, inside => by
      have inside : place ≤ rest.length := Nat.le_of_succ_le_succ inside
      rw [insertIdx_succ_cons, insertIdx_eq_append item inside]
      rfl

/-- An item put behind everything that is not later than it keeps the order. -/
theorem Ordered.insert (ordered : Ordered due (before ++ after)) (early : ∀ other ∈ before, due other ≤ due item)
    (late : ∀ other ∈ after, due item < due other) : Ordered due (before ++ item :: after) := by
  obtain ⟨first, second, across⟩ := pairwise_append.mp ordered
  refine pairwise_append.mpr ⟨first, pairwise_cons.mpr ⟨?_, second⟩, ?_⟩
  · exact fun other member => Nat.le_of_lt (late other member)
  · intro left member right place
    rcases mem_cons.mp place with rfl | place
    · exact early left member
    · exact across left member right place

/-- It is also the last of the items due at its own time. -/
theorem dueAt_insert (late : ∀ other ∈ after, due item < due other) (time : Nat) :
    dueAt due time (before ++ item :: after) = dueAt due time ((before ++ after) ++ [item]) := by
  simp only [dueAt, filter_append, filter_cons, filter_nil]
  by_cases here : due item = time
  · have none : after.filter (fun other => due other = time) = [] := by
      refine filter_eq_nil_iff.mpr fun other member => ?_
      have := late other member
      simp only [decide_eq_true_eq]
      omega
    simp [here, none]
  · simp [here]

/-- In an ordered list with nothing overdue, what is due comes first. -/
theorem Ordered.takeWhile {now : Nat} (ordered : Ordered due items) (future : ∀ item ∈ items, now ≤ due item) :
    items.takeWhile (fun item => due item ≤ now) = dueAt due now items ∧ items.dropWhile (fun item => due item ≤ now) =
        items.filter (fun item => due item ≠ now) := by
  unfold dueAt
  induction items with
  | nil => exact ⟨rfl, rfl⟩
  | cons first rest ih =>
    obtain ⟨head, tail⟩ := pairwise_cons.mp ordered
    have start := future first (mem_cons_self ..)
    obtain ⟨taken, dropped⟩ := ih tail (fun item member =>
      future item (mem_cons_of_mem first member))
    by_cases here : due first ≤ now
    · have same : due first = now := by omega
      simp only [takeWhile_cons, dropWhile_cons, filter_cons, same,
        Nat.le_refl, decide_true, if_true, ne_eq, not_true_eq_false, decide_false] at taken dropped ⊢
      exact ⟨congrArg _ taken, dropped⟩
    · have later : ∀ item ∈ first :: rest, due item ≠ now := by
        intro item member
        rcases mem_cons.mp member with rfl | member
        · omega
        · have := head item member
          omega
      rw [takeWhile_cons_of_neg (by simpa using here),
        dropWhile_cons_of_neg (by simpa using here)]
      refine ⟨(filter_eq_nil_iff.mpr ?_).symm, (filter_eq_self.mpr ?_).symm⟩
      · exact fun item member => by simpa using later item member
      · exact fun item member => by simpa using later item member

end PooleOS.Agenda
