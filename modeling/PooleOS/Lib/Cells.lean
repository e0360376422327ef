import PooleOS.Lib.Tally

/- Bounded tables of optional records: the first record with a property, the
first empty cell, and how many records have a property. -/
namespace PooleOS.Cells

open Function (update)

variable {n : Nat} {α : Type}

/-- `cells.iter().position(|item| item.is_some_and(wanted))`. -/
def position (cells : Fin n → Option α) (wanted : α → Bool) : Option (Fin n) :=
  (List.finRange n).find? (fun cell => (cells cell).any wanted)

/-- `cells.iter().position(Option::is_none)`. -/
def vacancy (cells : Fin n → Option α) : Option (Fin n) :=
  (List.finRange n).find? (fun cell => (cells cell).isNone)

variable {cells : Fin n → Option α} {wanted : α → Bool}

theorem position_eq_some {cell : Fin n} (found : position cells wanted = some cell) :
    ∃ value, cells cell = some value ∧ wanted value = true := by
  have holds := List.find?_some found
  cases held : cells cell with
  | none => simp [held] at holds
  | some value => exact ⟨value, rfl, by simpa [held] using holds⟩

theorem position_eq_none :
    position cells wanted = none ↔ ∀ cell value, cells cell = some value → wanted value = false := by
  unfold position
  rw [List.find?_eq_none]
  constructor
  · intro none_ cell value held
    have off := none_ cell (List.mem_finRange cell)
    rw [held] at off
    simpa using off
  · intro off cell _
    cases held : cells cell with
    | none => simp
    | some value => simp [off cell value held]

theorem vacancy_eq_some {cell : Fin n} (found : vacancy cells = some cell) : cells cell = none := by
  have empty := List.find?_some found
  simpa using empty

/-- How many records have a property. -/
def count (cells : Fin n → Option α) (wanted : α → Bool) : Nat :=
  (Finset.univ.filter (fun cell => (cells cell).any wanted = true)).card

theorem count_le (cells : Fin n → Option α) (wanted : α → Bool) : count cells wanted ≤ n := by
  exact (Finset.card_le_univ _).trans (Nat.le_of_eq (Fintype.card_fin n))

/-- Rewriting one cell. -/
theorem count_update (cells : Fin n → Option α) (wanted : α → Bool) (cell : Fin n) (value : Option α) :
    count (update cells cell value) wanted + (if (cells cell).any wanted = true then 1 else 0) =
      count cells wanted + (if value.any wanted = true then 1 else 0) :=
  card_update (fun held : Option α => held.any wanted = true) cells cell value

theorem count_eq_zero : count cells wanted = 0 ↔ ∀ cell value, cells cell = some value → wanted value = false := by
  unfold count
  rw [Finset.card_eq_zero, Finset.filter_eq_empty_iff]
  constructor
  · intro off cell value held
    have none_ := off (Finset.mem_univ cell)
    rw [held] at none_
    simpa using none_
  · intro off cell _
    cases held : cells cell with
    | none => simp
    | some value => simp [off cell value held]

/-- The one record with a property. -/
theorem count_le_one (one : count cells wanted ≤ 1) {left right : Fin n} (first : (cells left).any wanted = true)
    (second : (cells right).any wanted = true) : left = right := by
  unfold count at one
  rw [Finset.card_le_one] at one
  exact one left (by simp [first]) right (by simp [second])

section Updates

variable {cells : Fin n → Option α} {wanted : α → Bool} {cell other : Fin n} {value found : α}

theorem update_some_iff : update cells cell (some value) other = some found ↔
    other = cell ∧ found = value ∨ other ≠ cell ∧ cells other = some found := by
  by_cases same : other = cell
  · subst same
    simp [eq_comm]
  · simp [same]

theorem update_none_iff : update cells cell none other = some found ↔
    other ≠ cell ∧ cells other = some found := by
  by_cases same : other = cell
  · subst same
    simp
  · simp [same]

theorem count_insert (vacant : cells cell = none) : count (update cells cell (some value)) wanted =
      count cells wanted + if wanted value = true then 1 else 0 := by
  have moved := count_update cells wanted cell (some value)
  simpa [vacant] using moved

theorem count_remove (wanted : α → Bool) (held : cells cell = some found) :
    count (update cells cell none) wanted + (if wanted found = true then 1 else 0) = count cells wanted := by
  have moved := count_update cells wanted cell none
  simpa [held] using moved

theorem count_replace (held : cells cell = some found) (same : wanted value = wanted found) :
    count (update cells cell (some value)) wanted = count cells wanted := by
  have moved := count_update cells wanted cell (some value)
  simpa [held, same] using moved

/-- A property of every record after one is written. -/
theorem each_update {holds : α → Prop} (new : holds value)
    (kept : ∀ other found, other ≠ cell → cells other = some found → holds found) :
    ∀ other found, update cells cell (some value) other = some found → holds found := by
  intro other found held
  rcases update_some_iff.mp held with ⟨_, rfl⟩ | ⟨apart, old⟩
  · exact new
  · exact kept other found apart old

theorem each_remove {holds : α → Prop} (kept : ∀ other found, other ≠ cell → cells other = some found → holds found) :
    ∀ other found, update cells cell none other = some found → holds found := by
  intro other found held
  obtain ⟨apart, old⟩ := update_none_iff.mp held
  exact kept other found apart old

end Updates

section Keys

variable {κ : Type} {key : α → κ} {cells : Fin n → Option α} {cell : Fin n} {value : α}

/-- No two records have the same key. -/
def Apart (key : α → κ) (cells : Fin n → Option α) : Prop :=
  ∀ left right record other, cells left = some record → cells right = some other →
    key record = key other → left = right

theorem Apart.eq (apart : Apart key cells) {left right : Fin n} {record other : α} (held : cells left = some record)
    (held' : cells right = some other) (same : key record = key other) : record = other := by
  have equal := apart left right record other held held' same
  subst equal
  exact Option.some.inj (held.symm.trans held')

theorem Apart.update (apart : Apart key cells)
    (fresh : ∀ other found, other ≠ cell → cells other = some found → key found ≠ key value) :
    Apart key (update cells cell (some value)) := by
  intro left right record other held held' same
  rcases update_some_iff.mp held with ⟨rfl, rfl⟩ | ⟨off, old⟩
  · rcases update_some_iff.mp held' with ⟨rfl, _⟩ | ⟨off', old'⟩
    · rfl
    · exact absurd same.symm (fresh right other off' old')
  · rcases update_some_iff.mp held' with ⟨rfl, rfl⟩ | ⟨_, old'⟩
    · exact absurd same (fresh left record off old)
    · exact apart left right record other old old' same

/-- A record is rewritten under its key. -/
theorem Apart.rewrite (apart : Apart key cells) {record : α} (held : cells cell = some record)
    (same : key value = key record) : Apart key (Function.update cells cell (some value)) := by
  refine apart.update (fun other found off old equal => off ?_)
  exact apart other cell found record old held (equal.trans same)

theorem Apart.remove (apart : Apart key cells) : Apart key (Function.update cells cell none) := by
  intro left right record other held held' same
  exact apart left right record other (update_none_iff.mp held).2 (update_none_iff.mp held').2 same

end Keys

end PooleOS.Cells
