import PooleOS.Lib.Panic

/- Arrays of a fixed size, whose accesses panic out of bounds. -/
namespace PooleOS

open List

variable {ε α : Type}

/-- `items[index]`. -/
def item (items : List α) (index : Nat) : Outcome ε α := orPanic items[index]?

/-- `items[index] = value`. -/
def store (items : List α) (index : Nat) (value : α) : Outcome ε (List α) :=
  if index < items.length then .ok (items.set index value) else .error .panicked

/-- `items[..count]`. -/
def front (items : List α) (count : Nat) : Outcome ε (List α) :=
  if count ≤ items.length then .ok (items.take count) else .error .panicked

variable {items : List α} {index count : Nat} {value : α}

theorem item_of (found : items[index]? = some value) : (item items index : Outcome ε α) = .ok value := by
  unfold item
  rw [found]
  rfl

theorem store_of (inside : index < items.length) :
    (store items index value : Outcome ε (List α)) = .ok (items.set index value) := if_pos inside

theorem front_of (inside : count ≤ items.length) : (front items count : Outcome ε (List α)) = .ok (items.take count) :=
  if_pos inside

theorem minus_of {left right : Nat} (less : right ≤ left) : (minus left right : Outcome ε Nat) = .ok (left - right) := by
  unfold minus
  exact if_pos less

theorem addOr_of {left right : Nat} {reason : ε} (small : left + right < u64Values) :
    addOr left right reason = .ok (left + right) := by
  have sum : checkedAdd u64Values left right = some (left + right) := checkedAdd_eq_some.mpr ⟨small, rfl⟩
  unfold addOr orRefuse
  rw [sum]
  rfl

theorem require_eq_ok {condition : Prop} [Decidable condition] {reason : ε} {done : Unit} :
    (require condition reason : Outcome ε Unit) = .ok done ↔ condition := by
  unfold require
  exact demand_eq_ok

theorem addOr_eq_ok {left right sum : Nat} {reason : ε} :
    addOr left right reason = .ok sum ↔ left + right < u64Values ∧ sum = left + right := by
  unfold addOr orRefuse
  rw [orError_eq_ok, checkedAdd_eq_some]

theorem minus_eq_ok {left right rest : Nat} :
    (minus left right : Outcome ε Nat) = .ok rest ↔ right ≤ left ∧ rest = left - right := by
  unfold minus
  split <;> rename_i less
  · rw [ok_eq_ok, and_iff_right less]
  · exact ⟨nofun, fun both => absurd both.1 less⟩

theorem timesOr_of {left right : Nat} {reason : ε} (small : left * right < u64Values) :
    timesOr left right reason = .ok (left * right) := by
  have product : checkedMul u64Values left right = some (left * right) := checkedMul_eq_some.mpr ⟨small, rfl⟩
  unfold timesOr orRefuse
  rw [product]
  rfl

theorem slice_of {bytes : Bytes} {first last : Nat} (ordered : first ≤ last) (inside : last ≤ bytes.length) :
    (slice bytes first last : Outcome ε Bytes) = .ok (bytes.slice first (last - first)) := by
  unfold slice orPanic
  rw [Bytes.range?_some ordered inside]
  rfl

theorem byteAt_of {bytes : Bytes} {byte : UInt8} (found : bytes[index]? = some byte) :
    (byteAt bytes index : Outcome ε UInt8) = .ok byte := by
  unfold byteAt orPanic
  rw [found]
  rfl

/-- An array of a fixed size, filled so far with a list. -/
def filled (size : Nat) (empty : α) (items : List α) : List α := items ++ List.replicate (size - items.length) empty

variable {size : Nat} {empty : α}

theorem filled_length (short : items.length ≤ size) : (filled size empty items).length = size := by
  rw [filled, length_append, length_replicate]
  omega

theorem filled_get (inside : index < items.length) : (filled size empty items)[index]? = items[index]? :=
  getElem?_append_left inside

theorem filled_take : (filled size empty items).take items.length = items := take_left

/-- The next entry of the array is filled. -/
theorem filled_set (room : items.length < size) :
    (filled size empty items).set items.length value = filled size empty (items ++ [value]) := by
  obtain ⟨rest, more⟩ : ∃ rest, size - items.length = rest + 1 := ⟨size - items.length - 1, by omega⟩
  have less : size - (items ++ [value]).length = rest := by
    rw [length_append, length_singleton]
    omega
  unfold filled
  rw [more, less, set_append_right _ _ le_rfl, Nat.sub_self, replicate_succ, set_cons_zero,
    append_assoc]
  rfl

theorem item_filled (default : α) (inside : index < items.length) :
    (item (filled size empty items) index : Outcome ε α) = .ok (items.getD index default) := by
  rw [item_of ((filled_get inside).trans (getElem?_eq_getElem inside)), getD_eq_getElem?_getD,
    getElem?_eq_getElem inside, Option.getD_some]

theorem store_filled (room : items.length < size) :
    (store (filled size empty items) items.length value : Outcome ε (List α)) =
      .ok (filled size empty (items ++ [value])) := by
  rw [store_of (by rw [filled_length (Nat.le_of_lt room)]; exact room), filled_set room]

theorem front_filled (fits : items.length ≤ size) :
    (front (filled size empty items) items.length : Outcome ε (List α)) = .ok items := by
  rw [front_of (by rw [filled_length fits]; exact fits), filled_take]

/-- An array that holds the values of a function. -/
structure Holds (size : Nat) (items : List α) (values : Nat → α) : Prop where
  length : items.length = size
  held : ∀ index < size, items[index]? = some (values index)

section Holds

variable {values : Nat → α}

theorem Holds.replicate : Holds size (replicate size value) (fun _ => value) :=
  ⟨length_replicate, fun _ inside => getElem?_replicate_of_lt inside⟩

theorem Holds.item (holds : Holds size items values) (inside : index < size) :
    (item items index : Outcome ε α) = .ok (values index) := item_of (holds.held index inside)

theorem Holds.store (holds : Holds size items values) (inside : index < size) :
    (store items index value : Outcome ε (List α)) = .ok (items.set index value) :=
  store_of (by rw [holds.length]; exact inside)

theorem Holds.set (holds : Holds size items values) : Holds size (items.set index value) (Function.update values index value) := by
  refine ⟨by rw [length_set, holds.length], fun other inside => ?_⟩
  have less : other < items.length := by rw [holds.length]; exact inside
  by_cases same : other = index
  · subst same
    rw [getElem?_set_self less, Function.update_self]
  · rw [getElem?_set_ne (Ne.symm same), Function.update_of_ne same, holds.held other inside]

end Holds

section Middle

variable {before middle after : List α} {place : Nat}

theorem middle_get (inside : place < middle.length) :
    (before ++ middle ++ after)[before.length + place]? = middle[place]? := by
  rw [append_assoc, getElem?_append_right (Nat.le_add_right ..), Nat.add_sub_cancel_left,
    getElem?_append_left inside]

theorem middle_set (inside : place < middle.length) :
    (before ++ middle ++ after).set (before.length + place) value = before ++ middle.set place value ++ after := by
  rw [append_assoc, set_append_right _ _ (Nat.le_add_right ..), Nat.add_sub_cancel_left,
    set_append_left _ _ inside, append_assoc]

end Middle

end PooleOS
