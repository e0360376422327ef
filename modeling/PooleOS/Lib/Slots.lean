import Mathlib

/- Arrays `[Option<T>; N]` with a separate live count, as the kernel uses for its run queues, waiter lists and
event lanes. -/
namespace PooleOS

open List

structure Slots (α : Type) (capacity : Nat) where
  entries : Fin capacity → Option α
  len : Nat

namespace Slots

variable {α : Type} {capacity : Nat}

/-- `[None; N]` with length zero. -/
def empty : Slots α capacity := ⟨fun _ => none, 0⟩

/-- Reading a cell; past the end there is nothing to read. -/
def get (slots : Slots α capacity) (index : Nat) : Option α :=
  if inside : index < capacity then slots.entries ⟨index, inside⟩ else none

def put (slots : Slots α capacity) (index : Nat) (value : Option α) : Slots α capacity :=
  { slots with entries := fun cell => if cell.val = index then value else slots.entries cell }

/-- `for cursor in start..start + count { entries[cursor] = entries[cursor + 1] }`. -/
def shiftDown (slots : Slots α capacity) (start count : Nat) : Slots α capacity :=
  (List.range' start count).foldl (fun now cursor => now.put cursor (now.get (cursor + 1))) slots

/-- `for cursor in (start..start + count).rev() { entries[cursor + 1] = entries[cursor] }`. -/
def shiftUp (slots : Slots α capacity) (start count : Nat) : Slots α capacity :=
  (List.range' start count).reverse.foldl
    (fun now cursor => now.put (cursor + 1) (now.get cursor)) slots

/-- The live cells `entries[..len]`, without the empty ones. -/
def live (slots : Slots α capacity) : List α :=
  (List.range slots.len).filterMap slots.get

/-- The index of the first live cell that holds the value. -/
def position [DecidableEq α] (slots : Slots α capacity) (value : α) : Option Nat :=
  (List.range slots.len).find? (fun index => slots.get index = some value)

/-- The array whose live cells are the list. -/
def ofList (items : List α) : Slots α capacity := ⟨fun cell => items[cell.val]?, items.length⟩

/-- Live cells form a gap-free prefix of length `len`; every other cell is empty. -/
def GapFree (slots : Slots α capacity) : Prop :=
  slots.len ≤ capacity ∧ (∀ index, index < slots.len → slots.get index ≠ none) ∧
    ∀ index, slots.len ≤ index → slots.get index = none

theorem ext_get {left right : Slots α capacity} (len : left.len = right.len)
    (cells : ∀ index, left.get index = right.get index) : left = right := by
  rcases left with ⟨leftEntries, leftLen⟩
  rcases right with ⟨rightEntries, rightLen⟩
  have same : leftEntries = rightEntries := by
    funext cell
    simpa only [get, cell.isLt, ↓reduceDIte] using cells cell.val
  have sameLen : leftLen = rightLen := len
  rw [same, sameLen]

@[simp] theorem put_len (slots : Slots α capacity) (index : Nat) (value : Option α) :
    (slots.put index value).len = slots.len := rfl

theorem get_put (slots : Slots α capacity) (index : Nat) (value : Option α) (cell : Nat) :
    (slots.put index value).get cell =
      if cell = index ∧ cell < capacity then value else slots.get cell := by
  unfold get put
  by_cases inside : cell < capacity
  · simp only [inside, ↓reduceDIte, and_true]
  · simp only [inside, ↓reduceDIte, and_false, ↓reduceIte]

theorem empty_eq : (empty : Slots α capacity) = ofList [] := by
  simp [empty, ofList]

@[simp] theorem ofList_len (items : List α) : (ofList items : Slots α capacity).len = items.length := rfl

variable {items : List α}

theorem get_ofList (fits : items.length ≤ capacity) (index : Nat) :
    (ofList items : Slots α capacity).get index = items[index]? := by
  unfold get ofList
  split
  · rfl
  · rw [getElem?_eq_none (by omega)]

theorem gapFree_ofList (fits : items.length ≤ capacity) : (ofList items : Slots α capacity).GapFree := by
  refine ⟨fits, ?_, ?_⟩
  · intro index inside
    rw [get_ofList fits, getElem?_eq_getElem inside]
    simp
  · intro index outside
    rw [get_ofList fits]
    exact getElem?_eq_none outside

theorem live_ofList (fits : items.length ≤ capacity) : (ofList items : Slots α capacity).live = items := by
  have cells : (ofList items : Slots α capacity).get = fun index => items[index]? := by
    funext index
    exact get_ofList fits index
  rw [live, cells, ofList_len]
  clear cells fits
  induction items using reverseRecOn with
  | nil => rfl
  | append_singleton items last ih =>
    rw [length_append, length_singleton, range_succ, filterMap_append]
    congr 1
    · calc (range items.length).filterMap (fun index => (items ++ [last])[index]?)
          = (range items.length).filterMap (fun index => items[index]?) := by
            apply filterMap_congr
            intro index inside
            rw [getElem?_append_left (mem_range.mp inside)]
        _ = items := ih
    · simp

theorem get_shiftDown (slots : Slots α capacity) (start count cell : Nat)
    (fits : start + count ≤ capacity) :
    (slots.shiftDown start count).get cell =
      if start ≤ cell ∧ cell < start + count then slots.get (cell + 1) else slots.get cell := by
  unfold shiftDown
  induction count generalizing cell with
  | zero =>
    rw [if_neg (by omega)]
    rfl
  | succ count ih =>
    rw [range'_concat, foldl_append]
    simp only [Nat.one_mul, foldl_cons, foldl_nil]
    rw [get_put, ih (start + count + 1) (by omega), ih cell (by omega)]
    by_cases last : cell = start + count
    · subst last
      rw [if_pos ⟨rfl, by omega⟩, if_neg (by omega), if_pos (by omega)]
    · have bounds : (start ≤ cell ∧ cell < start + (count + 1)) ↔
          (start ≤ cell ∧ cell < start + count) := by omega
      rw [if_neg (fun both => last both.1)]
      simp only [bounds]

theorem get_shiftUp (slots : Slots α capacity) (start count cell : Nat)
    (fits : start + count < capacity) :
    (slots.shiftUp start count).get cell =
      if start < cell ∧ cell ≤ start + count then slots.get (cell - 1) else slots.get cell := by
  unfold shiftUp
  induction count generalizing slots with
  | zero =>
    rw [if_neg (by omega)]
    rfl
  | succ count ih =>
    rw [range'_concat, reverse_append, reverse_singleton, singleton_append,
      foldl_cons, ih (slots.put _ _) (by omega)]
    simp only [Nat.one_mul, get_put]
    by_cases top : cell = start + count + 1
    · subst top
      rw [if_neg (by omega), if_pos ⟨rfl, by omega⟩, if_pos (by omega), Nat.add_sub_cancel]
    · by_cases inside : start < cell ∧ cell ≤ start + count
      · rw [if_pos inside, if_neg (by omega), if_pos (by omega)]
      · rw [if_neg inside, if_neg (fun both => top both.1), if_neg (by omega)]

/-- Closing the gap left by one removed cell. -/
def closeGap (slots : Slots α capacity) (index : Nat) : Slots α capacity :=
  let moved := slots.shiftDown index (slots.len - 1 - index)
  { moved with len := slots.len - 1 }.put (slots.len - 1) none

/-- Opening a gap for one new cell. -/
def openGap (slots : Slots α capacity) (index : Nat) (value : α) : Slots α capacity :=
  let moved := slots.shiftUp index (slots.len - index)
  { moved.put index (some value) with len := slots.len + 1 }

theorem closeGap_ofList (fits : items.length ≤ capacity) {index : Nat} (inside : index < items.length) :
    (ofList items : Slots α capacity).closeGap index = ofList (items.eraseIdx index) := by
  have erased : (items.eraseIdx index).length = items.length - 1 :=
    length_eraseIdx_of_lt inside
  apply ext_get
  · simp [closeGap, erased]
  · intro cell
    rw [get_ofList (by omega)]
    unfold closeGap
    simp only [ofList_len, get_put]
    change (if _ then none else
      ((ofList items : Slots α capacity).shiftDown index (items.length - 1 - index)).get cell) = _
    rw [get_shiftDown _ _ _ _ (by omega), get_ofList fits, get_ofList fits,
      getElem?_eraseIdx]
    by_cases last : cell = items.length - 1
    · subst last
      have free : items.length - 1 < capacity := by omega
      have past : ¬ items.length - 1 < index := by omega
      simp [free, past]
      omega
    · by_cases before : cell < index
      · have outside : ¬ (index ≤ cell ∧ cell < index + (items.length - 1 - index)) := by omega
        simp [last, before, outside]
      · by_cases within : cell < items.length - 1
        · have shifted : index ≤ cell ∧ cell < index + (items.length - 1 - index) := by omega
          simp [last, before, shifted]
        · have outside : ¬ (index ≤ cell ∧ cell < index + (items.length - 1 - index)) := by omega
          simp only [last, false_and, ↓reduceIte, outside, before]
          rw [getElem?_eq_none (by omega), getElem?_eq_none (by omega)]

theorem openGap_ofList (room : items.length < capacity) {index : Nat} (inside : index ≤ items.length) (value : α) :
    (ofList items : Slots α capacity).openGap index value = ofList (items.insertIdx index value) := by
  have grown : (items.insertIdx index value).length = items.length + 1 :=
    length_insertIdx_of_le_length inside value
  apply ext_get
  · simp [openGap, grown]
  · intro cell
    rw [get_ofList (by omega)]
    change (((ofList items : Slots α capacity).shiftUp index (items.length - index)).put index
      (some value)).get cell = _
    rw [get_put, get_shiftUp _ _ _ _ (by omega), get_ofList (by omega), get_ofList (by omega),
      getElem?_insertIdx]
    by_cases same : cell = index
    · subst same
      have free : cell < capacity := by omega
      simp [free, inside]
    · by_cases before : cell < index
      · have outside : ¬ (index < cell ∧ cell ≤ index + (items.length - index)) := by omega
        simp [same, before, outside]
      · by_cases within : cell ≤ items.length
        · have shifted : index < cell ∧ cell ≤ index + (items.length - index) := by omega
          simp [same, before, shifted]
        · have outside : ¬ (index < cell ∧ cell ≤ index + (items.length - index)) := by omega
          simp only [same, false_and, ↓reduceIte, before, outside]
          rw [getElem?_eq_none (by omega), getElem?_eq_none (by omega)]

section Search

variable [DecidableEq α]

variable {items : List α} {value : α}

theorem position_ofList_some (fits : items.length ≤ capacity) {index : Nat}
    (found : (ofList items : Slots α capacity).position value = some index) : items[index]? = some value := by
  have holds := find?_some found
  simpa only [get_ofList fits, decide_eq_true_eq] using holds

theorem position_ofList_none (fits : items.length ≤ capacity) :
    (ofList items : Slots α capacity).position value = none ↔ value ∉ items := by
  simp only [position, find?_eq_none, mem_range, ofList_len, get_ofList fits, decide_eq_true_eq]
  constructor
  · intro absent member
    obtain ⟨index, inside, same⟩ := mem_iff_getElem.mp member
    exact absent index inside (by rw [getElem?_eq_getElem inside, same])
  · intro absent index inside same
    exact absent (mem_of_getElem? same)

/-- With distinct cells the first hit is the only one. -/
theorem eraseIdx_position (fits : items.length ≤ capacity) {index : Nat}
    (found : (ofList items : Slots α capacity).position value = some index) (distinct : items.Nodup) :
    items.eraseIdx index = items.erase value := by
  have here := position_ofList_some fits found
  obtain ⟨inside, same⟩ := List.getElem?_eq_some_iff.mp here
  subst same
  rw [erase_eq_eraseIdx_of_idxOf]
  exact List.Nodup.idxOf_getElem distinct index inside

end Search

end Slots

end PooleOS
