import PooleOS.Lib.Op
import PooleOS.Lib.Slots

/- Cells kept in the order of a key: the loop that checks the order reads a list
off the cells, and the loop that makes room for a new item moves those behind it. -/
namespace PooleOS.Slots

open List

variable {α κ ε : Type} {capacity : Nat} {slots : Slots α capacity} {items : List α}

/-- Cells that agree with a list up to the live count and are empty behind it. -/
theorem eq_ofList (length : items.length = slots.len) (fits : slots.len ≤ capacity)
    (cells : ∀ index, index < slots.len → slots.get index = items[index]?)
    (clear : ∀ cell : Fin capacity, slots.len ≤ cell.val → slots.entries cell = none) : slots = ofList items := by
  refine ext_get (by rw [ofList_len, length]) fun index => ?_
  rw [get_ofList (by omega)]
  by_cases live : index < slots.len
  · exact cells index live
  · rw [getElem?_eq_none (by omega)]
    unfold Slots.get
    split
    · exact clear _ (Nat.le_of_not_lt live)
    · rfl

theorem clear_ofList (fits : items.length ≤ capacity) (cell : Fin capacity)
    (past : items.length ≤ cell.val) : (ofList items : Slots α capacity).entries cell = none := by
  have empty := get_ofList fits cell.val
  rw [getElem?_eq_none past] at empty
  simpa [Slots.get] using empty

section Scan

variable [Preorder κ] {key : α → κ} {fine : α → Prop} {step : κ → Nat → Except ε κ}

/-- A step of the loop takes the next item, if it is fine and not before the last one. -/
def Steps (slots : Slots α capacity) (key : α → κ) (fine : α → Prop) (step : κ → Nat → Except ε κ) : Prop :=
  ∀ prior cursor next, step prior cursor = .ok next ↔
    ∃ item, slots.get cursor = some item ∧ (fine item ∧ prior ≤ key item) ∧ key item = next

theorem Steps.read (steps : Steps slots key fine step) {start last : κ} {turns : Nat}
    (ok : (range turns).foldlM step start = .ok last) : start ≤ last ∧ ∃ items : List α, items.length = turns ∧
      (∀ index, index < turns → slots.get index = items[index]?) ∧
      (∀ item ∈ items, fine item ∧ start ≤ key item ∧ key item ≤ last) ∧
      items.Pairwise (fun first later => key first ≤ key later) := by
  induction turns generalizing last with
  | zero =>
    cases ok
    exact ⟨le_refl start, [], rfl, nofun, nofun, .nil⟩
  | succ turns ih =>
    rw [range_succ, foldlM_append] at ok
    obtain ⟨prior, first, rest⟩ := bind_eq_ok ok
    obtain ⟨low, items, length, cells, each, ordered⟩ := ih first
    obtain ⟨last', found, same⟩ := bind_eq_ok rest
    obtain rfl : last' = last := by simpa [pure, Except.pure] using same
    obtain ⟨item, cell, ⟨good, behind⟩, rfl⟩ := (steps ..).mp found
    refine ⟨low.trans behind, items ++ [item], by rw [length_append, length]; rfl, ?_, ?_, ?_⟩
    · intro index inside
      by_cases final : index = turns
      · subst final
        rw [cell, ← length, getElem?_concat_length]
      · rw [cells index (by omega), getElem?_append_left (by omega)]
    · intro other member
      rcases mem_append.mp member with early | single
      · obtain ⟨good, after, before⟩ := each other early
        exact ⟨good, after, before.trans behind⟩
      · rw [mem_singleton.mp single]
        exact ⟨good, low.trans behind, le_refl _⟩
    · refine pairwise_append.mpr ⟨ordered, pairwise_singleton .., ?_⟩
      intro other early final single
      rw [mem_singleton.mp single]
      exact (each other early).2.2.trans behind

theorem Steps.ok (steps : Steps slots key fine step) {start : κ} {turns : Nat}
    (length : items.length = turns) (cells : ∀ index, index < turns → slots.get index = items[index]?)
    (each : ∀ item ∈ items, fine item ∧ start ≤ key item)
    (ordered : items.Pairwise (fun first later => key first ≤ key later)) :
    ∃ last, (range turns).foldlM step start = .ok last := by
  obtain ⟨last, loop, -⟩ := foldlM_range_ok step 0 turns start
    (fun cursor prior => ∀ item ∈ items.drop cursor, prior ≤ key item)
    (by
      intro cursor prior _ inside early
      have inside : cursor < items.length := by omega
      have member : items[cursor] ∈ items.drop cursor := by
        rw [drop_eq_getElem_cons inside]
        exact mem_cons_self ..
      refine ⟨key items[cursor], (steps ..).mpr ⟨items[cursor], ?_,
        ⟨(each _ (getElem_mem inside)).1, early _ member⟩, rfl⟩, ?_⟩
      · rw [cells cursor (by omega), getElem?_eq_getElem inside]
      · have tail := List.Pairwise.sublist (drop_sublist cursor items) ordered
        rw [drop_eq_getElem_cons inside] at tail
        exact (pairwise_cons.mp tail).1)
    (fun item member => (each item (mem_of_mem_drop member)).2)
  exact ⟨last, by rw [range_eq_range', loop]⟩

end Scan

section Insertion

/-- The cells after the insertion loop has moved everything from the gap on up by one. -/
structure Opened (items : List α) (gap : Nat) (slots : Slots α capacity) : Prop where
  len : slots.len = items.length
  cells : ∀ index, slots.get index = if index ≤ gap then items[index]? else items[index - 1]?

theorem opened_ofList (fits : items.length ≤ capacity) :
    Opened items items.length (ofList items : Slots α capacity) := by
  refine ⟨rfl, fun index => ?_⟩
  rw [get_ofList fits]
  split
  · rfl
  · rw [getElem?_eq_none (by omega), getElem?_eq_none (by omega)]

/-- The item before the gap moves into it. -/
theorem Opened.shift {gap : Nat} {prior : α} (opened : Opened items (gap + 1) slots)
    (room : items.length < capacity) (inside : gap < items.length)
    (here : items[gap]? = some prior) : Opened items gap (slots.put (gap + 1) (some prior)) := by
  refine ⟨opened.len, fun index => ?_⟩
  rw [get_put, opened.cells]
  by_cases moved : index = gap + 1
  · subst moved
    rw [if_pos ⟨rfl, by omega⟩, if_neg (by omega), Nat.add_sub_cancel, here]
  · rw [if_neg (by tauto)]
    by_cases before : index ≤ gap
    · rw [if_pos (by omega), if_pos before]
    · rw [if_neg (by omega), if_neg before]

theorem Opened.filled {place : Nat} (opened : Opened items place slots)
    (room : items.length < capacity) (inside : place ≤ items.length) (item : α) :
    { slots.put place (some item) with len := (slots.put place (some item)).len + 1 } =
      (ofList (items.insertIdx place item) : Slots α capacity) := by
  have grown := length_insertIdx_of_le_length inside item
  apply ext_get
  · rw [ofList_len, grown, put_len, opened.len]
  · intro index
    rw [get_ofList (by omega), getElem?_insertIdx]
    change (slots.put place (some item)).get index = _
    rw [get_put, opened.cells]
    by_cases here : index = place
    · subst here
      rw [if_pos ⟨rfl, by omega⟩]
      simp [inside]
    · rw [if_neg (by tauto)]
      by_cases before : index < place
      · rw [if_pos (by omega), if_pos before]
      · rw [if_neg (by omega), if_neg before, if_neg here]

/-- Where the loop that looks for the place of a new item stops. -/
structure Stops [LinearOrder κ] (key : α → κ) (items : List α) (item : α) (place : Nat) : Prop where
  low : place ≤ items.length
  later : ∀ index other, place ≤ index → items[index]? = some other → key item < key other
  stop : place = 0 ∨ ∃ other, items[place - 1]? = some other ∧ key other ≤ key item

variable [LinearOrder κ] {key : α → κ} {item : α} {place : Nat}

theorem Stops.early (stops : Stops key items item place)
    (ordered : items.Pairwise (fun first later => key first ≤ key later)) :
    ∀ other ∈ items.take place, key other ≤ key item := by
  rcases stops.stop with rfl | ⟨last, found, bound⟩
  · simp
  · obtain ⟨inside, rfl⟩ := List.getElem?_eq_some_iff.mp found
    intro other member
    obtain ⟨index, before, rfl⟩ := getElem_of_mem member
    rw [getElem_take]
    rw [length_take] at before
    rcases Nat.lt_or_ge index (place - 1) with less | same
    · exact le_trans (pairwise_iff_getElem.mp ordered _ _ (by omega) inside less) bound
    · have last : index = place - 1 := by omega
      subst last
      exact bound

theorem Stops.behind (stops : Stops key items item place) : ∀ other ∈ items.drop place, key item < key other := by
  intro other member
  obtain ⟨index, inside, rfl⟩ := getElem_of_mem member
  rw [getElem_drop]
  rw [length_drop] at inside
  exact stops.later (place + index) _ (by omega) (getElem?_eq_getElem (by omega))

end Insertion

end PooleOS.Slots
