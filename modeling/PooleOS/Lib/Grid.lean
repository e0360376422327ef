import Mathlib

/- Loops that fill a flat table once, in the order of its cells, and rows of weights:
what a row gives when its weights are applied to a function of the index. -/
namespace PooleOS

open Nat Option
open List

variable {α β : Type}

section Positions

/-- The items stand one after the other, from this position on. -/
def Positioned (position : α → Nat) (start : Nat) (items : List α) : Prop :=
  ∀ index item, items[index]? = some item → position item = start + index

variable {position : α → Nat} {start : Nat} {items : List α}

theorem positioned_map_range {count : Nat} {make : Nat → α}
    (each : ∀ index, index < count → position (make index) = start + index) :
    Positioned position start ((range count).map make) := by
  intro index item found
  rw [getElem?_map, map_eq_some_iff] at found
  obtain ⟨same, found, rfl⟩ := found
  obtain ⟨inside, rfl⟩ := List.getElem?_eq_some_iff.mp found
  rw [getElem_range]
  exact each index (by simpa using inside)

theorem positioned_append {front back : List α} (first : Positioned position start front)
    (second : Positioned position (start + front.length) back) : Positioned position start (front ++ back) := by
  intro index item found
  rw [getElem?_append] at found
  split at found
  · exact first index item found
  · have later := second _ item found
    omega

/-- Blocks of one width. -/
theorem positioned_flatMap {width : Nat} {block : Nat → List α} (same : ∀ index, (block index).length = width) :
    ∀ {count : Nat}, (∀ index, index < count → Positioned position (start + index * width) (block index)) →
      Positioned position start ((range count).flatMap block) ∧
        ((range count).flatMap block).length = count * width
  | 0, _ => ⟨nofun, by simp⟩
  | more + 1, each => by
      obtain ⟨before, length⟩ :=
        positioned_flatMap same (fun index less => each index (lt_succ_of_lt less))
      rw [range_succ, flatMap_append, flatMap_singleton]
      refine ⟨positioned_append before ?_, ?_⟩
      · rw [length]
        exact each more (lt_succ_self more)
      · rw [length_append, length, same, succ_mul]

/-- A loop that writes each cell once. -/
theorem foldl_set {write : α → β} {tail : List β} : ∀ {items : List α} {front back : List β},
    Positioned position front.length items → back.length = items.length →
      items.foldl (fun out item => out.set (position item) (write item)) (front ++ (back ++ tail)) =
        front ++ (items.map write ++ tail)
  | [], front, back, _, length => by
      rw [length_eq_zero_iff.mp length]
      rfl
  | item :: rest, front, cell :: back, positioned, length => by
      have here : position item = front.length := positioned 0 item rfl
      have later : Positioned position (front ++ [write item]).length rest := by
        intro index other found
        have next := positioned (index + 1) other found
        rw [length_append, length_singleton]
        omega
      have written : (front ++ (cell :: back ++ tail)).set front.length (write item) =
          (front ++ [write item]) ++ (back ++ tail) := by
        simp
      rw [foldl_cons, here, written, foldl_set later (succ.inj length), map_cons, append_assoc]
      rfl

theorem foldl_set_all {write : α → β} (positioned : Positioned position 0 items) {cells : List β}
    (length : cells.length = items.length) :
    items.foldl (fun out item => out.set (position item) (write item)) cells = items.map write := by
  have whole := @foldl_set _ _ position write [] items [] cells positioned length
  simpa using whole

/-- The same loop with two tables. -/
theorem foldl_set_pair {first second : α → β} (positioned : Positioned position 0 items) {cells cells' : List β}
    (length : cells.length = items.length) (length' : cells'.length = items.length) :
    items.foldl (fun (out : List β × List β) item =>
      (out.1.set (position item) (first item), out.2.set (position item) (second item))) (cells, cells') =
        (items.map first, items.map second) := by
  have apart : ∀ (items : List α) (cells cells' : List β), items.foldl (fun (out : List β × List β) item =>
      (out.1.set (position item) (first item), out.2.set (position item) (second item))) (cells, cells') =
        (items.foldl (fun out item => out.set (position item) (first item)) cells,
          items.foldl (fun out item => out.set (position item) (second item)) cells') := by
    intro items
    induction items with
    | nil => exact fun _ _ => rfl
    | cons item rest ih => exact fun cells cells' => ih _ _
  rw [apart, foldl_set_all positioned length, foldl_set_all positioned length']

theorem positioned_zipIdx (start : Nat) (items : List α) :
    Positioned (fun item : α × Nat => start + item.2) start items.zipIdx := by
  intro index item found
  rw [getElem?_zipIdx, map_eq_some_iff] at found
  obtain ⟨_, _, rfl⟩ := found
  simp

theorem mapIdx_positioned {γ : Type} {make : α → β} {change : Nat → β → γ} (positioned : Positioned position 0 items) :
    (items.map make).mapIdx change = items.map (fun item => change (position item) (make item)) := by
  apply ext_getElem?
  intro index
  rw [getElem?_mapIdx, getElem?_map, getElem?_map]
  cases found : items[index]? with
  | none => rfl
  | some item =>
    have here := positioned index item found
    rw [zero_add] at here
    rw [map_some, map_some, map_some, here]

end Positions

section Blocks

/-- An item of a table that is made of blocks of one width. -/
theorem getElem?_flatMap_width {width : Nat} {block : α → List β} :
    ∀ {items : List α}, (∀ item ∈ items, (block item).length = width) → ∀ (index : Nat) {position : Nat},
      position < width →
        (items.flatMap block)[index * width + position]? = items[index]?.bind (fun item => (block item)[position]?)
  | [], _, _, _, _ => by simp
  | first :: rest, same, index, position, inside => by
      have here := same first (mem_cons_self ..)
      rw [flatMap_cons]
      cases index with
      | zero =>
        rw [zero_mul, zero_add, getElem?_append_left (by omega)]
        rfl
      | succ index =>
        have shift : (index + 1) * width + position - width = index * width + position := by
          rw [succ_mul]
          omega
        rw [getElem?_append_right (by rw [succ_mul]; omega), here, shift,
          getElem?_flatMap_width (fun item member => same item (mem_cons_of_mem _ member)) index inside]
        rfl

theorem length_flatMap_width {width : Nat} {block : α → List β} {items : List α}
    (same : ∀ item ∈ items, (block item).length = width) : (items.flatMap block).length = items.length * width := by
  induction items with
  | nil => simp
  | cons first rest ih =>
    rw [flatMap_cons, length_append, same first (mem_cons_self ..),
      ih (fun item member => same item (mem_cons_of_mem _ member)), length_cons, succ_mul,
      add_comm]

end Blocks

section Weights

/-- The weights of a row applied to a function of the index. -/
def weigh : List Int → (Nat → Int) → Int
  | [], _ => 0
  | weight :: rest, value => weight * value 0 + weigh rest (fun index => value (index + 1))

variable {row other values : List Int} {value : Nat → Int}

theorem weigh_append : ∀ {row : List Int} {value : Nat → Int}, weigh (row ++ other) value =
    weigh row value + weigh other (fun index => value (row.length + index))
  | [], value => by simp [weigh]
  | weight :: rest, value => by
      have shift : ∀ index, rest.length + index + 1 = rest.length + 1 + index := fun index => by omega
      rw [cons_append, weigh, weigh_append, weigh, length_cons]
      simp only [shift, Int.add_assoc]

theorem weigh_scale (factor : Int) : ∀ {row : List Int} {value : Nat → Int},
    weigh (row.map (factor * ·)) value = factor * weigh row value
  | [], value => by simp [weigh]
  | weight :: rest, value => by
      rw [map_cons, weigh, weigh, weigh_scale factor, Int.mul_add, Int.mul_assoc]

theorem weigh_zero (count : Nat) (value : Nat → Int) : weigh (replicate count 0) value = 0 := by
  induction count generalizing value with
  | zero => rfl
  | succ count ih => rw [replicate_succ, weigh, ih, Int.zero_mul, Int.zero_add]

/-- A row whose every weight is replaced by a copy of another row, scaled by it. -/
theorem weigh_kronecker : ∀ {row : List Int} {value : Nat → Int},
    weigh (row.flatMap (fun factor => other.map (factor * ·))) value =
      weigh row (fun index => weigh other (fun cell => value (index * other.length + cell)))
  | [], value => rfl
  | weight :: rest, value => by
      have shift : ∀ index cell, other.length + (index * other.length + cell) =
          (index + 1) * other.length + cell := fun index cell => by
        rw [succ_mul]
        omega
      rw [flatMap_cons, weigh_append, weigh_scale, weigh_kronecker, weigh, length_map]
      simp only [shift, zero_mul, zero_add]

theorem weigh_modify (amount : Int) : ∀ {row : List Int} {index : Nat} {value : Nat → Int}, index < row.length →
    weigh (row.modify index (· + amount)) value = weigh row value + amount * value index
  | weight :: rest, 0, value, _ => by
      rw [modify_zero_cons, weigh, weigh]
      ring
  | weight :: rest, index + 1, value, inside => by
      rw [modify_succ_cons, weigh, weigh, weigh_modify amount (lt_of_succ_lt_succ inside)]
      ring

/-- A product of two vectors. -/
theorem sum_zipWith_mul : ∀ {row values : List Int}, row.length = values.length →
    (zipWith (· * ·) row values).sum = weigh row (fun index => values.getD index 0)
  | [], [], _ => rfl
  | weight :: rest, value :: values, length => by
      rw [zipWith_cons_cons, sum_cons, sum_zipWith_mul (succ.inj length), weigh]
      simp only [getD_cons_zero, getD_cons_succ]

end Weights

end PooleOS
