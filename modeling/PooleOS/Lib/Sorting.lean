import PooleOS.Lib.Bytes

/- Selection sort and insertion sort in place, and the order of byte strings. -/
namespace PooleOS

open List

section Selection

variable {α κ : Type} [LinearOrder κ]

/-- One round of the scan for the least item: where the least one so far stands, and what it is. -/
def leastSoFar (key : α → κ) (best : Nat × α) (candidate : α × Nat) : Nat × α :=
  if key candidate.1 < key best.2 then (candidate.2, candidate.1) else best

/-- The first item is swapped with the least one. -/
def swapLeast (key : α → κ) : List α → List α
  | [] => []
  | first :: rest =>
    let (place, best) := (rest.zipIdx 1).foldl (leastSoFar key) (0, first)
    ((first :: rest).set place first).set 0 best

/-- `for index in 0..count`: the least of the items from `index` on is swapped to `index`. -/
def selectionSort (key : α → κ) : Nat → List α → List α
  | 0, items => items
  | rounds + 1, items =>
    match swapLeast key items with
    | [] => []
    | best :: others => best :: selectionSort key rounds others

variable {key : α → κ} {items : List α}

theorem scan_least (items : List α) : ∀ (rest : List α) (start place : Nat) (best : α),
    items[place]? = some best → (∀ offset, rest[offset]? = items[start + offset]?) →
    ∃ last least, (rest.zipIdx start).foldl (leastSoFar key) (place, best) = (last, least) ∧
      items[last]? = some least ∧ key least ≤ key best ∧ ∀ item ∈ rest, key least ≤ key item
  | [], _, place, best, found, _ =>
    ⟨place, best, rfl, found, Std.le_refl _, fun _ absent => nomatch absent⟩
  | candidate :: rest, start, place, best, found, tail => by
      have here : items[start]? = some candidate := (tail 0).symm
      have later : ∀ offset, rest[offset]? = items[start + 1 + offset]? := by
        intro offset
        rw [Nat.add_assoc, Nat.add_comm 1, ← tail (offset + 1)]
        rfl
      rw [zipIdx_cons, foldl_cons, leastSoFar]
      split
      · rename_i less
        obtain ⟨last, least, same, place, below, all⟩ := scan_least items rest (start + 1) start candidate here later
        exact ⟨last, least, same, place, below.trans less.le, forall_mem_cons.mpr ⟨below, all⟩⟩
      · rename_i more
        obtain ⟨last, least, same, place, below, all⟩ := scan_least items rest (start + 1) place best found later
        exact ⟨last, least, same, place, below, forall_mem_cons.mpr ⟨below.trans (not_lt.mp more), all⟩⟩

theorem swapLeast_cons (first : α) (rest : List α) : ∃ best others,
    swapLeast key (first :: rest) = best :: others ∧ (best :: others).Perm (first :: rest) ∧
      ∀ item ∈ others, key best ≤ key item := by
  obtain ⟨last, least, same, found, below, all⟩ :=
    @scan_least _ _ _ key (first :: rest) rest 1 0 first rfl (fun offset => by rw [Nat.add_comm]; rfl)
  have bound : ∀ item ∈ first :: rest, key least ≤ key item := forall_mem_cons.mpr ⟨below, all⟩
  have swapped : ∃ others, swapLeast key (first :: rest) = least :: others ∧
      (least :: others).Perm (first :: rest) := by
    unfold swapLeast
    dsimp only
    rw [same]
    cases last with
    | zero =>
      obtain rfl := Option.some.inj found
      exact ⟨rest, rfl, .refl _⟩
    | succ last =>
      have inside : last < rest.length := Nat.lt_of_succ_lt_succ (List.getElem?_eq_some_iff.mp found).1
      have held : rest[last] = least := (List.getElem?_eq_some_iff.mp found).2
      refine ⟨rest.set last first, rfl, ?_⟩
      have split : rest = rest.take last ++ least :: rest.drop (last + 1) := by
        rw [← held, getElem_cons_drop, take_append_drop]
      rw [set_eq_take_append_cons_drop, if_pos inside]
      nth_rewrite 3 [split]
      refine (List.Perm.cons _ perm_middle).trans ?_
      refine (List.Perm.swap ..).trans (List.Perm.cons _ ?_)
      exact perm_middle.symm
  obtain ⟨others, same, perm⟩ := swapped
  exact ⟨least, others, same, perm, fun item member =>
    bound item (perm.mem_iff.mp (mem_cons_of_mem _ member))⟩

theorem selectionSort_sorted : ∀ (rounds : Nat) (items : List α), items.length ≤ rounds →
    (selectionSort key rounds items).Perm items ∧
      (selectionSort key rounds items).Pairwise (fun first second => key first ≤ key second)
  | 0, items, short => by
      obtain rfl := length_eq_zero_iff.mp (Nat.le_zero.mp short)
      exact ⟨.refl _, .nil⟩
  | rounds + 1, [], _ => ⟨.refl _, .nil⟩
  | rounds + 1, first :: rest, short => by
      obtain ⟨best, others, same, perm, least⟩ := @swapLeast_cons _ _ _ key first rest
      have shorter : others.length ≤ rounds := by
        have length := perm.length_eq
        rw [length_cons, length_cons] at length
        rw [length_cons] at short
        omega
      obtain ⟨ordered, sorted⟩ := selectionSort_sorted rounds others shorter
      rw [selectionSort, same]
      refine ⟨(List.Perm.cons best ordered).trans perm, List.Pairwise.cons ?_ sorted⟩
      exact fun item member => least item (ordered.mem_iff.mp member)

end Selection

section Insertion

variable {α κ : Type} [LinearOrder κ]

/-- The item at the cursor is swapped with the one before it for as long as that one is greater. -/
def sink (key : α → κ) (items : List α) : Nat → List α
  | 0 => items
  | cursor + 1 =>
    match items[cursor]?, items[cursor + 1]? with
    | some left, some right =>
      if key right < key left then sink key ((items.set cursor right).set (cursor + 1) left) cursor else items
    | _, _ => items

/-- `for index in 1..count`: the item at `index` sinks. -/
def insertionSort (key : α → κ) (items : List α) : List α :=
  (List.range' 1 (items.length - 1)).foldl (sink key) items

variable {key : α → κ}

/-- The item ends behind the ones that are not greater. -/
theorem sink_eq (front : List α) : ∀ (item : α) (back : List α), ∃ low high, front = low ++ high ∧
    sink key (front ++ item :: back) front.length = low ++ item :: (high ++ back) ∧
      (∀ last, low.getLast? = some last → key last ≤ key item) ∧ ∀ other ∈ high, key item < key other := by
  induction front using reverseRecOn with
  | nil => exact fun item back => ⟨[], [], rfl, rfl, nofun, nofun⟩
  | append_singleton front left ih =>
    intro item back
    have first : (front ++ [left] ++ item :: back)[front.length]? = some left := by simp
    have second : (front ++ [left] ++ item :: back)[front.length + 1]? = some item := by simp
    rw [length_append, length_singleton, sink, first, second]
    dsimp only
    split
    · rename_i less
      have swapped : ((front ++ [left] ++ item :: back).set front.length item).set (front.length + 1) left =
          front ++ item :: (left :: back) := by simp
      obtain ⟨low, high, rfl, sunk, below, above⟩ := ih item (left :: back)
      refine ⟨low, high ++ [left], (append_assoc ..), ?_, below, ?_⟩
      · rw [swapped, sunk]
        simp
      · intro other member
        rcases mem_append.mp member with old | new
        · exact above other old
        · exact mem_singleton.mp new ▸ less
    · rename_i more
      refine ⟨front ++ [left], [], (append_nil _).symm, by simp, fun last final => ?_, nofun⟩
      rw [getLast?_concat] at final
      exact Option.some.inj final ▸ not_lt.mp more

/-- Sunk into a sorted front, it leaves a sorted front. -/
theorem sink_sorted {front : List α} (sorted : front.Pairwise fun first second => key first ≤ key second)
    (item : α) (back : List α) : ∃ sunk, sink key (front ++ item :: back) front.length = sunk ++ back ∧
      sunk.Perm (front ++ [item]) ∧ sunk.Pairwise fun first second => key first ≤ key second := by
  obtain ⟨low, high, rfl, same, below, above⟩ := @sink_eq _ _ _ key front item back
  obtain ⟨lowSorted, highSorted, across⟩ := pairwise_append.mp sorted
  refine ⟨low ++ item :: high, by rw [same]; simp, ?_, ?_⟩
  · rw [append_assoc]
    exact (perm_append_singleton item high).symm.append_left low
  · refine pairwise_append.mpr ⟨lowSorted, pairwise_cons.mpr ⟨fun other member => (above other member).le,
      highSorted⟩, fun other member => ?_⟩
    have least : key other ≤ key item := by
      rcases eq_nil_or_concat low with rfl | ⟨before, last, rfl⟩
      · exact nomatch member
      · rw [concat_eq_append] at member below lowSorted
        have bound := below last getLast?_concat
        rcases mem_append.mp member with earlier | final
        · exact ((pairwise_append.mp lowSorted).2.2 other earlier last (mem_singleton_self _)).trans bound
        · rwa [mem_singleton.mp final]
    exact forall_mem_cons.mpr ⟨least, across other member⟩

theorem sink_all : ∀ (back front : List α), (front.Pairwise fun first second => key first ≤ key second) →
    ((range' front.length back.length).foldl (sink key) (front ++ back)).Perm (front ++ back) ∧
      ((range' front.length back.length).foldl (sink key) (front ++ back)).Pairwise
        fun first second => key first ≤ key second
  | [], front, sorted => by
      rw [append_nil]
      exact ⟨.refl _, sorted⟩
  | item :: back, front, sorted => by
      obtain ⟨sunk, same, perm, kept⟩ := sink_sorted sorted item back
      have long : front.length + 1 = sunk.length := by rw [perm.length_eq, length_append, length_singleton]
      rw [length_cons, range'_succ, foldl_cons, same, long]
      obtain ⟨moved, ordered⟩ := sink_all back sunk kept
      refine ⟨moved.trans ?_, ordered⟩
      rw [append_cons]
      exact perm.append_right back

theorem insertionSort_sorted : ∀ items : List α, (insertionSort key items).Perm items ∧
    (insertionSort key items).Pairwise fun first second => key first ≤ key second
  | [] => ⟨.refl _, .nil⟩
  | first :: rest => sink_all rest [first] (pairwise_singleton ..)

end Insertion

namespace Bytes

/-- Byte strings are compared byte by byte, and a prefix comes first. -/
def key (bytes : Bytes) : List Nat := bytes.map UInt8.toNat

theorem key_inj {first second : Bytes} : first.key = second.key ↔ first = second :=
  map_inj_right fun _ _ => UInt8.toNat_inj.mp

/-- Sorted lists of the same byte strings are the same. -/
theorem sorted_unique {first second : List Bytes} (perm : first.Perm second)
    (one : first.Pairwise (fun earlier later => earlier.key ≤ later.key))
    (two : second.Pairwise (fun earlier later => earlier.key ≤ later.key)) : first = second := by
  refine perm.eq_of_pairwise ?_ one two
  intro earlier later _ _ below above
  exact key_inj.mp (le_antisymm below above)

end Bytes

end PooleOS
