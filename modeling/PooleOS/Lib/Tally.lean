import PooleOS.Lib.Op

/- Occurrence counts as validators keep them: an array of small counters, one cell bumped for each item met.
-/
namespace PooleOS

open List Finset
open Function (update update_of_ne update_self)

variable {I ε : Type} [DecidableEq I]

/-- The tally after these items have been counted once. -/
def seen (items : List I) (item : I) : Nat := if item ∈ items then 1 else 0

theorem seen_nil : seen ([] : List I) = fun _ => 0 := by
  funext item
  simp [seen]

/-- One more item is counted. -/
theorem tally_seen {items : List I} {item : I} (fresh : item ∉ items) {limit : Nat} (room : 1 < limit) (reason : ε) :
    (do
      let count ← orError (checkedAdd limit (seen items item) 1) reason
      return update (seen items) item count : Except ε (I → Nat)) =
        .ok (seen (items ++ [item])) := by
  have zero : seen items item = 0 := by
    simp [seen, fresh]
  have counted : checkedAdd limit 0 1 = some 1 := by
    rw [checkedAdd_eq_some]
    omega
  have next : update (seen items) item 1 = seen (items ++ [item]) := by
    funext other
    by_cases same : other = item
    · subst same
      simp [seen]
    · simp [seen, same]
  rw [zero, counted, ← next]
  rfl

/-- A loop over the cells of an array counts every item the array holds. -/
theorem tally_range {step : (I → Nat) → Nat → Except ε (I → Nat)} {items counted : List I}
    (distinct : items.Nodup) (fresh : ∀ item ∈ items, item ∉ counted)
    (each : ∀ (cursor : Fin items.length) (met : List I), items.get cursor ∉ met →
      step (seen met) cursor.val = .ok (seen (met ++ [items.get cursor]))) :
    (List.range items.length).foldlM step (seen counted) = .ok (seen (counted ++ items)) := by
  obtain ⟨result, folded, last⟩ := foldlM_range_ok step 0 items.length (seen counted)
    (fun cursor tally => tally = seen (counted ++ items.take cursor))
    (by
      intro cursor tally _ before current
      have inside : cursor < items.length := by omega
      have unseen : items.get ⟨cursor, inside⟩ ∉ counted ++ items.take cursor := by
        rw [mem_append]
        intro earlier
        rcases earlier with earlier | earlier
        · exact fresh _ (get_mem _ _) earlier
        · obtain ⟨other, position, same⟩ := mem_take_iff_getElem.mp earlier
          have equal := distinct.getElem_inj_iff.mp same
          omega
      refine ⟨_, by rw [current]; exact each ⟨cursor, inside⟩ _ unseen, ?_⟩
      rw [take_succ_eq_append_getElem inside, ← append_assoc]
      rfl)
    (by rw [take_zero, append_nil])
  rw [range_eq_range', folded, last, Nat.zero_add, take_length]

/-- A loop that makes its result out of distinct items, one a round. -/
theorem foldlM_made {α β : Type} {step : β → α → Except ε β} {made : List α → β}
    (each : ∀ {done item}, item ∉ done → step (made done) item = .ok (made (done ++ [item]))) :
    ∀ {items done : List α}, (done ++ items).Nodup → items.foldlM step (made done) = .ok (made (done ++ items))
  | [], done, _ => by
      rw [append_nil]
      rfl
  | item :: rest, done, distinct => by
      have fresh : item ∉ done := fun before => (nodup_append.mp distinct).2.2 item before item (mem_cons_self ..) rfl
      rw [append_cons] at distinct ⊢
      rw [foldlM_cons, each fresh]
      exact foldlM_made each distinct

/-- The cells with a property that one cell has. -/
theorem filter_finRange_singleton {count : Nat} {property : Fin count → Prop} [DecidablePred property] {index : Fin count}
    (only : ∀ other, property other ↔ other = index) : (finRange count).filter (fun other => property other) = [index] := by
  have same : (finRange count).filter (fun other => property other) = (finRange count).filter (fun other => other = index) :=
    filter_congr fun other _ => decide_eq_decide.mpr (only other)
  rw [same, List.filter_eq, count_eq_one_of_mem (nodup_finRange count) (mem_finRange index), replicate_one]

/-- Rewriting one cell moves the number of cells with a property by at most one. -/
theorem card_update {α : Type} [Fintype I] (property : α → Prop) [DecidablePred property] (cells : I → α) (item : I)
    (value : α) : (univ.filter (fun other => property (update cells item value other))).card +
        (if property (cells item) then 1 else 0) = (univ.filter (fun other => property (cells other))).card +
        (if property value then 1 else 0) := by
  rw [card_filter, card_filter, ← add_sum_erase _ _ (mem_univ item),
    ← add_sum_erase univ _ (mem_univ item)]
  have others : ∑ other ∈ univ.erase item,
      (if property (update cells item value other) then 1 else 0) =
      ∑ other ∈ univ.erase item, (if property (cells other) then 1 else 0) := by
    refine sum_congr rfl (fun other member => ?_)
    rw [update_of_ne (ne_of_mem_erase member)]
  rw [others, update_self]
  omega

section Gather

variable {α : Type} [Fintype I]

def optional (value : Option α) : Multiset α := value.elim 0 (fun one => {one})

@[simp] theorem optional_none : optional (none : Option α) = 0 := rfl

/-- What the cells hold, each value as often as it is held. -/
def gather (cells : I → Option α) : Multiset α := ∑ item, optional (cells item)

/-- Rewriting one cell exchanges its old content for the new one. -/
theorem gather_update (cells : I → Option α) (item : I) (value : Option α) :
    gather (update cells item value) + optional (cells item) = gather cells + optional value := by
  have others : ∑ other ∈ univ.erase item,
      optional (update cells item value other) =
      ∑ other ∈ univ.erase item, optional (cells other) := by
    refine sum_congr rfl (fun other member => ?_)
    rw [update_of_ne (ne_of_mem_erase member)]
  unfold gather
  rw [← add_sum_erase _ _ (mem_univ item),
    ← add_sum_erase univ (fun other => optional (cells other))
      (mem_univ item), others, update_self, add_comm (optional value),
    add_right_comm, add_comm (optional (cells item))]

end Gather

end PooleOS
