import PooleOS.Lib.Agenda
import PooleOS.Lib.Result
import PooleOS.Pmm.Ops

/- Free extents are inserted into a tidy array: what `insert_and_coalesce` makes of it, and that
`preflight_insert` foresees the outcome. -/
namespace PooleOS.Pmm

open List

/-- `preflight_insert` on the free extents. -/
def preflightInsert (free : List PageExtent) (capacity : Nat) (extent : PageExtent) : Except Error Unit :=
  let index := insertionIndex free extent
  let previous := freeAt free (index - 1)
  let next := freeAt free index
  if mergePrevious free extent then do
    let value ← orError (checkedAdd u64Values previous.pageCount extent.pageCount) .addressRange
    if mergeNext free extent then
      let _ ← orError (checkedAdd u64Values value next.pageCount) .addressRange
      return ()
    else return ()
  else if mergeNext free extent then do
    let _ ← orError (checkedAdd u64Values extent.pageCount next.pageCount) .addressRange
    return ()
  else if free.length = capacity then .error .extentCapacity
  else return ()

variable {free left right : List PageExtent} {capacity : Nat} {extent : PageExtent}

theorem preflight_foresees : preflightInsert free capacity extent =
    (insertAndCoalesce free capacity extent).map (fun _ => ()) := by
  unfold preflightInsert insertAndCoalesce
  by_cases before : mergePrevious free extent <;> by_cases after : mergeNext free extent
  · simp only [before, after, if_true, and_self]
    cases checkedAdd u64Values (freeAt free (insertionIndex free extent - 1)).pageCount extent.pageCount with
    | none => rfl
    | some value =>
      simp only [orError_some, ok_bind]
      cases checkedAdd u64Values value (freeAt free (insertionIndex free extent)).pageCount <;> rfl
  · simp only [before, after, if_true, if_false, and_false]
    cases checkedAdd u64Values (freeAt free (insertionIndex free extent - 1)).pageCount extent.pageCount <;> rfl
  · simp only [before, after, if_true, if_false, false_and]
    cases checkedAdd u64Values extent.pageCount (freeAt free (insertionIndex free extent)).pageCount <;> rfl
  · simp only [before, after, if_false, and_self]
    split <;> rfl

/-- The neighbours that the extent joins. -/
def neighbours (free : List PageExtent) (extent : PageExtent) : List PageExtent :=
  free.filter (fun other => other.Joins extent ∨ extent.Joins other)

theorem canCoalesce_iff {first second : PageExtent} (word : second.startPage < u64Values) :
    canCoalesce first second ↔ first.Joins second := by
  unfold canCoalesce Extent.Joins Extent.endPage
  rw [checkedAdd_eq_some, and_congr_right_iff]
  omega

/-- What starts before the extent ends before it, and the rest comes behind it. -/
theorem exists_split (tidy : Tidy free) (filled : 0 < extent.pageCount)
    (apart : ∀ other ∈ free, other.Before extent ∨ extent.Before other) : ∃ left right, free = left ++ right ∧
      insertionIndex free extent = left.length ∧ (∀ other ∈ left, other.Before extent) ∧
        ∀ other ∈ right, extent.Before other := by
  induction free with
  | nil => exact ⟨[], [], rfl, rfl, nofun, nofun⟩
  | cons first rest ih =>
    obtain ⟨follows, later⟩ := pairwise_cons.mp tidy.spaced
    by_cases behind : extent.startPage ≤ first.startPage
    · refine ⟨[], first :: rest, rfl, ?_, nofun, fun other member => ?_⟩
      · simp [insertionIndex, findIdx_cons, behind]
      · have starts : extent.startPage ≤ other.startPage := by
          rcases mem_cons.mp member with rfl | inside
          · exact behind
          · have next := (follows other inside).1
            unfold Extent.Before Extent.endPage at next
            omega
        have some : 0 < other.pageCount := tidy.filled other member
        rcases apart other member with before | after
        · unfold Extent.Before Extent.endPage at before
          omega
        · exact after
    · obtain ⟨left, right, rfl, index, before, after⟩ := ih ⟨(forall_mem_cons.mp tidy.filled).2, later⟩
        (forall_mem_cons.mp apart).2
      refine ⟨first :: left, right, rfl, ?_, forall_mem_cons.mpr ⟨?_, before⟩, after⟩
      · simp [insertionIndex, findIdx_cons, behind] at index ⊢
        exact index
      · rcases (forall_mem_cons.mp apart).1 with before | after
        · exact before
        · unfold Extent.Before Extent.endPage at after
          omega

/-- Of what lies before the extent, only the last can join it. -/
theorem exists_previous (tidy : Tidy left) (before : ∀ other ∈ left, other.Before extent) :
    ∃ (front : List PageExtent) (previous : Option PageExtent), left = front ++ previous.toList ∧
      (∀ other ∈ previous, other.Joins extent) ∧ ∀ other ∈ front, ¬ other.Joins extent := by
  rcases eq_nil_or_concat left with rfl | ⟨front, last, rfl⟩
  · exact ⟨[], none, rfl, nofun, nofun⟩
  · rw [concat_eq_append] at *
    have far : ∀ other ∈ front, ¬ other.Joins extent := by
      intro other member joins
      have gap := (pairwise_append.mp tidy.spaced).2.2 other member last (mem_singleton_self last)
      have size := tidy.filled last (by simp)
      have next := before last (by simp)
      unfold Extent.Before Extent.Joins Extent.endPage at *
      omega
    by_cases joins : last.Joins extent
    · exact ⟨front, some last, rfl, by rintro _ ⟨⟩; exact joins, far⟩
    · refine ⟨front ++ [last], none, by simp, nofun, fun other member => ?_⟩
      rcases mem_append.mp member with early | late
      · exact far other early
      · rw [mem_singleton.mp late]
        exact joins

/-- Of what lies behind the extent, it can join only the first. -/
theorem exists_next (tidy : Tidy right) (after : ∀ other ∈ right, extent.Before other) :
    ∃ (next : Option PageExtent) (back : List PageExtent), right = next.toList ++ back ∧
      (∀ other ∈ next, extent.Joins other) ∧ ∀ other ∈ back, ¬ extent.Joins other := by
  cases right with
  | nil => exact ⟨none, [], rfl, nofun, nofun⟩
  | cons first back =>
    have far : ∀ other ∈ back, ¬ extent.Joins other := by
      intro other member joins
      have gap := (pairwise_cons.mp tidy.spaced).1 other member
      have size := tidy.filled first (by simp)
      have next := after first (by simp)
      unfold Extent.Before Extent.Joins Extent.endPage at *
      omega
    by_cases joins : extent.Joins first
    · exact ⟨some first, back, rfl, by rintro _ ⟨⟩; exact joins, far⟩
    · exact ⟨none, first :: back, rfl, nofun, forall_mem_cons.mpr ⟨joins, far⟩⟩

section Cases

variable {front back : List PageExtent} {previous next : Option PageExtent}

/-- The run that takes the place of the extent and of the neighbours that it joins. -/
def mergedBlock (previous next : Option PageExtent) (extent : PageExtent) : PageExtent :=
  ⟨(previous.getD extent).startPage, ((previous.toList ++ extent :: next.toList).map (·.pageCount)).sum, extent.zone⟩

theorem mergePrevious_iff (word : extent.startPage < u64Values)
    (index : insertionIndex (front ++ previous.toList ++ right) extent = (front ++ previous.toList).length)
    (joins : ∀ other ∈ previous, other.Joins extent) (far : ∀ other ∈ front, ¬ other.Joins extent) :
    mergePrevious (front ++ previous.toList ++ right) extent ↔ previous.isSome := by
  unfold mergePrevious freeAt
  rw [index, canCoalesce_iff word]
  cases previous with
  | some prior => simpa using joins prior rfl
  | none =>
    refine iff_of_false ?_ nofun
    rintro ⟨positive, joins⟩
    simp only [Option.toList_none, append_nil] at positive joins
    refine far _ ?_ joins
    rw [getD_eq_getElem?_getD, getElem?_append_left (by omega), getElem?_eq_getElem (by omega)]
    exact getElem_mem _

theorem mergeNext_iff (words : ∀ other ∈ next.toList ++ back, other.startPage < u64Values)
    (index : insertionIndex (left ++ (next.toList ++ back)) extent = left.length)
    (joins : ∀ other ∈ next, extent.Joins other) (far : ∀ other ∈ back, ¬ extent.Joins other) :
    mergeNext (left ++ (next.toList ++ back)) extent ↔ next.isSome := by
  unfold mergeNext freeAt
  rw [index]
  cases next with
  | some later =>
    have joined := (canCoalesce_iff (words later (by simp))).mpr (joins later rfl)
    simpa using joined
  | none =>
    refine iff_of_false ?_ nofun
    rintro ⟨inside, joins⟩
    cases back with
    | nil => simp at inside
    | cons first rest =>
      have found : (left ++ (Option.toList none ++ first :: rest)).getD left.length emptyExtent = first := by simp
      rw [found, canCoalesce_iff (words first (by simp))] at joins
      exact far first (by simp) joins

/-- The four cases of the insertion. -/
theorem insertAndCoalesce_eq
    (words : ∀ other ∈ extent :: (front ++ previous.toList ++ (next.toList ++ back)), other.startPage < u64Values)
    (index : insertionIndex (front ++ previous.toList ++ (next.toList ++ back)) extent =
      (front ++ previous.toList).length)
    (joinsPrevious : ∀ other ∈ previous, other.Joins extent) (joinsNext : ∀ other ∈ next, extent.Joins other)
    (freeFront : ∀ other ∈ front, ¬ other.Joins extent) (freeBack : ∀ other ∈ back, ¬ extent.Joins other) :
    insertAndCoalesce (front ++ previous.toList ++ (next.toList ++ back)) capacity extent =
      if previous.toList ++ next.toList = [] then
        if (front ++ previous.toList ++ (next.toList ++ back)).length = capacity then .error .extentCapacity
        else .ok (front ++ mergedBlock previous next extent :: back, 0)
      else if (mergedBlock previous next extent).pageCount < u64Values then
        .ok (front ++ mergedBlock previous next extent :: back, (previous.toList ++ next.toList).length)
      else .error .addressRange := by
  obtain ⟨word, words⟩ := forall_mem_cons.mp words
  have merges := mergePrevious_iff word index joinsPrevious freeFront
  have merges' := mergeNext_iff (fun other member => words other (mem_append_right _ member)) index joinsNext
    freeBack
  unfold insertAndCoalesce mergedBlock freeAt
  simp only [merges, merges', index]
  cases previous with
  | none =>
    cases next with
    | none => simp [Agenda.insertIdx_eq_append, pure, Except.pure]
    | some after =>
      simp [(joinsNext after rfl).1, checkedAdd]
      split <;> rfl
  | some before =>
    cases next with
    | none =>
      simp [(joinsPrevious before rfl).1, checkedAdd]
      split <;> rfl
    | some after =>
      have erased (merged : PageExtent) :
          (front ++ merged :: after :: back).eraseIdx (front.length + 1) = front ++ merged :: back := by
        rw [eraseIdx_append_of_length_le (Nat.le_add_right _ 1), Nat.add_sub_cancel_left]
        rfl
      simp [(joinsPrevious before rfl).1, checkedAdd, erased]
      by_cases whole : before.pageCount + (extent.pageCount + after.pageCount) < u64Values
      · have part : before.pageCount + extent.pageCount < u64Values := by omega
        simp [whole, part, Nat.add_assoc]
      · split
        · rw [orError_some, ok_bind, if_neg (by omega)]
          rfl
        · rfl

theorem neighbours_eq (filled : 0 < extent.pageCount) (before : ∀ other ∈ front ++ previous.toList, other.Before extent)
    (after : ∀ other ∈ next.toList ++ back, extent.Before other) (joinsPrevious : ∀ other ∈ previous, other.Joins extent)
    (joinsNext : ∀ other ∈ next, extent.Joins other) (freeFront : ∀ other ∈ front, ¬ other.Joins extent)
    (freeBack : ∀ other ∈ back, ¬ extent.Joins other) :
    neighbours (front ++ previous.toList ++ (next.toList ++ back)) extent = previous.toList ++ next.toList := by
  have frontNone : neighbours front extent = [] := by
    refine filter_eq_nil_iff.mpr (fun other member joins => ?_)
    have behind := before other (mem_append_left _ member)
    rcases of_decide_eq_true joins with joins | joins
    · exact freeFront other member joins
    · unfold Extent.Before Extent.Joins Extent.endPage at *
      omega
  have backNone : neighbours back extent = [] := by
    refine filter_eq_nil_iff.mpr (fun other member joins => ?_)
    have ahead := after other (mem_append_right _ member)
    rcases of_decide_eq_true joins with joins | joins
    · unfold Extent.Before Extent.Joins Extent.endPage at *
      omega
    · exact freeBack other member joins
  have previousAll : neighbours previous.toList extent = previous.toList :=
    filter_eq_self.mpr (fun other member =>
      decide_eq_true (.inl (joinsPrevious other (Option.mem_toList.mp member))))
  have nextAll : neighbours next.toList extent = next.toList :=
    filter_eq_self.mpr (fun other member => decide_eq_true (.inr (joinsNext other (Option.mem_toList.mp member))))
  unfold neighbours at *
  rw [filter_append, filter_append, filter_append, frontNone, backNone, previousAll, nextAll,
    nil_append, append_nil]

theorem mergedBlock_end (joinsPrevious : ∀ other ∈ previous, other.Joins extent)
    (joinsNext : ∀ other ∈ next, extent.Joins other) :
    (mergedBlock previous next extent).endPage = (next.getD extent).endPage := by
  unfold mergedBlock Extent.endPage Extent.Joins at *
  cases previous <;> cases next <;> simp [Extent.endPage] at joinsPrevious joinsNext ⊢ <;> omega

end Cases

/-- What an insertion makes of a tidy array. -/
structure Inserted (free : List PageExtent) (extent : PageExtent) (free' : List PageExtent) (merged : Nat) : Prop where
  tidy : Tidy free'
  covers : ∀ page zone, Covered free' page zone ↔ Covered free page zone ∨ extent.Covers page zone
  counted : merged = (neighbours free extent).length
  replaces : ∃ front back block, free = front ++ neighbours free extent ++ back ∧ free' = front ++ block :: back ∧
    block.zone = extent.zone

/-- The pages of the extent and of the neighbours that it joins. -/
def mergedPages (free : List PageExtent) (extent : PageExtent) : Nat :=
  extent.pageCount + ((neighbours free extent).map (·.pageCount)).sum

theorem insert_and_coalesce_exact (tidy : Tidy free) (words : ∀ other ∈ extent :: free, other.startPage < u64Values)
    (filled : 0 < extent.pageCount) (apart : ∀ other ∈ free, other.Before extent ∨ extent.Before other)
    (capacity : Nat) :
    (∀ free' merged, insertAndCoalesce free capacity extent = .ok (free', merged) →
      Inserted free extent free' merged) ∧
    ((∃ inserted, insertAndCoalesce free capacity extent = .ok inserted) ↔
      if neighbours free extent = [] then free.length ≠ capacity else mergedPages free extent < u64Values) ∧
    (preflightInsert free capacity extent = .ok () ↔
      ∃ inserted, insertAndCoalesce free capacity extent = .ok inserted) := by
  obtain ⟨left, right, rfl, index, before, after⟩ := exists_split tidy filled apart
  obtain ⟨leftSpaced, rightSpaced, -⟩ := pairwise_append.mp tidy.spaced
  obtain ⟨leftFilled, rightFilled⟩ := forall_mem_append.mp tidy.filled
  obtain ⟨front, previous, rfl, joinsPrevious, freeFront⟩ := exists_previous ⟨leftFilled, leftSpaced⟩ before
  obtain ⟨next, back, rfl, joinsNext, freeBack⟩ := exists_next ⟨rightFilled, rightSpaced⟩ after
  have joined := neighbours_eq filled before after joinsPrevious joinsNext freeFront freeBack
  have result : insertAndCoalesce _ capacity extent = _ :=
    insertAndCoalesce_eq words index joinsPrevious joinsNext freeFront freeBack
  have pages : (mergedBlock previous next extent).pageCount =
      mergedPages (front ++ previous.toList ++ (next.toList ++ back)) extent := by
    rw [mergedPages, joined, mergedBlock, map_append, map_append, sum_append, sum_append,
      map_cons, sum_cons]
    exact Nat.add_left_comm _ _ _
  have labelled : (mergedBlock previous next extent).zone = extent.zone := rfl
  have absorbed := tidy.absorb filled before after joinsPrevious joinsNext freeFront freeBack labelled rfl
    (mergedBlock_end joinsPrevious joinsNext)
  have inserted : ∀ merged, merged = (previous.toList ++ next.toList).length →
      Inserted (front ++ previous.toList ++ (next.toList ++ back)) extent
        (front ++ mergedBlock previous next extent :: back) merged := by
    rintro _ rfl
    refine ⟨absorbed.1, absorbed.2, by rw [joined], front, back, _, ?_, rfl, rfl⟩
    rw [joined]
    simp only [append_assoc]
  rw [preflight_foresees, result, joined, pages]
  split
  · rename_i none
    split
    · rename_i full
      exact ⟨nofun, iff_of_false nofun (not_not.mpr full), iff_of_false nofun nofun⟩
    · rename_i room
      refine ⟨?_, iff_of_true ⟨_, rfl⟩ room, iff_of_true rfl ⟨_, rfl⟩⟩
      rintro _ _ ⟨⟩
      exact inserted 0 (by rw [none]; rfl)
  · split
    · rename_i fits
      refine ⟨?_, iff_of_true ⟨_, rfl⟩ fits, iff_of_true rfl ⟨_, rfl⟩⟩
      rintro _ _ ⟨⟩
      exact inserted _ rfl
    · rename_i large
      exact ⟨nofun, iff_of_false nofun large, iff_of_false nofun nofun⟩

/-- An extent that closes the gap between two others. -/
theorem insert_and_coalesce_exact_gap : Inserted [⟨16, 4, .dma⟩, ⟨24, 8, .dma⟩] ⟨20, 4, .dma⟩ [⟨16, 16, .dma⟩] 2 :=
  (insert_and_coalesce_exact ⟨by decide, by decide⟩ (by decide) (by decide) (by decide) 2).1 _ _ rfl

end PooleOS.Pmm
