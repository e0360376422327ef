import Mathlib

/- Passes over the edges of a graph that mark the target of an edge whose source is
marked, until a pass changes nothing: what is marked in the end is what can be reached. -/
namespace PooleOS

open List

/-- A type of marks on items: flags, or a set. -/
structure Marking (β α : Type) where
  has : β → α → Bool
  add : β → α → β
  has_add : ∀ marks item other, has (add marks item) other = true ↔ other = item ∨ has marks other = true

namespace Marking

variable {α β : Type} (marking : Marking β α)

/-- One edge of a pass. -/
def touch (marks : β × Bool) (edge : α × α) : β × Bool :=
  if marking.has marks.1 edge.1 = true ∧ marking.has marks.1 edge.2 = false then
    (marking.add marks.1 edge.2, true)
  else marks

/-- One pass, and whether it changed anything. -/
def sweep (edges : List (α × α)) (marks : β) : β × Bool := edges.foldl marking.touch (marks, false)

/-- Passes until one changes nothing, at most so many. -/
def saturate (edges : List (α × α)) : Nat → β → β
  | 0, marks => marks
  | fuel + 1, marks =>
    let (next, changed) := marking.sweep edges marks
    if changed then saturate edges fuel next else next

variable {edges : List (α × α)} {marks : β} {fact : α → Prop}

/-- Nothing is marked but what the edges lead to. -/
theorem touch_sound (closed : ∀ edge ∈ edges, fact edge.1 → fact edge.2) :
    ∀ {rest : List (α × α)}, rest ⊆ edges → ∀ pair : β × Bool, (∀ item, marking.has pair.1 item = true → fact item) →
      ∀ item, marking.has (rest.foldl marking.touch pair).1 item = true → fact item
  | [], _, _, marked => marked
  | edge :: rest, inside, pair, marked => by
      have member := inside (mem_cons_self ..)
      refine touch_sound closed (fun _ other => inside (mem_cons_of_mem _ other)) _ ?_
      unfold touch
      split
      · rename_i fits
        intro item has
        rcases (marking.has_add ..).mp has with rfl | old
        · exact closed edge member (marked _ fits.1)
        · exact marked item old
      · exact marked

/-- A pass only adds marks. Without a change the marks are closed under the edges, and with one a
target is newly marked. -/
theorem touch_steps : ∀ (rest : List (α × α)) (pair : β × Bool),
    (∀ item, marking.has pair.1 item = true → marking.has (rest.foldl marking.touch pair).1 item = true) ∧
    ((rest.foldl marking.touch pair).2 = false → rest.foldl marking.touch pair = pair ∧
      ∀ edge ∈ rest, marking.has pair.1 edge.1 = true → marking.has pair.1 edge.2 = true) ∧
    ((rest.foldl marking.touch pair).2 = true → pair.2 = true ∨ ∃ edge ∈ rest,
      marking.has pair.1 edge.2 = false ∧ marking.has (rest.foldl marking.touch pair).1 edge.2 = true)
  | [], pair => ⟨fun _ has => has, fun _ => ⟨rfl, fun _ absent => nomatch absent⟩, .inl⟩
  | edge :: rest, pair => by
      obtain ⟨grows, still, changed⟩ := touch_steps rest (marking.touch pair edge)
      rw [foldl_cons]
      by_cases fits : marking.has pair.1 edge.1 = true ∧ marking.has pair.1 edge.2 = false
      · have step : marking.touch pair edge = (marking.add pair.1 edge.2, true) := if_pos fits
        have kept : ∀ item, marking.has pair.1 item = true → marking.has (marking.touch pair edge).1 item = true := by
          intro item has
          rw [step]
          exact (marking.has_add ..).mpr (.inr has)
        have marked : marking.has (marking.touch pair edge).1 edge.2 = true := by
          rw [step]
          exact (marking.has_add ..).mpr (.inl rfl)
        refine ⟨fun item has => grows item (kept item has), fun same => ?_, fun _ => .inr ⟨edge,
          mem_cons_self .., fits.2, grows _ marked⟩⟩
        have raised := congrArg Prod.snd (still same).1
        rw [same, step] at raised
        exact nomatch raised
      · have step : marking.touch pair edge = pair := if_neg fits
        rw [step] at grows still changed ⊢
        refine ⟨grows, fun same => ⟨(still same).1, forall_mem_cons.mpr ⟨?_, (still same).2⟩⟩, ?_⟩
        · intro source
          by_contra target
          exact fits ⟨source, Bool.eq_false_iff.mpr target⟩
        · intro raised
          rcases changed raised with old | ⟨other, member, fresh, now⟩
          · exact .inl old
          · exact .inr ⟨other, mem_cons_of_mem _ member, fresh, now⟩

theorem saturate_sound (closed : ∀ edge ∈ edges, fact edge.1 → fact edge.2) :
    ∀ (fuel : Nat) (marks : β), (∀ item, marking.has marks item = true → fact item) →
      ∀ item, marking.has (marking.saturate edges fuel marks) item = true → fact item
  | 0, _, marked => marked
  | fuel + 1, marks, marked => by
      have next := marking.touch_sound closed (List.Subset.refl edges) (marks, false) marked
      unfold saturate
      dsimp only
      split
      · exact saturate_sound closed fuel _ next
      · exact next

theorem saturate_keeps : ∀ (fuel : Nat) (marks : β) (item : α), marking.has marks item = true →
    marking.has (marking.saturate edges fuel marks) item = true
  | 0, _, _, has => has
  | fuel + 1, marks, item, has => by
      have next := (marking.touch_steps edges (marks, false)).1 item has
      unfold saturate
      dsimp only
      split
      · exact saturate_keeps fuel _ item next
      · exact next

/-- A pass that changes something leaves less to mark. -/
theorem sweep_shrinks {items : List α} (inside : ∀ edge ∈ edges, edge.2 ∈ items) (raised : (marking.sweep edges marks).2 = true) :
    (items.filter (marking.has (marking.sweep edges marks).1 · = false)).length <
      (items.filter (marking.has marks · = false)).length := by
  obtain ⟨grows, -, changed⟩ := marking.touch_steps edges (marks, false)
  obtain ⟨edge, member, fresh, now⟩ := (changed raised).resolve_left nofun
  have smaller : items.filter (marking.has (marking.sweep edges marks).1 · = false) =
      (items.filter (marking.has marks · = false)).filter (marking.has (marking.sweep edges marks).1 · = false) := by
    rw [filter_filter]
    apply filter_congr
    intro item _
    rw [Bool.eq_iff_iff, Bool.and_eq_true, decide_eq_true_iff, decide_eq_true_iff]
    refine ⟨fun unmarked => ⟨unmarked, ?_⟩, And.left⟩
    by_contra marked
    rw [Bool.not_eq_false] at marked
    have kept : marking.has (marking.sweep edges marks).1 item = true := grows item marked
    rw [kept] at unmarked
    exact nomatch unmarked
  rw [smaller]
  refine length_filter_lt_length_iff_exists.mpr ⟨edge.2, ?_, ?_⟩
  · rw [mem_filter]
    exact ⟨inside edge member, decide_eq_true fresh⟩
  · have marked : marking.has (marking.sweep edges marks).1 edge.2 = true := now
    rw [marked]
    decide

/-- With one pass for each item there are enough of them. -/
theorem saturate_closed {items : List α} (inside : ∀ edge ∈ edges, edge.2 ∈ items) :
    ∀ (fuel : Nat) (marks : β), (items.filter (marking.has marks · = false)).length < fuel →
      ∀ edge ∈ edges, marking.has (marking.saturate edges fuel marks) edge.1 = true →
        marking.has (marking.saturate edges fuel marks) edge.2 = true
  | 0, _, less => absurd less (Nat.not_lt_zero _)
  | fuel + 1, marks, less => by
      unfold saturate
      dsimp only
      split
      · rename_i raised
        refine saturate_closed inside fuel _ ?_
        exact Nat.lt_of_lt_of_le (marking.sweep_shrinks inside raised) (Nat.le_of_lt_succ less)
      · rename_i unchanged
        obtain ⟨same, closed⟩ := (marking.touch_steps edges (marks, false)).2.1 (Bool.eq_false_iff.mpr unchanged)
        unfold sweep
        rw [same]
        exact closed

/-- What is marked in the end is what can be reached from the first mark. -/
theorem saturate_iff {items : List α} {root item : α} {fuel : Nat} (inside : ∀ edge ∈ edges, edge.2 ∈ items)
    (enough : items.length < fuel) (start : ∀ other, marking.has marks other = true ↔ other = root) :
    marking.has (marking.saturate edges fuel marks) item = true ↔
      Relation.ReflTransGen (fun source target => (source, target) ∈ edges) root item := by
  constructor
  · refine marking.saturate_sound ?_ fuel marks ?_ item
    · exact fun edge member reached => reached.tail member
    · intro other has
      rw [(start other).mp has]
  · intro reached
    have closed := marking.saturate_closed inside fuel marks
      (Nat.lt_of_le_of_lt (length_filter_le ..) enough)
    induction reached with
    | refl => exact marking.saturate_keeps fuel marks root ((start root).mpr rfl)
    | tail _ edge ih => exact closed _ edge ih

end Marking

end PooleOS
