import Mathlib

/- Orders in which every item comes after what it needs. Taking the least item that
is ready, again and again, makes the least of them. -/
namespace PooleOS

open List

variable {α : Type} [LinearOrder α]

/-- An item that can come next. -/
structure Ready (items : List α) (needs : α → α → Prop) (done : List α) (item : α) : Prop where
  listed : item ∈ items
  fresh : item ∉ done
  met : ∀ other, needs item other → other ∈ done

/-- Orders made by taking the least item that can come next. -/
inductive Greedy (items : List α) (needs : α → α → Prop) : List α → Prop
  | nil : Greedy items needs []
  | snoc {done : List α} {item : α} (earlier : Greedy items needs done)
      (ready : Ready items needs done item)
      (least : ∀ other, Ready items needs done other → item ≤ other) : Greedy items needs (done ++ [item])

/-- An order of all items in which each comes after what it needs. -/
structure Respects (items : List α) (needs : α → α → Prop) (order : List α) : Prop where
  perm : order.Perm items
  after : ∀ item other, item ∈ items → needs item other → order.idxOf other < order.idxOf item

variable {items : List α} {needs : α → α → Prop} {order front back : List α} {item other : α}

theorem idxOf_append_cons (fresh : item ∉ front) : (front ++ item :: back).idxOf item = front.length := by
  rw [idxOf_append_of_notMem fresh, idxOf_cons_self, Nat.add_zero]

section

variable (greedy : Greedy items needs order)
include greedy

theorem Greedy.nodup : order.Nodup := by
  induction greedy with
  | nil => exact nodup_nil
  | snoc _ ready _ ih =>
    refine nodup_append.mpr ⟨ih, nodup_singleton _, ?_⟩
    rintro one member two single rfl
    obtain rfl := mem_singleton.mp single
    exact ready.fresh member

theorem Greedy.subset : order ⊆ items := by
  induction greedy with
  | nil => exact nil_subset _
  | snoc _ ready _ ih =>
    intro item member
    rcases mem_append.mp member with early | last
    · exact ih early
    · rw [mem_singleton.mp last]
      exact ready.listed

/-- At each place stands the least item that was ready there. -/
theorem Greedy.split :
    ∀ {front back : List α} {item : α}, order = front ++ item :: back →
      Ready items needs front item ∧ ∀ other, Ready items needs front other → item ≤ other := by
  induction greedy with
  | nil =>
    intro front back item same
    exact absurd same (by simp)
  | @snoc done last earlier ready least ih =>
    intro front back item same
    rcases eq_nil_or_concat back with rfl | ⟨middle, final, rfl⟩
    · obtain ⟨rfl, rest⟩ := append_inj' same rfl
      obtain rfl := singleton_inj.mp rest
      exact ⟨ready, least⟩
    · rw [concat_eq_append, ← cons_append, ← append_assoc] at same
      obtain ⟨earlierSame, -⟩ := append_inj' same rfl
      exact ih earlierSame

theorem Greedy.perm (full : order.length = items.length) : order.Perm items := by
  have sub : order.Subperm items := subperm_of_subset greedy.nodup greedy.subset
  exact sub.perm_of_length_le (Nat.le_of_eq full.symm)

theorem Greedy.respects (full : order.length = items.length) :
    Respects items needs order := by
  refine ⟨greedy.perm full, ?_⟩
  intro item other listed need
  have member : item ∈ order := (greedy.perm full).mem_iff.mpr listed
  obtain ⟨front, back, rfl⟩ := append_of_mem member
  obtain ⟨ready, -⟩ := greedy.split rfl
  have early := ready.met other need
  rw [idxOf_append_cons ready.fresh, idxOf_append_of_mem early]
  exact idxOf_lt_length_of_mem early

end

/-- In an order that respects the needs, the item after a front is ready there. -/
theorem Respects.ready (respects : Respects items needs order) (distinct : items.Nodup)
    (split : order = front ++ item :: back) : Ready items needs front item := by
  have nodup : order.Nodup := respects.perm.nodup_iff.mpr distinct
  subst split
  have fresh : item ∉ front := by
    intro member
    exact disjoint_of_nodup_append nodup member (mem_cons_self ..)
  have listed : item ∈ items := respects.perm.mem_iff.mp (by simp)
  refine ⟨listed, fresh, ?_⟩
  intro other need
  have before := respects.after item other listed need
  rw [idxOf_append_cons fresh] at before
  by_contra late
  rw [idxOf_append_of_notMem late] at before
  omega

/-- No order that respects the needs comes before the greedy one. -/
theorem Greedy.least (greedy : Greedy items needs order) (distinct : items.Nodup) (full : order.length = items.length)
    {rival : List α} (respects : Respects items needs rival) : ¬ List.Lex (· < ·) rival order := by
  have walk : ∀ (rest tail front : List α), order = front ++ rest → rival = front ++ tail →
      ¬ List.Lex (· < ·) tail rest := by
    intro rest
    induction rest with
    | nil => exact fun tail _ _ _ => not_lex_nil
    | cons item rest ih =>
      intro tail front mine theirs
      cases tail with
      | nil =>
        have long := congrArg length mine
        have short := congrArg length theirs
        have same := respects.perm.length_eq
        rw [length_append, length_cons] at long
        rw [length_append, length_nil] at short
        omega
      | cons other tail =>
        obtain ⟨-, least⟩ := greedy.split mine
        rcases (least other (respects.ready distinct theirs)).lt_or_eq with less | rfl
        · intro before
          rcases cons_lex_cons_iff.mp before with first | ⟨rfl, -⟩
          · exact lt_asymm less first
          · exact lt_irrefl _ less
        · have later := ih tail (front ++ [item]) (by simpa using mine) (by simpa using theirs)
          intro before
          rcases cons_lex_cons_iff.mp before with first | ⟨-, behind⟩
          · exact lt_irrefl _ first
          · exact later behind
  exact walk order rival [] rfl rfl

/-- There is one greedy order of each length. -/
theorem Greedy.unique {first : List α} (one : Greedy items needs first) :
    ∀ {second : List α}, Greedy items needs second → first.length = second.length → first = second := by
  induction one with
  | nil => exact fun _ length => (length_eq_zero_iff.mp length.symm).symm
  | @snoc done item _ ready least ih =>
    intro second two length
    cases two with
    | nil => exact absurd length (by simp)
    | @snoc others other earlier ready' least' =>
      obtain rfl := ih earlier (by simpa using length)
      rw [le_antisymm (least other ready') (least' item ready)]

section Counting

variable {edges : List (α × α)} {done : List α} {item last : α}

/-- How many of its needs an item waits for. -/
def unmet (edges : List (α × α)) (done : List α) (item : α) : Nat :=
  edges.countP (fun edge => edge.1 = item ∧ edge.2 ∉ done)

/-- How many of its needs are one other item. -/
def meets (edges : List (α × α)) (last item : α) : Nat :=
  edges.countP (fun edge => edge.1 = item ∧ edge.2 = last)

theorem unmet_eq_zero : unmet edges done item = 0 ↔ ∀ other, (item, other) ∈ edges → other ∈ done := by
  rw [unmet, countP_eq_zero]
  constructor
  · intro none other member
    by_contra absent
    exact none (item, other) member (decide_eq_true ⟨rfl, absent⟩)
  · rintro met ⟨source, other⟩ member waits
    obtain ⟨rfl, absent⟩ := of_decide_eq_true waits
    exact absent (met other member)

/-- What an item no longer waits for once another is done. -/
theorem unmet_snoc (fresh : last ∉ done) :
    unmet edges done item = unmet edges (done ++ [last]) item + meets edges last item := by
  unfold unmet meets
  induction edges with
  | nil => rfl
  | cons edge rest ih =>
    have here : (if decide (edge.1 = item ∧ edge.2 ∉ done) = true then 1 else 0) =
        (if decide (edge.1 = item ∧ edge.2 ∉ done ++ [last]) = true then 1 else 0) +
          if decide (edge.1 = item ∧ edge.2 = last) = true then 1 else 0 := by
      by_cases same : edge.1 = item
      · by_cases now : edge.2 = last
        · simp [same, now, fresh]
        · simp [same, now]
      · simp [same]
    rw [countP_cons, countP_cons, countP_cons, ih, here]
    omega

end Counting

end PooleOS
