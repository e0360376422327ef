import PooleOS.Lib.Result

/- Lists built one item at a time. A loop whose rounds read one item each, under a rule
on what was read before it, builds exactly the lists that keep the rule throughout. -/
namespace PooleOS

open List

variable {ε α β : Type} {rule : List α → α → Prop}

/-- Lists in which every item keeps a rule on what stands before it. -/
inductive Collected (rule : List α → α → Prop) : List α → Prop
  | nil : Collected rule []
  | snoc {front : List α} {item : α} (earlier : Collected rule front) (fits : rule front item) :
      Collected rule (front ++ [item])

theorem Collected.all {fact : α → Prop} {items : List α} (collected : Collected rule items)
    (each : ∀ front item, rule front item → fact item) : ∀ item ∈ items, fact item := by
  induction collected with
  | nil => exact fun _ member => nomatch member
  | @snoc front item _ fits ih =>
    intro other member
    rcases mem_append.mp member with early | last
    · exact ih other early
    · rw [mem_singleton.mp last]
      exact each front item fits

/-- A relation to everything read before. -/
theorem Collected.pairwise {related : α → α → Prop} {items : List α} (collected : Collected rule items)
    (each : ∀ front item, rule front item → ∀ other ∈ front, related other item) : items.Pairwise related := by
  induction collected with
  | nil => exact .nil
  | @snoc front item _ fits ih =>
    refine pairwise_append.mpr ⟨ih, pairwise_singleton .., fun other early last member => ?_⟩
    rw [mem_singleton.mp member]
    exact each front item fits other early

/-- A transitive relation to what was read last holds to everything before. -/
theorem Collected.ascending (related : α → α → Prop)
    (trans : ∀ {one two three}, related one two → related two three → related one three)
    {items : List α} (collected : Collected rule items)
    (each : ∀ front item, rule front item → ∀ last, front.getLast? = some last → related last item) :
    items.Pairwise related := by
  induction collected with
  | nil => exact .nil
  | @snoc front item earlier fits ih =>
    refine pairwise_append.mpr ⟨ih, pairwise_singleton .., fun other early final member => ?_⟩
    rw [mem_singleton.mp member]
    rcases eq_nil_or_concat front with rfl | ⟨before, last, rfl⟩
    · exact nomatch early
    · rw [concat_eq_append] at ih early fits
      have near := each _ item fits last getLast?_concat
      rcases mem_append.mp early with further | same
      · exact trans ((pairwise_append.mp ih).2.2 other further last (mem_singleton_self _)) near
      · rw [mem_singleton.mp same]
        exact near

/-- The order to what was read last, as a loop checks it that starts from an empty name. -/
theorem Collected.order_iff {β : Type} [LT β] {name : α → List β} {next : List β} {items : List α}
    (collected : Collected rule items) (filled : ∀ front item, rule front item → name item ≠ []) :
    ¬ ((items.getLast?.map name).getD [] ≠ [] ∧ ¬ (items.getLast?.map name).getD [] < next) ↔
      ∀ last, items.getLast? = some last → name last < next := by
  cases found : items.getLast? with
  | none => simp
  | some last => simp [collected.all filled last (mem_of_getLast? found)]

theorem Collected.of_split {items : List α}
    (each : ∀ front item back, items = front ++ item :: back → rule front item) : Collected rule items := by
  induction items using reverseRecOn with
  | nil => exact .nil
  | append_singleton front item ih =>
    refine .snoc (ih fun before one behind same => ?_) (each front item [] rfl)
    refine each before one (behind ++ [item]) ?_
    rw [same, append_assoc, cons_append]

section Chunks

variable {γ : Type} {chunk : α → List γ} {text : List γ} {size : Nat}

/-- A rule that reads each item from the next chunk of a text reads the front of the text. -/
theorem Collected.chunks {items : List α} (collected : Collected rule items)
    (each : ∀ front item, rule front item → (text.drop (size * front.length)).take size = chunk item) :
    text.take (size * items.length) = items.flatMap chunk := by
  induction collected with
  | nil => rw [length_nil, Nat.mul_zero, take_zero, flatMap_nil]
  | @snoc front item _ fits ih =>
    rw [length_append, length_singleton, Nat.mul_add, Nat.mul_one, take_add, ih, each front item fits,
      flatMap_append, flatMap_singleton]

theorem chunk_of_split (sized : ∀ item, (chunk item).length = size) (front : List α) (item : α) (back : List α) :
    (((front ++ item :: back).flatMap chunk).drop (size * front.length)).take size = chunk item := by
  have length : (front.flatMap chunk).length = size * front.length := by
    simp [sized, Nat.mul_comm]
  rw [flatMap_append, flatMap_cons, drop_left' length, take_left' (sized item)]

end Chunks

/-- A loop that reads one item a round. -/
theorem collect_eq_ok {body : β → Nat → Except ε β} {state : List α → β} :
    ∀ {count : Nat}, (∀ front next, Collected rule front → front.length < count →
      (body (state front) front.length = .ok next ↔ ∃ item, rule front item ∧ next = state (front ++ [item]))) →
      ∀ last, (range count).foldlM body (state []) = .ok last ↔
        ∃ items, (Collected rule items ∧ items.length = count) ∧ last = state items
  | 0, _, last => by
      rw [range_zero, foldlM_nil, pure_eq_ok]
      constructor
      · exact fun same => ⟨[], ⟨.nil, rfl⟩, same⟩
      · rintro ⟨items, ⟨-, empty⟩, same⟩
        rw [same, length_eq_zero_iff.mp empty]
  | count + 1, round, last => by
      have before := fun last => show (range count).foldlM body (state []) = .ok last ↔ _ from
        collect_eq_ok (fun front next collected less => round front next collected (by omega)) last
      have single : ∀ state, [count].foldlM body state = body state count := fun state => by
        rw [foldlM_cons]
        exact bind_pure _
      rw [range_succ, foldlM_append, bind_eq_ok_iff]
      simp only [before, single]
      constructor
      · rintro ⟨_, ⟨front, ⟨collected, length⟩, rfl⟩, ran⟩
        rw [← length] at ran
        obtain ⟨item, fits, same⟩ := (round front last collected (by omega)).mp ran
        refine ⟨front ++ [item], ⟨collected.snoc fits, ?_⟩, same⟩
        rw [length_append, length, length_singleton]
      · rintro ⟨items, ⟨collected, length⟩, rfl⟩
        cases collected with
        | nil => exact absurd length (by simp)
        | @snoc front item earlier fits =>
          rw [length_append, length_singleton] at length
          have short : front.length = count := by omega
          refine ⟨_, ⟨front, ⟨earlier, short⟩, rfl⟩, ?_⟩
          rw [← short]
          exact (round front _ earlier (by omega)).mpr ⟨item, fits, rfl⟩

end PooleOS
