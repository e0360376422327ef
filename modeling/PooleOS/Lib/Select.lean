import PooleOS.Lib.Op

/- Selection of the first best item of a list by a scan with one incumbent. -/
namespace PooleOS

open List

variable {I K ε : Type} [LinearOrder K] {rank : I → K}

/-- The scan compares each further item with the best so far. -/
theorem scan_argmax {step : Nat → Nat → Except ε Nat} {items : List I} (nonempty : 0 < items.length)
    (each : ∀ selected cursor : Fin items.length, step selected.val cursor.val =
      .ok (if rank (items.get selected) < rank (items.get cursor) then cursor.val else selected.val)) : ∃ index
    : Fin items.length, (range' 1 (items.length - 1)).foldlM step 0 = .ok index.val ∧
        items.argmax rank = some (items.get index) := by
  obtain ⟨result, folded, index, same, best⟩ := foldlM_range_ok step 1 (items.length - 1) 0
    (fun cursor selected => ∃ index : Fin items.length, selected = index.val ∧
      (items.take cursor).argmax rank = some (items.get index))
    (by
      intro cursor selected _ before ⟨index, same, best⟩
      have inside : cursor < items.length := by omega
      have compared := each index ⟨cursor, inside⟩
      have grown : items.take (cursor + 1) = items.take cursor ++ [items.get ⟨cursor, inside⟩] :=
        take_succ_eq_append_getElem inside
      subst same
      refine ⟨_, compared, ?_⟩
      rw [grown, argmax_concat, best]
      dsimp only
      split
      · exact ⟨⟨cursor, inside⟩, rfl, rfl⟩
      · exact ⟨index, rfl, rfl⟩)
    (by
      refine ⟨⟨0, nonempty⟩, rfl, ?_⟩
      cases items with
      | nil => cases nonempty
      | cons first rest => rfl)
  have whole : 1 + (items.length - 1) = items.length := by omega
  rw [whole, take_length] at best
  exact ⟨index, by rw [folded, same], best⟩

/-- The choice depends on the ranks of the listed items alone. -/
theorem argmax_congr {other : I → K} {items : List I}
    (same : ∀ item ∈ items, rank item = other item) : items.argmax rank = items.argmax other := by
  induction items with
  | nil => rfl
  | cons first rest ih =>
    have tail := ih (fun item member => same item (mem_cons_of_mem first member))
    rw [argmax_cons, argmax_cons, ← tail]
    cases best : rest.argmax rank with
    | none => rfl
    | some rival =>
      dsimp only
      rw [same first (mem_cons_self ..), same rival (mem_cons_of_mem first (argmax_mem best))]

/-- The first best item of a list is the first best of any part that keeps it. -/
theorem argmax_sublist {part items : List I} (inside : part.Sublist items) (distinct : items.Nodup) {chosen : I}
    (best : items.argmax rank = some chosen) (kept : chosen ∈ part) : part.argmax rank = some chosen := by
  induction inside with
  | slnil => cases kept
  | @cons part items first inside ih =>
    rw [nodup_cons] at distinct
    rw [argmax_cons] at best
    have elsewhere : chosen ≠ first := by
      rintro rfl
      exact distinct.1 (inside.subset kept)
    cases rest : items.argmax rank with
    | none =>
      rw [rest] at best
      exact absurd (Option.some.inj best).symm elsewhere
    | some other =>
      rw [rest] at best
      dsimp only at best
      split at best
      · exact ih distinct.2 (rest.trans best) kept
      · exact absurd (Option.some.inj best).symm elsewhere
  | @cons_cons part items first inside ih =>
    rw [nodup_cons] at distinct
    rw [argmax_cons] at best ⊢
    cases rest : items.argmax rank with
    | none =>
      rw [argmax_eq_none] at rest
      subst rest
      rw [sublist_nil.mp inside]
      exact best
    | some other =>
      rw [rest] at best
      dsimp only at best
      split at best
      · rename_i better
        obtain rfl := Option.some.inj best
        have member : other ∈ items := argmax_mem rest
        have here : other ∈ part := by
          rcases mem_cons.mp kept with same | here
          · exact absurd (same ▸ member) distinct.1
          · exact here
        rw [ih distinct.2 rest here]
        dsimp only
        rw [if_pos better]
      · rename_i worse
        obtain rfl := Option.some.inj best
        cases shorter : part.argmax rank with
        | none => rfl
        | some rival =>
          have member : rival ∈ items := inside.subset (argmax_mem shorter)
          have below : rank rival ≤ rank other := le_of_mem_argmax member rest
          dsimp only
          rw [if_neg (not_lt.mpr (le_trans below (not_lt.mp worse)))]

end PooleOS
