import Mathlib

/- Histories of a fallible step: the accepted calls of a run, each with the state that it found. -/
namespace PooleOS

open List

variable {σ α β ε : Type}

structure Entry (σ α β : Type) where
  before : σ
  call : α
  answer : β

/-- The accepted calls of a run. `after` reads the next state off an answer. -/
def history (step : σ → α → Except ε β) (after : β → σ) : σ → List α → List (Entry σ α β)
  | _, [] => []
  | s, call :: rest =>
    match step s call with
    | .ok answer => ⟨s, call, answer⟩ :: history step after (after answer) rest
    | .error _ => history step after s rest

section Rules

variable {step : σ → α → Except ε β} {after : β → σ} (inv : σ → Prop) (fits : α → Prop)

/-- The induction over the accepted calls of a run: each keeps the invariant, and a failed one leaves no entry. -/
theorem history_induct {motive : σ → List (Entry σ α β) → Prop} (none : ∀ s, motive s [])
    (accepted : ∀ s call answer, inv s → fits call → step s call = .ok answer → inv (after answer) ∧
      ∀ later, motive (after answer) later → motive s (⟨s, call, answer⟩ :: later)) (calls : List α) :
    ∀ s, inv s → (∀ call ∈ calls, fits call) → motive s (history step after s calls) := by
  induction calls with
  | nil => exact fun s _ _ => none s
  | cons call rest ih =>
    intro s holds fit
    obtain ⟨head, tail⟩ := forall_mem_cons.mp fit
    rw [history]
    split
    · rename_i answer ok
      obtain ⟨kept, next⟩ := accepted s call answer holds head ok
      exact next _ (ih _ kept tail)
    · exact ih s holds tail

/-- What one accepted call shows and keeps, every entry of a run shows. -/
theorem history_all {fact : Entry σ α β → Prop} (each : ∀ s call answer, inv s → fits call → step s call = .ok answer →
      fact ⟨s, call, answer⟩ ∧ inv (after answer)) : ∀ (calls : List α) (s : σ), inv s → (∀ call ∈ calls, fits call) → ∀
    entry ∈ history step after s calls, fact entry := by
  refine @history_induct _ _ _ _ _ _ inv fits (fun _ entries => ∀ entry ∈ entries, fact entry) (fun _ => nofun) ?_
  intro s call answer holds fit ok
  obtain ⟨shown, kept⟩ := each s call answer holds fit ok
  exact ⟨kept, fun later ih => forall_mem_cons.mpr ⟨shown, ih⟩⟩

/-- Entries that each use up a budget are at most as many as the budget. -/
theorem history_count {counted : Entry σ α β → Bool} {budget : σ → Nat}
    (each : ∀ s call answer, inv s → fits call → step s call = .ok answer →
      (if counted ⟨s, call, answer⟩ then 1 else 0) + budget (after answer) ≤ budget s ∧ inv (after answer)) : ∀
    (calls : List α) (s : σ), inv s → (∀ call ∈ calls, fits call) → (history step after s calls).countP counted ≤ budget
    s := by
  refine @history_induct _ _ _ _ _ _ inv fits (fun s entries => entries.countP counted ≤ budget s)
    (fun _ => Nat.zero_le _) ?_
  intro s call answer holds fit ok
  obtain ⟨spent, kept⟩ := each s call answer holds fit ok
  refine ⟨kept, fun later ih => ?_⟩
  rw [countP_cons]
  omega

/-- A measure that no accepted call lowers orders the entries of a run. -/
theorem history_ordered {measure : σ → Nat} (each : ∀ s call answer, inv s → fits call → step s call = .ok answer →
      measure s ≤ measure (after answer) ∧ inv (after answer)) : ∀ (calls : List α) (s : σ), inv s →
    (∀ call ∈ calls, fits call) → (∀ entry ∈ history step after s calls, measure s ≤ measure entry.before) ∧
    (history step after s calls).Pairwise (fun first second => measure (after first.answer) ≤ measure second.before)
    := by
  refine @history_induct _ _ _ _ _ _ inv fits (fun s entries => (∀ entry ∈ entries, measure s ≤ measure entry.before) ∧
    entries.Pairwise fun first second => measure (after first.answer) ≤ measure second.before) (fun _ => ⟨nofun, .nil⟩) ?_
  intro s call answer holds fit ok
  obtain ⟨grows, kept⟩ := each s call answer holds fit ok
  refine ⟨kept, fun later ⟨above, ordered⟩ => ?_⟩
  exact ⟨forall_mem_cons.mpr ⟨Nat.le_refl _, fun entry member => Nat.le_trans grows (above entry member)⟩,
    pairwise_cons.mpr ⟨above, ordered⟩⟩

/-- Entries that raise a level and entries that lower it balance at every place of a run. -/
theorem history_balance {up down : Entry σ α β → Bool} {level : σ → Nat}
    (each : ∀ s call answer, inv s → fits call → step s call = .ok answer →
      level s + (if up ⟨s, call, answer⟩ then 1 else 0) =
        level (after answer) + (if down ⟨s, call, answer⟩ then 1 else 0) ∧ inv (after answer)) : ∀ (calls : List α)
    (s : σ), inv s → (∀ call ∈ calls, fits call) → ∀ before entry later, history step after s calls = before ++ entry ::
    later → level s + before.countP up = level entry.before + before.countP down := by
  refine @history_induct _ _ _ _ _ _ inv fits (fun s entries => ∀ before entry later, entries = before ++ entry :: later →
    level s + before.countP up = level entry.before + before.countP down)
    (fun _ before _ _ split => absurd split.symm (by simp)) ?_
  intro s call answer holds fit ok
  obtain ⟨balanced, kept⟩ := each s call answer holds fit ok
  refine ⟨kept, fun later ih before entry rest split => ?_⟩
  cases before with
  | nil =>
    obtain ⟨rfl, -⟩ := cons.inj split
    rfl
  | cons first others =>
    obtain ⟨rfl, others_split⟩ := cons.inj split
    have behind := ih others entry rest others_split
    rw [countP_cons, countP_cons]
    omega

/-- A flag that only some entries raise was raised by one of them. -/
theorem history_raised {flag : σ → Prop} {raises : Entry σ α β → Prop}
    (each : ∀ s call answer, inv s → fits call → step s call = .ok answer →
      (flag (after answer) → raises ⟨s, call, answer⟩) ∧ inv (after answer)) : ∀ (calls : List α) (s : σ), inv s →
    (∀ call ∈ calls, fits call) → ∀ before entry later, history step after s calls = before ++ entry :: later → flag
    entry.before → flag s ∧ entry.before = s ∧ before = [] ∨ ∃ earlier ∈ before, raises earlier ∧ after earlier.answer =
    entry.before := by
  refine @history_induct _ _ _ _ _ _ inv fits (fun s entries => ∀ before entry later, entries = before ++ entry :: later →
    flag entry.before → flag s ∧ entry.before = s ∧ before = [] ∨
      ∃ earlier ∈ before, raises earlier ∧ after earlier.answer = entry.before)
    (fun _ before _ _ split => absurd split.symm (by simp)) ?_
  intro s call answer holds fit ok
  obtain ⟨only, kept⟩ := each s call answer holds fit ok
  refine ⟨kept, fun later ih before entry rest split raised => ?_⟩
  cases before with
  | nil =>
    obtain ⟨rfl, -⟩ := cons.inj split
    exact .inl ⟨raised, rfl, rfl⟩
  | cons first others =>
    obtain ⟨rfl, others_split⟩ := cons.inj split
    right
    rcases ih others entry rest others_split raised with ⟨here, same, -⟩ | ⟨earlier, member, found⟩
    · exact ⟨_, mem_cons_self .., only here, same.symm⟩
    · exact ⟨earlier, mem_cons_of_mem _ member, found⟩

end Rules

end PooleOS
