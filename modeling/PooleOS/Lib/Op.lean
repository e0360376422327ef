import Mathlib

/- Fallible methods on a mutable state. A method that fails keeps whatever it
had already written, so the state left behind is part of the result on both
branches; nothing is rolled back unless the method itself does so. -/
namespace PooleOS

open List

-- The numerals of small finite types share one proof.
instance neZero2 : NeZero 2 := ⟨by decide⟩
instance neZero3 : NeZero 3 := ⟨by decide⟩
instance neZero4 : NeZero 4 := ⟨by decide⟩

variable {σ ε α β ι : Type}

/-- A method `&mut self -> Result<α, ε>`: its result and the state it leaves. -/
structure Op (σ ε α : Type) where
  run : σ → Except ε α × σ

namespace Op

instance : Monad (Op σ ε) where
  pure value := ⟨fun s => (.ok value, s)⟩
  bind first next := ⟨fun s =>
    match first.run s with
    | (.ok value, s') => (next value).run s'
    | (.error reason, s') => (.error reason, s')⟩

/-- The receiver itself. -/
def read : Op σ ε σ := ⟨fun s => (.ok s, s)⟩

/-- An infallible assignment to the receiver. -/
def update (f : σ → σ) : Op σ ε Unit := ⟨fun s => (.ok (), f s)⟩

/-- `return Err(reason)`. -/
def fail (reason : ε) : Op σ ε α := ⟨fun s => (.error reason, s)⟩

/-- `if !condition { return Err(reason) }`. -/
def ensure (condition : Prop) [Decidable condition] (reason : ε) : Op σ ε Unit :=
  ⟨fun s => (if condition then .ok () else .error reason, s)⟩

/-- The `?` operator on a result that does not touch the receiver. -/
def lift (result : Except ε α) : Op σ ε α := ⟨fun s => (result, s)⟩

/-- `if condition { method }`. -/
def when (condition : Prop) [Decidable condition] (method : Op σ ε Unit) : Op σ ε Unit :=
  if condition then method else pure ()

/-- `if let Some(value) = option { method }`. -/
def whenSome (option : Option α) (method : α → Op σ ε Unit) : Op σ ε Unit :=
  match option with
  | some value => method value
  | none => pure ()

/-- A `for` loop whose body may leave through `?`. -/
def forEach (items : List ι) (body : ι → Op σ ε Unit) : Op σ ε Unit :=
  match items with
  | [] => pure ()
  | item :: rest => do
      body item
      forEach rest body

/-- `let mut next = *self; let value = next.method()?; *self = next; Ok(value)`. -/
def transact (method : Op σ ε α) : Op σ ε α := ⟨fun s =>
  match method.run s with
  | (.ok value, s') => (.ok value, s')
  | (.error reason, _) => (.error reason, s)⟩

/-- `let mut next = *self; let result = next.method();` and `*self = next` when the result is
`Ok` or one of the visible errors. -/
def publish (visible : ε → Prop) [DecidablePred visible] (method : Op σ ε α) : Op σ ε α := ⟨fun s =>
  match method.run s with
  | (.ok value, s') => (.ok value, s')
  | (.error reason, s') => (.error reason, if visible reason then s' else s)⟩

/-- `let mut trial = *self; trial.method()?;`: only the failure matters. -/
def dryRun (method : Op σ ε α) : Op σ ε α := ⟨fun s => ((method.run s).1, s)⟩

/-- A call whose result is looked at and not passed on. -/
def attempt (method : Op σ ε α) : Op σ ε (Except ε α) :=
  ⟨fun s => (.ok (method.run s).1, (method.run s).2)⟩

/-- A method of one field of the receiver. -/
def within {τ : Type} (get : τ → σ) (put : σ → τ → τ) (method : Op σ ε α) : Op τ ε α := ⟨fun t =>
  ((method.run (get t)).1, put (method.run (get t)).2 t)⟩

/-- `if let Err(reason) = method { handler }`. -/
def onError (method : Op σ ε α) (handler : ε → Op σ ε α) : Op σ ε α := ⟨fun s =>
  match method.run s with
  | (.ok value, s') => (.ok value, s')
  | (.error reason, s') => (handler reason).run s'⟩

/-- `method.map_err(change)`. -/
def mapError {δ : Type} (change : ε → δ) (method : Op σ ε α) : Op σ δ α :=
  ⟨fun s => ((method.run s).1.mapError change, (method.run s).2)⟩

/-- Weakest precondition, with separate conditions for `Ok` and `Err`. -/
def wp (method : Op σ ε α) (done : α → σ → Prop) (failed : ε → σ → Prop) (s : σ) : Prop :=
  match method.run s with
  | (.ok value, s') => done value s'
  | (.error reason, s') => failed reason s'

section Run

variable (s : σ)

@[simp] theorem run_pure (value : α) : (pure value : Op σ ε α).run s = (.ok value, s) := rfl

theorem run_bind (first : Op σ ε α) (next : α → Op σ ε β) :
    (first >>= next).run s =
      match first.run s with
      | (.ok value, s') => (next value).run s'
      | (.error reason, s') => (.error reason, s') := rfl

variable {s' : σ}

theorem run_bind_ok {first : Op σ ε α} {next : α → Op σ ε β} {value : α}
    (run : first.run s = (.ok value, s')) : (first >>= next).run s = (next value).run s' := by
  rw [run_bind, run]

variable {reason : ε}

theorem run_bind_error {first : Op σ ε α} {next : α → Op σ ε β} (run : first.run s = (.error reason, s')) :
    (first >>= next).run s = (.error reason, s') := by
  rw [run_bind, run]

@[simp] theorem run_read : (read : Op σ ε σ).run s = (.ok s, s) := rfl

@[simp] theorem run_update (f : σ → σ) : (update f : Op σ ε Unit).run s = (.ok (), f s) := rfl

@[simp] theorem run_fail (reason : ε) : (fail reason : Op σ ε α).run s = (.error reason, s) := rfl

@[simp] theorem run_lift (result : Except ε α) : (lift result : Op σ ε α).run s = (result, s) := rfl

theorem run_ensure (condition : Prop) [Decidable condition] (reason : ε) :
    (ensure condition reason : Op σ ε Unit).run s = (if condition then .ok () else .error reason, s) := rfl

theorem run_ensure_pass {condition : Prop} [Decidable condition] (holds : condition) :
    (ensure condition reason : Op σ ε Unit).run s = (.ok (), s) := by
  rw [run_ensure, if_pos holds]

theorem run_ensure_stop {condition : Prop} [Decidable condition] (fails : ¬ condition) :
    (ensure condition reason : Op σ ε Unit).run s = (.error reason, s) := by
  rw [run_ensure, if_neg fails]

theorem run_onError_ok {method : Op σ ε α} {handler : ε → Op σ ε α} {value : α}
    (run : method.run s = (.ok value, s')) : (onError method handler).run s = (.ok value, s') := by
  unfold onError
  simp only [run]

theorem run_onError_error {method : Op σ ε α} {handler : ε → Op σ ε α} (run : method.run s = (.error reason, s')) :
    (onError method handler).run s = (handler reason).run s' := by
  unfold onError
  simp only [run]

end Run

section Laws

theorem ext_run {first second : Op σ ε α} (same : ∀ s, first.run s = second.run s) : first = second := by
  exact congrArg Op.mk (funext same)

instance : LawfulMonad (Op σ ε) := LawfulMonad.mk' (Op σ ε)
  (fun method => ext_run fun s => by
    change (method >>= pure).run s = method.run s
    rw [run_bind]
    rcases method.run s with ⟨reason | value, s'⟩ <;> rfl)
  (fun _ _ => rfl)
  (fun method next last => ext_run fun s => by
    simp only [run_bind]
    rcases method.run s with ⟨reason | value, s'⟩ <;> rfl)

end Laws

section Rules

variable {done : α → σ → Prop} {failed : ε → σ → Prop} {s : σ}

@[simp] theorem wp_pure (value : α) : wp (pure value : Op σ ε α) done failed s ↔ done value s := .rfl

@[simp] theorem wp_bind {next : β → Op σ ε α} (first : Op σ ε β) : wp (first >>= next) done failed s ↔
      wp first (fun value s' => wp (next value) done failed s') failed s := by
  unfold wp
  rw [run_bind]
  rcases first.run s with ⟨reason | value, s'⟩ <;> rfl

@[simp] theorem wp_read {done : σ → σ → Prop} : wp (read : Op σ ε σ) done failed s ↔ done s s := .rfl

@[simp] theorem wp_update {done : Unit → σ → Prop} (f : σ → σ) :
    wp (update f : Op σ ε Unit) done failed s ↔ done () (f s) := .rfl

@[simp] theorem wp_fail (reason : ε) : wp (fail reason : Op σ ε α) done failed s ↔ failed reason s := .rfl

theorem wp_ensure {done : Unit → σ → Prop} (condition : Prop) [Decidable condition] (reason : ε) :
    wp (ensure condition reason : Op σ ε Unit) done failed s ↔
      (condition → done () s) ∧ (¬ condition → failed reason s) := by
  unfold wp
  rw [run_ensure]
  by_cases holds : condition <;> simp [holds]

theorem wp_ensure_intro {done : Unit → σ → Prop} {condition : Prop} {_ : Decidable condition}
    {reason : ε} (pass : condition → done () s) (stop : ¬ condition → failed reason s) :
    wp (ensure condition reason : Op σ ε Unit) done failed s :=
  (wp_ensure condition reason).mpr ⟨pass, stop⟩

theorem wp_when_intro {done : Unit → σ → Prop} {condition : Prop} [Decidable condition]
    {method : Op σ ε Unit} (taken : condition → wp method done failed s)
    (skipped : ¬ condition → done () s) : wp (when condition method) done failed s := by
  unfold when
  split
  · rename_i holds
    exact taken holds
  · rename_i fails
    exact skipped fails

@[simp] theorem wp_whenSome_some {done : Unit → σ → Prop} (value : α) (method : α → Op σ ε Unit) :
    wp (whenSome (some value) method) done failed s ↔ wp (method value) done failed s := .rfl

@[simp] theorem wp_whenSome_none {done : Unit → σ → Prop} (method : α → Op σ ε Unit) :
    wp (whenSome none method) done failed s ↔ done () s := .rfl

@[simp] theorem wp_lift_ok (value : α) : wp (lift (.ok value) : Op σ ε α) done failed s ↔ done value s := .rfl

@[simp] theorem wp_lift_error (reason : ε) :
    wp (lift (.error reason) : Op σ ε α) done failed s ↔ failed reason s := .rfl

theorem wp_lift (result : Except ε α) : wp (lift result : Op σ ε α) done failed s ↔
      (∀ value, result = .ok value → done value s) ∧ (∀ reason, result = .error reason → failed reason s) := by
  cases result <;> simp

theorem wp_lift_intro {result : Except ε α} (pass : ∀ value, result = .ok value → done value s)
    (stop : ∀ reason, result = .error reason → failed reason s) :
    wp (lift result : Op σ ε α) done failed s :=
  (wp_lift result).mpr ⟨pass, stop⟩

variable {method : Op σ ε α}

/-- Weakening both conditions. -/
theorem wp_mono {done' : α → σ → Prop} {failed' : ε → σ → Prop} (holds : wp method done failed s)
    (onOk : ∀ value s', done value s' → done' value s') (onErr : ∀ reason s', failed reason s' → failed' reason s') :
    wp method done' failed' s := by
  unfold wp at holds ⊢
  split
  · rename_i value s' run
    rw [run] at holds
    exact onOk value s' holds
  · rename_i reason s' run
    rw [run] at holds
    exact onErr reason s' holds

/-- A condition on the state alone, whatever the result. -/
theorem wp_state {condition : σ → Prop} :
    wp method (fun _ => condition) (fun _ => condition) s ↔ condition (method.run s).2 := by
  unfold wp
  split <;> simp_all

theorem wp_iff : wp method done failed s ↔ (∀ value, (method.run s).1 = .ok value → done value (method.run s).2) ∧
        (∀ reason, (method.run s).1 = .error reason → failed reason (method.run s).2) := by
  unfold wp
  rcases method.run s with ⟨reason | value, s'⟩ <;> simp

/-- A method that cannot fail returns. -/
theorem wp_returns (holds : wp method done failed s) (passes : ∀ reason s', ¬ failed reason s') :
    ∃ value s', method.run s = (.ok value, s') ∧ done value s' := by
  unfold wp at holds
  rcases run : method.run s with ⟨reason | value, s'⟩ <;> rw [run] at holds
  · exact absurd holds (passes reason s')
  · exact ⟨value, s', rfl, holds⟩

/-- A method that cannot return fails. -/
theorem wp_fails (holds : wp method done failed s) (stops : ∀ value s', ¬ done value s') :
    ∃ reason s', method.run s = (.error reason, s') ∧ failed reason s' := by
  unfold wp at holds
  rcases run : method.run s with ⟨reason | value, s'⟩ <;> rw [run] at holds
  · exact ⟨reason, s', rfl, holds⟩
  · exact absurd holds (stops value s')

/-- A discarded failure leaves the receiver alone. -/
theorem wp_transact (holds : wp method done (fun reason _ => failed reason s) s) :
    wp (transact method) done failed s := by
  unfold wp at holds
  unfold wp transact
  rcases run : method.run s with ⟨reason | value, s'⟩ <;> simpa [run] using holds

/-- A hidden failure leaves the receiver alone. -/
theorem wp_publish {visible : ε → Prop} [DecidablePred visible]
    (holds : wp method done (fun reason s' => (visible reason → failed reason s') ∧
      (¬ visible reason → failed reason s)) s) : wp (publish visible method) done failed s := by
  unfold wp at holds
  unfold wp publish
  rcases run : method.run s with ⟨reason | value, s'⟩ <;> simp only [run] at holds ⊢
  · split
    · rename_i shown
      exact holds.1 shown
    · rename_i hidden
      exact holds.2 hidden
  · exact holds

/-- A trial decides by its result alone. -/
theorem wp_dryRun : wp (dryRun method) done failed s ↔
      wp method (fun value _ => done value s) (fun reason _ => failed reason s) s := by
  unfold wp dryRun
  rcases run : method.run s with ⟨reason | value, s'⟩ <;> simp only [run]

theorem wp_onError {handler : ε → Op σ ε α} : wp (onError method handler) done failed s ↔
      wp method done (fun reason s' => wp (handler reason) done failed s') s := by
  unfold wp onError
  rcases run : method.run s with ⟨reason | value, s'⟩ <;> simp only [run]

theorem wp_mapError {δ : Type} {change : ε → δ} {failed : δ → σ → Prop} : wp (mapError change method) done failed s ↔
      wp method done (fun reason s' => failed (change reason) s') s := by
  unfold wp mapError
  rcases run : method.run s with ⟨reason | value, s'⟩ <;> simp only [run, Except.mapError]

theorem wp_within {τ : Type} {get : τ → σ} {put : σ → τ → τ} {done : α → τ → Prop} {failed : ε → τ → Prop} {t : τ} :
    wp (within get put method) done failed t ↔
      wp method (fun value s' => done value (put s' t)) (fun reason s' => failed reason (put s' t)) (get t) := by
  unfold wp within
  rcases run : method.run (get t) with ⟨reason | value, s'⟩ <;> simp only [run]

@[simp] theorem wp_attempt {done : Except ε α → σ → Prop} :
    wp (attempt method) done failed s ↔ done (method.run s).1 (method.run s).2 := .rfl

/-- A loop invariant over the items still to come. -/
theorem wp_forEach {body : ι → Op σ ε Unit} {failed : ε → σ → Prop} (invariant : List ι → σ → Prop)
    (each : ∀ item rest s, invariant (item :: rest) s → wp (body item) (fun _ => invariant rest) failed s) : ∀
    (items : List ι) (s : σ), invariant items s → wp (forEach items body) (fun _ => invariant []) failed s := by
  intro items
  induction items with
  | nil => exact fun s holds => holds
  | cons item rest ih =>
    intro s holds
    rw [forEach, wp_bind]
    exact wp_mono (each item rest s holds) (fun _ s' kept => ih s' kept)
      (fun _ _ kept => kept)

theorem range'_rest {cursor count item : Nat} {rest : List Nat} (remaining : item :: rest = range' cursor (count - cursor)) :
    item = cursor ∧ cursor < count ∧ rest = range' (cursor + 1) (count - (cursor + 1)) := by
  have more : cursor < count := by
    by_contra done
    have empty : count - cursor = 0 := by omega
    rw [empty, range'_zero] at remaining
    cases remaining
  have next : count - cursor = (count - (cursor + 1)) + 1 := by omega
  rw [next, range'_succ, cons.injEq] at remaining
  exact ⟨remaining.1, more, remaining.2⟩

/-- A loop over `0..count` whose invariant is indexed by the cursor. -/
theorem wp_forEach_range {body : Nat → Op σ ε Unit} {count : Nat} (failed : ε → σ → Prop) (invariant : Nat → σ → Prop)
    (each : ∀ cursor s, cursor < count → invariant cursor s →
      wp (body cursor) (fun _ => invariant (cursor + 1)) failed s) (start : invariant 0 s) :
    wp (forEach (range count) body) (fun _ => invariant count) failed s := by
  have whole := @wp_forEach _ _ _ body failed
    (fun rest s' => ∃ cursor, cursor ≤ count ∧ rest = range' cursor (count - cursor) ∧ invariant cursor s')
    (by
      intro item rest s' ⟨cursor, within, remaining, holds⟩
      obtain ⟨rfl, more, tail⟩ := range'_rest remaining
      refine wp_mono (each item s' more holds) (fun _ s'' kept => ?_) (fun _ _ kept => kept)
      exact ⟨item + 1, more, tail, kept⟩)
    (range count) s ⟨0, Nat.zero_le _, by simp [range_eq_range'], start⟩
  refine wp_mono whole (fun _ s' kept => ?_) (fun _ _ kept => kept)
  obtain ⟨cursor, within, remaining, holds⟩ := kept
  have finished : count - cursor = 0 := by
    simpa using (congrArg length remaining).symm
  have last : cursor = count := by omega
  exact last ▸ holds

/-- A loop that carries a value, with an invariant over the items still to come. -/
theorem wp_foldlM {body : β → ι → Op σ ε β} {failed : ε → σ → Prop} (invariant : List ι → σ → Prop)
    (each : ∀ value item rest s, invariant (item :: rest) s → wp (body value item) (fun _ => invariant rest) failed s) :
    ∀ (items : List ι) (value : β) (s : σ), invariant items s → wp (items.foldlM body value) (fun _ => invariant [])
    failed s := by
  intro items
  induction items with
  | nil => exact fun _ s holds => holds
  | cons item rest ih =>
    intro value s holds
    rw [foldlM_cons, wp_bind]
    exact wp_mono (each value item rest s holds) (fun next s' kept => ih next s' kept)
      (fun _ _ kept => kept)

end Rules

section Success

variable {next : β → Op σ ε α} {first : Op σ ε β} {value : α} {s s' : σ}

/-- A success of two methods in sequence is a success of each. -/
theorem run_bind_eq_ok : (first >>= next).run s = (.ok value, s') ↔
    ∃ middle s₁, first.run s = (.ok middle, s₁) ∧ (next middle).run s₁ = (.ok value, s') := by
  rw [run_bind]
  rcases first.run s with ⟨reason | middle, s₁⟩ <;> simp

theorem run_pure_eq_ok {given : α} : (pure given : Op σ ε α).run s = (.ok value, s') ↔ given = value ∧ s = s' := by
  simp

theorem run_read_eq_ok {value : σ} : (read : Op σ ε σ).run s = (.ok value, s') ↔ s = value ∧ s = s' := by
  simp

theorem run_update_eq_ok {f : σ → σ} {done : Unit} : (update f : Op σ ε Unit).run s = (.ok done, s') ↔ f s = s' := by
  simp

theorem run_lift_eq_ok {result : Except ε α} :
    (lift result : Op σ ε α).run s = (.ok value, s') ↔ result = .ok value ∧ s = s' := by
  simp

theorem run_ensure_eq_ok {condition : Prop} [Decidable condition] {reason : ε} {done : Unit} :
    (ensure condition reason : Op σ ε Unit).run s = (.ok done, s') ↔ condition ∧ s = s' := by
  rw [run_ensure]
  by_cases holds : condition <;> simp [holds]

theorem run_within_eq_ok {τ : Type} {get : τ → σ} {put : σ → τ → τ} {method : Op σ ε α} {t t' : τ} :
    (within get put method).run t = (.ok value, t') ↔ ∃ s', method.run (get t) = (.ok value, s') ∧ put s' t = t' := by
  unfold within
  rcases run : method.run (get t) with ⟨reason | result, s'⟩ <;> simp [run]

theorem run_mapError_eq_ok {δ : Type} {change : ε → δ} {method : Op σ ε α} :
    (mapError change method).run s = (.ok value, s') ↔ method.run s = (.ok value, s') := by
  unfold mapError
  rcases run : method.run s with ⟨reason | result, s'⟩ <;> simp [run, Except.mapError]

end Success

/-- What a run preserves follows from what one step preserves. -/
theorem foldl_invariant {step : σ → ι → σ} {invariant : σ → Prop}
    (keeps : ∀ s item, invariant s → invariant (step s item)) :
    ∀ (items : List ι) (s : σ), invariant s → invariant (items.foldl step s) := by
  intro items
  induction items with
  | nil => exact fun s holds => holds
  | cons item rest ih => exact fun s holds => ih (step s item) (keeps s item holds)

end Op

/-- Peeling the first of two fallible steps off a success. -/
theorem bind_eq_ok {first : Except ε α} {next : α → Except ε β} {result : β}
    (ok : (first >>= next) = .ok result) : ∃ value, first = .ok value ∧ next value = .ok result := by
  cases first with
  | error reason => cases ok
  | ok value => exact ⟨value, rfl, ok⟩

section Folds

variable {step : β → ι → Except ε β}

/-- A fallible fold whose steps all succeed while an invariant holds. -/
theorem foldlM_ok (invariant : List ι → β → Prop) (each : ∀ item rest value, invariant (item :: rest) value →
      ∃ next, step value item = .ok next ∧ invariant rest next) : ∀ (items : List ι) (value : β), invariant items value
    → ∃ result, items.foldlM step value = .ok result ∧ invariant [] result := by
  intro items
  induction items with
  | nil => exact fun value holds => ⟨value, rfl, holds⟩
  | cons item rest ih =>
    intro value holds
    obtain ⟨next, stepped, kept⟩ := each item rest value holds
    obtain ⟨result, folded, last⟩ := ih next kept
    refine ⟨result, ?_, last⟩
    rw [foldlM_cons, stepped]
    exact folded

/-- The same over consecutive cursors, with the invariant indexed by the cursor. -/
theorem foldlM_range_ok (step : β → Nat → Except ε β) (first count : Nat) (value : β) (invariant : Nat → β → Prop)
    (each : ∀ cursor value, first ≤ cursor → cursor < first + count → invariant cursor value →
      ∃ next, step value cursor = .ok next ∧ invariant (cursor + 1) next) (start : invariant first value) :
    ∃ result, (range' first count).foldlM step value = .ok result ∧ invariant (first + count) result := by
  induction count generalizing first value with
  | zero => exact ⟨value, rfl, start⟩
  | succ count ih =>
    obtain ⟨next, stepped, kept⟩ := each first value (Nat.le_refl _) (by omega) start
    obtain ⟨result, folded, last⟩ := ih (first + 1) next
      (fun cursor value after before => each cursor value (Nat.le_of_succ_le after) (by omega)) kept
    refine ⟨result, ?_, ?_⟩
    · rw [range'_succ, foldlM_cons, stepped]
      exact folded
    · have same : first + 1 + count = first + (count + 1) := by omega
      exact same ▸ last

theorem forM_ok {step : ι → Except ε Unit} {items : List ι}
    (each : ∀ item ∈ items, step item = .ok ()) : items.forM step = .ok () := by
  induction items with
  | nil => rfl
  | cons item rest ih =>
    have first := each item (mem_cons_self ..)
    have others := ih (fun other member => each other (mem_cons_of_mem item member))
    change (step item >>= fun _ => rest.forM step) = .ok ()
    rw [first]
    exact others

end Folds

section Failures

/-- Every error the result can carry is among the allowed ones. -/
def OnlyFails (allowed : ε → Prop) (result : Except ε α) : Prop :=
  ∀ reason, result = .error reason → allowed reason

variable {allowed : ε → Prop}

theorem OnlyFails.ok (value : α) : OnlyFails allowed (.ok value : Except ε α) := by
  intro reason failed
  cases failed

theorem OnlyFails.error {reason : ε} (fine : allowed reason) : OnlyFails allowed (.error reason : Except ε α) := by
  intro other failed
  cases failed
  exact fine

theorem OnlyFails.bind {first : Except ε α} {next : α → Except ε β} (one : OnlyFails allowed first)
    (two : ∀ value, first = .ok value → OnlyFails allowed (next value)) : OnlyFails allowed (first >>= next) := by
  intro reason failed
  cases run : first with
  | error stopped =>
    rw [run] at failed
    cases failed
    exact one reason run
  | ok value =>
    rw [run] at failed
    exact two value run reason failed

theorem OnlyFails.foldlM {step : β → ι → Except ε β} (each : ∀ value item, OnlyFails allowed (step value item)) :
    ∀ (items : List ι) (value : β), OnlyFails allowed (items.foldlM step value) := by
  intro items
  induction items with
  | nil => exact fun value => .ok value
  | cons item rest ih =>
    intro value
    exact (each value item).bind (fun next _ => ih next)

theorem OnlyFails.forM {step : ι → Except ε Unit} (each : ∀ item, OnlyFails allowed (step item)) :
    ∀ items : List ι, OnlyFails allowed (items.forM step) := by
  intro items
  induction items with
  | nil => exact .ok ()
  | cons item rest ih => exact (each item).bind (fun _ _ => ih)

end Failures

/-- Checked addition in an unsigned type with `limit` values. -/
def checkedAdd (limit left right : Nat) : Option Nat :=
  if left + right < limit then some (left + right) else none

variable {limit left right : Nat}

@[simp] theorem checkedAdd_eq_some {value : Nat} :
    checkedAdd limit left right = some value ↔ left + right < limit ∧ value = left + right := by
  unfold checkedAdd
  split
  · simp only [Option.some.injEq]
    omega
  · simp only [reduceCtorEq, false_iff]
    omega

@[simp] theorem checkedAdd_eq_none : checkedAdd limit left right = none ↔ limit ≤ left + right := by
  unfold checkedAdd
  split <;> simp <;> omega

/-- Checked multiplication in an unsigned type with `limit` values. -/
def checkedMul (limit left right : Nat) : Option Nat :=
  if left * right < limit then some (left * right) else none

@[simp] theorem checkedMul_eq_some {value : Nat} :
    checkedMul limit left right = some value ↔ left * right < limit ∧ value = left * right := by
  unfold checkedMul
  split
  · rename_i fits
    simp only [Option.some.injEq, fits, true_and]
    exact eq_comm
  · rename_i overflow
    simp only [reduceCtorEq, overflow, false_and]

/-- `if !condition { return Err(reason) }` without a receiver. -/
def demand {ε : Type} (condition : Prop) [Decidable condition] (reason : ε) : Except ε Unit :=
  if condition then .ok () else .error reason

variable {ε : Type} {reason : ε}

theorem demand_eq_ok {condition : Prop} [Decidable condition] {value : Unit} :
    demand condition reason = .ok value ↔ condition := by
  unfold demand
  split <;> simp_all

variable {α : Type}

theorem demand_bind_eq_ok {condition : Prop} [Decidable condition] {next : Unit → Except ε α} {value : α} :
    (demand condition reason >>= next) = .ok value ↔ condition ∧ next () = .ok value := by
  unfold demand
  split
  · rename_i holds
    exact ⟨fun run => ⟨holds, run⟩, fun both => both.2⟩
  · rename_i fails
    exact ⟨nofun, fun both => absurd both.1 fails⟩

/-- `option.ok_or(reason)`. -/
def orError {ε α : Type} (option : Option α) (reason : ε) : Except ε α :=
  match option with
  | some value => .ok value
  | none => .error reason

@[simp] theorem orError_some (value : α) (reason : ε) : orError (some value) reason = .ok value := rfl

@[simp] theorem orError_none (reason : ε) : orError (none : Option α) reason = .error reason := rfl

variable {option : Option α}

theorem orError_eq_ok {value : α} : orError option reason = .ok value ↔ option = some value := by
  cases option <;> simp [orError]

theorem Op.wp_orError {done : α → σ → Prop} {failed : ε → σ → Prop} {s : σ}
    (pass : ∀ value, option = some value → done value s) (stop : option = none → failed reason s) :
    Op.wp (Op.lift (orError option reason)) done failed s := by
  cases option with
  | none => exact stop rfl
  | some value => exact pass value rfl

theorem OnlyFails.orError {allowed : ε → Prop} (fine : allowed reason) : OnlyFails allowed (orError option reason) := by
  cases option with
  | none => exact .error fine
  | some value => exact .ok value

end PooleOS
