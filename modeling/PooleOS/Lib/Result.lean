import PooleOS.Lib.Op

/- Rules for fallible functions without a receiver: what holds of the value on
success, and what holds of the error on failure. -/
namespace PooleOS

open Except
open List

variable {ε α β ι : Type}

/-- Conditions for both outcomes of a fallible computation. -/
def Spec (result : Except ε α) (done : α → Prop) (failed : ε → Prop) : Prop :=
  match result with
  | .ok value => done value
  | .error reason => failed reason

@[simp] theorem ok_bind (value : β) (next : β → Except ε α) : (ok value >>= next) = next value := rfl

@[simp] theorem error_bind (reason : ε) (next : β → Except ε α) : (error reason >>= next) = .error reason := rfl

/-- Whether a computation succeeds with such a value is seen by running it. -/
instance decidableOk {result : Except ε α} {done : α → Prop} [DecidablePred done] :
    Decidable (∃ value, result = .ok value ∧ done value) :=
  match result with
  | .ok value => decidable_of_iff (done value) (by simp)
  | .error _ => isFalse (by simp)

variable {condition : Prop}

theorem demand_pass [Decidable condition] {reason : ε} (holds : condition) :
    demand condition reason = .ok () := if_pos holds

theorem demand_stop [Decidable condition] {reason : ε} (fails : ¬ condition) :
    demand condition reason = .error reason := if_neg fails

/-- A check, with the proof that it passed. -/
def certified (check : Except ε Unit) : Except ε (PLift (check = .ok ())) :=
  match check with
  | .ok () => .ok ⟨rfl⟩
  | .error reason => .error reason

theorem certified_pass {check : Except ε Unit} (passed : check = .ok ()) : certified check = .ok ⟨passed⟩ := by
  subst passed
  rfl

variable {first : Except ε Unit} {value : α}

theorem unit_bind_eq_ok {next : Unit → Except ε α} :
    (first >>= next) = .ok value ↔ first = .ok () ∧ next () = .ok value := by
  cases first <;> simp

theorem ok_eq_ok {first second : α} : (ok first : Except ε α) = .ok second ↔ second = first :=
  ⟨fun same => (ok.inj same).symm, fun same => congrArg _ same.symm⟩

theorem pure_eq_ok {first second : α} : (pure first : Except ε α) = .ok second ↔ second = first := ok_eq_ok

theorem bind_eq_ok_iff {first : Except ε α} {next : α → Except ε β} {value : β} :
    (first >>= next) = .ok value ↔ ∃ middle, first = .ok middle ∧ next middle = .ok value :=
  ⟨bind_eq_ok, fun ⟨_, done, rest⟩ => by rw [done]; exact rest⟩

theorem mapError_eq_ok {δ : Type} {change : ε → δ} {result : Except ε α} :
    result.mapError change = .ok value ↔ result = .ok value := by
  cases result with
  | ok =>
    simp only [Except.mapError, Except.ok.injEq]
  | error reason => exact ⟨nofun, nofun⟩

/-- One of two checks, and what follows both. -/
theorem ite_bind_eq_ok [Decidable condition] {second : Except ε Unit} {next : Unit → Except ε α} :
    (if condition then first >>= next else second >>= next) = .ok value ↔
      ((condition → first = .ok ()) ∧ (¬ condition → second = .ok ())) ∧ next () = .ok value := by
  split
  · rename_i holds
    simp only [unit_bind_eq_ok, holds, not_true_eq_false, true_implies, false_implies, and_true]
  · rename_i fails
    simp only [unit_bind_eq_ok, fails, not_false_eq_true, true_implies, false_implies, true_and]

/-- A check that is made in one case, and what follows it. -/
theorem when_bind_eq_ok [Decidable condition] {next : Except ε α} : (if condition then first >>= fun _ => next else next) = .ok value ↔
      (condition → first = .ok ()) ∧ next = .ok value := by
  split
  · rename_i holds
    simp only [unit_bind_eq_ok, holds, true_implies]
  · rename_i fails
    simp only [fails, false_implies, true_and]

theorem ite_eq_ok [Decidable condition] {first second : Except ε α} :
    (if condition then first else second) = .ok value ↔
      (condition → first = .ok value) ∧ (¬ condition → second = .ok value) := by
  split
  · rename_i holds
    simp only [holds, not_true_eq_false, true_implies, false_implies, and_true]
  · rename_i fails
    simp only [fails, not_false_eq_true, true_implies, false_implies, true_and]

/-- A loop of checks passes when every round does. -/
theorem forM_eq_ok {body : ι → Except ε Unit} {items : List ι} {done : Unit} :
    items.forM body = .ok done ↔ ∀ item ∈ items, body item = .ok () := by
  refine ⟨fun passed => ?_, forM_ok⟩
  induction items with
  | nil => exact fun _ member => absurd member not_mem_nil
  | cons item rest ih =>
    obtain ⟨first, others⟩ := unit_bind_eq_ok.mp passed
    exact forall_mem_cons.mpr ⟨first, ih others⟩

/-- A loop that collects results: one result an item, in order. -/
theorem mapM_eq_ok {body : ι → Except ε α} :
    ∀ {items : List ι} {values : List α}, items.mapM body = .ok values →
      ∀ (index : Nat) (item : ι), items[index]? = some item →
        ∃ value, values[index]? = some value ∧ body item = .ok value
  | [], _, _, _, _, found => absurd found (by simp)
  | item :: rest, values, mapped, index, wanted, found => by
      rw [mapM_cons] at mapped
      obtain ⟨value, first, mapped⟩ := bind_eq_ok mapped
      obtain ⟨others, later, same⟩ := bind_eq_ok mapped
      obtain rfl := ok.inj same
      cases index with
      | zero =>
        obtain rfl := Option.some.inj found
        exact ⟨value, rfl, first⟩
      | succ index => exact mapM_eq_ok later index wanted found

/-- A loop that collects known values: it runs through when every item fits. -/
theorem mapM_closed {body : ι → Except ε α} {made : ι → α} {fits : ι → Prop} :
    ∀ {items : List ι}, (∀ item ∈ items, ∀ value, body item = .ok value ↔ fits item ∧ value = made item) →
      ∀ values, items.mapM body = .ok values ↔ (∀ item ∈ items, fits item) ∧ values = items.map made
  | [], _, values => by
      rw [mapM_nil, pure_eq_ok]
      exact ⟨fun same => ⟨nofun, same⟩, fun both => both.2⟩
  | item :: rest, each, values => by
      obtain ⟨first, others⟩ := forall_mem_cons.mp each
      rw [mapM_cons, bind_eq_ok_iff, forall_mem_cons]
      simp only [first, bind_eq_ok_iff, mapM_closed others, pure_eq_ok]
      constructor
      · rintro ⟨_, ⟨fit, rfl⟩, _, ⟨all, rfl⟩, rfl⟩
        exact ⟨⟨fit, all⟩, rfl⟩
      · rintro ⟨⟨fit, all⟩, rfl⟩
        exact ⟨_, ⟨fit, rfl⟩, _, ⟨all, rfl⟩, rfl⟩

/-- A loop whose rounds compute a known value: it runs through when every round fits. -/
theorem foldlM_range_closed {body : β → Nat → Except ε β} {closed : Nat → β} {fits : Nat → Prop} :
    ∀ {count : Nat}, (∀ index < count, (∀ earlier < index, fits earlier) → ∀ next,
        body (closed index) index = .ok next ↔ fits index ∧ next = closed (index + 1)) →
      ∀ last, (range count).foldlM body (closed 0) = .ok last ↔
        (∀ index < count, fits index) ∧ last = closed count
  | 0, _, last => by
      constructor
      · exact fun same => ⟨fun _ less => absurd less (Nat.not_lt_zero _), (ok.inj same).symm⟩
      · exact fun both => congrArg _ both.2.symm
  | count + 1, each, last => by
      have before := @foldlM_range_closed body closed fits count (fun index less => each index (by omega))
      rw [range_succ, foldlM_append]
      constructor
      · intro ran
        obtain ⟨middle, first, ran⟩ := bind_eq_ok ran
        obtain ⟨fit, rfl⟩ := (before middle).mp first
        rw [foldlM_cons] at ran
        obtain ⟨next, final, same⟩ := bind_eq_ok ran
        obtain rfl := ok.inj same
        obtain ⟨now, rfl⟩ := (each count (Nat.lt_succ_self _) fit next).mp final
        refine ⟨fun index less => ?_, rfl⟩
        rcases Nat.lt_succ_iff_lt_or_eq.mp less with earlier | rfl
        · exact fit index earlier
        · exact now
      · rintro ⟨fit, rfl⟩
        have earlier : ∀ index < count, fits index := fun index less => fit index (by omega)
        rw [(before (closed count)).mpr ⟨earlier, rfl⟩, ok_bind, foldlM_cons,
          (each count (Nat.lt_succ_self _) earlier _).mpr ⟨fit count (Nat.lt_succ_self _), rfl⟩]
        rfl

section Rules

variable {result : Except ε α} {done : α → Prop} {failed : ε → Prop}

@[simp] theorem spec_ok (value : α) : Spec (.ok value) done failed ↔ done value := .rfl

@[simp] theorem spec_pure (value : α) : Spec (pure value : Except ε α) done failed ↔ done value := .rfl

@[simp] theorem spec_error (reason : ε) : Spec (.error reason) done failed ↔ failed reason := .rfl

@[simp] theorem spec_bind {first : Except ε β} {next : β → Except ε α} :
    Spec (first >>= next) done failed ↔ Spec first (fun value => Spec (next value) done failed) failed := by
  cases first <;> rfl

section

variable (holds : Spec result done failed)
include holds

theorem Spec.mono {done' : α → Prop} {failed' : ε → Prop}
    (onOk : ∀ value, done value → done' value) (onErr : ∀ reason, failed reason → failed' reason) :
    Spec result done' failed' := by
  cases result with
  | ok value => exact onOk value holds
  | error reason => exact onErr reason holds

/-- Weakening the condition on success. -/
theorem Spec.imp {done' : α → Prop}
    (onOk : ∀ value, done value → done' value) : Spec result done' failed :=
  holds.mono onOk (fun _ fine => fine)

/-- The condition on success together with the value itself. -/
theorem Spec.known :
    Spec result (fun value => result = .ok value ∧ done value) failed := by
  cases result with
  | ok value => exact ⟨rfl, holds⟩
  | error reason => exact holds

theorem Spec.of_ok {value : α} (ok : result = .ok value) : done value := by
  rw [ok] at holds
  exact holds

end

variable {reason : ε}

theorem Spec.of_error (holds : Spec result done failed) (error : result = .error reason) : failed reason := by
  rw [error] at holds
  exact holds

theorem spec_demand {done : Unit → Prop} {condition : Prop} [Decidable condition] (pass : condition → done ())
    (stop : ¬ condition → failed reason) : Spec (demand condition reason) done failed := by
  unfold demand
  split
  · rename_i holds
    exact pass holds
  · rename_i fails
    exact stop fails

theorem spec_orError {option : Option α} (pass : ∀ value, option = some value → done value)
    (stop : option = none → failed reason) : Spec (orError option reason) done failed := by
  cases option with
  | none => exact stop rfl
  | some value => exact pass value rfl

/-- A loop whose rounds do not depend on each other. -/
theorem spec_forM {body : ι → Except ε Unit} {fact : ι → Prop} :
    ∀ {items : List ι}, (∀ item ∈ items, Spec (body item) (fun _ => fact item) failed) →
      Spec (items.forM body) (fun _ => ∀ item ∈ items, fact item) failed
  | [], _ => fun _ member => nomatch member
  | item :: rest, each => by
      change Spec (body item >>= fun _ => rest.forM body) _ _
      rw [spec_bind]
      refine (each item (mem_cons_self ..)).imp (fun _ first => ?_)
      refine (spec_forM (fun other member => each other (mem_cons_of_mem item member))).imp ?_
      intro _ others other member
      rcases mem_cons.mp member with rfl | later
      · exact first
      · exact others other later

/-- A loop that carries a value, with an invariant over the items still to come. -/
theorem spec_foldlM {body : β → ι → Except ε β} (invariant : List ι → β → Prop)
    (each : ∀ item rest value, invariant (item :: rest) value → Spec (body value item) (invariant rest) failed) : ∀
    (items : List ι) (value : β), invariant items value → Spec (items.foldlM body value) (invariant []) failed := by
  intro items
  induction items with
  | nil => exact fun _ holds => holds
  | cons item rest ih =>
    intro value holds
    rw [foldlM_cons, spec_bind]
    exact (each item rest value holds).imp (fun next kept => ih next kept)

/-- A loop over `0..count` that carries a value, with an invariant indexed by the cursor. -/
theorem spec_foldlM_range {body : β → Nat → Except ε β} {count : Nat} (invariant : Nat → β → Prop)
    (each : ∀ cursor value, cursor < count → invariant cursor value →
      Spec (body value cursor) (invariant (cursor + 1)) failed) {value : β} (start : invariant 0 value) :
    Spec ((range count).foldlM body value) (invariant count) failed := by
  have whole := @spec_foldlM _ _ _ failed body
    (fun rest value => ∃ cursor, cursor ≤ count ∧ rest = range' cursor (count - cursor) ∧ invariant cursor value)
    (by
      rintro item rest value ⟨cursor, within, remaining, holds⟩
      obtain ⟨rfl, more, tail⟩ := Op.range'_rest remaining
      exact (each item value more holds).imp (fun _ kept => ⟨item + 1, more, tail, kept⟩))
    (range count) value ⟨0, Nat.zero_le _, by simp [range_eq_range'], start⟩
  refine whole.imp ?_
  rintro result ⟨cursor, within, remaining, holds⟩
  have finished : count - cursor = 0 := by
    simpa using (congrArg length remaining).symm
  have last : cursor = count := by omega
  exact last ▸ holds

end Rules

/-- A fallible function that does not touch the receiver. -/
theorem Op.wp_of_spec {σ : Type} {result : Except ε α} {done : α → σ → Prop} {failed : ε → σ → Prop}
    {s : σ} (holds : Spec result (fun value => done value s) (fun reason => failed reason s)) :
    Op.wp (Op.lift result) done failed s := by
  cases result <;> exact holds

end PooleOS
