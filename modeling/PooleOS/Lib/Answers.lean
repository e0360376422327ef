import PooleOS.Lib.Op

/- What a method can answer, whatever state it is called in, and how it may change
that state, whatever it answers. -/
namespace PooleOS

variable {σ ε α β ι : Type}

namespace Op

/-- A success satisfies `done` and a failure satisfies `failed`, in every state. -/
structure Answers (done : α → Prop) (failed : ε → Prop) (method : Op σ ε α) : Prop where
  wp : ∀ s, wp method (fun value _ => done value) (fun reason _ => failed reason) s

variable {done : α → Prop} {failed : ε → Prop}

variable {method : Op σ ε α}

theorem Answers.error (answers : Answers done failed method) {s : σ} {reason : ε}
    (run : (method.run s).1 = .error reason) : failed reason :=
  (wp_iff.mp (answers.wp s)).2 reason run

theorem Answers.mono {done' : α → Prop} (answers : Answers done failed method)
    (onOk : ∀ value, done value → done' value) : Answers done' failed method :=
  ⟨fun s => wp_mono (answers.wp s) (fun value _ => onOk value) (fun _ _ stop => stop)⟩

theorem Answers.pure {value : α} (holds : done value) :
    Answers done failed (Pure.pure value : Op σ ε α) := ⟨fun _ => holds⟩

theorem Answers.ensure {condition : Prop} [Decidable condition] {reason : ε} {after : Unit → Prop}
    (pass : condition → after ()) (stop : failed reason) :
    Answers after failed (ensure condition reason : Op σ ε Unit) :=
  ⟨fun _ => wp_ensure_intro pass (fun _ => stop)⟩

theorem Answers.lift {result : Except ε α} (pass : ∀ value, result = .ok value → done value)
    (stop : ∀ reason, result = .error reason → failed reason) :
    Answers done failed (lift result : Op σ ε α) := ⟨fun _ => wp_lift_intro pass stop⟩

theorem Answers.bind {middle : β → Prop} {first : Op σ ε β} {next : β → Op σ ε α} (one : Answers middle failed first)
    (two : ∀ value, middle value → Answers done failed (next value)) : Answers done failed (first >>= next) := by
  refine ⟨fun s => ?_⟩
  rw [wp_bind]
  exact wp_mono (one.wp s) (fun value s' holds => (two value holds).wp s') (fun _ _ stop => stop)

/-- `map_err(|_| reason)`: only one error is left. -/
theorem Answers.mapError {δ : Type} {reason : δ} {failed : δ → Prop} (method : Op σ ε α)
    (stop : failed reason) : Answers (fun _ => True) failed (mapError (fun _ => reason) method) :=
  ⟨fun _ => wp_mapError.mpr (wp_iff.mpr ⟨fun _ _ => trivial, fun _ _ => stop⟩)⟩

theorem Answers.attempt (method : Op σ ε α) : Answers (fun _ => True) failed (attempt method) := ⟨fun _ => trivial⟩

theorem Answers.when {condition : Prop} [Decidable condition] {method : Op σ ε Unit}
    (taken : condition → Answers (fun _ => True) failed method) :
    Answers (fun _ => True) failed (when condition method) :=
  ⟨fun s => wp_when_intro (fun holds => (taken holds).wp s) (fun _ => trivial)⟩

theorem Answers.within {τ : Type} {get : τ → σ} {put : σ → τ → τ}
    (answers : Answers done failed method) : Answers done failed (within get put method) :=
  ⟨fun t => wp_within.mpr (answers.wp (get t))⟩

theorem Answers.forEach {body : ι → Op σ ε Unit} {items : List ι}
    (each : ∀ item ∈ items, Answers (fun _ => True) failed (body item)) :
    Answers (fun _ => True) failed (forEach items body) := by
  induction items with
  | nil => exact ⟨fun _ => trivial⟩
  | cons item rest ih =>
    exact (each item (List.mem_cons_self ..)).bind
      (fun _ _ => ih (fun other member => each other (List.mem_cons_of_mem item member)))

/-- A loop that carries a value, with an invariant over the items still to come. -/
theorem Answers.foldlM {body : β → ι → Op σ ε β} (invariant : List ι → β → Prop)
    (each : ∀ value item rest, invariant (item :: rest) value → Answers (invariant rest) failed (body value item)) : ∀
    (items : List ι) (value : β), invariant items value → Answers (invariant []) failed (items.foldlM body value) := by
  intro items
  induction items with
  | nil => exact fun value holds => .pure holds
  | cons item rest ih =>
    intro value holds
    exact (each value item rest holds).bind ih

/-- The states before and after are related, on both branches. -/
structure Steps (rel : σ → σ → Prop) (method : Op σ ε α) : Prop where
  rel : ∀ s, rel s (method.run s).2

variable {rel : σ → σ → Prop}

theorem Steps.of_wp (holds : ∀ s, wp method (fun _ => rel s) (fun _ => rel s) s) :
    Steps rel method := ⟨fun s => wp_state.mp (holds s)⟩

theorem Steps.wp (steps : Steps rel method) (s : σ) :
    wp method (fun _ => rel s) (fun _ => rel s) s := wp_state.mpr (steps.rel s)

theorem Steps.mapError {δ : Type} {change : ε → δ} (steps : Steps rel method) :
    Steps rel (mapError change method) := ⟨steps.rel⟩

theorem Steps.attempt (steps : Steps rel method) : Steps rel (attempt method) :=
  ⟨steps.rel⟩

section Preorder

variable [IsPreorder σ rel]

theorem Steps.pure (value : α) : Steps rel (Pure.pure value : Op σ ε α) := ⟨fun s => refl_of rel s⟩

theorem Steps.read : Steps rel (read : Op σ ε σ) := ⟨fun s => refl_of rel s⟩

theorem Steps.fail (reason : ε) : Steps rel (fail reason : Op σ ε α) := ⟨fun s => refl_of rel s⟩

theorem Steps.ensure (condition : Prop) [Decidable condition] (reason : ε) :
    Steps rel (ensure condition reason : Op σ ε Unit) := ⟨fun s => refl_of rel s⟩

theorem Steps.lift (result : Except ε α) : Steps rel (lift result : Op σ ε α) := ⟨fun s => refl_of rel s⟩

theorem Steps.bind {first : Op σ ε β} {next : β → Op σ ε α} (one : Steps rel first)
    (two : ∀ value, Steps rel (next value)) : Steps rel (first >>= next) := by
  refine .of_wp (fun s => ?_)
  rw [wp_bind]
  exact wp_mono (one.wp s) (fun value s' before => wp_mono ((two value).wp s')
    (fun _ _ after => trans_of rel before after) (fun _ _ after => trans_of rel before after)) (fun _ _ stop => stop)

theorem Steps.onError {method : Op σ ε α} {handler : ε → Op σ ε α} (one : Steps rel method)
    (two : ∀ reason, Steps rel (handler reason)) : Steps rel (onError method handler) := by
  refine .of_wp (fun s => wp_onError.mpr ?_)
  exact wp_mono (one.wp s) (fun _ _ kept => kept) (fun reason s' before => wp_mono ((two reason).wp s')
    (fun _ _ after => trans_of rel before after) (fun _ _ after => trans_of rel before after))

end Preorder

end Op

end PooleOS
