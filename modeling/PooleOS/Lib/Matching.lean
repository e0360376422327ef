import PooleOS.Lib.Result

/- Two fallible computations that stop in the same way, or return related values. -/
namespace PooleOS

open List

variable {ε α β γ δ ι : Type}

/-- The same outcome, up to a relation on the values. -/
def Matches (related : α → β → Prop) : Except ε α → Except ε β → Prop
  | .ok first, .ok second => related first second
  | .error first, .error second => first = second
  | _, _ => False

variable {related : α → β → Prop} {after : γ → δ → Prop} {first : Except ε α} {second : Except ε β}

theorem matches_eq {one two : Except ε α} : Matches (· = ·) one two ↔ one = two := by
  cases one <;> cases two <;> simp [Matches]

theorem Matches.refl (one : Except ε α) : Matches (· = ·) one one := matches_eq.mpr rfl

theorem Matches.mono {weaker : α → β → Prop} (both : Matches related first second)
    (onOk : ∀ one two, related one two → weaker one two) : Matches weaker first second := by
  cases first <;> cases second <;> first | exact both | exact onOk _ _ both

/-- The relation together with the values. -/
theorem Matches.known (both : Matches related first second) :
    Matches (fun one two => first = .ok one ∧ second = .ok two ∧ related one two) first second := by
  cases first <;> cases second <;> first | exact both | exact ⟨rfl, rfl, both⟩

/-- What follows two matching computations matches, given what they returned. -/
theorem Matches.bind {next : α → Except ε γ} {next' : β → Except ε δ} (both : Matches related first second)
    (rest : ∀ one two, first = .ok one → second = .ok two → related one two → Matches after (next one) (next' two)) :
    Matches after (first >>= next) (second >>= next') := by
  cases first with
  | ok one =>
    cases second with
    | ok two => exact rest one two rfl rfl both
    | error => exact both.elim
  | error one =>
    cases second with
    | ok => exact both.elim
    | error two => exact both

/-- The same computation on both sides. -/
theorem Matches.same {common : Except ε α} {next : α → Except ε γ} {next' : α → Except ε δ}
    (rest : ∀ value, common = .ok value → Matches after (next value) (next' value)) :
    Matches after (common >>= next) (common >>= next') := by
  cases common with
  | ok value => exact rest value rfl
  | error reason => rfl

variable {reason : ε}

/-- The same check on both sides. -/
theorem Matches.check {condition : Prop} [Decidable condition] {next : Unit → Except ε γ}
    {next' : Unit → Except ε δ} (rest : condition → Matches after (next ()) (next' ())) :
    Matches after (demand condition reason >>= next) (demand condition reason >>= next') :=
  Matches.same (fun _ passed => rest (demand_eq_ok.mp passed))

/-- A check in two parts that fail in the same way. -/
theorem demand_split {whole : Prop} (one two : Prop) [Decidable whole] [Decidable one] [Decidable two]
    {next : Unit → Except ε α} (same : whole ↔ one ∧ two) :
    (demand whole reason >>= next) = (demand one reason >>= fun _ => demand two reason >>= next) := by
  by_cases first : one
  · rw [demand_pass first, ok_bind]
    by_cases second : two
    · rw [demand_pass second, demand_pass (same.mpr ⟨first, second⟩)]
    · rw [demand_stop second, demand_stop (fun both => second (same.mp both).2)]
  · rw [demand_stop first, demand_stop (fun both => first (same.mp both).1)]
    rfl

variable {start : α} {start' : β}

/-- Two loops over the same numbers, with a relation indexed by the cursor. -/
theorem Matches.range {body : α → Nat → Except ε α} {body' : β → Nat → Except ε β} (relation : Nat → α → β → Prop)
    (begin : relation 0 start start') : ∀ {count : Nat},
    (∀ index one two, index < count → (range index).foldlM body' start' = .ok two → relation index one two →
      Matches (relation (index + 1)) (body one index) (body' two index)) →
    Matches (relation count) ((range count).foldlM body start) ((range count).foldlM body' start')
  | 0, _ => begin
  | count + 1, each => by
      rw [range_succ, foldlM_append, foldlM_append]
      refine Matches.bind (Matches.range relation begin (fun index one two less => each index one two (by omega)))
        (fun one two _ ran both => ?_)
      rw [foldlM_cons, foldlM_cons]
      refine Matches.bind (each count one two (Nat.lt_succ_self _) ran both) (fun _ _ _ _ last => last)

variable {body : α → ι → Except ε α}

theorem Matches.foldlM_from {body' : β → ι → Except ε β} (relation : Nat → α → β → Prop) :
    ∀ {items : List ι} (done : Nat) {start : α} {start' : β}, relation done start start' →
    (∀ item ∈ items, ∀ index one two, index < done + items.length → relation index one two →
      Matches (relation (index + 1)) (body one item) (body' two item)) →
    Matches (relation (done + items.length)) (items.foldlM body start) (items.foldlM body' start')
  | [], _, _, _, begin, _ => begin
  | item :: rest, done, _, _, begin, each => by
      obtain ⟨now, later⟩ := forall_mem_cons.mp each
      have count : done + (item :: rest).length = done + 1 + rest.length := by
        rw [length_cons]
        omega
      rw [foldlM_cons, foldlM_cons, count]
      rw [count] at now later
      exact Matches.bind (now done _ _ (by omega) begin)
        (fun _ _ _ _ both => Matches.foldlM_from relation (done + 1) both later)

/-- Two loops over the same items, with a relation indexed by how many are done. -/
theorem Matches.foldlM {body' : β → ι → Except ε β} (relation : Nat → α → β → Prop)
    {items : List ι} (begin : relation 0 start start')
    (each : ∀ item ∈ items, ∀ index one two, index < items.length → relation index one two →
      Matches (relation (index + 1)) (body one item) (body' two item)) :
    Matches (relation items.length) (items.foldlM body start) (items.foldlM body' start') := by
  have whole := @Matches.foldlM_from _ _ _ _ body body' relation items 0 start start' begin
  rw [Nat.zero_add] at whole
  exact whole each

/-- A loop that matches one without errors. -/
theorem Matches.foldl {step : β → ι → β} (relation : Nat → α → β → Prop) {items : List ι}
    (begin : relation 0 start start')
    (each : ∀ item ∈ items, ∀ index one two, index < items.length → relation index one two →
      ∃ next, body one item = .ok next ∧ relation (index + 1) next (step two item)) :
    ∃ last, items.foldlM body start = .ok last ∧ relation items.length last (items.foldl step start') := by
  have both := @Matches.foldlM ε α β ι start start' body (fun two item => .ok (step two item)) relation items begin
    (fun item member index one two less holds => by
      obtain ⟨next, ran, kept⟩ := each item member index one two less holds
      rw [ran]
      exact kept)
  have run : items.foldlM (fun two item => (.ok (step two item) : Except ε β)) start' = .ok (items.foldl step start') :=
    foldlM_pure
  rw [run] at both
  revert both
  cases items.foldlM body start with
  | ok last => exact fun kept => ⟨last, rfl, kept⟩
  | error reason => exact fun absent => absent.elim

/-- A loop of checks that fail in the same way is one check. -/
theorem forM_demand (fact : ι → Prop) [DecidablePred fact] {body : ι → Except ε Unit} :
    ∀ {items : List ι} [Decidable (∀ item ∈ items, fact item)],
    (∀ item ∈ items, body item = demand (fact item) reason) →
      items.forM body = demand (∀ item ∈ items, fact item) reason
  | [], _, _ => (demand_pass nofun).symm
  | item :: rest, _, each => by
      obtain ⟨now, later⟩ := forall_mem_cons.mp each
      change (body item >>= fun _ => rest.forM body) = _
      rw [now, forM_demand fact later]
      by_cases first : fact item
      · rw [demand_pass first, ok_bind]
        simp only [forall_mem_cons, first, true_and, demand]
      · rw [demand_stop first, error_bind, demand_stop (fun all => first (all item (mem_cons_self ..)))]

theorem forM_congr {body other : ι → Except ε Unit} : ∀ {items : List ι}, (∀ item ∈ items, body item = other item) →
    items.forM body = items.forM other
  | [], _ => rfl
  | item :: rest, same => by
      obtain ⟨now, later⟩ := forall_mem_cons.mp same
      change (body item >>= fun _ => rest.forM body) = (other item >>= fun _ => rest.forM other)
      rw [now, forM_congr later]

theorem demand_congr {one two : Prop} [Decidable one] [Decidable two] (same : one ↔ two) :
    demand one reason = demand two reason := by
  by_cases holds : one
  · rw [demand_pass holds, demand_pass (same.mp holds)]
  · rw [demand_stop holds, demand_stop (fun other => holds (same.mpr other))]

end PooleOS
