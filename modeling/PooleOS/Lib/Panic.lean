import PooleOS.Lib.Bytes
import PooleOS.Lib.Result

/- Fallible functions that could also panic: on an index out of bounds, or on an overflow of plain arithmetic.
-/
namespace PooleOS

open List

variable {ε α σ : Type}

/-- How a computation stops: it returns an error, or it panics. -/
inductive Stop (ε : Type)
  | refused (reason : ε)
  | panicked
deriving DecidableEq, Repr

abbrev Outcome (ε α : Type) : Type := Except (Stop ε) α

def u32Values : Nat := 4294967296
def u64Values : Nat := 18446744073709551616

theorem word_sizes : u32Values = 4294967296 ∧ u64Values = 18446744073709551616 := ⟨rfl, rfl⟩

/-- `if !condition { return Err(reason) }`. -/
@[irreducible] def require (condition : Prop) [Decidable condition] (reason : ε) : Outcome ε Unit :=
  demand condition (.refused reason)

theorem require_of {condition : Prop} [Decidable condition] {reason : ε} (holds : condition) :
    require condition reason = .ok () := by
  unfold require demand
  rw [if_pos holds]

@[simp] theorem require_true (reason : ε) : require True reason = .ok () := by
  unfold require demand
  rfl

@[simp] theorem require_false (reason : ε) : require False reason = .error (.refused reason) := by
  unfold require demand
  rfl

/-- `option.ok_or(reason)`. -/
def orRefuse (option : Option α) (reason : ε) : Outcome ε α := orError option (.refused reason)

/-- An operation that panics where it has no value. -/
def orPanic (option : Option α) : Outcome ε α := orError option .panicked

/-- `left + right` in `usize` or `u64`. -/
@[irreducible] def plus (left right : Nat) : Outcome ε Nat := orPanic (checkedAdd u64Values left right)

/-- `left * right` in `usize` or `u64`. -/
@[irreducible] def times (left right : Nat) : Outcome ε Nat := orPanic (checkedMul u64Values left right)

/-- `left - right` in `usize` or `u64`. -/
@[irreducible] def minus (left right : Nat) : Outcome ε Nat := if right ≤ left then .ok (left - right) else .error .panicked

/-- `left.checked_add(right).ok_or(reason)`. -/
@[irreducible] def addOr (left right : Nat) (reason : ε) : Outcome ε Nat :=
  orRefuse (checkedAdd u64Values left right) reason

/-- `left.checked_mul(right).ok_or(reason)`. -/
@[irreducible] def timesOr (left right : Nat) (reason : ε) : Outcome ε Nat :=
  orRefuse (checkedMul u64Values left right) reason

/-- `bytes[first..last]`. -/
def slice (bytes : Bytes) (first last : Nat) : Outcome ε Bytes := orPanic (bytes.range? first last)

/-- `bytes[index]`. -/
def byteAt (bytes : Bytes) (index : Nat) : Outcome ε UInt8 := orPanic bytes[index]?

/-- `value.is_multiple_of(unit)` for a unit that is not zero. -/
def MultipleOf (unit value : Nat) : Prop := value % unit = 0

instance (unit value : Nat) : Decidable (MultipleOf unit value) := inferInstanceAs (Decidable (_ = _))

/-- A returned error, not a panic. -/
def Refusal (stop : Stop ε) : Prop := ∃ reason, stop = .refused reason

section Rules

variable {done : α → Prop} {failed : Stop ε → Prop} {left right : Nat} {bytes : Bytes}

variable {reason : ε}

theorem spec_require {done : Unit → Prop} {condition : Prop} [Decidable condition]
    (pass : condition → done ()) : Spec (require condition reason) done Refusal := by
  unfold require
  exact spec_demand pass (fun _ => ⟨reason, rfl⟩)

theorem spec_orRefuse {option : Option α} (pass : ∀ value, option = some value → done value) :
    Spec (orRefuse option reason) done Refusal :=
  spec_orError pass (fun _ => ⟨reason, rfl⟩)

variable {done : Nat → Prop}

theorem spec_addOr
    (pass : left + right < u64Values → done (left + right)) : Spec (addOr left right reason) done Refusal := by
  unfold addOr
  refine spec_orRefuse (fun value sum => ?_)
  obtain ⟨small, rfl⟩ := checkedAdd_eq_some.mp sum
  exact pass small

theorem spec_timesOr (pass : left * right < u64Values → done (left * right)) :
    Spec (timesOr left right reason) done Refusal := by
  unfold timesOr
  refine spec_orRefuse (fun value product => ?_)
  obtain ⟨small, rfl⟩ := checkedMul_eq_some.mp product
  exact pass small

theorem plus_of (small : left + right < u64Values) : (plus left right : Outcome ε Nat) = .ok (left + right) := by
  have sum : checkedAdd u64Values left right = some (left + right) := checkedAdd_eq_some.mpr ⟨small, rfl⟩
  unfold plus orPanic
  rw [sum]
  rfl

theorem times_of (small : left * right < u64Values) : (times left right : Outcome ε Nat) = .ok (left * right) := by
  have product : checkedMul u64Values left right = some (left * right) :=
    checkedMul_eq_some.mpr ⟨small, rfl⟩
  unfold times orPanic
  rw [product]
  rfl

theorem spec_plus (small : left + right < u64Values) (pass : done (left + right)) :
    Spec (plus left right) done failed := by
  rw [plus_of small]
  exact pass

theorem spec_times (small : left * right < u64Values) (pass : done (left * right)) :
    Spec (times left right) done failed := by
  rw [times_of small]
  exact pass

theorem spec_minus (less : right ≤ left) (pass : done (left - right)) : Spec (minus left right) done failed := by
  unfold minus
  rw [if_pos less]
  exact pass

theorem spec_slice {done : Bytes → Prop} {first last : Nat} (ordered : first ≤ last) (inside : last ≤ bytes.length)
    (pass : done ((bytes.drop first).take (last - first))) : Spec (slice bytes first last) done failed := by
  unfold slice orPanic
  rw [Bytes.range?_some ordered inside]
  exact pass

theorem spec_byteAt {done : UInt8 → Prop} {index : Nat} (inside : index < bytes.length)
    (pass : ∀ byte, done byte) : Spec (byteAt bytes index) done failed := by
  unfold byteAt orPanic
  rw [getElem?_eq_getElem inside]
  exact pass _

end Rules

/-- The computation returns: a value, or an error. -/
def Returns (result : Outcome ε α) : Prop := result ≠ .error .panicked

section Returns

variable {β ι : Type} {first : Outcome ε α} {next : α → Outcome ε β}

theorem panics_bind : first >>= next = .error .panicked ↔
    first = .error .panicked ∨ ∃ value, first = .ok value ∧ next value = .error .panicked := by
  cases first with
  | ok value => simp
  | error reason => simp

theorem panics_bind_of (returns : Returns first) : first >>= next = .error .panicked ↔
    ∃ value, first = .ok value ∧ next value = .error .panicked :=
  panics_bind.trans (or_iff_right returns)

@[simp] theorem returns_pure (value : α) : Returns (pure value : Outcome ε α) := nofun

@[simp] theorem returns_refused (reason : ε) : Returns (.error (.refused reason) : Outcome ε α) := nofun

@[simp] theorem returns_bind : Returns (first >>= next) ↔
    Returns first ∧ ∀ value, first = .ok value → Returns (next value) := by
  unfold Returns
  rw [ne_eq, panics_bind, not_or, not_exists]
  exact and_congr_right fun _ => forall_congr' fun _ => not_and

@[simp] theorem returns_map {change : α → β} : Returns (change <$> first) ↔ Returns first := by
  cases first <;> simp [Returns]

@[simp] theorem returns_demand (condition : Prop) [Decidable condition] (reason : ε) :
    Returns (demand condition (.refused reason)) := by
  unfold demand
  split <;> exact nofun

@[simp] theorem returns_orRefuse (option : Option α) (reason : ε) : Returns (orRefuse option reason) := by
  cases option <;> exact nofun

@[simp] theorem returns_ite {condition : Prop} [Decidable condition] {one two : Outcome ε α} :
    Returns (if condition then one else two) ↔ (condition → Returns one) ∧ (¬ condition → Returns two) := by
  split
  · rename_i holds
    exact ⟨fun returns => ⟨fun _ => returns, fun fails => absurd holds fails⟩, fun both => both.1 holds⟩
  · rename_i fails
    exact ⟨fun returns => ⟨fun holds => absurd holds fails, fun _ => returns⟩, fun both => both.2 fails⟩

theorem returns_foldlM {body : β → ι → Outcome ε β} (each : ∀ value item, Returns (body value item)) :
    ∀ (items : List ι) (value : β), Returns (items.foldlM body value)
  | [], value => returns_pure value
  | item :: rest, value => by
      rw [foldlM_cons, returns_bind]
      exact ⟨each value item, fun next _ => returns_foldlM each rest next⟩

theorem returns_forM {body : ι → Outcome ε Unit} (each : ∀ item, Returns (body item)) :
    ∀ items : List ι, Returns (items.forM body)
  | [] => returns_pure ()
  | item :: rest => by
      change Returns (body item >>= fun _ => rest.forM body)
      rw [returns_bind]
      exact ⟨each item, fun _ _ => returns_forM each rest⟩

/-- A loop panics in the first round that does. -/
theorem panics_foldlM_range {body : β → Nat → Outcome ε β} {start : β} : ∀ {count : Nat},
    (range count).foldlM body start = .error .panicked ↔
      ∃ index < count, ∃ middle, (range index).foldlM body start = .ok middle ∧
        body middle index = .error .panicked
  | 0 => by
      rw [range_zero, foldlM_nil]
      exact ⟨nofun, fun ⟨_, absent, _⟩ => absurd absent (Nat.not_lt_zero _)⟩
  | count + 1 => by
      have single : ∀ middle, [count].foldlM body middle = body middle count := fun middle => by
        rw [foldlM_cons]
        exact bind_pure _
      rw [range_succ, foldlM_append, panics_bind, panics_foldlM_range]
      simp only [single]
      constructor
      · rintro (⟨index, less, stops⟩ | stops)
        · exact ⟨index, Nat.lt_succ_of_lt less, stops⟩
        · exact ⟨count, Nat.lt_succ_self _, stops⟩
      · rintro ⟨index, less, stops⟩
        rcases Nat.lt_succ_iff_lt_or_eq.mp less with before | rfl
        · exact .inl ⟨index, before, stops⟩
        · exact .inr stops

end Returns

end PooleOS
