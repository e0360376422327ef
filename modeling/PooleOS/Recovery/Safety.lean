import PooleOS.Lib.History
import PooleOS.Recovery.Runs

/- What holds over a whole run of boots and reports, however they alternate. -/
namespace PooleOS.Recovery

open List Nat

abbrev Event : Type := Entry State Call Answer

/-- The boot of a slot, when the answer is one. -/
def Answer.selection : Answer → Option Decision
  | .decided decision => if decision.slot ≠ 0 then some decision else none
  | _ => none

def Answer.isReport : Answer → Bool
  | .decided _ => false
  | _ => true

/-- Whether the state in the answer takes the place of the one before. -/
def Answer.replaces : Answer → Bool
  | .decided decision => decision.persistenceRequired
  | _ => true

def Answer.onTrial (answer : Answer) : Bool := answer.selection.any (·.trial)

/-- A boot of this slot in safe mode. -/
def Answer.safely (slot : Nat) (answer : Answer) : Bool :=
  answer.selection.any (fun decision => decision.mode == modeSafe && decision.slot == slot)

def Event.selects (event : Event) : Bool := event.answer.selection.isSome

def Event.reports (event : Event) : Bool := event.answer.isReport

/-- The trials that the pending slot has left. -/
def State.trials (state : State) : Nat :=
  if state.pendingSlot = 0 then 0 else attempts state state.pendingSlot

/-- The safety of a run, in terms of its accepted calls. -/
structure SafeRun (policy : Bundle) (start : State) (events : List Event) : Prop where
  generation : ∀ event ∈ events, if event.answer.replaces then
    event.before.generation < event.answer.state.generation else event.answer.state = event.before
  ordered : events.Pairwise fun first second =>
    first.answer.state.generation ≤ second.before.generation
  admitted : ∀ event ∈ events, ∀ decision, event.answer.selection = some decision →
    event.before.unbootableMask &&& bitOf decision.slot = 0 ∧
      max policy.minimumSecureVersion event.before.minimumSecureVersion ≤
        policy.slotVersion decision.slot ∧
      (decision.trial = false → event.before.KnownGood decision.slot)
  pending : ∀ event ∈ events, ∀ decision, event.answer.selection = some decision →
    decision.trial = true → decision.slot = start.pendingSlot
  trials : events.countP (·.answer.onTrial) ≤ start.trials
  safeOnce : ∀ slot, events.countP (·.answer.safely slot) ≤ 1
  reports : ∀ before first middle second later, events = before ++ first :: (middle ++ second :: later) →
    first.selects = true → second.selects = true →
    middle.countP Event.reports = middle.countP Event.selects + 1
  receipts : ∀ before event later, events = before ++ event :: later →
    ∀ receipt, event.call = .reportBootSuccess receipt → receipt.authenticated = true ∧
      ∃ earlier ∈ before, ∃ decision, earlier.answer.selection = some decision ∧
        decision.state = event.before ∧ receipt.generation = decision.state.generation ∧
        receipt.slot = decision.slot ∧ receipt.mode = decision.mode ∧
        receipt.bootNonce = decision.state.bootNonce
  once : events.Pairwise fun first second =>
    ∀ receipt, first.call = .reportBootSuccess receipt → second.call ≠ .reportBootSuccess receipt
  floor : (∀ event ∈ events, event.before.minimumSecureVersion ≤ event.answer.state.minimumSecureVersion) ∧
    events.Pairwise fun first second =>
      first.answer.state.minimumSecureVersion ≤ second.before.minimumSecureVersion

/-- What an accepted call does. -/
inductive Move (policy : Bundle) (state : State) : Call → Answer → Prop
  | unwritable (requestedMode : Nat) (physicalPresence : Bool) (bootNonce : Nat) (authenticated : Bool)
      (idle : ¬ state.Inflight) :
      Move policy state (.selectBoot requestedMode physicalPresence bootNonce authenticated false)
        (.decided {
          mode := modeRecovery, slot := 0, trial := false, persistenceRequired := false,
          reason := failStateInvalid, state })
  | chosen (requestedMode : Nat) (physicalPresence : Bool) (bootNonce : Nat) (authenticated : Bool)
      (choice : Choice) (chosen : Chosen policy state choice) (idle : ¬ state.Inflight) :
      Move policy state (.selectBoot requestedMode physicalPresence bootNonce authenticated true)
        (.decided (choice.decision bootNonce (state.generation + 1) (nextEvidence state)))
  | succeeded (receipt : SuccessReceipt) (authenticated : receipt.authenticated = true)
      (inflight : state.Inflight)
      (bound : receipt.generation = state.inflightGeneration ∧ receipt.slot = state.inflightSlot ∧
        receipt.mode = state.inflightMode ∧ receipt.bootNonce = state.bootNonce) :
      Move policy state (.reportBootSuccess receipt)
        (.succeeded (state.succeeded policy receipt.slot receipt.mode (state.generation + 1) (nextEvidence state)))
  | failed (failureId : Nat) (authenticated : Bool) (inflight : state.Inflight) :
      Move policy state (.reportBootFailure failureId authenticated)
        (.failed {
          action := state.failureAction policy failureId
          state := state.failed policy failureId (state.generation + 1) (nextEvidence state) })

variable {sha : Sha256} {policy : Bundle} {state : State} {call : Call} {answer : Answer}

theorem perform_move (typed : state.Typed) (sound : policy.Sound) (ok : perform sha policy state call = .ok answer) :
    state.Accepted policy ∧ Move policy state call answer := by
  cases call with
  | selectBoot requestedMode physicalPresence bootNonce authenticated writable =>
    obtain ⟨decision, decided, rfl⟩ := map_eq_ok.mp ok
    obtain ⟨accepted, -, idle, outcome⟩ := (selectBoot_ok typed sound).mp decided
    rcases outcome with ⟨rfl, rfl⟩ | ⟨rfl, known, -, committed⟩
    · exact ⟨accepted, .unwritable requestedMode physicalPresence bootNonce authenticated idle⟩
    · obtain ⟨-, -, rfl⟩ := commit_ok.mp committed
      exact ⟨accepted, .chosen requestedMode physicalPresence bootNonce authenticated _
        (choose_chosen accepted.valid.active known) idle⟩
  | reportBootSuccess receipt =>
    obtain ⟨next, reported, rfl⟩ := map_eq_ok.mp ok
    obtain ⟨accepted, authenticated, inflight, bound, -, rfl⟩ := (reportBootSuccess_ok typed).mp reported
    exact ⟨accepted, .succeeded receipt authenticated inflight bound⟩
  | reportBootFailure failureId authenticated =>
    obtain ⟨decision, reported, rfl⟩ := map_eq_ok.mp ok
    obtain ⟨accepted, -, inflight, -, -, rfl⟩ := (reportBootFailure_ok typed sound).mp reported
    exact ⟨accepted, .failed failureId authenticated inflight⟩

section Moves

variable {decision : Decision}

theorem Answer.selection_some {found : Decision} (selected : (Answer.decided decision).selection =
    some found) : found = decision ∧ decision.slot ≠ 0 := by
  unfold Answer.selection at selected
  dsimp only at selected
  split at selected
  · rename_i booted
    exact ⟨(Option.some.inj selected).symm, booted⟩
  · cases selected

section Boot

variable {next : State} {slot mode nonce generation evidence safeMask : Nat} {trial : Bool}

theorem Answer.selection_boot (isSlot : IsSlot slot) :
    (Answer.decided ((Choice.boot next slot mode trial safeMask).decision nonce generation evidence)).selection =
        some ((Choice.boot next slot mode trial safeMask).decision nonce generation evidence) :=
  if_pos (ne_of_gt isSlot.1)

theorem Answer.onTrial_boot (isSlot : IsSlot slot) :
    (Answer.decided ((Choice.boot next slot mode trial safeMask).decision nonce generation
      evidence)).onTrial = trial := by
  unfold Answer.onTrial
  rw [Answer.selection_boot isSlot]
  rfl

theorem Answer.safely_boot (isSlot : IsSlot slot) (other : Nat) :
    (Answer.decided ((Choice.boot next slot mode trial safeMask).decision nonce generation
      evidence)).safely other = (mode == modeSafe && slot == other) := by
  unfold Answer.safely
  rw [Answer.selection_boot isSlot]
  rfl

end Boot

theorem Move.generation (move : Move policy state call answer) : if answer.replaces then
    state.generation < answer.state.generation else answer.state = state := by
  cases move with
  | unwritable => exact rfl
  | chosen _ _ _ _ choice => cases choice <;> exact lt_succ_self _
  | succeeded => exact lt_succ_self _
  | failed => exact lt_succ_self _

theorem Move.generation_le (move : Move policy state call answer) : state.generation ≤ answer.state.generation := by
  have moved := move.generation
  split at moved
  · exact le_of_lt moved
  · rw [moved]

variable {next : State} {slot : Nat}

/-- The bits that retirement leaves are bits of the state itself. -/
theorem Base.admits (base : Base policy state next)
    (eligible : Eligible policy next slot) (known : next.KnownGood slot) :
    Eligible policy state slot ∧ state.KnownGood slot := by
  cases base with
  | same => exact ⟨eligible, known⟩
  | retired =>
    refine ⟨⟨?_, eligible.2⟩, ?_⟩
    · have clear := eligible.1
      change (state.unbootableMask ||| bitOf state.pendingSlot) &&& bitOf slot = 0 at clear
      rw [and_or_distrib_right] at clear
      exact (or_eq_zero_iff.mp clear).1
    · intro absent
      apply known
      change without state.knownGoodMask (bitOf state.pendingSlot) &&& bitOf slot = 0
      exact without_and_eq_zero absent

theorem Move.admitted (move : Move policy state call answer) (selected : answer.selection = some decision) :
    state.unbootableMask &&& bitOf decision.slot = 0 ∧
      max policy.minimumSecureVersion state.minimumSecureVersion ≤ policy.slotVersion decision.slot ∧
      (decision.trial = false → state.KnownGood decision.slot) := by
  cases move with
  | unwritable => exact absurd rfl (Answer.selection_some selected).2
  | chosen _ _ _ _ choice chosen =>
    obtain ⟨rfl, booted⟩ := Answer.selection_some selected
    cases chosen with
    | firmware => exact absurd rfl booted
    | asked => exact absurd rfl booted
    | exhausted => exact absurd rfl booted
    | trial _ eligible => exact ⟨eligible.1, eligible.2, nofun⟩
    | safe _ _ eligible known => exact ⟨eligible.1, eligible.2, fun _ => known⟩
    | known next base _ _ _ _ eligible known =>
      obtain ⟨fits, good⟩ := base.admits eligible known
      exact ⟨fits.1, fits.2, fun _ => good⟩
  | succeeded => cases selected
  | failed => cases selected

theorem Move.trial (move : Move policy state call answer) (selected : answer.selection = some decision)
    (trial : decision.trial = true) : decision.slot = state.pendingSlot ∧ state.pendingSlot ≠ 0 := by
  cases move with
  | unwritable => exact absurd rfl (Answer.selection_some selected).2
  | chosen _ _ _ _ choice chosen =>
    obtain ⟨rfl, booted⟩ := Answer.selection_some selected
    cases chosen with
    | firmware => exact absurd rfl booted
    | asked => exact absurd rfl booted
    | exhausted => exact absurd rfl booted
    | trial pending => exact ⟨rfl, pending⟩
    | safe => cases trial
    | known => cases trial
  | succeeded => cases selected
  | failed => cases selected

/-- The pending slot is given up or kept, and never set. -/
theorem Move.pending (move : Move policy state call answer) :
    answer.state.pendingSlot = state.pendingSlot ∨ answer.state.pendingSlot = 0 := by
  cases move with
  | unwritable => exact .inl rfl
  | chosen _ _ _ _ choice chosen =>
    cases chosen with
    | firmware => exact .inl rfl
    | asked => exact .inl rfl
    | exhausted next base =>
      cases base with
      | same => exact .inl rfl
      | retired => exact .inr rfl
    | trial =>
      left
      change (setAttempts state _ _).pendingSlot = _
      unfold setAttempts
      split <;> rfl
    | safe => exact .inl rfl
    | known next base =>
      cases base with
      | same => exact .inl rfl
      | retired => exact .inr rfl
  | succeeded receipt =>
    by_cases same : state.pendingSlot = receipt.slot
    · exact .inr (if_pos same)
    · exact .inl (if_neg same)
  | failed failureId =>
    by_cases cleared : Clears failureId ∧ state.pendingSlot = state.inflightSlot
    · exact .inr (if_pos cleared)
    · exact .inl (if_neg cleared)

theorem State.trials_none {state : State} (none : state.pendingSlot = 0) : state.trials = 0 := if_pos none

theorem State.trials_same (pending : next.pendingSlot = state.pendingSlot)
    (attemptsA : next.attemptsA = state.attemptsA) (attemptsB : next.attemptsB = state.attemptsB) :
    next.trials = state.trials := by
  unfold State.trials attempts
  rw [pending, attemptsA, attemptsB]

/-- A trial takes one attempt. -/
theorem trials_setAttempts {value : Nat} (pending : state.pendingSlot ≠ 0) :
    (setAttempts state state.pendingSlot value).trials = value := by
  unfold State.trials setAttempts attempts
  by_cases first : state.pendingSlot = 1
  · rw [if_pos first]
    dsimp only
    rw [if_neg pending, if_pos first]
  · rw [if_neg first]
    dsimp only
    rw [if_neg pending, if_neg first]

theorem Base.trials_le (base : Base policy state next) : next.trials ≤ state.trials := by
  cases base with
  | same => exact le_refl _
  | retired =>
    rw [State.trials_none rfl]
    exact zero_le _

theorem attempts_setAttempts_other {value other : Nat} (isSlot : IsSlot slot) (isOther : IsSlot other)
    (different : other ≠ slot) : attempts (setAttempts state slot value) other = attempts state other := by
  obtain ⟨one, two⟩ := isSlot
  obtain ⟨otherOne, otherTwo⟩ := isOther
  unfold setAttempts attempts
  by_cases first : slot = 1
  · rw [if_pos first, if_neg (by omega), if_neg (by omega)]
  · rw [if_neg first, if_pos (by omega), if_pos (by omega)]

/-- A success confirms the pending slot, or leaves its attempts. -/
theorem State.succeeded_trials (valid : state.Valid) {mode generation evidence : Nat} (isSlot : IsSlot slot) :
    (state.succeeded policy slot mode generation evidence).trials ≤ state.trials := by
  have pendingNext : (state.succeeded policy slot mode generation evidence).pendingSlot =
      if state.pendingSlot = slot then 0 else state.pendingSlot := rfl
  by_cases same : state.pendingSlot = slot
  · rw [State.trials_none (pendingNext.trans (if_pos same))]
    exact zero_le _
  · have kept := pendingNext.trans (if_neg same)
    by_cases none : state.pendingSlot = 0
    · rw [State.trials_none (kept.trans none)]
      exact zero_le _
    · have others : attempts (state.succeeded policy slot mode generation evidence) state.pendingSlot =
          attempts (setAttempts state slot policy.maxAttempts) state.pendingSlot := rfl
      unfold State.trials
      rw [kept, if_neg none, if_neg none, others, attempts_setAttempts_other isSlot (valid.pendingSlot none) same]

theorem State.failed_trials {failureId generation evidence : Nat} :
    (state.failed policy failureId generation evidence).trials ≤ state.trials := by
  have pendingNext : (state.failed policy failureId generation evidence).pendingSlot =
      if Clears failureId ∧ state.pendingSlot = state.inflightSlot then 0 else state.pendingSlot := rfl
  by_cases cleared : Clears failureId ∧ state.pendingSlot = state.inflightSlot
  · rw [State.trials_none (pendingNext.trans (if_pos cleared))]
    exact zero_le _
  · exact le_of_eq (State.trials_same (pendingNext.trans (if_neg cleared)) rfl rfl)

/-- A trial uses up an attempt of the pending slot, and nothing gives one back to it. -/
theorem Move.trials_le (move : Move policy state call answer) (accepted : state.Accepted policy) :
    (if answer.onTrial then 1 else 0) + answer.state.trials ≤ state.trials := by
  cases move with
  | unwritable => exact le_of_eq (zero_add _)
  | chosen _ _ _ _ choice chosen =>
    cases chosen with
    | firmware => exact le_of_eq (zero_add _)
    | asked => exact le_of_eq (zero_add _)
    | exhausted next base => exact (zero_add _).trans_le base.trials_le
    | trial pending eligible left =>
      have set := @trials_setAttempts state (attempts state state.pendingSlot - 1) pending
      have full : state.trials = attempts state state.pendingSlot := if_neg pending
      rw [Answer.onTrial_boot (accepted.valid.pendingSlot pending), full]
      change 1 + (setAttempts state _ _).trials ≤ _
      omega
    | safe slot isSlot =>
      rw [Answer.onTrial_boot isSlot]
      exact le_of_eq (zero_add _)
    | known next base slot _ isSlot =>
      rw [Answer.onTrial_boot isSlot]
      exact (zero_add _).trans_le base.trials_le
  | succeeded receipt _ inflight bound =>
    have isSlot : IsSlot receipt.slot := bound.2.1 ▸ (accepted.valid.flying inflight).2.2.1
    exact (zero_add _).trans_le (State.succeeded_trials accepted.valid isSlot)
  | failed failureId => exact (zero_add _).trans_le State.failed_trials

/-- A slot that was not yet booted in safe mode counts one. -/
def State.safeLeft (state : State) (slot : Nat) : Nat := if state.Untried slot then 1 else 0

theorem safeLeft_same {first second : State} (slot : Nat) (same : second.safeAttemptedMask = first.safeAttemptedMask) :
    second.safeLeft slot = first.safeLeft slot := by
  have untried : second.Untried slot ↔ first.Untried slot := by
    unfold State.Untried
    rw [same]
  exact if_congr untried rfl rfl

theorem Base.safe (base : Base policy state next) : next.safeAttemptedMask = state.safeAttemptedMask := by
  cases base <;> rfl

/-- A safe boot takes the place of its slot and of no other. -/
theorem safeLeft_booted {booted : Nat} (mask : next.safeAttemptedMask = state.safeAttemptedMask ||| bitOf booted)
    (untried : state.Untried booted) : (if booted = slot then 1 else 0) + next.safeLeft slot ≤ state.safeLeft slot := by
  unfold State.safeLeft
  by_cases same : booted = slot
  · subst same
    have tried : ¬ next.Untried booted := by
      unfold State.Untried
      rw [mask, Nat.and_or_distrib_right, Nat.and_self]
      intro none
      have bit := (or_eq_zero_iff.mp none).2
      unfold bitOf at bit
      rw [one_shiftLeft] at bit
      exact absurd bit (Nat.ne_of_gt (Nat.two_pow_pos _))
    rw [if_pos rfl, if_neg tried, if_pos untried]
  · rw [if_neg same, zero_add]
    by_cases left : next.Untried slot
    · have before : state.Untried slot := by
        unfold State.Untried at left ⊢
        rw [mask, and_or_distrib_right] at left
        exact (or_eq_zero_iff.mp left).1
      rw [if_pos left, if_pos before]
    · rw [if_neg left]
      exact zero_le _

/-- A safe boot sets the bit of its slot, and no bit is cleared. -/
theorem Move.safeLeft_le (move : Move policy state call answer) (slot : Nat) (accepted : state.Accepted policy) :
    (if answer.safely slot then 1 else 0) + answer.state.safeLeft slot ≤ state.safeLeft slot := by
  cases move with
  | unwritable => exact le_of_eq (zero_add _)
  | chosen _ _ _ _ choice chosen =>
    cases chosen with
    | firmware => exact le_of_eq (zero_add _)
    | asked => exact le_of_eq (zero_add _)
    | exhausted next base =>
      exact (zero_add _).trans_le (le_of_eq (safeLeft_same slot base.safe))
    | trial pending =>
      rw [Answer.safely_boot (accepted.valid.pendingSlot pending)]
      exact (zero_add _).trans_le (le_of_eq (safeLeft_same slot rfl))
    | safe booted isSlot _ _ untried =>
      rw [Answer.safely_boot isSlot]
      simp only [beq_self_eq_true, Bool.true_and, beq_iff_eq]
      exact safeLeft_booted rfl untried
    | known next base booted mode isSlot plain =>
      have notSafe : (mode == modeSafe) = false := by
        rcases plain with rfl | rfl | rfl <;> rfl
      rw [Answer.safely_boot isSlot, notSafe]
      exact (zero_add _).trans_le (le_of_eq (safeLeft_same slot base.safe))
  | succeeded receipt =>
    refine (zero_add _).trans_le (le_of_eq (safeLeft_same slot ?_))
    change (setAttempts state receipt.slot policy.maxAttempts).safeAttemptedMask = _
    exact setAttempts_safe _
  | failed => exact le_of_eq (zero_add _)

/-- A boot puts a slot in flight, and a report takes it out again. -/
theorem Move.flight (move : Move policy state call answer) (accepted : state.Accepted policy) :
    (answer.selection.isSome = true → ¬ state.Inflight ∧ answer.state.Inflight) ∧
      (answer.isReport = true → state.Inflight ∧ ¬ answer.state.Inflight) ∧
      (answer.selection.isSome = false → answer.isReport = false → ¬ state.Inflight ∧ ¬ answer.state.Inflight) := by
  have flags := accepted.valid.flags
  cases move with
  | unwritable _ _ _ _ idle => exact ⟨nofun, nofun, fun _ _ => ⟨idle, idle⟩⟩
  | chosen _ _ _ _ choice chosen idle =>
    have launched : ∀ {next : State}, next.flags = state.flags →
        without (next.flags ||| stateInflight) (stateRecoveryRequested ||| stateSafeRequested) &&&
          stateInflight ≠ 0 := fun same => same ▸ (launch_flags flags).2
    have landed : ∀ {next : State}, next.flags = state.flags →
        ¬ without next.flags (stateInflight ||| stateSafeRequested) &&& stateInflight ≠ 0 :=
      fun same => not_not.mpr (same ▸ (land_flags flags
        (show stateInflight ||| stateSafeRequested < 8 by decide) (by decide)).2)
    cases chosen with
    | firmware => exact ⟨nofun, nofun, fun _ _ => ⟨idle, idle⟩⟩
    | asked => exact ⟨nofun, nofun, fun _ _ => ⟨idle, landed rfl⟩⟩
    | exhausted next base => exact ⟨nofun, nofun, fun _ _ => ⟨idle, landed base.flags⟩⟩
    | trial pending =>
      rw [Answer.selection_boot (accepted.valid.pendingSlot pending)]
      refine ⟨fun _ => ⟨idle, launched ?_⟩, nofun, nofun⟩
      unfold setAttempts
      split <;> rfl
    | safe _ isSlot =>
      rw [Answer.selection_boot isSlot]
      exact ⟨fun _ => ⟨idle, launched rfl⟩, nofun, nofun⟩
    | known next base _ _ isSlot =>
      rw [Answer.selection_boot isSlot]
      exact ⟨fun _ => ⟨idle, launched base.flags⟩, nofun, nofun⟩
  | succeeded _ _ inflight =>
    have landed := (land_flags flags
      (show stateInflight ||| stateRecoveryRequested ||| stateSafeRequested < 8 by decide)
      (by decide)).2
    exact ⟨nofun, fun _ => ⟨inflight, not_not.mpr landed⟩, nofun⟩
  | failed _ _ inflight =>
    have landed := (land_flags flags (show stateInflight < 8 by decide) (by decide)).2
    exact ⟨nofun, fun _ => ⟨inflight, not_not.mpr landed⟩, nofun⟩

/-- An accepted success is about the boot in flight. -/
theorem Move.receipt {receipt : SuccessReceipt} (move : Move policy state (.reportBootSuccess receipt) answer) :
    receipt.authenticated = true ∧ state.Inflight ∧ state.generation < answer.state.generation ∧
      receipt.generation = state.inflightGeneration ∧ receipt.slot = state.inflightSlot ∧
      receipt.mode = state.inflightMode ∧ receipt.bootNonce = state.bootNonce := by
  cases move with
  | succeeded _ authenticated inflight bound =>
    exact ⟨authenticated, inflight, lt_succ_self _, bound⟩

/-- A boot writes itself into the fields in flight. -/
theorem Move.launched (move : Move policy state call answer) (selected : answer.selection = some decision) :
    answer.state = decision.state ∧ decision.state.inflightGeneration = decision.state.generation ∧
      decision.state.inflightSlot = decision.slot ∧ decision.state.inflightMode = decision.mode := by
  cases move with
  | unwritable => exact absurd rfl (Answer.selection_some selected).2
  | chosen _ _ _ _ choice chosen =>
    obtain ⟨rfl, booted⟩ := Answer.selection_some selected
    cases choice with
    | firmware => exact absurd rfl booted
    | recover => exact absurd rfl booted
    | boot => exact ⟨rfl, rfl, rfl, rfl⟩
  | succeeded => cases selected
  | failed => cases selected

theorem Base.floor (base : Base policy state next) : next.minimumSecureVersion = state.minimumSecureVersion := by
  cases base <;> rfl

theorem Move.floor (move : Move policy state call answer) :
    state.minimumSecureVersion ≤ answer.state.minimumSecureVersion := by
  cases move with
  | unwritable => exact le_refl _
  | chosen _ _ _ _ choice chosen =>
    cases chosen with
    | firmware => exact le_refl _
    | asked => exact le_refl _
    | exhausted next base => exact le_of_eq base.floor.symm
    | trial =>
      change _ ≤ (setAttempts state _ _).minimumSecureVersion
      unfold setAttempts
      split <;> exact le_refl _
    | safe => exact le_refl _
    | known next base => exact le_of_eq base.floor.symm
  | succeeded => exact le_max_left ..
  | failed => exact le_refl _

end Moves

section Runs

variable {data : Bytes} {start : State} {calls : List Call}

/-- The accepted calls of a run. -/
def events (sha : Sha256) (policy : Bundle) (start : State) (calls : List Call) : List Event :=
  history (perform sha policy) Answer.state start calls

/-- What every state of a run keeps: it fits its types, and its pending slot is that of the start. -/
structure Running (start state : State) : Prop where
  typed : state.Typed
  pending : state.pendingSlot = start.pendingSlot ∨ state.pendingSlot = 0

theorem Running.step (running : Running start state) (sound : policy.Sound) (word : call.Typed)
    (ok : perform sha policy state call = .ok answer) :
    state.Accepted policy ∧ Move policy state call answer ∧ Running start answer.state := by
  obtain ⟨accepted, move⟩ := perform_move running.typed sound ok
  refine ⟨accepted, move, perform_typed running.typed sound word ok, ?_⟩
  rcases move.pending with same | none
  · rw [same]
    exact running.pending
  · exact .inr none

theorem events_all (sound : policy.Sound) (running : Running start state) (words : ∀ call ∈ calls, call.Typed)
    {fact : Event → Prop} (each : ∀ event : Event, Running start event.before → event.before.Accepted policy →
      Move policy event.before event.call event.answer → fact event) : ∀ event ∈ events sha policy state calls, fact
    event := by
  refine history_all (Running start) Call.Typed ?_ calls state running words
  intro before call answer running word ok
  obtain ⟨accepted, move, next⟩ := running.step sound word ok
  exact ⟨each ⟨before, call, answer⟩ running accepted move, next⟩

variable {before later : List Event} {event : Event}

/-- The boot in flight at an accepted success report is an earlier decision of the run. -/
theorem events_selected (sound : policy.Sound) (running : Running start start) (idle : ¬ start.Inflight)
    (words : ∀ call ∈ calls, call.Typed) (split : events sha policy start calls = before ++ event :: later)
    (inflight : event.before.Inflight) :
    ∃ earlier ∈ before, earlier.answer.selection.isSome = true ∧ earlier.answer.state = event.before := by
  have raised := @history_raised _ _ _ _ (perform sha policy) Answer.state (Running start) Call.Typed
    State.Inflight (fun entry => entry.answer.selection.isSome = true) ?_ calls start running words
    before event later split inflight
  · rcases raised with ⟨flying, -⟩ | found
    · exact absurd flying idle
    · exact found
  · intro state call answer running word ok
    obtain ⟨accepted, move, next⟩ := running.step sound word ok
    obtain ⟨-, reported, neither⟩ := move.flight accepted
    refine ⟨fun flying => ?_, next⟩
    by_contra none
    rw [Bool.not_eq_true] at none
    cases report : answer.isReport with
    | true => exact (reported report).2 flying
    | false => exact (neither none report).2 flying

/-- The level of a run: one while a boot is in flight. -/
def level (state : State) : Nat := if state.Inflight then 1 else 0

section

variable (sound : policy.Sound) (running : Running start start)
include sound running

theorem events_balance (idle : ¬ start.Inflight)
    (words : ∀ call ∈ calls, call.Typed) (split : events sha policy start calls = before ++ event :: later) :
    before.countP Event.selects = level event.before + before.countP Event.reports := by
  have balance := @history_balance _ _ _ _ (perform sha policy) Answer.state (Running start) Call.Typed
    Event.selects Event.reports level ?_ calls start running words before event later split
  · have none : level start = 0 := if_neg idle
    rw [none, zero_add] at balance
    exact balance
  · intro state call answer running word ok
    obtain ⟨accepted, move, next⟩ := running.step sound word ok
    obtain ⟨selected, reported, neither⟩ := move.flight accepted
    refine ⟨?_, next⟩
    unfold Event.selects Event.reports level
    dsimp only
    cases report : answer.isReport with
    | true =>
      obtain ⟨flying, landed⟩ := reported report
      have unselected : answer.selection.isSome = false := by
        by_contra some
        rw [Bool.not_eq_false] at some
        exact (selected some).1 flying
      simp [flying, landed, unselected]
    | false =>
      cases some : answer.selection.isSome with
      | true =>
        obtain ⟨before, after⟩ := selected some
        simp [before, after]
      | false =>
        obtain ⟨before, after⟩ := neither some report
        simp [before, after]

/-- Between two boots there is one report more than there are boots. -/
theorem events_reports (idle : ¬ start.Inflight)
    (words : ∀ call ∈ calls, call.Typed) {middle : List Event} {first second : Event}
    (split : events sha policy start calls = before ++ first :: (middle ++ second :: later))
    (selectsFirst : first.selects = true) (selectsSecond : second.selects = true) :
    middle.countP Event.reports = middle.countP Event.selects + 1 := by
  have grounded : ∀ event ∈ events sha policy start calls, event.selects = true →
      level event.before = 0 ∧ event.reports = false := by
    refine events_all sound running words ?_
    intro event _ accepted move selects
    have flight := move.flight accepted
    refine ⟨if_neg (flight.1 selects).1, ?_⟩
    by_contra some
    rw [Bool.not_eq_false] at some
    exact (flight.1 selects).1 (flight.2.1 some).1
  have whole : events sha policy start calls = (before ++ first :: middle) ++ second :: later := by
    rw [split, append_assoc, cons_append]
  obtain ⟨firstIdle, firstPlain⟩ := grounded first (by rw [split]; simp) selectsFirst
  obtain ⟨secondIdle, -⟩ := grounded second (by rw [whole]; simp) selectsSecond
  have early := events_balance sound running idle words split
  have late := events_balance sound running idle words whole
  rw [countP_append, countP_append, countP_cons, countP_cons, selectsFirst,
    firstPlain, secondIdle] at late
  rw [firstIdle] at early
  simp only [if_true, Bool.false_eq_true, if_false] at late
  omega

theorem events_ordered (words : ∀ call ∈ calls, call.Typed)
    {measure : State → Nat} (grows : ∀ {state : State} {call : Call} {answer : Answer}, Move policy state call answer →
      measure state ≤ measure answer.state) : (events sha policy start calls).Pairwise fun first second => measure
    first.answer.state ≤ measure second.before := by
  refine (@history_ordered _ _ _ _ (perform sha policy) Answer.state (Running start) Call.Typed measure
    ?_ calls start running words).2
  intro state call answer running word ok
  obtain ⟨-, move, next⟩ := running.step sound word ok
  exact ⟨grows move, next⟩

theorem events_count (words : ∀ call ∈ calls, call.Typed)
    {counted : Answer → Bool} {budget : State → Nat}
    (spends : ∀ {state : State} {call : Call} {answer : Answer}, Move policy state call answer → state.Accepted policy →
      (if counted answer then 1 else 0) + budget answer.state ≤ budget state) : (events sha policy start calls).countP
    (counted ·.answer) ≤ budget start := by
  refine @history_count _ _ _ _ (perform sha policy) Answer.state (Running start) Call.Typed
    (counted ·.answer) budget ?_ calls start running words
  intro state call answer running word ok
  obtain ⟨accepted, move, next⟩ := running.step sound word ok
  exact ⟨spends move accepted, next⟩

/-- A receipt is bound to the generation of its boot, and no later boot has the same one. -/
theorem events_once
    (words : ∀ call ∈ calls, call.Typed) :
    (events sha policy start calls).Pairwise fun first second =>
      ∀ receipt, first.call = .reportBootSuccess receipt → second.call ≠ .reportBootSuccess receipt := by
  have bound : ∀ event ∈ events sha policy start calls, ∀ receipt,
      event.call = .reportBootSuccess receipt → receipt.generation = event.before.generation ∧
        event.before.generation < event.answer.state.generation := by
    refine events_all sound running words ?_
    intro event _ accepted move receipt same
    rw [same] at move
    obtain ⟨-, inflight, grows, generation, -⟩ := move.receipt
    exact ⟨generation.trans (accepted.valid.flying inflight).2.1, grows⟩
  have ordered := @events_ordered sha policy start calls sound running words State.generation
    Move.generation_le
  refine ordered.imp_of_mem ?_
  intro first second memberFirst memberSecond later receipt firstCall secondCall
  obtain ⟨firstBound, grows⟩ := bound first memberFirst receipt firstCall
  obtain ⟨secondBound, -⟩ := bound second memberSecond receipt secondCall
  omega

/-- An accepted success receipt names the boot that the run decided on last. -/
theorem events_receipts (idle : ¬ start.Inflight)
    (words : ∀ call ∈ calls, call.Typed) (split : events sha policy start calls = before ++ event :: later)
    {receipt : SuccessReceipt} (call : event.call = .reportBootSuccess receipt) : receipt.authenticated = true ∧
      ∃ earlier ∈ before, ∃ decision, earlier.answer.selection = some decision ∧
        decision.state = event.before ∧ receipt.generation = decision.state.generation ∧
        receipt.slot = decision.slot ∧ receipt.mode = decision.mode ∧ receipt.bootNonce = decision.state.bootNonce := by
  have moves : ∀ event ∈ events sha policy start calls, Move policy event.before event.call event.answer :=
    events_all sound running words (fun _ _ _ move => move)
  have move := moves event (by rw [split]; simp)
  rw [call] at move
  obtain ⟨authenticated, inflight, -, generation, slot, mode, nonce⟩ := move.receipt
  obtain ⟨earlier, member, selected, same⟩ := events_selected sound running idle words split inflight
  obtain ⟨decision, found⟩ := Option.isSome_iff_exists.mp selected
  obtain ⟨state, flight, flightSlot, flightMode⟩ :=
    (moves earlier (by rw [split]; simp [member])).launched found
  rw [← same, state] at generation slot mode nonce
  exact ⟨authenticated, earlier, member, decision, found, state.symm.trans same,
    generation.trans flight, slot.trans flightSlot, mode.trans flightMode, nonce⟩

end

/-- Every run from a state with nothing in flight is safe. -/
theorem runs_are_safe (parsed : parse sha data = .ok policy) (typed : start.Typed) (idle : ¬ start.Inflight)
    (words : ∀ call ∈ calls, call.Typed) : SafeRun policy start (events sha policy start calls) := by
  have sound := parse_sound parsed
  have running : Running start start := ⟨typed, .inl rfl⟩
  constructor
  case generation => exact events_all sound running words (fun _ _ _ move => move.generation)
  case ordered => exact events_ordered sound running words Move.generation_le
  case admitted =>
    exact events_all sound running words (fun _ _ _ move _ selected => move.admitted selected)
  case pending =>
    refine events_all sound running words ?_
    intro event now _ move decision selected trial
    obtain ⟨slot, pending⟩ := move.trial selected trial
    rcases now.pending with same | none
    · exact slot.trans same
    · exact absurd none pending
  case trials => exact events_count sound running words Move.trials_le
  case safeOnce =>
    intro slot
    refine le_trans (@events_count sha policy start calls sound running words _ (State.safeLeft · slot)
      (fun move accepted => move.safeLeft_le slot accepted)) ?_
    unfold State.safeLeft
    split <;> decide
  case reports => exact fun _ _ _ _ _ => events_reports sound running idle words
  case receipts =>
    exact fun _ _ _ split _ call => events_receipts sound running idle words split call
  case once => exact events_once sound running words
  case floor =>
    exact ⟨events_all sound running words (fun _ _ _ move => move.floor), events_ordered sound running words Move.floor⟩

/-- A run of the canonical policy: the trial, the receipt of another boot, and its own receipt. -/
theorem canonical_run_is_safe :
    SafeRun canonicalPolicy canonicalState (events canonicalSha canonicalPolicy canonicalState
      [.selectBoot 0 false 1 true true, .reportBootSuccess ⟨true, 12, 1, 1, 2⟩,
        .reportBootSuccess ⟨true, 12, 1, 1, 1⟩]) :=
  runs_are_safe canonical_parsed (by decide) (by decide) (by decide)

/-- On a store that cannot be written the decision carries the state it was given. -/
theorem unwritable_keeps_generation : validateStateForPolicy canonicalSha canonicalPolicy canonicalState = .ok () ∧
      ¬ canonicalState.Inflight ∧
      perform canonicalSha canonicalPolicy canonicalState (.selectBoot 0 false 1 true false) =
        .ok (.decided ⟨modeRecovery, 0, false, false, failStateInvalid, canonicalState⟩) ∧ ¬ canonicalState.generation <
        (Answer.decided ⟨modeRecovery, 0, false, false, failStateInvalid, canonicalState⟩).state.generation :=
  ⟨by decide +kernel, by decide, by decide +kernel, by decide⟩

end Runs

end PooleOS.Recovery
