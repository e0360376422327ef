import PooleOS.Recovery.Choice

/- The two reports on a boot in flight, as pure functions of the state. -/
namespace PooleOS.Recovery

open Nat

section

/-- The rules that give up the pending slot when it is the one in flight. -/
def Clears (failureId : Nat) : Prop := (ruleOf failureId).flags &&& failureClearPending ≠ 0

instance (failureId : Nat) : Decidable (Clears failureId) := inferInstanceAs (Decidable (_ ≠ _))

namespace State

/-- The state after a success of this slot in this mode. -/
def succeeded (policy : Bundle) (state : State) (slot mode generation evidence : Nat) : State :=
  { setAttempts state slot policy.maxAttempts with
    flags := without state.flags (stateInflight ||| stateRecoveryRequested ||| stateSafeRequested)
    generation
    minimumSecureVersion := max state.minimumSecureVersion policy.minimumSecureVersion
    activeSlot := slot
    pendingSlot := if state.pendingSlot = slot then 0 else state.pendingSlot
    knownGoodMask := state.knownGoodMask ||| bitOf slot
    unbootableMask := without state.unbootableMask (bitOf slot)
    currentMode := mode
    lastFailure := 0
    bootNonce := 0
    inflightGeneration := 0
    inflightSlot := 0
    inflightMode := 0
    lastSuccessSlot := slot
    lastSuccessGeneration := generation
    policyVersion := policy.bundleVersion
    evidenceSequence := evidence }

/-- What the flags of a rule do to the slot in flight. -/
def ruled (state : State) (failureId : Nat) : State :=
  { state with
    unbootableMask := if Marks failureId then state.unbootableMask ||| bitOf state.inflightSlot
      else state.unbootableMask
    knownGoodMask := if Marks failureId then without state.knownGoodMask (bitOf state.inflightSlot)
      else state.knownGoodMask
    pendingSlot := if Clears failureId ∧ state.pendingSlot = state.inflightSlot then 0
      else state.pendingSlot }

/-- A boot of the pending slot that no success has confirmed. -/
def OnTrial (state : State) : Prop :=
  state.pendingSlot = state.inflightSlot ∧ state.knownGoodMask &&& bitOf state.inflightSlot = 0

instance (state : State) : Decidable state.OnTrial := inferInstanceAs (Decidable (_ ∧ _))

/-- The action of a failure, before the previous slot is looked at. -/
def ruledAction (state : State) (failureId : Nat) : Nat :=
  let rule := ruleOf failureId
  let action :=
    if rule.primaryAction = actionRetryCandidate ∧
      (¬ state.OnTrial ∨ attempts state state.inflightSlot = 0) then rule.fallbackAction
    else rule.primaryAction
  if action = actionSafe ∧ ¬ state.Untried state.inflightSlot then rule.fallbackAction else action

def failureAction (policy : Bundle) (state : State) (failureId : Nat) : Nat :=
  let action := state.ruledAction failureId
  let next := state.ruled failureId
  let other := 3 - state.inflightSlot
  if action = actionPrevious ∧ ¬ (Eligible policy next other ∧ next.KnownGood other) then actionRecovery
  else action

/-- The mode of an action that the rules know. -/
def modeOf (action : Nat) : Nat :=
  if action = actionRetryCandidate then modeNormal
  else if action = actionSafe then modeSafe
  else if action = actionPrevious then modePrevious
  else if action = actionRecovery ∨ action = actionHalt then modeRecovery
  else modeFirmware

/-- The state after a failure of the slot in flight. -/
def failed (policy : Bundle) (state : State) (failureId generation evidence : Nat) : State :=
  { state.ruled failureId with
    flags := without state.flags stateInflight
    generation
    currentMode := modeOf (state.failureAction policy failureId)
    lastFailure := failureId
    bootNonce := 0
    inflightGeneration := 0
    inflightSlot := 0
    inflightMode := 0
    evidenceSequence := evidence }

end State

variable {sha : Sha256} {policy : Bundle} {state : State}

/-- The actions that the rules name. -/
def IsAction (action : Nat) : Prop := 1 ≤ action ∧ action ≤ 6

instance (action : Nat) : Decidable (IsAction action) := inferInstanceAs (Decidable (_ ∧ _))

/-- A failure id that has a rule. -/
def IsFailure (failureId : Nat) : Prop := 1 ≤ failureId ∧ failureId ≤ failureCount

instance (failureId : Nat) : Decidable (IsFailure failureId) := inferInstanceAs (Decidable (_ ∧ _))

theorem rule_actions {failureId : Nat} (known : IsFailure failureId) :
    IsAction (ruleOf failureId).primaryAction ∧ IsAction (ruleOf failureId).fallbackAction := by
  have each : ∀ index < 11, 1 ≤ index →
      IsAction (ruleOf index).primaryAction ∧ IsAction (ruleOf index).fallbackAction := by decide
  exact each failureId (lt_succ_of_le known.2) known.1

theorem failureAction_isAction {failureId : Nat} (known : IsFailure failureId) :
    IsAction (state.failureAction policy failureId) := by
  obtain ⟨primary, fallback⟩ := rule_actions known
  have recovery : IsAction actionRecovery := by decide
  have ruled : IsAction (state.ruledAction failureId) := by
    unfold State.ruledAction
    dsimp only
    split <;> split <;> assumption
  unfold State.failureAction
  dsimp only
  split
  · exact recovery
  · exact ruled

theorem actionMode_eq {action : Nat} (known : IsAction action) : actionMode action = .ok (State.modeOf action) := by
  have each : ∀ index < 7, 1 ≤ index → actionMode index = .ok (State.modeOf index) := by decide
  exact each action (lt_succ_of_le known.2) known.1

theorem modeOf_known {action : Nat} (known : IsAction action) : State.modeOf action ≤ modeFirmware := by
  have each : ∀ index < 7, 1 ≤ index → State.modeOf index ≤ modeFirmware := by decide
  exact each action (lt_succ_of_le known.2) known.1

theorem demand_inflight (reason : Error) :
    demand (state.flags &&& stateInflight ≠ 0) reason = demand state.Inflight reason := rfl

/-- A success report on an accepted state. -/
theorem reportBootSuccess_eq (typed : state.Typed) (accepted : state.Accepted policy)
    (receipt : SuccessReceipt) : reportBootSuccess sha policy state receipt = (do
      demand (receipt.authenticated = true) .receiptAuth
      demand state.Inflight .receiptInflight
      demand (receipt.generation = state.inflightGeneration ∧ receipt.slot = state.inflightSlot ∧
        receipt.mode = state.inflightMode ∧ receipt.bootNonce = state.bootNonce) .receiptBinding
      let generation ← nextGeneration state
      return state.succeeded policy receipt.slot receipt.mode generation (nextEvidence state)) := by
  unfold reportBootSuccess
  rw [(validate_iff sha typed).mpr accepted, ok_bind, demand_inflight]
  congr 1
  funext _
  by_cases inflight : state.Inflight
  · by_cases bound : receipt.generation = state.inflightGeneration ∧ receipt.slot = state.inflightSlot ∧
        receipt.mode = state.inflightMode ∧ receipt.bootNonce = state.bootNonce
    · have isSlot : IsSlot receipt.slot := bound.2.1 ▸ (accepted.valid.flying inflight).2.2.1
      rw [demand_pass bound, ok_bind, ok_bind, slotBit_eq isSlot, ok_bind]
      congr 1
      funext generation
      unfold State.succeeded setAttempts
      by_cases first : receipt.slot = 1 <;> simp only [first, ↓reduceIte]
    · rw [demand_stop bound]
      rfl
  · rw [demand_stop inflight]
    rfl

theorem failureAction_eq (sound : policy.Sound) (isSlot : IsSlot state.inflightSlot) {failureId : Nat} :
    withPrevious policy (state.ruled failureId) state.inflightSlot (state.ruledAction failureId) =
      .ok (state.failureAction policy failureId) := by
  unfold withPrevious
  dsimp only
  rw [eligible_eq sound (other_isSlot isSlot), ok_bind]
  unfold State.failureAction
  by_cases previous : state.ruledAction failureId = actionPrevious
  · by_cases fits : Eligible policy (state.ruled failureId) (3 - state.inflightSlot) ∧
        (state.ruled failureId).KnownGood (3 - state.inflightSlot)
    · rw [if_pos previous, if_pos (decide_eq_true ⟨fits.1, fun _ => fits.2⟩),
        if_neg (fun both => both.2 fits)]
      rfl
    · rw [if_pos previous, if_neg, if_pos ⟨previous, fits⟩]
      · rfl
      · intro eligible
        have both := of_decide_eq_true eligible
        exact fits ⟨both.1, both.2 rfl⟩
  · rw [if_neg previous, if_neg (fun both => previous both.1)]
    rfl

/-- A failure report on an accepted state. -/
theorem reportBootFailure_eq (typed : state.Typed) (sound : policy.Sound) (accepted : state.Accepted policy)
    (failureId : Nat) (authenticated : Bool) : reportBootFailure sha policy state failureId authenticated = (do
      demand (authenticated = true) .failureReceiptAuth
      demand state.Inflight .failureReceiptInflight
      demand (IsFailure failureId) .failureReceiptId
      let generation ← nextGeneration state
      return {
        action := state.failureAction policy failureId
        state := state.failed policy failureId generation (nextEvidence state) }) := by
  unfold reportBootFailure
  rw [(validate_iff sha typed).mpr accepted, ok_bind, demand_inflight]
  congr 1
  funext _
  by_cases inflight : state.Inflight
  · rw [demand_pass inflight, ok_bind, ok_bind]
    by_cases known : IsFailure failureId
    · have isSlot := (accepted.valid.flying inflight).2.2.1
      rw [sound.failureRule_eq known, demand_pass known, ok_bind, ok_bind]
      dsimp only
      rw [slotBit_eq isSlot, ok_bind]
      change (withPrevious policy (state.ruled failureId) state.inflightSlot (state.ruledAction failureId) >>= _) = _
      rw [failureAction_eq sound isSlot, ok_bind]
      congr 1
      funext generation
      rw [actionMode_eq (failureAction_isAction known)]
      rfl
    · have unknown : failureRule policy failureId = .error .failureReceiptId := by
        unfold failureRule
        rw [demand_stop (show ¬ (1 ≤ failureId ∧ failureId ≤ failureCount) from known)]
        rfl
      rw [unknown, demand_stop known]
      rfl
  · rw [demand_stop inflight]
    rfl

end

section Masks

/-- The slot that is given up is no longer known good, and the other bits stay. -/
theorem giveUp_masks {known unbootable slot active : Nat} (knownLow : known < 4) (unbootableLow : unbootable < 4)
    (isSlot : IsSlot slot) (isActive : IsSlot active) (distinct : slot ≠ active) (disjoint : known &&& unbootable = 0)
    (activeKnown : known &&& bitOf active ≠ 0) : without known (bitOf slot) < 4 ∧ unbootable ||| bitOf slot < 4 ∧
      without known (bitOf slot) &&& (unbootable ||| bitOf slot) = 0 ∧
      without known (bitOf slot) &&& bitOf active ≠ 0 := by
  have each : ∀ known unbootable : Fin 4, ∀ slot active : Fin 3,
      IsSlot slot ∧ IsSlot active ∧ slot.val ≠ active.val ∧ known.val &&& unbootable.val = 0 ∧
        known.val &&& bitOf active ≠ 0 →
      without known (bitOf slot) < 4 ∧ unbootable.val ||| bitOf slot < 4 ∧
        without known (bitOf slot) &&& (unbootable.val ||| bitOf slot) = 0 ∧
        without known (bitOf slot) &&& bitOf active ≠ 0 := by decide
  exact each ⟨known, knownLow⟩ ⟨unbootable, unbootableLow⟩ ⟨slot, lt_succ_of_le isSlot.2⟩
    ⟨active, lt_succ_of_le isActive.2⟩ ⟨isSlot, isActive, distinct, disjoint, activeKnown⟩

/-- The slot that succeeded is known good and bootable. -/
theorem confirm_masks {known unbootable slot : Nat} (knownLow : known < 4) (unbootableLow : unbootable < 4)
    (isSlot : IsSlot slot) (disjoint : known &&& unbootable = 0) :
    known ||| bitOf slot < 4 ∧ without unbootable (bitOf slot) < 4 ∧
      (known ||| bitOf slot) &&& without unbootable (bitOf slot) = 0 ∧ (known ||| bitOf slot) &&& bitOf slot ≠ 0 := by
  have each : ∀ known unbootable : Fin 4, ∀ slot : Fin 3,
      IsSlot slot ∧ known.val &&& unbootable.val = 0 →
      known.val ||| bitOf slot < 4 ∧ without unbootable (bitOf slot) < 4 ∧
        (known.val ||| bitOf slot) &&& without unbootable (bitOf slot) = 0 ∧
        (known.val ||| bitOf slot) &&& bitOf slot ≠ 0 := by decide
  exact each ⟨known, knownLow⟩ ⟨unbootable, unbootableLow⟩ ⟨slot, lt_succ_of_le isSlot.2⟩
    ⟨isSlot, disjoint⟩

theorem try_mask {safe slot : Nat} (low : safe < 4) (isSlot : IsSlot slot) : safe ||| bitOf slot < 4 := by
  have each : ∀ safe < 4, ∀ slot < 3, IsSlot slot → safe ||| bitOf slot < 4 := by decide
  exact each safe low slot (lt_succ_of_le isSlot.2) isSlot

theorem launch_flags {flags : Nat} (low : flags < 8) :
    without (flags ||| stateInflight) (stateRecoveryRequested ||| stateSafeRequested) < 8 ∧
      without (flags ||| stateInflight) (stateRecoveryRequested ||| stateSafeRequested) &&& stateInflight ≠ 0 := by
  revert flags
  decide

/-- Clearing the flag of the boot in flight, with other flags or without. -/
theorem land_flags {flags : Nat} (low : flags < 8) {bits : Nat} (known : bits < 8)
    (lands : bits &&& stateInflight ≠ 0) :
    without flags bits < 8 ∧ without flags bits &&& stateInflight = 0 := by
  revert flags bits
  decide

end Masks

variable {policy : Bundle} {state next : State} {slot mode nonce evidence : Nat}

section Valid

section

variable (valid : state.Valid)
include valid

theorem State.Valid.pendingSlot (pending : state.pendingSlot ≠ 0) :
    IsSlot state.pendingSlot := ⟨pos_of_ne_zero pending, valid.pending⟩

theorem State.Valid.retire (pending : state.pendingSlot ≠ 0) : state.retire.Valid := by
  obtain ⟨known, unbootable, disjoint, active⟩ := giveUp_masks valid.known valid.unbootable
    (valid.pendingSlot pending) valid.active valid.distinct valid.disjoint valid.activeKnown
  have one := valid.active.1
  exact { valid with
    pending := zero_le _
    distinct := (ne_of_gt one).symm
    known
    unbootable
    disjoint
    activeKnown := active
    failure := show failAttemptExhausted ≤ failureCount by decide
    flying := valid.flying
    idle := valid.idle }

theorem State.Valid.setAttempts (slot : Nat) {value : Nat} (within : value ≤ maxAttemptsLimit) :
    (setAttempts state slot value).Valid := by
  unfold Recovery.setAttempts
  split
  · exact { valid with attemptsA := within, flying := valid.flying, idle := valid.idle }
  · exact { valid with attemptsB := within, flying := valid.flying, idle := valid.idle }

theorem State.Valid.firmware (idle : ¬ state.Inflight) (fresh : evidence ≠ 0) :
    ((Choice.firmware state).decision nonce (state.generation + 1) evidence).state.Valid :=
  { valid with
    generation := succ_ne_zero _
    mode := show modeFirmware ≤ modeFirmware by decide
    past := le_succ_of_le valid.past
    evidence := fresh
    flying := fun inflight => absurd inflight idle
    idle := valid.idle }

theorem State.Valid.recover {reason : Nat} (known : reason ≤ failureCount)
    (fresh : evidence ≠ 0) :
    ((Choice.recover state reason).decision nonce (state.generation + 1) evidence).state.Valid := by
  obtain ⟨low, landed⟩ := land_flags valid.flags
    (show stateInflight ||| stateSafeRequested < 8 by decide) (by decide)
  exact { valid with
    flags := low
    generation := succ_ne_zero _
    mode := show modeRecovery ≤ modeFirmware by decide
    failure := known
    past := le_succ_of_le valid.past
    evidence := fresh
    flying := fun inflight => absurd landed inflight
    idle := fun _ => ⟨rfl, rfl, rfl, rfl⟩ }

theorem State.Valid.boot (isSlot : IsSlot slot) (known : modeNormal ≤ mode ∧ mode ≤ modeFirmware)
    {trial : Bool} {safeMask : Nat} (low : safeMask < 4) (fresh : evidence ≠ 0) (some : nonce ≠ 0) :
    ((Choice.boot state slot mode trial safeMask).decision nonce (state.generation + 1) evidence).state.Valid := by
  obtain ⟨small, launched⟩ := launch_flags valid.flags
  exact { valid with
    flags := small
    generation := succ_ne_zero _
    safe := low
    mode := known.2
    past := le_succ_of_le valid.past
    evidence := fresh
    flying := fun _ => ⟨some, rfl, isSlot, known, rfl⟩
    idle := fun idle => absurd launched idle }

theorem State.Valid.succeed (sound : policy.Sound) (isSlot : IsSlot slot)
    (known : mode ≤ modeFirmware) (fresh : evidence ≠ 0) :
    (state.succeeded policy slot mode (state.generation + 1) evidence).Valid := by
  obtain ⟨knownLow, unbootable, disjoint, active⟩ := confirm_masks valid.known valid.unbootable isSlot
    valid.disjoint
  obtain ⟨low, landed⟩ := land_flags valid.flags
    (show stateInflight ||| stateRecoveryRequested ||| stateSafeRequested < 8 by decide) (by decide)
  have attempts := valid.setAttempts slot sound.attempts
  exact {
    flags := low
    generation := succ_ne_zero _
    floor := ne_of_gt (lt_of_lt_of_le (pos_of_ne_zero valid.floor) (le_max_left ..))
    active := isSlot
    pending := by
      change (if state.pendingSlot = slot then 0 else state.pendingSlot) ≤ 2
      split
      · exact zero_le _
      · exact valid.pending
    distinct := by
      change (if state.pendingSlot = slot then 0 else state.pendingSlot) ≠ slot
      split
      · exact (ne_of_gt isSlot.1).symm
      · assumption
    known := knownLow
    unbootable
    safe := attempts.safe
    disjoint
    activeKnown := active
    attemptsA := attempts.attemptsA
    attemptsB := attempts.attemptsB
    mode := known
    failure := zero_le _
    success := isSlot
    succeeded := succ_ne_zero _
    past := le_refl _
    policy := sound.version
    epoch := attempts.epoch
    evidence := fresh
    flying := fun inflight => absurd landed inflight
    idle := fun _ => ⟨rfl, rfl, rfl, rfl⟩ }

theorem State.Valid.ruled (isSlot : IsSlot state.inflightSlot) {failureId : Nat}
    (spares : Marks failureId → state.inflightSlot ≠ state.activeSlot) : (state.ruled failureId).Valid := by
  have pending : (state.ruled failureId).pendingSlot ≤ 2 ∧
      (state.ruled failureId).pendingSlot ≠ state.activeSlot := by
    unfold State.ruled
    split
    · exact ⟨zero_le _, (ne_of_gt valid.active.1).symm⟩
    · exact ⟨valid.pending, valid.distinct⟩
  have masks : (state.ruled failureId).knownGoodMask < 4 ∧ (state.ruled failureId).unbootableMask < 4 ∧
      (state.ruled failureId).knownGoodMask &&& (state.ruled failureId).unbootableMask = 0 ∧
      (state.ruled failureId).knownGoodMask &&& bitOf state.activeSlot ≠ 0 := by
    unfold State.ruled
    by_cases marks : Marks failureId
    · simp only [if_pos marks]
      exact giveUp_masks valid.known valid.unbootable isSlot valid.active (spares marks) valid.disjoint
        valid.activeKnown
    · simp only [if_neg marks]
      exact ⟨valid.known, valid.unbootable, valid.disjoint, valid.activeKnown⟩
  exact { valid with
    pending := pending.1
    distinct := pending.2
    known := masks.1
    unbootable := masks.2.1
    disjoint := masks.2.2.1
    activeKnown := masks.2.2.2
    flying := valid.flying
    idle := valid.idle }

theorem State.Valid.fail (isSlot : IsSlot state.inflightSlot) {failureId : Nat}
    (known : IsFailure failureId) (spares : Marks failureId → state.inflightSlot ≠ state.activeSlot)
    (fresh : evidence ≠ 0) : (state.failed policy failureId (state.generation + 1) evidence).Valid := by
  have ruled := valid.ruled isSlot spares
  obtain ⟨low, landed⟩ := land_flags valid.flags (show stateInflight < 8 by decide) (by decide)
  exact { ruled with
    flags := low
    generation := succ_ne_zero _
    mode := modeOf_known (failureAction_isAction known)
    failure := known.2
    past := le_succ_of_le valid.past
    evidence := fresh
    flying := fun inflight => absurd landed inflight
    idle := fun _ => ⟨rfl, rfl, rfl, rfl⟩ }

end

/-- A rule that retires the active slot leaves no valid state. -/
theorem State.failed_invalid {failureId generation : Nat} (marks : Marks failureId)
    (same : state.inflightSlot = state.activeSlot) : ¬ (state.failed policy failureId generation evidence).Valid := by
  intro valid
  apply valid.activeKnown
  change (if Marks failureId then without state.knownGoodMask (bitOf state.inflightSlot)
    else state.knownGoodMask) &&& bitOf state.activeSlot = 0
  rw [if_pos marks, same]
  exact without_and

end Valid

section Bound

theorem State.Bound.setAttempts (bound : state.Bound policy) (slot : Nat) {value : Nat}
    (within : value ≤ policy.maxAttempts) : (setAttempts state slot value).Bound policy := by
  unfold Recovery.setAttempts
  split
  · exact { bound with attemptsA := within }
  · exact { bound with attemptsB := within }

theorem State.Bound.attempts_le (bound : state.Bound policy) (slot : Nat) :
    attempts state slot ≤ policy.maxAttempts := by
  unfold attempts
  split
  · exact bound.attemptsA
  · exact bound.attemptsB

theorem State.Bound.retire (bound : state.Bound policy) : state.retire.Bound policy := { bound with }

end Bound

section Typed

/-- The fields that are full words. -/
structure State.Wide (state : State) : Prop where
  generation : state.generation < 2 ^ 64
  floor : state.minimumSecureVersion < 2 ^ 64
  transaction : state.transactionId < 2 ^ 64
  nonce : state.bootNonce < 2 ^ 64
  policy : state.policyVersion < 2 ^ 64
  epoch : state.stateStoreEpoch < 2 ^ 64
  evidence : state.evidenceSequence < 2 ^ 64

theorem State.Typed.wide (typed : state.Typed) : state.Wide := by
  have field := fun other member => typed other member
  simp only [State.fields, List.forall_mem_cons] at field
  obtain ⟨-, -, -, -, generation, floor, -, -, -, -, -, -, -, -, -, transaction, nonce, -, -, -, -, -,
    policy, epoch, evidence, -⟩ := field
  exact ⟨generation, floor, transaction, nonce, policy, epoch, evidence⟩

/-- The fields that are small, and the two that follow the generation. -/
structure State.Small (state : State) : Prop where
  flags : state.flags < 8
  active : state.activeSlot ≤ 2
  pending : state.pendingSlot ≤ 2
  known : state.knownGoodMask < 4
  unbootable : state.unbootableMask < 4
  attemptsA : state.attemptsA ≤ 7
  attemptsB : state.attemptsB ≤ 7
  safe : state.safeAttemptedMask < 4
  mode : state.currentMode ≤ 6
  failure : state.lastFailure ≤ 10
  flight : state.inflightGeneration ≤ state.generation
  slot : state.inflightSlot ≤ 2
  flightMode : state.inflightMode ≤ 6
  success : state.lastSuccessSlot ≤ 2
  past : state.lastSuccessGeneration ≤ state.generation

theorem State.Small.typed (small : state.Small) (wide : state.Wide) : state.Typed := by
  obtain ⟨flags, active, pending, known, unbootable, attemptsA, attemptsB, safe, mode, failure, flight,
    slot, flightMode, success, past⟩ := small
  obtain ⟨generation, floor, transaction, nonce, policy, epoch, evidence⟩ := wide
  unfold State.Typed State.fields
  simp only [List.forall_mem_cons, List.not_mem_nil, false_implies, implies_true, and_true, reducePow] at *
  refine ⟨by decide, by decide, by decide, ?_⟩
  omega

theorem State.Valid.small (valid : state.Valid) : state.Small := by
  have flight : state.inflightGeneration ≤ state.generation ∧ state.inflightSlot ≤ 2 ∧
      state.inflightMode ≤ 6 := by
    by_cases inflight : state.Inflight
    · obtain ⟨-, same, isSlot, known, -⟩ := valid.flying inflight
      exact ⟨le_of_eq same, isSlot.2, known.2⟩
    · obtain ⟨-, none, noSlot, noMode⟩ := valid.idle inflight
      rw [none, noSlot, noMode]
      exact ⟨zero_le _, zero_le _, zero_le _⟩
  exact ⟨valid.flags, valid.active.2, valid.pending, valid.known, valid.unbootable, valid.attemptsA,
    valid.attemptsB, valid.safe, valid.mode, valid.failure, flight.1, flight.2.1, flight.2.2,
    valid.success.2, valid.past⟩

/-- A failure of any kind leaves the small fields small. -/
theorem State.Valid.failed_small (valid : state.Valid) (isSlot : IsSlot state.inflightSlot) {failureId : Nat}
    (known : IsFailure failureId) : (state.failed policy failureId (state.generation + 1) evidence).Small := by
  have small := valid.small
  obtain ⟨low, -⟩ := land_flags valid.flags (show stateInflight < 8 by decide) (by decide)
  have pending : (state.ruled failureId).pendingSlot ≤ 2 := by
    unfold State.ruled
    split
    · exact zero_le _
    · exact valid.pending
  have unbootable : (state.ruled failureId).unbootableMask < 4 := by
    unfold State.ruled
    dsimp only
    split
    · exact try_mask valid.unbootable isSlot
    · exact valid.unbootable
  have good : (state.ruled failureId).knownGoodMask < 4 := by
    unfold State.ruled
    dsimp only
    split
    · exact @without_lt _ _ 2 valid.known
    · exact valid.known
  exact { small with
    flags := low
    pending
    known := good
    unbootable
    mode := modeOf_known (failureAction_isAction known)
    failure := known.2
    flight := zero_le _
    slot := zero_le _
    flightMode := zero_le _
    past := le_succ_of_le valid.past }

end Typed

end PooleOS.Recovery
