import PooleOS.Recovery.Report

/- Runs of boots and reports over the persisted state. -/
namespace PooleOS.Recovery

open Nat Except

inductive Call
  | selectBoot (requestedMode : Nat) (physicalPresence : Bool) (bootNonce : Nat)
      (stateAuthenticated stateWritable : Bool)
  | reportBootSuccess (receipt : SuccessReceipt)
  | reportBootFailure (failureId : Nat) (authenticated : Bool)
deriving DecidableEq, Repr

inductive Answer
  | decided (decision : Decision)
  | succeeded (state : State)
  | failed (decision : FailureDecision)
deriving DecidableEq, Repr

/-- The state in an answer. -/
def Answer.state : Answer → State
  | .decided decision => decision.state
  | .succeeded state => state
  | .failed decision => decision.state

/-- The three transitions under one name. -/
def perform (sha : Sha256) (policy : Bundle) (state : State) : Call → Except Error Answer
  | .selectBoot requestedMode physicalPresence bootNonce stateAuthenticated stateWritable =>
    Answer.decided <$> selectBoot sha policy state requestedMode physicalPresence bootNonce
      stateAuthenticated stateWritable
  | .reportBootSuccess receipt => Answer.succeeded <$> reportBootSuccess sha policy state receipt
  | .reportBootFailure failureId authenticated =>
    Answer.failed <$> reportBootFailure sha policy state failureId authenticated

/-- The nonce of a selection is a word. -/
def Call.Typed : Call → Prop
  | .selectBoot _ _ bootNonce _ _ => bootNonce < 2 ^ 64
  | _ => True

instance : DecidablePred Call.Typed
  | .selectBoot _ _ bootNonce _ _ => inferInstanceAs (Decidable (bootNonce < 2 ^ 64))
  | .reportBootSuccess _ => isTrue trivial
  | .reportBootFailure _ _ => isTrue trivial

/-- A failure whose rule retires the active slot. -/
def Call.Retires (state : State) : Call → Prop
  | .reportBootFailure failureId _ => Marks failureId ∧ state.inflightSlot = state.activeSlot
  | _ => False

variable {sha : Sha256} {policy : Bundle} {state next : State} {choice : Choice} {nonce evidence : Nat}

section Chosen

section

variable (base : Base policy state next)
include base

theorem Base.accepted (accepted : state.Accepted policy) : next.Accepted policy := by
  cases base with
  | same => exact accepted
  | retired pending => exact ⟨accepted.valid.retire pending, accepted.bound.retire⟩

theorem Base.generation : next.generation = state.generation := by
  cases base <;> rfl

theorem Base.flags : next.flags = state.flags := by
  cases base <;> rfl

theorem Base.wide (wide : state.Wide) : next.Wide := by
  cases base with
  | same => exact wide
  | retired => exact { wide with }

end

theorem setAttempts_generation (slot value : Nat) : (setAttempts state slot value).generation = state.generation := by
  unfold setAttempts
  split <;> rfl

theorem State.Wide.setAttempts (wide : state.Wide) (slot value : Nat) : (setAttempts state slot value).Wide := by
  unfold Recovery.setAttempts
  split <;> exact { wide with }

/-- A choice of the boot path leaves an accepted state. -/
theorem Chosen.accepted (chosen : Chosen policy state choice) (sound : policy.Sound) (accepted : state.Accepted policy)
    (idle : ¬ state.Inflight) (fresh : evidence ≠ 0) (some : choice.boots = true → nonce ≠ 0) :
    (choice.decision nonce (state.generation + 1) evidence).state.Accepted policy := by
  obtain ⟨valid, bound⟩ := accepted
  have later : ∀ {state : State}, state.Bound policy → ∀ generation, state.generation ≤ generation →
      ({ state with generation } : State).Bound policy :=
    fun bound _ grows => { bound with generation := le_trans bound.generation grows }
  cases chosen with
  | firmware =>
    refine ⟨valid.firmware idle fresh, ?_⟩
    exact { later bound _ (le_succ _) with }
  | asked =>
    refine ⟨valid.recover valid.failure fresh, ?_⟩
    exact { later bound _ (le_succ _) with }
  | exhausted next base =>
    obtain ⟨nextValid, nextBound⟩ := base.accepted ⟨valid, bound⟩
    rw [← base.generation]
    refine ⟨nextValid.recover (by decide) fresh, ?_⟩
    exact { later nextBound _ (le_succ _) with }
  | trial pending eligible left =>
    have few : attempts state state.pendingSlot - 1 ≤ policy.maxAttempts :=
      le_trans (sub_le ..) (bound.attempts_le _)
    have set := valid.setAttempts state.pendingSlot (le_trans few sound.attempts)
    have setBound := bound.setAttempts state.pendingSlot few
    rw [← setAttempts_generation state.pendingSlot (attempts state state.pendingSlot - 1)]
    refine ⟨set.boot (valid.pendingSlot pending) (by decide) valid.safe fresh (some rfl), ?_⟩
    exact { later setBound _ (le_succ _) with }
  | safe slot isSlot eligible known untried =>
    refine ⟨valid.boot isSlot (by decide) (try_mask valid.safe isSlot) fresh (some rfl), ?_⟩
    exact { later bound _ (le_succ _) with }
  | known next base slot mode isSlot plain eligible known =>
    obtain ⟨nextValid, nextBound⟩ := base.accepted ⟨valid, bound⟩
    have isMode : modeNormal ≤ mode ∧ mode ≤ modeFirmware := by
      rcases plain with rfl | rfl | rfl <;> decide
    rw [← base.generation]
    refine ⟨nextValid.boot isSlot isMode nextValid.safe fresh (some rfl), ?_⟩
    exact { later nextBound _ (le_succ _) with }

/-- The full words of a decision. -/
theorem Chosen.wide (chosen : Chosen policy state choice) (wide : state.Wide)
    (room : state.generation < u64Max) (noncePasses : nonce < 2 ^ 64) (evidencePasses : evidence < 2 ^ 64) :
    (choice.decision nonce (state.generation + 1) evidence).state.Wide := by
  have grown : state.generation + 1 < 2 ^ 64 := by
    unfold u64Max at room
    omega
  cases chosen with
  | firmware => exact { wide with generation := grown, evidence := evidencePasses }
  | asked =>
    exact { wide with generation := grown, nonce := Nat.two_pow_pos 64, evidence := evidencePasses }
  | exhausted next base =>
    exact { base.wide wide with generation := grown, nonce := Nat.two_pow_pos 64, evidence := evidencePasses }
  | trial =>
    exact { wide.setAttempts _ _ with
      generation := grown, nonce := noncePasses, evidence := evidencePasses }
  | safe => exact { wide with generation := grown, nonce := noncePasses, evidence := evidencePasses }
  | known next base =>
    exact { base.wide wide with
      generation := grown, nonce := noncePasses, evidence := evidencePasses }

end Chosen

section Steps

theorem nextGeneration_ok {generation : Nat} :
    nextGeneration state = .ok generation ↔ state.generation < u64Max ∧ generation = state.generation + 1 := by
  unfold nextGeneration
  rw [demand_bind_eq_ok]
  exact ⟨fun both => ⟨both.1, (ok.inj both.2).symm⟩, fun both => ⟨both.1, congrArg _ both.2.symm⟩⟩

/-- What is made of the next generation. -/
theorem numbered_ok {α : Type} {made : Nat → α} {value : α} :
    (nextGeneration state >>= fun generation => pure (made generation)) = .ok value ↔
      state.generation < u64Max ∧ value = made (state.generation + 1) := by
  simp only [bind_eq_ok_iff, nextGeneration_ok, pure_eq_ok]
  constructor
  · rintro ⟨_, ⟨room, rfl⟩, made⟩
    exact ⟨room, made⟩
  · exact fun ⟨room, made⟩ => ⟨_, ⟨room, rfl⟩, made⟩

theorem nextEvidence_eq (room : state.evidenceSequence < u64Max) : nextEvidence state = state.evidenceSequence + 1 := by
  unfold nextEvidence
  unfold u64Max at room
  omega

theorem fresh_evidence (room : state.evidenceSequence < u64Max) : nextEvidence state ≠ 0 := by
  rw [nextEvidence_eq room]
  exact succ_ne_zero _

theorem commit_ok {decision : Decision} : commit state choice nonce = .ok decision ↔
    (choice.boots = true → nonce ≠ 0) ∧ state.generation < u64Max ∧
      decision = choice.decision nonce (state.generation + 1) (nextEvidence state) := by
  unfold commit
  rw [demand_bind_eq_ok]
  exact and_congr_right fun _ => numbered_ok

/-- A call that begins with the check of the state succeeds on accepted states only. -/
theorem accepted_of_ok {α : Type} (typed : state.Typed) {later : Unit → Except Error α} {value : α}
    (done : (validateStateForPolicy sha policy state >>= later) = .ok value) : state.Accepted policy :=
  (validate_iff sha typed).mp (unit_bind_eq_ok.mp done).1

/-- When a selection succeeds, and with what. -/
theorem selectBoot_ok (typed : state.Typed) (sound : policy.Sound) {requestedMode : Nat}
    {physicalPresence authenticated writable : Bool} {decision : Decision} :
    selectBoot sha policy state requestedMode physicalPresence nonce authenticated writable = .ok decision ↔
      state.Accepted policy ∧ authenticated = true ∧ ¬ state.Inflight ∧ (writable = false ∧ decision = {
            mode := modeRecovery, slot := 0, trial := false, persistenceRequired := false,
            reason := failStateInvalid, state } ∨
          writable = true ∧ (modeNormal ≤ requested state requestedMode ∧
            requested state requestedMode ≤ modeFirmware) ∧
            (requested state requestedMode = modeFirmware → physicalPresence = true) ∧
            commit state (choose policy state (requested state requestedMode)) nonce = .ok decision) := by
  by_cases accepted : state.Accepted policy
  · rw [selectBoot_eq typed sound accepted]
    simp only [demand_bind_eq_ok]
    cases writable
    · simp [accepted, eq_comm, pure, Except.pure]
    · simp [accepted, demand_bind_eq_ok, and_assoc]
  · exact ⟨fun ok => absurd (accepted_of_ok typed ok) accepted, fun all => absurd all.1 accepted⟩

/-- When a success report is accepted, and with what. -/
theorem reportBootSuccess_ok (typed : state.Typed) {receipt : SuccessReceipt} :
    reportBootSuccess sha policy state receipt = .ok next ↔
      state.Accepted policy ∧ receipt.authenticated = true ∧ state.Inflight ∧
        (receipt.generation = state.inflightGeneration ∧ receipt.slot = state.inflightSlot ∧
          receipt.mode = state.inflightMode ∧ receipt.bootNonce = state.bootNonce) ∧ state.generation < u64Max ∧
        next = state.succeeded policy receipt.slot receipt.mode (state.generation + 1) (nextEvidence state) := by
  by_cases accepted : state.Accepted policy
  · rw [reportBootSuccess_eq typed accepted]
    simp only [demand_bind_eq_ok, accepted, true_and]
    exact and_congr_right fun _ => and_congr_right fun _ => and_congr_right fun _ => numbered_ok
  · exact ⟨fun ok => absurd (accepted_of_ok typed ok) accepted, fun all => absurd all.1 accepted⟩

/-- When a failure report is accepted, and with what. -/
theorem reportBootFailure_ok (typed : state.Typed) (sound : policy.Sound) {failureId : Nat} {authenticated : Bool}
    {decision : FailureDecision} : reportBootFailure sha policy state failureId authenticated = .ok decision ↔
      state.Accepted policy ∧ authenticated = true ∧ state.Inflight ∧ IsFailure failureId ∧
        state.generation < u64Max ∧ decision = {
          action := state.failureAction policy failureId
          state := state.failed policy failureId (state.generation + 1) (nextEvidence state) } := by
  by_cases accepted : state.Accepted policy
  · rw [reportBootFailure_eq typed sound accepted]
    simp only [demand_bind_eq_ok, accepted, true_and]
    exact and_congr_right fun _ => and_congr_right fun _ => and_congr_right fun _ => numbered_ok
  · exact ⟨fun ok => absurd (accepted_of_ok typed ok) accepted, fun all => absurd all.1 accepted⟩

end Steps

section Typed

/-- The evidence number is the only field of a decision that depends on it. -/
theorem decision_evidence (nonce generation first second : Nat) : (choice.decision nonce generation second).state =
      { (choice.decision nonce generation first).state with evidenceSequence := second } := by
  cases choice <;> rfl

theorem State.Small.recount (small : state.Small) (count : Nat) :
    ({ state with evidenceSequence := count } : State).Small := { small with }

theorem nextEvidence_lt : nextEvidence state < 2 ^ 64 := Nat.mod_lt _ (Nat.two_pow_pos 64)

theorem selectBoot_typed (typed : state.Typed) (sound : policy.Sound) {requestedMode : Nat}
    {physicalPresence authenticated writable : Bool} {decision : Decision} (word : nonce < 2 ^ 64)
    (ok : selectBoot sha policy state requestedMode physicalPresence nonce authenticated writable =
      .ok decision) : decision.state.Typed := by
  obtain ⟨accepted, -, idle, outcome⟩ := (selectBoot_ok typed sound).mp ok
  rcases outcome with ⟨-, rfl⟩ | ⟨-, known, -, committed⟩
  · exact typed
  · obtain ⟨fresh, counted, rfl⟩ := commit_ok.mp committed
    have chosen := @choose_chosen policy state accepted.valid.active _ known
    have small := (chosen.accepted sound accepted idle one_ne_zero fresh).valid.small
    refine State.Small.typed ?_ (chosen.wide typed.wide counted word nextEvidence_lt)
    rw [decision_evidence nonce (state.generation + 1) 1 (nextEvidence state)]
    exact small.recount _

theorem reportBootSuccess_typed (typed : state.Typed) (sound : policy.Sound) {receipt : SuccessReceipt}
    (ok : reportBootSuccess sha policy state receipt = .ok next) : next.Typed := by
  obtain ⟨accepted, -, inflight, ⟨-, slot, mode, -⟩, counted, rfl⟩ := (reportBootSuccess_ok typed).mp ok
  obtain ⟨-, -, isSlot, known, -⟩ := accepted.valid.flying inflight
  rw [slot, mode]
  have valid := @State.Valid.succeed policy state _ _ 1 accepted.valid sound isSlot known.2 one_ne_zero
  have wide := typed.wide.setAttempts state.inflightSlot policy.maxAttempts
  unfold u64Max at counted
  refine State.Small.typed (valid.small.recount (nextEvidence state)) ?_
  exact {
    generation := by change state.generation + 1 < 2 ^ 64; omega
    floor := Nat.max_lt.mpr ⟨typed.wide.floor, sound.floorTyped⟩
    transaction := wide.transaction
    nonce := Nat.two_pow_pos 64
    policy := sound.versionTyped
    epoch := wide.epoch
    evidence := nextEvidence_lt }

theorem reportBootFailure_typed (typed : state.Typed) (sound : policy.Sound) {failureId : Nat} {authenticated : Bool}
    {decision : FailureDecision} (ok : reportBootFailure sha policy state failureId authenticated = .ok decision) :
    decision.state.Typed := by
  obtain ⟨accepted, -, inflight, known, counted, rfl⟩ := (reportBootFailure_ok typed sound).mp ok
  have isSlot := (accepted.valid.flying inflight).2.2.1
  have wide := typed.wide
  unfold u64Max at counted
  apply (accepted.valid.failed_small isSlot known).typed
  exact { wide with
    generation := by change state.generation + 1 < 2 ^ 64; omega
    nonce := Nat.two_pow_pos 64
    evidence := nextEvidence_lt }

theorem map_eq_ok {ε α β : Type} {result : Except ε α} {wrap : α → β} {value : β} :
    wrap <$> result = .ok value ↔ ∃ inner, result = .ok inner ∧ wrap inner = value := by
  cases result <;> simp

/-- The fields of every answer fit their types again. -/
theorem perform_typed (typed : state.Typed) (sound : policy.Sound) {call : Call} (word : call.Typed)
    {answer : Answer} (ok : perform sha policy state call = .ok answer) : answer.state.Typed := by
  cases call with
  | selectBoot =>
    obtain ⟨decision, decided, rfl⟩ := map_eq_ok.mp ok
    exact selectBoot_typed typed sound word decided
  | reportBootSuccess =>
    obtain ⟨next, reported, rfl⟩ := map_eq_ok.mp ok
    exact reportBootSuccess_typed typed sound reported
  | reportBootFailure =>
    obtain ⟨decision, reported, rfl⟩ := map_eq_ok.mp ok
    exact reportBootFailure_typed typed sound reported

end Typed

section Acceptance

variable (typed : state.Typed) (sound : policy.Sound) (accepted : state.Accepted policy)
  (room : state.evidenceSequence < u64Max)

include typed sound accepted room

theorem selectBoot_accepted {requestedMode : Nat} {physicalPresence authenticated writable : Bool} {decision : Decision}
    (ok : selectBoot sha policy state requestedMode physicalPresence nonce authenticated writable =
      .ok decision) : decision.state.Accepted policy := by
  obtain ⟨-, -, idle, outcome⟩ := (selectBoot_ok typed sound).mp ok
  rcases outcome with ⟨-, rfl⟩ | ⟨-, known, -, committed⟩
  · exact accepted
  · obtain ⟨fresh, -, rfl⟩ := commit_ok.mp committed
    have chosen := @choose_chosen policy state accepted.valid.active _ known
    exact chosen.accepted sound accepted idle (fresh_evidence room) fresh

theorem reportBootSuccess_accepted {receipt : SuccessReceipt}
    (ok : reportBootSuccess sha policy state receipt = .ok next) : next.Accepted policy := by
  obtain ⟨-, -, inflight, ⟨-, slot, mode, -⟩, -, rfl⟩ := (reportBootSuccess_ok typed).mp ok
  obtain ⟨-, -, isSlot, known, -⟩ := accepted.valid.flying inflight
  rw [slot, mode]
  have set := accepted.bound.setAttempts state.inflightSlot (le_refl _)
  refine ⟨accepted.valid.succeed sound isSlot known.2 (fresh_evidence room), ?_⟩
  exact {
    generation := le_trans accepted.bound.generation (le_succ _)
    floor := le_max_right ..
    version := rfl
    attemptsA := set.attemptsA
    attemptsB := set.attemptsB }

/-- A failure report leaves an accepted state unless its rule retires the active slot. -/
theorem reportBootFailure_accepted {failureId : Nat} {authenticated : Bool} {decision : FailureDecision}
    (ok : reportBootFailure sha policy state failureId authenticated = .ok decision) :
    decision.state.Accepted policy ↔ ¬ (Marks failureId ∧ state.inflightSlot = state.activeSlot) := by
  obtain ⟨-, -, inflight, known, -, rfl⟩ := (reportBootFailure_ok typed sound).mp ok
  have isSlot := (accepted.valid.flying inflight).2.2.1
  constructor
  · rintro ⟨valid, -⟩ ⟨marks, same⟩
    exact State.failed_invalid marks same valid
  · intro spares
    refine ⟨accepted.valid.fail isSlot known (fun marks same => spares ⟨marks, same⟩) (fresh_evidence room), ?_⟩
    exact { accepted.bound with
      generation := le_trans accepted.bound.generation (le_succ _) }

/-- One step from an accepted state: the next record is accepted unless the active slot was retired. -/
theorem perform_accepted {call : Call} {answer : Answer} (ok : perform sha policy state call = .ok answer) :
    answer.state.Accepted policy ↔ ¬ call.Retires state := by
  cases call with
  | selectBoot =>
    obtain ⟨decision, decided, rfl⟩ := map_eq_ok.mp ok
    exact ⟨fun _ => id, fun _ => selectBoot_accepted typed sound accepted room decided⟩
  | reportBootSuccess =>
    obtain ⟨next, reported, rfl⟩ := map_eq_ok.mp ok
    exact ⟨fun _ => id, fun _ => reportBootSuccess_accepted typed sound accepted room reported⟩
  | reportBootFailure =>
    obtain ⟨decision, reported, rfl⟩ := map_eq_ok.mp ok
    exact reportBootFailure_accepted typed sound accepted room reported

end Acceptance

/-- The states that runs reach while no failure retires the active slot. -/
inductive Reached (sha : Sha256) (policy : Bundle) (start : State) : State → Prop
  | start : Reached sha policy start start
  | step (before : State) (reached : Reached sha policy start before) (call : Call) (word : call.Typed)
      (room : before.generation < u64Max ∧ before.evidenceSequence < u64Max)
      (spares : ¬ call.Retires before) (answer : Answer)
      (ok : perform sha policy before call = .ok answer) : Reached sha policy start answer.state

section Acceptance

variable {data : Bytes} {start : State}

theorem Reached.accepted (reached : Reached sha policy start state) (sound : policy.Sound)
    (typed : start.Typed) (accepted : start.Accepted policy) : state.Typed ∧ state.Accepted policy := by
  induction reached with
  | start => exact ⟨typed, accepted⟩
  | step before reached call word room spares answer ok ih =>
    exact ⟨perform_typed ih.1 sound word ok, (perform_accepted ih.1 sound ih.2 room.2 ok).mpr spares⟩

/-- A selection that fails on an accepted state fails for the request, never for the state. -/
theorem selectBoot_decides (typed : state.Typed) (sound : policy.Sound) (accepted : state.Accepted policy)
    (room : state.generation < u64Max) (fresh : nonce ≠ 0) (requestedMode : Nat)
    (physicalPresence : Bool) :
    selectBoot sha policy state requestedMode physicalPresence nonce true true =
      if state.Inflight then .error .transitionInflight
      else if modeFirmware < requested state requestedMode then .error .mode
      else if requested state requestedMode = modeFirmware ∧ physicalPresence = false then
        .error .transitionPhysicalPresence
      else .ok ((choose policy state (requested state requestedMode)).decision nonce
        (state.generation + 1) (nextEvidence state)) := by
  have positive : modeNormal ≤ requested state requestedMode := by
    unfold requested modeNormal modeRecovery modeSafe
    split
    · decide
    · split
      · decide
      · split <;> omega
  rw [selectBoot_eq typed sound accepted, demand_pass rfl, ok_bind]
  by_cases inflight : state.Inflight
  · rw [if_pos inflight, demand_stop (fun idle => idle inflight)]
    rfl
  · rw [if_neg inflight, demand_pass inflight, ok_bind, if_pos rfl]
    by_cases high : modeFirmware < requested state requestedMode
    · rw [if_pos high]
      dsimp only
      rw [demand_stop (fun known => Nat.not_le_of_lt high known.2)]
      rfl
    · rw [if_neg high]
      dsimp only
      rw [demand_pass ⟨positive, Nat.le_of_not_lt high⟩, ok_bind]
      by_cases absent : requested state requestedMode = modeFirmware ∧ physicalPresence = false
      · rw [if_pos absent, demand_stop (fun needs => by simpa [absent.2] using needs absent.1)]
        rfl
      · rw [if_neg absent, demand_pass ?_, ok_bind]
        · exact commit_ok.mpr ⟨fun _ => fresh, room, rfl⟩
        · intro firmware
          by_contra missing
          exact absent ⟨firmware, Bool.eq_false_iff.mpr missing⟩

/-- A report on the active slot with a rule that retires it is the one step that leaves a record
that no parser accepts. In runs without it every record is accepted, and the next boot is decided. -/
theorem records_stay_accepted (parsed : parse sha data = .ok policy) (typed : start.Typed)
    (accepted : validateStateForPolicy sha policy start = .ok ()) (reached : Reached sha policy start state) :
    validateStateForPolicy sha policy state = .ok () ∧ parseState sha (encodeState sha state) = .ok state ∧
    (∀ call answer, call.Typed → state.evidenceSequence < u64Max → perform sha policy state call = .ok answer →
      (validateStateForPolicy sha policy answer.state = .ok () ↔ ¬ call.Retires state)) ∧
    (∀ requestedMode physicalPresence nonce, nonce ≠ 0 → state.generation < u64Max →
      (∃ decision, selectBoot sha policy state requestedMode physicalPresence nonce true true = .ok decision) ∨
      selectBoot sha policy state requestedMode physicalPresence nonce true true =
        .error .transitionInflight ∧ state.Inflight ∨
      selectBoot sha policy state requestedMode physicalPresence nonce true true = .error .mode ∧
        modeFirmware < requestedMode ∨ selectBoot sha policy state requestedMode physicalPresence nonce true true =
        .error .transitionPhysicalPresence ∧ requestedMode = modeFirmware ∧ physicalPresence = false) := by
  have sound := parse_sound parsed
  obtain ⟨small, kept⟩ := reached.accepted sound typed ((validate_iff sha typed).mp accepted)
  refine ⟨(validate_iff sha small).mpr kept, (parseState_encodeState sha small).mpr ⟨rfl, kept.valid⟩, ?_, ?_⟩
  · intro call answer word room ok
    rw [validate_iff sha (perform_typed small sound word ok), perform_accepted small sound kept room ok]
  · intro requestedMode physicalPresence nonce fresh room
    have asked : ∀ {mode}, modeFirmware ≤ mode → requested state requestedMode = mode →
        requestedMode = mode := by
      intro mode high same
      unfold requested at same
      unfold modeFirmware at high
      unfold modeRecovery modeSafe modeNormal at same
      split at same
      · omega
      · split at same
        · omega
        · split at same <;> omega
    rw [selectBoot_decides small sound kept room fresh]
    split
    · rename_i inflight
      exact .inr (.inl ⟨rfl, inflight⟩)
    · split
      · rename_i high
        have same := asked (le_of_lt high) rfl
        exact .inr (.inr (.inl ⟨rfl, same ▸ high⟩))
      · split
        · rename_i absent
          exact .inr (.inr (.inr ⟨rfl, asked (le_refl _) absent.1, absent.2⟩))
        · exact .inl ⟨_, rfl⟩

/-- The trial of the canonical policy. -/
theorem canonical_trial_accepted : validateStateForPolicy canonicalSha canonicalPolicy trialState = .ok () :=
  (records_stay_accepted canonical_parsed (by decide) (by decide +kernel)
    (.step canonicalState .start (.selectBoot 0 false 1 true true) (show 1 < 2 ^ 64 by decide) (by decide) id
      (.decided ⟨modeNormal, 1, true, true, 0, trialState⟩) (by decide +kernel))).1

/-- The active slot of the canonical policy is booted, and its signature is then found invalid: the
report is accepted, and the record that it leaves is not. -/
theorem retired_active_slot_rejected : parse canonicalSha canonicalBundle = .ok canonicalPolicy ∧
      validateStateForPolicy canonicalSha canonicalPolicy canonicalState = .ok () ∧
      perform canonicalSha canonicalPolicy canonicalState (.selectBoot 5 false 1 true true) =
        .ok (.decided ⟨modeDiagnostic, 2, false, true, 0, diagnosticState⟩) ∧
      perform canonicalSha canonicalPolicy diagnosticState (.reportBootFailure 3 true) =
        .ok (.failed ⟨actionRecovery, retiredState⟩) ∧
      validateStateForPolicy canonicalSha canonicalPolicy retiredState = .error .stateMask ∧
      selectBoot canonicalSha canonicalPolicy retiredState 0 false 2 true true = .error .stateMask :=
  ⟨canonical_parsed, by decide +kernel, by decide +kernel, by decide +kernel, by decide +kernel,
    by decide +kernel⟩

end Acceptance

end PooleOS.Recovery
