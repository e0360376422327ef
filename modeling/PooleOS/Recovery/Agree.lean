import PooleOS.Recovery.Compare

/- The oracle makes the same choices. It looks at every state that it is about to
return, and that is the only place where the two can part. -/
namespace PooleOS.Recovery

open Oracle (Raised)

/-- The last step of every decision of the oracle that replaces the state. -/
def oracleCommit (sha : Sha256) (state : State) (choice : Choice) (nonce : Nat) : Except Raised Decision := do
  demand (choice.boots = true → nonce ≠ 0) (.code .transitionNonce)
  let generation ← Oracle.nextGeneration state
  let decision := choice.decision nonce generation (state.evidenceSequence + 1)
  let nextState ← Oracle.reparse sha decision.state none
  return { decision with state := nextState }

variable {sha : Sha256} {policy : Bundle} {bundle : Oracle.Bundle} {state next : State}
  {slot mode nonce : Nat}

section Choices

theorem oracle_slotBit (isSlot : IsSlot slot) : Oracle.slotBit slot = .ok (bitOf slot) := by
  unfold Oracle.slotBit
  rw [demand_pass (mem_slots.mpr isSlot)]
  rfl

theorem Same.eligible_eq (same : Same sha policy bundle) (isSlot : IsSlot slot) (knownGood : Bool) :
    Oracle.eligible bundle state slot knownGood =
      .ok (decide (Eligible policy state slot ∧ (knownGood = true → state.KnownGood slot))) := by
  obtain ⟨record, found, flags, version⟩ := same.slots slot isSlot
  have bootable : ¬ slotRequiredFlags &&& slotBootable = 0 := by decide
  unfold Oracle.eligible Oracle.slotRecord
  rw [oracle_slotBit isSlot, ok_bind, found, orError_some, ok_bind, flags, version, same.floor]
  by_cases usable : state.unbootableMask &&& bitOf slot = 0
  · rw [if_neg (fun either => either.elim bootable (fun used => used usable))]
    by_cases old : policy.slotVersion slot < max policy.minimumSecureVersion state.minimumSecureVersion
    · have not : ¬ Eligible policy state slot := fun eligible => Nat.not_le_of_lt old eligible.2
      rw [if_pos old, decide_eq_false (fun both => not both.1)]
      rfl
    · have is : Eligible policy state slot := ⟨usable, Nat.le_of_not_lt old⟩
      rw [if_neg old]
      cases knownGood <;> simp [is, State.KnownGood, pure, Except.pure]
  · have not : ¬ Eligible policy state slot := fun eligible => usable eligible.1
    rw [if_pos (.inr usable), decide_eq_false (fun both => not both.1)]
    rfl

theorem oracle_recoveryDecision (reason : Nat) :
    Oracle.recoveryDecision sha next reason = oracleCommit sha next (.recover next reason) nonce := by
  rfl

theorem oracle_selectSlot (trial : Bool) (safeMask : Option Nat) :
    Oracle.selectSlot sha next slot mode trial nonce safeMask =
      oracleCommit sha next (.boot next slot mode trial (safeMask.getD next.safeAttemptedMask)) nonce := by
  unfold Oracle.selectSlot oracleCommit
  by_cases fresh : nonce ≠ 0
  · rw [demand_pass fresh, demand_pass (fun _ => fresh)]
    rfl
  · rw [demand_stop fresh, demand_stop (fun needs => fresh (needs rfl))]
    rfl

theorem Same.selectSafe_eq (same : Same sha policy bundle) {slots : List Nat}
    (candidates : ∀ slot ∈ slots, IsSlot slot) :
    Oracle.selectSafe sha bundle next nonce slots =
      oracleCommit sha next (chooseSafe policy next slots) nonce := by
  refine @loop_eq _ (oracleCommit sha next · nonce) (Oracle.selectSafe sha bundle next nonce) (chooseSafe policy next)
    _ _ _ (oracle_recoveryDecision _) (fun _ _ => rfl) ?_ slots candidates
  intro slot rest isSlot
  rw [Oracle.selectSafe, oracle_slotBit isSlot, ok_bind, same.eligible_eq isSlot, ok_bind]
  by_cases fits : (Eligible policy next slot ∧ next.KnownGood slot) ∧ next.Untried slot
  · rw [if_pos fits, if_pos ⟨decide_eq_true ⟨fits.1.1, fun _ => fits.1.2⟩, fits.2⟩]
    exact oracle_selectSlot ..
  · rw [if_neg fits, if_neg ?_]
    intro both
    have eligible := of_decide_eq_true both.1
    exact fits ⟨⟨eligible.1, eligible.2 rfl⟩, both.2⟩

theorem Same.selectKnownGood_eq (same : Same sha policy bundle) {slots : List Nat}
    (candidates : ∀ slot ∈ slots, IsSlot slot) : Oracle.selectKnownGood sha bundle next mode nonce slots =
      oracleCommit sha next (chooseKnownGood policy next mode slots) nonce := by
  refine @loop_eq _ (oracleCommit sha next · nonce) (Oracle.selectKnownGood sha bundle next mode nonce)
    (chooseKnownGood policy next mode) _ _ _ (oracle_recoveryDecision _) (fun _ _ => rfl) ?_ slots candidates
  intro slot rest isSlot
  rw [Oracle.selectKnownGood, same.eligible_eq isSlot, ok_bind, if_decide_and, oracle_selectSlot]
  rfl

theorem Same.selectFallback_eq (same : Same sha policy bundle) (active : IsSlot next.activeSlot) :
    Oracle.selectFallback sha bundle next mode nonce =
      oracleCommit sha next (chooseFallback policy next mode) nonce := by
  unfold Oracle.selectFallback chooseFallback
  split
  · exact same.selectSafe_eq (candidates_slots active)
  · split
    · exact same.selectKnownGood_eq (candidates_swapped active)
    · exact same.selectKnownGood_eq (candidates_slots active)

theorem oracle_setAttempts (value : Nat) (choice : Choice) :
    oracleCommit sha (setAttempts state slot value) choice nonce = oracleCommit sha state choice nonce := by
  unfold setAttempts
  split <;> rfl

theorem Same.selectPending_eq (same : Same sha policy bundle) (valid : state.Valid) (notFirmware : mode ≠ modeFirmware)
    (notRecovery : mode ≠ modeRecovery) : Oracle.selectPending sha bundle state mode nonce =
      oracleCommit sha state (choose policy state mode) nonce := by
  unfold Oracle.selectPending choose
  split
  · rename_i normal
    have isSlot : IsSlot state.pendingSlot := ⟨Nat.pos_of_ne_zero normal.2, valid.pending⟩
    dsimp only
    rw [same.eligible_eq isSlot, ok_bind]
    by_cases fits : Eligible policy state state.pendingSlot ∧
        0 < Recovery.attempts state state.pendingSlot
    · rw [if_pos fits, if_pos ⟨decide_eq_true ⟨fits.1, nofun⟩, fits.2⟩, oracle_selectSlot,
        oracle_setAttempts, setAttempts_safe]
      rfl
    · rw [if_neg fits, if_neg (fun both => fits ⟨(of_decide_eq_true both.1).1, both.2⟩), oracle_slotBit isSlot, ok_bind]
      exact same.selectFallback_eq valid.active
  · exact same.selectFallback_eq valid.active

theorem Same.selectMode_eq (same : Same sha policy bundle) (valid : state.Valid) {physicalPresence : Bool} : (do
      let bit ← Oracle.modeBit mode
      demand (modeMaskAll &&& bit ≠ 0) Raised.transitionMode
      if mode = modeFirmware then
        Oracle.selectFirmware sha state physicalPresence
      else if mode = modeRecovery then
        Oracle.recoveryDecision sha state state.lastFailure
      else
        Oracle.selectPending sha bundle state mode nonce) = (do
      demand (modeNormal ≤ mode ∧ mode ≤ modeFirmware) (.code .mode)
      demand (mode = modeFirmware → physicalPresence = true) (.code .transitionPhysicalPresence)
      oracleCommit sha state (choose policy state mode) nonce) := by
  by_cases known : modeNormal ≤ mode ∧ mode ≤ modeFirmware
  · have allowed : ∀ mode < 7, 1 ≤ mode → modeMaskAll &&& 1 <<< (mode - 1) ≠ 0 := by decide
    have bit : Oracle.modeBit mode = .ok (1 <<< (mode - 1)) := by
      unfold Oracle.modeBit
      rw [demand_pass (mem_modeNames.mpr known)]
      rfl
    rw [bit, ok_bind, demand_pass (allowed mode (Nat.lt_succ_of_le known.2) known.1), ok_bind,
      demand_pass known, ok_bind]
    by_cases firmware : mode = modeFirmware
    · subst firmware
      unfold Oracle.selectFirmware choose
      by_cases present : physicalPresence = true
      · rw [demand_pass present, demand_pass (fun _ => present)]
        rfl
      · rw [demand_stop present, demand_stop (fun needs => present (needs rfl))]
        rfl
    · rw [if_neg firmware, demand_pass (absurd · firmware), ok_bind]
      by_cases recovery : mode = modeRecovery
      · subst recovery
        exact oracle_recoveryDecision _
      · rw [if_neg recovery]
        exact same.selectPending_eq valid firmware recovery
  · have unknown : Oracle.modeBit mode = .error (.code .mode) := by
      unfold Oracle.modeBit
      rw [demand_stop (fun found => known (mem_modeNames.mp found))]
      rfl
    rw [unknown, demand_stop known]
    rfl

end Choices

section Results

theorem oracle_nextGeneration {generation : Nat} (typed : state.Typed) : Oracle.nextGeneration state = .ok generation ↔
      state.generation < u64Max ∧ generation = state.generation + 1 := by
  have small := typed.wide.generation
  unfold Oracle.nextGeneration u64Max
  rw [demand_bind_eq_ok]
  constructor
  · rintro ⟨room, same⟩
    exact ⟨by omega, (Except.ok.inj same).symm⟩
  · rintro ⟨room, rfl⟩
    exact ⟨by omega, rfl⟩

theorem oracleCommit_ok (typed : state.Typed) {choice : Choice} {decision : Decision} :
    oracleCommit sha state choice nonce = .ok decision ↔ (choice.boots = true → nonce ≠ 0) ∧ state.generation < u64Max ∧
        decision = choice.decision nonce (state.generation + 1) (state.evidenceSequence + 1) ∧
        decision.state.Typed ∧ decision.state.Valid := by
  unfold oracleCommit
  rw [demand_bind_eq_ok]
  constructor
  · rintro ⟨fresh, committed⟩
    obtain ⟨generation, counted, committed⟩ := bind_eq_ok committed
    obtain ⟨room, rfl⟩ := (oracle_nextGeneration typed).mp counted
    obtain ⟨nextState, checked, made⟩ := bind_eq_ok committed
    obtain ⟨rfl, small, valid⟩ := reparse_none.mp checked
    obtain rfl := Except.ok.inj made
    exact ⟨fresh, room, rfl, small, valid⟩
  · rintro ⟨fresh, room, rfl, small, valid⟩
    rw [(oracle_nextGeneration typed).mpr ⟨room, rfl⟩, ok_bind]
    dsimp only
    rw [reparse_none.mpr ⟨rfl, small, valid⟩]
    exact ⟨fresh, rfl⟩

/-- A call of the oracle succeeds on accepted states only. -/
theorem Same.accepted_of_ok {α : Type} (same : Same sha policy bundle) {later : State → Except Raised α} {value : α}
    (done : (Oracle.reparse sha state (some bundle) >>= later) = .ok value) : state.Accepted policy := by
  obtain ⟨_, checked, -⟩ := bind_eq_ok done
  exact (same.reparse_iff.mp checked).2.2

/-- When a selection of the oracle succeeds, and with what. -/
theorem Same.selectBoot_ok (same : Same sha policy bundle) (typed : state.Typed) {requestedMode : Nat}
    {physicalPresence authenticated writable : Bool} {decision : Decision} :
    Oracle.selectBoot sha bundle state requestedMode physicalPresence nonce authenticated writable = .ok decision ↔
      state.Accepted policy ∧ authenticated = true ∧ ¬ state.Inflight ∧ (writable = false ∧ decision = {
            mode := modeRecovery, slot := 0, trial := false, persistenceRequired := false,
            reason := failStateInvalid, state } ∨
          writable = true ∧ (modeNormal ≤ requested state requestedMode ∧
            requested state requestedMode ≤ modeFirmware) ∧
            (requested state requestedMode = modeFirmware → physicalPresence = true) ∧
            oracleCommit sha state (choose policy state (requested state requestedMode)) nonce =
              .ok decision) := by
  have idle : (state.flags &&& stateInflight = 0) ↔ ¬ state.Inflight := not_not.symm
  unfold Oracle.selectBoot
  rw [same.parsed, ok_bind]
  by_cases accepted : state.Accepted policy
  · rw [same.reparse_iff.mpr ⟨rfl, typed, accepted⟩, ok_bind]
    simp only [demand_bind_eq_ok, idle, accepted, true_and]
    cases writable
    · simp [eq_comm, pure, Except.pure]
    · simp only [if_true, Bool.true_eq_false, false_and, true_and, false_or]
      rw [same.selectMode_eq accepted.valid]
      simp only [demand_bind_eq_ok]
  · exact ⟨fun ok => absurd (same.accepted_of_ok ok) accepted, fun all => absurd all.1 accepted⟩

/-- When a success report of the oracle is accepted, and with what. -/
theorem Same.reportBootSuccess_ok (same : Same sha policy bundle) (typed : state.Typed) {receipt : SuccessReceipt} :
    Oracle.reportBootSuccess sha bundle state receipt = .ok next ↔
      state.Accepted policy ∧ receipt.authenticated = true ∧ state.Inflight ∧
        (receipt.generation = state.inflightGeneration ∧ receipt.slot = state.inflightSlot ∧
          receipt.mode = state.inflightMode ∧ receipt.bootNonce = state.bootNonce) ∧ state.generation < u64Max ∧
        next = state.succeeded policy receipt.slot receipt.mode (state.generation + 1)
          (state.evidenceSequence + 1) ∧ next.Typed ∧ next.Accepted policy := by
  unfold Oracle.reportBootSuccess
  by_cases accepted : state.Accepted policy
  · rw [same.reparse_iff.mpr ⟨rfl, typed, accepted⟩, ok_bind]
    simp only [demand_bind_eq_ok, accepted, true_and]
    refine and_congr_right fun _ => and_congr_right fun inflight => and_congr_right fun bound => ?_
    have isSlot : IsSlot receipt.slot := bound.2.1 ▸ (accepted.valid.flying inflight).2.2.1
    rw [oracle_slotBit isSlot, ok_bind, same.floor, same.version, same.attempts]
    have drafted : ∀ generation evidence, ({ state with
        flags := without state.flags (stateInflight ||| stateRecoveryRequested ||| stateSafeRequested)
        generation
        minimumSecureVersion := max state.minimumSecureVersion policy.minimumSecureVersion
        activeSlot := receipt.slot
        pendingSlot := if state.pendingSlot = receipt.slot then 0 else state.pendingSlot
        knownGoodMask := state.knownGoodMask ||| bitOf receipt.slot
        unbootableMask := without state.unbootableMask (bitOf receipt.slot)
        attemptsA := if receipt.slot = 1 then policy.maxAttempts else state.attemptsA
        attemptsB := if receipt.slot = 2 then policy.maxAttempts else state.attemptsB
        currentMode := receipt.mode
        lastFailure := 0
        bootNonce := 0
        inflightGeneration := 0
        inflightSlot := 0
        inflightMode := 0
        lastSuccessSlot := receipt.slot
        lastSuccessGeneration := generation
        policyVersion := policy.bundleVersion
        evidenceSequence := evidence } : State) =
          state.succeeded policy receipt.slot receipt.mode generation evidence := by
      intro generation evidence
      unfold State.succeeded setAttempts
      obtain first | second : receipt.slot = 1 ∨ receipt.slot = 2 := by
        obtain ⟨low, high⟩ := isSlot
        omega
      · simp only [first, if_true, OfNat.one_ne_ofNat, if_false]
      · simp only [second, if_true, OfNat.ofNat_ne_one, if_false]
    constructor
    · intro reported
      obtain ⟨generation, counted, reported⟩ := bind_eq_ok reported
      obtain ⟨room, rfl⟩ := (oracle_nextGeneration typed).mp counted
      obtain ⟨rfl, small, fits⟩ := same.reparse_iff.mp reported
      exact ⟨room, drafted _ _, small, fits⟩
    · rintro ⟨room, rfl, small, fits⟩
      rw [(oracle_nextGeneration typed).mpr ⟨room, rfl⟩, ok_bind, drafted]
      exact same.reparse_iff.mpr ⟨rfl, small, fits⟩
  · exact ⟨fun ok => absurd (same.accepted_of_ok ok) accepted, fun all => absurd all.1 accepted⟩

theorem oracle_actionMode {action : Nat} (known : IsAction action) :
    Oracle.actionMode action = .ok (State.modeOf action) := by
  have each : ∀ index < 7, 1 ≤ index → Oracle.actionMode index = .ok (State.modeOf index) := by decide
  exact each action (Nat.lt_succ_of_le known.2) known.1

/-- The state in which the oracle looks at the other slot: the masks of the rule. -/
def State.masked (state : State) (failureId : Nat) : State :=
  { state with
    unbootableMask := (state.ruled failureId).unbootableMask
    knownGoodMask := (state.ruled failureId).knownGoodMask }

theorem Same.failureAction_eq (same : Same sha policy bundle) (isSlot : IsSlot state.inflightSlot)
    {failureId : Nat} : Oracle.withPrevious bundle (state.masked failureId) state.inflightSlot
      (state.ruledAction failureId) = .ok (state.failureAction policy failureId) := by
  have seen : Eligible policy (state.masked failureId) (3 - state.inflightSlot) ∧
      (state.masked failureId).KnownGood (3 - state.inflightSlot) ↔
        Eligible policy (state.ruled failureId) (3 - state.inflightSlot) ∧
          (state.ruled failureId).KnownGood (3 - state.inflightSlot) := .rfl
  unfold Oracle.withPrevious State.failureAction
  dsimp only
  rw [same.eligible_eq (other_isSlot isSlot), ok_bind, if_decide_and]
  simp only [seen]
  by_cases previous : state.ruledAction failureId = actionPrevious
  · rw [if_pos previous]
    by_cases fits : Eligible policy (state.ruled failureId) (3 - state.inflightSlot) ∧
        (state.ruled failureId).KnownGood (3 - state.inflightSlot)
    · rw [if_pos fits, if_neg (fun both => both.2 fits)]
      rfl
    · rw [if_neg fits, if_pos ⟨previous, fits⟩]
      rfl
  · rw [if_neg previous, if_neg (fun both => previous both.1)]
    rfl

/-- When a failure report of the oracle is accepted, and with what. -/
theorem Same.reportBootFailure_ok (same : Same sha policy bundle) (typed : state.Typed) {failureId : Nat}
    {authenticated : Bool} {decision : FailureDecision} :
    Oracle.reportBootFailure sha bundle state failureId authenticated = .ok decision ↔
      state.Accepted policy ∧ authenticated = true ∧ state.Inflight ∧ IsFailure failureId ∧
        state.generation < u64Max ∧ decision = {
          action := state.failureAction policy failureId
          state := state.failed policy failureId (state.generation + 1) (state.evidenceSequence + 1) } ∧
        decision.state.Typed ∧ decision.state.Valid := by
  unfold Oracle.reportBootFailure
  by_cases accepted : state.Accepted policy
  · rw [same.reparse_iff.mpr ⟨rfl, typed, accepted⟩, ok_bind]
    simp only [demand_bind_eq_ok, accepted, true_and, mem_failureNames]
    refine and_congr_right fun _ => and_congr_right fun inflight => and_congr_right fun known => ?_
    have isSlot := (accepted.valid.flying inflight).2.2.1
    obtain ⟨rule, found, primary, fallback, flags⟩ := same.rules failureId known
    rw [found, orError_some, ok_bind, oracle_slotBit isSlot, ok_bind, primary, fallback, flags]
    change (Oracle.withPrevious bundle (state.masked failureId) state.inflightSlot
      (state.ruledAction failureId) >>= _) = _ ↔ _
    rw [same.failureAction_eq isSlot, ok_bind, oracle_actionMode (failureAction_isAction known)]
    constructor
    · intro reported
      obtain ⟨generation, counted, reported⟩ := bind_eq_ok reported
      obtain ⟨room, rfl⟩ := (oracle_nextGeneration typed).mp counted
      change (Oracle.reparse sha (state.failed policy failureId (state.generation + 1)
        (state.evidenceSequence + 1)) none >>= _) = _ at reported
      obtain ⟨nextState, checked, made⟩ := bind_eq_ok reported
      obtain ⟨rfl, small, valid⟩ := reparse_none.mp checked
      obtain rfl := Except.ok.inj made
      exact ⟨room, rfl, small, valid⟩
    · rintro ⟨room, rfl, small, valid⟩
      rw [(oracle_nextGeneration typed).mpr ⟨room, rfl⟩, ok_bind, ok_bind]
      change (Oracle.reparse sha (state.failed policy failureId (state.generation + 1)
        (state.evidenceSequence + 1)) none >>= _) = _
      rw [reparse_none.mpr ⟨rfl, small, valid⟩]
      rfl
  · exact ⟨fun ok => absurd (same.accepted_of_ok ok) accepted, fun all => absurd all.1 accepted⟩

end Results

end PooleOS.Recovery
