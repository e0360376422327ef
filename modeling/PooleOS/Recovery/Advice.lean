import PooleOS.Recovery.Runs

/- Whether the boot after a failure report does what the report advised. The report looks for the other slot of
the one that failed, and the selector for the other slot of the active one. -/
namespace PooleOS.Recovery

/-- What an action advises of the selection after it, when this slot has failed. -/
def Followed (failedSlot action : Nat) (answer : Except Error Decision) : Prop :=
  (action = actionRetryCandidate → ∃ decision, answer = .ok decision ∧ decision.slot = failedSlot ∧
    decision.trial = true) ∧
  (action = actionPrevious → ∃ decision, answer = .ok decision ∧ IsSlot decision.slot ∧ decision.slot ≠ failedSlot) ∧
  (action = actionSafe → ∃ decision, answer = .ok decision ∧ IsSlot decision.slot ∧ decision.mode = modeSafe) ∧
  (action = actionRecovery → ∃ decision, answer = .ok decision ∧ decision.mode = modeRecovery)

def failKernelEntry : Nat := 6
def failInitialHealthTimeout : Nat := 7
def failKnownGoodRuntime : Nat := 9

variable {policy : Bundle} {state next : State} {failureId : Nat}

/-- The failures that fall back on the previous slot and leave the failed one bootable. -/
def State.FallsBack (state : State) (failureId : Nat) : Prop :=
  failureId = failKernelEntry ∧ ¬ state.Untried state.inflightSlot ∨ failureId = failInitialHealthTimeout ∧
    (¬ state.OnTrial ∨ attempts state state.inflightSlot = 0)

/-- The failures that ask for the safe mode. -/
def State.TriesSafe (state : State) (failureId : Nat) : Prop :=
  (failureId = failKernelEntry ∨ failureId = failKnownGoodRuntime) ∧ state.Untried state.inflightSlot

/-- When the boot after a failure can follow the advice. -/
structure Fulfillable (policy : Bundle) (state : State) (failureId : Nat) : Prop where
  room : state.generation + 1 < u64Max
  previous : state.FallsBack failureId → Eligible policy state (3 - state.inflightSlot) →
    state.KnownGood (3 - state.inflightSlot) → state.KnownGood state.inflightSlot → state.inflightSlot = state.activeSlot
  safe : state.TriesSafe failureId →
    ∃ slot, IsSlot slot ∧ (Eligible policy state slot ∧ state.KnownGood slot) ∧ state.Untried slot

/-- What an action was chosen for. -/
inductive Advised (policy : Bundle) (state : State) (failureId : Nat) : Nat → Prop
  | retry (rule : failureId = failInitialHealthTimeout) (trial : state.OnTrial)
      (left : 0 < attempts state state.inflightSlot) : Advised policy state failureId actionRetryCandidate
  | safe (tries : state.TriesSafe failureId) : Advised policy state failureId actionSafe
  | previous (cause : Marks failureId ∨ state.FallsBack failureId)
      (other : Eligible policy (state.ruled failureId) (3 - state.inflightSlot) ∧
        (state.ruled failureId).KnownGood (3 - state.inflightSlot)) : Advised policy state failureId actionPrevious
  | recovery (plain : ¬ state.TriesSafe failureId) (alone : state.FallsBack failureId →
      ¬ (Eligible policy (state.ruled failureId) (3 - state.inflightSlot) ∧
        (state.ruled failureId).KnownGood (3 - state.inflightSlot))) : Advised policy state failureId actionRecovery

/-- The failures whose rule looks at the state. -/
def Special (failureId : Nat) : Prop :=
  failureId = failKernelEntry ∨ failureId = failInitialHealthTimeout ∨ failureId = failKnownGoodRuntime

instance (failureId : Nat) : Decidable (Special failureId) := inferInstanceAs (Decidable (_ ∨ _))

theorem rule_kinds (known : IsFailure failureId) : Special failureId ∨
    (ruleOf failureId).primaryAction = actionRecovery ∨
      (ruleOf failureId).primaryAction = actionPrevious ∧ Marks failureId := by
  have each : ∀ index < 11, 1 ≤ index → Special index ∨ (ruleOf index).primaryAction = actionRecovery ∨
      (ruleOf index).primaryAction = actionPrevious ∧ Marks index := by decide
  exact each failureId (Nat.lt_succ_of_le known.2) known.1

theorem plain_failure (plain : ¬ Special failureId) : ¬ state.TriesSafe failureId ∧ ¬ state.FallsBack failureId := by
  simp only [Special, not_or] at plain
  exact ⟨fun tries => tries.1.elim plain.1 plain.2.2,
    fun falls => falls.elim (fun six => plain.1 six.1) (fun seven => plain.2.1 seven.1)⟩

theorem ruledAction_plain {action : Nat} (primary : (ruleOf failureId).primaryAction = action)
    (noRetry : action ≠ actionRetryCandidate) (noSafe : action ≠ actionSafe) : state.ruledAction failureId = action := by
  unfold State.ruledAction
  dsimp only
  have first : ¬ (action = actionRetryCandidate ∧ (¬ state.OnTrial ∨ attempts state state.inflightSlot = 0)) :=
    fun retry => noRetry retry.1
  rw [primary, if_neg first, if_neg (fun safe => noSafe safe.1)]

theorem ruledAction_kernelEntry :
    state.ruledAction failKernelEntry = if state.Untried state.inflightSlot then actionSafe else actionPrevious := by
  by_cases untried : state.Untried state.inflightSlot <;>
    simp [State.ruledAction, ruleOf, failureRows, failKernelEntry, actionSafe, actionRetryCandidate, untried]

theorem ruledAction_healthTimeout : state.ruledAction failInitialHealthTimeout =
    if ¬ state.OnTrial ∨ attempts state state.inflightSlot = 0 then actionPrevious else actionRetryCandidate := by
  by_cases spent : ¬ state.OnTrial ∨ attempts state state.inflightSlot = 0 <;>
    simp [State.ruledAction, ruleOf, failureRows, failInitialHealthTimeout, actionSafe, actionPrevious,
      actionRetryCandidate, spent]

theorem ruledAction_runtime :
    state.ruledAction failKnownGoodRuntime = if state.Untried state.inflightSlot then actionSafe else actionRecovery := by
  by_cases untried : state.Untried state.inflightSlot <;>
    simp [State.ruledAction, ruleOf, failureRows, failKnownGoodRuntime, actionSafe, actionRetryCandidate, untried]

/-- An action that names the previous slot stands only where that slot can be booted. -/
theorem failureAction_previous (previous : state.ruledAction failureId = actionPrevious)
    (plain : ¬ state.TriesSafe failureId) (cause : Marks failureId ∨ state.FallsBack failureId) :
    Advised policy state failureId (state.failureAction policy failureId) := by
  unfold State.failureAction
  dsimp only
  rw [previous]
  split
  · rename_i alone
    exact .recovery plain (fun _ => alone.2)
  · rename_i fits
    exact .previous cause (not_not.mp (fun missing => fits ⟨rfl, missing⟩))

theorem failureAction_other {action : Nat} (ruled : state.ruledAction failureId = action)
    (other : action ≠ actionPrevious) : state.failureAction policy failureId = action := by
  subst ruled
  exact if_neg (fun both => other both.1)

theorem failureAction_advised (known : IsFailure failureId) :
    Advised policy state failureId (state.failureAction policy failureId) := by
  by_cases special : Special failureId
  · rcases special with rfl | rfl | rfl
    · have ruled := @ruledAction_kernelEntry state
      by_cases untried : state.Untried state.inflightSlot
      · rw [if_pos untried] at ruled
        rw [failureAction_other ruled (by decide)]
        exact .safe ⟨Or.inl rfl, untried⟩
      · rw [if_neg untried] at ruled
        exact failureAction_previous ruled (fun tries => untried tries.2) (Or.inr (Or.inl ⟨rfl, untried⟩))
    · have ruled := @ruledAction_healthTimeout state
      by_cases spent : ¬ state.OnTrial ∨ attempts state state.inflightSlot = 0
      · rw [if_pos spent] at ruled
        exact failureAction_previous ruled (fun tries => absurd tries.1 (by decide)) (Or.inr (Or.inr ⟨rfl, spent⟩))
      · rw [if_neg spent] at ruled
        rw [failureAction_other ruled (by decide)]
        obtain ⟨trial, left⟩ := not_or.mp spent
        exact .retry rfl (not_not.mp trial) (Nat.pos_of_ne_zero left)
    · have ruled := @ruledAction_runtime state
      by_cases untried : state.Untried state.inflightSlot
      · rw [if_pos untried] at ruled
        rw [failureAction_other ruled (by decide)]
        exact .safe ⟨Or.inr rfl, untried⟩
      · rw [if_neg untried] at ruled
        rw [failureAction_other ruled (by decide)]
        refine .recovery (fun tries => untried tries.2) (fun falls => absurd falls ?_)
        rintro (six | seven)
        · exact absurd six.1 (by decide)
        · exact absurd seven.1 (by decide)
  · obtain ⟨noSafe, noFall⟩ := @plain_failure state failureId special
    rcases (rule_kinds known).resolve_left special with primary | ⟨primary, marks⟩
    · have ruled : state.ruledAction failureId = actionRecovery := ruledAction_plain primary (by decide) (by decide)
      rw [failureAction_other ruled (by decide)]
      exact .recovery noSafe (absurd · noFall)
    · exact failureAction_previous (ruledAction_plain primary (by decide) (by decide)) noSafe (Or.inl marks)

/-- What is known of a boot that a selection has put in flight. -/
structure State.Launched (policy : Bundle) (state : State) : Prop where
  eligible : Eligible policy state state.inflightSlot
  quiet : state.flags &&& (stateRecoveryRequested ||| stateSafeRequested) = 0

theorem launched_quiet {flags : Nat} (low : flags < 8) :
    without (flags ||| stateInflight) (stateRecoveryRequested ||| stateSafeRequested) &&&
      (stateRecoveryRequested ||| stateSafeRequested) = 0 := by
  revert flags
  decide

theorem eligible_setAttempts {slot other value : Nat} :
    Eligible policy (setAttempts state slot value) other ↔ Eligible policy state other := by
  unfold setAttempts
  split <;> rfl

theorem setAttempts_flags {slot value : Nat} : (setAttempts state slot value).flags = state.flags := by
  unfold setAttempts
  split <;> rfl

variable {sha : Sha256}

theorem selected_launched (typed : state.Typed) (sound : policy.Sound) {requestedMode nonce : Nat}
    {physicalPresence authenticated writable : Bool} {decision : Decision}
    (selected : selectBoot sha policy state requestedMode physicalPresence nonce authenticated writable = .ok decision)
    (inflight : decision.state.Inflight) : State.Launched policy decision.state := by
  obtain ⟨accepted, -, idle, outcome⟩ := (selectBoot_ok typed sound).mp selected
  rcases outcome with ⟨-, rfl⟩ | ⟨-, known, -, committed⟩
  · exact absurd inflight idle
  · obtain ⟨-, -, rfl⟩ := commit_ok.mp committed
    have low := accepted.valid.flags
    have chosen := @choose_chosen policy state accepted.valid.active _ known
    generalize choose policy state (requested state requestedMode) = choice at chosen inflight ⊢
    cases chosen with
    | firmware => exact absurd inflight idle
    | asked => exact absurd (land_flags low (by decide) (by decide)).2 inflight
    | exhausted next base => exact absurd (land_flags (base.flags ▸ low) (by decide) (by decide)).2 inflight
    | trial pending eligible left => exact ⟨eligible_setAttempts.mpr eligible, launched_quiet (by rw [setAttempts_flags]; exact low)⟩
    | safe slot isSlot eligible known untried => exact ⟨eligible, launched_quiet low⟩
    | known next base slot mode isSlot plain eligible known => exact ⟨eligible, launched_quiet (base.flags ▸ low)⟩

section Masks

/-- A rule that does not retire the failed slot leaves the masks. -/
theorem ruled_eligible (spares : ¬ Marks failureId) (slot : Nat) :
    Eligible policy (state.ruled failureId) slot ↔ Eligible policy state slot := by
  have mask : (state.ruled failureId).unbootableMask = state.unbootableMask := if_neg spares
  unfold Eligible
  rw [mask]
  rfl

theorem ruled_masks (spares : ¬ Marks failureId) (slot : Nat) :
    (Eligible policy (state.ruled failureId) slot ∧ (state.ruled failureId).KnownGood slot) ↔
      Eligible policy state slot ∧ state.KnownGood slot := by
  have mask : (state.ruled failureId).knownGoodMask = state.knownGoodMask := if_neg spares
  unfold State.KnownGood
  rw [ruled_eligible spares, mask]

theorem ruled_pending (keeps : ¬ Clears failureId) : (state.ruled failureId).pendingSlot = state.pendingSlot :=
  if_neg (fun clears => keeps clears.1)

theorem ruled_retired (marks : Marks failureId) : ¬ Eligible policy (state.ruled failureId) state.inflightSlot := by
  rintro ⟨usable, -⟩
  have whole : bitOf state.inflightSlot = 0 := by
    change (if Marks failureId then _ else _) &&& _ = 0 at usable
    rw [if_pos marks, Nat.and_or_distrib_right, Nat.and_self, Nat.or_eq_zero_iff] at usable
    exact usable.2
  unfold bitOf at whole
  rw [Nat.shiftLeft_eq, Nat.one_mul] at whole
  exact absurd whole (Nat.ne_of_gt (Nat.two_pow_pos _))

theorem FallsBack.spares (falls : state.FallsBack failureId) : ¬ Marks failureId := by
  rcases falls with ⟨rfl, -⟩ | ⟨rfl, -⟩ <;> decide

theorem TriesSafe.spares (tries : state.TriesSafe failureId) : ¬ Marks failureId := by
  rcases tries.1 with rfl | rfl <;> decide

end Masks

section Selection

variable {nonce : Nat}

/-- The selection after a report, in the mode that the report left. -/
theorem select_after (typed : state.Typed) (sound : policy.Sound) (accepted : state.Accepted policy)
    (idle : ¬ state.Inflight) (asked : requested state state.currentMode = state.currentMode)
    (mode : modeNormal ≤ state.currentMode ∧ state.currentMode < modeDiagnostic) (fresh : nonce ≠ 0)
    {physicalPresence : Bool} {wanted : Decision → Prop} :
    (∃ decision, selectBoot sha policy state state.currentMode physicalPresence nonce true true = .ok decision ∧
      wanted decision) ↔ state.generation < u64Max ∧
        wanted ((choose policy state state.currentMode).decision nonce (state.generation + 1) (nextEvidence state)) := by
  have known : state.currentMode ≤ modeFirmware ∧ state.currentMode ≠ modeFirmware := by
    unfold modeDiagnostic at mode
    unfold modeFirmware
    omega
  constructor
  · rintro ⟨decision, selected, holds⟩
    obtain ⟨-, -, -, outcome⟩ := (selectBoot_ok typed sound).mp selected
    rcases outcome with ⟨impossible, -⟩ | ⟨-, -, -, committed⟩
    · cases impossible
    · obtain ⟨-, room, rfl⟩ := commit_ok.mp committed
      exact ⟨room, asked ▸ holds⟩
  · rintro ⟨room, holds⟩
    refine ⟨_, (selectBoot_ok typed sound).mpr ⟨accepted, rfl, idle, Or.inr ⟨rfl, ?_, ?_, ?_⟩⟩, holds⟩
    · rw [asked]
      exact ⟨mode.1, known.1⟩
    · rw [asked]
      exact fun firmware => absurd firmware known.2
    · rw [asked]
      exact commit_ok.mpr ⟨fun _ => fresh, room, rfl⟩

/-- Safe mode boots a slot exactly where one can be booted in it. -/
theorem chooseSafe_starts {generation evidence : Nat} : ∀ {slots : List Nat}, (∀ slot ∈ slots, IsSlot slot) →
    ((IsSlot ((chooseSafe policy state slots).decision nonce generation evidence).slot ∧
      ((chooseSafe policy state slots).decision nonce generation evidence).mode = modeSafe) ↔
        ∃ slot ∈ slots, (Eligible policy state slot ∧ state.KnownGood slot) ∧ state.Untried slot)
  | [], _ => by
    simp [chooseSafe, Choice.decision, IsSlot]
  | slot :: rest, slots => by
    unfold chooseSafe
    split
    · rename_i fits
      exact ⟨fun _ => ⟨slot, List.mem_cons_self .., fits⟩, fun _ => ⟨slots slot (List.mem_cons_self ..), rfl⟩⟩
    · rename_i unfit
      rw [chooseSafe_starts (fun other member => slots other (List.mem_cons_of_mem _ member)), List.exists_mem_cons_iff]
      exact ⟨Or.inr, fun either => either.resolve_left unfit⟩

/-- The previous mode boots the other slot of the active one, if that can be booted. -/
theorem choosePrevious_other {generation evidence first second failedSlot : Nat} (isSecond : IsSlot second)
    (same : first = failedSlot) (other : second ≠ failedSlot)
    (fits : Eligible policy state second ∧ state.KnownGood second) :
    (IsSlot ((chooseKnownGood policy state modePrevious [first, second]).decision nonce generation evidence).slot ∧
      ((chooseKnownGood policy state modePrevious [first, second]).decision nonce generation evidence).slot ≠ failedSlot) ↔
        ¬ (Eligible policy state failedSlot ∧ state.KnownGood failedSlot) := by
  subst same
  unfold chooseKnownGood
  split
  · rename_i taken
    exact ⟨fun wanted => absurd rfl wanted.2, fun untaken => absurd taken untaken⟩
  · rename_i untaken
    unfold chooseKnownGood
    rw [if_pos fits]
    exact ⟨fun _ => untaken, fun _ => ⟨isSecond, other⟩⟩

theorem choose_trial {generation evidence slot : Nat} (pending : state.pendingSlot = slot) (some : slot ≠ 0)
    (eligible : Eligible policy state slot) (left : 0 < attempts state slot) :
    ((choose policy state modeNormal).decision nonce generation evidence).slot = slot ∧
      ((choose policy state modeNormal).decision nonce generation evidence).trial = true := by
  subst pending
  unfold choose
  rw [if_neg (by decide), if_neg (by decide), if_pos ⟨rfl, some⟩, if_pos ⟨eligible, left⟩]
  exact ⟨rfl, rfl⟩

end Selection

theorem land_quiet {flags : Nat} (low : flags < 8)
    (quiet : flags &&& (stateRecoveryRequested ||| stateSafeRequested) = 0) :
    without flags stateInflight &&& stateRecoveryRequested = 0 ∧ without flags stateInflight &&& stateSafeRequested = 0 := by
  revert flags
  decide

theorem candidates_all {slot : Nat} (active : IsSlot state.activeSlot) (isSlot : IsSlot slot) :
    slot ∈ [state.activeSlot, 3 - state.activeSlot] := by
  obtain ⟨one, two⟩ := isSlot
  obtain ⟨first, second⟩ := active
  rw [List.mem_cons, List.mem_singleton]
  omega

theorem apart {slot : Nat} (isSlot : IsSlot slot) : 3 - slot ≠ slot := by
  unfold IsSlot at isSlot
  omega

theorem requested_quiet {mode : Nat} (quiet : state.flags &&& stateRecoveryRequested = 0 ∧
    state.flags &&& stateSafeRequested = 0) (some : mode ≠ 0) : requested state mode = mode := by
  unfold requested
  rw [if_neg (not_not.mpr quiet.1), if_neg (not_not.mpr quiet.2), if_neg some]

section Main

variable {nonce : Nat} {presence : Bool} {generation evidence : Nat}

variable (sound : policy.Sound) (accepted : state.Accepted policy) (launched : state.Launched policy) (fresh : nonce ≠ 0)
  (typed : (state.failed policy failureId (state.generation + 1) evidence).Typed)
  (valid : (state.failed policy failureId (state.generation + 1) evidence).Accepted policy)
include sound accepted launched fresh typed valid

/-- The selection after a report that is accepted. -/
theorem select_failed {action : Nat} (reported : state.failureAction policy failureId = action)
    (plain : modeNormal ≤ State.modeOf action ∧ State.modeOf action < modeDiagnostic) (wanted : Decision → Prop) :
    (∃ decision, selectBoot sha policy (state.failed policy failureId (state.generation + 1) evidence)
      (state.failed policy failureId (state.generation + 1) evidence).currentMode presence nonce true true = .ok decision ∧
        wanted decision) ↔ state.generation + 1 < u64Max ∧
      wanted ((choose policy (state.failed policy failureId (state.generation + 1) evidence)
        (State.modeOf action)).decision nonce (state.generation + 2) ((evidence + 1) % 2 ^ 64)) := by
  subst reported
  have idle : ¬ (state.failed policy failureId (state.generation + 1) evidence).Inflight :=
    not_not.mpr (land_flags accepted.valid.flags (by decide) (by decide)).2
  exact select_after typed sound valid idle
    (requested_quiet (land_quiet accepted.valid.flags launched.quiet) (Nat.ne_of_gt plain.1)) plain fresh

/-- After a report that is accepted, the next boot follows its advice exactly where it can. -/
theorem failed_followed (inflight : state.Inflight) (known : IsFailure failureId) :
    Followed state.inflightSlot (state.failureAction policy failureId)
      (selectBoot sha policy (state.failed policy failureId (state.generation + 1) evidence)
        (state.failed policy failureId (state.generation + 1) evidence).currentMode presence nonce true true) ↔
      Fulfillable policy state failureId := by
  have isSlot := (accepted.valid.flying inflight).2.2.1
  have active := accepted.valid.active
  have advised := @failureAction_advised policy state failureId known
  have select := @select_failed _ _ _ sha _ presence evidence sound accepted launched fresh typed valid
  generalize reported : state.failureAction policy failureId = action at advised select ⊢
  cases advised with
  | retry rule trial left =>
    subst rule
    refine Iff.trans ?_ (Iff.trans (select rfl (by decide)
      (fun decision => decision.slot = state.inflightSlot ∧ decision.trial = true)) ?_)
    · simp [Followed, actionRetryCandidate, actionPrevious, actionSafe, actionRecovery]
    · have pending : (state.failed policy failInitialHealthTimeout (state.generation + 1) evidence).pendingSlot =
          state.inflightSlot := (@ruled_pending state failInitialHealthTimeout (by decide)).trans trial.1
      have eligible : Eligible policy (state.ruled failInitialHealthTimeout) state.inflightSlot :=
        (ruled_eligible (by decide) _).mpr launched.eligible
      refine ⟨fun holds => ⟨holds.1, ?_, ?_⟩, fun able => ⟨able.room, ?_⟩⟩
      · rintro (six | seven)
        · exact absurd six.1 (by decide)
        · exact absurd seven.2 (not_or.mpr ⟨not_not.mpr trial, Nat.ne_of_gt left⟩)
      · exact fun tries => absurd tries.1 (by decide)
      · exact choose_trial pending (Nat.ne_of_gt isSlot.1) eligible left
  | safe tries =>
    refine Iff.trans ?_ (Iff.trans (select rfl (by decide)
      (fun decision => IsSlot decision.slot ∧ decision.mode = modeSafe)) ?_)
    · simp [Followed, actionRetryCandidate, actionPrevious, actionSafe, actionRecovery]
    · have masks := @ruled_masks policy state failureId (TriesSafe.spares tries)
      have boots := @chooseSafe_starts policy (state.failed policy failureId (state.generation + 1) evidence) nonce
        (state.generation + 2) ((evidence + 1) % 2 ^ 64) _ (candidates_slots active)
      refine ⟨fun holds => ⟨holds.1, ?_, fun _ => ?_⟩, fun able => ⟨able.room, boots.mpr ?_⟩⟩
      · rintro (six | seven)
        · exact absurd tries.2 six.2
        · exact absurd tries.1 (by rw [seven.1]; decide)
      · obtain ⟨slot, member, fits, untried⟩ := boots.mp holds.2
        exact ⟨slot, candidates_slots active slot member, (masks slot).mp fits, untried⟩
      · obtain ⟨slot, isSlot, fits, untried⟩ := able.safe tries
        exact ⟨slot, candidates_all active isSlot, (masks slot).mpr fits, untried⟩
  | previous cause other =>
    refine Iff.trans ?_ (Iff.trans (select rfl (by decide)
      (fun decision => IsSlot decision.slot ∧ decision.slot ≠ state.inflightSlot)) ?_)
    · simp [Followed, actionRetryCandidate, actionPrevious, actionSafe, actionRecovery]
    · have noSafe : ¬ state.TriesSafe failureId := by
        intro tries
        rcases cause with marks | six | seven
        · exact TriesSafe.spares tries marks
        · exact six.2 tries.2
        · exact absurd tries.1 (by rw [seven.1]; decide)
      by_cases first : state.inflightSlot = state.activeSlot
      · refine ⟨fun holds => ⟨holds.1, fun _ _ _ _ => first, (absurd · noSafe)⟩, fun able => ⟨able.room, ?_⟩⟩
        change IsSlot ((chooseKnownGood policy _ modePrevious [3 - state.activeSlot, state.activeSlot]).decision _ _ _).slot ∧
          ((chooseKnownGood policy _ modePrevious [3 - state.activeSlot, state.activeSlot]).decision _ _ _).slot ≠ _
        have fits : Eligible policy (state.failed policy failureId (state.generation + 1) evidence) (3 - state.inflightSlot) ∧
          (state.failed policy failureId (state.generation + 1) evidence).KnownGood (3 - state.inflightSlot) := other
        unfold chooseKnownGood
        rw [← first, if_pos fits]
        exact ⟨other_isSlot isSlot, apart isSlot⟩
      · have swapped : 3 - state.activeSlot = state.inflightSlot ∧ 3 - state.inflightSlot = state.activeSlot := by
          unfold IsSlot at isSlot active
          omega
        rw [swapped.2] at other
        have boots := @choosePrevious_other policy (state.failed policy failureId (state.generation + 1) evidence) nonce
          (state.generation + 2) ((evidence + 1) % 2 ^ 64) _ _ _ active swapped.1 (Ne.symm first) other
        refine (and_congr_right fun _ => boots).trans ?_
        refine ⟨fun holds => ⟨holds.1, fun falls _ _ good => ?_, (absurd · noSafe)⟩, fun able => ⟨able.room, fun again => ?_⟩⟩
        · exact absurd ((ruled_masks (FallsBack.spares falls) _).mpr ⟨launched.eligible, good⟩) holds.2
        · rcases cause with marks | falls
          · exact ruled_retired marks again.1
          · have spares := FallsBack.spares falls
            rw [swapped.2.symm] at other
            obtain ⟨eligible, good⟩ := (ruled_masks spares _).mp other
            exact first (able.previous falls eligible good ((ruled_masks spares _).mp again).2)
  | recovery plain alone =>
    refine Iff.trans ?_ (Iff.trans (select rfl (by decide) (fun decision => decision.mode = modeRecovery)) ?_)
    · simp [Followed, actionRetryCandidate, actionPrevious, actionSafe, actionRecovery]
    · refine ⟨fun holds => ⟨holds.1, fun falls eligible good => ?_, (absurd · plain)⟩, fun able => ⟨able.room, rfl⟩⟩
      exact absurd ((ruled_masks (FallsBack.spares falls) _).mpr ⟨eligible, good⟩) (alone falls)

end Main

/-- For every boot in flight that a selection has launched: the boot after a failure report follows its advice
exactly where it can. -/
theorem advice_followed_iff {data : Bytes} (parsed : parse sha data = .ok policy) {origin : State} (typed : origin.Typed)
    {requestedMode nonce : Nat} (word : nonce < 2 ^ 64) {presence authenticated writable : Bool} {launch : Decision}
    (selected : selectBoot sha policy origin requestedMode presence nonce authenticated writable = .ok launch)
    (inflight : launch.state.Inflight) {failureId : Nat} {answer : FailureDecision}
    (reported : reportBootFailure sha policy launch.state failureId true = .ok answer)
    (validated : validateStateForPolicy sha policy answer.state = .ok ()) {nonce' : Nat} (fresh : nonce' ≠ 0)
    (presence' : Bool) : Followed launch.state.inflightSlot answer.action
      (selectBoot sha policy answer.state answer.state.currentMode presence' nonce' true true) ↔
        Fulfillable policy launch.state failureId := by
  have sound := parse_sound parsed
  have flying := selectBoot_typed typed sound word selected
  have landed := reportBootFailure_typed flying sound reported
  have valid := (validate_iff sha landed).mp validated
  obtain ⟨accepted, -, -, known, -, rfl⟩ := (reportBootFailure_ok flying sound).mp reported
  exact failed_followed sound accepted (selected_launched typed sound selected inflight) fresh landed valid inflight known

section Twin

/-- The second slot is active and the first one is known good too. -/
def twinState : State := { canonicalState with pendingSlot := 0, knownGoodMask := 3 }

/-- A boot of the previous slot is in flight, which is the first one. -/
def twinLaunch : Decision where
  mode := modePrevious
  slot := 1
  trial := false
  persistenceRequired := true
  reason := 0
  state := { twinState with
    flags := 4
    generation := 12
    currentMode := 3
    bootNonce := 1
    inflightGeneration := 12
    inflightSlot := 1
    inflightMode := 3
    evidenceSequence := 2 }

/-- It did not become healthy in time. -/
def twinFailure : FailureDecision where
  action := actionPrevious
  state := { twinState with
    generation := 13
    currentMode := 3
    lastFailure := failInitialHealthTimeout
    evidenceSequence := 3 }

/-- SHA-256 on the bytes above. -/
def twinSha : Sha256 :=
  let hashed := fun (state : State) => (body state.fields).take 112
  .ofTable [(canonicalBody, canonicalDigest),
    (hashed twinState, 0xf583ddb8c577a63cc1f9c2c1bd8bd20057aef75a5328a6733471b2def97116f2),
    (hashed twinLaunch.state, 0xaabecfc5db0e9c35232f8965fbe4c0b8b41ca2a40ddc20b0e1fc29c18139ba7f),
    (hashed twinFailure.state, 0xfa561e967df15363f820019aaeb4200fa298725cdc7f9235dda9f144ec5e53a9)]

theorem twin_parsed : parse twinSha canonicalBundle = .ok canonicalPolicy := by
  decide +kernel

theorem twin_runs : selectBoot twinSha canonicalPolicy twinState modePrevious false 1 true true = .ok twinLaunch ∧
    reportBootFailure twinSha canonicalPolicy twinLaunch.state failInitialHealthTimeout true = .ok twinFailure ∧
    validateStateForPolicy twinSha canonicalPolicy twinFailure.state = .ok () := by
  decide +kernel

theorem advice_followed_iff_twin : Followed 1 actionPrevious
    (selectBoot twinSha canonicalPolicy twinFailure.state modePrevious false 2 true true) ↔
      Fulfillable canonicalPolicy twinLaunch.state failInitialHealthTimeout :=
  advice_followed_iff twin_parsed (by decide) (by decide) twin_runs.1 (by decide) twin_runs.2.1 twin_runs.2.2 (by decide) false

/-- The advice is to boot the other slot, and the slot that has just failed is booted again. -/
theorem advice_boots_failed_slot : parse twinSha canonicalBundle = .ok canonicalPolicy ∧
    selectBoot twinSha canonicalPolicy twinState modePrevious false 1 true true = .ok twinLaunch ∧
    reportBootFailure twinSha canonicalPolicy twinLaunch.state failInitialHealthTimeout true = .ok twinFailure ∧
    validateStateForPolicy twinSha canonicalPolicy twinFailure.state = .ok () ∧
    twinLaunch.state.inflightSlot = 1 ∧ twinFailure.action = actionPrevious ∧
    (selectBoot twinSha canonicalPolicy twinFailure.state modePrevious false 2 true true).map (·.slot) = .ok 1 ∧
    ¬ Followed 1 actionPrevious (selectBoot twinSha canonicalPolicy twinFailure.state modePrevious false 2 true true) := by
  have again : (selectBoot twinSha canonicalPolicy twinFailure.state modePrevious false 2 true true).map (·.slot) = .ok 1 := by
    decide +kernel
  refine ⟨twin_parsed, twin_runs.1, twin_runs.2.1, twin_runs.2.2, rfl, rfl, again, fun followed => ?_⟩
  obtain ⟨decision, booted, -, apart⟩ := followed.2.1 rfl
  rw [booted] at again
  exact apart (Except.ok.inj again)

end Twin

end PooleOS.Recovery
