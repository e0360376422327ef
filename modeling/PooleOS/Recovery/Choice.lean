import PooleOS.Recovery.Record

/- The decision of a boot as a pure function: what is booted, and from which state. -/
namespace PooleOS.Recovery

open List

/-- A slot that the masks and the version floors admit. -/
def Eligible (policy : Bundle) (state : State) (slot : Nat) : Prop :=
  state.unbootableMask &&& bitOf slot = 0 ∧
    max policy.minimumSecureVersion state.minimumSecureVersion ≤ policy.slotVersion slot

instance (policy : Bundle) (state : State) (slot : Nat) : Decidable (Eligible policy state slot) :=
  inferInstanceAs (Decidable (_ ∧ _))

/-- A slot that a boot has succeeded from. -/
def State.KnownGood (state : State) (slot : Nat) : Prop := state.knownGoodMask &&& bitOf slot ≠ 0

instance (state : State) (slot : Nat) : Decidable (state.KnownGood slot) :=
  inferInstanceAs (Decidable (_ ≠ _))

/-- A slot that was not booted in safe mode. -/
def State.Untried (state : State) (slot : Nat) : Prop := state.safeAttemptedMask &&& bitOf slot = 0

instance (state : State) (slot : Nat) : Decidable (state.Untried slot) :=
  inferInstanceAs (Decidable (_ = _))

inductive Choice
  | firmware (next : State)
  | recover (next : State) (reason : Nat)
  | boot (next : State) (slot mode : Nat) (trial : Bool) (safeMask : Nat)
deriving DecidableEq, Repr

/-- The state whose pending slot is given up. -/
def State.retire (state : State) : State :=
  { state with
    pendingSlot := 0
    unbootableMask := state.unbootableMask ||| bitOf state.pendingSlot
    knownGoodMask := without state.knownGoodMask (bitOf state.pendingSlot)
    lastFailure := failAttemptExhausted }

def chooseSafe (policy : Bundle) (next : State) : List Nat → Choice
  | [] => .recover next failAttemptExhausted
  | slot :: rest =>
    if (Eligible policy next slot ∧ next.KnownGood slot) ∧ next.Untried slot then
      .boot next slot modeSafe false (next.safeAttemptedMask ||| bitOf slot)
    else chooseSafe policy next rest

def chooseKnownGood (policy : Bundle) (next : State) (mode : Nat) : List Nat → Choice
  | [] => .recover next failAttemptExhausted
  | slot :: rest =>
    if Eligible policy next slot ∧ next.KnownGood slot then
      .boot next slot mode false next.safeAttemptedMask
    else chooseKnownGood policy next mode rest

def chooseFallback (policy : Bundle) (next : State) (mode : Nat) : Choice :=
  if mode = modeSafe then chooseSafe policy next [next.activeSlot, 3 - next.activeSlot]
  else if mode = modePrevious then
    chooseKnownGood policy next mode [3 - next.activeSlot, next.activeSlot]
  else chooseKnownGood policy next mode [next.activeSlot, 3 - next.activeSlot]

/-- What a boot in this mode does. -/
def choose (policy : Bundle) (state : State) (mode : Nat) : Choice :=
  if mode = modeFirmware then .firmware state
  else if mode = modeRecovery then .recover state state.lastFailure
  else if mode = modeNormal ∧ state.pendingSlot ≠ 0 then
    if Eligible policy state state.pendingSlot ∧ 0 < attempts state state.pendingSlot then
      .boot (setAttempts state state.pendingSlot (attempts state state.pendingSlot - 1))
        state.pendingSlot mode true state.safeAttemptedMask
    else chooseFallback policy state.retire modePrevious
  else chooseFallback policy state mode

namespace Choice

/-- Whether a slot is booted. -/
def boots : Choice → Bool
  | .boot .. => true
  | _ => false

/-- The decision, with the new generation and the new evidence number. -/
def decision (nonce generation evidence : Nat) : Choice → Decision
  | .firmware next =>
    { mode := modeFirmware, slot := 0, trial := false, persistenceRequired := true, reason := 0,
      state := { next with
        generation
        currentMode := modeFirmware
        evidenceSequence := evidence } }
  | .recover next reason =>
    { mode := modeRecovery, slot := 0, trial := false, persistenceRequired := true, reason,
      state := { next with
        flags := without next.flags (stateInflight ||| stateSafeRequested)
        generation
        currentMode := modeRecovery
        lastFailure := reason
        bootNonce := 0
        inflightGeneration := 0
        inflightSlot := 0
        inflightMode := 0
        evidenceSequence := evidence } }
  | .boot next slot mode trial safeMask =>
    { mode, slot, trial, persistenceRequired := true, reason := 0,
      state := { next with
        flags := without (next.flags ||| stateInflight) (stateRecoveryRequested ||| stateSafeRequested)
        generation
        currentMode := mode
        bootNonce := nonce
        inflightGeneration := generation
        inflightSlot := slot
        inflightMode := mode
        safeAttemptedMask := safeMask
        evidenceSequence := evidence } }

end Choice

/-- The state that a choice starts from: with the pending slot, or without it. -/
inductive Base (policy : Bundle) (state : State) : State → Prop
  | same : Base policy state state
  | retired (pending : state.pendingSlot ≠ 0)
      (spent : ¬ (Eligible policy state state.pendingSlot ∧ 0 < attempts state state.pendingSlot)) :
      Base policy state state.retire

/-- What can be chosen, and when. -/
inductive Chosen (policy : Bundle) (state : State) : Choice → Prop
  | firmware : Chosen policy state (.firmware state)
  | asked : Chosen policy state (.recover state state.lastFailure)
  | exhausted (next : State) (base : Base policy state next) :
      Chosen policy state (.recover next failAttemptExhausted)
  | trial (pending : state.pendingSlot ≠ 0) (eligible : Eligible policy state state.pendingSlot)
      (left : 0 < attempts state state.pendingSlot) :
      Chosen policy state (.boot (setAttempts state state.pendingSlot (attempts state state.pendingSlot - 1))
        state.pendingSlot modeNormal true state.safeAttemptedMask)
  | safe (slot : Nat) (isSlot : IsSlot slot) (eligible : Eligible policy state slot)
      (known : state.KnownGood slot) (untried : state.Untried slot) :
      Chosen policy state
        (.boot state slot modeSafe false (state.safeAttemptedMask ||| bitOf slot))
  | known (next : State) (base : Base policy state next) (slot mode : Nat) (isSlot : IsSlot slot)
      (plain : mode = modeNormal ∨ mode = modePrevious ∨ mode = modeDiagnostic)
      (eligible : Eligible policy next slot) (known : next.KnownGood slot) :
      Chosen policy state (.boot next slot mode false next.safeAttemptedMask)

section Cases

variable {policy : Bundle} {state next : State}

theorem chooseSafe_chosen :
    ∀ {slots : List Nat}, (∀ slot ∈ slots, IsSlot slot) → Chosen policy state (chooseSafe policy state slots)
  | [], _ => .exhausted state .same
  | slot :: rest, slots => by
      unfold chooseSafe
      split
      · rename_i fits
        exact .safe slot (slots slot (mem_cons_self ..)) fits.1.1 fits.1.2 fits.2
      · exact chooseSafe_chosen (fun other member => slots other (mem_cons_of_mem _ member))

theorem chooseKnownGood_chosen (base : Base policy state next) {mode : Nat}
    (plain : mode = modeNormal ∨ mode = modePrevious ∨ mode = modeDiagnostic) :
    ∀ {slots : List Nat}, (∀ slot ∈ slots, IsSlot slot) →
      Chosen policy state (chooseKnownGood policy next mode slots)
  | [], _ => .exhausted next base
  | slot :: rest, slots => by
      unfold chooseKnownGood
      split
      · rename_i fits
        exact .known next base slot mode (slots slot (mem_cons_self ..)) plain fits.1 fits.2
      · exact chooseKnownGood_chosen base plain
          (fun other member => slots other (mem_cons_of_mem _ member))

theorem other_isSlot {slot : Nat} (isSlot : IsSlot slot) : IsSlot (3 - slot) := by
  obtain ⟨one, two⟩ := isSlot
  exact ⟨by omega, by omega⟩

theorem chooseFallback_chosen (base : Base policy state next) (active : IsSlot next.activeSlot)
    {mode : Nat} (safe : mode = modeSafe → next = state)
    (plain : mode ≠ modeSafe → mode = modeNormal ∨ mode = modePrevious ∨ mode = modeDiagnostic) :
    Chosen policy state (chooseFallback policy next mode) := by
  have candidates : ∀ slot ∈ [next.activeSlot, 3 - next.activeSlot], IsSlot slot := by
    intro slot member
    simp only [mem_cons, not_mem_nil, or_false] at member
    rcases member with rfl | rfl
    · exact active
    · exact other_isSlot active
  unfold chooseFallback
  split
  · rename_i isSafe
    obtain rfl := safe isSafe
    exact chooseSafe_chosen candidates
  · rename_i notSafe
    split
    · refine chooseKnownGood_chosen base (plain notSafe) ?_
      intro slot member
      exact candidates slot (by simpa [or_comm] using member)
    · exact chooseKnownGood_chosen base (plain notSafe) candidates

/-- The cases of a choice. -/
theorem choose_chosen (active : IsSlot state.activeSlot) {mode : Nat}
    (known : modeNormal ≤ mode ∧ mode ≤ modeFirmware) : Chosen policy state (choose policy state mode) := by
  obtain ⟨one, six⟩ := known
  unfold modeNormal at one
  unfold modeFirmware at six
  unfold choose
  split
  · exact .firmware
  · rename_i notFirmware
    split
    · exact .asked
    · rename_i notRecovery
      split
      · rename_i normal
        obtain ⟨rfl, pending⟩ := normal
        split
        · rename_i fits
          exact .trial pending fits.1 fits.2
        · rename_i spent
          have other : modePrevious ≠ modeSafe := by decide
          exact chooseFallback_chosen (.retired pending spent) active (absurd · other)
            (fun _ => .inr (.inl rfl))
      · refine chooseFallback_chosen .same active (fun _ => rfl) ?_
        intro notSafe
        unfold modeFirmware at notFirmware
        unfold modeRecovery at notRecovery
        unfold modeSafe at notSafe
        unfold modeNormal modePrevious modeDiagnostic
        omega

end Cases

section Loops

/-! A loop over the candidates that takes the first one that fits makes the choice. -/

variable {ε : Type} {next : State} {finish : Choice → Except ε Decision} {loop : List Nat → Except ε Decision}

theorem loop_eq {choose : List Nat → Choice} {fits : Nat → Prop} [DecidablePred fits] {made : Nat → Choice}
    (nil : loop [] = finish (choose []))
    (chosen : ∀ slot rest, choose (slot :: rest) = if fits slot then made slot else choose rest)
    (cons : ∀ slot rest, IsSlot slot → loop (slot :: rest) = if fits slot then finish (made slot) else loop rest) :
    ∀ {slots : List Nat}, (∀ slot ∈ slots, IsSlot slot) → loop slots = finish (choose slots)
  | [], _ => nil
  | slot :: rest, slots => by
      rw [cons slot rest (slots slot (mem_cons_self ..)), chosen]
      split
      · rfl
      · exact loop_eq nil chosen cons (fun other member => slots other (mem_cons_of_mem _ member))

theorem candidates_slots (active : IsSlot next.activeSlot) :
    ∀ slot ∈ [next.activeSlot, 3 - next.activeSlot], IsSlot slot :=
  forall_mem_cons.mpr ⟨active, forall_mem_cons.mpr ⟨other_isSlot active, nofun⟩⟩

theorem candidates_swapped (active : IsSlot next.activeSlot) :
    ∀ slot ∈ [3 - next.activeSlot, next.activeSlot], IsSlot slot :=
  forall_mem_cons.mpr ⟨other_isSlot active, forall_mem_cons.mpr ⟨active, nofun⟩⟩

/-- A test that an implementation computes as a decision. -/
theorem if_decide_and {eligible known : Prop} [Decidable eligible] [Decidable known] {α : Type}
    {first second : α} :
    (if decide (eligible ∧ (true = true → known)) = true then first else second) =
      if eligible ∧ known then first else second := by
  by_cases both : eligible ∧ known <;> simp [both]

end Loops

/-- The last step of every decision that replaces the state. -/
def commit (state : State) (choice : Choice) (nonce : Nat) : Except Error Decision := do
  demand (choice.boots = true → nonce ≠ 0) .transitionNonce
  let generation ← nextGeneration state
  return choice.decision nonce generation (nextEvidence state)

variable {sha : Sha256} {policy : Bundle} {state next : State} {slot mode nonce : Nat}

theorem slotBit_eq (isSlot : IsSlot slot) : slotBit slot = .ok (bitOf slot) := by
  unfold slotBit demand
  rw [if_pos (show 1 ≤ slot ∧ slot ≤ 2 from isSlot)]
  rfl

theorem eligible_eq (sound : policy.Sound) (isSlot : IsSlot slot) (knownGood : Bool) :
    eligible policy state slot knownGood =
      .ok (decide (Eligible policy state slot ∧ (knownGood = true → state.KnownGood slot))) := by
  unfold eligible
  rw [slotBit_eq isSlot, ok_bind, sound.slotVersion_eq isSlot]
  by_cases usable : state.unbootableMask &&& bitOf slot = 0
  · simp only [usable, ne_eq, not_true_eq_false, if_false, ok_bind]
    by_cases old : policy.slotVersion slot < max policy.minimumSecureVersion state.minimumSecureVersion
    · have not : ¬ Eligible policy state slot := fun eligible => Nat.not_le_of_lt old eligible.2
      rw [if_pos old, decide_eq_false (fun both => not both.1)]
      rfl
    · have is : Eligible policy state slot := ⟨usable, Nat.le_of_not_lt old⟩
      rw [if_neg old]
      cases knownGood <;> simp [is, State.KnownGood, pure, Except.pure]
  · have not : ¬ Eligible policy state slot := fun eligible => usable eligible.1
    rw [if_pos usable, decide_eq_false (fun both => not both.1)]
    rfl

theorem recoveryDecision_eq (reason : Nat) :
    recoveryDecision next reason = commit next (.recover next reason) nonce := by
  rfl

theorem selectSlot_eq (trial : Bool) (safeMask : Option Nat) : selectSlot next slot mode trial nonce safeMask =
      commit next (.boot next slot mode trial (safeMask.getD next.safeAttemptedMask)) nonce := by
  unfold selectSlot commit
  by_cases fresh : nonce ≠ 0
  · rw [demand_pass fresh, demand_pass (fun _ => fresh)]
    rfl
  · rw [demand, if_neg fresh, demand, if_neg (fun needs => fresh (needs rfl))]
    rfl

theorem selectSafe_eq (sound : policy.Sound) {slots : List Nat} (candidates : ∀ slot ∈ slots, IsSlot slot) :
    selectSafe policy next nonce slots = commit next (chooseSafe policy next slots) nonce := by
  refine @loop_eq _ (commit next · nonce) (selectSafe policy next nonce) (chooseSafe policy next) _ _ _
    (recoveryDecision_eq _) (fun _ _ => rfl) ?_ slots candidates
  intro slot rest isSlot
  rw [selectSafe, slotBit_eq isSlot, ok_bind, eligible_eq sound isSlot, ok_bind]
  by_cases fits : (Eligible policy next slot ∧ next.KnownGood slot) ∧ next.Untried slot
  · rw [if_pos fits, if_pos ⟨decide_eq_true ⟨fits.1.1, fun _ => fits.1.2⟩, fits.2⟩]
    exact selectSlot_eq ..
  · rw [if_neg fits, if_neg ?_]
    intro both
    have eligible := of_decide_eq_true both.1
    exact fits ⟨⟨eligible.1, eligible.2 rfl⟩, both.2⟩

theorem selectKnownGood_eq (sound : policy.Sound) {slots : List Nat} (candidates : ∀ slot ∈ slots, IsSlot slot) :
    selectKnownGood policy next mode nonce slots = commit next (chooseKnownGood policy next mode slots) nonce := by
  refine @loop_eq _ (commit next · nonce) (selectKnownGood policy next mode nonce) (chooseKnownGood policy next mode)
    _ _ _ (recoveryDecision_eq _) (fun _ _ => rfl) ?_ slots candidates
  intro slot rest isSlot
  rw [selectKnownGood, eligible_eq sound isSlot, ok_bind, if_decide_and, selectSlot_eq]
  rfl

theorem selectFallback_eq (sound : policy.Sound) (active : IsSlot next.activeSlot) :
    selectFallback policy next mode nonce = commit next (chooseFallback policy next mode) nonce := by
  unfold selectFallback chooseFallback
  split
  · exact selectSafe_eq sound (candidates_slots active)
  · split
    · exact selectKnownGood_eq sound (candidates_swapped active)
    · exact selectKnownGood_eq sound (candidates_slots active)

theorem setAttempts_counters (value : Nat) (choice : Choice) :
    commit (setAttempts state slot value) choice nonce = commit state choice nonce := by
  unfold setAttempts
  split <;> rfl

theorem setAttempts_safe (value : Nat) :
    (setAttempts state slot value).safeAttemptedMask = state.safeAttemptedMask := by
  unfold setAttempts
  split <;> rfl

theorem selectPending_eq (sound : policy.Sound) (valid : state.Valid) (notFirmware : mode ≠ modeFirmware)
    (notRecovery : mode ≠ modeRecovery) :
    selectPending policy state mode nonce = commit state (choose policy state mode) nonce := by
  unfold selectPending choose
  split
  · rename_i normal
    have isSlot : IsSlot state.pendingSlot := ⟨Nat.pos_of_ne_zero normal.2, valid.pending⟩
    dsimp only
    rw [eligible_eq sound isSlot, ok_bind]
    by_cases fits : Eligible policy state state.pendingSlot ∧ 0 < attempts state state.pendingSlot
    · rw [if_pos fits, if_pos ⟨decide_eq_true ⟨fits.1, nofun⟩, fits.2⟩, selectSlot_eq,
        setAttempts_counters, setAttempts_safe]
      rfl
    · rw [if_neg fits, if_neg (fun both => fits ⟨(of_decide_eq_true both.1).1, both.2⟩), slotBit_eq isSlot, ok_bind]
      exact selectFallback_eq sound valid.active
  · exact selectFallback_eq sound valid.active

theorem selectMode_eq (sound : policy.Sound) (valid : state.Valid) {physicalPresence : Bool} : (do
      let _ ← modeBit mode
      if mode = modeFirmware then
        selectFirmware state physicalPresence
      else if mode = modeRecovery then
        recoveryDecision state state.lastFailure
      else
        selectPending policy state mode nonce) = (do
      demand (modeNormal ≤ mode ∧ mode ≤ modeFirmware) .mode
      demand (mode = modeFirmware → physicalPresence = true) .transitionPhysicalPresence
      commit state (choose policy state mode) nonce) := by
  unfold modeBit demand
  by_cases known : modeNormal ≤ mode ∧ mode ≤ modeFirmware
  · rw [if_pos known]
    by_cases firmware : mode = modeFirmware
    · subst firmware
      unfold selectFirmware choose commit demand
      rw [if_pos rfl, if_pos rfl]
      by_cases present : physicalPresence = true
      · rw [if_pos present, if_pos (fun _ => present)]
        rfl
      · rw [if_neg present, if_neg (fun needs => present (needs rfl))]
        rfl
    · rw [if_neg firmware, if_pos (absurd · firmware), ok_bind]
      by_cases recovery : mode = modeRecovery
      · subst recovery
        rw [if_pos rfl]
        exact recoveryDecision_eq _
      · rw [if_neg recovery]
        exact selectPending_eq sound valid firmware recovery
  · rw [if_neg known]
    rfl

/-- `select_boot` from an accepted state: the checks of the request, then the choice. -/
theorem selectBoot_eq (typed : state.Typed) (sound : policy.Sound) (accepted : state.Accepted policy)
    (requestedMode : Nat) (physicalPresence authenticated writable : Bool) :
    selectBoot sha policy state requestedMode physicalPresence nonce authenticated writable = (do
      demand (authenticated = true) .transitionStateAuth
      demand (¬ state.Inflight) .transitionInflight
      if writable then
        let mode := requested state requestedMode
        demand (modeNormal ≤ mode ∧ mode ≤ modeFirmware) .mode
        demand (mode = modeFirmware → physicalPresence = true) .transitionPhysicalPresence
        commit state (choose policy state mode) nonce
      else
        return {
          mode := modeRecovery, slot := 0, trial := false, persistenceRequired := false,
          reason := failStateInvalid, state }) := by
  have idle : (state.flags &&& stateInflight = 0) ↔ ¬ state.Inflight := not_not.symm
  unfold selectBoot
  rw [(validate_iff sha typed).mpr accepted, ok_bind]
  simp only [idle]
  congr 1
  funext _
  congr 1
  funext _
  split
  · exact selectMode_eq sound accepted.valid
  · rfl

end PooleOS.Recovery
