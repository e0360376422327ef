import PooleOS.Recovery.Agree

/- Where the two implementations part. The native one does not look at the state that it
returns: it lets the evidence numbers wrap around, and it lets a failure retire the
active slot. The oracle refuses both. -/
namespace PooleOS.Recovery

open Oracle (Raised)

/-- Both return the same value, or both refuse. -/
def Agrees {ε κ α : Type} (native : Except ε α) (oracle : Except κ α) : Prop :=
  ∀ value, native = .ok value ↔ oracle = .ok value

theorem agrees_iff {ε κ α : Type} {native : Except ε α} {oracle : Except κ α} {parts : Prop}
    (sound : ∀ value, oracle = .ok value → native = .ok value)
    (apart : parts → ∃ value, native = .ok value ∧ oracle ≠ .ok value)
    (meets : ¬ parts → ∀ value, native = .ok value → oracle = .ok value) : Agrees native oracle ↔ ¬ parts := by
  constructor
  · intro agrees part
    obtain ⟨value, ok, refused⟩ := apart part
    exact refused ((agrees value).mp ok)
  · exact fun whole value => ⟨meets whole value, sound value⟩

/-- A slot that a boot in this mode may fall back to. -/
def State.Bootable (policy : Bundle) (next : State) (mode slot : Nat) : Prop :=
  (Eligible policy next slot ∧ next.KnownGood slot) ∧ (mode = modeSafe → next.Untried slot)

/-- One of the two slots may be fallen back to. -/
def State.Offers (policy : Bundle) (next : State) (mode : Nat) : Prop :=
  next.Bootable policy mode next.activeSlot ∨ next.Bootable policy mode (3 - next.activeSlot)

/-- A boot in this mode takes a slot: the pending one, or one to fall back to. -/
def Selects (policy : Bundle) (state : State) (mode : Nat) : Prop :=
  mode ≠ modeFirmware ∧ mode ≠ modeRecovery ∧
    (mode = modeNormal ∧ state.pendingSlot ≠ 0 ∧
        (Eligible policy state state.pendingSlot ∧ 0 < attempts state state.pendingSlot ∨
          state.retire.Offers policy modePrevious) ∨
      ¬ (mode = modeNormal ∧ state.pendingSlot ≠ 0) ∧ state.Offers policy mode)

/-- A selection that replaces the state. -/
structure SelectReplaces (policy : Bundle) (state : State) (requestedMode : Nat) (physicalPresence : Bool)
    (nonce : Nat) (authenticated writable : Bool) : Prop where
  accepted : state.Accepted policy
  authenticated : authenticated = true
  idle : ¬ state.Inflight
  writable : writable = true
  known : modeNormal ≤ requested state requestedMode ∧ requested state requestedMode ≤ modeFirmware
  present : requested state requestedMode = modeFirmware → physicalPresence = true
  fresh : Selects policy state (requested state requestedMode) → nonce ≠ 0
  room : state.generation < u64Max

/-- A success report that is accepted. -/
structure SuccessAccepted (policy : Bundle) (state : State) (receipt : SuccessReceipt) : Prop where
  accepted : state.Accepted policy
  authenticated : receipt.authenticated = true
  inflight : state.Inflight
  bound : receipt.generation = state.inflightGeneration ∧ receipt.slot = state.inflightSlot ∧
    receipt.mode = state.inflightMode ∧ receipt.bootNonce = state.bootNonce
  room : state.generation < u64Max

/-- A failure report that is accepted. -/
structure FailureAccepted (policy : Bundle) (state : State) (failureId : Nat) (authenticated : Bool) : Prop where
  accepted : state.Accepted policy
  authenticated : authenticated = true
  inflight : state.Inflight
  known : IsFailure failureId
  room : state.generation < u64Max

section Selections

variable {policy : Bundle} {state next : State} {mode : Nat}

theorem chooseSafe_boots : ∀ slots : List Nat, (chooseSafe policy next slots).boots = true ↔
    ∃ slot ∈ slots, (Eligible policy next slot ∧ next.KnownGood slot) ∧ next.Untried slot
  | [] => by simp [chooseSafe, Choice.boots]
  | slot :: rest => by
      unfold chooseSafe
      rw [List.exists_mem_cons_iff]
      split
      · rename_i fits
        exact ⟨fun _ => .inl fits, fun _ => rfl⟩
      · rename_i unfit
        rw [chooseSafe_boots rest, or_iff_right unfit]

theorem chooseKnownGood_boots : ∀ slots : List Nat, (chooseKnownGood policy next mode slots).boots = true ↔
    ∃ slot ∈ slots, Eligible policy next slot ∧ next.KnownGood slot
  | [] => by simp [chooseKnownGood, Choice.boots]
  | slot :: rest => by
      unfold chooseKnownGood
      rw [List.exists_mem_cons_iff]
      split
      · rename_i fits
        exact ⟨fun _ => .inl fits, fun _ => rfl⟩
      · rename_i unfit
        rw [chooseKnownGood_boots rest, or_iff_right unfit]

theorem chooseFallback_boots : (chooseFallback policy next mode).boots = true ↔ next.Offers policy mode := by
  have pair : ∀ (fits : Nat → Prop) (first second : Nat),
      (∃ slot ∈ [first, second], fits slot) ↔ fits first ∨ fits second := by
    intro fits first second
    simp only [List.exists_mem_cons_iff, List.not_mem_nil, false_and, exists_false, or_false]
  unfold chooseFallback State.Offers State.Bootable
  split
  · rename_i safe
    rw [chooseSafe_boots, pair]
    simp only [safe, forall_const]
  · rename_i notSafe
    simp only [notSafe, false_implies, and_true]
    split
    · rw [chooseKnownGood_boots, pair, or_comm]
    · rw [chooseKnownGood_boots, pair]

/-- The choice boots a slot when there is one to take. -/
theorem choose_boots : (choose policy state mode).boots = true ↔ Selects policy state mode := by
  unfold choose Selects
  split
  · rename_i firmware
    exact ⟨nofun, fun selects => absurd firmware selects.1⟩
  · rename_i notFirmware
    split
    · rename_i recovery
      exact ⟨nofun, fun selects => absurd recovery selects.2.1⟩
    · rename_i notRecovery
      split
      · rename_i normal
        split
        · rename_i fits
          exact ⟨fun _ => ⟨notFirmware, notRecovery, .inl ⟨normal.1, normal.2, .inl fits⟩⟩, fun _ => rfl⟩
        · rename_i spent
          rw [chooseFallback_boots]
          constructor
          · exact fun offers => ⟨notFirmware, notRecovery, .inl ⟨normal.1, normal.2, .inr offers⟩⟩
          · rintro ⟨-, -, ⟨-, -, taken⟩ | ⟨not, -⟩⟩
            · exact taken.resolve_left spent
            · exact absurd normal not
      · rename_i fallback
        rw [chooseFallback_boots]
        constructor
        · exact fun offers => ⟨notFirmware, notRecovery, .inr ⟨fallback, offers⟩⟩
        · rintro ⟨-, -, ⟨is, pending, -⟩ | ⟨-, offers⟩⟩
          · exact absurd ⟨is, pending⟩ fallback
          · exact offers

theorem decision_evidenceSequence {choice : Choice} {nonce generation evidence : Nat} :
    (choice.decision nonce generation evidence).state.evidenceSequence = evidence := by
  cases choice <;> rfl

/-- A state that the oracle counted on is a state whose number did not run out. -/
theorem State.Typed.room (typed : next.Typed) (counted : next.evidenceSequence = state.evidenceSequence + 1) :
    state.evidenceSequence < u64Max := by
  have small := typed.wide.evidence
  unfold u64Max
  omega

theorem State.Typed.worn (typed : state.Typed) : state.evidenceSequence < u64Max ∨ state.evidenceSequence = u64Max := by
  have small := typed.wide.evidence
  unfold u64Max
  omega

end Selections

variable {sha : Sha256} {policy : Bundle} {bundle : Oracle.Bundle} {state : State}

section

variable (same : Same sha policy bundle) (typed : state.Typed)
include same typed

theorem selectBoot_agrees {nonce : Nat}
    (word : nonce < 2 ^ 64) {requestedMode : Nat} {physicalPresence authenticated writable : Bool} :
    Agrees (selectBoot sha policy state requestedMode physicalPresence nonce authenticated writable)
        (Oracle.selectBoot sha bundle state requestedMode physicalPresence nonce authenticated writable) ↔
      ¬ (state.evidenceSequence = u64Max ∧
        SelectReplaces policy state requestedMode physicalPresence nonce authenticated writable) := by
  apply agrees_iff
  · intro decision decided
    obtain ⟨accepted, authentic, idle, outcome⟩ := (same.selectBoot_ok typed).mp decided
    refine (selectBoot_ok typed same.sound).mpr ⟨accepted, authentic, idle, ?_⟩
    rcases outcome with unwritable | ⟨writes, known, present, committed⟩
    · exact .inl unwritable
    · obtain ⟨fresh, counted, rfl, small, -⟩ := (oracleCommit_ok typed).mp committed
      have room := small.room decision_evidenceSequence
      refine .inr ⟨writes, known, present, commit_ok.mpr ⟨fresh, counted, ?_⟩⟩
      rw [nextEvidence_eq room]
  · rintro ⟨worn, replaces⟩
    have fresh := fun boots => replaces.fresh (choose_boots.mp boots)
    refine ⟨_, (selectBoot_ok typed same.sound).mpr ⟨replaces.accepted, replaces.authenticated,
      replaces.idle, .inr ⟨replaces.writable, replaces.known, replaces.present,
        commit_ok.mpr ⟨fresh, replaces.room, rfl⟩⟩⟩, ?_⟩
    intro decided
    obtain ⟨-, -, -, ⟨unwritable, -⟩ | ⟨-, -, -, committed⟩⟩ := (same.selectBoot_ok typed).mp decided
    · rw [replaces.writable] at unwritable
      exact absurd unwritable (by decide)
    · obtain ⟨-, -, counted, small, -⟩ := (oracleCommit_ok typed).mp committed
      have room : state.evidenceSequence < u64Max :=
        small.room (by rw [counted]; exact decision_evidenceSequence)
      exact absurd worn (Nat.ne_of_lt room)
  · intro whole decision decided
    have small := selectBoot_typed typed same.sound word decided
    obtain ⟨accepted, authentic, idle, outcome⟩ := (selectBoot_ok typed same.sound).mp decided
    refine (same.selectBoot_ok typed).mpr ⟨accepted, authentic, idle, ?_⟩
    rcases outcome with unwritable | ⟨writes, known, present, committed⟩
    · exact .inl unwritable
    · obtain ⟨fresh, counted, made⟩ := commit_ok.mp committed
      have room : state.evidenceSequence < u64Max := by
        refine typed.worn.resolve_right fun worn => whole ⟨worn, ?_⟩
        exact ⟨accepted, authentic, idle, writes, known, present,
          fun selects => fresh (choose_boots.mpr selects), counted⟩
      have kept := selectBoot_accepted typed same.sound accepted room decided
      rw [nextEvidence_eq room] at made
      exact .inr ⟨writes, known, present, (oracleCommit_ok typed).mpr ⟨fresh, counted, made, small, kept.valid⟩⟩

theorem reportBootSuccess_agrees {receipt : SuccessReceipt} :
    Agrees (reportBootSuccess sha policy state receipt) (Oracle.reportBootSuccess sha bundle state receipt) ↔
      ¬ (state.evidenceSequence = u64Max ∧ SuccessAccepted policy state receipt) := by
  apply agrees_iff
  · intro next reported
    obtain ⟨accepted, authentic, inflight, bound, counted, rfl, small, -⟩ :=
      (same.reportBootSuccess_ok typed).mp reported
    have room : state.evidenceSequence < u64Max := small.room rfl
    rw [← nextEvidence_eq room]
    exact (reportBootSuccess_ok typed).mpr ⟨accepted, authentic, inflight, bound, counted, rfl⟩
  · rintro ⟨worn, accepts⟩
    refine ⟨_, (reportBootSuccess_ok typed).mpr ⟨accepts.accepted, accepts.authenticated, accepts.inflight,
      accepts.bound, accepts.room, rfl⟩, ?_⟩
    intro reported
    obtain ⟨-, -, -, -, -, counted, small, -⟩ := (same.reportBootSuccess_ok typed).mp reported
    have room : state.evidenceSequence < u64Max := small.room (by rw [counted]; rfl)
    exact absurd worn (Nat.ne_of_lt room)
  · intro whole next reported
    have small := reportBootSuccess_typed typed same.sound reported
    obtain ⟨accepted, authentic, inflight, bound, counted, made⟩ := (reportBootSuccess_ok typed).mp reported
    have room : state.evidenceSequence < u64Max :=
      typed.worn.resolve_right fun worn => whole ⟨worn, accepted, authentic, inflight, bound, counted⟩
    have kept := reportBootSuccess_accepted typed same.sound accepted room reported
    rw [nextEvidence_eq room] at made
    exact (same.reportBootSuccess_ok typed).mpr
      ⟨accepted, authentic, inflight, bound, counted, made, small, kept⟩

theorem reportBootFailure_agrees {failureId : Nat}
    {authenticated : Bool} : Agrees (reportBootFailure sha policy state failureId authenticated)
        (Oracle.reportBootFailure sha bundle state failureId authenticated) ↔
      ¬ ((state.evidenceSequence = u64Max ∨ Marks failureId ∧ state.inflightSlot = state.activeSlot) ∧
        FailureAccepted policy state failureId authenticated) := by
  apply agrees_iff
  · intro decision reported
    obtain ⟨accepted, authentic, inflight, known, counted, rfl, small, -⟩ :=
      (same.reportBootFailure_ok typed).mp reported
    have room : state.evidenceSequence < u64Max := small.room rfl
    rw [← nextEvidence_eq room]
    exact (reportBootFailure_ok typed same.sound).mpr ⟨accepted, authentic, inflight, known, counted, rfl⟩
  · rintro ⟨cause, accepts⟩
    refine ⟨_, (reportBootFailure_ok typed same.sound).mpr ⟨accepts.accepted, accepts.authenticated,
      accepts.inflight, accepts.known, accepts.room, rfl⟩, ?_⟩
    intro reported
    obtain ⟨-, -, -, -, -, made, small, valid⟩ := (same.reportBootFailure_ok typed).mp reported
    rw [made] at small valid
    rcases cause with worn | ⟨marks, active⟩
    · have room : state.evidenceSequence < u64Max := small.room rfl
      exact absurd worn (Nat.ne_of_lt room)
    · exact State.failed_invalid marks active valid
  · intro whole decision reported
    have small := reportBootFailure_typed typed same.sound reported
    obtain ⟨accepted, authentic, inflight, known, counted, made⟩ :=
      (reportBootFailure_ok typed same.sound).mp reported
    have accepts : FailureAccepted policy state failureId authenticated :=
      ⟨accepted, authentic, inflight, known, counted⟩
    have room : state.evidenceSequence < u64Max :=
      typed.worn.resolve_right fun worn => whole ⟨.inl worn, accepts⟩
    have spares : Marks failureId → state.inflightSlot ≠ state.activeSlot :=
      fun marks active => whole ⟨.inr ⟨marks, active⟩, accepts⟩
    have isSlot := (accepted.valid.flying inflight).2.2.1
    rw [nextEvidence_eq room] at made
    refine (same.reportBootFailure_ok typed).mpr
      ⟨accepted, authentic, inflight, known, counted, made, small, ?_⟩
    rw [made]
    exact accepted.valid.fail isSlot known spares (Nat.succ_ne_zero _)

end

/-- The two implementations decide alike, except where the evidence numbers are used up
and where a failure retires the active slot. -/
theorem decisions_agree {data : Bytes} (native : parse sha data = .ok policy)
    (oracle : Oracle.parse sha data = .ok bundle) (typed : state.Typed) :
    (∀ requestedMode physicalPresence nonce authenticated writable, nonce < 2 ^ 64 →
      (Agrees (selectBoot sha policy state requestedMode physicalPresence nonce authenticated writable)
          (Oracle.selectBoot sha bundle state requestedMode physicalPresence nonce authenticated writable) ↔
        ¬ (state.evidenceSequence = u64Max ∧
          SelectReplaces policy state requestedMode physicalPresence nonce authenticated writable))) ∧ (∀ receipt,
      (Agrees (reportBootSuccess sha policy state receipt) (Oracle.reportBootSuccess sha bundle state receipt) ↔
        ¬ (state.evidenceSequence = u64Max ∧ SuccessAccepted policy state receipt))) ∧ (∀ failureId authenticated,
      (Agrees (reportBootFailure sha policy state failureId authenticated)
          (Oracle.reportBootFailure sha bundle state failureId authenticated) ↔
        ¬ ((state.evidenceSequence = u64Max ∨ Marks failureId ∧ state.inflightSlot = state.activeSlot) ∧
          FailureAccepted policy state failureId authenticated))) := by
  have same := parsed_same native oracle
  refine ⟨?_, ?_, ?_⟩
  · intro requestedMode physicalPresence nonce authenticated writable word
    exact selectBoot_agrees same typed word
  · exact fun receipt => reportBootSuccess_agrees same typed
  · exact fun failureId authenticated => reportBootFailure_agrees same typed

theorem canonical_oracle : ∃ bundle, Oracle.parse canonicalSha canonicalBundle = .ok bundle := by
  have accepted : (Oracle.parse canonicalSha canonicalBundle).toBool = true := by decide +kernel
  cases parsed : Oracle.parse canonicalSha canonicalBundle with
  | ok bundle => exact ⟨bundle, rfl⟩
  | error raised =>
    rw [parsed] at accepted
    exact absurd accepted nofun

/-- A trial of the canonical state. -/
theorem canonical_decisions_agree : ∃ bundle, Oracle.parse canonicalSha canonicalBundle = .ok bundle ∧
    Agrees (selectBoot canonicalSha canonicalPolicy canonicalState modeNormal false 1 true true)
      (Oracle.selectBoot canonicalSha bundle canonicalState modeNormal false 1 true true) := by
  obtain ⟨bundle, oracle⟩ := canonical_oracle
  have typed : canonicalState.Typed := by decide
  obtain ⟨selections, -⟩ := decisions_agree canonical_parsed oracle typed
  refine ⟨bundle, oracle, (selections modeNormal false 1 true true (by decide)).mpr ?_⟩
  exact fun both => absurd both.1 (by decide)

/-- When the evidence numbers are used up, one boots the trial and the other fails to pack the state. -/
theorem worn_decisions_part : parse canonicalSha canonicalBundle = .ok canonicalPolicy ∧ wornState.Typed ∧
      (selectBoot canonicalSha canonicalPolicy wornState modeNormal false 1 true true).map
          (fun decision => (decision.slot, decision.state.evidenceSequence)) = .ok (1, 0) ∧ (do
          let bundle ← Oracle.parse canonicalSha canonicalBundle
          Oracle.selectBoot canonicalSha bundle wornState modeNormal false 1 true true) =
            .error Raised.structError := by
  refine ⟨canonical_parsed, ?_, ?_, ?_⟩
  · decide
  · decide +kernel
  · decide +kernel

end PooleOS.Recovery
