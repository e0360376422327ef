import PooleOS.Policy.Model

/- What the parser asks of the two kinds of record, and how a rule follows from its parents. -/
namespace PooleOS.Policy

section Modes

/-- What holds of a mode that the parser reads. -/
structure ModeFits (mode : ModePolicy) (expected capabilityCount : Nat) : Prop where
  order : mode.mode = expected
  count : mode.allowedCapabilityCount ≤ capabilityCount
  effects : mode.allowedEffects ≠ 0 ∧ without mode.allowedEffects knownEffects = 0
  rights : without mode.allowedRights knownRights = 0 ∧
    (mode.allowedCapabilityCount = 0 ↔ mode.allowedRights = 0)
  transitions : mode.transitionMask ≠ 0 ∧ without mode.transitionMask allModeMask = 0
  safe : mode.mode = modeSafe → without mode.allowedEffects safeEffectFloor = 0
  recovery : mode.mode = modeRecovery → without mode.allowedEffects recoveryEffectFloor = 0

theorem parseMode_fits {record : Bytes} {expected capabilityCount : Nat} {mode : ModePolicy}
    (parsed : parseMode record expected capabilityCount = .ok mode) : ModeFits mode expected capabilityCount := by
  unfold parseMode at parsed
  simp only [demand_bind_eq_ok, pure_eq_ok] at parsed
  obtain ⟨_, order, _, _, count, effects, _, _, _, _, rights, _, transitions, _, safe, recovery, _, _, rfl⟩ := parsed
  refine ⟨order, count, effects, rights, transitions, ?_, ?_⟩
  · intro named
    by_contra wide
    exact safe ⟨named, .inr wide⟩
  · intro named
    by_contra wide
    exact recovery ⟨named, .inr (.inl wide)⟩

end Modes

section Rules

/-- The words of a capability rule. -/
def ruleOf (record : Bytes) : CapabilityRule where
  capabilityId := record.word 0 4
  parentId := record.word 4 4
  holderServiceId := record.word 8 4
  resourceId := record.word 12 4
  declaredRights := record.word 16 8
  ceilingRights := record.word 24 8
  declaredFlags := record.word 32 4
  ceilingFlags := record.word 36 4
  revokeGroup := record.word 40 4
  allowedModeMask := record.word 44 4
  effectMask := record.word 48 8
  availability := record.word 56 2
  maxDerivations := record.word 58 2
  resourceGeneration := record.word 60 4

/-- What a rule fulfils on its own. -/
structure RuleFits (rule : CapabilityRule) (expected : Nat) : Prop where
  order : rule.capabilityId = expected
  parent : rule.parentId < rule.capabilityId
  route : rule.holderServiceId ≠ 0 ∧ rule.resourceId ≠ 0
  declaredRights : rule.declaredRights ≠ 0 ∧ without rule.declaredRights knownRights = 0
  ceilingRights : rule.ceilingRights ≠ 0 ∧ without rule.ceilingRights rule.declaredRights = 0
  declaredFlags : without rule.declaredFlags knownCapabilityFlags = 0 ∧
    rule.declaredFlags &&& requiredCapabilityFlags = requiredCapabilityFlags
  ceilingFlags : without rule.ceilingFlags rule.declaredFlags = 0 ∧
    rule.ceilingFlags &&& requiredCapabilityFlags = requiredCapabilityFlags
  revokeGroup : rule.revokeGroup ≠ 0
  modes : rule.allowedModeMask ≠ 0 ∧ without rule.allowedModeMask allModeMask = 0 ∧
    without rule.allowedModeMask pinitModeMask = 0
  effects : rule.effectMask ≠ 0 ∧ without rule.effectMask capabilityEffectCeiling = 0
  availability : rule.availability = 1 ∨ rule.availability = 2
  generation : rule.resourceGeneration ≠ 0

/-- A rule grants no more than another. -/
structure Narrows (rule parent : CapabilityRule) : Prop where
  rights : without rule.ceilingRights parent.ceilingRights = 0
  flags : without rule.ceilingFlags parent.ceilingFlags = 0
  modes : without rule.allowedModeMask parent.allowedModeMask = 0
  effects : without rule.effectMask parent.effectMask = 0

theorem Narrows.refl (rule : CapabilityRule) : Narrows rule rule :=
  ⟨without_self, without_self, without_self, without_self⟩

theorem Narrows.trans {rule parent ancestor : CapabilityRule} (near : Narrows rule parent)
    (far : Narrows parent ancestor) : Narrows rule ancestor :=
  ⟨without_trans near.rights far.rights, without_trans near.flags far.flags,
    without_trans near.modes far.modes, without_trans near.effects far.effects⟩

theorem checkAttenuation_eq_ok {rule parent : CapabilityRule} {done : Unit} :
    checkAttenuation rule parent = .ok done ↔ Narrows rule parent := by
  unfold checkAttenuation
  rw [demand_eq_ok]
  exact ⟨fun ⟨rights, flags, modes, effects⟩ => ⟨rights, flags, modes, effects⟩,
    fun narrows => ⟨narrows.rights, narrows.flags, narrows.modes, narrows.effects⟩⟩

theorem parseRule_eq_ok {record : Bytes} {expected : Nat} {capability : Nat → Except Error CapabilityRule}
    {rule : CapabilityRule} : parseRule record expected capability = .ok rule ↔
      (record.length = capabilityRecordBytes ∧ RuleFits rule expected) ∧ rule = ruleOf record ∧
        (rule.parentId ≠ 0 → ∃ parent, capability (rule.parentId - 1) = .ok parent ∧ Narrows rule parent) := by
  unfold parseRule
  simp only [demand_bind_eq_ok, ite_eq_ok]
  simp only [bind_eq_ok_iff, checkAttenuation_eq_ok, pure_eq_ok]
  constructor
  · rintro ⟨size, order, parent, route, declaredRights, ceilingRights, declaredFlags, ceilingFlags, revokeGroup,
      modes, effects, availability, generation, derived, rooted⟩
    have same : rule = ruleOf record := by
      by_cases named : record.word 4 4 ≠ 0
      · obtain ⟨_, _, _, _, same⟩ := derived named
        exact same
      · exact rooted named
    subst same
    refine ⟨⟨size, ⟨order, parent, route, declaredRights, ceilingRights, declaredFlags, ceilingFlags, revokeGroup,
      modes, effects, availability, generation⟩⟩, rfl, fun named => ?_⟩
    obtain ⟨parent, found, _, narrows, _⟩ := derived named
    exact ⟨parent, found, narrows⟩
  · rintro ⟨⟨size, fits⟩, rfl, derived⟩
    refine ⟨size, fits.order, fits.parent, fits.route, fits.declaredRights, fits.ceilingRights, fits.declaredFlags,
      fits.ceilingFlags, fits.revokeGroup, fits.modes, fits.effects, fits.availability, fits.generation,
      fun named => ?_, fun _ => rfl⟩
    obtain ⟨parent, found, narrows⟩ := derived named
    exact ⟨parent, found, (), narrows, rfl⟩

end Rules

section Chains

variable {bundle : Bundle} {rule : CapabilityRule}

/-- How deep the parents may be followed makes no difference, once it is deep enough. -/
theorem Bundle.capabilityWithin_deep : ∀ {depth other index : Nat} {rule : CapabilityRule},
    bundle.capabilityWithin depth index = .ok rule → index < other → bundle.capabilityWithin other index = .ok rule
  | 0, _, _, _, read, _ => nomatch read
  | _, 0, _, _, _, less => absurd less (Nat.not_lt_zero _)
  | depth + 1, other + 1, index, rule, read, less => by
      rw [Bundle.capabilityWithin, demand_bind_eq_ok] at read ⊢
      obtain ⟨listed, read⟩ := read
      obtain ⟨fits, same, derived⟩ := parseRule_eq_ok.mp read
      refine ⟨listed, parseRule_eq_ok.mpr ⟨fits, same, fun named => ?_⟩⟩
      obtain ⟨parent, found, narrows⟩ := derived named
      have below := fits.2.parent
      rw [fits.2.order] at below
      exact ⟨parent, Bundle.capabilityWithin_deep found (by omega), narrows⟩

/-- What a rule of a bundle fulfils. -/
structure Bundle.Holds (bundle : Bundle) (rule : CapabilityRule) (index : Nat) : Prop where
  listed : index < bundle.capabilityCount
  fits : RuleFits rule (index + 1)
  parent : rule.parentId ≠ 0 →
    ∃ parent, bundle.capability (rule.parentId - 1) = .ok parent ∧ Narrows rule parent

theorem Bundle.capability_holds {index : Nat} (read : bundle.capability index = .ok rule) :
    bundle.Holds rule index := by
  unfold Bundle.capability at read
  rw [Bundle.capabilityWithin, demand_bind_eq_ok] at read
  obtain ⟨fits, _, derived⟩ := parseRule_eq_ok.mp read.2
  refine ⟨read.1, fits.2, fun named => ?_⟩
  obtain ⟨parent, found, narrows⟩ := derived named
  exact ⟨parent, Bundle.capabilityWithin_deep found (Nat.lt_succ_self _), narrows⟩

/-- The rule `parent` is the one that `rule` names as its parent. -/
def Bundle.Derives (bundle : Bundle) (rule parent : CapabilityRule) : Prop :=
  rule.parentId ≠ 0 ∧ bundle.capability (rule.parentId - 1) = .ok parent

/-- What every ancestor of a rule is: a rule of the bundle that grants at least as much. -/
theorem Bundle.narrows_ancestor {index : Nat} {ancestor : CapabilityRule}
    (read : bundle.capability index = .ok rule) (chain : Relation.ReflTransGen bundle.Derives rule ancestor) :
    Narrows rule ancestor ∧ ∃ index, bundle.capability index = .ok ancestor := by
  induction chain with
  | refl => exact ⟨Narrows.refl rule, index, read⟩
  | tail _ derives ih =>
    obtain ⟨narrows, place, found⟩ := ih
    obtain ⟨parent, same, step⟩ := (Bundle.capability_holds found).parent derives.1
    obtain rfl := Except.ok.inj (same.symm.trans derives.2)
    exact ⟨narrows.trans step, _, derives.2⟩

end Chains

section Loops

variable {sha : Sha256} {data : Bytes} {bundle : Bundle}

theorem readDigest_bind_eq_ok {α : Type} {offset : Nat} {reason : Error} {next : Bytes → Except Error α} {value : α} :
    (readDigest data offset reason >>= next) = .ok value ↔
      ¬ (data.slice offset 32).allZero ∧ next (data.slice offset 32) = .ok value := by
  unfold readDigest
  rw [bind_assoc, demand_bind_eq_ok, pure_bind]

/-- The loops that an accepted bundle has passed. -/
theorem parse_loops (accepted : parse sha data = .ok bundle) :
    (∀ index < modeCount, ∃ mode, bundle.mode index = .ok mode) ∧
      ∀ index < bundle.capabilityCount, ∃ rule, bundle.capability index = .ok rule := by
  unfold parse at accepted
  simp only [demand_bind_eq_ok, readDigest_bind_eq_ok] at accepted
  obtain ⟨-, -, -, -, -, -, -, -, -, -, -, -, -, -, -, -, -, -, -, -, -, -, -, -, -, -, -, -, -, -, loops⟩ := accepted
  rw [unit_bind_eq_ok, unit_bind_eq_ok, unit_bind_eq_ok, pure_eq_ok, forM_eq_ok, forM_eq_ok] at loops
  obtain ⟨modes, rules, _, rfl⟩ := loops
  constructor
  · intro index less
    obtain ⟨mode, read, _⟩ := bind_eq_ok (modes index (List.mem_range.mpr less))
    exact ⟨mode, read⟩
  · intro index less
    obtain ⟨rule, read, _⟩ := bind_eq_ok (rules index (List.mem_range.mpr less))
    exact ⟨rule, read⟩

/-- An accepted bundle has all six modes. -/
theorem parse_modePolicy (accepted : parse sha data = .ok bundle) {number : Nat}
    (known : modeNormal ≤ number ∧ number ≤ modeFirmware) : ∃ mode, modePolicy bundle number = .ok mode := by
  have inside : number - 1 < modeCount := by
    have last := known.2
    unfold modeFirmware at last
    unfold modeCount
    omega
  obtain ⟨mode, read⟩ := (parse_loops accepted).1 (number - 1) inside
  refine ⟨mode, ?_⟩
  unfold modePolicy
  rw [demand_bind_eq_ok]
  exact ⟨known, read⟩

end Loops

variable {sha : Sha256} {bundle : Bundle} {mode : ModePolicy} {rule : CapabilityRule} {context : ActivationContext}

/-- A decision without a capability, in a mode that allows none. -/
structure Unlisted (mode : ModePolicy) (context : ActivationContext) : Prop where
  empty : mode.allowedCapabilityCount = 0
  current : context.capabilityRevoked = false
  generation : context.issuedGeneration = 0 ∧ context.currentGeneration = 0
  rights : context.issuedRights = 0 ∧ context.requestedRights = 0
  effects : context.requestedEffects ≠ 0 ∧ without context.requestedEffects mode.allowedEffects = 0

/-- A decision about the capability that a rule describes. -/
structure Listed (mode : ModePolicy) (rule : CapabilityRule) (context : ActivationContext) : Prop where
  modes : rule.allowedModeMask &&& modeBit context.selectedMode ≠ 0
  current : context.capabilityRevoked = false
  generation : context.issuedGeneration = rule.resourceGeneration ∧
    context.currentGeneration = rule.resourceGeneration
  issued : context.issuedRights ≠ 0 ∧
    without context.issuedRights (rule.ceilingRights &&& mode.allowedRights) = 0
  requested : context.requestedRights ≠ 0 ∧ without context.requestedRights context.issuedRights = 0
  effects : context.requestedEffects ≠ 0 ∧
    without context.requestedEffects (rule.effectMask &&& mode.allowedEffects) = 0

theorem checkNoCapability_eq_ok {done : Unit} : checkNoCapability mode context = .ok done ↔ Unlisted mode context := by
  unfold checkNoCapability
  simp only [demand_bind_eq_ok, demand_eq_ok]
  exact ⟨fun ⟨empty, current, generation, rights, effects⟩ => ⟨empty, current, generation, rights, effects⟩,
    fun found => ⟨found.empty, found.current, found.generation, found.rights, found.effects⟩⟩

theorem checkCapability_eq_ok {done : Unit} : checkCapability bundle mode context = .ok done ↔
    ∃ rule, capabilityRule bundle context.capabilityId = .ok rule ∧ Listed mode rule context := by
  unfold checkCapability
  rw [bind_eq_ok_iff]
  simp only [demand_bind_eq_ok, demand_eq_ok, mapError_eq_ok]
  constructor
  · rintro ⟨rule, read, modes, current, generation, issued, requested, effects⟩
    exact ⟨rule, read, modes, current, generation, issued, requested, effects⟩
  · rintro ⟨rule, read, listed⟩
    exact ⟨rule, read, listed.modes, listed.current, listed.generation, listed.issued, listed.requested, listed.effects⟩

theorem checkAll_eq_ok {checks : List (Bool × Error)} {done : Unit} :
    checkAll checks = .ok done ↔ ∀ check ∈ checks, check.1 = true := by
  unfold checkAll
  rw [forM_eq_ok]
  simp only [demand_eq_ok]

/-- What a context shows when a decision is made in a mode. -/
structure Permitted (sha : Sha256) (bundle : Bundle) (mode : ModePolicy) (context : ActivationContext) : Prop where
  evidence : ∀ check ∈ evidenceChecks sha bundle context, check.1 = true
  read : modePolicy bundle context.selectedMode = .ok mode
  authorized : context.modeAuthorized = true
  transition : context.transitionAuthorized = true ∧ mode.transitionMask &&& modeBit context.previousMode ≠ 0
  services : ∀ check ∈ serviceChecks context, check.1 = true
  presence : context.selectedMode = modeFirmware → context.physicalPresenceVerified = true
  separate : context.selectedMode = modeFirmware → context.separateAuthorityVerified = true
  unlisted : context.capabilityId = 0 → Unlisted mode context
  listed : context.capabilityId ≠ 0 →
    ∃ rule, capabilityRule bundle context.capabilityId = .ok rule ∧ Listed mode rule context
  requests : ∀ check ∈ requestChecks context, check.1 = true

theorem activationError_eq_ok {done : Unit} :
    activationError sha bundle context = .ok done ↔ ∃ mode, Permitted sha bundle mode context := by
  unfold activationError
  rw [unit_bind_eq_ok, bind_eq_ok_iff]
  simp only [ite_bind_eq_ok, unit_bind_eq_ok, demand_eq_ok, mapError_eq_ok, checkAll_eq_ok,
    checkNoCapability_eq_ok, checkCapability_eq_ok, not_and, Bool.not_eq_false]
  constructor
  · rintro ⟨evidence, mode, read, authorized, transition, services, presence, separate, ⟨unlisted, listed⟩, requests⟩
    exact ⟨mode, evidence, read, authorized, transition, services, presence, separate, unlisted, listed, requests⟩
  · rintro ⟨mode, shown⟩
    exact ⟨shown.evidence, mode, shown.read, shown.authorized, shown.transition, shown.services, shown.presence,
      shown.separate, ⟨shown.unlisted, shown.listed⟩, shown.requests⟩

/-- A decision about a capability: what is granted is what was asked for, cut to the ceilings. -/
structure Granted (mode : ModePolicy) (rule : CapabilityRule) (context : ActivationContext)
    (decision : DryRunDecision) : Prop where
  rights : decision.effectiveRights =
    context.requestedRights &&& context.issuedRights &&& rule.ceilingRights &&& mode.allowedRights
  effects : decision.effectiveEffects = context.requestedEffects &&& rule.effectMask &&& mode.allowedEffects

variable {decision : DryRunDecision}

theorem authorize_permitted (authorized : authorizeDryRunDecision sha bundle context = .ok decision) :
    ∃ mode, Permitted sha bundle mode context ∧ decision.mode = mode.mode ∧
      decision.capabilityId = context.capabilityId ∧
      (context.capabilityId = 0 → decision.effectiveEffects = context.requestedEffects &&& mode.allowedEffects) ∧
      (context.capabilityId ≠ 0 → ∃ rule, capabilityRule bundle context.capabilityId = .ok rule ∧
        Listed mode rule context ∧ Granted mode rule context decision) := by
  unfold authorizeDryRunDecision at authorized
  rw [unit_bind_eq_ok, activationError_eq_ok] at authorized
  obtain ⟨⟨mode, shown⟩, authorized⟩ := authorized
  rw [shown.read, ok_bind] at authorized
  obtain ⟨⟨rights, effects, generation⟩, found, same⟩ := bind_eq_ok authorized
  obtain rfl := pure_eq_ok.mp same
  unfold effective at found
  refine ⟨mode, shown, rfl, rfl, fun unnamed => ?_, fun named => ?_⟩
  · rw [if_pos unnamed, pure_eq_ok, Prod.mk.injEq, Prod.mk.injEq] at found
    exact found.2.1
  · obtain ⟨rule, read, listed⟩ := shown.listed named
    rw [if_neg named, read, ok_bind, pure_eq_ok, Prod.mk.injEq, Prod.mk.injEq] at found
    exact ⟨rule, read, listed, found.1, found.2.1⟩

/-- A context that shows everything is decided. -/
theorem permitted_authorize (shown : Permitted sha bundle mode context) :
    ∃ decision, authorizeDryRunDecision sha bundle context = .ok decision := by
  have passed : activationError sha bundle context = .ok () := activationError_eq_ok.mpr ⟨mode, shown⟩
  have known : ∃ granted, effective bundle mode context = .ok granted := by
    unfold effective
    by_cases named : context.capabilityId = 0
    · exact ⟨_, if_pos named⟩
    · obtain ⟨rule, read, _⟩ := shown.listed named
      rw [if_neg named, read, ok_bind]
      exact ⟨_, rfl⟩
  obtain ⟨granted, known⟩ := known
  unfold authorizeDryRunDecision
  rw [passed, ok_bind, shown.read, ok_bind, known]
  exact ⟨_, rfl⟩

/-- A context with all the evidence that there is, which asks for all that is issued. -/
def fullContext (sha : Sha256) (bundle : Bundle) (selected previous capabilityId rights effects generation : Nat) :
    ActivationContext where
  outerRole := outerRolePolicyBundle
  outerVersion := bundle.policyVersion
  outerPayloadSha256 := sha.digest bundle.raw
  outerFileSha256 := sha.digest bundle.raw
  expectedOuterFileSha256 := sha.digest bundle.raw
  selectedMode := selected
  previousMode := previous
  capabilityId := capabilityId
  issuedRights := rights
  requestedRights := rights
  requestedEffects := effects
  issuedGeneration := generation
  currentGeneration := generation
  outerSignatureVerified := true
  policySignatureVerified := true
  manifestSignatureVerified := true
  artifactSignaturesVerified := true
  targetProfileVerified := true
  initialSystemDigestVerified := true
  recoveryDigestVerified := true
  symbolsDigestVerified := true
  microcodeDigestVerified := true
  firmwareDigestVerified := true
  trustPolicyAuthenticated := true
  revocationStateAuthenticated := true
  rollbackStateAuthenticated := true
  auditSchemaVerified := true
  innerContractsVerified := true
  initialSystemCrossBound := true
  kernelAbiVerified := true
  pbpVerified := true
  modeAuthorized := true
  transitionAuthorized := true
  capabilityAllocatorReady := true
  resourceBrokerReady := true
  auditSinkReady := true
  receiptStoreReady := true
  physicalPresenceVerified := true
  separateAuthorityVerified := true
  capabilityRevoked := false
  qualificationOnly := true
  liveExecutionRequested := false
  persistentWriteRequested := false
  firmwareCallRequested := false
  driverLoadRequested := false
  physicalMediaWriteRequested := false
  stateMutationRequested := false

/-- Without a capability, such a context is decided in every mode that allows none. -/
theorem fullContext_permitted {selected previous : Nat} (read : modePolicy bundle selected = .ok mode)
    (empty : mode.allowedCapabilityCount = 0) (some : mode.allowedEffects ≠ 0)
    (transition : mode.transitionMask &&& modeBit previous ≠ 0) :
    Permitted sha bundle mode (fullContext sha bundle selected previous 0 0 mode.allowedEffects 0) where
  evidence := by simp [evidenceChecks, fullContext]
  read := read
  authorized := rfl
  transition := ⟨rfl, transition⟩
  services := by simp [serviceChecks, fullContext]
  presence _ := rfl
  separate _ := rfl
  unlisted _ := ⟨empty, rfl, ⟨rfl, rfl⟩, ⟨rfl, rfl⟩, some, without_self⟩
  listed named := absurd rfl named
  requests := by simp [requestChecks, fullContext]

end PooleOS.Policy
