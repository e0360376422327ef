import PooleOS.Policy.Decision
import PooleOS.InitSys.Guarantees

/- A decision grants no more than the capability, its ancestors and the launch bundle allow. -/
namespace PooleOS.Policy

open Nat Except

/-- What a decision grants stays inside everything it was derived from. -/
structure Attenuates (bundle : Bundle) (mode : ModePolicy) (rule : CapabilityRule) (context : ActivationContext)
    (decision : DryRunDecision) : Prop where
  selected : decision.mode = context.selectedMode ∧
    context.selectedMode ∈ [modeNormal, modeSafe, modePrevious, modeDiagnostic]
  some : decision.effectiveRights ≠ 0
  issued : without decision.effectiveRights context.issuedRights = 0
  allowed : without decision.effectiveRights mode.allowedRights = 0
  ceiling : without decision.effectiveRights rule.ceilingRights = 0
  declared : without decision.effectiveRights rule.declaredRights = 0
  effects : without decision.effectiveEffects mode.allowedEffects = 0
  ancestors : ∀ ancestor, Relation.ReflTransGen bundle.Derives rule ancestor →
    Narrows rule ancestor ∧ without decision.effectiveEffects ancestor.effectMask = 0

/-- In a launch bundle, a capability and the parent that it names. -/
def DerivedFrom (initial : InitSys.Bundle) (capability parent : Nat) : Prop :=
  initial.parent capability = parent ∧ parent ≠ 0

section Modes

variable {bundle : Bundle} {mode : ModePolicy} {number : Nat}

theorem modePolicy_holds (read : modePolicy bundle number = .ok mode) :
    (modeNormal ≤ number ∧ number ≤ modeFirmware) ∧ ModeFits mode number bundle.capabilityCount := by
  unfold modePolicy Bundle.mode at read
  rw [demand_bind_eq_ok, demand_bind_eq_ok] at read
  obtain ⟨known, _, read⟩ := read
  have again : number - 1 + 1 = number := Nat.sub_add_cancel known.1
  rw [again] at read
  exact ⟨known, parseMode_fits read⟩

/-- The modes that capabilities are for. -/
theorem modeBit_pinit : ∀ number < 7, pinitModeMask &&& modeBit number ≠ 0 →
    number ∈ [modeNormal, modeSafe, modePrevious, modeDiagnostic] := by
  decide

end Modes

section Rules

variable {sha : Sha256} {bundle : Bundle} {mode : ModePolicy} {rule : CapabilityRule} {context : ActivationContext}
  {decision : DryRunDecision}

theorem capabilityRule_holds {capabilityId : Nat} (read : capabilityRule bundle capabilityId = .ok rule) :
    bundle.capability (capabilityId - 1) = .ok rule ∧ rule.capabilityId = capabilityId := by
  unfold capabilityRule at read
  rw [demand_bind_eq_ok] at read
  refine ⟨read.2, ?_⟩
  have order := (Bundle.capability_holds read.2).fits.order
  omega

/-- Rights that were asked for, and were issued inside the ceiling, are the ones that are granted. -/
theorem Granted.rights_eq (granted : Granted mode rule context decision) (listed : Listed mode rule context) :
    decision.effectiveRights = context.requestedRights := by
  have inside := without_trans listed.requested.2 listed.issued.2
  rw [granted.rights, and_eq_of_without listed.requested.2, Nat.and_assoc, and_eq_of_without inside]

theorem Granted.attenuates (granted : Granted mode rule context decision) (listed : Listed mode rule context)
    (read : modePolicy bundle context.selectedMode = .ok mode)
    (found : capabilityRule bundle context.capabilityId = .ok rule) (same : decision.mode = mode.mode) :
    Attenuates bundle mode rule context decision := by
  obtain ⟨stored, _⟩ := capabilityRule_holds found
  have holds := Bundle.capability_holds stored
  obtain ⟨known, fits⟩ := modePolicy_holds read
  have asked := granted.rights_eq listed
  have rights : without decision.effectiveRights context.issuedRights = 0 := asked ▸ listed.requested.2
  have below := without_trans rights listed.issued.2
  have ceiling := without_trans below (without_and_left without_self)
  have effects : without decision.effectiveEffects rule.effectMask = 0 := by
    rw [granted.effects]
    exact without_and_left without_and_right
  have bit := modeBit_pinit context.selectedMode (lt_succ_of_le known.2)
    (and_ne_zero_of_without holds.fits.modes.2.2 listed.modes)
  refine ⟨⟨same.trans fits.order, bit⟩, asked ▸ listed.requested.1, rights, without_trans below without_and_right,
    ceiling, without_trans ceiling holds.fits.ceilingRights.2, ?_, ?_⟩
  · rw [granted.effects]
    exact without_and_right
  · intro ancestor chain
    obtain ⟨narrows, _⟩ := Bundle.narrows_ancestor stored chain
    exact ⟨narrows, without_trans effects narrows.effects⟩

end Rules

section Launch

variable {sha : Sha256} {bundle : Bundle} {initial : InitSys.Bundle} {bytes : Bytes} {rule : CapabilityRule}

/-- A rule and the capability of the launch bundle that it is about. -/
structure Matches (initial : InitSys.Bundle) (rule : CapabilityRule) (capability : Nat) : Prop where
  parent : rule.parentId = initial.parent capability
  rights : rule.declaredRights = initial.rights capability

theorem checkPinitCapability_matches {index : Nat} {done : Unit} (raw : initial.raw = bytes)
    (checked : checkPinitCapability bundle initial bytes index = .ok done) :
    ∃ rule, bundle.capability index = .ok rule ∧ Matches initial rule (index + 1) := by
  obtain ⟨rule, read, checked⟩ := bind_eq_ok checked
  obtain ⟨cap, found, checked⟩ := bind_eq_ok checked
  obtain ⟨_, _, same⟩ := Bytes.range?_eq_some.mp (orError_eq_ok.mp found)
  rw [Nat.add_sub_cancel_left] at same
  simp only [demand_bind_eq_ok] at checked
  obtain ⟨_, checked⟩ := checked
  obtain ⟨_, _, checked⟩ := bind_eq_ok checked
  simp only [demand_bind_eq_ok] at checked
  obtain ⟨⟨_, parent, _, _, rights, _⟩, _⟩ := checked
  have record : initial.capability (index + 1 - 1) = cap := by
    rw [same, ← raw]
    rfl
  refine ⟨rule, read, ?_, ?_⟩
  · unfold InitSys.Bundle.parent
    rw [record, parent]
  · unfold InitSys.Bundle.rights
    rw [record, rights]

/-- An accepted launch bundle, and how its capabilities match the rules. -/
theorem validateInitialSystem_matches {done : Unit} (valid : validateInitialSystem sha bundle bytes = .ok done) :
    ∃ initial, InitSys.parse sha bytes = .ok initial ∧ ∀ index < bundle.capabilityCount,
      ∃ rule, bundle.capability index = .ok rule ∧ Matches initial rule (index + 1) := by
  unfold validateInitialSystem at valid
  split at valid
  · rename_i initial parsed
    obtain ⟨order, _, same⟩ := InitSys.parse_eq_ok.mp parsed
    have raw : initial.raw = bytes := by
      rw [same]
      rfl
    unfold checkInitialSystem at valid
    rw [mapError_eq_ok, demand_bind_eq_ok, demand_bind_eq_ok, forM_eq_ok] at valid
    refine ⟨initial, parsed, fun index less => ?_⟩
    exact checkPinitCapability_matches raw (valid.2.2 index (List.mem_range.mpr less))
  · exact absurd valid nofun
  · exact absurd valid nofun

/-- Along the parents in the launch bundle go the parents of the rules. -/
theorem derives_of_derivedFrom {capability ancestor : Nat} (matched : ∀ index < bundle.capabilityCount,
      ∃ rule, bundle.capability index = .ok rule ∧ Matches initial rule (index + 1))
    (found : capabilityRule bundle capability = .ok rule)
    (chain : Relation.ReflTransGen (DerivedFrom initial) capability ancestor) :
    ∃ above, capabilityRule bundle ancestor = .ok above ∧ Relation.ReflTransGen bundle.Derives rule above ∧
      above.declaredRights = initial.rights ancestor := by
  have known : ∀ {number : Nat} {rule : CapabilityRule}, capabilityRule bundle number = .ok rule →
      Matches initial rule number := by
    intro number rule read
    have stored := (capabilityRule_holds read).1
    unfold capabilityRule at read
    rw [demand_bind_eq_ok] at read
    obtain ⟨other, found, same⟩ := matched (number - 1) (Bundle.capability_holds stored).listed
    obtain rfl := ok.inj (stored.symm.trans found)
    have again : number - 1 + 1 = number := Nat.sub_add_cancel (Nat.one_le_iff_ne_zero.mpr read.1.1)
    rwa [again] at same
  induction chain with
  | refl => exact ⟨rule, found, .refl, (known found).rights⟩
  | @tail child parent _ link ih =>
    obtain ⟨below, read, path, _⟩ := ih
    have named : below.parentId = parent := (known read).parent.trans link.1
    have real : below.parentId ≠ 0 := named ▸ link.2
    have holds := Bundle.capability_holds (capabilityRule_holds read).1
    obtain ⟨above, stored, _⟩ := holds.parent real
    have listed := (Bundle.capability_holds stored).listed
    have reached : capabilityRule bundle parent = .ok above := by
      unfold capabilityRule
      rw [demand_bind_eq_ok, ← named]
      exact ⟨⟨real, by omega⟩, stored⟩
    exact ⟨above, reached, path.tail ⟨real, stored⟩, (known reached).rights⟩

end Launch

section Sample

def sampleMode (number flags count effects evidence rights : Nat) : Bytes :=
  let word := Bytes.ofWord
  word 2 number ++ word 2 flags ++ word 2 count ++ word 2 0 ++ word 8 effects ++ word 8 evidence ++
    word 8 (knownEffects ^^^ effects) ++ word 4 1 ++ word 4 1 ++ word 4 1 ++ word 4 1 ++ word 4 1 ++ word 4 1 ++
    word 4 knownCapabilityFlags ++ word 4 rights ++ word 4 artifactRoleMask ++ word 4 allModeMask ++
    word 8 knownAuditEvents ++ word 8 1 ++ word 40 0

def sampleRule (capability parent holder resource declared ceiling flags kept group effects availability : Nat) :
    Bytes :=
  let word := Bytes.ofWord
  word 4 capability ++ word 4 parent ++ word 4 holder ++ word 4 resource ++ word 8 declared ++ word 8 ceiling ++
    word 4 flags ++ word 4 kept ++ word 4 group ++ word 4 pinitModeMask ++ word 8 effects ++ word 2 availability ++
    word 2 0 ++ word 4 1

/-- Six modes and three rules: the second rule is derived from the first. -/
def sampleBody : Bytes :=
  sampleMode 1 15 3 knownEffects baseEvidence knownRights ++ sampleMode 2 95 3 safeEffectFloor baseEvidence knownRights ++
    sampleMode 3 15 3 knownEffects baseEvidence knownRights ++ sampleMode 4 239 0 recoveryEffectFloor baseEvidence 0 ++
    sampleMode 5 15 3 knownEffects baseEvidence knownRights ++ sampleMode 6 847 0 knownEffects knownEvidence 0 ++
    sampleRule 1 0 1 1 15 7 11 9 1 38 1 ++ sampleRule 2 1 2 1 1 1 9 9 1 2 2 ++ sampleRule 3 0 2 2 15 15 9 9 2 6 1

def sampleBodyDigest : Nat := 0x1c21e08c4e69306a8c512a868a991f91481457bf04e4f0534bab61b261751b14

/-- The digest of the launch bundle that the rules are about. -/
def sampleInitialDigest : Nat := 0xc8ee3028a2f8f1973db4cb9f7c4f7329e56a6a29370c71dbb3bafebd3e562d51

def samplePolicy : Bytes :=
  let word := Bytes.ofWord
  magic ++ word 2 majorVersion ++ word 2 minorVersion ++ word 2 headerBytes ++ word 2 modeRecordBytes ++
    word 2 capabilityRecordBytes ++ word 2 profileSyntheticQualification ++ word 4 requiredFlags ++ word 8 1 ++
    word 8 1 ++ word 2 modeCount ++ word 2 3 ++ word 4 allModeMask ++ word 8 512 ++ word 8 1280 ++ word 8 1472 ++
    word 4 100 ++ word 4 1 ++ word 8 knownEffects ++ word 8 0 ++ word 32 1 ++ word 32 sampleInitialDigest ++
    word 32 3 ++ word 32 4 ++ word 32 5 ++ word 32 6 ++ word 32 7 ++ word 32 8 ++ word 32 9 ++ word 32 10 ++
    word 32 sampleBodyDigest ++ [0x50, 0x31] ++ word 38 0 ++ word 24 0 ++ sampleBody

def samplePolicyDigest : Nat := 0xf8da9cecf8bc7d9c3ed2a6d45b74a26ef8de35c18ffb151b1ac67e9837e61415

def sampleInitial : Bytes := InitSys.sampleBundle 3 InitSys.sampleDigest

def sampleSha : Sha256 :=
  .ofTable [(sampleBody, sampleBodyDigest), (samplePolicy, samplePolicyDigest), (sampleInitial, sampleInitialDigest),
    (InitSys.sampleBlob, InitSys.sampleBlobDigest), (InitSys.sampleBody 3, InitSys.sampleDigest)]

end Sample

/-- A decision about a capability amplifies nothing, neither over its rule and the ancestors of that,
nor over the capability of the launch bundle and the ancestors of that. A decision reads the rules
again, so that this holds of any bundle, and of an accepted one above all. -/
theorem authorized_attenuates (sha : Sha256) (bundle : Bundle) (context : ActivationContext)
    (decision : DryRunDecision) (authorized : authorizeDryRunDecision sha bundle context = .ok decision) (named : decision.capabilityId ≠ 0) :
    ∃ mode rule, modePolicy bundle context.selectedMode = .ok mode ∧
      capabilityRule bundle decision.capabilityId = .ok rule ∧ Attenuates bundle mode rule context decision ∧
      ∀ bytes, validateInitialSystem sha bundle bytes = .ok () → ∃ initial, InitSys.parse sha bytes = .ok initial ∧
        ∀ ancestor, Relation.ReflTransGen (DerivedFrom initial) decision.capabilityId ancestor →
          without decision.effectiveRights (initial.rights ancestor) = 0 := by
  obtain ⟨mode, shown, same, number, _, granted⟩ := authorize_permitted authorized
  rw [number] at named ⊢
  obtain ⟨rule, found, listed, granted⟩ := granted named
  have attenuates := granted.attenuates listed shown.read found same
  refine ⟨mode, rule, shown.read, found, attenuates, fun bytes valid => ?_⟩
  obtain ⟨initial, parsed, matched⟩ := validateInitialSystem_matches valid
  refine ⟨initial, parsed, fun ancestor chain => ?_⟩
  obtain ⟨above, read, path, rights⟩ := derives_of_derivedFrom matched found chain
  have narrows := (attenuates.ancestors above path).1
  have declared := (Bundle.capability_holds (capabilityRule_holds read).1).fits.ceilingRights.2
  rw [← rights]
  exact without_trans attenuates.ceiling (without_trans narrows.rights declared)

/-- In the sample, the second capability, for its one right, after the launch bundle was validated. -/
theorem sample_attenuates : ∃ bundle decision, parse sampleSha samplePolicy = .ok bundle ∧
    validateInitialSystem sampleSha bundle sampleInitial = .ok () ∧
    authorizeDryRunDecision sampleSha bundle (fullContext sampleSha bundle modeNormal modeNormal 2 1 effectReadState 1) =
      .ok decision ∧ decision.capabilityId = 2 ∧
    ∃ mode rule, modePolicy bundle modeNormal = .ok mode ∧ capabilityRule bundle decision.capabilityId = .ok rule ∧
      Attenuates bundle mode rule (fullContext sampleSha bundle modeNormal modeNormal 2 1 effectReadState 1) decision ∧
      ∀ bytes, validateInitialSystem sampleSha bundle bytes = .ok () →
        ∃ initial, InitSys.parse sampleSha bytes = .ok initial ∧
          ∀ ancestor, Relation.ReflTransGen (DerivedFrom initial) decision.capabilityId ancestor →
            without decision.effectiveRights (initial.rights ancestor) = 0 := by
  have ran : (match parse sampleSha samplePolicy with
      | .error _ => false
      | .ok bundle => decide (validateInitialSystem sampleSha bundle sampleInitial = .ok ()) &&
          decide ((authorizeDryRunDecision sampleSha bundle
            (fullContext sampleSha bundle modeNormal modeNormal 2 1 effectReadState 1)).map (·.capabilityId) = .ok 2)) =
      true := by decide +kernel
  cases parsed : parse sampleSha samplePolicy with
  | error reason =>
    rw [parsed] at ran
    exact absurd ran nofun
  | ok bundle =>
    rw [parsed, Bool.and_eq_true, decide_eq_true_eq, decide_eq_true_eq] at ran
    obtain ⟨valid, named⟩ := ran
    cases authorized : authorizeDryRunDecision sampleSha bundle
        (fullContext sampleSha bundle modeNormal modeNormal 2 1 effectReadState 1) with
    | error reason =>
      rw [authorized] at named
      exact absurd named nofun
    | ok decision =>
      rw [authorized] at named
      have number : decision.capabilityId = 2 := ok.inj named
      have real : decision.capabilityId ≠ 0 := number ▸ by decide
      exact ⟨bundle, decision, rfl, valid, authorized, number,
        authorized_attenuates sampleSha bundle _ decision authorized real⟩

/-- What the flag is about: computing and acting. -/
def pdcEffects : Nat := effectPdcCompute ||| effectPdcActuate

section Effects

variable {sha : Sha256} {bundle : Bundle} {mode : ModePolicy} {number : Nat}

/-- No capability is for an effect of the PDC, so that only a decision without one can grant it. -/
theorem authorize_effects {context : ActivationContext} {decision : DryRunDecision}
    (authorized : authorizeDryRunDecision sha bundle context = .ok decision)
    (read : modePolicy bundle context.selectedMode = .ok mode)
    (excluded : mode.allowedCapabilityCount ≠ 0 ∨ mode.allowedEffects &&& pdcEffects = 0) :
    decision.effectiveEffects &&& pdcEffects = 0 := by
  obtain ⟨other, shown, _, _, free, granted⟩ := authorize_permitted authorized
  obtain rfl := ok.inj (read.symm.trans shown.read)
  by_cases unnamed : context.capabilityId = 0
  · rcases excluded with counted | apart
    · exact absurd (shown.unlisted unnamed).empty counted
    · rw [free unnamed, Nat.and_assoc, apart, Nat.and_zero]
  · obtain ⟨rule, found, _, granted⟩ := granted unnamed
    have holds := Bundle.capability_holds (capabilityRule_holds found).1
    have effects : without decision.effectiveEffects rule.effectMask = 0 := by
      rw [granted.effects]
      exact without_and_left without_and_right
    exact and_eq_zero_of_without (without_trans effects holds.fits.effects.2) (by decide)

/-- A mode that allows no capability grants every effect that it allows. -/
theorem free_decision (read : modePolicy bundle number = .ok mode) (empty : mode.allowedCapabilityCount = 0) :
    ∃ context decision, context.selectedMode = number ∧
      authorizeDryRunDecision sha bundle context = .ok decision ∧ decision.effectiveEffects = mode.allowedEffects := by
  obtain ⟨_, fits⟩ := modePolicy_holds read
  obtain ⟨place, held⟩ := exists_testBit_of_ne_zero fits.transitions.1
  have low : place < 6 := by
    by_contra high
    have small : mode.transitionMask < 2 ^ 6 := without_low.mp fits.transitions.2
    have above : mode.transitionMask < 2 ^ place :=
      Nat.lt_of_lt_of_le small (Nat.pow_le_pow_right (by decide) (Nat.le_of_not_lt high))
    rw [testBit_lt_two_pow above] at held
    exact absurd held (by decide)
  have bit : modeBit (place + 1) = 2 ^ place := by
    unfold modeBit modeNormal modeFirmware
    rw [if_pos (by omega), Nat.add_sub_cancel]
  have transition : mode.transitionMask &&& modeBit (place + 1) ≠ 0 := by
    intro none
    have absent := congrArg (testBit · place) none
    simp only [bit, testBit_and, held, testBit_two_pow_self, zero_testBit] at absent
    exact absurd absent (by decide)
  have shown := @fullContext_permitted sha bundle mode number (place + 1) read empty fits.effects.1 transition
  obtain ⟨decision, authorized⟩ := permitted_authorize shown
  refine ⟨_, decision, rfl, authorized, ?_⟩
  obtain ⟨other, again, _, _, free, _⟩ := authorize_permitted authorized
  obtain rfl := ok.inj (shown.read.symm.trans again.read)
  exact (free rfl).trans (Nat.and_self _)

end Effects

/-- In each mode that disables the PDC: no decision grants an effect of the PDC exactly when the
mode allows capabilities at all, or allows no effect of the PDC in the first place. -/
theorem disablePdc_enforced_iff (sha : Sha256) (data : Bytes) (bundle : Bundle) (number : Nat)
    (accepted : parse sha data = .ok bundle) (known : modeNormal ≤ number ∧ number ≤ modeFirmware) :
    ∃ mode, modePolicy bundle number = .ok mode ∧ (mode.flags &&& modeFlagDisablePdc ≠ 0 →
      ((∀ context decision, context.selectedMode = number →
          authorizeDryRunDecision sha bundle context = .ok decision → decision.effectiveEffects &&& pdcEffects = 0) ↔
        mode.allowedCapabilityCount ≠ 0 ∨ mode.allowedEffects &&& pdcEffects = 0)) := by
  obtain ⟨mode, read⟩ := parse_modePolicy accepted known
  refine ⟨mode, read, fun _ => ⟨fun enforced => ?_, ?_⟩⟩
  · by_contra open'
    rw [not_or, not_not] at open'
    obtain ⟨context, decision, selected, authorized, effects⟩ := @free_decision sha _ _ _ read open'.1
    exact open'.2 (effects ▸ enforced context decision selected authorized)
  · rintro excluded context decision rfl authorized
    exact authorize_effects authorized read excluded

/-- In the sample, for the firmware mode. -/
theorem sample_disablePdc_iff : ∃ bundle mode, parse sampleSha samplePolicy = .ok bundle ∧
    modePolicy bundle modeFirmware = .ok mode ∧ (mode.flags &&& modeFlagDisablePdc ≠ 0 →
      ((∀ context decision, context.selectedMode = modeFirmware →
          authorizeDryRunDecision sampleSha bundle context = .ok decision →
            decision.effectiveEffects &&& pdcEffects = 0) ↔
        mode.allowedCapabilityCount ≠ 0 ∨ mode.allowedEffects &&& pdcEffects = 0)) := by
  have accepted : (parse sampleSha samplePolicy).toBool = true := by decide +kernel
  cases parsed : parse sampleSha samplePolicy with
  | error reason =>
    rw [parsed] at accepted
    exact absurd accepted nofun
  | ok bundle =>
    obtain ⟨mode, enforced⟩ := disablePdc_enforced_iff sampleSha samplePolicy bundle modeFirmware parsed
      ⟨by decide, le_refl _⟩
    exact ⟨bundle, mode, rfl, enforced⟩

/-- A decision without a capability, in the firmware mode of the sample, grants both effects of the PDC. -/
theorem firmware_mode_grants_pdc : ¬ ∀ (sha : Sha256) (data : Bytes) (bundle : Bundle) (mode : ModePolicy)
    (context : ActivationContext) (decision : DryRunDecision), parse sha data = .ok bundle →
      modePolicy bundle context.selectedMode = .ok mode → mode.flags &&& modeFlagDisablePdc ≠ 0 →
        authorizeDryRunDecision sha bundle context = .ok decision → decision.effectiveEffects &&& pdcEffects = 0 := by
  intro enforced
  have ran : (match parse sampleSha samplePolicy with
      | .error _ => false
      | .ok bundle =>
        let context := fullContext sampleSha bundle modeFirmware modeNormal 0 0 knownEffects 0
        decide ((modePolicy bundle modeFirmware).map (fun mode =>
          decide (mode.flags &&& modeFlagDisablePdc ≠ 0)) = .ok true) &&
        decide ((authorizeDryRunDecision sampleSha bundle context).map (fun decision =>
          decision.effectiveEffects &&& pdcEffects) = .ok pdcEffects)) = true := by decide +kernel
  cases parsed : parse sampleSha samplePolicy with
  | error reason =>
    rw [parsed] at ran
    exact absurd ran nofun
  | ok bundle =>
    rw [parsed, Bool.and_eq_true, decide_eq_true_eq, decide_eq_true_eq] at ran
    obtain ⟨flagged, granted⟩ := ran
    cases read : modePolicy bundle modeFirmware with
    | error reason =>
      rw [read] at flagged
      exact absurd flagged nofun
    | ok mode =>
      rw [read] at flagged
      cases authorized : authorizeDryRunDecision sampleSha bundle
          (fullContext sampleSha bundle modeFirmware modeNormal 0 0 knownEffects 0) with
      | error reason =>
        rw [authorized] at granted
        exact absurd granted nofun
      | ok decision =>
        rw [authorized] at granted
        have both : decision.effectiveEffects &&& pdcEffects = pdcEffects := ok.inj granted
        have none := enforced sampleSha samplePolicy bundle mode _ decision parsed read
          (of_decide_eq_true (ok.inj flagged)) authorized
        exact absurd (both.symm.trans none) (by decide)

end PooleOS.Policy
