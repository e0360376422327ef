import PooleOS.Trust.Model

/- Selection finds the copies that hold the state that the anchor names, and the plan
spares one of them. -/
namespace PooleOS.Trust

variable {sha : Sha256} {copies : Copies} {anchor : MonotonicAnchor} {requirements : BackendRequirements}
  {scan : Scan} {state : State} {index : Fin 2}

/-- The anchor's numbers are sound, and it meets the requirements. -/
structure MonotonicAnchor.Meets (anchor : MonotonicAnchor) (requirements : BackendRequirements) : Prop where
  authenticated : anchor.authenticated = true
  monotonic : anchor.monotonic = true
  generation : anchor.stateGeneration ≠ 0
  epoch : anchor.storeEpoch ≠ 0
  profile : anchor.authProfile ≠ 0
  digest : ¬ anchor.logicalStateSha256.allZero
  previous : anchor.stateGeneration = 1 ↔ anchor.previousStateSha256.allZero
  leastGeneration : requirements.minimumStateGeneration ≠ 0
  leastEpoch : requirements.minimumStoreEpoch ≠ 0
  targetEpoch : requirements.targetStoreEpoch ≠ 0
  targetProfile : requirements.targetAuthProfile ≠ 0
  reachable : requirements.minimumStoreEpoch ≤ requirements.targetStoreEpoch
  forward : anchor.storeEpoch ≤ requirements.targetStoreEpoch
  freshGeneration : requirements.minimumStateGeneration ≤ anchor.stateGeneration
  freshEpoch : requirements.minimumStoreEpoch ≤ anchor.storeEpoch

theorem validateAnchor_ok : validateAnchor anchor requirements = .ok () ↔ anchor.Meets requirements := by
  unfold validateAnchor
  simp only [unit_bind_eq_ok, demand_eq_ok]
  constructor
  · rintro ⟨authenticated, monotonic, ⟨generation, epoch, profile, digest, previous⟩,
      ⟨leastGeneration, leastEpoch, targetEpoch, targetProfile, reachable, forward⟩, freshGeneration,
      freshEpoch⟩
    exact ⟨authenticated, monotonic, generation, epoch, profile, digest, previous, leastGeneration,
      leastEpoch, targetEpoch, targetProfile, reachable, forward, freshGeneration, freshEpoch⟩
  · intro meets
    exact ⟨meets.authenticated, meets.monotonic,
      ⟨meets.generation, meets.epoch, meets.profile, meets.digest, meets.previous⟩,
      ⟨meets.leastGeneration, meets.leastEpoch, meets.targetEpoch, meets.targetProfile, meets.reachable,
        meets.forward⟩, meets.freshGeneration, meets.freshEpoch⟩

/-- A copy that parses to this state. -/
def BackendCopy.Holds (sha : Sha256) (copy : BackendCopy) (state : State) : Prop :=
  ∃ bytes, copy.bytes = some bytes ∧ parseState sha bytes = .ok state

/-- The copy at this index holds the state that the anchor names. -/
structure Anchored (sha : Sha256) (copies : Copies) (anchor : MonotonicAnchor) (index : Fin 2)
    (state : State) : Prop where
  holds : (copies index).Holds sha state
  copy : state.copyIndex = index.val
  verified : (copies index).authenticationVerified = true
  flag : state.flags &&& stateFlagAuthenticatedBackend ≠ 0
  generation : state.stateGeneration = anchor.stateGeneration
  epoch : state.storeEpoch = anchor.storeEpoch
  previous : state.previousStateSha256 = anchor.previousStateSha256
  profile : state.authProfile = anchor.authProfile
  digest : logicalStateSha256 sha state = anchor.logicalStateSha256

section Rounds

theorem classify_candidates (candidate : Candidate) (bit : Nat) :
    (classify anchor candidate bit scan).candidates = scan.candidates := by
  unfold classify
  dsimp only
  split
  · rfl
  · split
    · rfl
    · split
      · rfl
      · split <;> rfl

theorem examine_other {other : Fin 2} (apart : other ≠ index) :
    (examine sha copies anchor scan index).candidates other = scan.candidates other := by
  unfold examine
  split
  · rfl
  · split
    · rfl
    · split
      · rfl
      · split
        · rfl
        · rw [classify_candidates]
          exact Function.update_of_ne apart ..

theorem examine_anchored (anchored : Anchored sha copies anchor index state) :
    (examine sha copies anchor scan index).anchoredMask = scan.anchoredMask ||| 1 <<< index.val ∧
      (examine sha copies anchor scan index).candidates index = some ⟨state, logicalStateSha256 sha state⟩ := by
  obtain ⟨⟨bytes, present, parsed⟩, copy, verified, flag, generation, epoch, previous, profile, digest⟩ :=
    anchored
  unfold examine classify
  simp only [present, parsed, copy, verified, flag, generation, epoch, previous, profile, digest, ne_eq,
    not_true_eq_false, Bool.true_eq_false, or_self, if_false, Nat.lt_irrefl]
  exact ⟨trivial, Function.update_self ..⟩

theorem examine_unanchored (unnamed : ¬ ∃ state, Anchored sha copies anchor index state) :
    (examine sha copies anchor scan index).anchoredMask = scan.anchoredMask := by
  unfold examine
  split
  · rfl
  · rename_i bytes present
    split
    · rfl
    · rename_i state parsed
      split
      · rfl
      · rename_i copy
        split
        · rfl
        · rename_i authentic
          rw [not_or] at authentic
          unfold classify
          dsimp only
          split
          · rfl
          · split
            · rfl
            · split
              · rfl
              · rename_i previous
                split
                · rfl
                · rename_i same
                  rw [not_or, not_not] at same
                  exact absurd ⟨state, {
                    holds := ⟨bytes, present, parsed⟩
                    copy := not_not.mp copy
                    verified := Bool.not_eq_false _ ▸ authentic.1
                    flag := authentic.2
                    generation := by omega
                    epoch := by omega
                    previous := not_not.mp previous
                    profile := same.1
                    digest := not_not.mp same.2 }⟩ unnamed

end Rounds

section Scans

/-- The copies that are anchored, as the loop counts them. -/
theorem scan_mask : ∃ first second : Bool, (first = true ↔ ∃ state, Anchored sha copies anchor 0 state) ∧
    (second = true ↔ ∃ state, Anchored sha copies anchor 1 state) ∧
    (scanCopies sha copies anchor).anchoredMask = (if first then 1 else 0) ||| (if second then 2 else 0) := by
  change ∃ first second : Bool, _ ∧ _ ∧
    (examine sha copies anchor (examine sha copies anchor Scan.empty 0) 1).anchoredMask = _
  by_cases one : ∃ state, Anchored sha copies anchor 0 state <;>
    by_cases two : ∃ state, Anchored sha copies anchor 1 state
  · obtain ⟨_, first⟩ := one
    obtain ⟨_, second⟩ := two
    refine ⟨true, true, by simp [Exists.intro _ first], by simp [Exists.intro _ second], ?_⟩
    rw [(examine_anchored second).1, (examine_anchored first).1]
    rfl
  · obtain ⟨_, first⟩ := one
    refine ⟨true, false, by simp [Exists.intro _ first], by simp [two], ?_⟩
    rw [examine_unanchored two, (examine_anchored first).1]
    rfl
  · obtain ⟨_, second⟩ := two
    refine ⟨false, true, by simp [one], by simp [Exists.intro _ second], ?_⟩
    rw [(examine_anchored second).1, examine_unanchored one]
    rfl
  · refine ⟨false, false, by simp [one], by simp [two], ?_⟩
    rw [examine_unanchored two, examine_unanchored one]
    rfl

theorem scan_candidate (anchored : Anchored sha copies anchor index state) :
    (scanCopies sha copies anchor).candidates index = some ⟨state, logicalStateSha256 sha state⟩ := by
  change (examine sha copies anchor (examine sha copies anchor Scan.empty 0) 1).candidates index = _
  match index with
  | 0 => rw [examine_other (by decide), (examine_anchored anchored).2]
  | 1 => rw [(examine_anchored anchored).2]

end Scans

/-- What a selection says. -/
structure Selects (sha : Sha256) (copies : Copies) (anchor : MonotonicAnchor) (requirements : BackendRequirements)
    (selection : BackendSelection) (index : Fin 2) (state : State) : Prop where
  anchored : Anchored sha copies anchor index state
  copy : selection.selectedCopy = index.val
  mask : selection.anchoredCopyMask = (scanCopies sha copies anchor).anchoredMask
  repair : selection.repairCopyMask = without redundantCopyMask selection.anchoredCopyMask
  generation : selection.stateGeneration = state.stateGeneration
  epoch : selection.storeEpoch = state.storeEpoch
  profile : selection.authProfile = state.authProfile
  digest : selection.logicalStateSha256 = logicalStateSha256 sha state
  previous : selection.previousStateSha256 = state.previousStateSha256
  targetEpoch : selection.targetStoreEpoch = requirements.targetStoreEpoch
  targetProfile : selection.targetAuthProfile = requirements.targetAuthProfile
  migration : selection.migrationRequired = decide (selection.storeEpoch < selection.targetStoreEpoch ∨
    selection.authProfile ≠ selection.targetAuthProfile)
  grants : selection.authorityGrants = 0
  writes : selection.stateWrites = 0

section Selections

/-- A backend that can be written and repaired. -/
def fullAccess : BackendAccess := ⟨true, true⟩

/-- The index that `select_backend_state` takes when a copy is anchored. -/
theorem anchored_pick (some : (scanCopies sha copies anchor).anchoredMask ≠ 0) : ∃ state, Anchored sha copies anchor
      (if (scanCopies sha copies anchor).anchoredMask &&& 1 ≠ 0 then 0 else 1) state := by
  obtain ⟨first, second, one, two, mask⟩ := @scan_mask sha copies anchor
  rw [mask] at some ⊢
  cases first
  · cases second
    · exact absurd rfl some
    · exact two.mp rfl
  · cases second <;> exact one.mp rfl

theorem selectBackendState_eq (meets : anchor.Meets requirements)
    (some : (scanCopies sha copies anchor).anchoredMask ≠ 0) :
    ∃ selection index state, selectBackendState sha copies anchor requirements fullAccess = .ok selection ∧
      Selects sha copies anchor requirements selection index state := by
  obtain ⟨state, anchored⟩ := anchored_pick some
  refine ⟨?selection, if (scanCopies sha copies anchor).anchoredMask &&& 1 ≠ 0 then 0 else 1, state, ?found, ?selects⟩
  case found =>
    unfold selectBackendState
    rw [validateAnchor_ok.mpr meets, ok_bind]
    dsimp only
    rw [demand_pass some, ok_bind, demand_pass (show fullAccess.writable = true from rfl), ok_bind,
      demand_pass (fun _ => show fullAccess.repairCapacity = true from rfl), ok_bind,
      scan_candidate anchored, orError_some, ok_bind]
    rfl
  case selects =>
    exact ⟨anchored, rfl, rfl, rfl, rfl, rfl, rfl, rfl, rfl, rfl, rfl, rfl, rfl, rfl⟩

/-- When a selection succeeds. -/
theorem selectBackendState_ok {selection : BackendSelection} :
    selectBackendState sha copies anchor requirements fullAccess = .ok selection →
      anchor.Meets requirements ∧ ∃ index state, Selects sha copies anchor requirements selection index state := by
  intro ok
  have checks := ok
  unfold selectBackendState at checks
  simp only [unit_bind_eq_ok, demand_eq_ok] at checks
  have meets := validateAnchor_ok.mp checks.1
  obtain ⟨found, index, state, same, selects⟩ := @selectBackendState_eq sha copies _ _ meets checks.2.1
  rw [same] at ok
  obtain rfl := Except.ok.inj ok
  exact ⟨meets, index, state, selects⟩

/-- An anchored copy is enough. -/
theorem selectBackendState_some (meets : anchor.Meets requirements)
    (anchored : Anchored sha copies anchor index state) :
    ∃ selection, selectBackendState sha copies anchor requirements fullAccess = .ok selection := by
  have some : (scanCopies sha copies anchor).anchoredMask ≠ 0 := by
    obtain ⟨first, second, one, two, mask⟩ := @scan_mask sha copies anchor
    rw [mask]
    match index with
    | 0 =>
      rw [one.mpr ⟨state, anchored⟩]
      cases second <;> decide
    | 1 =>
      rw [two.mpr ⟨state, anchored⟩]
      cases first <;> decide
  obtain ⟨selection, -, -, ok, -⟩ := @selectBackendState_eq sha copies _ _ meets some
  exact ⟨selection, ok⟩

end Selections

/-- What a plan says: the copy to write, and a copy that stays anchored meanwhile. -/
structure Plans (sha : Sha256) (copies : Copies) (anchor : MonotonicAnchor) (requirements : BackendRequirements)
    (plan : BackendTransitionPlan) (target kept : Fin 2) (state : State) : Prop where
  copy : plan.targetCopy = target.val
  apart : kept ≠ target
  spared : Anchored sha copies anchor kept state
  generation : plan.nextGeneration = anchor.stateGeneration + 1
  epoch : plan.targetStoreEpoch = requirements.targetStoreEpoch
  profile : plan.targetAuthProfile = requirements.targetAuthProfile
  previous : plan.previousStateSha256 = anchor.logicalStateSha256

section Plans

variable {selection : BackendSelection} {plan : BackendTransitionPlan}

/-- The target of a plan is never the only copy that is anchored. -/
theorem planBackendTransition_target (ok : planBackendTransition selection = .ok plan)
    (copy : selection.selectedCopy = index.val) :
    plan.targetCopy < 2 ∧ selection.anchoredCopyMask ≠ 1 <<< plan.targetCopy := by
  unfold planBackendTransition at ok
  simp only [unit_bind_eq_ok, demand_eq_ok] at ok
  obtain ⟨⟨-, some, low, picked, -⟩, -, -, made⟩ := ok
  rw [← Except.ok.inj made]
  rw [copy] at picked ⊢
  have small : selection.anchoredCopyMask < 4 := @without_low _ 2 |>.mp low
  generalize selection.anchoredCopyMask = mask at *
  have each : ∀ mask : Fin 4, ∀ index : Fin 2, mask.val &&& 1 <<< index.val ≠ 0 →
      (if mask.val = 1 then 1 else if mask.val = 2 then 0 else 1 - index.val) < 2 ∧
        mask.val ≠ 1 <<< (if mask.val = 1 then 1 else if mask.val = 2 then 0 else 1 - index.val) := by
    decide
  exact each ⟨mask, small⟩ index picked

/-- A selection can be planned for, unless the generations are used up. -/
theorem planBackendTransition_some (meets : anchor.Meets requirements)
    (selects : Selects sha copies anchor requirements selection index state)
    (room : anchor.stateGeneration < u64Max) : ∃ plan, planBackendTransition selection = .ok plan := by
  have named := selects.anchored
  obtain ⟨first, second, one, two, mask⟩ := @scan_mask sha copies anchor
  rw [← selects.mask] at mask
  have low : without selection.anchoredCopyMask redundantCopyMask = 0 := by
    rw [mask]
    cases first <;> cases second <;> decide
  have picked : selection.anchoredCopyMask &&& 1 <<< selection.selectedCopy ≠ 0 := by
    rw [mask, selects.copy]
    match index with
    | 0 =>
      rw [one.mpr ⟨state, named⟩]
      cases second <;> decide
    | 1 =>
      rw [two.mpr ⟨state, named⟩]
      cases first <;> decide
  have some : selection.anchoredCopyMask ≠ 0 := by
    intro none
    rw [none, Nat.zero_and] at picked
    exact picked rfl
  have inside : selection.selectedCopy < 2 := by
    rw [selects.copy]
    exact index.isLt
  have generation := selects.generation.trans named.generation
  have epoch := selects.epoch.trans named.epoch
  have profile := selects.profile.trans named.profile
  have digest := selects.digest.trans named.digest
  have previous := selects.previous.trans named.previous
  unfold planBackendTransition
  dsimp only
  rw [demand_pass ⟨inside, some, low, picked, selects.repair, generation ▸ meets.generation,
    epoch ▸ meets.epoch, profile ▸ meets.profile, digest ▸ meets.digest,
    generation ▸ previous ▸ meets.previous, selects.migration, selects.grants, selects.writes⟩, ok_bind,
    demand_pass ⟨by rw [epoch, selects.targetEpoch]; exact meets.forward,
      by rw [selects.targetProfile]; exact meets.targetProfile⟩, ok_bind,
    demand_pass (by rw [generation]; exact room)]
  exact ⟨_, rfl⟩

/-- A plan for a selection. -/
theorem planBackendTransition_ok (selects : Selects sha copies anchor requirements selection index state)
    (ok : planBackendTransition selection = .ok plan) :
    ∃ target kept state, Plans sha copies anchor requirements plan target kept state := by
  obtain ⟨low, spared⟩ := planBackendTransition_target ok selects.copy
  have anchored : ∀ kept : Fin 2, kept.val ≠ plan.targetCopy → ∃ state, Anchored sha copies anchor kept state := by
    obtain ⟨first, second, one, two, mask⟩ := @scan_mask sha copies anchor
    have some : selection.anchoredCopyMask ≠ 0 := by
      unfold planBackendTransition at ok
      simp only [unit_bind_eq_ok, demand_eq_ok] at ok
      exact ok.1.2.1
    rw [selects.mask, mask] at some spared
    obtain zero | one' : plan.targetCopy = 0 ∨ plan.targetCopy = 1 := by omega
    · rw [zero] at spared ⊢
      refine Fin.forall_fin_two.mpr ⟨fun apart => absurd rfl apart, fun _ => ?_⟩
      cases second
      · cases first <;> simp at some spared
      · exact two.mp rfl
    · rw [one'] at spared ⊢
      refine Fin.forall_fin_two.mpr ⟨fun _ => ?_, fun apart => absurd rfl apart⟩
      cases first
      · cases second <;> simp at some spared
      · exact one.mp rfl
  have other : (1 - plan.targetCopy) < 2 := by omega
  obtain ⟨state', held⟩ := anchored ⟨1 - plan.targetCopy, other⟩ (by dsimp only; omega)
  have named := selects.anchored
  unfold planBackendTransition at ok
  simp only [unit_bind_eq_ok, demand_eq_ok] at ok
  obtain ⟨-, -, -, made⟩ := ok
  refine ⟨⟨plan.targetCopy, low⟩, ⟨1 - plan.targetCopy, other⟩, state', rfl, ?_, held, ?_, ?_, ?_, ?_⟩
  · rw [ne_eq, Fin.mk.injEq]
    omega
  · rw [← Except.ok.inj made, ← named.generation, ← selects.generation]
  · rw [← Except.ok.inj made, ← selects.targetEpoch]
  · rw [← Except.ok.inj made, ← selects.targetProfile]
  · rw [← Except.ok.inj made, ← named.digest, ← selects.digest]

end Plans

end PooleOS.Trust
