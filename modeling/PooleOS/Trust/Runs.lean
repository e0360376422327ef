import PooleOS.Trust.Select

/- Updates that are interrupted at any point: the copy that is written is never the one
that the anchor needs, and the anchor decides which state a restart finds. -/
namespace PooleOS.Trust

open List Bytes
open Function (update update_of_ne update_self)

section Messages

/-- Two states that differ in nothing but the copy that they are. -/
structure State.Same (first second : State) : Prop where
  flags : first.flags = second.flags
  profile : first.authProfile = second.authProfile
  generation : first.stateGeneration = second.stateGeneration
  epoch : first.storeEpoch = second.storeEpoch
  secure : first.minimumSecureVersion = second.minimumSecureVersion
  manifestVersion : first.acceptedManifestVersion = second.acceptedManifestVersion
  policyVersion : first.acceptedPolicyVersion = second.acceptedPolicyVersion
  policy : first.policySha256 = second.policySha256
  manifest : first.manifestSha256 = second.manifestSha256
  kernel : first.kernelSha256 = second.kernelSha256
  retained : first.retainedSetSha256 = second.retainedSetSha256
  previous : first.previousStateSha256 = second.previousStateSha256

/-- The sizes of the fields, and what an authenticated record says in its flags. -/
structure State.Record (state : State) : Prop where
  profile : state.authProfile < 256 ^ 2
  generation : state.stateGeneration < 256 ^ 8
  epoch : state.storeEpoch < 256 ^ 8
  secure : state.minimumSecureVersion < 256 ^ 8
  manifestVersion : state.acceptedManifestVersion < 256 ^ 8
  policyVersion : state.acceptedPolicyVersion < 256 ^ 8
  policy : state.policySha256.length = 32
  manifest : state.manifestSha256.length = 32
  kernel : state.kernelSha256.length = 32
  retained : state.retainedSetSha256.length = 32
  previous : state.previousStateSha256.length = 32
  flags : state.flags &&& stateFlagAuthenticatedBackend ≠ 0 →
    state.flags = stateFlagCommitted ||| stateFlagAuthenticatedBackend

variable {sha : Sha256} {first second state : State}

theorem parseState_record {data : Bytes} (parsed : parseState sha data = .ok state) : state.Record := by
  unfold parseState at parsed
  simp only [unit_bind_eq_ok, demand_eq_ok] at parsed
  obtain ⟨long, ⟨size, -⟩, -, -, ⟨known, committed, profiles⟩, -, -, -, -, -, -, -, same⟩ := parsed
  have digest : ∀ offset, offset + 32 ≤ 256 → (data.slice offset 32).length = 32 := by
    intro offset inside
    unfold stateBytes at size
    rw [Bytes.slice, length_take, length_drop]
    omega
  have small : data.word 14 2 < 8 := @without_low _ 3 |>.mp known
  have each : ∀ flags < 8, flags &&& stateFlagCommitted ≠ 0 →
      countOnes (flags &&& (stateFlagDevelopmentCandidate ||| stateFlagAuthenticatedBackend)) = 1 →
      flags &&& stateFlagAuthenticatedBackend ≠ 0 →
      flags = stateFlagCommitted ||| stateFlagAuthenticatedBackend := by decide
  rw [← Except.ok.inj same]
  exact {
    profile := word_lt ..
    generation := word_lt ..
    epoch := word_lt ..
    secure := word_lt ..
    manifestVersion := word_lt ..
    policyVersion := word_lt ..
    policy := digest 64 (by decide)
    manifest := digest 96 (by decide)
    kernel := digest 128 (by decide)
    retained := digest 160 (by decide)
    previous := digest 192 (by decide)
    flags := each _ small committed profiles }

theorem append_word_inj {front back : Bytes} {width value other : Nat} (low : value < 256 ^ width)
    (low' : other < 256 ^ width) (same : front ++ ofWord width value = back ++ ofWord width other) :
    front = back ∧ value = other := by
  have length : (ofWord width value).length = (ofWord width other).length := by
    rw [ofWord_length, ofWord_length]
  obtain ⟨fronts, words⟩ := append_inj' same length
  have read := congrArg little words
  rw [little_ofWord low, little_ofWord low'] at read
  exact ⟨fronts, read⟩

/-- The message names the state. -/
theorem logicalMessage_inj (one : first.Record) (two : second.Record) (flags : first.flags = second.flags)
    (same : logicalMessage first = logicalMessage second) : first.Same second := by
  unfold logicalMessage at same
  obtain ⟨same, previous⟩ := append_inj' same (one.previous.trans two.previous.symm)
  obtain ⟨same, retained⟩ := append_inj' same (one.retained.trans two.retained.symm)
  obtain ⟨same, kernel⟩ := append_inj' same (one.kernel.trans two.kernel.symm)
  obtain ⟨same, manifest⟩ := append_inj' same (one.manifest.trans two.manifest.symm)
  obtain ⟨same, policy⟩ := append_inj' same (one.policy.trans two.policy.symm)
  obtain ⟨same, policyVersion⟩ := append_word_inj one.policyVersion two.policyVersion same
  obtain ⟨same, manifestVersion⟩ := append_word_inj one.manifestVersion two.manifestVersion same
  obtain ⟨same, secure⟩ := append_word_inj one.secure two.secure same
  obtain ⟨same, epoch⟩ := append_word_inj one.epoch two.epoch same
  obtain ⟨same, generation⟩ := append_word_inj one.generation two.generation same
  obtain ⟨-, profile⟩ := append_word_inj one.profile two.profile same
  exact ⟨flags, profile, generation, epoch, secure, manifestVersion, policyVersion, policy, manifest, kernel,
    retained, previous⟩

theorem State.Same.message (same : first.Same second) : logicalMessage first = logicalMessage second := by
  unfold logicalMessage
  rw [same.profile, same.generation, same.epoch, same.secure, same.manifestVersion, same.policyVersion,
    same.policy, same.manifest, same.kernel, same.retained, same.previous]

/-- No two of these states share a digest, and none has the digest of all zeros, which the format
keeps for no state. -/
structure CollisionFree (sha : Sha256) (seen : State → Prop) : Prop where
  distinct : ∀ first second, seen first → seen second →
    logicalStateSha256 sha first = logicalStateSha256 sha second → logicalMessage first = logicalMessage second
  some : ∀ state, seen state → ¬ (logicalStateSha256 sha state).allZero

end Messages

section Machine

/-- `anchor_for`: the anchor after it is advanced to a state. -/
def anchorFor (sha : Sha256) (state : State) : MonotonicAnchor where
  authenticated := true
  monotonic := true
  stateGeneration := state.stateGeneration
  storeEpoch := state.storeEpoch
  authProfile := state.authProfile
  logicalStateSha256 := logicalStateSha256 sha state
  previousStateSha256 := state.previousStateSha256

/-- How far an update is. -/
inductive Phase
  | idle
  | planned (plan : BackendTransitionPlan)
  | written (plan : BackendTransitionPlan) (state : State)

structure Config where
  copies : Copies
  anchor : MonotonicAnchor
  requirements : BackendRequirements
  phase : Phase
  /-- The state that the anchor was last advanced to. -/
  current : State

/-- A copy that is written as the plan says. -/
structure Commits (sha : Sha256) (plan : BackendTransitionPlan) (copy : BackendCopy) (state : State) : Prop where
  holds : copy.Holds sha state
  verified : copy.authenticationVerified = true
  flag : state.flags &&& stateFlagAuthenticatedBackend ≠ 0
  copy : state.copyIndex = plan.targetCopy
  generation : state.stateGeneration = plan.nextGeneration
  epoch : state.storeEpoch = plan.targetStoreEpoch
  profile : state.authProfile = plan.targetAuthProfile
  previous : state.previousStateSha256 = plan.previousStateSha256

/-- One step of an update, or an interruption. The states that copies ever parse to are `seen`. -/
inductive Step (sha : Sha256) (seen : State → Prop) (config : Config) : Config → Prop
  | require (requirements : BackendRequirements) (idle : config.phase = .idle)
      (meets : config.anchor.Meets requirements) : Step sha seen config { config with requirements }
  | plan (selection : BackendSelection) (plan : BackendTransitionPlan) (idle : config.phase = .idle)
      (selected : selectBackendState sha config.copies config.anchor config.requirements fullAccess = .ok selection)
      (planned : planBackendTransition selection = .ok plan) :
      Step sha seen config { config with phase := .planned plan }
  | tear (plan : BackendTransitionPlan) (target : Fin 2) (copy : BackendCopy)
      (planned : config.phase = .planned plan) (named : plan.targetCopy = target.val)
      (known : ∀ state, copy.Holds sha state → seen state) :
      Step sha seen config { config with copies := update config.copies target copy }
  | write (plan : BackendTransitionPlan) (target : Fin 2) (copy : BackendCopy) (state : State)
      (planned : config.phase = .planned plan) (named : plan.targetCopy = target.val)
      (commits : Commits sha plan copy state) (known : seen state) :
      Step sha seen config { config with
        copies := update config.copies target copy
        phase := .written plan state }
  | advance (plan : BackendTransitionPlan) (state : State) (written : config.phase = .written plan state) :
      Step sha seen config { config with
        anchor := anchorFor sha state
        phase := .idle
        current := state }
  | interrupt : Step sha seen config { config with phase := .idle }

/-- Where a run starts: a selection succeeds, and finds this state. -/
structure Started (sha : Sha256) (seen : State → Prop) (start : Config) : Prop where
  idle : start.phase = .idle
  selected : ∃ selection index, selectBackendState sha start.copies start.anchor start.requirements
    fullAccess = .ok selection ∧ selection.selectedCopy = index ∧ ∃ inside : index < 2,
      (start.copies ⟨index, inside⟩).Holds sha start.current
  copies : ∀ index state, (start.copies index).Holds sha state → seen state

/-- What a restart finds. -/
structure Survives (sha : Sha256) (config : Config) : Prop where
  anchor : config.anchor = anchorFor sha config.current
  selects : ∃ selection, selectBackendState sha config.copies config.anchor config.requirements fullAccess =
    .ok selection
  current : ∀ selection, selectBackendState sha config.copies config.anchor config.requirements fullAccess =
    .ok selection → selection.stateGeneration = config.current.stateGeneration ∧
      selection.storeEpoch = config.current.storeEpoch ∧
      selection.logicalStateSha256 = logicalStateSha256 sha config.current ∧
      ∃ (index : Fin 2) (state : State), selection.selectedCopy = index.val ∧
        (config.copies index).Holds sha state ∧ state.Same config.current
  plans : ∀ selection, selectBackendState sha config.copies config.anchor config.requirements fullAccess =
    .ok selection → selection.stateGeneration < u64Max →
      ∃ plan, planBackendTransition selection = .ok plan
  target : ∀ selection plan, selectBackendState sha config.copies config.anchor config.requirements
    fullAccess = .ok selection → planBackendTransition selection = .ok plan →
      plan.targetCopy < 2 ∧ selection.anchoredCopyMask ≠ 1 <<< plan.targetCopy

/-- What the phase says about the copies. -/
def Config.Ready (sha : Sha256) (config : Config) : Prop :=
  match config.phase with
  | .idle => ∃ index state, Anchored sha config.copies config.anchor index state
  | .planned plan => ∃ target kept state,
      Plans sha config.copies config.anchor config.requirements plan target kept state
  | .written plan state => ∃ target kept old,
      Plans sha config.copies config.anchor config.requirements plan target kept old ∧
        Commits sha plan (config.copies target) state

/-- What holds in every step of a run. -/
structure Running (sha : Sha256) (seen : State → Prop) (config : Config) : Prop where
  anchor : config.anchor = anchorFor sha config.current
  known : seen config.current
  record : config.current.Record
  flag : config.current.flags &&& stateFlagAuthenticatedBackend ≠ 0
  meets : config.anchor.Meets config.requirements
  copies : ∀ index state, (config.copies index).Holds sha state → seen state
  ready : config.Ready sha

end Machine

section Steps

variable {sha : Sha256} {seen : State → Prop} {start config next : Config}

variable {copy : BackendCopy} {state : State}

theorem BackendCopy.Holds.record (holds : copy.Holds sha state) : state.Record := by
  obtain ⟨_, -, parsed⟩ := holds
  exact parseState_record parsed

theorem BackendCopy.Holds.unique {first second : State} (one : copy.Holds sha first)
    (two : copy.Holds sha second) : first = second := by
  obtain ⟨bytes, present, parsed⟩ := one
  obtain ⟨other, present', parsed'⟩ := two
  rw [present] at present'
  obtain rfl := Option.some.inj present'
  rw [parsed] at parsed'
  exact Except.ok.inj parsed'

variable {copies : Copies} {anchor : MonotonicAnchor} {target : Fin 2}

/-- A copy stays anchored while the other one is written. -/
theorem Anchored.update {kept : Fin 2} (anchored : Anchored sha copies anchor kept state) (apart : kept ≠ target)
    (copy : BackendCopy) : Anchored sha (update copies target copy) anchor kept state := by
  have same : Function.update copies target copy kept = copies kept := update_of_ne apart ..
  exact { anchored with
    holds := by rw [same]; exact anchored.holds
    verified := by rw [same]; exact anchored.verified }

theorem Config.Ready.anchored (ready : config.Ready sha) :
    ∃ index state, Anchored sha config.copies config.anchor index state := by
  unfold Config.Ready at ready
  split at ready
  · exact ready
  · obtain ⟨_, kept, state, plans⟩ := ready
    exact ⟨kept, state, plans.spared⟩
  · obtain ⟨_, kept, state, plans, -⟩ := ready
    exact ⟨kept, state, plans.spared⟩

theorem Anchored.anchor_eq {index : Fin 2}
    {requirements : BackendRequirements} (anchored : Anchored sha copies anchor index state)
    (meets : anchor.Meets requirements) : anchor = anchorFor sha state := by
  unfold anchorFor
  rw [anchored.generation, anchored.epoch, anchored.profile, anchored.digest, anchored.previous, ← meets.authenticated]
  nth_rewrite 2 [meets.authenticated]
  rw [← meets.monotonic]

theorem Started.running (started : Started sha seen start) : Running sha seen start := by
  obtain ⟨idle, ⟨selection, _, ok, rfl, inside, found⟩, copies⟩ := started
  obtain ⟨meets, index, state, selects⟩ := selectBackendState_ok ok
  have anchored := selects.anchored
  have place : (⟨selection.selectedCopy, inside⟩ : Fin 2) = index := Fin.ext selects.copy
  rw [place] at found
  obtain rfl := anchored.holds.unique found
  refine ⟨anchored.anchor_eq meets, copies _ _ found, found.record, anchored.flag, meets, copies, ?_⟩
  unfold Config.Ready
  rw [idle]
  exact ⟨index, _, anchored⟩

/-- The anchor of a state that was written as planned meets the requirements of the plan. -/
theorem Commits.meets {requirements : BackendRequirements} {plan : BackendTransitionPlan} {kept : Fin 2} {old : State}
    (commits : Commits sha plan copy state) (meets : anchor.Meets requirements)
    (plans : Plans sha copies anchor requirements plan target kept old)
    (some : ¬ (logicalStateSha256 sha state).allZero) : (anchorFor sha state).Meets requirements := by
  have generation : state.stateGeneration = anchor.stateGeneration + 1 :=
    commits.generation.trans plans.generation
  have epoch : state.storeEpoch = requirements.targetStoreEpoch := commits.epoch.trans plans.epoch
  have profile : state.authProfile = requirements.targetAuthProfile := commits.profile.trans plans.profile
  have previous : state.previousStateSha256 = anchor.logicalStateSha256 :=
    commits.previous.trans plans.previous
  have positive := meets.generation
  have fresh := meets.freshGeneration
  exact { meets with
    authenticated := rfl
    monotonic := rfl
    generation := by change state.stateGeneration ≠ 0; omega
    epoch := by change state.storeEpoch ≠ 0; rw [epoch]; exact meets.targetEpoch
    profile := by change state.authProfile ≠ 0; rw [profile]; exact meets.targetProfile
    digest := some
    previous := by
      change state.stateGeneration = 1 ↔ state.previousStateSha256.allZero = true
      rw [previous]
      exact ⟨fun first => by omega, fun zero => absurd zero meets.digest⟩
    forward := by change state.storeEpoch ≤ _; rw [epoch]
    freshGeneration := by change _ ≤ state.stateGeneration; omega
    freshEpoch := by change _ ≤ state.storeEpoch; rw [epoch]; exact meets.reachable }

/-- The copy that was written is anchored when the anchor is advanced to it. -/
theorem Commits.anchored {plan : BackendTransitionPlan} (commits : Commits sha plan (copies target) state)
    (named : plan.targetCopy = target.val) : Anchored sha copies (anchorFor sha state) target state :=
  ⟨commits.holds, commits.copy.trans named, commits.verified, commits.flag, rfl, rfl, rfl, rfl, rfl⟩

theorem update_known (known : ∀ index state, (copies index).Holds sha state → seen state)
    (fits : ∀ state, copy.Holds sha state → seen state) (index : Fin 2) (state : State) :
    (update copies target copy index).Holds sha state → seen state := by
  by_cases same : index = target
  · rw [same, update_self]
    exact fits state
  · rw [update_of_ne same]
    exact known index state

theorem Running.step (running : Running sha seen config) (free : CollisionFree sha seen)
    (step : Step sha seen config next) : Running sha seen next := by
  have ready := running.ready
  unfold Config.Ready at ready
  cases step with
  | require requirements idle meets =>
    refine { running with meets, ready := ?_ }
    unfold Config.Ready
    rw [idle] at ready ⊢
    exact ready
  | plan selection plan idle selected planned =>
    obtain ⟨-, _, _, selects⟩ := selectBackendState_ok selected
    obtain ⟨target, kept, state, plans⟩ := planBackendTransition_ok selects planned
    exact { running with ready := ⟨target, kept, state, plans⟩ }
  | tear plan target copy planned named known =>
    rw [planned] at ready
    obtain ⟨target', kept, state, plans⟩ := ready
    obtain rfl : target' = target := Fin.ext (plans.copy.symm.trans named)
    refine { running with copies := update_known running.copies known, ready := ?_ }
    unfold Config.Ready
    dsimp only
    rw [planned]
    exact ⟨target', kept, state, { plans with spared := plans.spared.update plans.apart copy }⟩
  | write plan target copy state planned named commits known =>
    rw [planned] at ready
    obtain ⟨target', kept, old, plans⟩ := ready
    obtain rfl : target' = target := Fin.ext (plans.copy.symm.trans named)
    refine { running with copies := update_known running.copies ?_, ready := ?_ }
    · intro other holds
      rw [holds.unique commits.holds]
      exact known
    · refine ⟨target', kept, old, { plans with spared := plans.spared.update plans.apart copy }, ?_⟩
      dsimp only
      rw [update_self]
      exact commits
  | advance plan state written =>
    rw [written] at ready
    obtain ⟨target, kept, old, plans, commits⟩ := ready
    have known := running.copies target state commits.holds
    exact {
      anchor := rfl
      known
      record := commits.holds.record
      flag := commits.flag
      meets := commits.meets running.meets plans (free.some state known)
      copies := running.copies
      ready := ⟨target, state, commits.anchored plans.copy⟩ }
  | interrupt => exact { running with ready := running.ready.anchored }

/-- No step takes the anchor back. -/
theorem Running.step_mono (running : Running sha seen config) (step : Step sha seen config next) :
    config.current.stateGeneration ≤ next.current.stateGeneration ∧
      config.current.storeEpoch ≤ next.current.storeEpoch := by
  cases step with
  | advance plan state written =>
    have ready := running.ready
    unfold Config.Ready at ready
    rw [written] at ready
    obtain ⟨target, kept, old, plans, commits⟩ := ready
    have generation := commits.generation.trans plans.generation
    have epoch := commits.epoch.trans plans.epoch
    have forward := running.meets.forward
    rw [running.anchor] at generation forward
    change state.stateGeneration = config.current.stateGeneration + 1 at generation
    change config.current.storeEpoch ≤ _ at forward
    dsimp only
    omega
  | _ => exact ⟨le_rfl, le_rfl⟩

theorem Running.survives (running : Running sha seen config) (free : CollisionFree sha seen) : Survives sha config := by
  obtain ⟨index, state, anchored⟩ := running.ready.anchored
  constructor
  case anchor => exact running.anchor
  case selects => exact selectBackendState_some running.meets anchored
  case current =>
    intro selection ok
    obtain ⟨-, index, state, selects⟩ := selectBackendState_ok ok
    have named := selects.anchored
    have digest : logicalStateSha256 sha state = logicalStateSha256 sha config.current := by
      rw [named.digest, running.anchor]
      rfl
    have generation : state.stateGeneration = config.current.stateGeneration := by
      rw [named.generation, running.anchor]
      rfl
    have epoch : state.storeEpoch = config.current.storeEpoch := by
      rw [named.epoch, running.anchor]
      rfl
    have message := free.distinct _ _ (running.copies _ _ named.holds) running.known digest
    have flags : state.flags = config.current.flags :=
      (named.holds.record.flags named.flag).trans (running.record.flags running.flag).symm
    exact ⟨selects.generation.trans generation, selects.epoch.trans epoch, selects.digest.trans digest,
      index, state, selects.copy, named.holds,
      logicalMessage_inj named.holds.record running.record flags message⟩
  case plans =>
    intro selection ok room
    obtain ⟨-, _, _, selects⟩ := selectBackendState_ok ok
    rw [selects.generation, selects.anchored.generation] at room
    exact planBackendTransition_some running.meets selects room
  case target =>
    intro selection plan ok planned
    obtain ⟨-, _, _, selects⟩ := selectBackendState_ok ok
    exact planBackendTransition_target planned selects.copy

end Steps

section Runs

variable {sha : Sha256} {seen : State → Prop} {start middle last : Config}

theorem Running.run (running : Running sha seen start) (free : CollisionFree sha seen)
    (run : Relation.ReflTransGen (Step sha seen) start last) : Running sha seen last ∧
      start.current.stateGeneration ≤ last.current.stateGeneration ∧
      start.current.storeEpoch ≤ last.current.storeEpoch := by
  induction run with
  | refl => exact ⟨running, le_rfl, le_rfl⟩
  | tail _ step ih =>
    obtain ⟨generation, epoch⟩ := ih.1.step_mono step
    exact ⟨ih.1.step free step, ih.2.1.trans generation, ih.2.2.trans epoch⟩

/-- Every restart of a run finds the state that the anchor was last advanced to, and never an older
one. -/
theorem restarts_find_anchored_state (free : CollisionFree sha seen) (started : Started sha seen start)
    (run : Relation.ReflTransGen (Step sha seen) start middle)
    (rest : Relation.ReflTransGen (Step sha seen) middle last) : Survives sha middle ∧ Survives sha last ∧
      (last.current.Same middle.current ↔ last.anchor = middle.anchor) ∧
      middle.current.stateGeneration ≤ last.current.stateGeneration ∧
      middle.current.storeEpoch ≤ last.current.storeEpoch := by
  obtain ⟨first, -, -⟩ := started.running.run free run
  obtain ⟨second, generation, epoch⟩ := first.run free rest
  refine ⟨first.survives free, second.survives free, ?_, generation, epoch⟩
  rw [first.anchor, second.anchor]
  constructor
  · intro same
    unfold anchorFor logicalStateSha256
    rw [same.message, same.generation, same.epoch, same.profile, same.previous]
  · intro same
    have digest := congrArg MonotonicAnchor.logicalStateSha256 same
    have flags := (second.record.flags second.flag).trans (first.record.flags first.flag).symm
    exact logicalMessage_inj second.record first.record flags
      (free.distinct _ _ second.known first.known digest)

end Runs

section Sample

/-- The body of `state()` in the tests of the backend. -/
def sampleBody (copyIndex generation epoch : Nat) (previous : Bytes) : Bytes :=
  let word := Bytes.ofWord
  stateMagic ++ word 2 1 ++ word 2 0 ++ word 2 256 ++ word 2 6 ++ word 1 copyIndex ++ word 1 2 ++
    word 2 1 ++ word 2 1 ++ word 2 0 ++ word 8 generation ++ word 8 epoch ++ word 8 1 ++ word 8 1 ++
    word 8 1 ++ List.replicate 32 0x11 ++ List.replicate 32 0x22 ++ List.replicate 32 0x33 ++
    List.replicate 32 0x44 ++ previous

/-- The logical digest of the first state. -/
def sampleOld : Bytes := Bytes.ofWord 32 0x513bbd3ef175f9a9a0417ec4c40562b5a5c7c969cd4bcad8ae671d4255393e76

def noPrevious : Bytes := List.replicate 32 0

/-- What the record parses to. -/
def sampleState (copyIndex generation epoch : Nat) (previous body : Bytes) : State where
  flags := 6
  copyIndex
  authProfile := 1
  stateGeneration := generation
  storeEpoch := epoch
  minimumSecureVersion := 1
  acceptedManifestVersion := 1
  acceptedPolicyVersion := 1
  policySha256 := List.replicate 32 0x11
  manifestSha256 := List.replicate 32 0x22
  kernelSha256 := List.replicate 32 0x33
  retainedSetSha256 := List.replicate 32 0x44
  previousStateSha256 := previous
  bodySha256 := body
  raw := sampleBody copyIndex generation epoch previous ++ body

/-- The first state in both copies, and the second one in the second copy. -/
def firstState : State :=
  sampleState 0 1 1 noPrevious
    (Bytes.ofWord 32 0x42725ef04d6f7f98e36f6fc722fe9e79b487151eaa256157a958af2e7a6b643d)
def mirrorState : State :=
  sampleState 1 1 1 noPrevious
    (Bytes.ofWord 32 0x3cf6a7f686a29435ce621c0a303394e457f079738827efa288a6c86c1a79b2d)
def secondState : State :=
  sampleState 1 2 2 sampleOld
    (Bytes.ofWord 32 0x4d919a92a1c2e3a71f0085f423117c72b83b346ae7dced7594af2e48aac145e0)

/-- SHA-256 on the bodies and the messages of these states. -/
def sampleSha : Sha256 :=
  .ofTable [(sampleBody 0 1 1 noPrevious, Bytes.little firstState.bodySha256),
    (sampleBody 1 1 1 noPrevious, Bytes.little mirrorState.bodySha256),
    (sampleBody 1 2 2 sampleOld, Bytes.little secondState.bodySha256),
    (logicalMessage firstState, Bytes.little sampleOld),
    (logicalMessage secondState, 0xcb9c2939b9e7cc517036e88e5c02486186fd90bbeced54953421929020db0467)]

def sampleCopy (state : State) : BackendCopy := ⟨some state.raw, true⟩

/-- Both copies hold the first state, and the epoch is to be raised. -/
def sampleStart : Config where
  copies := ![sampleCopy firstState, sampleCopy mirrorState]
  anchor := anchorFor sampleSha firstState
  requirements := ⟨1, 1, 2, 1⟩
  phase := .idle
  current := firstState

/-- The second copy is to be written. -/
def samplePlan : BackendTransitionPlan where
  sourceCopy := 0
  targetCopy := 1
  nextGeneration := 2
  targetStoreEpoch := 2
  targetAuthProfile := 1
  previousStateSha256 := sampleOld
  orderedStepCount := 9
  stateWritesPerformed := 0
  anchorWritesPerformed := 0
  authorityGrants := 0

/-- The first write is torn, and the second one goes through. -/
def sampleTorn : Config :=
  { sampleStart with copies := update sampleStart.copies 1 ⟨some [0], false⟩ }

def sampleEnd : Config where
  copies := update sampleTorn.copies 1 (sampleCopy secondState)
  anchor := anchorFor sampleSha secondState
  requirements := ⟨1, 1, 2, 1⟩
  phase := .idle
  current := secondState

def sampleSeen (state : State) : Prop := state = firstState ∨ state = mirrorState ∨ state = secondState

theorem sample_parsed : ∀ state ∈ [firstState, mirrorState, secondState], (sampleCopy state).Holds sampleSha state := by
  have each : ∀ state ∈ [firstState, mirrorState, secondState], parseState sampleSha state.raw = .ok state := by
    decide +kernel
  exact fun state member => ⟨state.raw, rfl, each state member⟩

theorem sample_free : CollisionFree sampleSha sampleSeen := by
  have mirror : logicalMessage mirrorState = logicalMessage firstState := by decide +kernel
  have apart : logicalStateSha256 sampleSha firstState ≠ logicalStateSha256 sampleSha secondState := by
    decide +kernel
  constructor
  · rintro _ _ (rfl | rfl | rfl) (rfl | rfl | rfl) same
    · rfl
    · exact mirror.symm
    · exact absurd same apart
    · exact mirror
    · rfl
    · exact absurd same apart
    · exact absurd same.symm apart
    · exact absurd same.symm apart
    · rfl
  · have each : ∀ state ∈ [firstState, mirrorState, secondState],
        ¬ (logicalStateSha256 sampleSha state).allZero := by decide +kernel
    rintro _ (rfl | rfl | rfl)
    · exact each _ (by simp)
    · exact each _ (by simp)
    · exact each _ (by simp)

/-- A selection and its plan as one step. -/
theorem Step.select {sha : Sha256} {seen : State → Prop} {config : Config} {plan : BackendTransitionPlan}
    (idle : config.phase = .idle)
    (planned : (selectBackendState sha config.copies config.anchor config.requirements fullAccess >>=
      planBackendTransition) = .ok plan) : Step sha seen config { config with phase := .planned plan } := by
  obtain ⟨selection, selected, planned⟩ := bind_eq_ok planned
  exact .plan selection plan idle selected planned

theorem sample_started : Started sampleSha sampleSeen sampleStart where
  idle := rfl
  selected := by
    have found : ((selectBackendState sampleSha sampleStart.copies sampleStart.anchor
        sampleStart.requirements fullAccess).map BackendSelection.selectedCopy) = .ok 0 := by decide +kernel
    cases selected : selectBackendState sampleSha sampleStart.copies sampleStart.anchor
        sampleStart.requirements fullAccess with
    | error reason =>
      rw [selected] at found
      exact nomatch found
    | ok selection =>
      rw [selected] at found
      have held : (sampleStart.copies 0).Holds sampleSha firstState := sample_parsed firstState (by simp)
      exact ⟨selection, 0, rfl, Except.ok.inj found, by decide, held⟩
  copies := by
    intro index state holds
    match index with
    | 0 => exact .inl (holds.unique (sample_parsed firstState (by simp)))
    | 1 => exact .inr (.inl (holds.unique (sample_parsed mirrorState (by simp))))

theorem sample_planned : ∀ config ∈ [sampleStart, sampleTorn],
    (selectBackendState sampleSha config.copies config.anchor config.requirements fullAccess >>=
      planBackendTransition) = .ok samplePlan := by
  decide +kernel

theorem sample_torn : Relation.ReflTransGen (Step sampleSha sampleSeen) sampleStart sampleTorn := by
  refine .tail (.tail (.tail .refl (.select rfl (sample_planned sampleStart (by simp))))
    (.tear samplePlan 1 ⟨some [0], false⟩ rfl rfl ?_)) .interrupt
  rintro state ⟨bytes, present, parsed⟩
  obtain rfl := Option.some.inj present
  exact nomatch parsed

theorem sample_finished : Relation.ReflTransGen (Step sampleSha sampleSeen) sampleTorn sampleEnd := by
  refine .tail (.tail (.tail .refl (.select rfl (sample_planned sampleTorn (by simp))))
    (.write samplePlan 1 (sampleCopy secondState) secondState rfl rfl ?_ (.inr (.inr rfl))))
    (.advance samplePlan secondState rfl)
  exact ⟨sample_parsed secondState (by simp), rfl, by decide, rfl, rfl, rfl, rfl, rfl⟩

/-- An update to the second state, with a torn write and a restart on the way. -/
theorem sample_update_survives : Survives sampleSha sampleTorn ∧ Survives sampleSha sampleEnd ∧
      (sampleEnd.current.Same sampleTorn.current ↔ sampleEnd.anchor = sampleTorn.anchor) ∧
      sampleTorn.current.stateGeneration ≤ sampleEnd.current.stateGeneration ∧
      sampleTorn.current.storeEpoch ≤ sampleEnd.current.storeEpoch :=
  restarts_find_anchored_state sample_free sample_started sample_torn sample_finished

end Sample

end PooleOS.Trust
