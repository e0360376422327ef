import PooleOS.Deferred.Ops

/- Whole runs. Each call is an outcome: it keeps the invariant and the account,
and the lanes receive the operations of exactly the items that it completes. -/
namespace PooleOS.Deferred

open Op
open List
open Controller

variable {s s' s'' : Controller} {call : Call}

/-- The item in the slot is completed now, and was not before. -/
def Reaches (s s' : Controller) (index : Index) : Prop :=
  Done s' index (s'.slots index).generation ∧ ¬ Done s index (s'.slots index).generation

instance (s s' : Controller) (index : Index) : Decidable (Reaches s s' index) :=
  inferInstanceAs (Decidable (_ ∧ _))

/-- The items that a step completes, with their operations. -/
def reached (s s' : Controller) : List (WorkId × Operation) :=
  ((List.finRange 8).filter (fun index => Reaches s s' index)).map
    (fun index => (s'.id index, (s'.slots index).request.operation))

/-- The items that a run completes, in order. -/
def completions (s : Controller) : List Call → List (WorkId × Operation)
  | [] => []
  | call :: rest => reached s (step s call) ++ completions (step s call) rest

def operations (items : List (WorkId × Operation)) : List Operation := items.map Prod.snd

/-- What a call has done, whatever it returned. -/
structure Outcome (s s' : Controller) : Prop where
  sound : Sound s'
  ages : Ages s s'
  completed : s'.completed = s.completed + (reached s s').length
  lanes : lanes s' = (operations (reached s s')).foldl credit (lanes s)

theorem reached_nil (fewer : ∀ index generation, Done s' index generation → Done s index generation) :
    reached s s' = [] := by
  unfold reached
  rw [map_eq_nil_iff, filter_eq_nil_iff]
  intro index _
  rw [decide_eq_true_iff]
  exact fun reaches => reaches.2 (fewer _ _ reaches.1)

theorem reached_singleton {index : Index} (only : ∀ other, Reaches s s' other ↔ other = index) :
    reached s s' = [(s'.id index, (s'.slots index).request.operation)] := by
  unfold reached
  rw [filter_finRange_singleton only, map_singleton]

theorem Plain.outcome (plain : Plain s s') : Outcome s s' := by
  have none := reached_nil plain.fewer
  refine ⟨plain.sound, plain.ages, ?_, ?_⟩
  · rw [none]
    exact plain.completed
  · rw [none]
    exact plain.lanes

/-- Completing one item, after steps that leave the completed ones alone. -/
theorem Completes.outcome {index : Index} (completes : Completes s' s'' index) (plain : Plain s s')
    (kept : ∀ other generation, Done s other generation → Done s' other generation) : Outcome s s'' := by
  have fresh : ∀ generation, ¬ Done s index generation := by
    intro generation done
    have completed := (kept index generation done).1
    rw [completes.running] at completed
    cases completed
  have only : ∀ other, Reaches s s'' other ↔ other = index := by
    intro other
    constructor
    · rintro ⟨done, new⟩
      rcases (completes.done other _).mp done with old | ⟨same, _⟩
      · exact absurd (plain.fewer _ _ old) new
      · exact same
    · rintro rfl
      exact ⟨(completes.done other _).mpr (.inr ⟨rfl, completes.generation⟩), fresh _⟩
  have one := reached_singleton only
  refine ⟨completes.sound, plain.ages.trans completes.ages, ?_, ?_⟩
  · rw [one, completes.completed, plain.completed]
    rfl
  · have before : Deferred.lanes s' = Deferred.lanes s := plain.lanes
    rw [one, completes.lanes, completes.request, before]
    rfl

theorem Finishes.outcome (finishes : Finishes s' s'') (plain : Plain s s')
    (kept : ∀ other generation, Done s other generation → Done s' other generation) : Outcome s s'' := by
  rcases finishes with settled | ⟨index, completes⟩
  · exact (plain.trans settled).outcome
  · exact completes.outcome plain kept

/-- A failed call changes nothing, unless its error is one of the published ones. -/
def Refused (s : Controller) (reason : Error) (s' : Controller) : Prop :=
  Outcome s s' ∧ (¬ Visible reason → s' = s)

theorem Refused.unchanged (sound : Sound s) (reason : Error) : Refused s reason s :=
  ⟨(Plain.refl sound).outcome, fun _ => rfl⟩

theorem wp_publish_outcome {α : Type} {visible : Error → Prop} [DecidablePred visible]
    {method : M α} (sound : Sound s) (published : ∀ reason, visible reason → Visible reason)
    (inner : wp method (fun _ s' => Outcome s s') (fun reason s' => visible reason → Plain s s') s) :
    wp (publish visible method) (fun _ s' => Outcome s s') (Refused s) s := by
  refine wp_publish (wp_mono inner (fun _ _ outcome => outcome) (fun reason s' plain => ?_))
  exact ⟨fun shown => ⟨(plain shown).outcome, fun hidden => absurd (published reason shown) hidden⟩,
    fun _ => Refused.unchanged sound reason⟩

theorem wp_dispatchOne (sound : Sound s) (worker : Nat) (permit : DispatchPermit) :
    wp (dispatchOne worker permit) (fun _ s' => Outcome s s') (fun _ s' => s' = s) s := by
  refine wp_transact ?_
  rw [wp_bind]
  refine wp_mono (wp_claimInner sound worker permit .none) ?_ (fun _ _ _ => rfl)
  intro id s' claims
  refine wp_mono (wp_finishInner claims.sound worker id .none) ?_ (fun _ _ _ => rfl)
  exact fun _ s'' finishes => finishes.outcome claims.toPlain claims.kept

theorem wp_exec (sound : Sound s) (call : Call) : wp call.exec (fun _ s' => Outcome s s') (Refused s) s := by
  have same : ∀ reason s', s' = s → Refused s reason s' := by
    rintro reason _ rfl
    exact Refused.unchanged sound reason
  have injected : ∀ reason, reason = .faultInjected → Visible reason := fun _ => .inr
  cases call with
  | enqueueFromTopHalf request context fault =>
    unfold Call.exec enqueueFromTopHalf
    simp only [wp_bind, wp_pure]
    exact wp_publish_outcome sound (fun _ shown => shown) (wp_mono
      (wp_enqueueInner sound request context fault) (fun _ _ plain => plain.outcome)
      (fun _ _ plain => plain))
  | observeEoi =>
    simp only [Call.exec, wp_bind, wp_pure]
    exact wp_mono (wp_observeEoi sound) (fun _ _ plain => plain.outcome) same
  | claimOne worker permit fault =>
    unfold Call.exec claimOne
    simp only [wp_bind, wp_pure]
    exact wp_publish_outcome sound injected (wp_mono (wp_claimInner sound worker permit fault)
      (fun _ _ claims => claims.toPlain.outcome) (fun _ _ plain => plain))
  | finishClaimed worker id fault =>
    unfold Call.exec finishClaimed
    simp only [wp_bind, wp_pure]
    exact wp_publish_outcome sound injected (wp_mono (wp_finishInner sound worker id fault)
      (fun _ _ finishes => finishes.outcome (Plain.refl sound) (fun _ _ done => done))
      (fun _ _ plain => plain))
  | dispatchOne worker permit =>
    simp only [Call.exec, wp_bind, wp_pure]
    exact wp_mono (wp_dispatchOne sound worker permit) (fun _ _ outcome => outcome) same
  | cancel id =>
    unfold Call.exec cancel
    simp only [wp_bind, wp_pure]
    exact wp_transact (wp_mono (wp_cancelInner sound id) (fun _ _ plain => plain.outcome)
      (fun reason _ _ => same reason s rfl))
  | retire id fault =>
    unfold Call.exec retire
    simp only [wp_bind, wp_pure]
    exact wp_publish_outcome sound injected (wp_mono (wp_retireInner sound id fault)
      (fun _ _ retired => retired.1.outcome) (fun _ _ plain => plain))
  | retireAllTerminal =>
    unfold Call.exec retireAllTerminal
    simp only [wp_bind, wp_pure]
    exact wp_transact (wp_mono (wp_retireAllTerminalInner sound)
      (fun _ _ swept => swept.1.outcome) (fun reason _ _ => same reason s rfl))
  | beginShutdown =>
    simp only [Call.exec, wp_bind, wp_pure]
    exact wp_mono (wp_beginShutdown sound) (fun _ _ plain => plain.outcome) same
  | finishShutdown =>
    simp only [Call.exec, wp_bind, wp_pure]
    exact wp_mono (wp_finishShutdown sound) (fun _ _ plain => plain.outcome) same

theorem step_outcome (sound : Sound s) (call : Call) : Outcome s (step s call) :=
  wp_state.mp (wp_mono (wp_exec sound call) (fun _ _ outcome => outcome) (fun _ _ refused => refused.1))

theorem run_sound (calls : List Call) : Sound (run Controller.new calls) := by
  have keeps : ∀ s call, Sound s → Sound (step s call) :=
    fun _ call sound => (step_outcome sound call).sound
  exact foldl_invariant keeps calls _ new_sound

theorem run_ages (sound : Sound s) (calls : List Call) : Ages s (run s calls) := by
  induction calls generalizing s with
  | nil => exact Ages.still rfl
  | cons call rest ih =>
    have outcome := step_outcome sound call
    exact outcome.ages.trans (ih outcome.sound)

theorem run_lanes (sound : Sound s) (calls : List Call) :
    (run s calls).completed = s.completed + (completions s calls).length ∧
      lanes (run s calls) = (operations (completions s calls)).foldl credit (lanes s) := by
  induction calls generalizing s with
  | nil => exact ⟨rfl, rfl⟩
  | cons call rest ih =>
    have outcome := step_outcome sound call
    obtain ⟨counted, credited⟩ := ih outcome.sound
    constructor
    · change (run (step s call) rest).completed = _
      rw [counted, outcome.completed, completions, length_append]
      omega
    · change lanes (run (step s call) rest) = _
      rw [credited, outcome.lanes, completions, operations, operations, operations, map_append, foldl_append]

theorem run_append (s : Controller) (first second : List Call) :
    run s (first ++ second) = run (run s first) second := foldl_append

/-- The recorded items are old, and those still in their slots are completed there. -/
def Recorded (s : Controller) (ids : List WorkId) : Prop :=
  ∀ index : Index, ∀ generation, (⟨index.val, generation⟩ : WorkId) ∈ ids →
    generation ≤ (s.slots index).generation ∧ (Alive s index generation → Done s index generation)

theorem mem_reached {id : WorkId} (member : id ∈ (reached s s').map Prod.fst) :
    ∃ index, Reaches s s' index ∧ id = s'.id index := by
  simp only [reached, map_map, mem_map, mem_filter, decide_eq_true_eq] at member
  obtain ⟨index, ⟨_, reaches⟩, same⟩ := member
  exact ⟨index, reaches, same.symm⟩

theorem nodup_reached (s s' : Controller) : ((reached s s').map Prod.fst).Nodup := by
  unfold reached
  rw [map_map]
  refine ((nodup_finRange 8).filter _).map_on (fun one _ two _ same => ?_)
  exact Fin.ext (congrArg WorkId.slot same)

theorem Recorded.step {ids : List WorkId} (recorded : Recorded s ids) (outcome : Outcome s s') :
    Recorded s' (ids ++ (reached s s').map Prod.fst) ∧ ∀ id ∈ ids, id ∉ (reached s s').map Prod.fst := by
  constructor
  · intro index generation member
    rcases mem_append.mp member with old | new
    · obtain ⟨bound, completed⟩ := recorded index generation old
      refine ⟨bound.trans (outcome.ages.grows index), fun alive => ?_⟩
      rcases outcome.ages.fresh index generation alive with before | newer
      · exact outcome.ages.lasting index generation (completed before) alive
      · omega
    · obtain ⟨other, reaches, same⟩ := mem_reached new
      obtain rfl : index = other := Fin.ext (congrArg WorkId.slot same)
      obtain rfl : generation = (s'.slots index).generation := congrArg WorkId.generation same
      exact ⟨le_rfl, fun _ => reaches.1⟩
  · intro id old new
    obtain ⟨index, reaches, rfl⟩ := mem_reached new
    obtain ⟨bound, completed⟩ := recorded index _ old
    rcases outcome.ages.fresh index _ reaches.1.alive with before | newer
    · exact reaches.2 (completed before)
    · omega

theorem nodup_completions (sound : Sound s) (calls : List Call) {ids : List WorkId} (recorded : Recorded s ids)
    (distinct : ids.Nodup) : (ids ++ (completions s calls).map Prod.fst).Nodup := by
  induction calls generalizing s ids with
  | nil => simpa [completions] using distinct
  | cons call rest ih =>
    have outcome := step_outcome sound call
    obtain ⟨next, apart⟩ := recorded.step outcome
    have grown : (ids ++ (reached s (step s call)).map Prod.fst).Nodup :=
      nodup_append.mpr ⟨distinct, nodup_reached _ _, fun id old other new same =>
        apart id old (same ▸ new)⟩
    have whole := ih outcome.sound next grown
    rw [completions, map_append, ← append_assoc]
    exact whole

/-- The values of the operations of one lane. -/
def addends (operations : List Operation) : List Nat :=
  operations.filterMap (fun | .add value => some value | _ => none)

def masks (operations : List Operation) : List Nat :=
  operations.filterMap (fun | .xor value => some value | _ => none)

def fences (operations : List Operation) : List Nat :=
  operations.filterMap (fun | .fence value => some value | _ => none)

/-- The lanes take up the operations one by one. -/
theorem foldl_credit (operations : List Operation) (sum xor fence : Nat) : operations.foldl credit (sum, xor, fence) =
      (sum + (addends operations).sum, (masks operations).foldl (· ^^^ ·) xor, fence + (fences operations).sum) := by
  induction operations generalizing sum xor fence with
  | nil => rfl
  | cons operation rest ih =>
    cases operation with
    | add value =>
      rw [foldl_cons, credit, ih]
      simp [addends, masks, fences, Nat.add_assoc]
    | xor value =>
      rw [foldl_cons, credit, ih]
      simp [addends, masks, fences]
    | fence value =>
      rw [foldl_cons, credit, ih]
      simp [addends, masks, fences, Nat.add_assoc]

/-- The call takes the ended item with this id out of its slot. -/
def Retires (s : Controller) (call : Call) (id : WorkId) : Prop :=
  ∃ index : Index, id = s.id index ∧ (s.slots index).state.Terminal ∧
    ((step s call).slots index).state = .free

/-- Every method that takes an id refuses this one. -/
def Stale (s : Controller) (id : WorkId) : Prop :=
  (∀ worker fault, (finishClaimed worker id fault).run s = (.error .staleId, s)) ∧
    (cancel id).run s = (.error .staleId, s) ∧
    (∀ fault, (retire id fault).run s = (.error .staleId, s)) ∧
    (request id).run s = (.error .staleId, s)

theorem stale_of_not_alive {index : Index} {generation : Nat} (gone : ¬ Alive s index generation) :
    Stale s ⟨index.val, generation⟩ := by
  have unresolved : s.resolve ⟨index.val, generation⟩ = .error .staleId := by
    have either : (s.slots index).state = .free ∨ (s.slots index).generation ≠ generation := by
      by_contra held
      rw [not_or, not_not] at held
      exact gone held
    unfold Controller.resolve
    rw [dif_pos index.isLt, if_pos either]
  have refused : (resolve ⟨index.val, generation⟩).run s = (.error .staleId, s) := by
    unfold resolve
    rw [run_bind_ok s (run_read s), run_lift, unresolved]
  refine ⟨fun worker fault => ?_, ?_, fun fault => ?_, run_bind_error s refused⟩
  · have inner : (finishInner worker ⟨index.val, generation⟩ fault).run s = (.error .staleId, s) :=
      run_bind_error s refused
    simp [finishClaimed, publish, inner]
  · have inner : (cancelInner ⟨index.val, generation⟩).run s = (.error .staleId, s) :=
      run_bind_error s refused
    simp [cancel, transact, inner]
  · have inner : (retireInner ⟨index.val, generation⟩ fault).run s = (.error .staleId, s) :=
      run_bind_error s refused
    simp [retire, publish, inner]

theorem stale_after_retire (sound : Sound s) {id : WorkId} (retires : Retires s call id)
    (calls : List Call) : Stale (run (step s call) calls) id := by
  obtain ⟨index, rfl, _, free⟩ := retires
  have outcome := step_outcome sound call
  have later := run_ages outcome.sound calls
  refine stale_of_not_alive (fun alive => ?_)
  rcases later.fresh index _ alive with before | newer
  · exact before.1 free
  · have grown := outcome.ages.grows index
    omega

/-- An accepted `retire` retires its item. -/
theorem retire_retires (sound : Sound s) {id : WorkId} {fault : FaultPoint}
    (accepted : ((retire id fault).run s).1 = .ok ()) : Retires s (.retire id fault) id := by
  have holds : wp (retire id fault) (fun _ s' => ∃ index, id = s.id index ∧
      (s.slots index).state.Terminal ∧ (s'.slots index).state = .free) (fun _ _ => True) s := by
    refine wp_publish (wp_mono (wp_retireInner sound id fault) ?_
      (fun _ _ _ => ⟨fun _ => trivial, fun _ => trivial⟩))
    rintro _ s' ⟨_, index, named, ended, frees⟩
    exact ⟨index, named, ended, frees.free⟩
  have done := (wp_iff.mp holds).1 () accepted
  have same : step s (.retire id fault) = ((retire id fault).run s).2 := by
    unfold step Call.exec
    rcases run : (retire id fault).run s with ⟨reason | value, s'⟩
    · rw [run_bind_error s run]
    · rw [run_bind_ok s run, run_pure]
  unfold Retires
  rw [same]
  exact done

/-- Conservation of deferred work along every run. -/
theorem run_conserves (calls : List Call) :
    let s := run Controller.new calls
    let items := completions Controller.new calls
    (s.enqueued = s.completed + s.cancelled + live s ∧ s.completed + s.cancelled = s.retired + ended s) ∧
    (s.sumLane = (addends (operations items)).sum ∧ s.xorLane = (masks (operations items)).foldl (· ^^^ ·) 0 ∧
      s.fenceLane = (fences (operations items)).sum ∧
      s.completed = items.length ∧ (items.map Prod.fst).Nodup) ∧
    (∀ before call after id, calls = before ++ call :: after →
      Retires (run Controller.new before) call id → Stale s id) ∧
    (∀ id fault, ((retire id fault).run s).1 = .ok () → Retires s (.retire id fault) id) ∧
    s.validate = .ok () ∧
    (∀ call reason, (call.exec.run s).1 = .error reason → reason ≠ .duplicate →
      reason ≠ .faultInjected → step s call = s) := by
  have sound := run_sound calls
  obtain ⟨counted, credited⟩ := run_lanes new_sound calls
  refine ⟨⟨sound.balanced.enqueued, sound.balanced.retired⟩, ?_, ?_,
    fun _ _ accepted => retire_retires sound accepted, validate_ok sound.consistent, ?_⟩
  · have lanes := credited.trans (foldl_credit _ 0 0 0)
    simp only [Deferred.lanes, Prod.mk.injEq, Nat.zero_add] at lanes
    have once : ([] ++ (completions Controller.new calls).map Prod.fst).Nodup :=
      nodup_completions new_sound calls (fun _ _ member => nomatch member)
        nodup_nil
    exact ⟨lanes.1, lanes.2.1, lanes.2.2, counted.trans (Nat.zero_add _), once⟩
  · rintro before call after id rfl retires
    rw [run_append]
    exact stale_after_retire (run_sound before) retires after
  · intro call reason failed single double
    have refused := (wp_iff.mp (wp_exec sound call)).2 reason failed
    exact refused.2 (by rintro (same | same) <;> contradiction)

end PooleOS.Deferred
