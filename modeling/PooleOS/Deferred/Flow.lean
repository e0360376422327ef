import PooleOS.Deferred.Runs

/- How items move through the slots. Every call either picks one queued item or moves
items on, and the sequence that an item is given when it is queued stays with it. -/
namespace PooleOS.Deferred

open Op
open Function (update update_of_ne update_self)
open Controller

variable {s s' s'' : Controller} {index : Index}

/-- The slot still holds the same item. -/
structure SameItem (slot slot' : Slot) : Prop where
  generation : slot'.generation = slot.generation
  request : slot'.request = slot.request
  sequence : slot'.enqueueSequence = slot.enqueueSequence

/-- What a call that neither accepts nor picks an item does to a slot. -/
inductive SlotFlow (slot slot' : Slot) : Prop
  | same (equal : slot' = slot)
  | moved (live : slot.Live) (item : SameItem slot slot')
      (moves : slot'.state.Terminal ∨ slot.state = .running ∧ slot'.Live)
  | freed (dead : ¬ slot.Live) (grows : slot.generation ≤ slot'.generation) (free : slot'.state = .free)

/-- A call that neither accepts nor picks an item. -/
structure Flow (s s' : Controller) : Prop where
  clock : s.enqueueSequence ≤ s'.enqueueSequence
  slots : ∀ index, SlotFlow (s.slots index) (s'.slots index)
  bypass : s'.highBypass = s.highBypass

/-- A call that queues a new item in a free slot. -/
structure Admits (s s' : Controller) (index : Index) : Prop where
  free : (s.slots index).state = .free
  queued : (s'.slots index).state = .queued
  newer : (s.slots index).generation < (s'.slots index).generation
  others : ∀ other, other ≠ index → s'.slots other = s.slots other
  clock : s.enqueueSequence < s'.enqueueSequence
  stamped : (s'.slots index).enqueueSequence = s'.enqueueSequence
  bypass : s'.highBypass = s.highBypass

/-- A call that picks the queued item of one slot, and runs it or ends it. -/
structure Picks (s s' : Controller) (index : Index) : Prop where
  picked : s.selectNext.1 = some index
  others : ∀ other, other ≠ index → s'.slots other = s.slots other
  item : SameItem (s.slots index) (s'.slots index)
  moves : (s'.slots index).state = .running ∨ (s'.slots index).state.Terminal
  clock : s'.enqueueSequence = s.enqueueSequence
  bypass : s'.highBypass = s.selectNext.2.highBypass

theorem Flow.still (slots : s'.slots = s.slots) (clock : s.enqueueSequence ≤ s'.enqueueSequence)
    (bypass : s'.highBypass = s.highBypass) : Flow s s' :=
  ⟨clock, fun index => .same (by rw [slots]), bypass⟩

theorem Flow.refl (s : Controller) : Flow s s := Flow.still rfl le_rfl rfl

/-- One slot changes. -/
theorem Flow.of_rewrite {slot : Slot} (slots : s'.slots = update s.slots index slot)
    (clock : s.enqueueSequence ≤ s'.enqueueSequence) (bypass : s'.highBypass = s.highBypass)
    (flow : SlotFlow (s.slots index) slot) : Flow s s' := by
  refine ⟨clock, fun other => ?_, bypass⟩
  by_cases same : other = index
  · subst same
    rw [slots, update_self]
    exact flow
  · refine .same ?_
    rw [slots, update_of_ne same]

/-- Items that have ended leave their slots. -/
structure Sweeps (s s' : Controller) : Prop where
  slots : ∀ index, s'.slots index = s.slots index ∨
    (s.slots index).state.Terminal ∧ (s'.slots index).state = .free ∧
      (s'.slots index).generation = (s.slots index).generation
  clock : s'.enqueueSequence = s.enqueueSequence
  bypass : s'.highBypass = s.highBypass

theorem Sweeps.refl (s : Controller) : Sweeps s s := ⟨fun _ => .inl rfl, rfl, rfl⟩

theorem Sweeps.trans (first : Sweeps s s') (second : Sweeps s' s'') : Sweeps s s'' := by
  refine ⟨fun index => ?_, second.clock.trans first.clock, second.bypass.trans first.bypass⟩
  rcases second.slots index with same | ⟨ended, free, generation⟩
  · rw [same]
    exact first.slots index
  · rcases first.slots index with same | ⟨_, freed, _⟩
    · rw [same] at ended generation
      exact .inr ⟨ended, free, generation⟩
    · rw [freed] at ended
      exact absurd ended (by decide)

theorem not_live_of_terminal {slot : Slot} (ended : slot.state.Terminal) : ¬ slot.Live :=
  fun live => live.unended ended

theorem Sweeps.flow (sweeps : Sweeps s s') : Flow s s' := by
  refine ⟨sweeps.clock.ge, fun index => ?_, sweeps.bypass⟩
  rcases sweeps.slots index with same | ⟨ended, free, generation⟩
  · exact .same same
  · exact .freed (not_live_of_terminal ended) generation.ge free

/-- Items that are queued end, and items that run are told to stop. -/
structure Stops (s s' : Controller) : Prop where
  slots : ∀ index, s'.slots index = s.slots index ∨ (s.slots index).Live ∧
    SameItem (s.slots index) (s'.slots index) ∧
      ((s'.slots index).state.Terminal ∨ (s.slots index).state = .running ∧ (s'.slots index).state = .running)
  clock : s'.enqueueSequence = s.enqueueSequence
  bypass : s'.highBypass = s.highBypass

theorem SameItem.trans {one two three : Slot} (first : SameItem one two) (second : SameItem two three) :
    SameItem one three :=
  ⟨second.generation.trans first.generation, second.request.trans first.request, second.sequence.trans first.sequence⟩

theorem Stops.trans (first : Stops s s') (second : Stops s' s'') : Stops s s'' := by
  refine ⟨fun index => ?_, second.clock.trans first.clock, second.bypass.trans first.bypass⟩
  rcases first.slots index with same | ⟨live, item, moves⟩
  · rw [← same]
    exact second.slots index
  · rcases second.slots index with same | ⟨_, item', moves'⟩
    · rw [same]
      exact .inr ⟨live, item, moves⟩
    · refine .inr ⟨live, item.trans item', ?_⟩
      rcases moves' with ended | ⟨was, now⟩
      · exact .inl ended
      · rcases moves with ended | ⟨running, _⟩
        · rw [was] at ended
          exact absurd ended (by decide)
        · exact .inr ⟨running, now⟩

theorem Stops.flow (stops : Stops s s') : Flow s s' := by
  refine ⟨stops.clock.ge, fun index => ?_, stops.bypass⟩
  rcases stops.slots index with same | ⟨live, item, moves⟩
  · exact .same same
  · exact .moved live item (moves.imp (fun ended => ended) (fun both => ⟨both.1, .inr both.2⟩))

theorem selectNext_clock (s : Controller) : s.selectNext.2.enqueueSequence = s.enqueueSequence := by
  unfold selectNext
  split
  · split <;> rfl
  all_goals rfl

theorem validate_hidden {reason : Error} (failed : s.validate = .error reason) :
    reason = .counter ∨ reason = .invariant := by
  have slot : ∀ (running : Nat) (index : Index), Spec (s.validateSlot running index) (fun _ => True)
      (fun reason => reason = .counter ∨ reason = .invariant) := by
    intro running index
    have last : ∀ running : Nat, Spec (if ¬ ((s.slots index).state.Terminal ↔ (s.slots index).completionSequence ≠ 0)
          then Except.error Error.invariant
        else if ∃ other, index < other ∧ s.Holds (s.slots index).request other then .error .invariant
        else .ok running) (fun _ => True) (fun reason => reason = .counter ∨ reason = .invariant) := by
      intro running
      split
      · exact .inr rfl
      · split
        · exact .inr rfl
        · trivial
    unfold validateSlot
    dsimp only
    split
    · split <;> simp
    · split
      · exact .inr rfl
      · split
        · rw [spec_bind]
          refine spec_orError (fun running _ => ?_) (fun _ => .inl rfl)
          split
          · exact .inr rfl
          · exact last running
        · split
          · exact .inr rfl
          · exact last running
  have whole : Spec s.validate (fun _ => True) (fun reason => reason = .counter ∨ reason = .invariant) := by
    unfold validate
    rw [spec_bind]
    refine (spec_foldlM (fun _ _ => True) (fun index _ running _ => slot running index) _ 0 trivial).imp
      (fun _ _ => ?_)
    split
    · simp
    · split <;> simp
  exact whole.of_error failed

variable {failed : Error → Controller → Prop}

/-- A check changes nothing, and no error of it is published. -/
theorem wp_check_flow {done : Unit → Controller → Prop} (pass : done () s)
    (stop : ∀ reason, reason = .counter ∨ reason = .invariant → failed reason s) : wp check done failed s := by
  refine wp_lift_intro (fun _ _ => pass) (fun reason error => stop reason (validate_hidden error))

section Methods

variable (s)

theorem flow_enqueueInner (sound : Sound s) (request : WorkRequest) (context : TopHalfContext) (fault : FaultPoint) :
    wp (enqueueInner request context fault)
      (fun id s' => ∃ index, id = s'.id index ∧ (s'.slots index).request = request ∧ Admits s s' index)
      (fun reason s' => Visible reason → Flow s s') s := by
  unfold enqueueInner
  simp only [wp_bind, wp_read]
  refine wp_ensure_intro (fun _ => ?_) (fun _ visible => absurd visible (by decide))
  refine wp_ensure_intro (fun _ => ?_) (fun _ visible => absurd visible (by decide))
  refine wp_ensure_intro (fun _ => ?_) (fun _ visible => absurd visible (by decide))
  refine wp_ensure_intro (fun _ => ?_) (fun _ visible => absurd visible (by decide))
  refine wp_when_intro (fun _ => ?_) (fun _ => ?_)
  · unfold suppressDuplicate countDuplicate increment
    rw [wp_bind]
    refine wp_advance _ _ _ ?_ (absurd · (by decide))
    exact fun _ => Flow.still rfl le_rfl rfl
  refine wp_orError (fun index found => ?_) (fun _ visible => absurd visible (by decide))
  have free := firstFree_free found
  have dead : ¬ (s.slots index).Live := fun live => live.used free
  refine wp_ensure_intro (fun unwrapped => ?_) (fun _ visible => absurd visible (by decide))
  obtain ⟨next, _⟩ := nextGeneration (sound.consistent.fits index).bounded unwrapped
  rw [next]
  refine wp_when_intro (fun _ => ?_) (fun _ => ?_)
  · refine wp_rollbackFault index (fun _ => ?_) (absurd · (by decide))
    refine @Flow.of_rewrite _ _ index (Slot.emptied ((s.slots index).generation + 1)) ?_ le_rfl rfl
      (.freed dead (Nat.le_succ _) rfl)
    simp [setSlot]
  refine wp_advance _ _ _ ?_ (absurd · (by decide))
  refine wp_when_intro (fun _ => ?_) (fun _ => ?_)
  · refine wp_rollbackFault index (fun _ => ?_) (absurd · (by decide))
    refine @Flow.of_rewrite _ _ index (Slot.emptied ((s.slots index).generation + 1)) ?_ (Nat.le_succ _) rfl
      (.freed dead (Nat.le_succ _) rfl)
    simp [setSlot]
  refine wp_advance _ _ _ ?_ (absurd · (by decide))
  refine wp_check_flow ⟨index, rfl, ?_, free, ?_, ?_, fun other apart => ?_, Nat.lt_succ_self _, ?_, rfl⟩
    (fun reason hidden visible => ?_)
  · simp [setSlot]
  · simp [setSlot]
  · simp [setSlot]
  · simp [setSlot, update_of_ne apart]
  · simp [setSlot]
  · rcases hidden with rfl | rfl <;> exact absurd visible (by decide)

theorem flow_observeEoi : wp observeEoi (fun _ s' => Flow s s') (fun _ s' => s' = s) s := by
  unfold observeEoi
  simp only [wp_bind, wp_read, wp_pure]
  refine wp_ensure_intro (fun _ => ?_) (fun _ => rfl)
  exact wp_advance _ _ _ (Flow.still rfl le_rfl rfl) rfl

theorem flow_claimInner (worker : Nat) (permit : DispatchPermit) (fault : FaultPoint) :
    wp (claimInner worker permit fault)
      (fun id s' => ∃ index, id = s.id index ∧ Picks s s' index ∧ (s'.slots index).state = .running)
      (fun reason s' => reason = .faultInjected → Flow s s') s := by
  unfold claimInner
  simp only [wp_bind, wp_read]
  refine wp_ensure_intro (fun _ => ?_) (fun _ visible => absurd visible (by decide))
  refine wp_ensure_intro (fun _ => ?_) (fun _ visible => absurd visible (by decide))
  refine wp_ensure_intro (fun _ => ?_) (fun _ visible => absurd visible (by decide))
  refine wp_when_intro (fun _ => ?_) (fun _ => ?_)
  · unfold claimFault countRollback increment
    rw [wp_bind]
    refine wp_advance _ _ _ ?_ (absurd · (by decide))
    exact fun _ => Flow.still rfl le_rfl rfl
  refine wp_orError (fun index picked => ?_) (fun _ visible => absurd visible (by decide))
  have rests := selectNext_rests s
  have clock := selectNext_clock s
  refine wp_advance _ _ _ ?_ (absurd · (by decide))
  refine wp_check_flow ⟨index, ?_, ⟨picked, fun other apart => ?_, ?_, ?_, clock, rfl⟩, ?_⟩ (fun reason hidden visible => ?_)
  · simp [Controller.id, setSlot, rests.slots]
  · simp [setSlot, update_of_ne apart, rests.slots]
  · constructor <;> simp [setSlot, rests.slots]
  · simp [setSlot]
  · simp [setSlot]
  · rcases hidden with rfl | rfl <;> cases visible

/-- Only the item of one slot moves on. -/
structure Turns (s s' : Controller) (index : Index) (now : WorkState → Prop) : Prop where
  others : ∀ other, other ≠ index → s'.slots other = s.slots other
  item : SameItem (s.slots index) (s'.slots index)
  now : now (s'.slots index).state
  clock : s'.enqueueSequence = s.enqueueSequence
  bypass : s'.highBypass = s.highBypass

variable {s}

theorem Turns.flow {now : WorkState → Prop} (turns : Turns s s' index now) (live : (s.slots index).Live)
    (moves : (s'.slots index).state.Terminal ∨ (s.slots index).state = .running ∧ (s'.slots index).Live) :
    Flow s s' := by
  refine @Flow.of_rewrite _ _ index (s'.slots index) ?_ turns.clock.ge turns.bypass (.moved live turns.item moves)
  funext other
  by_cases same : other = index
  · rw [same, update_self]
  · rw [turns.others other same, update_of_ne same]

variable (s)

theorem turns_finishFault (index : Index) {done : Unit → Controller → Prop} : wp (finishFault index) done
      (fun reason s' => reason = .faultInjected → Turns s s' index (· = .queued)) s := by
  unfold finishFault modifySlot setActiveWorker countRollback increment
  simp only [wp_bind, wp_update, wp_fail]
  refine wp_advance _ _ _ ?_ (absurd · (by decide))
  refine wp_check_flow (fun _ => ⟨fun other apart => ?_, ?_, ?_, rfl, rfl⟩) (fun reason hidden visible => ?_)
  · simp [setSlot, update_of_ne apart]
  · constructor <;> simp [setSlot]
  · simp [setSlot]
  · rcases hidden with rfl | rfl <;> cases visible

theorem turns_finishCancelled (index : Index) :
    wp (finishCancelled index) (fun _ s' => Turns s s' index WorkState.Terminal)
      (fun reason s' => reason = .faultInjected → Turns s s' index (· = .queued)) s := by
  unfold finishCancelled settle advanceCompletionSequence countCancelled modifySlot setActiveWorker increment
  simp only [wp_bind, wp_read, wp_update, wp_pure]
  refine wp_advance _ _ _ ?_ (absurd · (by decide))
  refine wp_advance _ _ _ ?_ (absurd · (by decide))
  refine wp_check_flow ⟨fun other apart => ?_, ?_, ?_, rfl, rfl⟩ (fun reason hidden visible => ?_)
  · simp [setSlot, update_of_ne apart]
  · constructor <;> simp [setSlot]
  · simp [setSlot, WorkState.Terminal]
  · rcases hidden with rfl | rfl <;> cases visible

theorem turns_finishApplied (index : Index) :
    wp (finishApplied index) (fun _ s' => Turns s s' index WorkState.Terminal)
      (fun reason s' => reason = .faultInjected → Turns s s' index (· = .queued)) s := by
  unfold finishApplied settle advanceCompletionSequence countCompleted modifySlot setActiveWorker increment
  simp only [wp_bind, wp_read, wp_update, wp_pure]
  refine wp_apply (fun result sum xor fence _ => ?_) (absurd · (by decide))
  refine wp_advance _ _ _ ?_ (absurd · (by decide))
  refine wp_advance _ _ _ ?_ (absurd · (by decide))
  refine wp_check_flow ⟨fun other apart => ?_, ?_, ?_, rfl, rfl⟩ (fun reason hidden visible => ?_)
  · simp [setSlot, update_of_ne apart]
  · constructor <;> simp [setSlot]
  · simp [setSlot, WorkState.Terminal]
  · rcases hidden with rfl | rfl <;> cases visible

theorem turns_finishInner (worker : Nat) (id : WorkId) (fault : FaultPoint) : wp (finishInner worker id fault)
      (fun receipt s' => receipt.id = id ∧ ∃ index, id = s.id index ∧ (s.slots index).state = .running ∧
        Turns s s' index WorkState.Terminal)
      (fun reason s' => reason = .faultInjected → ∃ index, id = s.id index ∧ (s.slots index).state = .running ∧
        Turns s s' index (· = .queued)) s := by
  unfold finishInner
  simp only [wp_bind, wp_read]
  refine wp_resolve (fun index place alive => ?_) (absurd · (by decide))
  have named : id = s.id index := by
    cases id
    simp only [Controller.id, WorkId.mk.injEq]
    exact ⟨place, alive.2.symm⟩
  refine wp_ensure_intro (fun owned => ?_) (fun _ visible => absurd visible (by decide))
  have running : (s.slots index).state = .running := by
    by_contra idle
    exact owned (.inr (.inr idle))
  refine wp_when_intro (fun _ => ?_) (fun _ => ?_)
  · exact wp_mono (turns_finishFault s index) (fun _ _ done => done)
      (fun reason s' turns visible => ⟨index, named, running, turns visible⟩)
  · split <;> simp only [wp_bind, wp_read, wp_pure]
    · exact wp_mono (turns_finishCancelled s index) (fun _ _ turns => ⟨trivial, index, named, running, turns⟩)
        (fun reason s' turns visible => ⟨index, named, running, turns visible⟩)
    · exact wp_mono (turns_finishApplied s index) (fun _ _ turns => ⟨trivial, index, named, running, turns⟩)
        (fun reason s' turns visible => ⟨index, named, running, turns visible⟩)

theorem picks_dispatchOne (worker : Nat) (permit : DispatchPermit) :
    wp (dispatchOne worker permit) (fun receipt s' => ∃ index, receipt.id = s.id index ∧ Picks s s' index)
      (fun _ s' => s' = s) s := by
  refine wp_transact ?_
  rw [wp_bind]
  refine wp_mono (flow_claimInner s worker permit .none) ?_ (fun _ _ _ => rfl)
  rintro id s' ⟨index, rfl, picks, running⟩
  refine wp_mono (turns_finishInner s' worker (s.id index) .none) ?_ (fun _ _ _ => rfl)
  rintro receipt s'' ⟨named, other, same, _, turns⟩
  obtain rfl : index = other := Fin.ext (congrArg WorkId.slot same)
  refine ⟨index, named, picks.picked, fun other apart => ?_, picks.item.trans turns.item, .inr turns.now,
    turns.clock.trans picks.clock, turns.bypass.trans picks.bypass⟩
  rw [turns.others other apart, picks.others other apart]

theorem stops_completeCancel {index : Index} (queued : (s.slots index).state = .queued) :
    wp (completeCancel index) (fun _ s' => Stops s s') (fun _ _ => True) s := by
  unfold completeCancel advanceCompletionSequence countCancelled modifySlot increment
  simp only [wp_bind, wp_read, wp_update]
  refine wp_advance _ _ _ ?_ trivial
  refine wp_advance _ _ _ ⟨fun other => ?_, rfl, rfl⟩ trivial
  by_cases same : other = index
  · subst same
    refine .inr ⟨.inl queued, ?_, .inl ?_⟩
    · constructor <;> simp [setSlot]
    · simp [setSlot, WorkState.Terminal]
  · exact .inl (by simp [setSlot, update_of_ne same])

theorem stops_requestCancel {index : Index} (running : (s.slots index).state = .running) :
    wp (requestCancel index) (fun _ s' => Stops s s') (fun _ _ => True) s := by
  refine wp_advance _ _ _ ⟨fun other => ?_, rfl, rfl⟩ trivial
  by_cases same : other = index
  · subst same
    refine .inr ⟨.inr running, ?_, .inr ⟨running, ?_⟩⟩
    · constructor <;> simp [setSlot]
    · simpa [setSlot] using running
  · exact .inl (by simp [setSlot, update_of_ne same])

theorem stops_cancel (id : WorkId) : wp (cancel id) (fun _ s' => Stops s s') (fun _ s' => s' = s) s := by
  refine wp_transact ?_
  unfold cancelInner
  simp only [wp_bind, wp_read]
  refine wp_resolve (fun index _ _ => ?_) trivial
  split
  · rename_i queued
    rw [wp_bind]
    exact wp_mono (stops_completeCancel s queued) (fun _ s' stops => wp_check_flow stops (fun _ _ => trivial))
      (fun _ _ _ => trivial)
  · rename_i running
    rw [wp_bind]
    refine wp_ensure_intro (fun _ => ?_) (fun _ => trivial)
    rw [wp_bind]
    exact wp_mono (stops_requestCancel s running) (fun _ s' stops => wp_check_flow stops (fun _ _ => trivial))
      (fun _ _ _ => trivial)
  · trivial

theorem sweeps_retireInner (id : WorkId) (fault : FaultPoint) :
    wp (retireInner id fault) (fun _ s' => Sweeps s s') (fun reason s' => reason = .faultInjected → Sweeps s s') s := by
  unfold retireInner
  simp only [wp_bind, wp_read]
  refine wp_resolve (fun index _ _ => ?_) (absurd · (by decide))
  refine wp_ensure_intro (fun ended => ?_) (fun _ visible => absurd visible (by decide))
  refine wp_when_intro (fun _ => ?_) (fun _ => ?_)
  · unfold retireFault countRollback increment
    rw [wp_bind]
    refine wp_advance _ _ _ ?_ (absurd · (by decide))
    exact fun _ => ⟨fun _ => .inl rfl, rfl, rfl⟩
  refine wp_advance _ _ _ ?_ (absurd · (by decide))
  refine wp_check_flow ⟨fun other => ?_, rfl, rfl⟩ (fun reason hidden visible => ?_)
  · by_cases same : other = index
    · subst same
      refine .inr ⟨ended, ?_, ?_⟩ <;> simp [setSlot, Slot.emptied]
    · exact .inl (by simp [setSlot, update_of_ne same])
  · rcases hidden with rfl | rfl <;> cases visible

theorem sweeps_retireAllTerminalInner : wp retireAllTerminalInner (fun _ s' => Sweeps s s') (fun _ _ => True) s := by
  refine wp_foldlM (fun _ s' => Sweeps s s') ?_ (List.finRange 8) 0 s (Sweeps.refl s)
  intro retired index _ s' sweeps
  unfold retireTerminal
  rw [wp_bind, wp_read]
  split
  · rw [wp_bind]
    refine wp_mono (sweeps_retireInner s' (s'.id index) .none) ?_ (fun _ _ _ => trivial)
    exact fun _ s'' next => wp_orError (fun _ _ => sweeps.trans next) (fun _ => trivial)
  · exact sweeps

theorem stops_beginShutdown : wp beginShutdown (fun _ s' => Stops s s') (fun _ s' => s' = s) s := by
  refine wp_transact ?_
  simp only [wp_bind, wp_update, wp_pure]
  refine wp_mono (wp_foldlM (fun _ s' => Stops s s') ?_ (List.finRange 8) 0 _
    ⟨fun _ => .inl rfl, rfl, rfl⟩) (fun _ s' stops => wp_check_flow stops (fun _ _ => trivial))
    (fun _ _ (_ : True) => trivial)
  intro cancelled index _ s' stops
  unfold shutDownSlot
  rw [wp_bind, wp_read]
  dsimp only
  split
  · rename_i queued
    rw [wp_bind]
    refine wp_mono (stops_completeCancel s' queued) (fun _ s'' next => ?_) (fun _ _ _ => trivial)
    exact wp_orError (fun _ _ => stops.trans next) (fun _ => trivial)
  · split
    · rename_i busy
      rw [wp_bind]
      exact wp_mono (stops_requestCancel s' busy.1) (fun _ s'' next => stops.trans next) (fun _ _ _ => trivial)
    · exact stops

theorem sweeps_finishShutdown : wp finishShutdown (fun _ s' => Sweeps s s') (fun _ s' => s' = s) s := by
  refine wp_transact ?_
  simp only [wp_bind, wp_read]
  refine wp_ensure_intro (fun _ => ?_) (fun _ => trivial)
  refine wp_mono (sweeps_retireAllTerminalInner s) ?_ (fun _ _ _ => trivial)
  intro _ s' sweeps
  exact wp_check_flow ⟨sweeps.slots, sweeps.clock, sweeps.bypass⟩ (fun _ _ => trivial)

end Methods

/-- The item that a call accepts. -/
def accepted (s : Controller) : Call → Option WorkId
  | .enqueueFromTopHalf request context fault => ((enqueueFromTopHalf request context fault).run s).1.toOption
  | _ => none

/-- The item that a call claims, alone or together with finishing it. -/
def claimed (s : Controller) : Call → Option WorkId
  | .claimOne worker permit fault => ((claimOne worker permit fault).run s).1.toOption
  | .dispatchOne worker permit => ((dispatchOne worker permit).run s).1.toOption.map Receipt.id
  | _ => none

/-- What a call does to the items. -/
inductive Turn (s : Controller) (call : Call) : Prop
  | flow (refuses : accepted s call = none) (idle : claimed s call = none) (flow : Flow s (step s call))
  | admits (index : Index) (accepts : accepted s call = some ((step s call).id index)) (idle : claimed s call = none)
      (asks : ∃ context fault, call = .enqueueFromTopHalf ((step s call).slots index).request context fault)
      (admits : Admits s (step s call) index)
  | picks (index : Index) (refuses : accepted s call = none) (claims : claimed s call = some (s.id index))
      (picks : Picks s (step s call) index)

variable {α : Type} {done : α → Controller → Prop} {method : M α}

theorem flow_publish {visible : Error → Prop} [DecidablePred visible]
    (inner : wp method done (fun reason s' => visible reason → Flow s s') s) :
    wp (publish visible method) done (fun _ s' => Flow s s') s :=
  wp_publish (wp_mono inner (fun _ _ holds => holds) (fun _ _ holds => ⟨holds, fun _ => Flow.refl s⟩))

/-- A call leaves the state that its method leaves. -/
theorem step_eq {reply : α → Reply} {call : Call}
    (exec : call.exec = do return reply (← method)) : step s call = (method.run s).2 := by
  unfold step
  rw [exec, run_bind]
  rcases method.run s with ⟨_ | _, _⟩ <;> rfl

/-- A flow, whatever the method returns. -/
theorem flow_step {reply : α → Reply} {call : Call} (exec : call.exec = do return reply (← method))
    (holds : wp method (fun _ s' => Flow s s') (fun _ s' => Flow s s') s) : Flow s (step s call) := by
  rw [step_eq exec]
  exact wp_state.mp holds

/-- What holds of the result of a method holds of the result that a call passes on. -/
theorem of_toOption {value : α} (holds : wp method done failed s) (found : (method.run s).1.toOption = some value) :
    done value (method.run s).2 := by
  refine (wp_iff.mp holds).1 value ?_
  cases result : (method.run s).1 with
  | error reason =>
    rw [result] at found
    cases found
  | ok other =>
    rw [result] at found
    rw [Option.some.inj found]

/-- Otherwise the method has failed. -/
theorem of_toOption_none (holds : wp method done failed s) (missing : (method.run s).1.toOption = none)
    : ∃ reason, failed reason (method.run s).2 := by
  cases result : (method.run s).1 with
  | error reason => exact ⟨reason, (wp_iff.mp holds).2 reason result⟩
  | ok other =>
    rw [result] at missing
    cases missing

theorem turn (sound : Sound s) (call : Call) : Turn s call := by
  have same : ∀ s', s' = s → Flow s s' := fun s' same => same ▸ Flow.refl s
  cases call with
  | enqueueFromTopHalf request context fault =>
    have holds := flow_publish (flow_enqueueInner s sound request context fault)
    rcases found : accepted s (.enqueueFromTopHalf request context fault) with _ | value
    · obtain ⟨_, flow⟩ := of_toOption_none holds found
      exact .flow found rfl (by rw [step_eq rfl]; exact flow)
    · obtain ⟨index, rfl, asks, admits⟩ := of_toOption holds found
      refine .admits index (by rw [step_eq rfl]; exact found) rfl ⟨context, fault, ?_⟩ (by rw [step_eq rfl]; exact admits)
      rw [step_eq rfl]
      exact congrArg (Call.enqueueFromTopHalf · context fault) asks.symm
  | observeEoi =>
    exact .flow rfl rfl (flow_step rfl (wp_mono (flow_observeEoi s) (fun _ _ flow => flow) (fun _ => same)))
  | claimOne worker permit fault =>
    have holds := flow_publish (flow_claimInner s worker permit fault)
    rcases found : claimed s (.claimOne worker permit fault) with _ | value
    · obtain ⟨_, flow⟩ := of_toOption_none holds found
      exact .flow rfl found (by rw [step_eq rfl]; exact flow)
    · obtain ⟨index, rfl, picks, _⟩ := of_toOption holds found
      exact .picks index rfl found (by rw [step_eq rfl]; exact picks)
  | finishClaimed worker id fault =>
    refine .flow rfl rfl (flow_step rfl (flow_publish (wp_mono (turns_finishInner s worker id fault) ?_ ?_)))
    · rintro receipt s' ⟨_, index, _, running, turns⟩
      exact turns.flow (.inr running) (.inl turns.now)
    · intro reason s' queued visible
      obtain ⟨index, _, running, turns⟩ := queued visible
      exact turns.flow (.inr running) (.inr ⟨running, .inl turns.now⟩)
  | dispatchOne worker permit =>
    have holds := picks_dispatchOne s worker permit
    rcases found : claimed s (.dispatchOne worker permit) with _ | value
    · obtain ⟨_, unchanged⟩ := of_toOption_none holds (Option.map_eq_none_iff.mp found)
      exact .flow rfl found (by rw [step_eq rfl]; exact same _ unchanged)
    · obtain ⟨receipt, done, rfl⟩ := Option.map_eq_some_iff.mp found
      obtain ⟨index, named, picks⟩ := of_toOption holds done
      exact .picks index rfl (by rw [found, named]) (by rw [step_eq rfl]; exact picks)
  | cancel id =>
    exact .flow rfl rfl (@flow_step s _ (cancel id) (fun _ => .done) _ rfl (wp_mono (stops_cancel s id)
      (fun _ _ stops => stops.flow) (fun _ => same)))
  | retire id fault =>
    refine .flow rfl rfl (@flow_step s _ (retire id fault) (fun _ => .done) _ rfl
      (flow_publish (wp_mono (sweeps_retireInner s id fault) ?_ ?_)))
    · exact fun _ _ sweeps => sweeps.flow
    · exact fun _ _ sweeps visible => (sweeps visible).flow
  | retireAllTerminal =>
    exact .flow rfl rfl (flow_step rfl (wp_transact (wp_mono (sweeps_retireAllTerminalInner s)
      (fun _ _ sweeps => sweeps.flow) (fun _ _ _ => Flow.refl s))))
  | beginShutdown =>
    exact .flow rfl rfl (flow_step rfl (wp_mono (stops_beginShutdown s) (fun _ _ stops => stops.flow) (fun _ => same)))
  | finishShutdown =>
    exact .flow rfl rfl (flow_step rfl (wp_mono (sweeps_finishShutdown s) (fun _ _ sweeps => sweeps.flow)
      (fun _ => same)))

end PooleOS.Deferred
