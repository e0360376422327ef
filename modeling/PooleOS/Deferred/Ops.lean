import PooleOS.Deferred.Steps

/- The methods that end items: finishing one, which alone can complete it, and
cancelling, retiring and shutting down. -/
namespace PooleOS.Deferred

open Op
open List
open Controller

variable {s s' s'' : Controller}

def lanes (s : Controller) : Nat × Nat × Nat := (s.sumLane, s.xorLane, s.fenceLane)

/-- What one operation does to the lanes. -/
def credit (lanes : Nat × Nat × Nat) : Operation → Nat × Nat × Nat
  | .add value => (lanes.1 + value, lanes.2.1, lanes.2.2)
  | .xor value => (lanes.1, lanes.2.1 ^^^ value, lanes.2.2)
  | .fence value => (lanes.1, lanes.2.1, lanes.2.2 + value)

/-- The step completes the item of one slot, and its operation reaches the lanes. -/
structure Completes (s s' : Controller) (index : Index) : Prop where
  sound : Sound s'
  ages : Ages s s'
  completed : s'.completed = s.completed + 1
  lanes : lanes s' = credit (lanes s) (s.slots index).request.operation
  running : (s.slots index).state = .running
  request : (s'.slots index).request = (s.slots index).request
  generation : (s'.slots index).generation = (s.slots index).generation
  done : ∀ other generation, Done s' other generation ↔
    Done s other generation ∨ other = index ∧ generation = (s.slots index).generation

variable {index : Index}

/-- The running item is completed. -/
theorem completes_finish (sound : Sound s) {result : Nat}
    (running : (s.slots index).state = .running)
    (change : Rewrites s s' index { s.slots index with
      state := .completed, owner := u8Max, completionSequence := s.completionSequence + 1,
      result := result })
    (active : s'.activeWorker = u8Max)
    (counts : (s'.enqueued, s'.completed, s'.cancelled, s'.retired) =
      (s.enqueued, s.completed + 1, s.cancelled, s.retired))
    (credited : lanes s' = credit (lanes s) (s.slots index).request.operation) :
    Completes s s' index := by
  simp only [Prod.mk.injEq] at counts
  have live : (s.slots index).Live := .inr running
  have fits := (sound.consistent.fits index).finish live (.inl rfl) s.completionSequence result
  have worked := change.worked_stop sound.consistent.worked running (by simp) active
  refine ⟨⟨change.consistent sound.consistent fits worked (fun _ other holds => ?_)
      (fun _ => sound.consistent.opened live.used), change.balanced sound.balanced ?_ ?_⟩,
    change.ages le_rfl (fun _ => .inl live.used) (fun done => ?_), counts.2.1, credited, running,
    ?_, ?_, ?_⟩
  · exact sound.consistent.distinct index other live.used holds
  · rw [if_pos live, counts.1, counts.2.1, counts.2.2.1]
    simp [Slot.Live]
    omega
  · rw [if_neg live.unended, counts.2.1, counts.2.2.1, counts.2.2.2]
    simp [WorkState.Terminal]
    omega
  · rw [running] at done
    cases done
  · rw [change.self]
  · rw [change.self]
  · intro other generation
    unfold Done
    by_cases same : other = index
    · subst same
      rw [change.self]
      simp [running, eq_comm]
    · rw [change.other same]
      simp [same]

/-- A finished item is completed, or was cancelled while it ran. -/
def Finishes (s s' : Controller) : Prop := Plain s s' ∨ ∃ index, Completes s s' index

section Rules

variable {done : Nat → Controller → Prop} {failed : Error → Controller → Prop}

/-- The operand does not fit its lane. -/
def Overruns (lanes : Nat × Nat × Nat) : Operation → Prop
  | .add value => u32Values ≤ lanes.1 + value
  | .xor _ => False
  | .fence value => u32Values ≤ lanes.2.2 + value

/-- An operation is applied unless it does not fit its lane. -/
theorem wp_apply_room {operation : Operation}
    (pass : ∀ result sum xor fence, ¬ Overruns (lanes s) operation → (sum, xor, fence) = credit (lanes s) operation →
      done result { s with sumLane := sum, xorLane := xor, fenceLane := fence })
    (stop : Overruns (lanes s) operation → failed .counter s) : wp (apply operation) done failed s := by
  cases operation with
  | add value =>
    simp only [apply, wp_bind, wp_read, wp_update, wp_pure]
    refine wp_orError (fun lane sum => ?_) (fun none => stop (checkedAdd_eq_none.mp none))
    obtain ⟨room, rfl⟩ := checkedAdd_eq_some.mp sum
    exact pass _ _ _ _ (Nat.not_le.mpr room) rfl
  | xor value => exact pass _ _ _ _ (fun impossible => impossible) rfl
  | fence value =>
    simp only [apply, wp_bind, wp_read, wp_update, wp_pure]
    refine wp_orError (fun lane sum => ?_) (fun none => stop (checkedAdd_eq_none.mp none))
    obtain ⟨room, rfl⟩ := checkedAdd_eq_some.mp sum
    exact pass _ _ _ _ (Nat.not_le.mpr room) rfl

/-- An operation changes its lane and nothing else. -/
theorem wp_apply {operation : Operation} (pass : ∀ result sum xor fence, (sum, xor, fence) = credit (lanes s) operation →
      done result { s with sumLane := sum, xorLane := xor, fenceLane := fence })
    (stop : failed .counter s) : wp (apply operation) done failed s :=
  wp_apply_room (fun result sum xor fence _ => pass result sum xor fence) fun _ => stop

end Rules

variable {failed : Error → Controller → Prop}

theorem wp_check_finishes {s₀ : Controller}
    (finishes : Finishes s s₀) : wp check (fun _ => Finishes s) failed s₀ := by
  refine wp_check ?_ finishes
  rcases finishes with plain | ⟨_, completes⟩
  · exact plain.sound.consistent
  · exact completes.sound.consistent

/-- The running item is put back into the queue. -/
theorem plain_requeue (sound : Sound s) (running : (s.slots index).state = .running)
    (change : Rewrites s s' index { s.slots index with state := .queued, owner := u8Max })
    (active : s'.activeWorker = u8Max)
    (counts : (s'.enqueued, s'.completed, s'.cancelled, s'.retired) = (s.enqueued, s.completed, s.cancelled, s.retired))
    (lanes : (s'.sumLane, s'.xorLane, s'.fenceLane) = (s.sumLane, s.xorLane, s.fenceLane)) :
    Plain s s' := by
  have live : (s.slots index).Live := .inr running
  have fits := (sound.consistent.fits index).move live (.inl ⟨rfl, rfl⟩)
    (s.slots index).cancelRequested
  exact plain_move sound fits rfl rfl live (.inl (.inl rfl))
    (change.worked_stop sound.consistent.worked running (by simp) active) change counts lanes

/-- The item ends without its operation, in the queue or on its worker. -/
theorem plain_cancel (sound : Sound s)
    (place : (s.slots index).state = .queued ∧ s'.activeWorker = s.activeWorker ∨
      (s.slots index).state = .running ∧ s'.activeWorker = u8Max)
    (change : Rewrites s s' index { s.slots index with
      state := .cancelled, owner := u8Max, completionSequence := s.completionSequence + 1,
      result := 0 })
    (counts : (s'.enqueued, s'.completed, s'.cancelled, s'.retired) =
      (s.enqueued, s.completed, s.cancelled + 1, s.retired))
    (lanes : (s'.sumLane, s'.xorLane, s'.fenceLane) = (s.sumLane, s.xorLane, s.fenceLane)) :
    Plain s s' := by
  have worked : Worked s' := by
    rcases place with ⟨queued, worker⟩ | ⟨running, worker⟩
    · exact change.worked_aside sound.consistent.worked worker (by rw [queued]; decide) (by simp)
    · exact change.worked_stop sound.consistent.worked running (by simp) worker
  have live : (s.slots index).Live := place.imp And.left And.left
  have fits := (sound.consistent.fits index).finish live (.inr rfl) s.completionSequence 0
  exact plain_move sound fits rfl rfl live (.inr rfl) worked change counts lanes

/-- The running item is told to stop. -/
theorem plain_flag (sound : Sound s) (running : (s.slots index).state = .running)
    (change : Rewrites s s' index { s.slots index with cancelRequested := true })
    (worker : s'.activeWorker = s.activeWorker)
    (counts : (s'.enqueued, s'.completed, s'.cancelled, s'.retired) = (s.enqueued, s.completed, s.cancelled, s.retired))
    (lanes : (s'.sumLane, s'.xorLane, s'.fenceLane) = (s.sumLane, s.xorLane, s.fenceLane)) :
    Plain s s' := by
  have live : (s.slots index).Live := .inr running
  have fits := (sound.consistent.fits index).move live
    (.inr ⟨running, (sound.consistent.fits index).owned running⟩) true
  refine plain_move sound fits rfl rfl live (.inl live) ?_ change ?_ lanes
  · exact change.worked_still sound.consistent.worked worker running running rfl
  · simp only [running, reduceCtorEq, ↓reduceIte]
    exact counts

variable {done : Unit → Controller → Prop}

section

variable (sound : Sound s) (running : (s.slots index).state = .running)
include sound running

/-- A fault before the commit leaves the item in the queue. -/
theorem wp_finishFault :
    wp (finishFault index) done (fun reason s' => reason = .faultInjected → Plain s s') s := by
  unfold finishFault modifySlot setActiveWorker countRollback increment
  simp only [wp_bind, wp_update, wp_fail]
  refine wp_advance _ _ _ ?_ (absurd · (by decide))
  exact wp_check_plain (plain_requeue sound running ⟨rfl, rfl, rfl⟩ rfl rfl rfl)
    (fun plain _ => plain)

theorem wp_finishCancelled :
    wp (finishCancelled index) (fun _ s' => Finishes s s')
      (fun reason s' => reason = .faultInjected → Plain s s') s := by
  unfold finishCancelled settle advanceCompletionSequence countCancelled modifySlot setActiveWorker
    increment
  simp only [wp_bind, wp_read, wp_update, wp_pure]
  refine wp_advance _ _ _ ?_ (absurd · (by decide))
  refine wp_advance _ _ _ ?_ (absurd · (by decide))
  exact wp_check_plain (plain_cancel sound (.inr ⟨running, rfl⟩) ⟨rfl, rfl, rfl⟩ rfl rfl) .inl

theorem wp_finishApplied :
    wp (finishApplied index) (fun _ s' => Finishes s s')
      (fun reason s' => reason = .faultInjected → Plain s s') s := by
  unfold finishApplied settle advanceCompletionSequence countCompleted modifySlot setActiveWorker
    increment
  simp only [wp_bind, wp_read, wp_update, wp_pure]
  refine wp_apply (fun result sum xor fence credited => ?_) (absurd · (by decide))
  refine wp_advance _ _ _ ?_ (absurd · (by decide))
  refine wp_advance _ _ _ ?_ (absurd · (by decide))
  exact wp_check_finishes (.inr ⟨index, completes_finish sound running ⟨rfl, rfl, rfl⟩ rfl rfl credited⟩)

end

theorem wp_finishInner (sound : Sound s) (worker : Nat) (id : WorkId) (fault : FaultPoint) :
    wp (finishInner worker id fault) (fun _ s' => Finishes s s')
      (fun reason s' => reason = .faultInjected → Plain s s') s := by
  unfold finishInner
  simp only [wp_bind, wp_read]
  refine wp_resolve (fun index _ _ => ?_) (absurd · (by decide))
  refine wp_ensure_intro (fun owned => ?_) (fun _ visible => absurd visible (by decide))
  have running : (s.slots index).state = .running := by
    by_contra idle
    exact owned (.inr (.inr idle))
  refine wp_when_intro (fun _ => wp_finishFault sound running) (fun _ => ?_)
  split <;> simp only [wp_bind, wp_read, wp_pure]
  · exact wp_finishCancelled sound running
  · exact wp_finishApplied sound running

theorem wp_completeCancel (sound : Sound s) (queued : (s.slots index).state = .queued)
    (pass : ∀ s', Plain s s' → done () s') (stop : ∀ s', failed .counter s') :
    wp (completeCancel index) done failed s := by
  unfold completeCancel advanceCompletionSequence countCancelled modifySlot increment
  simp only [wp_bind, wp_read, wp_update]
  refine wp_advance _ _ _ ?_ (stop _)
  refine wp_advance _ _ _ (pass _ ?_) (stop _)
  exact plain_cancel sound (.inl ⟨queued, rfl⟩) ⟨rfl, rfl, rfl⟩ rfl rfl

theorem wp_requestCancel (sound : Sound s) (running : (s.slots index).state = .running)
    (pass : ∀ s', Plain s s' → done () s') (stop : ∀ s', failed .counter s') :
    wp (requestCancel index) done failed s := by
  refine wp_advance _ _ _ (pass _ ?_) (stop _)
  exact plain_flag sound running ⟨rfl, rfl, rfl⟩ rfl rfl rfl

theorem wp_cancelInner (sound : Sound s) (id : WorkId) :
    wp (cancelInner id) (fun _ s' => Plain s s') (fun _ _ => True) s := by
  unfold cancelInner
  simp only [wp_bind, wp_read]
  refine wp_resolve (fun index _ _ => ?_) trivial
  split
  · rename_i queued
    rw [wp_bind]
    exact wp_completeCancel sound queued (fun s' plain => wp_check_plain plain (fun plain => plain))
      (fun _ => trivial)
  · rename_i running
    rw [wp_bind]
    refine wp_ensure_intro (fun _ => ?_) (fun _ => trivial)
    rw [wp_bind]
    exact wp_requestCancel sound running (fun s' plain => wp_check_plain plain (fun plain => plain))
      (fun _ => trivial)
  · trivial

/-- The slot is emptied, and nothing else that a shutdown looks at changes. -/
structure Frees (s s' : Controller) (index : Index) : Prop where
  free : (s'.slots index).state = .free
  others : ∀ other, other ≠ index → s'.slots other = s.slots other
  intake : s'.intakeOpen = s.intakeOpen

theorem wp_retireInner (sound : Sound s) (id : WorkId) (fault : FaultPoint) : wp (retireInner id fault)
      (fun _ s' => Plain s s' ∧ ∃ index, id = s.id index ∧ (s.slots index).state.Terminal ∧ Frees s s' index)
      (fun reason s' => reason = .faultInjected → Plain s s') s := by
  unfold retireInner
  simp only [wp_bind, wp_read]
  refine wp_resolve (fun index named alive => ?_) (absurd · (by decide))
  refine wp_ensure_intro (fun ended => ?_) (fun _ visible => absurd visible (by decide))
  refine wp_when_intro (fun _ => ?_) (fun _ => ?_)
  · unfold retireFault countRollback increment
    rw [wp_bind]
    refine wp_advance _ _ _ ?_ (absurd · (by decide))
    exact fun _ => Rests.plain ⟨rfl, rfl, rfl, rfl⟩ sound
  refine wp_advance _ _ _ ?_ (absurd · (by decide))
  refine wp_check_plain (plain_retire sound ended ⟨rfl, rfl, rfl⟩ rfl rfl rfl) (fun plain =>
    ⟨plain, index, ?_, ended, ?_, fun other apart => ?_, rfl⟩)
  · cases id
    simp only [Controller.id, WorkId.mk.injEq]
    exact ⟨named, alive.2.symm⟩
  · simp [setSlot, Slot.emptied]
  · exact Function.update_of_ne apart _ _

/-- Every ended item has left its slot, and no other slot has changed. -/
structure Swept (s s' : Controller) (left : List Index) : Prop where
  kept : ∀ index, index ∈ left ∨ ¬ (s.slots index).state.Terminal → s'.slots index = s.slots index
  free : ∀ index, index ∉ left → (s.slots index).state.Terminal → (s'.slots index).state = .free
  intake : s'.intakeOpen = s.intakeOpen

variable {left : List Index}

theorem Swept.skip (swept : Swept s s' (index :: left))
    (running : ¬ (s'.slots index).state.Terminal) : Swept s s' left := by
  refine ⟨fun other keep => swept.kept other ?_, fun other gone ended => ?_, swept.intake⟩
  · exact keep.imp (mem_cons_of_mem index) (fun same => same)
  · by_cases same : other = index
    · subst same
      rw [swept.kept other (.inl (mem_cons_self ..))] at running
      exact absurd ended running
    · refine swept.free other (fun member => ?_) ended
      rcases mem_cons.mp member with equal | member
      · exact same equal
      · exact gone member

theorem Swept.clear (swept : Swept s s' (index :: left)) (once : index ∉ left) (ended : (s'.slots index).state.Terminal)
    (frees : Frees s' s'' index) : Swept s s'' left := by
  have before := swept.kept index (.inl (mem_cons_self ..))
  rw [before] at ended
  refine ⟨fun other keep => ?_, fun other gone => ?_, frees.intake.trans swept.intake⟩
  · have apart : other ≠ index := by
      rintro rfl
      exact keep.elim once (fun running => running ended)
    rw [frees.others other apart]
    exact swept.kept other (keep.imp (mem_cons_of_mem index) (fun same => same))
  · by_cases same : other = index
    · subst same
      exact fun _ => frees.free
    · rw [frees.others other same]
      refine swept.free other ?_
      rw [mem_cons, not_or]
      exact ⟨same, gone⟩

section

variable (sound : Sound s)
include sound

theorem wp_retireTerminal (retired : Nat) {s₀ : Controller} (swept : Swept s₀ s (index :: left))
    (once : index ∉ left) : wp (retireTerminal retired index) (fun _ s' => Plain s s' ∧ Swept s₀ s' left)
      (fun _ _ => True) s := by
  unfold retireTerminal
  rw [wp_bind, wp_read]
  split
  · rename_i ended
    rw [wp_bind]
    refine wp_mono (wp_retireInner sound (s.id index) .none) ?_ (fun _ _ _ => trivial)
    rintro _ s' ⟨plain, other, named, _, frees⟩
    obtain rfl : index = other := Fin.ext (congrArg WorkId.slot named)
    exact wp_orError (fun _ _ => ⟨plain, swept.clear once ended frees⟩) (fun _ => trivial)
  · rename_i running
    exact ⟨Plain.refl sound, swept.skip running⟩

theorem wp_retireAllTerminalInner :
    wp retireAllTerminalInner (fun _ s' => Plain s s' ∧ Swept s s' []) (fun _ _ => True) s := by
  refine wp_mono (wp_foldlM (fun left s' => left.Nodup ∧ Plain s s' ∧ Swept s s' left) ?_
    (finRange 8) 0 s ?_) (fun _ _ kept => kept.2) (fun _ _ (_ : True) => trivial)
  · rintro retired index left s' ⟨distinct, plain, swept⟩
    rw [nodup_cons] at distinct
    refine wp_mono (wp_retireTerminal plain.sound retired swept distinct.1) ?_
      (fun _ _ _ => trivial)
    exact fun _ s'' next => ⟨distinct.2, plain.trans next.1, next.2⟩
  · exact ⟨nodup_finRange 8, Plain.refl sound, fun _ _ => rfl, fun index absent =>
      absurd (mem_finRange index) absent, rfl⟩

theorem wp_shutDownSlot (cancelled : Nat) (index : Index) :
    wp (shutDownSlot cancelled index) (fun _ s' => Plain s s') (fun _ _ => True) s := by
  unfold shutDownSlot
  rw [wp_bind, wp_read]
  dsimp only
  split
  · rename_i queued
    rw [wp_bind]
    refine wp_completeCancel sound queued (fun s' plain => ?_) (fun _ => trivial)
    exact wp_orError (fun _ _ => plain) (fun _ => trivial)
  · split
    · rename_i busy
      rw [wp_bind]
      exact wp_requestCancel sound busy.1 (fun s' plain => plain) (fun _ => trivial)
    · exact Plain.refl sound

/-- The intake may always be closed. -/
theorem plain_close : Plain s { s with intakeOpen := false } := by
  obtain ⟨⟨fits, distinct, worked, closed⟩, balanced⟩ := sound
  exact ⟨⟨⟨fits, distinct, worked, fun shut => ⟨rfl, (closed shut).2⟩⟩, balanced.1, balanced.2⟩,
    Ages.still rfl, rfl, rfl, fun _ _ done => done⟩

theorem wp_beginShutdown : wp beginShutdown (fun _ s' => Plain s s') (fun _ s' => s' = s) s := by
  refine wp_transact ?_
  simp only [wp_bind, wp_update, wp_pure]
  refine wp_mono (wp_foldlM (fun _ s' => Plain s s') ?_ (finRange 8) 0 _
    (plain_close sound)) (fun _ s' plain => wp_check_plain plain (fun plain => plain))
    (fun _ _ (_ : True) => trivial)
  intro cancelled index _ s' plain
  exact wp_mono (wp_shutDownSlot plain.sound cancelled index)
    (fun _ s'' next => plain.trans next) (fun _ _ _ => trivial)

/-- A controller without items may be shut down once its intake is closed. -/
theorem plain_shut (closed : s.intakeOpen = false) (free : ∀ index, (s.slots index).state = .free) :
    Plain s { s with shutdownComplete := true } := by
  obtain ⟨⟨fits, distinct, worked, _⟩, balanced⟩ := sound
  exact ⟨⟨⟨fits, distinct, worked, fun _ => ⟨closed, free⟩⟩, balanced.1, balanced.2⟩,
    Ages.still rfl, rfl, rfl, fun _ _ done => done⟩

theorem wp_finishShutdown : wp finishShutdown (fun _ s' => Plain s s') (fun _ s' => s' = s) s := by
  refine wp_transact ?_
  simp only [wp_bind, wp_read]
  refine wp_ensure_intro (fun idle => ?_) (fun _ => trivial)
  simp only [not_or, not_exists, Bool.not_eq_true] at idle
  refine wp_mono (wp_retireAllTerminalInner sound) ?_ (fun _ _ _ => trivial)
  rintro retired s' ⟨plain, swept⟩
  have free : ∀ index, (s'.slots index).state = .free := by
    intro index
    by_cases ended : (s.slots index).state.Terminal
    · exact swept.free index (not_mem_nil) ended
    · rw [swept.kept index (.inr ended)]
      cases state : (s.slots index).state <;> simp_all [WorkState.Terminal]
  exact wp_check_plain (plain_shut plain.sound (swept.intake.trans idle.1) free)
    (fun shut => plain.trans shut)

end

end PooleOS.Deferred
