import PooleOS.Deferred.Ledger

/- Every method but `finish_inner` completes no item: one specification each,
for the result and for the errors whose effects are published. -/
namespace PooleOS.Deferred

open Op
open Controller

variable {s s' s'' : Controller}

/-- Only fields that no invariant reads have changed. -/
structure Rests (s s' : Controller) : Prop where
  slots : s'.slots = s.slots
  flags : (s'.intakeOpen, s'.shutdownComplete, s'.activeWorker) =
    (s.intakeOpen, s.shutdownComplete, s.activeWorker)
  counts : (s'.enqueued, s'.completed, s'.cancelled, s'.retired) =
    (s.enqueued, s.completed, s.cancelled, s.retired)
  lanes : (s'.sumLane, s'.xorLane, s'.fenceLane) = (s.sumLane, s.xorLane, s.fenceLane)

theorem Rests.worked (rests : Rests s s') (before : Worked s) : Worked s' := by
  have flags := rests.flags
  simp only [Prod.mk.injEq] at flags
  unfold Worked at before ⊢
  rw [rests.slots, flags.2.2]
  exact before

theorem Rests.sound (rests : Rests s s') (sound : Sound s) : Sound s' := by
  have flags := rests.flags
  have counts := rests.counts
  simp only [Prod.mk.injEq] at flags counts
  obtain ⟨⟨fits, distinct, worked, closed⟩, ⟨enqueued, retired⟩⟩ := sound
  refine ⟨⟨?_, ?_, rests.worked worked, ?_⟩, ⟨?_, ?_⟩⟩
  · rw [rests.slots]
    exact fits
  · unfold Controller.Holds at distinct ⊢
    rw [rests.slots]
    exact distinct
  · rw [rests.slots, flags.1, flags.2.1]
    exact closed
  · unfold live at enqueued ⊢
    rw [rests.slots, counts.1, counts.2.1, counts.2.2.1]
    exact enqueued
  · unfold ended at retired ⊢
    rw [rests.slots, counts.2.1, counts.2.2.1, counts.2.2.2]
    exact retired

theorem Rests.done (rests : Rests s s') (index : Index) (generation : Nat) :
    Done s' index generation ↔ Done s index generation := by
  unfold Done
  rw [rests.slots]

theorem Rests.plain (rests : Rests s s') (sound : Sound s) : Plain s s' := by
  have counts := rests.counts
  simp only [Prod.mk.injEq] at counts
  exact ⟨rests.sound sound, Ages.still rests.slots, counts.2.1, rests.lanes,
    fun index generation done => (rests.done index generation).mp done⟩

section Rules

variable {done : Unit → Controller → Prop} {failed : Error → Controller → Prop}

/-- A counter advances unless it is at its end. -/
theorem wp_advance_room (limit : Nat) (get : Controller → Nat) (set : Nat → Controller → Controller)
    (pass : done () (set (get s + 1) s)) (stop : limit ≤ get s + 1 → failed .counter s) :
    wp (advance limit get set) done failed s := by
  unfold advance
  simp only [wp_bind, wp_read, wp_update]
  refine wp_orError (fun value sum => ?_) (fun full => stop (checkedAdd_eq_none.mp full))
  obtain ⟨_, rfl⟩ := checkedAdd_eq_some.mp sum
  exact pass

theorem wp_advance (limit : Nat) (get : Controller → Nat) (set : Nat → Controller → Controller)
    (pass : done () (set (get s + 1) s)) (stop : failed .counter s) : wp (advance limit get set) done failed s :=
  wp_advance_room limit get set pass fun _ => stop

theorem wp_rollbackFault (index : Index) (pass : failed .faultInjected { s.setSlot index
      (fun slot => .emptied slot.generation) with rollbackCount := s.rollbackCount + 1 })
    (stop : failed .counter (s.setSlot index (fun slot => .emptied slot.generation))) :
    wp (rollbackFault index) done failed s := by
  unfold rollbackFault rollbackSlot modifySlot countRollback increment
  simp only [wp_bind, wp_update]
  exact wp_advance _ _ _ pass stop

theorem wp_check (consistent : Consistent s) (pass : done () s) : wp check done failed s := by
  unfold check
  simp only [wp_bind, wp_read]
  rw [validate_ok consistent, wp_lift_ok]
  exact pass

/-- A step that is checked at its end. -/
theorem wp_check_plain {s₀ : Controller} (plain : Plain s s₀) (pass : Plain s s₀ → done () s₀) :
    wp check done failed s₀ := wp_check plain.sound.consistent (pass plain)

theorem wp_resolve {done : Index → Controller → Prop} {id : WorkId}
    (pass : ∀ index : Index, id.slot = index.val → Alive s index id.generation → done index s)
    (stop : failed .staleId s) : wp (resolve id) done failed s := by
  unfold resolve Controller.resolve
  simp only [wp_bind, wp_read]
  split
  · rename_i inside
    split
    · exact stop
    · rename_i held
      rw [not_or, not_not] at held
      exact pass ⟨id.slot, inside⟩ rfl held
  · exact stop

end Rules

section Worked

variable {index : Index} {slot : Slot}

section

variable (change : Rewrites s s' index slot) (before : Worked s)
include change before

/-- The slot runs neither before nor after. -/
theorem Rewrites.worked_aside
    (worker : s'.activeWorker = s.activeWorker) (calm : (s.slots index).state ≠ .running)
    (stays : slot.state ≠ .running) : Worked s' := by
  have quiet : ∀ other, (s'.slots other).state = .running → (s.slots other).state = .running := by
    intro other running
    by_cases same : other = index
    · subst same
      rw [change.self] at running
      exact absurd running stays
    · rw [change.other same] at running
      exact running
  rcases before with ⟨idle, none⟩ | ⟨busy, running, active, unique⟩
  · exact .inl ⟨worker.trans idle, fun other run => none other (quiet other run)⟩
  · have apart : busy ≠ index := by
      rintro rfl
      exact calm running
    refine .inr ⟨busy, ?_, ?_, fun other run => unique other (quiet other run)⟩
    · rw [change.other apart]
      exact running
    · rw [worker, active, change.other apart]

/-- The slot keeps running for the same worker. -/
theorem Rewrites.worked_still
    (worker : s'.activeWorker = s.activeWorker) (was : (s.slots index).state = .running)
    (state : slot.state = .running) (owner : slot.owner = (s.slots index).owner) : Worked s' := by
  rcases before with ⟨_, none⟩ | ⟨busy, _, active, unique⟩
  · exact absurd was (none index)
  · obtain rfl := unique index was
    refine .inr ⟨index, ?_, ?_, ?_⟩
    · rw [change.self]
      exact state
    · rw [change.self, worker, active, owner]
    · intro other running
      by_contra apart
      rw [change.other apart] at running
      exact apart (unique other running)

/-- An idle controller starts to run the slot. -/
theorem Rewrites.worked_start
    (idle : s.activeWorker = u8Max) (fits : ∀ other, Fits (s.slots other))
    (state : slot.state = .running) (worker : s'.activeWorker = slot.owner) : Worked s' := by
  have none : ∀ other, (s.slots other).state ≠ .running := by
    rcases before with ⟨_, none⟩ | ⟨busy, running, active, _⟩
    · exact none
    · have owned := (fits busy).owned running
      rw [← active, idle] at owned
      exact absurd owned (by decide)
  refine .inr ⟨index, ?_, ?_, ?_⟩
  · rw [change.self]
    exact state
  · rw [change.self]
    exact worker
  · intro other running
    by_contra apart
    rw [change.other apart] at running
    exact none other running

/-- The running slot stops. -/
theorem Rewrites.worked_stop
    (was : (s.slots index).state = .running) (stops : slot.state ≠ .running)
    (worker : s'.activeWorker = u8Max) : Worked s' := by
  rcases before with ⟨_, none⟩ | ⟨busy, _, _, unique⟩
  · exact absurd was (none index)
  · refine .inl ⟨worker, fun other => ?_⟩
    by_cases same : other = index
    · subst same
      rw [change.self]
      exact stops
    · rw [change.other same]
      intro running
      exact same ((unique other running).trans (unique index was).symm)

end

end Worked

variable {index : Index}

theorem Consistent.opened (consistent : Consistent s)
    (used : (s.slots index).state ≠ .free) : s.shutdownComplete = false := by
  by_contra shut
  rw [Bool.not_eq_false] at shut
  exact used ((consistent.closed shut).2 index)

/-- A free slot is given a new generation and stays free. -/
theorem plain_burn (sound : Sound s) {generation : Nat} (newer : (s.slots index).generation ≤ generation)
    (bounded : generation < u32Values) (free : (s.slots index).state = .free)
    (change : Rewrites s s' index (Slot.emptied generation)) (worker : s'.activeWorker = s.activeWorker)
    (counts : (s'.enqueued, s'.completed, s'.cancelled, s'.retired) = (s.enqueued, s.completed, s.cancelled, s.retired))
    (lanes : (s'.sumLane, s'.xorLane, s'.fenceLane) = (s.sumLane, s.xorLane, s.fenceLane)) : Plain s s' := by
  simp only [Prod.mk.injEq] at counts
  have worked := change.worked_aside sound.consistent.worked worker (by rw [free]; decide)
    (by simp [Slot.emptied])
  refine ⟨⟨change.consistent sound.consistent (fits_emptied bounded) worked
      (fun used => absurd rfl used) (fun used => absurd rfl used), change.balanced sound.balanced ?_ ?_⟩,
    change.ages newer (fun used => absurd rfl used) (fun _ => rfl), counts.2.1, lanes,
    change.fewer (by simp [Slot.emptied])⟩
  · simp [Slot.Live, free, Slot.emptied, counts]
  · simp [WorkState.Terminal, free, Slot.emptied, counts]

/-- A free slot takes a new item. -/
theorem plain_admission (sound : Sound s) {slot : Slot} (free : (s.slots index).state = .free)
    (newer : (s.slots index).generation < slot.generation) (fits : Fits slot) (queued : slot.state = .queued)
    (unique : ∀ other, ¬ s.Holds slot.request other) (opened : s.intakeOpen = true) (change : Rewrites s s' index slot)
    (worker : s'.activeWorker = s.activeWorker) (counts : (s'.enqueued, s'.completed, s'.cancelled, s'.retired) =
      (s.enqueued + 1, s.completed, s.cancelled, s.retired))
    (lanes : (s'.sumLane, s'.xorLane, s'.fenceLane) = (s.sumLane, s.xorLane, s.fenceLane)) : Plain s s' := by
  simp only [Prod.mk.injEq] at counts
  have worked := change.worked_aside sound.consistent.worked worker (by rw [free]; decide)
    (by rw [queued]; decide)
  have up : s.shutdownComplete = false := by
    by_contra shut
    rw [Bool.not_eq_false] at shut
    rw [(sound.consistent.closed shut).1] at opened
    cases opened
  refine ⟨⟨change.consistent sound.consistent fits worked (fun _ other holds =>
      absurd holds (unique other)) (fun _ => up), change.balanced sound.balanced ?_ ?_⟩,
    change.ages newer.le (fun _ => .inr newer) (fun done => ?_), counts.2.1, lanes,
    change.fewer (by rw [queued]; decide)⟩
  · simp only [Slot.Live, free, queued, counts, reduceCtorEq, or_self, ↓reduceIte, true_or]
    omega
  · simp [WorkState.Terminal, free, queued, counts]
  · rw [free] at done
    cases done

/-- The item of a slot moves on, without being completed or retired. -/
theorem plain_move (sound : Sound s) {slot : Slot} (fits : Fits slot) (request : slot.request = (s.slots index).request)
    (generation : slot.generation = (s.slots index).generation) (was : (s.slots index).Live)
    (now : slot.Live ∨ slot.state = .cancelled) (worked : Worked s') (change : Rewrites s s' index slot)
    (counts : (s'.enqueued, s'.completed, s'.cancelled, s'.retired) =
      (s.enqueued, s.completed, s.cancelled + (if slot.state = .cancelled then 1 else 0), s.retired))
    (lanes : (s'.sumLane, s'.xorLane, s'.fenceLane) = (s.sumLane, s.xorLane, s.fenceLane)) : Plain s s' := by
  simp only [Prod.mk.injEq] at counts
  have used : (s.slots index).state ≠ .free := by
    rcases was with was | was <;> rw [was] <;> decide
  have unfinished : ¬ (s.slots index).state.Terminal ∧ (s.slots index).state ≠ .completed := by
    rcases was with was | was <;> rw [was] <;> decide
  have open' : slot.state ≠ .completed := by
    rcases now with (now | now) | now <;> rw [now] <;> decide
  refine ⟨⟨change.consistent sound.consistent fits worked (fun _ other holds => ?_)
      (fun _ => sound.consistent.opened used), change.balanced sound.balanced ?_ ?_⟩,
    change.ages generation.ge (fun _ => .inl used) (absurd · unfinished.2),
    counts.2.1, lanes, change.fewer open'⟩
  · rw [request] at holds
    exact sound.consistent.distinct index other used holds
  · rw [if_pos was, counts.1, counts.2.1, counts.2.2.1]
    rcases now with now | now
    · rw [if_pos now]
      rcases now with now | now <;> rw [now] <;> simp
    · simp [Slot.Live, now]
      omega
  · rw [if_neg unfinished.1, counts.2.1, counts.2.2.1, counts.2.2.2]
    rcases now with (now | now) | now <;> rw [now] <;> simp [WorkState.Terminal]
    omega

/-- The item of a slot has ended and leaves it. -/
theorem plain_retire (sound : Sound s) (was : (s.slots index).state.Terminal)
    (change : Rewrites s s' index (Slot.emptied (s.slots index).generation)) (worker : s'.activeWorker = s.activeWorker)
    (counts : (s'.enqueued, s'.completed, s'.cancelled, s'.retired) =
      (s.enqueued, s.completed, s.cancelled, s.retired + 1))
    (lanes : (s'.sumLane, s'.xorLane, s'.fenceLane) = (s.sumLane, s.xorLane, s.fenceLane)) : Plain s s' := by
  simp only [Prod.mk.injEq] at counts
  have calm : (s.slots index).state ≠ .running := by
    rcases was with was | was <;> rw [was] <;> decide
  have dead : ¬ (s.slots index).Live := by
    rintro (live | live) <;> rcases was with was | was <;> rw [was] at live <;> cases live
  have worked := change.worked_aside sound.consistent.worked worker calm (by simp [Slot.emptied])
  refine ⟨⟨change.consistent sound.consistent
      (fits_emptied (sound.consistent.fits index).bounded) worked (fun used => absurd rfl used)
      (fun used => absurd rfl used), change.balanced sound.balanced ?_ ?_⟩,
    change.ages le_rfl (fun used => absurd rfl used) (fun _ => rfl), counts.2.1, lanes,
    change.fewer (by simp [Slot.emptied])⟩
  · rw [if_neg dead, counts.1, counts.2.1, counts.2.2.1]
    simp [Slot.Live, Slot.emptied]
  · rw [if_pos was, counts.2.1, counts.2.2.1, counts.2.2.2]
    simp [WorkState.Terminal, Slot.emptied]
    omega

/-- The first free slot is free. -/
theorem firstFree_free (found : s.firstFree = some index) : (s.slots index).state = .free := by
  simpa using List.find?_some found

/-- The next generation of a slot, once it is known not to have wrapped around. -/
theorem nextGeneration {generation : Nat} (bounded : generation < u32Values)
    (unwrapped : (generation + 1) % u32Values ≠ 0) :
    (generation + 1) % u32Values = generation + 1 ∧ generation + 1 < u32Values := by
  have below : generation + 1 < u32Values := by
    by_contra above
    have full : generation + 1 = u32Values := by omega
    rw [full, Nat.mod_self] at unwrapped
    exact unwrapped rfl
  exact ⟨Nat.mod_eq_of_lt below, below⟩

theorem wp_enqueueInner (sound : Sound s) (request : WorkRequest) (context : TopHalfContext) (fault : FaultPoint) :
    wp (enqueueInner request context fault) (fun _ s' => Plain s s')
      (fun reason s' => Visible reason → Plain s s') s := by
  unfold enqueueInner
  simp only [wp_bind, wp_read]
  refine wp_ensure_intro (fun _ => ?_) (fun _ visible => absurd visible (by decide))
  refine wp_ensure_intro (fun _ => ?_) (fun _ visible => absurd visible (by decide))
  refine wp_ensure_intro (fun opened => ?_) (fun _ visible => absurd visible (by decide))
  refine wp_ensure_intro (fun named => ?_) (fun _ visible => absurd visible (by decide))
  rw [not_or] at named
  refine wp_when_intro (fun _ => ?_) (fun fresh => ?_)
  · unfold suppressDuplicate countDuplicate increment
    rw [wp_bind]
    refine wp_advance _ _ _ ?_ (absurd · (by decide))
    exact fun _ => Rests.plain ⟨rfl, rfl, rfl, rfl⟩ sound
  rw [not_exists] at fresh
  refine wp_orError (fun index found => ?_) (fun _ visible => absurd visible (by decide))
  have free := firstFree_free found
  refine wp_ensure_intro (fun unwrapped => ?_) (fun _ visible => absurd visible (by decide))
  obtain ⟨next, bounded⟩ := nextGeneration (sound.consistent.fits index).bounded unwrapped
  rw [next]
  have newer : (s.slots index).generation ≤ (s.slots index).generation + 1 := Nat.le_succ _
  refine wp_when_intro (fun _ => ?_) (fun _ => ?_)
  · refine wp_rollbackFault index (fun _ => ?_) (absurd · (by decide))
    refine plain_burn sound newer bounded free ⟨?_, rfl, rfl⟩ rfl rfl rfl
    simp [setSlot]
  refine wp_advance _ _ _ ?_ (absurd · (by decide))
  refine wp_when_intro (fun _ => ?_) (fun _ => ?_)
  · refine wp_rollbackFault index (fun _ => ?_) (absurd · (by decide))
    refine plain_burn sound newer bounded free ⟨?_, rfl, rfl⟩ rfl rfl rfl
    simp [setSlot]
  refine wp_advance _ _ _ ?_ (absurd · (by decide))
  have fits : Fits ⟨(s.slots index).generation + 1, .queued, request, s.enqueueSequence + 1, 0,
      u8Max, false, 0⟩ := by
    refine ⟨bounded, by simp, by simp, fun _ => ⟨by simp, named.1, by simp⟩, by simp, by simp, ?_⟩
    simp [WorkState.Terminal]
  refine wp_check_plain (plain_admission sound free (Nat.lt_succ_self _) fits rfl fresh opened
    ⟨?_, rfl, rfl⟩ rfl rfl rfl) (fun plain => plain)
  simp [setSlot]

theorem wp_observeEoi (sound : Sound s) : wp observeEoi (fun _ s' => Plain s s') (fun _ s' => s' = s) s := by
  unfold observeEoi
  simp only [wp_bind, wp_read, wp_pure]
  refine wp_ensure_intro (fun _ => ?_) (fun _ => rfl)
  exact wp_advance _ _ _ (Rests.plain ⟨rfl, rfl, rfl, rfl⟩ sound) rfl

/-- `select_next` picks the oldest item of a priority. -/
theorem selectNext_priority (picked : s.selectNext.1 = some index) : ∃ priority, s.oldestQueued priority = some index := by
  unfold selectNext at picked
  split at picked
  · rename_i first second
    split at picked
    · exact ⟨.normal, second.trans picked⟩
    · exact ⟨.high, first.trans picked⟩
  · rename_i first second
    exact ⟨.high, first.trans picked⟩
  · rename_i first second
    exact ⟨.normal, second.trans picked⟩
  · cases picked

theorem selectNext_queued (picked : s.selectNext.1 = some index) : (s.slots index).state = .queued := by
  obtain ⟨priority, found⟩ := selectNext_priority picked
  have member := List.argmin_mem found
  rw [List.mem_filter, decide_eq_true_iff] at member
  exact member.2.1

theorem selectNext_rests (s : Controller) : Rests s s.selectNext.2 := by
  unfold selectNext
  split
  · split <;> exact ⟨rfl, rfl, rfl, rfl⟩
  · exact ⟨rfl, rfl, rfl, rfl⟩
  · exact ⟨rfl, rfl, rfl, rfl⟩
  · exact ⟨rfl, rfl, rfl, rfl⟩

/-- A claim completes nothing, and keeps what is completed. -/
structure Claims (s s' : Controller) : Prop extends Plain s s' where
  kept : ∀ index generation, Done s index generation → Done s' index generation

/-- A claim that is checked at its end, after the selection. -/
theorem wp_check_claims {s₀ : Controller} {failed : Error → Controller → Prop} (first : Plain s s')
    (kept : ∀ index generation, Done s index generation → Done s' index generation)
    (claims : Claims s' s₀) : wp check (fun _ => Claims s) failed s₀ :=
  wp_check claims.sound.consistent ⟨first.trans claims.toPlain, fun index generation done =>
    claims.kept index generation (kept index generation done)⟩

/-- A queued item starts to run. -/
theorem claims_start (sound : Sound s) {worker : Nat} (inside : worker < workerCount)
    (idle : s.activeWorker = u8Max) (queued : (s.slots index).state = .queued)
    (change : Rewrites s s' index { s.slots index with state := .running, owner := worker })
    (active : s'.activeWorker = worker)
    (counts : (s'.enqueued, s'.completed, s'.cancelled, s'.retired) = (s.enqueued, s.completed, s.cancelled, s.retired))
    (lanes : (s'.sumLane, s'.xorLane, s'.fenceLane) = (s.sumLane, s.xorLane, s.fenceLane)) :
    Claims s s' := by
  have live : (s.slots index).Live := .inl queued
  have fits := (sound.consistent.fits index).move live (.inr ⟨rfl, inside⟩)
    (s.slots index).cancelRequested
  refine ⟨plain_move sound fits rfl rfl live (.inl (.inr rfl)) ?_ change counts lanes, ?_⟩
  · exact change.worked_start sound.consistent.worked idle sound.consistent.fits rfl active
  · intro other generation done
    have apart : other ≠ index := by
      rintro rfl
      have completed := done.1
      rw [queued] at completed
      cases completed
    unfold Done at done ⊢
    rw [change.other apart]
    exact done

theorem wp_claimInner (sound : Sound s) (worker : Nat) (permit : DispatchPermit) (fault : FaultPoint) :
    wp (claimInner worker permit fault) (fun _ s' => Claims s s')
      (fun reason s' => reason = .faultInjected → Plain s s') s := by
  unfold claimInner
  simp only [wp_bind, wp_read]
  refine wp_ensure_intro (fun inside => ?_) (fun _ visible => absurd visible (by decide))
  refine wp_ensure_intro (fun _ => ?_) (fun _ visible => absurd visible (by decide))
  refine wp_ensure_intro (fun idle => ?_) (fun _ visible => absurd visible (by decide))
  refine wp_when_intro (fun _ => ?_) (fun _ => ?_)
  · unfold claimFault countRollback increment
    rw [wp_bind]
    refine wp_advance _ _ _ ?_ (absurd · (by decide))
    exact fun _ => Rests.plain ⟨rfl, rfl, rfl, rfl⟩ sound
  refine wp_orError (fun index picked => ?_) (fun _ visible => absurd visible (by decide))
  have queued := selectNext_queued picked
  have rests := selectNext_rests s
  have selected := rests.plain sound
  have flags := rests.flags
  simp only [Prod.mk.injEq] at flags
  rw [← rests.slots] at queued
  refine wp_advance _ _ _ ?_ (absurd · (by decide))
  refine wp_check_claims selected (fun index generation => (rests.done index generation).mpr)
    (claims_start selected.sound inside (flags.2.2.trans idle) queued ⟨rfl, rfl, rfl⟩ rfl rfl rfl)

end PooleOS.Deferred
