import PooleOS.Workers.Model

/- What holds of the controller between calls: the slots fit, each item that is being dispatched has exactly
one ticket, and the counters balance. -/
namespace PooleOS.Workers

open List Finset
open Function (update update_of_ne update_self)
open Controller

variable {s s' : Controller}

/-- A place where a ticket can be out: a processor, or the offline probe. -/
abbrev Place : Type := Option CpuId

/-- The ticket that is out at a place. -/
def Controller.ticketAt (s : Controller) : Place → Option DispatchTicket
  | some cpu => s.pending cpu
  | none => s.offlinePending

/-- The target that a ticket of the place carries. -/
def Place.target : Place → Nat
  | some cpu => cpu.val
  | none => offlineProbeCpu

/-- The ticket is for the item of this slot. -/
structure Names (s : Controller) (place : Place) (ticket : DispatchTicket) (index : Index) : Prop where
  item : ticket.id = s.id index
  dispatching : (s.slots index).state = .dispatching
  source : ticket.sourceCpu = (s.slots index).request.targetCpu
  target : ticket.targetCpu = Place.target place
  worker : ∀ cpu, place = some cpu →
    ticket.workerGeneration = s.workerGeneration cpu ∧ cpu ≠ 0 ∧ Allows s.onlineMask cpu

/-- Every ticket is for an item that is being dispatched, and every such item has one ticket. -/
structure Ticketed (s : Controller) : Prop where
  named : ∀ place ticket, s.ticketAt place = some ticket → ∃ index, Names s place ticket index
  owned : ∀ index, (s.slots index).state = .dispatching →
    ∃ place ticket, s.ticketAt place = some ticket ∧ ticket.id = s.id index
  alone : ∀ left right ticket other, s.ticketAt left = some ticket → s.ticketAt right = some other →
    ticket.id = other.id → left = right

/-- The slots and the tickets fit together. -/
structure Consistent (s : Controller) : Prop where
  mask : s.onlineMask &&& 1#8 ≠ 0#8 ∧ Within s.onlineMask onlineMaskAll
  fits : ∀ index, (s.slots index).state ≠ .free → s.Admissible (s.slots index) ∧
    ((s.slots index).state.Terminal → (s.slots index).completionSequence ≠ 0)
  distinct : ∀ index other, (s.slots index).state ≠ .free →
    s.Holds (s.slots index).request other → other = index
  ticketed : Ticketed s
  closed : s.shutdownComplete = true → s.intakeOpen = false ∧ s.onlineMask = 1#8 ∧
    (∀ place, s.ticketAt place = none) ∧ ∀ index, (s.slots index).state = .free

/-- Queued or being dispatched. -/
def Slot.Live (slot : Slot) : Prop := slot.state = .queued ∨ slot.state = .dispatching

instance (slot : Slot) : Decidable slot.Live := inferInstanceAs (Decidable (_ ∨ _))

/-- The number of slots with a property. -/
def Controller.count (s : Controller) (property : Slot → Prop) [DecidablePred property] : Nat :=
  (Finset.univ.filter (fun index => property (s.slots index))).card

def Controller.live (s : Controller) : Nat := s.count Slot.Live
def Controller.ended (s : Controller) : Nat := s.count (fun slot => slot.state.Terminal)
def Controller.sent (s : Controller) : Nat := s.count (fun slot => slot.state = .dispatching)
def Controller.flagged (s : Controller) : Nat :=
  s.count (fun slot => slot.Live ∧ slot.cancelRequested = true)
def Controller.unflagged (s : Controller) : Nat :=
  s.count (fun slot => slot.Live ∧ slot.cancelRequested = false)

/-- The processors that are online, but for the first one. -/
def Controller.workers (s : Controller) : Nat :=
  (Finset.univ.filter (fun cpu : CpuId => cpu ≠ 0 ∧ Allows s.onlineMask cpu)).card

/-- The counters. -/
structure Balanced (s : Controller) : Prop where
  items : s.enqueued = s.completed + s.cancelled + s.live
  ends : s.completed + s.cancelled = s.reclaimed + s.ended
  sequence : s.completionSequence = s.completed + s.cancelled
  tickets : s.pendingCount = s.sent
  entries : s.remoteAcks = ∑ lane, s.workerEntries lane
  executions : s.driverExecutions + s.serviceExecutions = s.remoteAcks
  acks : s.remoteAcks ≤ s.completed + s.cancelled
  cancels : s.remoteCancelCompletions + s.flagged ≤ s.remoteCancelRequests
  requests : s.remoteCancelRequests + s.unflagged ≤ s.enqueued
  bypass : s.maximumHighBypass ≤ maxHighBypass ∧ ∀ cpu, s.highBypass cpu ≤ maxHighBypass
  retirements : s.workerRetirements + s.workers = apCount
  generation : s.activeServiceGeneration ≠ 0
  small : s.enqueued < u32Values
  sum : s.driverSampleSum < u32Values

structure Sound (s : Controller) : Prop where
  consistent : Consistent s
  balanced : Balanced s

section Validate

theorem Consistent.owns (consistent : Consistent s) {index : Index}
    (dispatching : (s.slots index).state = .dispatching) : s.Owned (s.id index) := by
  obtain ⟨place, ticket, out, same⟩ := consistent.ticketed.owned index dispatching
  cases place with
  | some cpu =>
    left
    refine ⟨cpu, ?_⟩
    change s.pending cpu = some ticket at out
    simp [out, same]
  | none =>
    right
    change s.offlinePending = some ticket at out
    simp [out, same]

theorem validateSlot_ok (consistent : Consistent s) (index : Index) (dispatching : Nat) :
    s.validateSlot dispatching index = .ok (dispatching + if (s.slots index).state = .dispatching then 1 else 0) := by
  unfold validateSlot
  by_cases free : (s.slots index).state = .free
  · simp [free]
  obtain ⟨admissible, finished⟩ := consistent.fits index free
  have owned : ¬ ((s.slots index).state = .dispatching ∧ ¬ s.Owned (s.id index)) :=
    fun both => both.2 (consistent.owns both.1)
  have ended : ¬ ((s.slots index).state.Terminal ∧ (s.slots index).completionSequence = 0) :=
    fun both => finished both.1 both.2
  have alone : ¬ ∃ later, index < later ∧ s.Holds (s.slots index).request later := by
    rintro ⟨later, after, holds⟩
    rw [consistent.distinct index later free holds] at after
    exact absurd after (lt_irrefl index)
  rw [if_neg free, if_neg (not_not.mpr admissible), if_neg owned, if_neg ended, if_neg alone]
  split <;> rfl

/-- The dispatching slots among these. -/
def sentAmong (s : Controller) (items : List Index) : Nat :=
  items.countP (fun index => (s.slots index).state = .dispatching)

theorem sentAmong_finRange : sentAmong s (finRange workCapacity) = s.sent := by
  unfold sentAmong sent Controller.count
  rw [countP_eq_length_filter, ← toFinset_card_of_nodup ((nodup_finRange workCapacity).filter _)]
  congr 1
  ext index
  simp

theorem validate_ok (sound : Sound s) : s.validate = .ok () := by
  obtain ⟨consistent, balanced⟩ := sound
  have scanned : ∃ dispatching, (finRange workCapacity).foldlM s.validateSlot 0 = .ok dispatching ∧
      dispatching + sentAmong s [] = sentAmong s (finRange workCapacity) := by
    refine foldlM_ok (fun rest dispatching =>
      dispatching + sentAmong s rest = sentAmong s (finRange workCapacity)) ?_
      (finRange workCapacity) 0 (Nat.zero_add _)
    intro index rest dispatching counted
    refine ⟨_, validateSlot_ok consistent index dispatching, ?_⟩
    unfold sentAmong at counted ⊢
    rw [countP_cons] at counted
    simp only [decide_eq_true_eq] at counted
    omega
  obtain ⟨dispatching, folded, total⟩ := scanned
  rw [sentAmong_finRange] at total
  have matching : s.pendingCount = dispatching := by
    have none_ : sentAmong s [] = 0 := rfl
    have paired := balanced.tickets
    omega
  have retired : s.workerRetirements ≤ apCount := by
    have counted := balanced.retirements
    omega
  have cancels : s.remoteCancelCompletions ≤ s.remoteCancelRequests := by
    have counted := balanced.cancels
    omega
  have items : s.completed + s.cancelled ≤ s.enqueued := by
    have counted := balanced.items
    omega
  have shut : ¬ (s.shutdownComplete = true ∧ (s.intakeOpen = true ∨ s.onlineMask ≠ 1#8 ∨
      s.pendingCount ≠ 0 ∨ ∃ index, (s.slots index).state ≠ .free)) := by
    rintro ⟨shut, opened⟩
    obtain ⟨closed, mask, none_, free⟩ := consistent.closed shut
    have idle : s.pendingCount = 0 := by
      have off : ∀ cpu, s.pending cpu = none := fun cpu => none_ (some cpu)
      have offline : s.offlinePending = none := none_ none
      have zero : Cells.count s.pending (fun _ => true) = 0 := by
        rw [Cells.count_eq_zero]
        simp [off]
      unfold pendingCount
      rw [zero, offline]
      rfl
    rcases opened with opened | masked | pending | ⟨index, used⟩
    · rw [closed] at opened
      cases opened
    · exact masked mask
    · exact pending idle
    · exact used (free index)
  unfold validate
  rw [demand, if_pos consistent.mask]
  simp only [folded, bind, Except.bind]
  rw [demand, if_pos ⟨matching, items, cancels, balanced.entries, balanced.bypass.1, retired, balanced.generation⟩]
  rw [demand, if_pos shut]

end Validate

section Start

theorem sound_new : Sound Controller.new := by
  refine ⟨⟨by decide, ?_, ?_, ⟨?_, ?_, ?_⟩, nofun⟩, ?_⟩
  · intro index used
    exact absurd rfl used
  · intro index other used
    exact absurd rfl used
  · intro place ticket out
    cases place <;> cases out
  · intro index dispatching
    cases dispatching
  · intro left right ticket other out
    cases left <;> cases out
  · have none_ : ∀ (property : Slot → Prop) [DecidablePred property], ¬ property (Slot.emptied 0) →
        Controller.new.count property = 0 := by
      intro property _ off
      unfold Controller.count
      rw [card_eq_zero, filter_eq_empty_iff]
      exact fun _ _ => off
    have sent : Controller.new.sent = 0 := none_ _ (by decide)
    have pending : Controller.new.pendingCount = 0 := by decide
    exact ⟨by rw [live]; rfl, by rw [ended]; rfl, rfl, by rw [pending, sent], by decide, rfl, le_rfl,
      by rw [flagged]; exact le_rfl, by rw [unflagged]; exact le_rfl, ⟨by decide, fun _ => Nat.zero_le _⟩,
      by rw [workers]; rfl, by decide, by decide, by decide⟩

end Start

section Rewrites

variable {index : Index} {slot : Slot}

/-- One slot is rewritten. -/
def Rewrites (s s' : Controller) (index : Index) (slot : Slot) : Prop :=
  s'.slots = update s.slots index slot

section

variable (change : Rewrites s s' index slot)
include change

theorem Rewrites.self : s'.slots index = slot := by
  rw [change, update_self]

theorem Rewrites.other {other : Index} (apart : other ≠ index) :
    s'.slots other = s.slots other := by
  rw [change, update_of_ne apart]

theorem Rewrites.id_other {other : Index}
    (apart : other ≠ index) : s'.id other = s.id other := by
  unfold Controller.id
  rw [change.other apart]

/-- No item completes when a slot is rewritten with one that has not. -/
theorem Rewrites.fresh (other : slot.state ≠ .completed) (place : Index)
    (completed : (s'.slots place).state = .completed) : (s.slots place).state = .completed := by
  by_cases same : place = index
  · subst same
    rw [change.self] at completed
    exact absurd completed other
  · rw [change.other same] at completed
    exact completed

end

/-- The item of this generation has left the slot, or stays there completed. -/
def Past (slot : Slot) (generation : Nat) : Prop :=
  generation < slot.generation ∨
    generation = slot.generation ∧ (slot.state = .completed ∨ slot.state = .free)

theorem Past.of_live {old : Slot} {generation : Nat} (past : Past old generation) (completed : old.state ≠ .completed)
    (used : old.state ≠ .free) (same : old.generation ≤ slot.generation) : Past slot generation := by
  rcases past with older | ⟨_, ended | free⟩
  · exact .inl (older.trans_le same)
  · exact absurd ended completed
  · exact absurd free used

theorem Rewrites.past (change : Rewrites s s' index slot)
    (keeps : ∀ generation, Past (s.slots index) generation → Past slot generation) (place : Index) (generation : Nat)
    (past : Past (s.slots place) generation) : Past (s'.slots place) generation := by
  by_cases same : place = index
  · subst same
    rw [change.self]
    exact keeps generation past
  · rw [change.other same]
    exact past

/-- Identities tell slots apart. -/
theorem id_injective {other : Index} {left right : Controller} (same : left.id index = right.id other) :
    index = other := by
  rw [WorkId.mk.injEq] at same
  exact Fin.ext same.1

/-- The workers are as they were. -/
def SameWorkers (s s' : Controller) : Prop :=
  s'.workerGeneration = s.workerGeneration ∧ s'.onlineMask = s.onlineMask

variable {place : Place} {ticket : DispatchTicket}

/-- A ticket for another slot is not concerned. -/
theorem Names.other (change : Rewrites s s' index slot) (workers : SameWorkers s s') {other : Index}
    (names : Names s place ticket other) (apart : other ≠ index) : Names s' place ticket other := by
  obtain ⟨item, dispatching, source, target, worker⟩ := names
  refine ⟨?_, ?_, ?_, target, ?_⟩
  · rw [change.id_other apart]
    exact item
  · rw [change.other apart]
    exact dispatching
  · rw [change.other apart]
    exact source
  · rw [workers.1, workers.2]
    exact worker

/-- A slot without a ticket is rewritten, or one with a ticket keeps its item and its state. -/
theorem Ticketed.keep (ticketed : Ticketed s) (change : Rewrites s s' index slot) (workers : SameWorkers s s')
    (tickets : s'.ticketAt = s.ticketAt) (stays : (s.slots index).state = .dispatching → slot.state = .dispatching ∧
      slot.generation = (s.slots index).generation ∧ slot.request = (s.slots index).request)
    (aside : (s.slots index).state ≠ .dispatching → slot.state ≠ .dispatching) : Ticketed s' := by
  refine ⟨fun place ticket out => ?_, fun other dispatching => ?_, ?_⟩
  · rw [tickets] at out
    obtain ⟨other, names⟩ := ticketed.named place ticket out
    by_cases same : other = index
    · subst same
      obtain ⟨state, generation, request⟩ := stays names.dispatching
      obtain ⟨item, _, source, target, worker⟩ := names
      refine ⟨other, ?_, ?_, ?_, target, ?_⟩
      · rw [item]
        unfold Controller.id
        rw [change.self, generation]
      · rw [change.self]
        exact state
      · rw [change.self, request]
        exact source
      · rw [workers.1, workers.2]
        exact worker
    · exact ⟨other, names.other change workers same⟩
  · rw [tickets]
    by_cases same : other = index
    · subst same
      rw [change.self] at dispatching
      by_cases was : (s.slots other).state = .dispatching
      · obtain ⟨place, ticket, out, item⟩ := ticketed.owned other was
        refine ⟨place, ticket, out, ?_⟩
        rw [item]
        unfold Controller.id
        rw [change.self, (stays was).2.1]
      · exact absurd dispatching (aside was)
    · rw [change.other same] at dispatching
      rw [change.id_other same]
      exact ticketed.owned other dispatching
  · rw [tickets]
    exact ticketed.alone

theorem Ticketed.same (ticketed : Ticketed s) (slots : s'.slots = s.slots)
    (workers : SameWorkers s s') (tickets : s'.ticketAt = s.ticketAt) : Ticketed s' := by
  have change : Rewrites s s' ⟨0, by decide⟩ (s.slots ⟨0, by decide⟩) := by
    unfold Rewrites
    rw [slots, Function.update_eq_self]
  exact ticketed.keep change workers tickets (fun sent => ⟨sent, rfl, rfl⟩) (fun idle => idle)

/-- A ticket is issued for a slot that had none. -/
theorem Ticketed.issue (ticketed : Ticketed s) (change : Rewrites s s' index slot) (workers : SameWorkers s s')
    (vacant : s.ticketAt place = none) (tickets : s'.ticketAt = update s.ticketAt place (some ticket))
    (idle : (s.slots index).state ≠ .dispatching) (names : Names s' place ticket index) : Ticketed s' := by
  have elsewhere : ∀ {spot other}, s.ticketAt spot = some other → other.id ≠ ticket.id := by
    intro spot other out same
    obtain ⟨home, named⟩ := ticketed.named spot other out
    have here : home = index := id_injective (named.item.symm.trans (same.trans names.item))
    subst here
    exact idle named.dispatching
  refine ⟨fun spot other out => ?_, fun other dispatching => ?_, ?_⟩
  · rw [tickets] at out
    by_cases here : spot = place
    · subst here
      rw [update_self] at out
      cases out
      exact ⟨index, names⟩
    · rw [update_of_ne here] at out
      obtain ⟨home, named⟩ := ticketed.named spot other out
      refine ⟨home, named.other change workers ?_⟩
      rintro rfl
      exact idle named.dispatching
  · rw [tickets]
    by_cases same : other = index
    · subst same
      exact ⟨place, ticket, update_self .., names.item⟩
    · rw [change.other same] at dispatching
      obtain ⟨spot, old, out, item⟩ := ticketed.owned other dispatching
      refine ⟨spot, old, ?_, item.trans (change.id_other same).symm⟩
      rw [update_of_ne]
      · exact out
      · rintro rfl
        rw [vacant] at out
        cases out
  · rw [tickets]
    intro left right first second out out' same
    by_cases here : left = place
    · subst here
      rw [update_self] at out
      cases out
      by_cases there : right = left
      · exact there.symm
      · rw [update_of_ne there] at out'
        exact absurd same.symm (elsewhere out')
    · rw [update_of_ne here] at out
      by_cases there : right = place
      · subst there
        rw [update_self] at out'
        cases out'
        exact absurd same (elsewhere out)
      · rw [update_of_ne there] at out'
        exact ticketed.alone left right first second out out' same

/-- A ticket is taken back together with the dispatch of its slot. -/
theorem Ticketed.clear (ticketed : Ticketed s) (change : Rewrites s s' index slot) (workers : SameWorkers s s')
    (out : s.ticketAt place = some ticket) (names : Names s place ticket index)
    (tickets : s'.ticketAt = update s.ticketAt place none) (ends : slot.state ≠ .dispatching)
    : Ticketed s' := by
  have kept : ∀ {spot old}, s'.ticketAt spot = some old → spot ≠ place ∧ s.ticketAt spot = some old := by
    intro spot old held
    rw [tickets] at held
    by_cases here : spot = place
    · subst here
      rw [update_self] at held
      cases held
    · rw [update_of_ne here] at held
      exact ⟨here, held⟩
  refine ⟨fun spot old held => ?_, fun other dispatching => ?_, ?_⟩
  · obtain ⟨apart, held'⟩ := kept held
    obtain ⟨home, named⟩ := ticketed.named spot old held'
    refine ⟨home, named.other change workers ?_⟩
    rintro rfl
    exact apart (ticketed.alone spot place old ticket held' out (named.item.trans names.item.symm))
  · have apart : other ≠ index := by
      rintro rfl
      rw [change.self] at dispatching
      exact ends dispatching
    rw [change.other apart] at dispatching
    obtain ⟨spot, old, held, item⟩ := ticketed.owned other dispatching
    refine ⟨spot, old, ?_, item.trans (change.id_other apart).symm⟩
    rw [tickets, update_of_ne]
    · exact held
    · rintro rfl
      rw [out] at held
      cases held
      exact apart (id_injective (item.symm.trans names.item))
  · intro left right first second held held'
    exact ticketed.alone left right first second (kept held).2 (kept held').2

theorem ticketAt_setPending {cpu : CpuId} {value : Option DispatchTicket}
    (pending : s'.pending = update s.pending cpu value) (offline : s'.offlinePending = s.offlinePending) :
    s'.ticketAt = update s.ticketAt (some cpu) value := by
  funext place
  cases place with
  | none =>
    exact offline
  | some other =>
    change s'.pending other = _
    rw [pending]
    by_cases same : other = cpu
    · subst same
      rw [update_self, update_self]
    · rw [update_of_ne same, update_of_ne (by simp [same])]
      rfl

theorem ticketAt_setOffline {value : Option DispatchTicket} (pending : s'.pending = s.pending)
    (offline : s'.offlinePending = value) : s'.ticketAt = update s.ticketAt none value := by
  funext place
  cases place with
  | none =>
    exact offline
  | some cpu =>
    change s'.pending cpu = s.pending cpu
    rw [pending]

theorem ticketAt_same (pending : s'.pending = s.pending)
    (offline : s'.offlinePending = s.offlinePending) : s'.ticketAt = s.ticketAt := by
  funext place
  cases place with
  | none => exact offline
  | some cpu =>
    change s'.pending cpu = s.pending cpu
    rw [pending]

/-- A slot is rewritten with an item that fits. -/
theorem Consistent.rewrite (consistent : Consistent s) (change : Rewrites s s' index slot)
    (mask : s'.onlineMask = s.onlineMask) (later : s.enqueueSequence ≤ s'.enqueueSequence)
    (fits : slot.state ≠ .free → s'.Admissible slot ∧ (slot.state.Terminal → slot.completionSequence ≠ 0))
    (distinct : slot.state ≠ .free → ∀ other, other ≠ index → ¬ s.Holds slot.request other) (ticketed : Ticketed s')
    (opened : s'.shutdownComplete = false) : Consistent s' := by
  refine ⟨?_, fun other used => ?_, fun other third used holds => ?_, ticketed, fun shut => ?_⟩
  · rw [mask]
    exact consistent.mask
  · by_cases same : other = index
    · subst same
      rw [change.self] at used ⊢
      exact fits used
    · rw [change.other same] at used ⊢
      obtain ⟨⟨generation, key, source, nonzero, below, valid, numbered, older⟩, ended⟩ :=
        consistent.fits other used
      exact ⟨⟨generation, key, source, nonzero, below, valid, numbered, older.trans later⟩, ended⟩
  · by_contra apart
    unfold Controller.Holds at holds
    by_cases same : other = index
    · subst same
      rw [change.self] at used holds
      rw [change.other apart] at holds
      exact distinct used third apart holds
    · rw [change.other same] at used holds
      by_cases there : third = index
      · subst there
        rw [change.self] at holds
        refine distinct holds.1 other same ⟨used, ?_, ?_⟩
        · exact holds.2.1.symm
        · exact holds.2.2.symm
      · rw [change.other there] at holds
        exact apart (consistent.distinct other third used holds)
  · rw [opened] at shut
    cases shut

/-- A controller with an item is not shut down. -/
theorem Consistent.opened (consistent : Consistent s) (used : (s.slots index).state ≠ .free) :
    s.shutdownComplete = false := by
  by_contra shut
  rw [Bool.not_eq_false] at shut
  exact used ((consistent.closed shut).2.2.2 index)

end Rewrites

section Counts

/-- Rewriting one slot. -/
theorem count_rewrite {property : Slot → Prop} [DecidablePred property] {index : Index} {slot : Slot}
    (slots : s'.slots = update s.slots index slot) :
    s'.count property + (if property (s.slots index) then 1 else 0) =
      s.count property + (if property slot then 1 else 0) := by
  unfold Controller.count
  rw [slots]
  exact card_update property s.slots index slot

/-- How the counts of two controllers differ when one slot goes from `old` to `new`. -/
structure Moved (s s' : Controller) (old new : Slot) : Prop where
  live : s'.live + (if old.Live then 1 else 0) = s.live + (if new.Live then 1 else 0)
  ended : s'.ended + (if old.state.Terminal then 1 else 0) =
    s.ended + (if new.state.Terminal then 1 else 0)
  sent : s'.sent + (if old.state = .dispatching then 1 else 0) =
    s.sent + (if new.state = .dispatching then 1 else 0)
  flagged : s'.flagged + (if old.Live ∧ old.cancelRequested = true then 1 else 0) =
    s.flagged + (if new.Live ∧ new.cancelRequested = true then 1 else 0)
  unflagged : s'.unflagged + (if old.Live ∧ old.cancelRequested = false then 1 else 0) =
    s.unflagged + (if new.Live ∧ new.cancelRequested = false then 1 else 0)

section Moved

variable {index : Index} {slot : Slot}

section

variable (change : Rewrites s s' index slot)
include change

theorem moved : Moved s s' (s.slots index) slot :=
  ⟨count_rewrite change, count_rewrite change, count_rewrite change, count_rewrite change, count_rewrite change⟩

theorem Rewrites.admits (free : (s.slots index).state = .free)
    (queued : slot.state = .queued) (unasked : slot.cancelRequested = false) :
    s'.live = s.live + 1 ∧ s'.ended = s.ended ∧ s'.sent = s.sent ∧ s'.flagged = s.flagged ∧
      s'.unflagged = s.unflagged + 1 := by
  obtain ⟨live, ended, sent, flagged, unflagged⟩ := moved change
  simp [Slot.Live, WorkState.Terminal, free, queued, unasked] at live ended sent flagged unflagged
  exact ⟨live, ended, sent, flagged, unflagged⟩

theorem Rewrites.withdraws
    (queued : (s.slots index).state = .queued) (cancelled : slot.state = .cancelled) :
    s'.live + 1 = s.live ∧ s'.ended = s.ended + 1 ∧ s'.sent = s.sent ∧ s'.flagged ≤ s.flagged ∧
      s'.unflagged ≤ s.unflagged := by
  obtain ⟨live, ended, sent, flagged, unflagged⟩ := moved change
  simp [Slot.Live, WorkState.Terminal, queued, cancelled] at live ended sent flagged unflagged
  exact ⟨live, ended, sent, by omega, by omega⟩

/-- Between the queue and a processor. -/
theorem Rewrites.shifts (live : (s.slots index).Live)
    (live' : slot.Live) (same : slot.cancelRequested = (s.slots index).cancelRequested) :
    s'.live = s.live ∧ s'.ended = s.ended ∧ s'.flagged = s.flagged ∧ s'.unflagged = s.unflagged := by
  obtain ⟨lives, ended, _, flagged, unflagged⟩ := moved change
  have off : ¬ (s.slots index).state.Terminal := by
    rcases live with state | state <;> rw [state] <;> decide
  have off' : ¬ slot.state.Terminal := by
    rcases live' with state | state <;> rw [state] <;> decide
  simp only [live, live', off, off', same, if_true, if_false, true_and, Nat.add_zero,
    Nat.add_right_cancel_iff] at lives ended flagged unflagged
  exact ⟨lives, ended, flagged, unflagged⟩

theorem Rewrites.asks
    (sent : (s.slots index).state = .dispatching) (unasked : (s.slots index).cancelRequested = false)
    (sent' : slot.state = .dispatching) (asked : slot.cancelRequested = true) :
    s'.live = s.live ∧ s'.ended = s.ended ∧ s'.sent = s.sent ∧ s'.flagged = s.flagged + 1 ∧
      s'.unflagged + 1 = s.unflagged := by
  obtain ⟨live, ended, same, flagged, unflagged⟩ := moved change
  simp [Slot.Live, WorkState.Terminal, sent, unasked, sent', asked] at live ended same flagged unflagged
  exact ⟨live, ended, same, flagged, unflagged⟩

theorem Rewrites.finishes (sent : (s.slots index).state = .dispatching)
    (terminal : slot.state.Terminal) : s'.live + 1 = s.live ∧ s'.ended = s.ended + 1 ∧ s'.sent + 1 = s.sent ∧
      s'.flagged + (if (s.slots index).cancelRequested = true then 1 else 0) = s.flagged ∧
        s'.unflagged ≤ s.unflagged := by
  obtain ⟨live, ended, same, flagged, unflagged⟩ := moved change
  have idle : slot.state ≠ .dispatching ∧ slot.state ≠ .queued := by
    rcases terminal with state | state <;> rw [state] <;> decide
  rw [if_pos terminal] at ended
  simp [Slot.Live, WorkState.Terminal, sent, idle] at live ended same flagged unflagged
  exact ⟨live, ended, same, flagged, by omega⟩

theorem Rewrites.frees (terminal : (s.slots index).state.Terminal)
    (free : slot.state = .free) :
    s'.live = s.live ∧ s'.ended + 1 = s.ended ∧ s'.sent = s.sent ∧ s'.flagged = s.flagged ∧
      s'.unflagged = s.unflagged := by
  obtain ⟨live, ended, sent, flagged, unflagged⟩ := moved change
  have idle : (s.slots index).state ≠ .dispatching ∧ (s.slots index).state ≠ .queued := by
    rcases terminal with state | state <;> rw [state] <;> decide
  rw [if_pos terminal] at ended
  simp [Slot.Live, WorkState.Terminal, idle, free] at live ended sent flagged unflagged
  exact ⟨live, ended, sent, flagged, unflagged⟩

end

end Moved

/-- A slot with a property is counted. -/
theorem count_pos {property : Slot → Prop} [DecidablePred property] {index : Index}
    (holds : property (s.slots index)) : 0 < s.count property := by
  unfold Controller.count
  rw [card_pos]
  exact ⟨index, by simp [holds]⟩

end Counts

section Loads

/-- What the item of a slot will add to the sample sum. -/
def Slot.weight (slot : Slot) : Nat :=
  if slot.cancelRequested then 0
  else match slot.request.consumer with
    | .driverTimerBottomHalf _ sample => sample
    | .serviceGenerationReclaim _ _ => 0

/-- What the ticket of a processor will add to the sample sum. -/
def Controller.load (s : Controller) (cpu : CpuId) : Nat :=
  match s.pending cpu with
  | none => 0
  | some ticket =>
    if inside : ticket.id.slot < workCapacity then (s.slots ⟨ticket.id.slot, inside⟩).weight else 0

/-- The sample sum has room for every ticket that is out on a processor. -/
def Room (s : Controller) : Prop := s.driverSampleSum + ∑ cpu, s.load cpu < u32Values

variable {index : Index} {slot : Slot} {cpu : CpuId} {ticket : DispatchTicket}

theorem load_names (out : s.pending cpu = some ticket) (names : Names s (some cpu) ticket index) :
    s.load cpu = (s.slots index).weight := by
  have place : ticket.id.slot = index.val := by
    rw [names.item]
    rfl
  have inside : ticket.id.slot < workCapacity := by
    rw [place]
    exact index.isLt
  have same : (⟨ticket.id.slot, inside⟩ : Index) = index := Fin.ext place
  unfold Controller.load
  rw [out]
  dsimp only
  rw [dif_pos inside, same]

theorem load_none (idle : s.pending cpu = none) : s.load cpu = 0 := by
  unfold Controller.load
  rw [idle]

/-- A slot is rewritten with an item that adds no more. -/
theorem Rewrites.load_le (change : Rewrites s s' index slot) (ticketed : Ticketed s) (pending : s'.pending = s.pending)
    (ticketed' : Ticketed s') (lighter : ∀ cpu ticket, s.pending cpu = some ticket → Names s (some cpu) ticket index →
      slot.weight ≤ (s.slots index).weight) (cpu : CpuId) : s'.load cpu ≤ s.load cpu := by
  cases out : s.pending cpu with
  | none =>
    rw [load_none out, load_none (pending ▸ out)]
  | some ticket =>
    have out' : s'.pending cpu = some ticket := pending ▸ out
    obtain ⟨home, names⟩ := ticketed.named (some cpu) ticket out
    obtain ⟨home', names'⟩ := ticketed'.named (some cpu) ticket out'
    rw [load_names out names, load_names out' names']
    have same : home' = home := id_injective (names'.item.symm.trans names.item)
    subst same
    by_cases here : home' = index
    · subst here
      rw [change.self]
      exact lighter cpu ticket out names
    · rw [change.other here]

theorem Room.mono (room : Room s) (sum : s'.driverSampleSum = s.driverSampleSum)
    (loads : ∀ cpu, s'.load cpu ≤ s.load cpu) : Room s' := by
  have total : ∑ cpu, s'.load cpu ≤ ∑ cpu, s.load cpu := Finset.sum_le_sum (fun cpu _ => loads cpu)
  unfold Room at room ⊢
  omega

end Loads

end PooleOS.Workers
