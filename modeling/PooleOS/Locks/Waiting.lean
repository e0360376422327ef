import PooleOS.Locks.MutexSteps

/- Bookkeeping and bounded waiting of the sleeping mutex over whole runs. -/
namespace PooleOS.Locks

open List

section Queue

variable {mutex : SleepMutex} {index : Nat}

@[simp] theorem passedOver_owner (waiter : MutexWaiter) :
    (SleepMutex.MutexWaiter.passedOver waiter).owner = waiter.owner := rfl

@[simp] theorem passedOver_ticket (waiter : MutexWaiter) :
    (SleepMutex.MutexWaiter.passedOver waiter).ticket = waiter.ticket := rfl

/-- Passing over changes ages only. -/
theorem map_passOver {α : Type} (field : MutexWaiter → α)
    (same : ∀ waiter, field (SleepMutex.MutexWaiter.passedOver waiter) = field waiter) (waiters : List MutexWaiter) :
    (SleepMutex.passOver index waiters).map field = waiters.map field := by
  refine ext_getElem? (fun position => ?_)
  unfold SleepMutex.passOver
  rw [getElem?_map, getElem?_map, getElem?_mapIdx, Option.map_map]
  congr 1
  funext waiter
  split
  · exact same waiter
  · rfl

theorem length_passOver (waiters : List MutexWaiter) : (SleepMutex.passOver index waiters).length = waiters.length := by
  unfold SleepMutex.passOver
  rw [length_mapIdx]

/-- Whoever is left after a handoff was passed over. -/
theorem mem_passed {waiters : List MutexWaiter} {waiter : MutexWaiter}
    (member : waiter ∈ (SleepMutex.passOver index waiters).eraseIdx index) :
    ∃ before ∈ waiters, waiter = SleepMutex.MutexWaiter.passedOver before := by
  obtain ⟨position, other, here⟩ := mem_eraseIdx_iff_getElem?.mp member
  unfold SleepMutex.passOver at here
  rw [getElem?_mapIdx] at here
  obtain ⟨before, there, same⟩ := Option.map_eq_some_iff.mp here
  rw [if_pos other] at same
  exact ⟨before, mem_of_getElem? there, same.symm⟩

end Queue

/-- The owner and the queue fit together. -/
structure Booked (mutex : SleepMutex) : Prop where
  tickets : (mutex.waiters.map (·.ticket)).Pairwise (· < ·)
  below : ∀ waiter ∈ mutex.waiters, waiter.ticket < mutex.nextTicket
  distinct : (mutex.waiters.map (·.owner)).Nodup
  named : ∀ waiter ∈ mutex.waiters, waiter.owner ≠ 0
  apart : ∀ waiter ∈ mutex.waiters, waiter.owner ≠ mutex.owner
  idle : mutex.owner = 0 → mutex.waiters = []
  room : mutex.waiters.length ≤ maxMutexWaiters
  inherits : Inherits mutex

section Booked

variable {mutex mutex' : SleepMutex}

section

variable (booked : Booked mutex)
include booked

theorem Booked.ticket_inj {waiter other : MutexWaiter} (one : waiter ∈ mutex.waiters)
    (two : other ∈ mutex.waiters) (same : waiter.ticket = other.ticket) : waiter = other :=
  inj_on_of_nodup_map booked.tickets.nodup one two same

theorem Booked.enqueued {waiter : MutexWaiter} (owned : mutex.owner ≠ 0)
    (named : waiter.owner ≠ 0) (apart : mutex.owner ≠ waiter.owner)
    (fresh : ∀ other ∈ mutex.waiters, other.owner ≠ waiter.owner) (room : mutex.waiters.length ≠ maxMutexWaiters)
    (ticket : waiter.ticket = mutex.nextTicket) (owner : mutex'.owner = mutex.owner)
    (base : mutex'.ownerBasePriority = mutex.ownerBasePriority)
    (effective : mutex'.ownerEffectivePriority = max mutex.ownerEffectivePriority waiter.priority)
    (waiters : mutex'.waiters = mutex.waiters ++ [waiter]) (nextTicket : mutex'.nextTicket = mutex.nextTicket + 1)
    : Booked mutex' := by
  refine ⟨?_, ?_, ?_, ?_, ?_, ?_, ?_, ?_⟩
  · rw [waiters, map_append, pairwise_append]
    refine ⟨booked.tickets, pairwise_singleton _ _, ?_⟩
    intro earlier member later single
    obtain ⟨other, inside, rfl⟩ := mem_map.mp member
    rw [map_singleton, mem_singleton] at single
    rw [single, ticket]
    exact booked.below other inside
  · intro other member
    rw [waiters, mem_append, mem_singleton] at member
    rcases member with old | rfl
    · have := booked.below other old
      omega
    · omega
  · rw [waiters, map_append, map_singleton]
    refine booked.distinct.append (nodup_singleton _) ?_
    intro token member single
    obtain ⟨other, inside, rfl⟩ := mem_map.mp member
    exact fresh other inside (mem_singleton.mp single)
  · intro other member
    rw [waiters, mem_append, mem_singleton] at member
    rcases member with old | rfl
    · exact booked.named other old
    · exact named
  · intro other member
    rw [waiters, mem_append, mem_singleton] at member
    rw [owner]
    rcases member with old | rfl
    · exact booked.apart other old
    · exact apart.symm
  · intro free
    exact absurd (owner ▸ free) owned
  · have before := booked.room
    rw [waiters, length_append, length_singleton]
    omega
  · have old := booked.inherits
    unfold Inherits at old ⊢
    rw [waiters, base, effective, foldl_append, ← old]
    rfl

/-- Waiters that leave take nothing with them but themselves. -/
theorem Booked.leave
    (fewer : (mutex'.waiters.map (fun waiter => (waiter.owner, waiter.ticket))).Sublist
      (mutex.waiters.map (fun waiter => (waiter.owner, waiter.ticket))))
    (apart : ∀ waiter ∈ mutex'.waiters, waiter.owner ≠ mutex'.owner) (idle : mutex'.owner = 0 → mutex'.waiters = [])
    (inherits : Inherits mutex') (nextTicket : mutex'.nextTicket = mutex.nextTicket) : Booked mutex' := by
  have tickets : (mutex'.waiters.map (·.ticket)).Sublist (mutex.waiters.map (·.ticket)) := by
    simpa [map_map, Function.comp_def] using fewer.map Prod.snd
  have owners : (mutex'.waiters.map (·.owner)).Sublist (mutex.waiters.map (·.owner)) := by
    simpa [map_map, Function.comp_def] using fewer.map Prod.fst
  have known : ∀ waiter ∈ mutex'.waiters, ∃ before ∈ mutex.waiters,
      before.owner = waiter.owner ∧ before.ticket = waiter.ticket := by
    intro waiter member
    have pair := fewer.subset (mem_map_of_mem member)
    obtain ⟨before, inside, same⟩ := mem_map.mp pair
    exact ⟨before, inside, congrArg Prod.fst same, congrArg Prod.snd same⟩
  refine ⟨booked.tickets.sublist tickets, ?_, booked.distinct.sublist owners, ?_, apart, idle, ?_, inherits⟩
  · intro waiter member
    obtain ⟨before, inside, _, same⟩ := known waiter member
    rw [nextTicket, ← same]
    exact booked.below before inside
  · intro waiter member
    obtain ⟨before, inside, same, _⟩ := known waiter member
    rw [← same]
    exact booked.named before inside
  · have shorter := tickets.length_le
    rw [length_map, length_map] at shorter
    exact shorter.trans booked.room

theorem Booked.granted {waiter : MutexWaiter}
    (here : mutex.waiters[mutex.selected]? = some waiter) (owner : mutex'.owner = waiter.owner)
    (inherits : Inherits mutex') (waiters : mutex'.waiters =
      (SleepMutex.passOver mutex.selected mutex.waiters).eraseIdx mutex.selected)
    (nextTicket : mutex'.nextTicket = mutex.nextTicket) : Booked mutex' := by
  have chosen : waiter ∈ mutex.waiters := mem_of_getElem? here
  have owners : mutex'.waiters.map (·.owner) =
      (mutex.waiters.map (·.owner)).eraseIdx mutex.selected := by
    rw [waiters, ← eraseIdx_map, map_passOver _ passedOver_owner]
  have named : mutex'.owner ≠ 0 := owner ▸ booked.named waiter chosen
  refine booked.leave ?_ ?_ (absurd · named) inherits nextTicket
  · rw [waiters, ← eraseIdx_map, map_passOver _ (fun _ => rfl)]
    exact eraseIdx_sublist _ _
  · intro other member same
    have token : other.owner ∈ (mutex.waiters.map (·.owner)).eraseIdx mutex.selected :=
      owners ▸ mem_map_of_mem member
    obtain ⟨position, elsewhere, there⟩ := mem_eraseIdx_iff_getElem?.mp token
    have first : (mutex.waiters.map (·.owner))[mutex.selected]? = some other.owner := by
      rw [getElem?_map, here, same, owner]
      rfl
    obtain ⟨inside, _⟩ := List.getElem?_eq_some_iff.mp there
    exact elsewhere ((getElem?_inj inside booked.distinct).mp (there.trans first.symm))

theorem Booked.change {handed : Bool}
    (change : Change mutex mutex' handed) : Booked mutex' := by
  cases change with
  | still same =>
    refine ⟨?_, ?_, ?_, ?_, ?_, ?_, ?_, ?_⟩
    · exact same.waiters ▸ booked.tickets
    · rw [same.waiters, same.nextTicket]
      exact booked.below
    · exact same.waiters ▸ booked.distinct
    · exact same.waiters ▸ booked.named
    · rw [same.waiters, same.owner]
      exact booked.apart
    · rw [same.waiters, same.owner]
      exact booked.idle
    · exact same.waiters ▸ booked.room
    · unfold Inherits
      rw [same.waiters, same.base, same.effective]
      exact booked.inherits
  | acquired free taken waiters effective nextTicket =>
    have empty : mutex'.waiters = [] := waiters.trans (booked.idle free)
    refine booked.leave ?_ ?_ (fun _ => empty) ?_ nextTicket
    · rw [waiters]
    · simp [empty]
    · unfold Inherits
      rw [effective, empty]
      rfl
  | enqueued waiter owned named apart fresh room ticket young owner base effective waiters nextTicket =>
    exact booked.enqueued owned named apart fresh room ticket owner base effective waiters
      nextTicket
  | cleared owner effective waiters nextTicket =>
    refine booked.leave ?_ ?_ (fun _ => waiters) effective nextTicket
    · rw [waiters]
      exact nil_sublist _
    · simp [waiters]
  | granted waiter here owner effective waiters nextTicket =>
    exact booked.granted here owner effective waiters nextTicket
  | withdrawn index owner effective waiters nextTicket =>
    refine booked.leave ?_ ?_ ?_ effective nextTicket
    · rw [waiters]
      exact (eraseIdx_sublist _ _).map _
    · intro waiter member
      rw [waiters] at member
      rw [owner]
      exact booked.apart waiter (mem_of_mem_eraseIdx member)
    · intro free
      rw [waiters, booked.idle (owner ▸ free)]
      rfl

end

end Booked

/-- The waiters with an older ticket. -/
def ahead (mutex : SleepMutex) (ticket : Nat) : Nat :=
  (mutex.waiters.map (·.ticket)).countP (· < ticket)

/-- The waiter with this ticket can be passed over this many times more. -/
def Patient (mutex : SleepMutex) (ticket : Nat) (left : Nat) : Prop :=
  ∃ waiter ∈ mutex.waiters, waiter.ticket = ticket ∧
    (waiter.bypass < maxMutexBypass ∧ left = maxMutexBypass - waiter.bypass + (maxMutexWaiters - 1) ∨
      maxMutexBypass ≤ waiter.bypass ∧ left = ahead mutex ticket)

/-- The ticket is in the queue. -/
def Waits (mutex : SleepMutex) (ticket : Nat) : Prop :=
  ∃ waiter ∈ mutex.waiters, waiter.ticket = ticket

section Patience

variable {mutex mutex' : SleepMutex} {ticket left : Nat}

/-- A waiter who keeps its age and gains nobody ahead of it has as much patience as before. -/
theorem Patient.keep (patient : Patient mutex ticket left)
    (kept : ∀ waiter ∈ mutex.waiters, waiter.ticket = ticket → waiter ∈ mutex'.waiters)
    (fewer : ahead mutex' ticket ≤ ahead mutex ticket) : ∃ left', Patient mutex' ticket left' ∧ left' ≤ left := by
  obtain ⟨waiter, member, same, young | old⟩ := patient
  · exact ⟨left, ⟨waiter, kept waiter member same, same, .inl young⟩, le_rfl⟩
  · refine ⟨_, ⟨waiter, kept waiter member same, same, .inr ⟨old.1, rfl⟩⟩, ?_⟩
    omega

theorem ahead_le (waits : Waits mutex ticket) : ahead mutex ticket + 1 ≤ mutex.waiters.length := by
  obtain ⟨waiter, member, same⟩ := waits
  have other : ¬ (ticket < ticket) := Nat.lt_irrefl ticket
  have listed : ticket ∈ mutex.waiters.map (·.ticket) := same ▸ mem_map_of_mem member
  have bound : ahead mutex ticket < (mutex.waiters.map (·.ticket)).length := by
    refine Nat.lt_of_le_of_ne countP_le_length (fun all => other ?_)
    have every := countP_eq_length.mp all ticket listed
    exact of_decide_eq_true every
  rw [length_map] at bound
  exact bound

/-- A handoff to somebody else uses up one unit of patience. -/
theorem Patient.granted (booked : Booked mutex) (patient : Patient mutex ticket left) (waits : Waits mutex' ticket)
    {chosen : MutexWaiter} (here : mutex.waiters[mutex.selected]? = some chosen) (waiters : mutex'.waiters =
      (SleepMutex.passOver mutex.selected mutex.waiters).eraseIdx mutex.selected) : ∃ left', Patient mutex' ticket left'
    ∧ left' + 1 ≤ left := by
  obtain ⟨waiter, member, same, ages⟩ := patient
  obtain ⟨later, stays, sameLater⟩ := waits
  have inside := List.getElem?_eq_some_iff.mp here
  have tickets : mutex'.waiters.map (·.ticket) =
      (mutex.waiters.map (·.ticket)).eraseIdx mutex.selected := by
    rw [waiters, ← eraseIdx_map, map_passOver _ passedOver_ticket]
  -- tickets are distinct, so the waiter left in the queue is this one, one pass older
  have aged : later = SleepMutex.MutexWaiter.passedOver waiter := by
    obtain ⟨before, there, rfl⟩ := mem_passed (waiters ▸ stays)
    rw [booked.ticket_inj there member (sameLater.trans same.symm)]
  have count : ahead mutex ticket =
      ahead mutex' ticket + (if chosen.ticket < ticket then 1 else 0) := by
    have bound : mutex.selected < (mutex.waiters.map (·.ticket)).length := by
      rw [length_map]
      exact inside.1
    have split := getElem_cons_eraseIdx_perm bound
    unfold ahead
    rw [tickets, ← split.countP_eq, countP_cons, getElem_map, inside.2]
    simp only [decide_eq_true_eq]
  have shorter := ahead_le ⟨later, stays, sameLater⟩
  have room : mutex'.waiters.length + 1 ≤ maxMutexWaiters := by
    have limit := booked.room
    have size : mutex'.waiters.length = mutex.waiters.length - 1 := by
      rw [waiters, length_eraseIdx_of_lt, length_passOver]
      rw [length_passOver]
      exact inside.1
    omega
  have bypass : later.bypass = min (min (waiter.bypass + 1) u8Max) maxMutexBypass := by
    rw [aged]
    rfl
  unfold u8Max maxMutexBypass at bypass
  rcases ages with ⟨young, budget⟩ | ⟨old, budget⟩
  · unfold maxMutexBypass maxMutexWaiters at *
    by_cases last : waiter.bypass = 6
    · refine ⟨_, ⟨later, stays, sameLater, .inr ⟨?_, rfl⟩⟩, ?_⟩
      · unfold maxMutexBypass
        omega
      · omega
    · refine ⟨_, ⟨later, stays, sameLater, .inl ⟨?_, rfl⟩⟩, ?_⟩
      · unfold maxMutexBypass
        omega
      · unfold maxMutexBypass maxMutexWaiters
        omega
  · -- the waiter is starved: whoever is chosen instead holds an older ticket
    obtain ⟨oldest, found, least⟩ := selected_oldest member old
    obtain rfl : chosen = oldest := Option.some.inj (here.symm.trans found)
    have apart : chosen.ticket ≠ ticket := by
      intro equal
      have listed : ticket ∈ (mutex.waiters.map (·.ticket)).eraseIdx mutex.selected := by
        rw [← tickets, ← sameLater]
        exact mem_map_of_mem stays
      obtain ⟨position, elsewhere, there⟩ := mem_eraseIdx_iff_getElem?.mp listed
      have first : (mutex.waiters.map (·.ticket))[mutex.selected]? = some ticket := by
        rw [getElem?_map, here, ← equal]
        rfl
      obtain ⟨within, _⟩ := List.getElem?_eq_some_iff.mp there
      exact elsewhere ((getElem?_inj within booked.tickets.nodup).mp (there.trans first.symm))
    have older : chosen.ticket < ticket := by omega
    rw [if_pos older] at count
    refine ⟨_, ⟨later, stays, sameLater, .inr ⟨?_, rfl⟩⟩, by omega⟩
    unfold maxMutexBypass at *
    omega

theorem Patient.change (booked : Booked mutex) (patient : Patient mutex ticket left)
    (waits : Waits mutex' ticket) {handed : Bool} (change : Change mutex mutex' handed) :
    ∃ left', Patient mutex' ticket left' ∧ left' + handed.toNat ≤ left := by
  obtain ⟨later, stays, sameLater⟩ := waits
  cases change with
  | still same =>
    refine patient.keep (fun _ member _ => same.waiters ▸ member) ?_
    rw [ahead, same.waiters]
    exact le_rfl
  | acquired free taken waiters effective nextTicket =>
    refine patient.keep (fun _ member _ => waiters ▸ member) ?_
    rw [ahead, waiters]
    exact le_rfl
  | enqueued waiter owned named apart fresh room issued young owner base effective waiters nextTicket =>
    refine patient.keep (fun _ member _ => waiters ▸ mem_append_left _ member) ?_
    obtain ⟨this, member, same, _⟩ := patient
    have below := booked.below this member
    have newer : ¬ (waiter.ticket < ticket) := by omega
    rw [ahead, waiters, map_append, countP_append]
    simp [ahead, newer]
  | cleared owner effective waiters nextTicket =>
    rw [waiters] at stays
    cases stays
  | granted chosen here owner effective waiters nextTicket =>
    exact patient.granted booked ⟨later, stays, sameLater⟩ here waiters
  | withdrawn index owner effective waiters nextTicket =>
    refine patient.keep ?_ ?_
    · intro waiter member same
      have before : later ∈ mutex.waiters := mem_of_mem_eraseIdx (waiters ▸ stays)
      rw [booked.ticket_inj member before (same.trans sameLater.symm)]
      exact stays
    · rw [ahead, waiters]
      exact ((eraseIdx_sublist _ _).map _).countP_le

end Patience

/-- The handoffs a run of calls makes. -/
def handoffs : SleepMutex → List MutexCall → Nat
  | _, [] => 0
  | mutex, call :: rest =>
    (MutexReply.granting (mutex.apply call).1).toNat + handoffs (mutex.apply call).2 rest

/-- The ticket is in the queue now and after each of the calls. -/
def StaysWaiting (ticket : Nat) : SleepMutex → List MutexCall → Prop
  | mutex, [] => Waits mutex ticket
  | mutex, call :: rest => Waits mutex ticket ∧ StaysWaiting ticket (mutex.apply call).2 rest

theorem StaysWaiting.here {ticket : Nat} {mutex : SleepMutex} {calls : List MutexCall}
    (stays : StaysWaiting ticket mutex calls) : Waits mutex ticket := by
  cases calls with
  | nil => exact stays
  | cons call rest => exact stays.1

end PooleOS.Locks
