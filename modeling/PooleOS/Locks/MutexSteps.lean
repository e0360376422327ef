import PooleOS.Locks.Mutex

/- What one call can do to the owner and the queue of the sleeping mutex, said
once for each method: a failed call leaves both alone, and a successful one
makes one of six changes. -/
namespace PooleOS.Locks

open Op
open List

section Selection

variable {mutex : SleepMutex}

theorem starved_ok {entry : MutexWaiter × Nat} (found : mutex.starved = some entry) :
    mutex.waiters[entry.2]? = some entry.1 ∧ ∀ waiter ∈ mutex.waiters, maxMutexBypass ≤ waiter.bypass →
        entry.1.ticket ≤ waiter.ticket := by
  have member := mem_of_mem_filter (argmin_mem found)
  refine ⟨mem_zipIdx_iff_getElem?.mp member, ?_⟩
  intro waiter inside old
  obtain ⟨index, bound, here⟩ := getElem_of_mem inside
  have listed : (waiter, index) ∈ mutex.waiters.zipIdx.filter
      (fun entry => maxMutexBypass ≤ entry.1.bypass) := by
    rw [mem_filter]
    refine ⟨mem_zipIdx_iff_getElem?.mpr ?_, decide_eq_true old⟩
    exact List.getElem?_eq_some_iff.mpr ⟨bound, here⟩
  have least := le_of_mem_argmin listed found
  exact least

theorem starved_none (none : mutex.starved = none) {waiter : MutexWaiter}
    (inside : waiter ∈ mutex.waiters) : waiter.bypass < maxMutexBypass := by
  unfold SleepMutex.starved at none
  rw [argmin_eq_none, filter_eq_nil_iff] at none
  obtain ⟨index, bound, here⟩ := getElem_of_mem inside
  have listed : (waiter, index) ∈ mutex.waiters.zipIdx :=
    List.mem_zipIdx_iff_getElem?.mpr (List.getElem?_eq_some_iff.mpr ⟨bound, here⟩)
  have young := none _ listed
  simpa using young

/-- Once somebody is starved the selected waiter is the oldest of those. -/
theorem selected_oldest {waiter : MutexWaiter} (inside : waiter ∈ mutex.waiters)
    (old : maxMutexBypass ≤ waiter.bypass) :
    ∃ chosen, mutex.waiters[mutex.selected]? = some chosen ∧ chosen.ticket ≤ waiter.ticket := by
  cases found : mutex.starved with
  | none =>
    have young := starved_none found inside
    omega
  | some entry =>
    obtain ⟨here, least⟩ := starved_ok found
    refine ⟨entry.1, ?_, least waiter inside old⟩
    simpa [SleepMutex.selected, found] using here

end Selection

/-- The fields the invariant speaks about are as they were. -/
structure SameBook (mutex mutex' : SleepMutex) : Prop where
  owner : mutex'.owner = mutex.owner
  base : mutex'.ownerBasePriority = mutex.ownerBasePriority
  effective : mutex'.ownerEffectivePriority = mutex.ownerEffectivePriority
  waiters : mutex'.waiters = mutex.waiters
  nextTicket : mutex'.nextTicket = mutex.nextTicket

theorem SameBook.refl (mutex : SleepMutex) : SameBook mutex mutex := ⟨rfl, rfl, rfl, rfl, rfl⟩

/-- The effective priority is the highest of the owner's own and the waiters'. -/
def Inherits (mutex : SleepMutex) : Prop :=
  mutex.ownerEffectivePriority =
    mutex.waiters.foldl (fun effective waiter => max effective waiter.priority)
      mutex.ownerBasePriority

/-- Everything a call can do to the owner and the queue, and whether it handed the mutex over. -/
inductive Change (mutex mutex' : SleepMutex) : Bool → Prop
  | still (same : SameBook mutex mutex') : Change mutex mutex' false
  | acquired (free : mutex.owner = 0) (taken : mutex'.owner ≠ 0)
      (waiters : mutex'.waiters = mutex.waiters)
      (effective : mutex'.ownerEffectivePriority = mutex'.ownerBasePriority)
      (nextTicket : mutex'.nextTicket = mutex.nextTicket) : Change mutex mutex' false
  | enqueued (waiter : MutexWaiter) (owned : mutex.owner ≠ 0) (named : waiter.owner ≠ 0)
      (apart : mutex.owner ≠ waiter.owner)
      (fresh : ∀ other ∈ mutex.waiters, other.owner ≠ waiter.owner)
      (room : mutex.waiters.length ≠ maxMutexWaiters)
      (ticket : waiter.ticket = mutex.nextTicket) (young : waiter.bypass = 0)
      (owner : mutex'.owner = mutex.owner)
      (base : mutex'.ownerBasePriority = mutex.ownerBasePriority)
      (effective : mutex'.ownerEffectivePriority = max mutex.ownerEffectivePriority waiter.priority)
      (waiters : mutex'.waiters = mutex.waiters ++ [waiter])
      (nextTicket : mutex'.nextTicket = mutex.nextTicket + 1) : Change mutex mutex' false
  | cleared (owner : mutex'.owner = 0) (effective : Inherits mutex')
      (waiters : mutex'.waiters = []) (nextTicket : mutex'.nextTicket = mutex.nextTicket) :
      Change mutex mutex' false
  | granted (waiter : MutexWaiter) (here : mutex.waiters[mutex.selected]? = some waiter)
      (owner : mutex'.owner = waiter.owner) (effective : Inherits mutex')
      (waiters : mutex'.waiters = (SleepMutex.passOver mutex.selected mutex.waiters).eraseIdx mutex.selected)
      (nextTicket : mutex'.nextTicket = mutex.nextTicket) : Change mutex mutex' true
  | withdrawn (index : Nat) (owner : mutex'.owner = mutex.owner) (effective : Inherits mutex')
      (waiters : mutex'.waiters = mutex.waiters.eraseIdx index)
      (nextTicket : mutex'.nextTicket = mutex.nextTicket) : Change mutex mutex' false

section Calls

variable {site : Site}

/-- A call that fails leaves the book alone. -/
def Untouched (site site' : Site) : Prop := site'.mutex = site.mutex

theorem wp_enqueue (priority deadline : Nat) (owned : site.mutex.owner ≠ 0) (named : site.context.owner ≠ 0) :
    wp (Site.enqueue priority deadline) (fun reply site' => Change site.mutex site'.mutex false ∧
        ∃ donate, reply = .blocked site.mutex.nextTicket donate ∧
          ∃ waiter ∈ site'.mutex.waiters, waiter.ticket = site.mutex.nextTicket ∧ waiter.bypass = 0)
      (fun _ => Untouched site) site := by
  unfold Site.enqueue
  rw [wp_bind, wp_read, wp_bind]
  refine wp_ensure_intro (fun apart => ?_) (fun _ => rfl)
  rw [wp_bind]
  refine wp_ensure_intro (fun fresh => ?_) (fun _ => rfl)
  rw [wp_bind]
  refine wp_ensure_intro (fun room => ?_) (fun _ => rfl)
  rw [wp_bind]
  refine wp_orError (fun next counted => ?_) (fun _ => rfl)
  rw [checkedAdd_eq_some] at counted
  refine ⟨?_, _, rfl, _, mem_append_right _ (mem_singleton_self _), rfl, rfl⟩
  exact .enqueued _ owned named apart fresh room rfl rfl rfl rfl rfl rfl counted.2

/-- A caller that was blocked waits under the ticket it was told, passed over by nobody yet. -/
def Queued (mutex : SleepMutex) : MutexAcquire → Prop
  | .acquired => True
  | .blocked ticket _ => ∃ waiter ∈ mutex.waiters, waiter.ticket = ticket ∧ waiter.bypass = 0

theorem wp_withdraw (index : Nat) (reason : WakeReason) :
    wp (Site.withdraw index reason) (fun _ site' => Change site.mutex site'.mutex false)
      (fun _ => Untouched site) site := by
  unfold Site.withdraw
  rw [wp_bind, wp_read, wp_bind]
  refine wp_lift_intro (fun removed ok => ?_) (fun _ _ => rfl)
  unfold SleepMutex.removeWaiter at ok
  split at ok
  · cases ok
  · cases ok
    exact .withdrawn index rfl rfl rfl rfl

theorem wp_timeout (owner now : Nat) :
    wp (Site.timeout owner now) (fun _ site' => Change site.mutex site'.mutex false)
      (fun _ => Untouched site) site := by
  unfold Site.timeout
  rw [wp_bind, wp_read, wp_bind]
  refine wp_lift_intro (fun index _ => ?_) (fun _ _ => rfl)
  rw [wp_bind]
  exact wp_ensure_intro (fun _ => wp_withdraw index .timedOut) (fun _ => rfl)

/-- Whether a call handed the mutex to a waiter. -/
def MutexReply.granting : Except Error MutexReply → Bool
  | .ok (.maybeWake granted) => granted.isSome
  | _ => false

end Calls

end PooleOS.Locks
