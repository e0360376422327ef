import PooleOS.Locks.Sequence

/- Who holds the writer lock. Only the owner word matters here, so that nothing depends on how
many tickets have been handed out. -/
namespace PooleOS.Locks.Sequence

open Ticket (Lock Pc access)

/-- The thread is giving a permit back. -/
def Releasing : Pc → Prop
  | .unlockServing _ => True
  | .unlockOwner _ => True
  | .unlockBump _ => True
  | .advanceOwner .unlocked => True
  | .advanceServing .unlocked => True
  | .advanceLook .unlocked _ => True
  | .advanceLoad .unlocked _ => True
  | .advanceClear .unlocked _ _ => True
  | .advanceBump .unlocked _ => True
  | _ => False

/-- The thread is in `lock` or in `lock_bounded`. -/
def Acquiring : Pc → Prop
  | .lockOwner _ => True
  | .reserveNext _ => True
  | .reserveServing _ _ => True
  | .reserveAgain _ _ => True
  | .reserveTake _ _ => True
  | .poll _ _ => True
  | .contend _ _ => True
  | .lastPoll _ => True
  | .claim _ => True
  | .claimed _ => True
  | .cancelServing _ => True
  | .cancelMark _ => True
  | .advanceOwner .timedOut => True
  | .advanceServing .timedOut => True
  | .advanceLook .timedOut _ => True
  | .advanceLoad .timedOut _ => True
  | .advanceClear .timedOut _ _ => True
  | .advanceBump .timedOut _ => True
  | .countTimeout => True
  | _ => False

/-- The ticket that a thread in the ticket lock has been granted and not given back. -/
def inside : Pc → Option Nat
  | .claimed ticket => some ticket
  | .unlockServing ticket => some ticket
  | .unlockOwner ticket => some ticket
  | _ => none

section Accesses

variable {token : Nat} {spurious : Bool} {lock : Lock} {pc : Pc}

/-- The owner word changes from zero to the thread, or from the thread to zero. -/
theorem access_owner : (access token spurious lock pc).lock.owner = lock.owner ∨
    lock.owner = 0 ∧ (access token spurious lock pc).lock.owner = token ∨
    lock.owner = token ∧ (access token spurious lock pc).lock.owner = 0 := by
  cases pc <;> simp only [access, Ticket.goto, Ticket.finish, Ticket.advanced] <;> (try split) <;>
    (try split) <;> simp_all

/-- The step is none that grants, releases or returns. -/
def Quiet : Ticket.Note → Prop
  | .quiet => True
  | .reserved => True
  | .abandoned _ => True
  | _ => False

/-- What a step of `lock` or `lock_bounded` does. -/
inductive Acquires (token : Nat) (lock : Lock) (pc : Pc) (outcome : Ticket.Outcome) : Prop
  | waits (busy : Acquiring outcome.pc) (outside : inside outcome.pc = none)
      (owner : outcome.lock.owner = lock.owner) (note : Quiet outcome.note)
  | granted (ticket : Nat) (busy : Acquiring outcome.pc) (holds : inside outcome.pc = some ticket)
      (owner : outcome.lock.owner = token) (note : outcome.note = .granted ticket)
  | locked (ticket : Nat) (held : inside pc = some ticket) (idle : outcome.pc = .idle)
      (owner : outcome.lock.owner = lock.owner) (note : outcome.note = .returned (.locked ticket))
  | failed (reason : Error) (other : reason ≠ .sequence) (idle : outcome.pc = .idle)
      (owner : outcome.lock.owner = lock.owner) (note : outcome.note = .returned (.failed reason))

/-- What a step of `unlock` does. -/
inductive Releases (token : Nat) (lock : Lock) (pc : Pc) (outcome : Ticket.Outcome) : Prop
  | waits (busy : Releasing outcome.pc) (same : inside outcome.pc = inside pc)
      (owner : outcome.lock.owner = lock.owner) (note : Quiet outcome.note)
  | released (ticket : Nat) (busy : Releasing outcome.pc) (outside : inside outcome.pc = none)
      (owner : lock.owner = token) (note : outcome.note = .released ticket)
  | unlocked (idle : outcome.pc = .idle) (owner : outcome.lock.owner = lock.owner)
      (note : outcome.note = .returned .unlocked)
  | failed (ticket : Nat) (held : inside pc = some ticket) (stale : lock.owner = token → lock.serving ≠ ticket)
      (idle : outcome.pc = .idle) (owner : outcome.lock.owner = lock.owner)
      (note : outcome.note = .returned (.failed .notOwner))

theorem acquiring_advanced : Acquires token lock pc (Ticket.advanced lock .timedOut) :=
  .waits trivial rfl rfl trivial

theorem access_acquires (busy : Acquiring pc) : Acquires token lock pc (access token spurious lock pc) := by
  cases pc with
  | lockOwner attempts =>
    rw [access]
    split
    · exact .failed .recursive (by decide) rfl rfl rfl
    · split
      · exact .failed .deadline (by decide) rfl rfl rfl
      · exact .waits trivial rfl rfl trivial
  | reserveNext attempts => exact .waits trivial rfl rfl trivial
  | reserveServing attempts next =>
    rw [access]
    split
    · exact .waits trivial rfl rfl trivial
    · exact .waits trivial rfl rfl trivial
  | reserveAgain attempts next =>
    rw [access]
    split
    · exact .waits trivial rfl rfl trivial
    · exact .failed .queueFull (by decide) rfl rfl rfl
  | reserveTake attempts next =>
    rw [access]
    split
    · exact .waits trivial rfl rfl trivial
    · exact .waits trivial rfl rfl trivial
  | poll attempts ticket =>
    rw [access]
    split
    · exact .waits trivial rfl rfl trivial
    · exact .waits trivial rfl rfl trivial
  | contend attempts ticket =>
    rw [access]
    unfold Ticket.pollAgain
    split
    · exact .waits trivial rfl rfl trivial
    · split
      · exact .waits trivial rfl rfl trivial
      · exact .waits trivial rfl rfl trivial
  | lastPoll ticket =>
    rw [access]
    split
    · exact .waits trivial rfl rfl trivial
    · exact .waits trivial rfl rfl trivial
  | claim ticket =>
    rw [access]
    split
    · exact .granted ticket trivial rfl rfl rfl
    · exact .failed .invariant (by decide) rfl rfl rfl
  | claimed ticket => exact .locked ticket rfl rfl rfl rfl
  | cancelServing ticket =>
    rw [access]
    split
    · exact .failed .invariant (by decide) rfl rfl rfl
    · exact .waits trivial rfl rfl trivial
  | cancelMark ticket => exact .waits trivial rfl rfl trivial
  | advanceOwner ending =>
    cases ending with
    | unlocked => exact busy.elim
    | timedOut =>
      rw [access]
      split
      · exact acquiring_advanced
      · exact .waits trivial rfl rfl trivial
  | advanceServing ending =>
    cases ending with
    | unlocked => exact busy.elim
    | timedOut => exact .waits trivial rfl rfl trivial
  | advanceLook ending serving =>
    cases ending with
    | unlocked => exact busy.elim
    | timedOut =>
      rw [access]
      split
      · exact acquiring_advanced
      · exact .waits trivial rfl rfl trivial
  | advanceLoad ending serving =>
    cases ending with
    | unlocked => exact busy.elim
    | timedOut => exact .waits trivial rfl rfl trivial
  | advanceClear ending serving cancelled =>
    cases ending with
    | unlocked => exact busy.elim
    | timedOut =>
      rw [access]
      split
      · exact .waits trivial rfl rfl trivial
      · exact .waits trivial rfl rfl trivial
  | advanceBump ending serving =>
    cases ending with
    | unlocked => exact busy.elim
    | timedOut =>
      rw [access]
      split
      · exact .waits trivial rfl rfl trivial
      · exact .waits trivial rfl rfl trivial
  | countTimeout => exact .failed .timeout (by decide) rfl rfl rfl
  | _ => exact busy.elim

theorem access_releases (busy : Releasing pc) : Releases token lock pc (access token spurious lock pc) := by
  cases pc with
  | unlockServing ticket =>
    rw [access]
    split
    · rename_i stale
      exact .failed ticket rfl (fun _ => stale) rfl rfl rfl
    · exact .waits trivial rfl rfl trivial
  | unlockOwner ticket =>
    rw [access]
    split
    · rename_i mine
      exact .released ticket trivial rfl mine rfl
    · rename_i other
      exact .failed ticket rfl (absurd · other) rfl rfl rfl
  | unlockBump ticket => exact .waits trivial rfl rfl trivial
  | advanceOwner ending =>
    cases ending with
    | timedOut => exact busy.elim
    | unlocked =>
      rw [access]
      split
      · exact .unlocked rfl rfl rfl
      · exact .waits trivial rfl rfl trivial
  | advanceServing ending =>
    cases ending with
    | timedOut => exact busy.elim
    | unlocked => exact .waits trivial rfl rfl trivial
  | advanceLook ending serving =>
    cases ending with
    | timedOut => exact busy.elim
    | unlocked =>
      rw [access]
      split
      · exact .unlocked rfl rfl rfl
      · exact .waits trivial rfl rfl trivial
  | advanceLoad ending serving =>
    cases ending with
    | timedOut => exact busy.elim
    | unlocked => exact .waits trivial rfl rfl trivial
  | advanceClear ending serving cancelled =>
    cases ending with
    | timedOut => exact busy.elim
    | unlocked =>
      rw [access]
      split
      · exact .waits trivial rfl rfl trivial
      · exact .waits trivial rfl rfl trivial
  | advanceBump ending serving =>
    cases ending with
    | timedOut => exact busy.elim
    | unlocked =>
      rw [access]
      split
      · exact .waits trivial rfl rfl trivial
      · exact .waits trivial rfl rfl trivial
  | _ => exact busy.elim

end Accesses

/-- The ticket of the permit that a writer has. -/
def held : WriterPc → Pc → Option Nat
  | .idle, _ => none
  | .locking _, inner => inside inner
  | .loadBefore _ ticket, _ => some ticket
  | .exchange _ ticket _, _ => some ticket
  | .store _ ticket _, _ => some ticket
  | .bump _ ticket _, _ => some ticket
  | .unlocking _ _ _, inner => inside inner
  | .refusing, inner => inside inner

/-- Where a writer is in the ticket lock. -/
def Fits : WriterPc → Pc → Prop
  | .locking _, inner => Acquiring inner
  | .unlocking _ _ _, inner => Releasing inner
  | .refusing, inner => Releasing inner
  | _, inner => inner = .idle

variable {I J : Type} [DecidableEq I] {token : I → Nat}

/-- The owner word is the token of the one writer that has a permit. -/
structure Owned (token : I → Nat) (world : World I J) : Prop where
  fits : ∀ thread, Fits (world.writer thread) (world.lock.pc thread)
  named : ∀ thread, world.writer thread ≠ .idle → token thread ≠ 0
  holder : ∀ thread ticket, held (world.writer thread) (world.lock.pc thread) = some ticket →
    world.lock.lock.owner = token thread ∧ (thread, ticket) ∈ world.lock.outstanding

section Exclusion

variable {world after : World I J} {thread other : I} {ticket second : Nat}

omit [DecidableEq I] in
theorem owned_new (initial : Nat) : Owned token (World.new initial : World I J) where
  fits _ := rfl
  named _ busy := absurd rfl busy
  holder _ _ holds := nomatch holds

omit [DecidableEq I] in
theorem Owned.unique (owned : Owned token world) (distinct : Function.Injective token)
    (first : held (world.writer thread) (world.lock.pc thread) = some ticket)
    (also : held (world.writer other) (world.lock.pc other) = some second) : thread = other :=
  distinct ((owned.holder thread ticket first).1.symm.trans (owned.holder other second also).1)

omit [DecidableEq I] in
theorem Owned.idle (owned : Owned token world) (here : world.writer thread = .idle) : world.lock.pc thread = .idle := by
  have fits := owned.fits thread
  rw [here] at fits
  exact fits

/-- A step of one writer, which changes the owner word only from zero or from its own token. -/
structure Moves (token : I → Nat) (world after : World I J) (thread : I) : Prop where
  writer : ∀ other, other ≠ thread → after.writer other = world.writer other
  inner : ∀ other, other ≠ thread → after.lock.pc other = world.lock.pc other
  fits : Fits (after.writer thread) (after.lock.pc thread)
  named : after.writer thread ≠ .idle → token thread ≠ 0
  owner : after.lock.lock.owner = world.lock.lock.owner ∨ world.lock.lock.owner = 0 ∨
    world.lock.lock.owner = token thread
  permits : ∀ other, other ≠ thread → ∀ ticket, (other, ticket) ∈ world.lock.outstanding →
    (other, ticket) ∈ after.lock.outstanding
  holder : ∀ ticket, held (after.writer thread) (after.lock.pc thread) = some ticket →
    after.lock.lock.owner = token thread ∧ (thread, ticket) ∈ after.lock.outstanding
  path : after.lock = world.lock ∨ ∃ move, after.lock = Ticket.step token world.lock move

theorem Owned.moved (owned : Owned token world) (distinct : Function.Injective token)
    (moves : Moves token world after thread) : Owned token after := by
  refine ⟨fun other => ?_, fun other => ?_, fun other ticket => ?_⟩
  · by_cases same : other = thread
    · exact same ▸ moves.fits
    · rw [moves.writer other same, moves.inner other same]
      exact owned.fits other
  · by_cases same : other = thread
    · exact same ▸ moves.named
    · rw [moves.writer other same]
      exact owned.named other
  · by_cases same : other = thread
    · exact same ▸ moves.holder ticket
    · rw [moves.writer other same, moves.inner other same]
      intro holds
      obtain ⟨mine, permit⟩ := owned.holder other ticket holds
      have busy : world.writer other ≠ .idle := by
        intro rest
        rw [rest] at holds
        exact nomatch holds
      refine ⟨?_, moves.permits other same ticket permit⟩
      rcases moves.owner with kept | free | theirs
      · exact kept.trans mine
      · exact absurd (mine.symm.trans free) (owned.named other busy)
      · exact absurd (distinct (mine.symm.trans theirs)) same

end Exclusion

end PooleOS.Locks.Sequence
