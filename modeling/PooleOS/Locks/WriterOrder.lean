import PooleOS.Locks.ReaderWriter
import PooleOS.Locks.TicketSafety

/- The writers' tickets of the reader-writer lock. Every ticket from the one being
served to the last one handed out belongs to a thread that still wants it, to the
permit that is out, or to the record of tickets given up. -/
namespace PooleOS.Locks.ReaderWriter

open Nat
open List
open Function (update update_of_ne update_self)
open Ticket (maxOutstandingTickets getLsbD_bit getLsbD_mark getLsbD_clear window_unique)

variable {I : Type}

/-- The part of the world the tickets are about. -/
structure Queue (I : Type) where
  pc : I → Pc
  next : Nat
  serving : Nat
  cancelled : BitVec 32
  writers : List (I × Nat)
  abandoned : List Nat
  issued : Nat

def World.queue (world : World I) : Queue I :=
  ⟨world.pc, world.lock.writerNext, world.lock.writerServing, world.lock.cancelledWriters,
    world.writers, world.abandoned, world.issued⟩

/-- The ticket a thread has taken and neither been granted nor given up, or is about to pass on. -/
def Pc.ticket : Pc → Option Nat
  | .addState _ ticket => some ticket
  | .addTake _ ticket _ => some ticket
  | .poll _ ticket => some ticket
  | .writeState _ ticket => some ticket
  | .writeTake _ ticket _ => some ticket
  | .writeContend _ ticket => some ticket
  | .removeState _ ticket => some ticket
  | .removeTake _ ticket _ => some ticket
  | .cancelMark _ ticket => some ticket
  | .unlockBump ticket => some ticket
  | _ => none

/-- A release that has passed its ticket on. -/
def Ending.Passed (ending : Ending) (serving : Nat) : Prop :=
  match ending with
  | .unlocked ticket => ticket < serving
  | _ => True

/-- What the values a thread has read still say about the tickets. -/
def Recalls (queue : Queue I) : Pc → Prop
  | .reserveServing _ next => next < u32Values
  | .reserveTake _ next => next < queue.serving + maxOutstandingTickets
  | .writeState patience ticket => patience ≠ .once → queue.serving = ticket
  | .writeTake patience ticket _ => patience ≠ .once → queue.serving = ticket
  | .removeState ending _ => ending.Passed queue.serving
  | .removeTake ending _ _ => ending.Passed queue.serving
  | .cancelMark ending _ => ending.Passed queue.serving
  | .unlockStore ticket => queue.serving = ticket
  | .unlockClear ticket => queue.serving = ticket
  | .unlockBump ticket => queue.serving = ticket
  | .advanceOwner ending => ending.Passed queue.serving
  | .advanceServing ending => ending.Passed queue.serving
  | .advanceLoad ending serving => ending.Passed queue.serving ∧ serving ≤ queue.serving
  | .advanceClear ending serving _ => ending.Passed queue.serving ∧ serving ≤ queue.serving ∧
      (queue.serving = serving → serving ∈ queue.abandoned)
  | .advanceBump ending serving => ending.Passed queue.serving ∧ serving ≤ queue.serving ∧
      (queue.serving = serving → serving ∈ queue.abandoned ∧ queue.cancelled.getLsbD (serving % 32) = false)
  | _ => True

structure InOrder (queue : Queue I) : Prop where
  counted : queue.next = queue.issued
  ordered : queue.serving ≤ queue.next
  window : queue.next ≤ queue.serving + maxOutstandingTickets
  owned : ∀ thread ticket, (queue.pc thread).ticket = some ticket →
    queue.serving ≤ ticket ∧ ticket < queue.next ∧ ticket ∉ queue.abandoned
  unique : ∀ thread other ticket, (queue.pc thread).ticket = some ticket →
    (queue.pc other).ticket = some ticket → thread = other
  held : ∀ thread ticket, (thread, ticket) ∈ queue.writers →
    ticket = queue.serving ∧ ticket < queue.next ∧ ticket ∉ queue.abandoned ∧
      ∀ other, (queue.pc other).ticket ≠ some ticket
  bits : ∀ index, queue.cancelled.getLsbD index = true → ∃ ticket ∈ queue.abandoned,
    queue.serving ≤ ticket ∧ ticket % 32 = index
  past : ∀ ticket ∈ queue.abandoned, ticket < queue.next
  recalls : ∀ thread, Recalls queue (queue.pc thread)

theorem inOrder_new : InOrder (World.new : World I).queue where
  counted := rfl
  ordered := le_refl _
  window := zero_le _
  owned := by
    intro thread ticket impossible
    cases impossible
  unique := by
    intro thread other ticket impossible
    cases impossible
  held := by simp [World.queue, World.new]
  bits := by
    intro index set
    simp [World.queue, World.new, Lock.new] at set
  past := by simp [World.queue, World.new]
  recalls := fun _ => trivial

section Facts

variable {queue : Queue I}

/-- The bit of the ticket being served is set only if that ticket was given up. -/
theorem InOrder.served_bit (inOrder : InOrder queue) (set : queue.cancelled.getLsbD (queue.serving % 32) = true) :
    queue.serving ∈ queue.abandoned := by
  obtain ⟨ticket, gone, low, equal⟩ := inOrder.bits _ set
  have below := inOrder.past ticket gone
  have window := inOrder.window
  unfold maxOutstandingTickets at window
  have mine : ticket = queue.serving :=
    window_unique low (by omega) (le_refl _) (by omega) equal
  exact mine ▸ gone

/-- Nobody passes the ticket of a permit that is out. -/
theorem InOrder.held_kept (inOrder : InOrder queue) {thread : I} {ticket : Nat}
    (writes : (thread, ticket) ∈ queue.writers) : queue.serving ∉ queue.abandoned := by
  obtain ⟨same, _, kept, _⟩ := inOrder.held thread ticket writes
  exact same ▸ kept

end Facts

theorem Ending.Passed.mono {ending : Ending} {serving later : Nat} (passed : ending.Passed serving)
    (grows : serving ≤ later) : ending.Passed later := by
  cases ending with
  | unlocked ticket => exact lt_of_lt_of_le passed grows
  | _ => trivial

/-- What a thread recalls survives the steps of the others. -/
theorem Recalls.stable {queue queue' : Queue I} {pc : Pc} (recalls : Recalls queue pc)
    (grows : queue.serving ≤ queue'.serving) (more : ∀ ticket ∈ queue.abandoned, ticket ∈ queue'.abandoned)
    (waits : pc.ticket = some queue.serving → queue'.serving = queue.serving)
    (holds : (∃ ticket, pc = .unlockStore ticket ∨ pc = .unlockClear ticket) → queue'.serving = queue.serving)
    (clear : queue.serving ∈ queue.abandoned → queue.cancelled.getLsbD (queue.serving % 32) = false →
        queue'.cancelled.getLsbD (queue.serving % 32) = false) : Recalls queue' pc := by
  cases pc with
  | reserveServing patience next => exact recalls
  | reserveTake patience next => exact recalls.trans_le (Nat.add_le_add_right grows _)
  | writeState patience ticket =>
    intro polls
    have served : queue.serving = ticket := recalls polls
    exact (waits (congrArg some served.symm)).trans served
  | writeTake patience ticket state =>
    intro polls
    have served : queue.serving = ticket := recalls polls
    exact (waits (congrArg some served.symm)).trans served
  | removeState ending ticket => exact Ending.Passed.mono recalls grows
  | removeTake ending ticket state => exact Ending.Passed.mono recalls grows
  | cancelMark ending ticket => exact Ending.Passed.mono recalls grows
  | unlockStore ticket => exact (holds ⟨ticket, .inl rfl⟩).trans recalls
  | unlockClear ticket => exact (holds ⟨ticket, .inr rfl⟩).trans recalls
  | unlockBump ticket =>
    have served : queue.serving = ticket := recalls
    exact (waits (congrArg some served.symm)).trans served
  | advanceOwner ending => exact Ending.Passed.mono recalls grows
  | advanceServing ending => exact Ending.Passed.mono recalls grows
  | advanceLoad ending serving => exact ⟨recalls.1.mono grows, le_trans recalls.2 grows⟩
  | advanceClear ending serving cancelled =>
    obtain ⟨passed, low, gone⟩ := recalls
    refine ⟨passed.mono grows, le_trans low grows, fun same => ?_⟩
    exact more _ (gone (by omega))
  | advanceBump ending serving =>
    obtain ⟨passed, low, gone⟩ := recalls
    refine ⟨passed.mono grows, le_trans low grows, fun same => ?_⟩
    have here : queue.serving = serving := by omega
    obtain ⟨left, unset⟩ := gone here
    subst here
    exact ⟨more _ left, clear left unset⟩
  | _ => trivial

section Effects

variable [DecidableEq I] {queue : Queue I} {thread : I} {pc : Pc}

/-- A step that takes no new ticket leaves nobody with one. -/
theorem ticket_update (lower : ∀ ticket, pc.ticket = some ticket →
      (queue.pc thread).ticket = some ticket) {other : I} {ticket : Nat}
    (has : (update queue.pc thread pc other).ticket = some ticket) :
    (queue.pc other).ticket = some ticket := by
  by_cases same : other = thread
  · subst same
    rw [update_self] at has
    exact lower ticket has
  · rwa [update_of_ne same] at has

/-- A step by this thread; the others keep what they recall. -/
theorem recalls_update {queue' : Queue I} (pcs : queue'.pc = update queue.pc thread pc)
    (mine : Recalls queue' pc) (others : ∀ other, other ≠ thread → Recalls queue' (queue.pc other))
    (other : I) : Recalls queue' (queue'.pc other) := by
  rw [pcs]
  by_cases same : other = thread
  · subst same
    rw [update_self]
    exact mine
  · rw [update_of_ne same]
    exact others other same

section

variable (inOrder : InOrder queue)
include inOrder

/-- A step that leaves the tickets where they are. -/
theorem InOrder.quiet (ticket : pc.ticket = (queue.pc thread).ticket)
    (recalls : Recalls queue pc) : InOrder { queue with pc := update queue.pc thread pc } := by
  have lower : ∀ number, pc.ticket = some number → (queue.pc thread).ticket = some number :=
    fun _ has => ticket ▸ has
  refine ⟨inOrder.counted, inOrder.ordered, inOrder.window, ?_, ?_, ?_, inOrder.bits, inOrder.past, ?_⟩
  · exact fun other number has => inOrder.owned other number (ticket_update lower has)
  · exact fun one two number first second =>
      inOrder.unique one two number (ticket_update lower first) (ticket_update lower second)
  · intro holder number writes
    obtain ⟨served, below, kept, nobody⟩ := inOrder.held holder number writes
    exact ⟨served, below, kept, fun other has => nobody other (ticket_update lower has)⟩
  · exact recalls_update rfl recalls (fun other _ => inOrder.recalls other)

/-- A ticket is taken: the next number, which nobody has. -/
theorem InOrder.reserve
    (room : queue.next < queue.serving + maxOutstandingTickets)
    (ticket : pc.ticket = some queue.next) (recalls : Recalls queue pc) :
    InOrder { queue with
      pc := update queue.pc thread pc, next := queue.next + 1
      issued := queue.issued + 1 } := by
  have ordered := inOrder.ordered
  have takes : ∀ {other : I} {number : Nat},
      (update queue.pc thread pc other).ticket = some number →
        other = thread ∧ number = queue.next ∨ (queue.pc other).ticket = some number := by
    intro other number has
    by_cases same : other = thread
    · subst same
      rw [update_self, ticket] at has
      exact .inl ⟨rfl, (Option.some.inj has).symm⟩
    · rw [update_of_ne same] at has
      exact .inr has
  have fresh : ∀ other, (queue.pc other).ticket ≠ some queue.next := by
    intro other has
    exact lt_irrefl _ (inOrder.owned other _ has).2.1
  refine ⟨congrArg (· + 1) inOrder.counted, le_succ_of_le ordered, room, ?_, ?_, ?_,
    inOrder.bits, fun number gone => lt_succ_of_lt (inOrder.past number gone), ?_⟩
  · intro other number has
    rcases takes has with ⟨_, rfl⟩ | has
    · refine ⟨ordered, lt_succ_self _, fun gone => ?_⟩
      exact lt_irrefl _ (inOrder.past _ gone)
    · obtain ⟨low, high, kept⟩ := inOrder.owned other number has
      exact ⟨low, lt_succ_of_lt high, kept⟩
  · intro one two number first second
    rcases takes first with ⟨mine, newest⟩ | old
    · rcases takes second with ⟨too, _⟩ | old
      · exact mine.trans too.symm
      · exact absurd (newest ▸ old) (fresh two)
    · rcases takes second with ⟨_, newest⟩ | older
      · exact absurd (newest ▸ old) (fresh one)
      · exact inOrder.unique one two number old older
  · intro holder number writes
    obtain ⟨served, below, kept, nobody⟩ := inOrder.held holder number writes
    refine ⟨served, lt_succ_of_lt below, kept, fun other has => ?_⟩
    rcases takes has with ⟨_, newest⟩ | has
    · exact Nat.ne_of_lt below newest
    · exact nobody other has
  · exact recalls_update rfl recalls (fun other _ => inOrder.recalls other)

/-- The permit is granted on the ticket being served. -/
theorem InOrder.take {number : Nat}
    (wants : (queue.pc thread).ticket = some number) (served : queue.serving = number)
    (nobody : queue.writers = []) (drops : pc.ticket = none) (recalls : Recalls queue pc) :
    InOrder { queue with
      pc := update queue.pc thread pc, writers := queue.writers ++ [(thread, number)] } := by
  have lower : ∀ number, pc.ticket = some number → (queue.pc thread).ticket = some number := by
    intro number has
    rw [drops] at has
    cases has
  refine ⟨inOrder.counted, inOrder.ordered, inOrder.window, ?_, ?_, ?_, inOrder.bits, inOrder.past, ?_⟩
  · exact fun other ticket has => inOrder.owned other ticket (ticket_update lower has)
  · exact fun one two ticket first second =>
      inOrder.unique one two ticket (ticket_update lower first) (ticket_update lower second)
  · intro holder ticket writes
    have writes : (holder, ticket) ∈ queue.writers ++ [(thread, number)] := writes
    rw [nobody, nil_append, mem_singleton] at writes
    cases writes
    obtain ⟨_, below, kept⟩ := inOrder.owned _ _ wants
    refine ⟨served.symm, below, kept, fun other has => ?_⟩
    obtain rfl := inOrder.unique other _ _ (ticket_update lower has) wants
    simp [drops] at has
  · exact recalls_update rfl recalls (fun other _ => inOrder.recalls other)

/-- A ticket is given up: its bit is set. -/
theorem InOrder.mark {number : Nat}
    (wants : (queue.pc thread).ticket = some number) (drops : pc.ticket = none)
    (recalls : Recalls { queue with
      cancelled := queue.cancelled ||| Ticket.bit number, abandoned := queue.abandoned ++ [number] } pc) :
    InOrder { queue with
      pc := update queue.pc thread pc, cancelled := queue.cancelled ||| Ticket.bit number
      abandoned := queue.abandoned ++ [number] } := by
  have lower : ∀ number, pc.ticket = some number → (queue.pc thread).ticket = some number := by
    intro number has
    rw [drops] at has
    cases has
  obtain ⟨low, below, kept⟩ := inOrder.owned thread _ wants
  have window := inOrder.window
  unfold maxOutstandingTickets at window
  refine ⟨inOrder.counted, inOrder.ordered, inOrder.window, ?_, ?_, ?_, ?_, ?_, ?_⟩
  · intro other ticket has
    have before := ticket_update lower has
    obtain ⟨above, less, alive⟩ := inOrder.owned other ticket before
    refine ⟨above, less, fun gone => ?_⟩
    rcases mem_append.mp gone with old | new
    · exact alive old
    · rw [mem_singleton.mp new] at before
      obtain rfl := inOrder.unique other thread _ before wants
      simp [drops] at has
  · exact fun one two ticket first second =>
      inOrder.unique one two ticket (ticket_update lower first) (ticket_update lower second)
  · intro holder ticket writes
    obtain ⟨served, less, alive, nobody⟩ := inOrder.held holder ticket writes
    refine ⟨served, less, fun gone => ?_, fun other has => nobody other (ticket_update lower has)⟩
    rcases mem_append.mp gone with old | new
    · exact alive old
    · exact nobody thread (mem_singleton.mp new ▸ wants)
  · intro index set
    simp only [getLsbD_mark, Bool.or_eq_true, decide_eq_true_eq] at set
    rcases set with old | rfl
    · obtain ⟨ticket, gone, above, same⟩ := inOrder.bits index old
      exact ⟨ticket, mem_append_left _ gone, above, same⟩
    · exact ⟨number, mem_append_right _ (mem_singleton_self _), low, rfl⟩
  · intro ticket gone
    rcases mem_append.mp gone with old | new
    · exact inOrder.past ticket old
    · rw [mem_singleton.mp new]
      exact below
  · refine recalls_update rfl recalls (fun other _ => ?_)
    refine (inOrder.recalls other).stable (le_refl _)
      (fun _ gone => mem_append_left _ gone) (fun _ => rfl) (fun _ => rfl)
      (fun gone clear => ?_)
    have apart : queue.serving % 32 ≠ number % 32 := by
      intro same
      have equal : queue.serving = number :=
        window_unique (le_refl _) (by omega) low (by omega) same
      exact kept (equal ▸ gone)
    simp [getLsbD_bit, clear, apart]

/-- A bit is cleared by a thread that saw it set. -/
theorem InOrder.clear {ending : Ending} {serving : Nat}
    {cancelled : BitVec 32} (here : queue.pc thread = .advanceClear ending serving cancelled) :
    InOrder { queue with
      pc := update queue.pc thread (.advanceBump ending serving)
      cancelled := queue.cancelled &&& ~~~Ticket.bit serving } := by
  have lower : ∀ number, (Pc.advanceBump ending serving).ticket = some number →
      (queue.pc thread).ticket = some number := nofun
  have recalls := inOrder.recalls thread
  rw [here] at recalls
  obtain ⟨passed, low, gone⟩ := recalls
  have weaker : ∀ index, (queue.cancelled &&& ~~~Ticket.bit serving).getLsbD index = true →
      queue.cancelled.getLsbD index = true := by
    intro index set
    rw [BitVec.getLsbD_and, Bool.and_eq_true] at set
    exact set.1
  refine ⟨inOrder.counted, inOrder.ordered, inOrder.window, ?_, ?_, ?_, ?_, inOrder.past, ?_⟩
  · exact fun other number has => inOrder.owned other number (ticket_update lower has)
  · exact fun one two number first second =>
      inOrder.unique one two number (ticket_update lower first) (ticket_update lower second)
  · intro holder number writes
    obtain ⟨served, below, kept, nobody⟩ := inOrder.held holder number writes
    exact ⟨served, below, kept, fun other has => nobody other (ticket_update lower has)⟩
  · exact fun index set => inOrder.bits index (weaker index set)
  · refine recalls_update rfl ⟨passed, low, fun same => ⟨gone same, ?_⟩⟩ (fun other _ => ?_)
    · rw [getLsbD_clear _ _ _ (mod_lt _ (by omega))]
      simp
    · refine (inOrder.recalls other).stable (le_refl _) (fun _ member => member) (fun _ => rfl)
        (fun _ => rfl) (fun _ clear => ?_)
      by_contra set
      rw [Bool.not_eq_false] at set
      rw [weaker _ set] at clear
      cases clear

/-- The ticket being served is passed, by its holder or because it was given up. -/
theorem InOrder.serve (below : queue.serving < queue.next)
    (free : queue.writers = [])
    (stores : ∀ other ticket, queue.pc other ≠ .unlockStore ticket ∧ queue.pc other ≠ .unlockClear ticket)
    (nobody : ∀ other, other ≠ thread → (queue.pc other).ticket ≠ some queue.serving)
    (clear : queue.cancelled.getLsbD (queue.serving % 32) = false) {ending : Ending}
    (passed : ending.Passed (queue.serving + 1)) :
    InOrder { queue with
      pc := update queue.pc thread (.advanceOwner ending)
      serving := queue.serving + 1 } := by
  have lower : ∀ number, (Pc.advanceOwner ending).ticket = some number →
      (queue.pc thread).ticket = some number := nofun
  have window := inOrder.window
  refine ⟨inOrder.counted, below, ?_, ?_, ?_, ?_, ?_, inOrder.past, ?_⟩
  · change queue.next ≤ queue.serving + 1 + maxOutstandingTickets
    omega
  · intro other number has
    obtain ⟨low, high, alive⟩ := inOrder.owned other number (ticket_update lower has)
    refine ⟨lt_of_le_of_ne low ?_, high, alive⟩
    rintro rfl
    by_cases same : other = thread
    · subst same
      simp [Pc.ticket] at has
    · exact nobody other same (ticket_update lower has)
  · exact fun one two number first second =>
      inOrder.unique one two number (ticket_update lower first) (ticket_update lower second)
  · intro holder number writes
    exact absurd (free ▸ writes) not_mem_nil
  · intro index set
    obtain ⟨ticket, gone, low, same⟩ := inOrder.bits index set
    refine ⟨ticket, gone, lt_of_le_of_ne low ?_, same⟩
    rintro rfl
    rw [← same] at set
    rw [set] at clear
    cases clear
  · refine recalls_update rfl passed (fun other elsewhere => ?_)
    refine (inOrder.recalls other).stable (le_succ _) (fun _ gone => gone)
      (absurd · (nobody other elsewhere)) ?_ (fun _ unset => unset)
    rintro ⟨ticket, store | release⟩
    · exact absurd store (stores other ticket).1
    · exact absurd release (stores other ticket).2

/-- The permit is given back; its ticket is still the one being served. -/
theorem InOrder.release {number : Nat}
    (here : queue.pc thread = .unlockClear number) (only : queue.writers = [(thread, number)]) :
    InOrder { queue with
      pc := update queue.pc thread (.unlockBump number), writers := [] } := by
  have served := inOrder.recalls thread
  rw [here] at served
  obtain ⟨_, below, kept, nobody⟩ := inOrder.held thread number (by rw [only]; simp)
  have takes : ∀ {other : I} {ticket : Nat},
      (update queue.pc thread (.unlockBump number) other).ticket = some ticket →
        other = thread ∧ ticket = number ∨ (queue.pc other).ticket = some ticket := by
    intro other ticket has
    by_cases self : other = thread
    · subst self
      rw [update_self] at has
      exact .inl ⟨rfl, (Option.some.inj has).symm⟩
    · rw [update_of_ne self] at has
      exact .inr has
  refine ⟨inOrder.counted, inOrder.ordered, inOrder.window, ?_, ?_, nofun, inOrder.bits, inOrder.past, ?_⟩
  · intro other ticket has
    rcases takes has with ⟨_, rfl⟩ | old
    · exact ⟨le_of_eq served, below, kept⟩
    · exact inOrder.owned other ticket old
  · intro one two ticket first second
    rcases takes first with ⟨self, newest⟩ | old
    · rcases takes second with ⟨too, _⟩ | old
      · exact self.trans too.symm
      · exact absurd (newest ▸ old) (nobody two)
    · rcases takes second with ⟨_, newest⟩ | older
      · exact absurd (newest ▸ old) (nobody one)
      · exact inOrder.unique one two ticket old older
  · exact recalls_update rfl served (fun other _ => inOrder.recalls other)

end

end Effects

end PooleOS.Locks.ReaderWriter
