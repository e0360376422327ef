import PooleOS.Locks.Ticket

/- Mutual exclusion and ticket order of the spin lock. Every ticket from the one
being served to the last one handed out has one place: a thread that still wants
it, the permit that is out, or the record of tickets given up. -/
namespace PooleOS.Locks.Ticket

open Nat BitVec
open List
open Function (update update_of_ne update_self)

section Bits

theorem getLsbD_bit (ticket index : Nat) : (bit ticket).getLsbD index = decide (index = ticket % 32) := by
  unfold bit
  have inside : ticket % 32 < 32 := mod_lt _ (by omega)
  simp [inside, eq_comm]

theorem getLsbD_mark (word : BitVec 32) (ticket index : Nat) :
    (word ||| bit ticket).getLsbD index = (word.getLsbD index || decide (index = ticket % 32)) := by
  rw [getLsbD_or, getLsbD_bit ticket index]

theorem getLsbD_clear (word : BitVec 32) (ticket index : Nat) (small : index < 32) :
    (word &&& ~~~bit ticket).getLsbD index = (word.getLsbD index && !decide (index = ticket % 32)) := by
  rw [getLsbD_and, getLsbD_not, getLsbD_bit ticket index]
  simp [small]

theorem and_bit_eq_zero {word : BitVec 32} {ticket : Nat} :
    word &&& bit ticket = 0 ↔ word.getLsbD (ticket % 32) = false := by
  have inside : ticket % 32 < 32 := mod_lt _ (by omega)
  constructor
  · intro zero
    have read := congrArg (fun value => getLsbD value (ticket % 32)) zero
    simpa [getLsbD_and, getLsbD_bit ticket] using read
  · intro clear
    refine eq_of_getLsbD_eq (fun index small => ?_)
    rw [getLsbD_and, getLsbD_bit ticket index]
    by_cases same : index = ticket % 32
    · simp [same, clear]
    · simp [same]

/-- Two tickets of one window share a bit only if they are the same. -/
theorem window_unique {first left right : Nat} (low : first ≤ left) (high : left < first + 32) (low' : first ≤ right)
    (high' : right < first + 32) (same : left % 32 = right % 32) : left = right := by
  omega

end Bits

/-- The ticket a thread has taken and neither been granted nor given up, or is about to pass on. -/
def Pc.ticket : Pc → Option Nat
  | .poll _ ticket => some ticket
  | .contend _ ticket => some ticket
  | .lastPoll ticket => some ticket
  | .claim ticket => some ticket
  | .cancelServing ticket => some ticket
  | .cancelMark ticket => some ticket
  | .unlockBump ticket => some ticket
  | _ => none

/-- A thread with a permit can only be here. -/
def Pc.MayHold : Pc → Prop
  | .idle => True
  | .tryOwner => True
  | .lockOwner _ => True
  | .claimed _ => True
  | .unlockServing _ => True
  | .unlockOwner _ => True
  | _ => False

/-- What the values a thread has read still say about the shared words. -/
def Knows (token : Nat) (lock : Lock) (abandoned : List Nat) : Pc → Prop
  | .tryNext serving => serving ≤ lock.serving
  | .tryTake next => next ≤ lock.serving
  | .reserveServing _ next => next < u32Values
  | .reserveTake _ next => next < lock.serving + maxOutstandingTickets
  | .claim ticket => lock.serving = ticket
  | .unlockBump ticket => lock.serving = ticket
  | .unlockOwner ticket => lock.owner = token → lock.serving = ticket
  | .advanceLook _ serving => serving ≤ lock.serving
  | .advanceLoad _ serving => serving ≤ lock.serving ∧ (lock.serving = serving → serving ∈ abandoned)
  | .advanceClear _ serving _ =>
    serving ≤ lock.serving ∧ (lock.serving = serving → serving ∈ abandoned)
  | .advanceBump _ serving =>
    serving ≤ lock.serving ∧ (lock.serving = serving →
      serving ∈ abandoned ∧ lock.cancelled.getLsbD (serving % 32) = false)
  | _ => True

variable {I : Type}

structure Sound (token : I → Nat) (world : World I) : Prop where
  named : ∀ thread, world.pc thread ≠ .idle → token thread ≠ 0
  counted : world.lock.next = world.issued
  ordered : world.lock.serving ≤ world.lock.next
  window : world.lock.next ≤ world.lock.serving + maxOutstandingTickets
  owned : ∀ thread ticket, (world.pc thread).ticket = some ticket →
    world.lock.serving ≤ ticket ∧ ticket < world.lock.next ∧ ticket ∉ world.abandoned
  unique : ∀ thread other ticket, (world.pc thread).ticket = some ticket →
    (world.pc other).ticket = some ticket → thread = other
  free : world.lock.owner = 0 → world.outstanding = []
  held : world.lock.owner ≠ 0 → ∃ thread, token thread = world.lock.owner ∧
    world.outstanding = [(thread, world.lock.serving)] ∧ (world.pc thread).MayHold ∧
      (∀ other, (world.pc other).ticket ≠ some world.lock.serving) ∧
        world.lock.serving < world.lock.next ∧ world.lock.serving ∉ world.abandoned
  bits : ∀ index, world.lock.cancelled.getLsbD index = true → ∃ ticket ∈ world.abandoned,
    world.lock.serving ≤ ticket ∧ ticket % 32 = index
  past : ∀ ticket ∈ world.abandoned, ticket < world.lock.next
  given : ∀ ticket ∈ world.grants, ticket ∉ world.abandoned ∧
    (ticket < world.lock.serving ∨ ticket = world.lock.serving ∧
      (world.lock.owner ≠ 0 ∨ ∃ thread, world.pc thread = .unlockBump ticket))
  rising : world.grants.Pairwise (· < ·)
  knows : ∀ thread, Knows (token thread) world.lock world.abandoned (world.pc thread)
  clean : ∀ thread, (thread, .failed .invariant) ∉ world.history

section Facts

variable {token : I → Nat} {world : World I}

theorem sound_new : Sound token World.new where
  named := fun _ busy => absurd rfl busy
  counted := rfl
  ordered := le_refl _
  window := zero_le _
  owned := by
    intro thread ticket impossible
    cases impossible
  unique := by
    intro thread other ticket impossible
    cases impossible
  free := fun _ => rfl
  held := fun owned => absurd rfl owned
  bits := by
    intro index set
    simp [World.new, Lock.new] at set
  past := by simp [World.new]
  given := by simp [World.new]
  rising := .nil
  knows := fun _ => trivial
  clean := by simp [World.new]

/-- The owner word names a thread only while that thread holds the permit. -/
theorem Sound.holder (sound : Sound token world) (distinct : Function.Injective token) {thread : I}
    (named : token thread ≠ 0) (owner : world.lock.owner = token thread) :
    world.outstanding = [(thread, world.lock.serving)] ∧ (world.pc thread).MayHold := by
  obtain ⟨holder, same, only, may, _⟩ := sound.held (owner ▸ named)
  obtain rfl : holder = thread := distinct (same.trans owner)
  exact ⟨only, may⟩

/-- While a thread waits for the ticket being served nobody owns the lock. -/
theorem Sound.unowned (sound : Sound token world) {thread : I}
    (wants : (world.pc thread).ticket = some world.lock.serving) : world.lock.owner = 0 := by
  by_contra owned
  obtain ⟨_, _, _, _, nobody, _⟩ := sound.held owned
  exact nobody thread wants

theorem Sound.given_up (sound : Sound token world)
    (gone : world.lock.serving ∈ world.abandoned) : world.lock.owner = 0 := by
  by_contra owned
  obtain ⟨_, _, _, _, _, _, kept⟩ := sound.held owned
  exact kept gone

theorem Sound.serving_lt (sound : Sound token world) (small : world.issued < u32Values) :
    world.lock.serving < u32Values := by
  have ordered := sound.ordered
  have counted := sound.counted
  omega

end Facts

/-- What a thread knows survives the steps of the others. -/
theorem Knows.stable {token : Nat} {lock lock' : Lock} {abandoned abandoned' : List Nat} {pc : Pc}
    (knows : Knows token lock abandoned pc) (grows : lock.serving ≤ lock'.serving)
    (more : ∀ ticket ∈ abandoned, ticket ∈ abandoned')
    (waits : pc.ticket = some lock.serving → lock'.serving = lock.serving)
    (unlocks : ∀ ticket, pc = .unlockOwner ticket → lock'.owner = token →
      lock.owner = token ∧ lock'.serving = lock.serving)
    (clear : lock.serving ∈ abandoned → lock.cancelled.getLsbD (lock.serving % 32) = false →
      lock'.cancelled.getLsbD (lock.serving % 32) = false) : Knows token lock' abandoned' pc := by
  cases pc with
  | tryNext serving => exact le_trans knows grows
  | tryTake next => exact le_trans knows grows
  | reserveServing attempts next => exact knows
  | reserveTake attempts next =>
    have bound : next < lock.serving + maxOutstandingTickets := knows
    change next < lock'.serving + maxOutstandingTickets
    omega
  | claim ticket =>
    have served : lock.serving = ticket := knows
    exact (waits (congrArg some served.symm)).trans served
  | unlockBump ticket =>
    have served : lock.serving = ticket := knows
    exact (waits (congrArg some served.symm)).trans served
  | unlockOwner ticket =>
    intro mine
    obtain ⟨before, same⟩ := unlocks ticket rfl mine
    exact same.trans (knows before)
  | advanceLook ending serving => exact le_trans knows grows
  | advanceLoad ending serving =>
    refine ⟨le_trans knows.1 grows, fun same => ?_⟩
    have low := knows.1
    exact more _ (knows.2 (by omega))
  | advanceClear ending serving cancelled =>
    refine ⟨le_trans knows.1 grows, fun same => ?_⟩
    have low := knows.1
    exact more _ (knows.2 (by omega))
  | advanceBump ending serving =>
    refine ⟨le_trans knows.1 grows, fun same => ?_⟩
    have low := knows.1
    have here : lock.serving = serving := by omega
    obtain ⟨gone, unset⟩ := knows.2 here
    subst here
    exact ⟨more _ gone, clear gone unset⟩
  | _ => trivial

section Effects

variable [DecidableEq I] {token : I → Nat} {world : World I} {thread : I} {pc : Pc}

/-- A step that takes no new ticket leaves nobody with one. -/
theorem ticket_update (lower : ∀ ticket, pc.ticket = some ticket →
      (world.pc thread).ticket = some ticket) {other : I} {ticket : Nat}
    (has : (update world.pc thread pc other).ticket = some ticket) :
    (world.pc other).ticket = some ticket := by
  by_cases same : other = thread
  · subst same
    rw [update_self] at has
    exact lower ticket has
  · rwa [update_of_ne same] at has

theorem named_update (sound : Sound token world) (named : pc ≠ .idle → token thread ≠ 0)
    (other : I) (busy : update world.pc thread pc other ≠ .idle) : token other ≠ 0 := by
  by_cases same : other = thread
  · subst same
    rw [update_self] at busy
    exact named busy
  · rw [update_of_ne same] at busy
    exact sound.named other busy

/-- A step by this thread; the others keep what they know. -/
theorem knows_update {lock' : Lock} {abandoned' : List Nat} (mine : Knows (token thread) lock' abandoned' pc)
    (others : ∀ other, other ≠ thread → Knows (token other) lock' abandoned' (world.pc other)) (other : I)
    : Knows (token other) lock' abandoned' (update world.pc thread pc other) := by
  by_cases same : other = thread
  · subst same
    rw [update_self]
    exact mine
  · rw [update_of_ne same]
    exact others other same

/-- A release in progress elsewhere stays in progress. -/
theorem releasing_update {number : Nat} (bump : world.pc thread ≠ .unlockBump number) :
    (∃ other, world.pc other = .unlockBump number) →
      ∃ other, update world.pc thread pc other = .unlockBump number := by
  rintro ⟨other, releasing⟩
  have elsewhere : other ≠ thread := by
    rintro rfl
    exact bump releasing
  exact ⟨other, by rw [update_of_ne elsewhere, releasing]⟩

/-- The words the invariant speaks about are as they were. -/
structure SameWords (lock lock' : Lock) : Prop where
  next : lock'.next = lock.next
  serving : lock'.serving = lock.serving
  owner : lock'.owner = lock.owner
  cancelled : lock'.cancelled = lock.cancelled

/-- A load, a failed compare-exchange or a statistics counter. -/
theorem Sound.quiet (sound : Sound token world) {lock' : Lock} (same : SameWords world.lock lock')
    (ticket : pc.ticket = (world.pc thread).ticket) (named : pc ≠ .idle → token thread ≠ 0)
    (may : (world.pc thread).MayHold → pc.MayHold ∨ world.lock.owner ≠ token thread)
    (bump : ∀ ticket, world.pc thread ≠ .unlockBump ticket)
    (knows : Knows (token thread) world.lock world.abandoned pc) :
    Sound token { world with lock := lock', pc := update world.pc thread pc } := by
  have lower : ∀ number, pc.ticket = some number → (world.pc thread).ticket = some number :=
    fun _ has => ticket ▸ has
  have stable : ∀ {token : Nat} {pc : Pc}, Knows token world.lock world.abandoned pc →
      Knows token lock' world.abandoned pc := by
    intro token pc before
    refine before.stable (le_of_eq same.serving.symm) (fun _ member => member)
      (fun _ => same.serving) (fun _ _ mine => ⟨same.owner ▸ mine, same.serving⟩) (fun _ clear => ?_)
    rw [same.cancelled]
    exact clear
  refine ⟨named_update sound named, ?_, ?_, ?_, ?_, ?_, ?_, ?_, ?_, ?_, ?_, sound.rising, ?_, sound.clean⟩
  · exact same.next.trans sound.counted
  · simp only [same.next, same.serving]
    exact sound.ordered
  · simp only [same.next, same.serving]
    exact sound.window
  · intro other number has
    simp only [same.next, same.serving]
    exact sound.owned other number (ticket_update lower has)
  · intro one two number first second
    exact sound.unique one two number (ticket_update lower first) (ticket_update lower second)
  · simp only [same.owner]
    exact sound.free
  · simp only [same.owner, same.serving, same.next]
    intro owned
    obtain ⟨holder, mine, only, able, nobody, rest⟩ := sound.held owned
    refine ⟨holder, mine, only, ?_, fun other has => nobody other (ticket_update lower has), rest⟩
    by_cases self : holder = thread
    · subst self
      rw [update_self]
      rcases may able with able | other
      · exact able
      · exact absurd mine.symm other
    · rwa [update_of_ne self]
  · simp only [same.cancelled, same.serving]
    exact sound.bits
  · simp only [same.next]
    exact sound.past
  · intro number member
    simp only [same.serving, same.owner]
    obtain ⟨kept, before⟩ := sound.given number member
    exact ⟨kept, before.imp_right (fun ⟨here, busy⟩ => ⟨here, busy.imp_right (releasing_update (bump number))⟩)⟩
  · exact knows_update (stable knows) (fun other _ => stable (sound.knows other))

section

variable (sound : Sound token world)
include sound

omit [DecidableEq I] in
theorem Sound.log {result : Result} (fine : result ≠ .failed .invariant) :
    Sound token { world with history := world.history ++ [(thread, result)] } := by
  refine ⟨sound.named, sound.counted, sound.ordered, sound.window, sound.owned, sound.unique,
    sound.free, sound.held, sound.bits, sound.past, sound.given, sound.rising, sound.knows, ?_⟩
  intro other member
  rcases mem_append.mp member with old | new
  · exact sound.clean other old
  · have equal := mem_singleton.mp new
    exact fine (congrArg Prod.snd equal).symm

/-- A ticket is taken: the next number, which nobody has. -/
theorem Sound.reserve {number : Nat}
    (next : world.lock.next = number) (room : number < world.lock.serving + maxOutstandingTickets)
    (small : world.issued + 1 < u32Values) (ticket : pc.ticket = some number)
    (unowned : (world.pc thread).ticket = none) (named : token thread ≠ 0)
    (may : ¬ (world.pc thread).MayHold)
    (knows : Knows (token thread) world.lock world.abandoned pc) :
    Sound token { world with
      lock := { world.lock with next := wrappingSucc number }
      pc := update world.pc thread pc
      issued := world.issued + 1 } := by
  subst next
  have grown : wrappingSucc world.lock.next = world.lock.next + 1 := by
    unfold wrappingSucc
    rw [mod_eq_of_lt]
    rw [sound.counted]
    exact small
  have ordered := sound.ordered
  have takes : ∀ {other : I} {number : Nat},
      (update world.pc thread pc other).ticket = some number →
        other = thread ∧ number = world.lock.next ∨ (world.pc other).ticket = some number := by
    intro other number has
    by_cases same : other = thread
    · subst same
      rw [update_self, ticket] at has
      exact .inl ⟨rfl, (Option.some.inj has).symm⟩
    · rw [update_of_ne same] at has
      exact .inr has
  have fresh : ∀ other, (world.pc other).ticket ≠ some world.lock.next := by
    intro other has
    have below := (sound.owned other _ has).2.1
    omega
  refine ⟨named_update sound (fun _ => named), ?_, ?_, ?_, ?_, ?_, sound.free, ?_, sound.bits, ?_,
    ?_, sound.rising, ?_, sound.clean⟩
  · change wrappingSucc world.lock.next = world.issued + 1
    rw [grown, sound.counted]
  · change world.lock.serving ≤ wrappingSucc world.lock.next
    omega
  · change wrappingSucc world.lock.next ≤ world.lock.serving + maxOutstandingTickets
    omega
  · intro other number has
    change world.lock.serving ≤ number ∧ number < wrappingSucc world.lock.next ∧ _
    rw [grown]
    rcases takes has with ⟨_, rfl⟩ | has
    · refine ⟨ordered, lt_succ_self _, fun gone => ?_⟩
      have before := sound.past _ gone
      omega
    · obtain ⟨low, high, kept⟩ := sound.owned other number has
      exact ⟨low, lt_succ_of_lt high, kept⟩
  · intro one two number first second
    rcases takes first with ⟨mine, newest⟩ | old
    · rcases takes second with ⟨too, _⟩ | old
      · exact mine.trans too.symm
      · exact absurd (newest ▸ old) (fresh two)
    · rcases takes second with ⟨_, newest⟩ | older
      · exact absurd (newest ▸ old) (fresh one)
      · exact sound.unique one two number old older
  · intro owned
    obtain ⟨holder, mine, only, able, nobody, below, kept⟩ := sound.held owned
    have other : holder ≠ thread := by
      rintro rfl
      exact may able
    refine ⟨holder, mine, only, ?_, ?_, ?_, kept⟩
    · simpa only [update_of_ne other] using able
    · intro one has
      rcases takes has with ⟨_, same⟩ | has
      · have same : world.lock.serving = world.lock.next := same
        omega
      · exact nobody one has
    · change world.lock.serving < wrappingSucc world.lock.next
      omega
  · intro number gone
    have before := sound.past number gone
    change number < wrappingSucc world.lock.next
    omega
  · intro number member
    obtain ⟨kept, before⟩ := sound.given number member
    have bump : world.pc thread ≠ .unlockBump number := by
      intro releasing
      rw [releasing] at unowned
      cases unowned
    exact ⟨kept, before.imp_right (fun ⟨here, busy⟩ => ⟨here, busy.imp_right (releasing_update bump)⟩)⟩
  · exact knows_update knows (fun other _ => sound.knows other)

/-- The ticket being served is granted to the thread that waits for it. -/
theorem Sound.claim (distinct : Function.Injective token)
    {number : Nat} (here : world.pc thread = .claim number) :
    world.lock.owner = 0 ∧ Sound token { world with
      lock := { world.lock with owner := token thread }
      pc := update world.pc thread (.claimed number)
      outstanding := world.outstanding ++ [(thread, number)]
      grants := world.grants ++ [number] } := by
  have served : world.lock.serving = number := by
    have knows := sound.knows thread
    rw [here] at knows
    exact knows
  subst served
  have wants : (world.pc thread).ticket = some world.lock.serving := by
    rw [here]
    rfl
  have unowned := sound.unowned wants
  have named : token thread ≠ 0 := sound.named thread (by rw [here]; nofun)
  have lower : ∀ number, (Pc.claimed world.lock.serving).ticket = some number →
      (world.pc thread).ticket = some number := nofun
  obtain ⟨_, below, kept⟩ := sound.owned thread _ wants
  have older : ∀ number ∈ world.grants, number < world.lock.serving := by
    intro number member
    rcases (sound.given number member).2 with less | ⟨same, owned | ⟨other, releasing⟩⟩
    · exact less
    · exact absurd unowned owned
    · have also : (world.pc other).ticket = some world.lock.serving := by
        rw [releasing, ← same]
        rfl
      obtain rfl := sound.unique other thread _ also wants
      rw [here] at releasing
      cases releasing
  refine ⟨unowned, named_update sound (fun _ => named), sound.counted, sound.ordered, sound.window,
    ?_, ?_, ?_, ?_, sound.bits, sound.past, ?_, ?_, ?_, sound.clean⟩
  · intro other number has
    exact sound.owned other number (ticket_update lower has)
  · intro one two number first second
    exact sound.unique one two number (ticket_update lower first) (ticket_update lower second)
  · exact fun zero => absurd zero named
  · intro _
    refine ⟨thread, rfl, ?_, ?_, ?_, below, kept⟩
    · simp only [sound.free unowned, nil_append]
    · simp only [update_self]
      trivial
    · intro other has
      obtain rfl := sound.unique other thread _ (ticket_update lower has) wants
      simp [Pc.ticket] at has
  · intro number member
    rcases mem_append.mp member with old | new
    · exact ⟨(sound.given number old).1, .inl (older number old)⟩
    · rw [mem_singleton.mp new]
      exact ⟨kept, .inr ⟨rfl, .inl named⟩⟩
  · rw [pairwise_append]
    refine ⟨sound.rising, pairwise_singleton _ _, ?_⟩
    intro earlier member later single
    rw [mem_singleton.mp single]
    exact older earlier member
  · refine knows_update trivial (fun other elsewhere => ?_)
    refine (sound.knows other).stable (le_refl _) (fun _ member => member) (fun _ => rfl) ?_
      (fun _ clear => clear)
    intro number _ mine
    exact absurd (distinct mine).symm elsewhere

/-- A ticket is given up: its bit is set and its thread goes on to advance the lock. -/
theorem Sound.mark {number : Nat}
    (here : world.pc thread = .cancelMark number) :
    Sound token { world with
      lock := { world.lock with cancelled := world.lock.cancelled ||| bit number }
      pc := update world.pc thread (.advanceOwner .timedOut)
      abandoned := world.abandoned ++ [number] } := by
  have wants : (world.pc thread).ticket = some number := by
    rw [here]
    rfl
  have named : token thread ≠ 0 := sound.named thread (by rw [here]; nofun)
  have lower : ∀ number, (Pc.advanceOwner .timedOut).ticket = some number →
      (world.pc thread).ticket = some number := nofun
  obtain ⟨low, below, kept⟩ := sound.owned thread _ wants
  have window := sound.window
  unfold maxOutstandingTickets at window
  refine ⟨named_update sound (fun _ => named), sound.counted, sound.ordered, sound.window, ?_, ?_,
    sound.free, ?_, ?_, ?_, ?_, sound.rising, ?_, sound.clean⟩
  · intro other ticket has
    have before := ticket_update lower has
    obtain ⟨above, less, alive⟩ := sound.owned other ticket before
    refine ⟨above, less, fun gone => ?_⟩
    rcases mem_append.mp gone with old | new
    · exact alive old
    · rw [mem_singleton.mp new] at before
      obtain rfl := sound.unique other thread _ before wants
      simp [Pc.ticket] at has
  · intro one two ticket first second
    exact sound.unique one two ticket (ticket_update lower first) (ticket_update lower second)
  · intro owned
    obtain ⟨holder, mine, only, able, nobody, less, alive⟩ := sound.held owned
    have other : holder ≠ thread := by
      rintro rfl
      rw [here] at able
      exact able
    refine ⟨holder, mine, only, ?_, fun one has => nobody one (ticket_update lower has), less, ?_⟩
    · simpa only [update_of_ne other] using able
    · intro gone
      rcases mem_append.mp gone with old | new
      · exact alive old
      · exact nobody thread (mem_singleton.mp new ▸ wants)
  · intro index set
    simp only [getLsbD_mark, Bool.or_eq_true, decide_eq_true_eq] at set
    rcases set with old | rfl
    · obtain ⟨ticket, gone, above, same⟩ := sound.bits index old
      exact ⟨ticket, mem_append_left _ gone, above, same⟩
    · exact ⟨number, mem_append_right _ (mem_singleton_self _), low, rfl⟩
  · intro ticket gone
    rcases mem_append.mp gone with old | new
    · exact sound.past ticket old
    · rw [mem_singleton.mp new]
      exact below
  · intro ticket member
    obtain ⟨alive, before⟩ := sound.given ticket member
    have bump : world.pc thread ≠ .unlockBump ticket := by
      rw [here]
      nofun
    refine ⟨fun gone => ?_, before.imp_right (fun ⟨same, busy⟩ => ⟨same, busy.imp_right (releasing_update bump)⟩)⟩
    rcases mem_append.mp gone with old | new
    · exact alive old
    · obtain rfl := mem_singleton.mp new
      rcases before with less | ⟨same, owned | ⟨other, releasing⟩⟩
      · omega
      · obtain ⟨_, _, _, _, nobody, _⟩ := sound.held owned
        exact nobody thread (same ▸ wants)
      · have also : (world.pc other).ticket = some ticket := by
          rw [releasing]
          rfl
        obtain rfl := sound.unique other thread _ also wants
        exact bump releasing
  · refine knows_update trivial (fun other _ => ?_)
    refine (sound.knows other).stable (le_refl _) (fun _ gone => mem_append_left _ gone)
      (fun _ => rfl) (fun _ _ mine => ⟨mine, rfl⟩) (fun gone clear => ?_)
    have apart : world.lock.serving % 32 ≠ number % 32 := by
      intro same
      have equal : world.lock.serving = number :=
        window_unique (le_refl _) (by omega) low (by omega) same
      exact kept (equal ▸ gone)
    simp [getLsbD_bit, clear, apart]

/-- A bit is cleared by a thread that saw it set. -/
theorem Sound.clear {ending : Ending} {serving : Nat}
    {cancelled : BitVec 32} (here : world.pc thread = .advanceClear ending serving cancelled) :
    Sound token { world with
      lock := { world.lock with cancelled := world.lock.cancelled &&& ~~~bit serving }
      pc := update world.pc thread (.advanceBump ending serving) } := by
  have named : token thread ≠ 0 := sound.named thread (by rw [here]; nofun)
  have lower : ∀ number, (Pc.advanceBump ending serving).ticket = some number →
      (world.pc thread).ticket = some number := nofun
  have knows := sound.knows thread
  rw [here] at knows
  have weaker : ∀ index, (world.lock.cancelled &&& ~~~bit serving).getLsbD index = true →
      world.lock.cancelled.getLsbD index = true := by
    intro index set
    rw [getLsbD_and, Bool.and_eq_true] at set
    exact set.1
  refine ⟨named_update sound (fun _ => named), sound.counted, sound.ordered, sound.window, ?_, ?_,
    sound.free, ?_, ?_, sound.past, ?_, sound.rising, ?_, sound.clean⟩
  · intro other number has
    exact sound.owned other number (ticket_update lower has)
  · intro one two number first second
    exact sound.unique one two number (ticket_update lower first) (ticket_update lower second)
  · intro owned
    obtain ⟨holder, mine, only, able, nobody, rest⟩ := sound.held owned
    have other : holder ≠ thread := by
      rintro rfl
      rw [here] at able
      exact able
    refine ⟨holder, mine, only, ?_, fun one has => nobody one (ticket_update lower has), rest⟩
    simpa only [update_of_ne other] using able
  · exact fun index set => sound.bits index (weaker index set)
  · intro number member
    have bump : world.pc thread ≠ .unlockBump number := by
      rw [here]
      nofun
    obtain ⟨alive, before⟩ := sound.given number member
    exact ⟨alive, before.imp_right (fun ⟨same, busy⟩ => ⟨same, busy.imp_right (releasing_update bump)⟩)⟩
  · refine knows_update ⟨knows.1, fun same => ⟨knows.2 same, ?_⟩⟩ (fun other _ => ?_)
    · rw [getLsbD_clear _ _ _ (mod_lt _ (by omega))]
      simp
    · refine (sound.knows other).stable (le_refl _) (fun _ gone => gone) (fun _ => rfl)
        (fun _ _ mine => ⟨mine, rfl⟩) (fun _ clear => ?_)
      by_contra set
      rw [Bool.not_eq_false] at set
      rw [weaker _ set] at clear
      cases clear

/-- The ticket being served is passed, by its holder or because it was given up. -/
theorem Sound.serve (small : world.issued < u32Values)
    (unowned : world.lock.owner = 0) (below : world.lock.serving < world.lock.next)
    (nobody : ∀ other, other ≠ thread → (world.pc other).ticket ≠ some world.lock.serving)
    (clear : world.lock.cancelled.getLsbD (world.lock.serving % 32) = false)
    (named : token thread ≠ 0) (ending : Ending) :
    Sound token { world with
      lock := { world.lock with serving := wrappingSucc world.lock.serving }
      pc := update world.pc thread (.advanceOwner ending) } := by
  have grown : wrappingSucc world.lock.serving = world.lock.serving + 1 := by
    have counted := sound.counted
    unfold wrappingSucc
    rw [mod_eq_of_lt]
    omega
  have lower : ∀ number, (Pc.advanceOwner ending).ticket = some number →
      (world.pc thread).ticket = some number := nofun
  have window := sound.window
  rw [grown]
  refine ⟨named_update sound (fun _ => named), sound.counted, below, ?_, ?_, ?_, sound.free, ?_, ?_,
    sound.past, ?_, sound.rising, ?_, sound.clean⟩
  · change world.lock.next ≤ world.lock.serving + 1 + maxOutstandingTickets
    omega
  · intro other number has
    obtain ⟨low, high, alive⟩ := sound.owned other number (ticket_update lower has)
    refine ⟨lt_of_le_of_ne low ?_, high, alive⟩
    rintro rfl
    by_cases same : other = thread
    · subst same
      simp [Pc.ticket] at has
    · exact nobody other same (ticket_update lower has)
  · intro one two number first second
    exact sound.unique one two number (ticket_update lower first) (ticket_update lower second)
  · exact fun owned => absurd unowned owned
  · intro index set
    obtain ⟨ticket, gone, low, same⟩ := sound.bits index set
    refine ⟨ticket, gone, lt_of_le_of_ne low ?_, same⟩
    rintro rfl
    rw [← same] at set
    rw [set] at clear
    cases clear
  · intro number member
    obtain ⟨alive, before⟩ := sound.given number member
    refine ⟨alive, .inl ?_⟩
    change number < world.lock.serving + 1
    rcases before with less | ⟨same, _⟩ <;> omega
  · refine knows_update trivial (fun other elsewhere => ?_)
    refine (sound.knows other).stable (le_succ _) (fun _ gone => gone)
      (absurd · (nobody other elsewhere)) ?_ (fun _ unset => unset)
    intro number unlocking mine
    refine absurd (mine.symm.trans unowned) (sound.named other ?_)
    rw [unlocking]
    nofun

/-- The holder clears the owner word; its ticket is still the one being served. -/
theorem Sound.release (distinct : Function.Injective token)
    {number : Nat} (here : world.pc thread = .unlockOwner number)
    (mine : world.lock.owner = token thread) :
    Sound token { world with
      lock := { world.lock with owner := 0 }
      pc := update world.pc thread (.unlockBump number)
      outstanding := world.outstanding.erase (thread, number) } := by
  have named : token thread ≠ 0 := sound.named thread (by rw [here]; nofun)
  have served : world.lock.serving = number := by
    have knows := sound.knows thread
    rw [here] at knows
    exact knows mine
  subst served
  obtain ⟨holder, same, only, _, nobody, below, kept⟩ := sound.held (mine ▸ named)
  obtain rfl : holder = thread := distinct (same.trans mine)
  have takes : ∀ {other : I} {ticket : Nat},
      (update world.pc holder (.unlockBump world.lock.serving) other).ticket = some ticket →
        other = holder ∧ ticket = world.lock.serving ∨ (world.pc other).ticket = some ticket := by
    intro other ticket has
    by_cases self : other = holder
    · subst self
      rw [update_self] at has
      exact .inl ⟨rfl, (Option.some.inj has).symm⟩
    · rw [update_of_ne self] at has
      exact .inr has
  refine ⟨named_update sound (fun _ => named), sound.counted, sound.ordered, sound.window, ?_, ?_,
    ?_, fun owned => absurd rfl owned, sound.bits, sound.past, ?_, sound.rising, ?_, sound.clean⟩
  · intro other ticket has
    rcases takes has with ⟨_, rfl⟩ | old
    · exact ⟨le_refl _, below, kept⟩
    · exact sound.owned other ticket old
  · intro one two ticket first second
    rcases takes first with ⟨self, newest⟩ | old
    · rcases takes second with ⟨too, _⟩ | old
      · exact self.trans too.symm
      · exact absurd (newest ▸ old) (nobody two)
    · rcases takes second with ⟨_, newest⟩ | older
      · exact absurd (newest ▸ old) (nobody one)
      · exact sound.unique one two ticket old older
  · intro _
    simp only [only, erase_cons_head]
  · intro ticket member
    obtain ⟨alive, before⟩ := sound.given ticket member
    refine ⟨alive, before.imp_right (fun ⟨equal, _⟩ => ⟨equal, .inr ⟨holder, ?_⟩⟩)⟩
    simp only [update_self, equal]
  · refine knows_update rfl (fun other _ => ?_)
    refine (sound.knows other).stable (le_refl _) (fun _ gone => gone) (fun _ => rfl) ?_
      (fun _ clear => clear)
    intro ticket unlocking zero
    refine absurd zero.symm (sound.named other ?_)
    rw [unlocking]
    nofun

end

end Effects

end PooleOS.Locks.Ticket
