import PooleOS.Paging.Runs

/- The life of a frame in an address space: bound by its first mapping, counted
through its mappings and pending invalidations, and freed once, when every token
issued for it has been acknowledged. -/
namespace PooleOS.Paging

open Function Cells
open List

variable {machine machine' : Machine} {offers : Handle → Prop}

/-- The tokens that were issued and what has become of them. -/
structure Tokens (machine : Machine) : Prop where
  numbered : ∀ token frame, (token, frame) ∈ machine.log.issued →
    token.sequence < machine.space.nextInvalidation
  waiting : ∀ place pending, machine.space.pending place = some pending →
    (pending.token, pending.frame) ∈ machine.log.issued ∧
      (pending.acknowledged = true ↔ pending.token ∈ machine.log.acknowledged) ∧
        pending.token ∉ machine.log.completed
  settled : ∀ token frame, (token, frame) ∈ machine.log.issued →
    token ∈ machine.log.completed ∨
      ∃ place pending, machine.space.pending place = some pending ∧ pending.token = token ∧
        pending.frame = frame
  known : ∀ token ∈ machine.log.acknowledged, ∃ frame, (token, frame) ∈ machine.log.issued
  acknowledgedOnce : machine.log.acknowledged.Nodup
  completedOnce : machine.log.completed.Nodup
  inOrder : ∀ token ∈ machine.log.completed, token ∈ machine.log.acknowledged

/-- What was bound and what was freed. -/
structure Balanced (machine : Machine) : Prop where
  allocation : machine.space.tableAllocation.pageCount = tablePageCount
  single : ∀ cell binding, machine.space.frames cell = some binding → binding.frame.pageCount = 1
  frames : ∀ frame, frame.pageCount = 1 → machine.log.bound.count frame =
    machine.log.freed.count frame +
      Cells.count machine.space.frames (fun binding => binding.frame = frame)
  tables : machine.log.freed.count machine.space.tableAllocation =
    if machine.space.released then 1 else 0

section Tokens

/-- A machine with the same tokens and pending invalidations. -/
theorem Tokens.keep (tokens : Tokens machine) (pending : machine'.space.pending = machine.space.pending)
    (numbers : machine'.space.nextInvalidation = machine.space.nextInvalidation)
    (issued : machine'.log.issued = machine.log.issued)
    (acknowledged : machine'.log.acknowledged = machine.log.acknowledged)
    (completed : machine'.log.completed = machine.log.completed) : Tokens machine' := by
  obtain ⟨numbered, waiting, settled, known, once, once', inOrder⟩ := tokens
  constructor
  all_goals simp only [pending, numbers, issued, acknowledged, completed]
  all_goals assumption

variable {place : Fin maxPendingInvalidations}

theorem Tokens.issue (tokens : Tokens machine) {token : Token} {frame : Handle}
    (vacant : machine.space.pending place = none) (fresh : token.sequence = machine.space.nextInvalidation)
    (pending : machine'.space.pending = update machine.space.pending place (some ⟨token, frame, false⟩))
    (numbers : machine'.space.nextInvalidation = machine.space.nextInvalidation + 1)
    (issued : machine'.log.issued = machine.log.issued ++ [(token, frame)])
    (acknowledged : machine'.log.acknowledged = machine.log.acknowledged)
    (completed : machine'.log.completed = machine.log.completed) : Tokens machine' := by
  have unissued : ∀ frame, (token, frame) ∉ machine.log.issued := by
    intro frame member
    have older := tokens.numbered token frame member
    omega
  have unknown : token ∉ machine.log.acknowledged := fun member =>
    let ⟨frame, issued⟩ := tokens.known token member
    unissued frame issued
  refine ⟨?_, ?_, ?_, ?_, ?_, ?_, ?_⟩
  all_goals simp only [pending, numbers, issued, acknowledged, completed]
  · intro other owner member
    rcases mem_append.mp member with old | new
    · exact Nat.lt_succ_of_lt (tokens.numbered other owner old)
    · rw [mem_singleton] at new
      cases new
      omega
  · refine each_update ?_ (fun other found _ held => ?_)
    · refine ⟨by simp, ⟨nofun, fun member => absurd member unknown⟩, fun member => ?_⟩
      exact unknown (tokens.inOrder token member)
    · obtain ⟨known, closed, open_⟩ := tokens.waiting other found held
      exact ⟨mem_append_left _ known, closed, open_⟩
  · intro other owner member
    rcases mem_append.mp member with old | new
    · rcases tokens.settled other owner old with done | ⟨cell, found, held, same⟩
      · exact .inl done
      · refine .inr ⟨cell, found, update_some_iff.mpr (.inr ⟨?_, held⟩), same⟩
        rintro rfl
        rw [vacant] at held
        cases held
    · rw [mem_singleton] at new
      cases new
      exact .inr ⟨place, _, update_some_iff.mpr (.inl ⟨rfl, rfl⟩), rfl, rfl⟩
  · intro other member
    obtain ⟨owner, known⟩ := tokens.known other member
    exact ⟨owner, mem_append_left _ known⟩
  · exact tokens.acknowledgedOnce
  · exact tokens.completedOnce
  · exact tokens.inOrder

theorem Tokens.acknowledge (tokens : Tokens machine) (consistent : Consistent machine.space) {pending : Pending}
    (held : machine.space.pending place = some pending) (open_ : pending.acknowledged = false)
    (after : machine'.space.pending =
      update machine.space.pending place (some { pending with acknowledged := true }))
    (numbers : machine'.space.nextInvalidation = machine.space.nextInvalidation)
    (issued : machine'.log.issued = machine.log.issued)
    (acknowledged : machine'.log.acknowledged = machine.log.acknowledged ++ [pending.token])
    (completed : machine'.log.completed = machine.log.completed) : Tokens machine' := by
  obtain ⟨known, closed, unfinished⟩ := tokens.waiting place pending held
  have first : pending.token ∉ machine.log.acknowledged := fun member => by
    rw [closed.mpr member] at open_
    cases open_
  refine ⟨?_, ?_, ?_, ?_, ?_, ?_, ?_⟩
  all_goals simp only [after, numbers, issued, acknowledged, completed]
  · exact tokens.numbered
  · refine each_update ⟨known, by simp, unfinished⟩ (fun other found apart held' => ?_)
    obtain ⟨known', closed', unfinished'⟩ := tokens.waiting other found held'
    refine ⟨known', closed'.trans ⟨fun member => mem_append_left _ member, fun member => ?_⟩, unfinished'⟩
    rcases mem_append.mp member with old | new
    · exact old
    · rw [mem_singleton] at new
      exact absurd (consistent.tokensApart other place found pending held' held new) apart
  · intro token frame member
    refine (tokens.settled token frame member).imp_right (fun ⟨cell, found, held', same⟩ => ?_)
    by_cases here : cell = place
    · subst here
      obtain rfl := Option.some.inj (held.symm.trans held')
      exact ⟨cell, _, update_some_iff.mpr (.inl ⟨rfl, rfl⟩), same⟩
    · exact ⟨cell, found, update_some_iff.mpr (.inr ⟨here, held'⟩), same⟩
  · intro token member
    rcases mem_append.mp member with old | new
    · exact tokens.known token old
    · rw [mem_singleton] at new
      exact ⟨pending.frame, new ▸ known⟩
  · exact nodup_append.mpr ⟨tokens.acknowledgedOnce, nodup_singleton _, fun token member other
      new same => first (by rw [mem_singleton] at new; rwa [← new, ← same])⟩
  · exact tokens.completedOnce
  · exact fun token member => mem_append_left _ (tokens.inOrder token member)

theorem Tokens.complete (tokens : Tokens machine) (consistent : Consistent machine.space) {pending : Pending}
    (held : machine.space.pending place = some pending) (closed : pending.acknowledged = true)
    (after : machine'.space.pending = update machine.space.pending place none)
    (numbers : machine'.space.nextInvalidation = machine.space.nextInvalidation)
    (issued : machine'.log.issued = machine.log.issued)
    (acknowledged : machine'.log.acknowledged = machine.log.acknowledged)
    (completed : machine'.log.completed = machine.log.completed ++ [pending.token]) : Tokens machine' := by
  obtain ⟨known, closing, unfinished⟩ := tokens.waiting place pending held
  refine ⟨?_, ?_, ?_, ?_, ?_, ?_, ?_⟩
  all_goals simp only [after, numbers, issued, acknowledged, completed]
  · exact tokens.numbered
  · refine each_remove (fun other found apart held' => ?_)
    obtain ⟨known', closed', unfinished'⟩ := tokens.waiting other found held'
    refine ⟨known', closed', fun member => ?_⟩
    rcases mem_append.mp member with old | new
    · exact unfinished' old
    · rw [mem_singleton] at new
      exact apart (consistent.tokensApart other place found pending held' held new)
  · intro token frame member
    rcases tokens.settled token frame member with done | ⟨cell, found, held', same, owner⟩
    · exact .inl (mem_append_left _ done)
    · by_cases here : cell = place
      · subst here
        obtain rfl := Option.some.inj (held.symm.trans held')
        exact .inl (mem_append_right _ (by simp [same]))
      · exact .inr ⟨cell, found, update_none_iff.mpr ⟨here, held'⟩, same, owner⟩
  · exact tokens.known
  · exact tokens.acknowledgedOnce
  · exact nodup_append.mpr ⟨tokens.completedOnce, nodup_singleton _, fun token member other
      new same => unfinished (by rw [mem_singleton] at new; rwa [← new, ← same])⟩
  · intro token member
    rcases mem_append.mp member with old | new
    · exact tokens.inOrder token old
    · rw [mem_singleton] at new
      exact new ▸ closing.mp closed

theorem Effect.tokens (effect : Effect offers machine machine') (consistent : Consistent machine.space)
    (tokens : Tokens machine) : Tokens machine' := by
  cases effect with
  | bound _ _ _ _ _ _ _ _ _ => exact tokens.keep rfl rfl rfl rfl rfl
  | aliased _ _ _ _ _ _ => exact tokens.keep rfl rfl rfl rfl rfl
  | permitted _ _ _ _ => exact tokens.keep rfl rfl rfl rfl rfl
  | unmapped _ _ _ vacant _ _ _ => exact tokens.issue vacant rfl rfl rfl rfl rfl rfl
  | acknowledged held open_ _ => exact tokens.acknowledge consistent held open_ rfl rfl rfl rfl rfl
  | completed held closed _ _ _ _ => exact tokens.complete consistent held closed rfl rfl rfl rfl rfl
  | freed held closed _ _ _ _ _ => exact tokens.complete consistent held closed rfl rfl rfl rfl rfl

end Tokens

section Frames

theorem leafEntry_single {frame : Handle} {permissions : Permissions} {cache : CachePolicy}
    {value : Word} (made : leafEntry frame permissions cache = .ok value) : frame.pageCount = 1 := by
  unfold leafEntry at made
  split at made
  · cases made
  · rename_i fine
    by_contra many
    exact fine (.inr (.inl many))

/-- The records of frames are rewritten in place. -/
theorem Balanced.rewrite (balanced : Balanced machine) {cell : Fin maxFrames} {binding replaced : Frame}
    (held : machine.space.frames cell = some binding)
    (frames : machine'.space.frames = update machine.space.frames cell (some replaced))
    (same : replaced.frame = binding.frame)
    (allocation : machine'.space.tableAllocation = machine.space.tableAllocation)
    (released : machine'.space.released = machine.space.released) (bound : machine'.log.bound = machine.log.bound)
    (freed : machine'.log.freed = machine.log.freed) : Balanced machine' := by
  refine ⟨?_, ?_, ?_, ?_⟩
  all_goals simp only [frames, allocation, released, bound, freed]
  · exact balanced.allocation
  · exact each_update (same ▸ balanced.single cell binding held)
      (fun other found _ old => balanced.single other found old)
  · intro frame single
    rw [count_replace held (by rw [same])]
    exact balanced.frames frame single
  · exact balanced.tables

/-- A handle of one page is not that of the tables. -/
theorem Balanced.not_tables (balanced : Balanced machine) {frame : Handle}
    (single : frame.pageCount = 1) : frame ≠ machine.space.tableAllocation := by
  rintro rfl
  have four := balanced.allocation
  rw [single] at four
  cases four

theorem Effect.balanced (effect : Effect offers machine machine') (balanced : Balanced machine) :
    Balanced machine' := by
  cases effect with
  | @bound address value frame permissions cache slot cell memory _ _ _ _ made _ _ free _ =>
    have single := leafEntry_single made
    refine ⟨balanced.allocation, ?_, fun other one => ?_, balanced.tables⟩
    · exact each_update single (fun other found _ old => balanced.single other found old)
    · rw [count_insert free, count_append, balanced.frames other one, count_singleton]
      simp only [beq_iff_eq, decide_eq_true_eq]
      omega
  | aliased _ _ _ _ held _ => exact balanced.rewrite held rfl rfl rfl rfl rfl rfl
  | permitted _ _ _ _ =>
    exact ⟨balanced.allocation, balanced.single, balanced.frames, balanced.tables⟩
  | unmapped _ bound _ _ _ _ _ => exact balanced.rewrite bound rfl rfl rfl rfl rfl rfl
  | acknowledged _ _ _ =>
    exact ⟨balanced.allocation, balanced.single, balanced.frames, balanced.tables⟩
  | completed _ _ bound _ _ _ => exact balanced.rewrite bound rfl rfl rfl rfl rfl rfl
  | @freed pending place cell binding memory _ _ bound _ _ _ _ =>
    have single := balanced.single cell binding bound
    refine ⟨balanced.allocation, ?_, fun other one => ?_, ?_⟩
    · exact each_remove (fun other found _ old => balanced.single other found old)
    · have moved := count_remove (fun held => held.frame = other) bound
      have before := balanced.frames other one
      rw [count_append, count_singleton]
      simp only [beq_iff_eq, decide_eq_true_eq] at moved ⊢
      omega
    · rw [count_append, count_singleton, balanced.tables]
      simp [balanced.not_tables single]

theorem Released.balanced (released : Released machine machine') (balanced : Balanced machine) : Balanced machine' := by
  refine ⟨?_, ?_, ?_, ?_⟩
  all_goals simp only [released.space, released.log]
  · exact balanced.allocation
  · exact balanced.single
  · intro frame single
    rw [balanced.frames frame single, count_append, count_singleton]
    have apart := balanced.not_tables single
    simp [Ne.symm apart]
  · rw [count_append, balanced.tables, released.once]
    simp

end Frames

section Runs

/-- The books of an address space. -/
structure Accounts (machine : Machine) : Prop where
  consistent : Consistent machine.space
  tokens : Tokens machine
  balanced : Balanced machine

theorem Fresh.accounts (fresh : Fresh machine) (log : machine.log = .new) : Accounts machine := by
  have frames := fresh.frames
  have pending := fresh.pending
  have none_ : ∀ wanted, Cells.count machine.space.frames wanted = 0 := by
    intro wanted
    rw [Cells.count_eq_zero]
    simp [frames]
  refine ⟨fresh.consistent, ?_, ⟨fresh.allocation, ?_, ?_, ?_⟩⟩
  · constructor <;> simp [log, Log.new, pending]
  · simp [frames]
  · simp [log, Log.new, none_]
  · simp [log, Log.new, fresh.unreleased]

section

variable (accounts : Accounts machine)
include accounts

theorem Accounts.did {call : Call} (did : Did machine call machine') :
    Accounts machine' := by
  rcases did with effect | ⟨_, released⟩
  · exact ⟨effect.consistent accounts.consistent, effect.tokens accounts.consistent accounts.tokens,
      effect.balanced accounts.balanced⟩
  · refine ⟨released.consistent accounts.consistent, ?_, released.balanced accounts.balanced⟩
    apply accounts.tokens.keep
    all_goals simp only [released.space, released.log]

theorem Accounts.same (space : machine'.space = machine.space)
    (log : machine'.log = machine.log) : Accounts machine' := by
  refine ⟨?_, ?_, ?_⟩
  · rw [space]
    exact accounts.consistent
  · apply accounts.tokens.keep
    all_goals simp only [space, log]
  · obtain ⟨allocation, single, frames, tables⟩ := accounts.balanced
    constructor
    all_goals simp only [space, log]
    all_goals assumption

/-- What a move does, in terms of the machine before it. -/
theorem Accounts.step (move : Move) :
    Did (machine.facing move.faults) move.call (perform machine move).2 ∨
      ∃ reason, (perform machine move).1 = .error reason ∧
        Refused (machine.facing move.faults) reason (perform machine move).2 := by
  have consistent : Consistent (machine.facing move.faults).space := accounts.consistent
  have step := step_cases consistent move.call
  rw [Op.wp_iff] at step
  cases result : (perform machine move).1 with
  | ok value => exact .inl (step.1 value result)
  | error reason => exact .inr ⟨reason, rfl, step.2 reason result⟩

theorem Accounts.move (move : Move) : Accounts (perform machine move).2 := by
  have before : Accounts (machine.facing move.faults) := accounts.same rfl rfl
  rcases accounts.step move with did | ⟨_, _, refused⟩
  · exact before.did did
  · exact before.same refused.space refused.log

end

theorem Reached.accounts {allowed : Machine → Move → Prop} {initial : Machine} (fresh : Fresh initial)
    (log : initial.log = .new) (reached : Reached allowed initial machine) : Accounts machine := by
  induction reached with
  | start => exact fresh.accounts log
  | move move _ _ ih => exact ih.move move

/-- The two ways in which something is freed. -/
theorem Accounts.frees (accounts : Accounts machine) {move : Move} {handle : Handle}
    (freed : (perform machine move).2.log.freed = machine.log.freed ++ [handle]) :
    (handle = machine.space.tableAllocation ∧ machine.space.released = false ∧
      (∀ slot, machine.space.mappings slot = none) ∧ (∀ cell, machine.space.frames cell = none) ∧
        ∀ place, machine.space.pending place = none) ∨
    ((∃ cell binding, machine.space.frames cell = some binding ∧ binding.frame = handle) ∧
      (∀ slot mapping, machine.space.mappings slot = some mapping → mapping.frame ≠ handle) ∧
        ∀ token, (token, handle) ∈ machine.log.issued → token ∈ machine.log.acknowledged) := by
  have grows : (perform machine move).2.log.freed ≠ machine.log.freed := by
    rw [freed]
    simp
  rcases accounts.step move with did | ⟨_, _, refused⟩
  · rcases did with effect | ⟨_, released⟩
    · right
      generalize perform machine move = outcome at effect freed grows
      obtain ⟨result, machine'⟩ := outcome
      cases effect with
      | @freed pending place cell binding memory held closed bound owner unmapped last _ =>
        have same : binding.frame = handle := by simpa [Machine.facing] using freed
        subst same
        obtain ⟨mapsOthers, waitsOthers⟩ :=
          accounts.consistent.last held bound owner unmapped last
        refine ⟨⟨cell, binding, bound, rfl⟩, mapsOthers, fun token issued => ?_⟩
        rcases accounts.tokens.settled token binding.frame issued with done |
            ⟨other, found, held', rfl, owner'⟩
        · exact accounts.tokens.inOrder token done
        · by_cases here : other = place
          · subst here
            obtain rfl := Option.some.inj (held.symm.trans held')
            exact (accounts.tokens.waiting other pending held).2.1.mp closed
          · exact absurd owner' (waitsOthers other found here held')
      | _ => exact absurd rfl grows
    · left
      have same : machine.space.tableAllocation = handle := by
        rw [released.log] at freed
        simpa [Machine.facing] using freed
      exact ⟨same.symm, released.once, released.mappings, released.frames, released.pending⟩
  · rw [refused.log] at grows
    exact absurd rfl grows

end Runs

section Guards

variable {issued : Handle → Prop}

/-- Every frame that a call may bind is a handle that the manager has issued. -/
def Vouched (issued : Handle → Prop) (_machine : Machine) (move : Move) : Prop :=
  ∀ frame, move.call.offers frame → issued frame

/-- A leaf that maps the page of a frame. -/
def MapsTo (leaf : Word) (frame : Handle) : Prop :=
  leaf &&& entryPresent ≠ 0#64 ∧ physicalAddress frame = .ok (leaf &&& physicalMask52)

/-- The books, the leaves under records and the bound frames among the issued ones. -/
structure Guarded (issued : Handle → Prop) (machine : Machine) : Prop where
  accounts : Accounts machine
  covered : Covered machine
  vouched : ∀ cell binding, machine.space.frames cell = some binding → issued binding.frame

theorem Effect.vouched (effect : Effect offers machine machine')
    (vouched : ∀ cell binding, machine.space.frames cell = some binding → issued binding.frame)
    (offered : ∀ frame, offers frame → issued frame) :
    ∀ cell binding, machine'.space.frames cell = some binding → issued binding.frame := by
  cases effect with
  | @bound address value frame permissions cache slot cell memory known _ _ _ _ _ _ _ _ =>
    exact each_update (offered frame known) (fun other found _ old => vouched other found old)
  | @aliased address value permissions slot cell binding memory _ _ _ _ held _ =>
    exact each_update (vouched cell binding held) (fun other found _ old => vouched other found old)
  | permitted _ _ _ _ => exact vouched
  | @unmapped mapping slot cell binding place previous memory _ bound _ _ _ _ _ =>
    exact each_update (vouched cell binding bound) (fun other found _ old => vouched other found old)
  | acknowledged _ _ _ => exact vouched
  | @completed pending place cell binding memory _ _ bound _ _ _ =>
    exact each_update (vouched cell binding bound) (fun other found _ old => vouched other found old)
  | freed _ _ _ _ _ _ _ => exact each_remove (fun other found _ old => vouched other found old)

theorem Guarded.move (guarded : Guarded issued machine) {move : Move} (known : Vouched issued machine move)
    (rollsBack : RollsBack machine move) : Guarded issued (perform machine move).2 := by
  have covered : Covered (machine.facing move.faults) := guarded.covered.keep rfl rfl rfl
  have vouched := guarded.vouched
  have consistent := guarded.accounts.consistent
  refine ⟨guarded.accounts.move move, ?_, ?_⟩
  · rcases guarded.accounts.step move with (effect | ⟨_, released⟩) | ⟨reason, failed, refused⟩
    · exact effect.covered consistent covered
    · refine covered.zeroed released.zeroed ?_ ?_
      all_goals rw [released.space]
    · refine covered.zeroed (refused.zeroed ?_) ?_ ?_
      · rintro rfl
        exact rollsBack failed
      all_goals rw [refused.space]
  · rcases guarded.accounts.step move with (effect | ⟨_, released⟩) | ⟨reason, failed, refused⟩
    · exact effect.vouched vouched known
    · rw [released.space]
      exact vouched
    · rw [refused.space]
      exact vouched

theorem Reached.guarded {initial : Machine} (fresh : Fresh initial) (log : initial.log = .new)
    (reached : Reached (fun machine move => Vouched issued machine move ∧ RollsBack machine move)
      initial machine) : Guarded issued machine := by
  induction reached with
  | start =>
    refine ⟨fresh.accounts log, fresh.covered, fun cell binding held => ?_⟩
    rw [fresh.frames cell] at held
    cases held
  | move move _ fine ih => exact ih.move fine.1 fine.2

theorem startPage_eq {left right : Handle} {address : Word} (found : physicalAddress left = .ok address)
    (found' : physicalAddress right = .ok address) : left.startPage = right.startPage := by
  have located : ∀ {handle : Handle}, physicalAddress handle = .ok address →
      handle.startPage * 4096 = address.toNat := by
    intro handle found
    unfold physicalAddress at found
    split at found
    · cases found
    · rename_i start fits
      obtain ⟨small, rfl⟩ := checkedMul_eq_some.mp fits
      split at found
      · cases found
        exact (Nat.mod_eq_of_lt small).symm
      · cases found
  have first := located found
  have second := located found'
  omega

/-- No leaf maps a bound frame without a mapping record. -/
theorem Guarded.unmapped (guarded : Guarded issued machine)
    (unique : ∀ left right, issued left → issued right → left.generation = right.generation →
      left = right) {cell : Fin maxFrames} {binding : Frame} (bound : machine.space.frames cell = some binding)
    (none_ : ∀ slot mapping, machine.space.mappings slot = some mapping →
      mapping.frame ≠ binding.frame) {address : Word} (inside : InWindow address) : ¬ MapsTo (machine.leaf address)
    binding.frame := by
  rintro ⟨present, located⟩
  rcases guarded.covered address inside with zero | ⟨slot, mapping, held, _, stored⟩
  · rw [zero] at present
    exact present rfl
  · obtain ⟨index, owner, bound', same, _⟩ := guarded.accounts.consistent.backed slot mapping held
    obtain ⟨_, base, found, leaf⟩ := leafEntry_eq_ok stored
    have masked : machine.leaf address &&& physicalMask52 = base := by
      rw [leaf, BitVec.and_or_distrib_right, leafFlags_mask, and_mask (physicalAddress_clean found), BitVec.or_zero]
    rw [masked] at located
    have page : owner.frame.startPage = binding.frame.startPage := by
      rw [same]
      exact startPage_eq found located
    have generation := guarded.accounts.consistent.pages index cell owner binding bound' bound page
    have equal := unique _ _ (guarded.vouched index owner bound') (guarded.vouched cell binding bound)
      generation
    exact none_ slot mapping held (same.symm.trans equal)

end Guards

/-- The life of the frames of an address space, over every run. What is freed is freed once for
each binding and after its tokens were acknowledged; and while no rollback has failed, no leaf maps
it then. -/
theorem frame_lifetimes {memory memory' : Memory} {valid : Bool} {tableAllocation : Handle} {space : Space}
    {issued : Handle → Prop} (built : (initializeSpace valid tableAllocation).run memory = (.ok space, memory'))
    (unique : ∀ left right, issued left → issued right → left.generation = right.generation → left = right) :
    (∀ machine, Reached (fun _ _ => True) ⟨memory', space, .new⟩ machine →
      (∀ cell binding, machine.space.frames cell = some binding → binding.mappingCount =
          count machine.space.mappings (fun mapping => mapping.frame = binding.frame) ∧ binding.pendingCount =
          count machine.space.pending (fun pending => pending.frame = binding.frame)) ∧
      (∀ frame, frame.pageCount = 1 → machine.log.bound.count frame = machine.log.freed.count frame +
          count machine.space.frames (fun binding => binding.frame = frame)) ∧
      machine.log.acknowledged.Nodup ∧ machine.log.completed.Nodup ∧
      machine.log.freed.count machine.space.tableAllocation ≤ 1 ∧
      ∀ move handle, (perform machine move).2.log.freed = machine.log.freed ++ [handle] →
        (handle = machine.space.tableAllocation ∧ machine.space.released = false ∧
          (∀ slot, machine.space.mappings slot = none) ∧ (∀ cell, machine.space.frames cell = none) ∧
              ∀ place, machine.space.pending place = none) ∨
        ((∃ cell binding, machine.space.frames cell = some binding ∧ binding.frame = handle) ∧
          (∀ slot mapping, machine.space.mappings slot = some mapping → mapping.frame ≠ handle) ∧
            ∀ token, (token, handle) ∈ machine.log.issued → token ∈ machine.log.acknowledged)) ∧
    (∀ machine, Reached (fun machine move => Vouched issued machine move ∧ RollsBack machine move)
      ⟨memory', space, .new⟩ machine → ∀ move handle,
        (perform machine move).2.log.freed = machine.log.freed ++ [handle] → ∀ address,
          InWindow address → ¬ MapsTo (machine.leaf address) handle) := by
  have fresh := fresh_of_built built
  refine ⟨fun machine reached => ?_, fun machine reached move handle freed address inside => ?_⟩
  · have accounts := reached.accounts fresh rfl
    refine ⟨fun cell binding held => ⟨?_, ?_⟩, accounts.balanced.frames,
      accounts.tokens.acknowledgedOnce, accounts.tokens.completedOnce, ?_,
      fun move handle freed => accounts.frees freed⟩
    · exact accounts.consistent.mappingCounts cell binding held
    · exact accounts.consistent.pendingCounts cell binding held
    · rw [accounts.balanced.tables]
      split <;> omega
  · have guarded := reached.guarded fresh rfl
    rcases guarded.accounts.frees freed with ⟨_, _, empty, _, _⟩ | ⟨⟨cell, binding, bound, rfl⟩, none_, _⟩
    · rintro ⟨present, _⟩
      rcases guarded.covered address inside with zero | ⟨slot, mapping, held, _, _⟩
      · rw [zero] at present
        exact present rfl
      · rw [empty slot] at held
        cases held
    · exact guarded.unmapped unique bound none_ inside

section Stray

/-- A verification that cannot be read and a rollback that cannot be written. -/
def strayFaults : List Fault :=
  [.none, .none, ⟨false, .memoryAccess, false⟩, ⟨false, .memoryAccess, false⟩]

def firstToken : Token := ⟨1, 1, firstPage, 2⟩

/-- The frame is mapped at the first page, left in the leaf of the second one by a rollback that
fails, and unmapped from the first page. -/
def strayMoves : List Move :=
  [⟨.map true firstPage frameHandle dataPermissions .writeBack, []⟩,
    ⟨.map true secondPage frameHandle dataPermissions .writeBack, strayFaults⟩,
    ⟨.beginUnmap firstPage, []⟩, ⟨.acknowledgeInactive firstToken, []⟩]

def run (machine : Machine) (moves : List Move) : Machine :=
  moves.foldl (fun machine move => (perform machine move).2) machine

theorem reached_run {allowed : Machine → Move → Prop} (any : ∀ machine move, allowed machine move) {initial : Machine}
    (moves : List Move) (reached : Reached allowed initial machine) : Reached allowed initial (run machine moves) := by
  induction moves generalizing machine with
  | nil => exact reached
  | cons move rest ih => exact ih (.move move reached (any machine move))

def blankTables : Memory :=
  linkAt 0x100000#64 2 (linkAt 0x100000#64 1 (linkAt 0x100000#64 0 blankMemory))

theorem initializeSpace_blank : (initializeSpace true tableHandle).run blankMemory =
    (.ok (newSpace tableHandle 0x100000#64), blankTables) := by
  have quiet : blankMemory.Quiet := rfl
  have located : physicalAddress tableHandle = .ok 0x100000#64 := by decide
  obtain ⟨cleared, holds, built⟩ := initializeSpace_quiet quiet ⟨rfl, rfl, rfl⟩ located
  have blank : cleared = blankMemory := by
    obtain ⟨entries, faults⟩ := cleared
    have none_ : faults = [] := holds.quiet
    have zero : entries = fun _ _ => 0#64 := by
      funext other cell
      rcases holds.kept other cell with same | same <;> exact same
    rw [none_, zero]
    rfl
  rw [blank] at built
  exact built

def blankMachine : Machine := ⟨blankTables, newSpace tableHandle 0x100000#64, .new⟩

def mappedMachine : Machine :=
  (perform blankMachine ⟨.map true firstPage frameHandle dataPermissions .writeBack, []⟩).2

def unmappedMachine : Machine := (perform mappedMachine ⟨.beginUnmap firstPage, []⟩).2

def closedMachine : Machine := (perform unmappedMachine ⟨.acknowledgeInactive firstToken, []⟩).2

/-- One frame mapped, unmapped and freed. -/
theorem frame_lifetimes_oneFrame :
    (perform closedMachine ⟨.completeUnmap true firstToken, []⟩).2.log.freed = [frameHandle] ∧
      ∀ address, InWindow address → ¬ MapsTo (closedMachine.leaf address) frameHandle := by
  have freed : (perform closedMachine ⟨.completeUnmap true firstToken, []⟩).2.log.freed =
      [frameHandle] := by decide
  refine ⟨freed, ?_⟩
  have lifetimes := @frame_lifetimes _ _ _ _ _ (fun handle => handle = frameHandle)
    initializeSpace_blank (fun left right known known' _ => known.trans known'.symm)
  have begun : Reached (fun machine move => Vouched (fun handle => handle = frameHandle) machine move ∧
      RollsBack machine move) blankMachine blankMachine := .start
  have mapped := begun.move ⟨.map true firstPage frameHandle dataPermissions .writeBack, []⟩
    ⟨fun _ same => same, by unfold RollsBack; decide⟩
  have unmapped := mapped.move ⟨.beginUnmap firstPage, []⟩
    ⟨fun _ none_ => none_.elim, by unfold RollsBack; decide⟩
  have closed := unmapped.move ⟨.acknowledgeInactive firstToken, []⟩
    ⟨fun _ none_ => none_.elim, by unfold RollsBack; decide⟩
  refine lifetimes.2 closedMachine closed ⟨.completeUnmap true firstToken, []⟩ frameHandle ?_
  rfl

instance (leaf : Word) (frame : Handle) : Decidable (MapsTo leaf frame) :=
  inferInstanceAs (Decidable (_ ∧ _))

/-- After a failed rollback a frame is freed while a leaf maps it. -/
theorem stray_leaf_freed : ∃ space memory machine,
    (initializeSpace true tableHandle).run blankMemory = (.ok space, memory) ∧
      Reached (fun _ _ => True) ⟨memory, space, .new⟩ machine ∧
        (perform machine ⟨.completeUnmap true firstToken, []⟩).2.log.freed = machine.log.freed ++ [frameHandle] ∧
            InWindow secondPage ∧ MapsTo (machine.leaf secondPage) frameHandle := by
  refine ⟨_, _, run blankMachine strayMoves, initializeSpace_blank, reached_run (fun _ _ => trivial) strayMoves .start, ?_, secondPage_inside, ?_⟩
  · decide
  · decide

end Stray

end PooleOS.Paging
