import PooleOS.Paging.Walk

/- Runs of an address space. As long as no rollback fails and the token numbers
last, the stored leaves are those of the records in every state of every run, and
a call that fails changes neither. When the numbers have run out an unmapping
fails with its leaf cleared and its record kept: the run that gets there maps one
page for good and maps and unmaps a second one until the numbers are used up. -/
namespace PooleOS.Paging

open Cells
open Op (wp_bind wp_iff wp_lift_ok wp_mono wp_read)
open Op (wp)

/-- One call, with the answers of the manager. -/
inductive Call
  | map (valid : Bool) (virtualAddress : Word) (frame : Handle) (permissions : Permissions)
      (cache : CachePolicy)
  | protect (virtualAddress : Word) (permissions : Permissions)
  | beginUnmap (virtualAddress : Word)
  | acknowledgeInactive (token : Token)
  | completeUnmap (frees : Bool) (token : Token)
  | release (frees : Bool)
deriving DecidableEq, Repr

def Call.exec : Call → VmOp Unit
  | .map valid virtualAddress frame permissions cache =>
    Paging.map valid virtualAddress frame permissions cache
  | .protect virtualAddress permissions => Paging.protect virtualAddress permissions
  | .beginUnmap virtualAddress => do let _ ← Paging.beginUnmap virtualAddress
  | .acknowledgeInactive token => Paging.acknowledgeInactive token
  | .completeUnmap frees token => do let _ ← Paging.completeUnmap frees token
  | .release frees => Paging.release frees

/-- The frames that a call may bind: the one to map, when the manager vouches for it. -/
def Call.offers : Call → Handle → Prop
  | .map true _ frame _ _, handle => handle = frame
  | _, _ => False

def Call.isRelease : Call → Bool
  | .release _ => true
  | _ => false

/-- A call with the behaviour of the memory during it. -/
structure Move where
  call : Call
  faults : List Fault
deriving DecidableEq, Repr

/-- The machine with the memory about to behave so. -/
def Machine.facing (machine : Machine) (faults : List Fault) : Machine :=
  { machine with memory := ⟨machine.memory.entries, faults⟩ }

def perform (machine : Machine) (move : Move) : Except Error Unit × Machine :=
  move.call.exec.run (machine.facing move.faults)

/-- The states of the runs whose moves are all allowed. -/
inductive Reached (allowed : Machine → Move → Prop) (start : Machine) : Machine → Prop
  | start : Reached allowed start start
  | move {machine : Machine} (move : Move) (reached : Reached allowed start machine)
      (fine : allowed machine move) : Reached allowed start (perform machine move).2

/-- A move whose result does not report a failed rollback. -/
def RollsBack (machine : Machine) (move : Move) : Prop :=
  (perform machine move).1 ≠ .error .rollbackFailed

/-- An unmapping that will be given a token finds a number for it. -/
def Numbered (machine : Machine) (call : Call) : Prop :=
  match call with
  | .beginUnmap address => machine.space.mappingIndex address ≠ none →
      Cells.vacancy machine.space.pending ≠ none → machine.space.nextInvalidation + 1 < u64Values
  | _ => True

section Steps

variable {machine : Machine} {move : Move}

/-- What a move can have done. -/
def Did (machine : Machine) (call : Call) (machine' : Machine) : Prop :=
  Effect call.offers machine machine' ∨ call.isRelease = true ∧ Released machine machine'

theorem step_cases (consistent : Consistent machine.space) (call : Call) :
    wp call.exec (fun _ => Did machine call) (Refused machine) machine := by
  have undone : ∀ reason machine', Undone machine reason machine' → Refused machine reason machine' :=
    fun _ _ failed => failed.toRefused
  cases call with
  | map valid address frame permissions cache =>
    refine wp_mono (map_spec consistent valid address frame permissions cache ?_)
      (fun _ _ effect => .inl effect) undone
    rintro rfl
    exact rfl
  | protect address permissions =>
    exact wp_mono (protect_spec address permissions) (fun _ _ effect => .inl effect) undone
  | beginUnmap address =>
    refine (wp_bind _).mpr ?_
    exact wp_mono (beginUnmap_spec consistent address) (fun _ _ effect => .inl effect)
      (fun _ _ failed => failed.toRefused)
  | acknowledgeInactive token =>
    exact wp_mono (acknowledgeInactive_spec token) (fun _ _ effect => .inl effect) undone
  | completeUnmap frees token =>
    refine (wp_bind _).mpr ?_
    exact wp_mono (completeUnmap_spec consistent frees token)
      (fun _ _ effect => .inl effect) undone
  | release frees =>
    exact wp_mono (release_spec frees) (fun _ _ released => .inr ⟨rfl, released⟩)
      (fun _ _ refused => refused)

/-- An unmapping that is refused before it touches the table. -/
theorem beginUnmap_early {address : Word}
    (early : machine.space.mappingIndex address = none ∨ vacancy machine.space.pending = none) :
    wp (beginUnmap address) (fun _ _ => False) (fun _ machine' => machine' = machine) machine := by
  unfold beginUnmap
  simp only [wp_bind, wp_read]
  refine Op.wp_lift_intro (fun _ _ => ?_) (fun _ _ => rfl)
  refine Op.wp_orError (fun slot found => ?_) (fun _ => rfl)
  rcases early with missing | full
  · rw [missing] at found
    cases found
  · simp only [full, orError_none, Op.wp_lift_error]

/-- A failed call that finds its number is undone. -/
theorem step_undone (consistent : Consistent machine.space) {call : Call}
    (mapping : call.isRelease = false) (numbered : Numbered machine call) :
    wp call.exec (fun _ => Effect call.offers machine) (Undone machine) machine := by
  cases call with
  | map valid address frame permissions cache =>
    refine map_spec consistent valid address frame permissions cache ?_
    rintro rfl
    exact rfl
  | protect address permissions => exact protect_spec address permissions
  | beginUnmap address =>
    refine (wp_bind _).mpr ?_
    by_cases early : machine.space.mappingIndex address = none ∨
        vacancy machine.space.pending = none
    · refine wp_mono (beginUnmap_early early) (fun _ _ none_ => none_.elim) ?_
      rintro reason machine' rfl
      exact undone_refl reason
    · rw [not_or] at early
      have room := numbered early.1 early.2
      exact wp_mono (beginUnmap_spec consistent address) (fun _ _ effect => effect)
        (fun _ _ failed => ⟨failed.toRefused, fun fine => failed.kept fine room⟩)
  | acknowledgeInactive token => exact acknowledgeInactive_spec token
  | completeUnmap frees token =>
    refine (wp_bind _).mpr ?_
    exact completeUnmap_spec consistent frees token
  | release frees => cases mapping

end Steps

section Refinement

variable {machine : Machine} {move : Move}

/-- The tables and the records agree. -/
structure Faithful (machine : Machine) : Prop where
  consistent : Consistent machine.space
  covered : Covered machine
  stored : Stored machine
  linked : Linked machine

theorem Fresh.consistent (fresh : Fresh machine) : Consistent machine.space := by
  have mappings := fresh.mappings
  have frames := fresh.frames
  have pending := fresh.pending
  constructor <;> simp_all [Cells.Apart]

theorem Fresh.covered (fresh : Fresh machine) : Covered machine :=
  fun address _ => .inl (fresh.empty address)

theorem Fresh.faithful (fresh : Fresh machine) : Faithful machine := by
  refine ⟨fresh.consistent, fresh.covered, fun slot mapping held => ?_, fresh.linked⟩
  rw [fresh.mappings slot] at held
  cases held

theorem Faithful.facing (faithful : Faithful machine) (faults : List Fault) : Faithful (machine.facing faults) :=
  ⟨faithful.consistent, faithful.covered.keep rfl rfl rfl, faithful.stored.keep rfl rfl rfl,
    faithful.linked.keep rfl rfl⟩

theorem Faithful.effect {machine' : Machine} {offers : Handle → Prop} (faithful : Faithful machine)
    (effect : Effect offers machine machine') : Faithful machine' :=
  ⟨effect.consistent faithful.consistent, effect.covered faithful.consistent faithful.covered,
    effect.stored faithful.consistent faithful.stored, effect.linked faithful.linked⟩

theorem Faithful.undone {machine' : Machine} {reason : Error} (faithful : Faithful machine)
    (undone : Undone machine reason machine') (fine : reason ≠ .rollbackFailed) : Faithful machine' := by
  obtain ⟨⟨space, log, _⟩, kept⟩ := undone
  refine ⟨?_, faithful.covered.keep (kept fine) ?_ ?_, faithful.stored.keep (kept fine) ?_ ?_,
    faithful.linked.keep (kept fine) ?_⟩
  all_goals rw [space]
  exact faithful.consistent

/-- A move of the run: no release, a number for each token, and no failed rollback. -/
structure Orderly (machine : Machine) (move : Move) : Prop where
  mapping : move.call.isRelease = false
  numbered : Numbered machine move.call
  rollsBack : RollsBack machine move

theorem Faithful.undone_move (faithful : Faithful machine) (mapping : move.call.isRelease = false)
    (numbered : Numbered machine move.call) :
    wp move.call.exec (fun _ => Effect move.call.offers (machine.facing move.faults))
      (Undone (machine.facing move.faults)) (machine.facing move.faults) :=
  step_undone (faithful.facing move.faults).consistent mapping numbered

theorem Faithful.step (faithful : Faithful machine) (orderly : Orderly machine move) :
    Faithful (perform machine move).2 := by
  have step := faithful.undone_move orderly.mapping orderly.numbered
  rw [wp_iff] at step
  have before := faithful.facing move.faults
  cases result : (perform machine move).1 with
  | ok value => exact before.effect (step.1 value result)
  | error reason =>
    refine before.undone (step.2 reason result) (fun failed => orderly.rollsBack ?_)
    rw [result, failed]

theorem Reached.faithful {start : Machine} (faithful : Faithful start)
    (reached : Reached Orderly start machine) : Faithful machine := by
  induction reached with
  | start => exact faithful
  | move move _ orderly ih => exact ih.step orderly

/-- The contents of the page tables are those of the records. -/
structure Refines (machine : Machine) : Prop where
  recorded : ∀ slot mapping, machine.space.mappings slot = some mapping →
    leafEntry mapping.frame mapping.permissions mapping.cache =
      .ok (machine.leaf mapping.virtualAddress)
  empty : ∀ address, InWindow address → machine.space.mappingIndex address = none →
    machine.leaf address = 0#64
  translated : ∀ address slot mapping faults, machine.space.mappings slot = some mapping →
    mapping.virtualAddress = pageOf address → (machine.facing faults).memory.Works 4 →
      ∃ base, physicalAddress mapping.frame = .ok base ∧
        ((translate machine.space address).run (machine.facing faults).memory).1 =
          .ok ⟨base + (address &&& 0xfff#64), mapping.permissions, mapping.cache⟩
  missing : ∀ address faults, InWindow (pageOf address) →
    machine.space.mappingIndex (pageOf address) = none → (machine.facing faults).memory.Works 4 →
      ((translate machine.space address).run (machine.facing faults).memory).1 =
        .error .mappingMissing
  exclusive : ∀ address, InWindow address → machine.leaf address &&& entryWritable ≠ 0#64 →
    machine.leaf address &&& entryNoExecute ≠ 0#64
  cached : ∀ left right mapping other, machine.space.mappings left = some mapping →
    machine.space.mappings right = some other → mapping.frame = other.frame →
      mapping.cache = other.cache

theorem Faithful.refines (faithful : Faithful machine) : Refines machine := by
  have consistent := faithful.consistent
  have same : ∀ faults, (machine.facing faults).memory.entries = machine.memory.entries :=
    fun _ => rfl
  have empty : ∀ address, InWindow address → machine.space.mappingIndex address = none →
      machine.leaf address = 0#64 := by
    intro address inside absent
    rcases faithful.covered address inside with zero | ⟨slot, mapping, held, found, _⟩
    · exact zero
    · exact absurd found (fresh_address absent held)
  refine ⟨faithful.stored, empty, ?_, ?_, ?_, ?_⟩
  · intro address slot mapping faults held found works
    have inside := consistent.inside slot mapping held
    rw [found] at inside
    have leaf := faithful.stored slot mapping held
    rw [found] at leaf
    rw [translate_leaf faithful.linked inside (same faults) works]
    exact decodeLeaf_leafEntry leaf address
  · intro address faults inside absent works
    rw [translate_leaf faithful.linked inside (same faults) works, empty _ inside absent]
    rfl
  · intro address inside writable
    rcases faithful.covered address inside with zero | ⟨slot, mapping, _, _, stored⟩
    · rw [zero] at writable
      exact absurd rfl writable
    · exact leafEntry_exclusive stored writable
  · intro left right mapping other held held' shared
    obtain ⟨index, binding, bound, owner, cache⟩ := consistent.backed left mapping held
    obtain ⟨index', binding', bound', owner', cache'⟩ := consistent.backed right other held'
    have equal : binding = binding' :=
      consistent.framesApart.eq bound bound' (owner.trans (shared.trans owner'.symm))
    rw [← cache, ← cache', equal]

/-- In every run whose unmappings find numbers for their tokens, as long as no rollback fails, the
tables refine the records; and a call that then fails, but for a failed rollback, changes neither
the tables nor the records. -/
theorem tables_refine_records {memory memory' : Memory} {valid : Bool} {tableAllocation : Handle} {space : Space}
    (built : (initializeSpace valid tableAllocation).run memory = (.ok space, memory'))
    (reached : Reached Orderly ⟨memory', space, .new⟩ machine) :
    Refines machine ∧ ∀ move reason, move.call.isRelease = false → Numbered machine move.call →
      (perform machine move).1 = .error reason → reason ≠ .rollbackFailed →
        (perform machine move).2.memory.entries = machine.memory.entries ∧
          (perform machine move).2.space = machine.space := by
  have faithful := reached.faithful (fresh_of_built built).faithful
  refine ⟨faithful.refines, fun move reason mapping numbered failed fine => ?_⟩
  have step := faithful.undone_move mapping numbered
  rw [wp_iff] at step
  have undone := step.2 reason failed
  exact ⟨undone.kept fine, undone.space⟩

end Refinement

section Pairs

variable {n : Nat} {α : Type} {first second : Option α} {left right : Fin n}

/-- A table whose first two cells may hold something. -/
def pair (first second : Option α) (cell : Fin n) : Option α :=
  match cell.val with
  | 0 => first
  | 1 => second
  | _ => none

theorem update_pair_first (zero : left.val = 0) (value : Option α) :
    Function.update (pair first second) left value = pair value second := by
  funext cell
  by_cases same : cell = left
  · subst same
    simp [pair, zero]
  · have off : cell.val ≠ 0 := fun equal => same (Fin.ext (equal.trans zero.symm))
    unfold pair
    split <;> simp_all

theorem update_pair_second (one : right.val = 1) (value : Option α) :
    Function.update (pair first second) right value = pair first value := by
  funext cell
  by_cases same : cell = right
  · subst same
    simp [pair, one]
  · have off : cell.val ≠ 1 := fun equal => same (Fin.ext (equal.trans one.symm))
    unfold pair
    split <;> simp_all

theorem position_pair_first {first : α} {second : Option α} {wanted : α → Bool} (holds : wanted first = true) :
    position (pair (some first) second : Fin (n + 1) → Option α) wanted = some 0 := by
  unfold position
  rw [List.finRange_succ]
  exact List.find?_cons_of_pos holds

end Pairs

section Rounds

def tableHandle : Handle := ⟨0, 1, 0x100, 4, .dma32, tableOwner⟩
def frameHandle : Handle := ⟨1, 2, 0x200, 1, .dma32, dataOwner⟩
def firstPage : Word := BitVec.ofNat 64 userWindowStart
def secondPage : Word := BitVec.ofNat 64 (userWindowStart + pageBytes)
def dataPermissions : Permissions := ⟨true, true, false, true⟩
def dataLeaf : Word := 0x8000000000200007#64

def dataMapping (page : Word) : Mapping := ⟨page, frameHandle, dataPermissions, .writeBack⟩

/-- The token of the second page with a number. -/
def dataToken (number : Nat) : Token := ⟨number, 1, secondPage, 2⟩

/-- The frame is mapped at the first page, perhaps at the second, and an invalidation may wait. -/
structure Resident (machine : Machine) (second : Option Mapping) (mapped waits : Nat)
    (waiting : Option Pending) (number : Nat) : Prop where
  quiet : machine.memory.Quiet
  mappings : machine.space.mappings = pair (some (dataMapping firstPage)) second
  frames : machine.space.frames = pair (some ⟨frameHandle, .writeBack, mapped, waits⟩) none
  pending : machine.space.pending = pair waiting none
  numbered : machine.space.nextInvalidation = number
  unreleased : machine.space.released = false
  inactive : machine.space.active = false
  rooted : machine.space.tableAllocation = tableHandle
  first : machine.leaf firstPage = dataLeaf
  other : machine.leaf secondPage = if second.isSome then dataLeaf else 0#64

variable {machine : Machine} {number : Nat}

theorem leafEntry_data : leafEntry frameHandle dataPermissions .writeBack = .ok dataLeaf := by decide

theorem wp_replaceLeaf_quiet (quiet : machine.memory.Quiet) {address expected value : Word}
    {done : Unit → Machine → Prop} {failed : Error → Machine → Prop} (stored : machine.leaf address = expected)
    (pass : ∀ memory, memory.Quiet → Wrote machine address expected value memory → done () { machine with memory }) : wp
    (onMemory (replaceEntry (machine.space.tables 3) (tableIndex address 3) expected value)) done failed machine := by
  rw [wp_onMemory]
  exact wp_replaceEntry_quiet quiet stored (pass _ (quiet.write value) ⟨stored, rfl⟩)

theorem pages_apart : firstPage ≠ secondPage := by decide

theorem firstPage_inside : InWindow firstPage := ⟨by decide, by decide, by decide⟩

theorem secondPage_inside : InWindow secondPage := ⟨by decide, by decide, by decide⟩

/-- The first page keeps its leaf when the other one changes. -/
theorem Resident.first_kept {second : Option Mapping} {mapped waits : Nat} {waiting : Option Pending}
    (resident : Resident machine second mapped waits waiting number) {expected value : Word} {memory : Memory}
    (wrote : Wrote machine secondPage expected value memory) {space : Space} {log : Log}
    (tables : space.tables = machine.space.tables) : Machine.leaf ⟨memory, space, log⟩ firstPage = dataLeaf := by
  rw [wrote.leaf_of_ne secondPage_inside firstPage_inside pages_apart tables]
  exact resident.first

theorem Resident.token_found {mapped waits following : Nat} {acknowledged : Bool}
    (resident : Resident machine none mapped waits (some ⟨dataToken number, frameHandle, acknowledged⟩) following) :
    machine.space.pendingIndex (dataToken number) = some ⟨0, by decide⟩ ∧ machine.space.pending ⟨0, by decide⟩ = some
    ⟨dataToken number, frameHandle, acknowledged⟩ := by
  unfold Space.pendingIndex
  rw [resident.pending]
  exact ⟨position_pair_first (by simp), rfl⟩

theorem map_second (resident : Resident machine none 1 0 none number) :
    wp (map true secondPage frameHandle dataPermissions .writeBack)
      (fun _ machine' => Resident machine' (some (dataMapping secondPage)) 2 0 none number)
      (fun _ _ => False) machine := by
  have valid : validateVirtual secondPage = .ok () := validateVirtual_eq_ok.mpr secondPage_inside
  have absent : machine.space.mappingIndex secondPage = none := by
    unfold Space.mappingIndex
    rw [resident.mappings]
    decide
  have vacancy : vacancy machine.space.mappings = some ⟨1, by decide⟩ := by
    rw [resident.mappings]
    decide
  have found : machine.space.frameIndex frameHandle = some ⟨0, by decide⟩ := by
    unfold Space.frameIndex
    rw [resident.frames]
    decide
  have bound : machine.space.frames ⟨0, by decide⟩ = some ⟨frameHandle, .writeBack, 1, 0⟩ := by
    rw [resident.frames]
    rfl
  have admitted : admitFrame machine.space frameHandle .writeBack = .ok () := by
    unfold admitFrame
    rw [found]
    simp only [bound, orError_some]
    rfl
  unfold map
  simp only [wp_bind, wp_read, resident.unreleased, valid, wp_lift_ok, absent, vacancy,
    orError_some, admitted, leafEntry_data, found]
  refine wp_replaceLeaf_quiet resident.quiet resident.other (fun memory quiet wrote => ?_)
  unfold bindFrame
  simp only [wp_bind, wp_read, wp_onSpace, Space.setMapping, Space.setFrame, bound,
    orError_some, wp_lift_ok, checkedAdd, u8Values]
  refine ⟨quiet, ?_, ?_, resident.pending, resident.numbered, resident.unreleased,
    resident.inactive, resident.rooted, ?_, wrote.leaf rfl⟩
  · rw [resident.mappings, update_pair_second rfl]
    rfl
  · rw [resident.frames, update_pair_first rfl]
  · exact resident.first_kept wrote rfl

theorem unmap_second (resident : Resident machine (some (dataMapping secondPage)) 2 0 none number)
    (room : number + 1 < u64Values) : wp (beginUnmap secondPage) (fun _ machine' => Resident machine' none 1 1
        (some ⟨dataToken number, frameHandle, false⟩) (number + 1)) (fun _ _ => False) machine := by
  have valid : validateVirtual secondPage = .ok () := validateVirtual_eq_ok.mpr secondPage_inside
  have present : machine.space.mappingIndex secondPage = some ⟨1, by decide⟩ := by
    unfold Space.mappingIndex
    rw [resident.mappings]
    decide
  have held : machine.space.mappings ⟨1, by decide⟩ = some (dataMapping secondPage) := by
    rw [resident.mappings]
    rfl
  have vacancy : vacancy machine.space.pending = some ⟨0, by decide⟩ := by
    rw [resident.pending]
    decide
  have found : machine.space.frameIndex (dataMapping secondPage).frame = some ⟨0, by decide⟩ := by
    unfold Space.frameIndex
    rw [resident.frames]
    decide
  have bound : machine.space.frames ⟨0, by decide⟩ = some ⟨frameHandle, .writeBack, 2, 0⟩ := by
    rw [resident.frames]
    rfl
  have stored : leafEntry (dataMapping secondPage).frame (dataMapping secondPage).permissions
      (dataMapping secondPage).cache = .ok dataLeaf := leafEntry_data
  unfold beginUnmap
  simp only [wp_bind, wp_read, valid, wp_lift_ok, present, vacancy, held, found, bound, orError_some, stored]
  refine wp_replaceLeaf_quiet resident.quiet resident.other (fun memory quiet wrote => ?_)
  have counted : checkedAdd u64Values number 1 = some (number + 1) :=
    checkedAdd_eq_some.mpr ⟨room, rfl⟩
  have lowered : checkedSub 2 1 = some 1 := rfl
  have raised : checkedAdd u8Values 0 1 = some 1 := rfl
  simp only [resident.numbered, counted, lowered, raised, orError_some, wp_lift_ok, wp_onSpace,
    wp_onLog, Space.setMapping, Space.setFrame, Space.setPending, resident.rooted, Op.wp_pure]
  refine ⟨quiet, ?_, ?_, ?_, rfl, resident.unreleased, resident.inactive, rfl, ?_, wrote.leaf rfl⟩
  · rw [resident.mappings, update_pair_second rfl]
  · rw [resident.frames, update_pair_first rfl]
  · rw [resident.pending, update_pair_first rfl]
    rfl
  · exact resident.first_kept wrote rfl

theorem acknowledge_second
    (resident : Resident machine none 1 1 (some ⟨dataToken number, frameHandle, false⟩) (number + 1)) :
    wp (acknowledgeInactive (dataToken number)) (fun _ machine' => Resident machine' none 1 1
        (some ⟨dataToken number, frameHandle, true⟩) (number + 1)) (fun _ _ => False) machine := by
  obtain ⟨waits, held⟩ := resident.token_found
  unfold acknowledgeInactive
  simp only [wp_bind, wp_read, resident.inactive, waits, held, orError_some, wp_lift_ok, resident.rooted]
  refine ⟨resident.quiet, resident.mappings, resident.frames, ?_, resident.numbered,
    resident.unreleased, resident.inactive, resident.rooted, resident.first, resident.other⟩
  dsimp only [Space.setPending]
  rw [resident.pending, update_pair_first rfl]

theorem complete_second
    (resident : Resident machine none 1 1 (some ⟨dataToken number, frameHandle, true⟩) (number + 1)) :
    wp (completeUnmap false (dataToken number))
      (fun _ machine' => Resident machine' none 1 0 none (number + 1)) (fun _ _ => False) machine := by
  obtain ⟨waits, held⟩ := resident.token_found
  have found : machine.space.frameIndex frameHandle = some ⟨0, by decide⟩ := by
    unfold Space.frameIndex
    rw [resident.frames]
    decide
  have bound : machine.space.frames ⟨0, by decide⟩ = some ⟨frameHandle, .writeBack, 1, 1⟩ := by
    rw [resident.frames]
    rfl
  unfold completeUnmap
  simp only [wp_bind, wp_read, waits, held, orError_some, wp_lift_ok, found, bound]
  refine ⟨resident.quiet, resident.mappings, ?_, ?_, resident.numbered,
    resident.unreleased, resident.inactive, resident.rooted, resident.first, resident.other⟩
  · dsimp only [Space.setPending, Space.setFrame]
    rw [resident.frames, update_pair_first rfl]
  · dsimp only [Space.setPending, Space.setFrame]
    rw [resident.pending, update_pair_first rfl]

/-- The first page of a fresh address space. -/
theorem map_first (fresh : Fresh machine) (quiet : machine.memory.Quiet)
    (rooted : machine.space.tableAllocation = tableHandle) :
    wp (map true firstPage frameHandle dataPermissions .writeBack)
      (fun _ machine' => Resident machine' none 1 0 none 1) (fun _ _ => False) machine := by
  have mappings : machine.space.mappings = pair none none := by
    funext slot
    rw [fresh.mappings slot]
    unfold pair
    split <;> rfl
  have frames : machine.space.frames = pair none none := by
    funext cell
    rw [fresh.frames cell]
    unfold pair
    split <;> rfl
  have pending : machine.space.pending = pair none none := by
    funext place
    rw [fresh.pending place]
    unfold pair
    split <;> rfl
  have valid : validateVirtual firstPage = .ok () := validateVirtual_eq_ok.mpr firstPage_inside
  have absent : machine.space.mappingIndex firstPage = none := by
    unfold Space.mappingIndex
    rw [mappings]
    decide
  have vacancy : Cells.vacancy machine.space.mappings = some ⟨0, by decide⟩ := by
    rw [mappings]
    decide
  have unbound : machine.space.frameIndex frameHandle = none := by
    unfold Space.frameIndex
    rw [frames]
    decide
  have free : Cells.vacancy machine.space.frames = some ⟨0, by decide⟩ := by
    rw [frames]
    decide
  have admitted : admitFrame machine.space frameHandle .writeBack = .ok () := by
    unfold admitFrame
    rw [unbound, frames]
    decide
  unfold map
  simp only [wp_bind, wp_read, fresh.unreleased, valid, wp_lift_ok, absent, vacancy,
    orError_some, admitted, leafEntry_data, unbound]
  refine wp_replaceLeaf_quiet quiet (fresh.empty firstPage) (fun memory quiet' wrote => ?_)
  unfold bindFrame
  simp only [wp_bind, wp_read, wp_onSpace, wp_onLog, Space.setMapping, Space.setFrame, free,
    orError_some, wp_lift_ok]
  refine ⟨quiet', ?_, ?_, pending, fresh.numbering, fresh.unreleased, fresh.inactive, rooted, wrote.leaf rfl, ?_⟩
  · rw [mappings, update_pair_first rfl]
    rfl
  · rw [frames, update_pair_first rfl]
  · refine (wrote.leaf_of_ne firstPage_inside secondPage_inside pages_apart.symm ?_).trans
      (fresh.empty secondPage)
    rfl

/-- No release and no failed rollback. -/
def Plain (machine : Machine) (move : Move) : Prop :=
  move.call.isRelease = false ∧ RollsBack machine move

theorem Memory.Quiet.facing (quiet : machine.memory.Quiet) : machine.facing [] = machine := by
  obtain ⟨⟨entries, faults⟩, space, log⟩ := machine
  cases quiet
  rfl

/-- A call that works, as a move of a run. -/
theorem Reached.works {allowed : Machine → Move → Prop} {initial : Machine} {holds : Machine → Prop}
    (reached : Reached allowed initial machine) (quiet : machine.memory.Quiet) (call : Call)
    (fine : RollsBack machine ⟨call, []⟩ → allowed machine ⟨call, []⟩)
    (works : wp call.exec (fun _ => holds) (fun _ _ => False) machine) :
    ∃ machine', Reached allowed initial machine' ∧ holds machine' := by
  have performed : perform machine ⟨call, []⟩ = call.exec.run machine := by
    unfold perform
    rw [quiet.facing]
  rw [wp_iff] at works
  refine ⟨(perform machine ⟨call, []⟩).2, .move ⟨call, []⟩ reached (fine (fun failed => ?_)), ?_⟩
  · rw [performed] at failed
    exact works.2 _ failed
  · rw [performed]
    cases result : (call.exec.run machine).1 with
    | ok value => exact works.1 value result
    | error reason => exact (works.2 reason result).elim

/-- One round uses up one number. -/
theorem Resident.round {initial : Machine} (reached : Reached Plain initial machine)
    (resident : Resident machine none 1 0 none number) (room : number + 1 < u64Values) :
    ∃ machine', Reached Plain initial machine' ∧ Resident machine' none 1 0 none (number + 1) := by
  obtain ⟨machine₁, reached₁, mapped⟩ := reached.works resident.quiet
    (.map true secondPage frameHandle dataPermissions .writeBack) (fun fine => ⟨rfl, fine⟩)
    (map_second resident)
  obtain ⟨machine₂, reached₂, unmapped⟩ := reached₁.works mapped.quiet
    (.beginUnmap secondPage) (fun fine => ⟨rfl, fine⟩) ((wp_bind _).mpr (unmap_second mapped room))
  obtain ⟨machine₃, reached₃, acknowledged⟩ := reached₂.works unmapped.quiet
    (.acknowledgeInactive (dataToken number)) (fun fine => ⟨rfl, fine⟩) (acknowledge_second unmapped)
  exact reached₃.works acknowledged.quiet (.completeUnmap false (dataToken number))
    (fun fine => ⟨rfl, fine⟩)     ((wp_bind _).mpr (complete_second acknowledged))

theorem Resident.rounds {initial : Machine} (reached : Reached Plain initial machine)
    (resident : Resident machine none 1 0 none 1) (count : Nat) (room : count + 1 < u64Values) :
    ∃ machine', Reached Plain initial machine' ∧ Resident machine' none 1 0 none (count + 1) := by
  induction count with
  | zero => exact ⟨machine, reached, resident⟩
  | succ count ih =>
    obtain ⟨machine', reached', resident'⟩ := ih (by omega)
    exact resident'.round reached' room

/-- Without a number left the first page loses its leaf and keeps its record. -/
theorem unmap_first (resident : Resident machine none 1 0 none number) (full : u64Values ≤ number + 1) :
    wp (beginUnmap firstPage) (fun _ _ => False)
      (fun reason machine' => reason = .pendingCapacity ∧ machine'.space = machine.space ∧
        machine'.leaf firstPage = 0#64) machine := by
  have valid : validateVirtual firstPage = .ok () := validateVirtual_eq_ok.mpr firstPage_inside
  have present : machine.space.mappingIndex firstPage = some ⟨0, by decide⟩ := by
    unfold Space.mappingIndex
    rw [resident.mappings]
    decide
  have held : machine.space.mappings ⟨0, by decide⟩ = some (dataMapping firstPage) := by
    rw [resident.mappings]
    rfl
  have vacancy : vacancy machine.space.pending = some ⟨0, by decide⟩ := by
    rw [resident.pending]
    decide
  have found : machine.space.frameIndex (dataMapping firstPage).frame = some ⟨0, by decide⟩ := by
    unfold Space.frameIndex
    rw [resident.frames]
    decide
  have bound : machine.space.frames ⟨0, by decide⟩ = some ⟨frameHandle, .writeBack, 1, 0⟩ := by
    rw [resident.frames]
    rfl
  have stored : leafEntry (dataMapping firstPage).frame (dataMapping firstPage).permissions
      (dataMapping firstPage).cache = .ok dataLeaf := leafEntry_data
  have none_ : checkedAdd u64Values number 1 = none := checkedAdd_eq_none.mpr full
  unfold beginUnmap
  simp only [wp_bind, wp_read, valid, wp_lift_ok, present, vacancy, held, found, bound, orError_some, stored]
  refine wp_replaceLeaf_quiet resident.quiet resident.first (fun memory quiet wrote => ?_)
  simp only [resident.numbered, none_, orError_none, Op.wp_lift_error]
  exact ⟨trivial, trivial, wrote.leaf rfl⟩

end Rounds

/-- The memory that a fresh address space is built on. -/
def blankMemory : Memory := ⟨fun _ _ => 0#64, []⟩

/-- A run over a memory that works whose first call maps the first page. -/
theorem first_mapped {memory : Memory} (quiet : memory.Quiet) (allowed : Machine → Move → Prop)
    (fine : ∀ machine permissions, RollsBack machine ⟨.map true firstPage frameHandle permissions .writeBack, []⟩ →
        allowed machine ⟨.map true firstPage frameHandle permissions .writeBack, []⟩) : ∃ space memory' machine,
    (initializeSpace true tableHandle).run memory = (.ok space, memory') ∧ Reached allowed ⟨memory', space, .new⟩
    machine ∧ Resident machine none 1 0 none 1 := by
  have located : physicalAddress tableHandle = .ok 0x100000#64 := by decide
  obtain ⟨cleared, holds, built⟩ := initializeSpace_quiet quiet ⟨rfl, rfl, rfl⟩ located
  have quiet' : (linkAt 0x100000#64 2 (linkAt 0x100000#64 1 (linkAt 0x100000#64 0 cleared))).Quiet :=
    holds.quiet
  generalize linkAt 0x100000#64 2 (linkAt 0x100000#64 1 (linkAt 0x100000#64 0 cleared)) = memory'
    at built quiet'
  have begun : Reached allowed ⟨memory', newSpace tableHandle 0x100000#64, .new⟩
      ⟨memory', newSpace tableHandle 0x100000#64, .new⟩ := .start
  obtain ⟨machine, reached, resident⟩ := begun.works quiet'
    (.map true firstPage frameHandle dataPermissions .writeBack) (fine _ _)
    (map_first (fresh_of_built built) quiet' rfl)
  exact ⟨_, memory', machine, built, reached, resident⟩

/-- One page mapped in a fresh address space. -/
theorem tables_refine_records_onePage : ∃ space memory machine,
    (initializeSpace true tableHandle).run blankMemory = (.ok space, memory) ∧
      Reached Orderly ⟨memory, space, .new⟩ machine ∧
        machine.space.mappings ⟨0, by decide⟩ = some (dataMapping firstPage) ∧ Refines machine := by
  have quiet : blankMemory.Quiet := rfl
  obtain ⟨space, memory, machine, built, reached, resident⟩ :=
    first_mapped quiet Orderly (fun _ _ fine => ⟨rfl, trivial, fine⟩)
  refine ⟨space, memory, machine, built, reached, ?_, (tables_refine_records built reached).1⟩
  rw [resident.mappings]
  rfl

/-- A run in which the first page is mapped and every number but the last is used. -/
theorem last_number {memory : Memory} (quiet : memory.Quiet) : ∃ space memory' machine,
    (initializeSpace true tableHandle).run memory = (.ok space, memory') ∧
      Reached Plain ⟨memory', space, .new⟩ machine ∧ Resident machine none 1 0 none (u64Values - 1) := by
  obtain ⟨space, memory', machine₁, built, reached₁, resident₁⟩ :=
    first_mapped quiet Plain (fun _ _ fine => ⟨rfl, fine⟩)
  obtain ⟨machine, reached, resident⟩ := resident₁.rounds reached₁ (u64Values - 2) (by decide)
  exact ⟨space, memory', machine, built, reached, resident⟩

/-- After 2^64 - 2 unmappings the next one fails with the leaf cleared and the record kept. -/
theorem exhausted_unmap_tears : ∃ space memory machine,
    (initializeSpace true tableHandle).run blankMemory = (.ok space, memory) ∧
      Reached Plain ⟨memory, space, .new⟩ machine ∧
        (perform machine ⟨.beginUnmap firstPage, []⟩).1 = .error .pendingCapacity ∧
          (perform machine ⟨.beginUnmap firstPage, []⟩).2.leaf firstPage ≠ machine.leaf firstPage ∧
            ¬ Refines (perform machine ⟨.beginUnmap firstPage, []⟩).2 := by
  have quiet : blankMemory.Quiet := rfl
  obtain ⟨space, memory, machine, built, reached, resident⟩ := last_number quiet
  have tears := unmap_first resident (by decide)
  have performed : perform machine ⟨.beginUnmap firstPage, []⟩ =
      (Call.beginUnmap firstPage).exec.run machine := by
    unfold perform
    rw [resident.quiet.facing]
  have outcome : wp (Call.beginUnmap firstPage).exec (fun _ _ => False)
      (fun reason machine' => reason = .pendingCapacity ∧ machine'.space = machine.space ∧
        machine'.leaf firstPage = 0#64) machine := (wp_bind _).mpr tears
  rw [wp_iff, ← performed] at outcome
  cases result : (perform machine ⟨.beginUnmap firstPage, []⟩).1 with
  | ok value => exact (outcome.1 value result).elim
  | error reason =>
    obtain ⟨rfl, kept, cleared⟩ := outcome.2 reason result
    refine ⟨space, memory, machine, built, reached, result, ?_, fun refines => ?_⟩
    · rw [cleared, resident.first]
      decide
    · have recorded := refines.recorded ⟨0, by decide⟩ (dataMapping firstPage) (by
        rw [kept, resident.mappings]
        rfl)
      exact leafEntry_ne_zero recorded cleared

end PooleOS.Paging
