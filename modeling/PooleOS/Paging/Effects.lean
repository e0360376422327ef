import PooleOS.Paging.Space

/- What each operation can do. A transaction on an entry either writes it, leaves
every entry alone, or reports that it could not be undone; an operation either
has one of seven effects, or releases the tables, or leaves the records alone. -/
namespace PooleOS.Paging

open Op Cells
open Function (update)

section Memory

variable {table : Word} {index : Nat}

theorem write_entries (memory : Memory) (value other : Word) (cell : Nat) :
    (memory.write table index value).entries other cell =
      if other = table ∧ cell = index then value else memory.entries other cell := rfl

/-- The entries after a write that may have been lost. -/
def MayWrite (memory memory' : Memory) (table : Word) (index : Nat) (value : Word) : Prop :=
  memory'.entries = memory.entries ∨ memory'.entries = (memory.write table index value).entries

theorem writeEntry_mayWrite (memory : Memory) (value : Word) :
    MayWrite memory ((writeEntry table index value).run memory).2 table index value := by
  unfold writeEntry
  dsimp only
  split
  · exact .inr rfl
  · exact .inl rfl

theorem readEntry_ok {memory : Memory} {value : Word} (seen : ((readEntry table index).run memory).1 = .ok value) :
    memory.entries table index = value := by
  unfold readEntry at seen
  dsimp only at seen
  split at seen
  · cases seen
    rfl
  · cases seen

theorem MayWrite.seen {memory memory' : Memory} {value : Word} (may : MayWrite memory memory' table index value)
    (seen : memory'.entries table index = value) : memory'.entries = (memory.write table index value).entries := by
  rcases may with kept | wrote
  · funext other cell
    rw [write_entries]
    split
    · rename_i same
      rw [same.1, same.2]
      exact seen
    · rw [kept]
  · exact wrote

/-- A verified write is in the entry. -/
theorem writeVerified_spec (memory : Memory) (value : Word) {done : Bool → Memory → Prop}
    {failed : Error → Memory → Prop} (pass : ∀ verified memory', MayWrite memory memory' table index value →
      (verified = true → memory'.entries = (memory.write table index value).entries) →
        done verified memory') : wp (writeVerified table index value) done failed memory := by
  have may : MayWrite memory ((writeEntry table index value).run memory).2 table index value :=
    writeEntry_mayWrite memory value
  unfold writeVerified
  rw [wp_bind, wp_attempt]
  cases ((writeEntry table index value).run memory).1 with
  | error reason => exact pass false _ may nofun
  | ok _ =>
    refine pass _ _ may (fun verified => may.seen ?_)
    split at verified
    · rename_i current seen
      exact (readEntry_ok seen).trans (of_decide_eq_true verified)
    · cases verified

/-- The transaction: the entry is replaced, or nothing changed, or the rollback failed. -/
theorem replaceEntry_spec (memory : Memory) (expected replacement : Word) :
    wp (replaceEntry table index expected replacement) (fun _ memory' => memory.entries table index = expected ∧
        memory'.entries = (memory.write table index replacement).entries)
      (fun reason memory' => (reason ≠ .rollbackFailed → memory'.entries = memory.entries) ∧
        ∀ other cell, ¬ (other = table ∧ cell = index) →
          memory'.entries other cell = memory.entries other cell) memory := by
  unfold replaceEntry
  rw [wp_bind, wp_iff]
  refine ⟨fun current seen => ?_, fun reason failed => ?_⟩
  · have stored := readEntry_ok seen
    rw [wp_bind]
    refine wp_ensure_intro (fun same => ?_) (fun _ => ⟨fun _ => rfl, fun _ _ _ => rfl⟩)
    subst same
    rw [wp_bind]
    refine writeVerified_spec _ _ (fun verified memory₁ may wrote => ?_)
    cases verified with
    | true => exact ⟨stored, wrote rfl⟩
    | false =>
      rw [if_neg Bool.false_ne_true, wp_bind]
      refine writeVerified_spec _ _ (fun restored memory₂ again undone => ?_)
      have elsewhere : ∀ other cell, ¬ (other = table ∧ cell = index) →
          memory₂.entries other cell = memory.entries other cell := by
        intro other cell apart
        have first : memory₁.entries other cell = memory.entries other cell := by
          rcases may with kept | wrote
          · rw [kept]
            rfl
          · rw [wrote, write_entries, if_neg apart]
            rfl
        rcases again with kept | wrote
        · rw [kept, first]
        · rw [wrote, write_entries, if_neg apart, first]
      cases restored with
      | true =>
        refine ⟨fun _ => ?_, elsewhere⟩
        funext other cell
        by_cases same : other = table ∧ cell = index
        · rw [undone rfl, write_entries, if_pos same, same.1, same.2]
          exact stored.symm
        · exact elsewhere other cell same
      | false =>
        exact ⟨fun fine => absurd rfl fine, elsewhere⟩
  · exact ⟨fun _ => rfl, fun _ _ _ => rfl⟩

end Memory

/-- What the records say about each other. -/
structure Consistent (space : Space) : Prop where
  mappingsApart : Cells.Apart Mapping.virtualAddress space.mappings
  framesApart : Cells.Apart Frame.frame space.frames
  tokensApart : Cells.Apart Pending.token space.pending
  pages : ∀ left right binding other, space.frames left = some binding →
    space.frames right = some other → binding.frame.startPage = other.frame.startPage →
      binding.frame.generation = other.frame.generation
  inside : ∀ cell mapping, space.mappings cell = some mapping → InWindow mapping.virtualAddress
  made : ∀ cell mapping, space.mappings cell = some mapping →
    ∃ value, leafEntry mapping.frame mapping.permissions mapping.cache = .ok value
  backed : ∀ cell mapping, space.mappings cell = some mapping →
    ∃ index binding, space.frames index = some binding ∧ binding.frame = mapping.frame ∧
      binding.cache = mapping.cache
  sequenced : ∀ cell pending, space.pending cell = some pending →
    pending.token.sequence < space.nextInvalidation
  awaited : ∀ cell pending, space.pending cell = some pending →
    ∃ index binding, space.frames index = some binding ∧ binding.frame = pending.frame
  mappingCounts : ∀ cell binding, space.frames cell = some binding →
    binding.mappingCount = Cells.count space.mappings (fun mapping => mapping.frame = binding.frame)
  pendingCounts : ∀ cell binding, space.frames cell = some binding →
    binding.pendingCount = Cells.count space.pending (fun pending => pending.frame = binding.frame)
  used : ∀ cell binding, space.frames cell = some binding →
    0 < binding.mappingCount + binding.pendingCount

/-- The leaf of an address is replaced in the table. -/
structure Wrote (machine : Machine) (address expected value : Word) (memory : Memory) : Prop where
  before : machine.memory.entries (machine.space.tables 3) (tableIndex address 3) = expected
  after : memory.entries =
    (machine.memory.write (machine.space.tables 3) (tableIndex address 3) value).entries

/-- What an operation that returns `Ok` has done, when it may bind the frames it was offered. -/
inductive Effect (offers : Handle → Prop) (machine : Machine) : Machine → Prop
  | bound {address value : Word} {frame : Handle} {permissions : Permissions} {cache : CachePolicy}
      {slot : Fin maxMappings} {cell : Fin maxFrames} {memory : Memory} (offered : offers frame)
      (inside : InWindow address) (fresh : machine.space.mappingIndex address = none)
      (vacant : machine.space.mappings slot = none)
      (made : leafEntry frame permissions cache = .ok value)
      (unbound : machine.space.frameIndex frame = none)
      (alone : ∀ other binding, machine.space.frames other = some binding →
        binding.frame.startPage = frame.startPage → binding.frame.generation = frame.generation)
      (free : machine.space.frames cell = none) (wrote : Wrote machine address 0#64 value memory) :
      Effect offers machine {
        memory
        space := { machine.space with
          mappings := update machine.space.mappings slot
            (some ⟨address, frame, permissions, cache⟩)
          frames := update machine.space.frames cell (some ⟨frame, cache, 1, 0⟩)
          mapOperations := machine.space.mapOperations + 1 }
        log := { machine.log with bound := machine.log.bound ++ [frame] } }
  | aliased {address value : Word} {permissions : Permissions} {slot : Fin maxMappings}
      {cell : Fin maxFrames} {binding : Frame} {memory : Memory} (inside : InWindow address)
      (fresh : machine.space.mappingIndex address = none)
      (vacant : machine.space.mappings slot = none)
      (made : leafEntry binding.frame permissions binding.cache = .ok value)
      (held : machine.space.frames cell = some binding)
      (wrote : Wrote machine address 0#64 value memory) :
      Effect offers machine {
        memory
        space := { machine.space with
          mappings := update machine.space.mappings slot
            (some ⟨address, binding.frame, permissions, binding.cache⟩)
          frames := update machine.space.frames cell
            (some { binding with mappingCount := binding.mappingCount + 1 })
          mapOperations := machine.space.mapOperations + 1 }
        log := machine.log }
  | permitted {mapping : Mapping} {permissions : Permissions} {slot : Fin maxMappings}
      {previous value : Word} {memory : Memory}
      (held : machine.space.mappings slot = some mapping)
      (stored : leafEntry mapping.frame mapping.permissions mapping.cache = .ok previous)
      (made : leafEntry mapping.frame permissions mapping.cache = .ok value)
      (wrote : Wrote machine mapping.virtualAddress previous value memory) :
      Effect offers machine {
        memory
        space := { machine.space with
          mappings := update machine.space.mappings slot (some { mapping with permissions })
          protectOperations := machine.space.protectOperations + 1 }
        log := machine.log }
  | unmapped {mapping : Mapping} {slot : Fin maxMappings} {cell : Fin maxFrames} {binding : Frame}
      {place : Fin maxPendingInvalidations} {previous : Word} {memory : Memory}
      (held : machine.space.mappings slot = some mapping)
      (bound : machine.space.frames cell = some binding) (same : binding.frame = mapping.frame)
      (vacant : machine.space.pending place = none)
      (stored : leafEntry mapping.frame mapping.permissions mapping.cache = .ok previous)
      (room : machine.space.nextInvalidation + 1 < u64Values)
      (wrote : Wrote machine mapping.virtualAddress previous 0#64 memory) :
      Effect offers machine {
        memory
        space := { machine.space with
          mappings := update machine.space.mappings slot none
          frames := update machine.space.frames cell (some { binding with
            mappingCount := binding.mappingCount - 1, pendingCount := binding.pendingCount + 1 })
          pending := update machine.space.pending place
            (some ⟨⟨machine.space.nextInvalidation, machine.space.tableAllocation.generation,
              mapping.virtualAddress, mapping.frame.generation⟩, mapping.frame, false⟩)
          nextInvalidation := machine.space.nextInvalidation + 1
          unmapOperations := machine.space.unmapOperations + 1 }
        log := { machine.log with issued := machine.log.issued ++
          [(⟨machine.space.nextInvalidation, machine.space.tableAllocation.generation,
            mapping.virtualAddress, mapping.frame.generation⟩, mapping.frame)] } }
  | acknowledged {pending : Pending} {place : Fin maxPendingInvalidations} {memory : Memory}
      (held : machine.space.pending place = some pending) (open_ : pending.acknowledged = false)
      (same : memory.entries = machine.memory.entries) :
      Effect offers machine {
        memory
        space := { machine.space with
          pending := update machine.space.pending place
            (some { pending with acknowledged := true })
          invalidationReceipts := machine.space.invalidationReceipts + 1 }
        log := { machine.log with
          acknowledged := machine.log.acknowledged ++ [pending.token] } }
  | completed {pending : Pending} {place : Fin maxPendingInvalidations} {cell : Fin maxFrames}
      {binding : Frame} {memory : Memory} (held : machine.space.pending place = some pending)
      (closed : pending.acknowledged = true) (bound : machine.space.frames cell = some binding)
      (owner : binding.frame = pending.frame)
      (more : ¬ (binding.mappingCount = 0 ∧ binding.pendingCount = 1))
      (same : memory.entries = machine.memory.entries) :
      Effect offers machine {
        memory
        space := { machine.space with
          pending := update machine.space.pending place none
          frames := update machine.space.frames cell
            (some { binding with pendingCount := binding.pendingCount - 1 }) }
        log := { machine.log with completed := machine.log.completed ++ [pending.token] } }
  | freed {pending : Pending} {place : Fin maxPendingInvalidations} {cell : Fin maxFrames}
      {binding : Frame} {memory : Memory} (held : machine.space.pending place = some pending)
      (closed : pending.acknowledged = true) (bound : machine.space.frames cell = some binding)
      (owner : binding.frame = pending.frame) (unmapped : binding.mappingCount = 0)
      (last : binding.pendingCount = 1) (same : memory.entries = machine.memory.entries) :
      Effect offers machine {
        memory
        space := { machine.space with
          pending := update machine.space.pending place none
          frames := update machine.space.frames cell none
          releasedFrames := machine.space.releasedFrames + 1 }
        log := { machine.log with
          freed := machine.log.freed ++ [binding.frame]
          completed := machine.log.completed ++ [pending.token] } }

/-- What a release that returns `Ok` has done. -/
structure Released (machine machine' : Machine) : Prop where
  once : machine.space.released = false
  mappings : ∀ cell, machine.space.mappings cell = none
  frames : ∀ cell, machine.space.frames cell = none
  pending : ∀ cell, machine.space.pending cell = none
  zeroed : ∀ table index, machine'.memory.entries table index =
      machine.memory.entries table index ∨ machine'.memory.entries table index = 0#64
  space : machine'.space = { machine.space with
    released := true, releasedFrames := machine.space.releasedFrames + tablePageCount }
  log : machine'.log = { machine.log with
    freed := machine.log.freed ++ [machine.space.tableAllocation] }

/-- What an operation that returns `Err` leaves behind. -/
structure Refused (machine : Machine) (reason : Error) (machine' : Machine) : Prop where
  space : machine'.space = machine.space
  log : machine'.log = machine.log
  zeroed : reason ≠ .rollbackFailed → ∀ table index,
    machine'.memory.entries table index = machine.memory.entries table index ∨
      machine'.memory.entries table index = 0#64

/-- A failed transaction has been undone. -/
structure Undone (machine : Machine) (reason : Error) (machine' : Machine) : Prop
    extends Refused machine reason machine' where
  kept : reason ≠ .rollbackFailed → machine'.memory.entries = machine.memory.entries

/-- An unmapping is undone unless the token numbers have run out. -/
structure Unnumbered (machine : Machine) (reason : Error) (machine' : Machine) : Prop
    extends Refused machine reason machine' where
  kept : reason ≠ .rollbackFailed → machine.space.nextInvalidation + 1 < u64Values →
    machine'.memory.entries = machine.memory.entries

theorem Undone.unnumbered {machine machine' : Machine} {reason : Error}
    (undone : Undone machine reason machine') : Unnumbered machine reason machine' :=
  ⟨undone.toRefused, fun fine _ => undone.kept fine⟩

section Rules

variable {α : Type} {done : α → Machine → Prop} {failed : Error → Machine → Prop}
  {machine : Machine}

@[simp] theorem wp_onMemory (method : Op Memory Error α) : wp (onMemory method) done failed machine ↔
      wp method (fun value memory => done value { machine with memory })
        (fun reason memory => failed reason { machine with memory }) machine.memory := by
  unfold wp onMemory
  rcases run : method.run machine.memory with ⟨reason | value, memory⟩ <;> simp only [run]

@[simp] theorem wp_onSpace {done : Unit → Machine → Prop} (f : Space → Space) :
    wp (onSpace f) done failed machine ↔ done () { machine with space := f machine.space } := .rfl

@[simp] theorem wp_onLog {done : Unit → Machine → Prop} (f : Log → Log) :
    wp (onLog f) done failed machine ↔ done () { machine with log := f machine.log } := .rfl

end Rules

section Specs

variable {machine : Machine} {offers : Handle → Prop}

theorem undone_refl (reason : Error) : Undone machine reason machine :=
  ⟨⟨rfl, rfl, fun _ _ _ => .inl rfl⟩, fun _ => rfl⟩

/-- A replacement of a leaf, as a step of an operation. -/
theorem wp_replaceLeaf {address expected value : Word} {done : Unit → Machine → Prop} {failed : Error → Machine → Prop}
    (stop : ∀ reason machine', Undone machine reason machine' → failed reason machine')
    (pass : ∀ memory, Wrote machine address expected value memory → done () { machine with memory }) :
    wp (onMemory (replaceEntry (machine.space.tables 3) (tableIndex address 3) expected value)) done
      failed machine := by
  rw [wp_onMemory]
  refine wp_mono (replaceEntry_spec machine.memory expected value)
    (fun _ memory wrote => pass memory ⟨wrote.1, wrote.2⟩) (fun reason memory undone => ?_)
  refine stop _ _ ⟨⟨rfl, rfl, fun fine table index => .inl ?_⟩, undone.1⟩
  rw [undone.1 fine]

variable {space : Space} {cell : Fin maxFrames} {binding : Frame}

theorem Consistent.mappingCount_le (consistent : Consistent space) (held : space.frames cell = some binding) :
    binding.mappingCount ≤ 8 := by
  rw [consistent.mappingCounts cell binding held]
  exact count_le _ _

theorem Consistent.pendingCount_le (consistent : Consistent space) (held : space.frames cell = some binding) :
    binding.pendingCount ≤ 8 := by
  rw [consistent.pendingCounts cell binding held]
  exact count_le _ _

variable {frame : Handle}

theorem frameIndex_some (found : space.frameIndex frame = some cell) :
    ∃ binding, space.frames cell = some binding ∧ binding.frame = frame := by
  obtain ⟨binding, held, same⟩ := position_eq_some found
  exact ⟨binding, held, of_decide_eq_true same⟩

theorem mappingIndex_some {address : Word} {cell : Fin maxMappings} (found : space.mappingIndex address = some cell) :
    ∃ mapping, space.mappings cell = some mapping ∧ mapping.virtualAddress = address := by
  obtain ⟨mapping, held, same⟩ := position_eq_some found
  exact ⟨mapping, held, of_decide_eq_true same⟩

theorem pendingIndex_some {token : Token} {cell : Fin maxPendingInvalidations}
    (found : space.pendingIndex token = some cell) :
    ∃ pending, space.pending cell = some pending ∧ pending.token = token := by
  obtain ⟨pending, held, same⟩ := position_eq_some found
  exact ⟨pending, held, of_decide_eq_true same⟩

/-- A bound frame is admitted with the policy it has. -/
theorem admitted_bound {cache : CachePolicy} {value : Unit} (found : space.frameIndex frame = some cell)
    (held : space.frames cell = some binding) (admitted : admitFrame space frame cache = .ok value)
    : binding.cache = cache := by
  unfold admitFrame at admitted
  rw [found] at admitted
  simp only [held, orError_some] at admitted
  exact demand_eq_ok.mp admitted

/-- A new frame shares its page with no other generation, and there is a record for it. -/
theorem admitted_new {cache : CachePolicy} {value : Unit} (found : space.frameIndex frame = none)
    (admitted : admitFrame space frame cache = .ok value) : (∀ other binding, space.frames other = some binding →
      binding.frame.startPage = frame.startPage → binding.frame.generation = frame.generation) ∧
      vacancy space.frames ≠ none := by
  unfold admitFrame at admitted
  rw [found] at admitted
  rw [demand_bind_eq_ok, demand_eq_ok, position_eq_none] at admitted
  refine ⟨fun other binding held same => ?_, admitted.2⟩
  by_contra differs
  have off := admitted.1 other binding held
  simp [same, differs] at off

theorem checkedSub_some {left right value : Nat} (fits : right ≤ left)
    (lowered : checkedSub left right = some value) : value = left - right := by
  unfold checkedSub at lowered
  rw [if_pos fits] at lowered
  exact (Option.some.inj lowered).symm

/-- The frame of a mapping counts it. -/
theorem Consistent.mapped_pos (consistent : Consistent space) {slot : Fin maxMappings} {mapping : Mapping}
    (held : space.mappings slot = some mapping) (bound : space.frames cell = some binding)
    (same : binding.frame = mapping.frame) : 1 ≤ binding.mappingCount := by
  rw [consistent.mappingCounts cell binding bound, Nat.one_le_iff_ne_zero]
  intro zero
  have off := count_eq_zero.mp zero slot mapping held
  simp [same] at off

theorem Consistent.pending_pos (consistent : Consistent space) {place : Fin maxPendingInvalidations} {pending : Pending}
    (held : space.pending place = some pending) (bound : space.frames cell = some binding)
    (same : binding.frame = pending.frame) : 1 ≤ binding.pendingCount := by
  rw [consistent.pendingCounts cell binding bound, Nat.one_le_iff_ne_zero]
  intro zero
  have off := count_eq_zero.mp zero place pending held
  simp [same] at off

theorem map_spec (consistent : Consistent machine.space) (valid : Bool) (address : Word) (frame : Handle)
    (permissions : Permissions) (cache : CachePolicy) (offered : valid = true → offers frame) :
    wp (map valid address frame permissions cache) (fun _ machine' => Effect offers machine machine')
      (fun reason machine' => Undone machine reason machine') machine := by
  unfold map
  simp only [wp_bind, wp_read]
  refine wp_ensure_intro (fun _ => ?_) (fun _ => undone_refl _)
  refine wp_lift_intro (fun _ ok => ?_) (fun reason _ => undone_refl _)
  have inside := validateVirtual_eq_ok.mp ok
  refine wp_ensure_intro (fun validated => ?_) (fun _ => undone_refl _)
  refine wp_ensure_intro (fun _ => ?_) (fun _ => undone_refl _)
  refine wp_ensure_intro (fun fresh => ?_) (fun _ => undone_refl _)
  refine wp_orError (fun slot vacancy => ?_) (fun _ => undone_refl _)
  have vacant := vacancy_eq_some vacancy
  refine wp_lift_intro (fun _ admitted => ?_) (fun reason _ => undone_refl _)
  refine wp_lift_intro (fun value made => ?_) (fun reason _ => undone_refl _)
  refine wp_replaceLeaf (fun _ _ undone => undone) (fun memory wrote => ?_)
  rw [wp_onSpace]
  unfold bindFrame
  simp only [wp_bind, wp_read]
  cases found : machine.space.frameIndex frame with
  | some cell =>
    obtain ⟨binding, held, rfl⟩ := frameIndex_some found
    obtain rfl := admitted_bound found held admitted
    have small := consistent.mappingCount_le held
    simp only [Space.setMapping, held, orError_some, wp_bind, wp_lift_ok]
    refine wp_orError (fun count added => ?_) (fun full => ?_)
    · obtain ⟨_, rfl⟩ := checkedAdd_eq_some.mp added
      exact .aliased inside fresh vacant made held wrote
    · rw [checkedAdd_eq_none] at full
      unfold u8Values at full
      omega
  | none =>
    obtain ⟨alone, room⟩ := admitted_new found admitted
    simp only [Space.setMapping, wp_bind]
    refine wp_orError (fun cell vacancy' => ?_) (absurd · room)
    exact .bound (offered validated) inside fresh vacant made found alone (vacancy_eq_some vacancy') wrote

theorem protect_spec (address : Word) (permissions : Permissions) :
    wp (protect address permissions) (fun _ machine' => Effect offers machine machine')
      (fun reason machine' => Undone machine reason machine') machine := by
  unfold protect
  simp only [wp_bind, wp_read]
  refine wp_lift_intro (fun _ ok => ?_) (fun reason _ => undone_refl _)
  refine wp_orError (fun slot found => ?_) (fun _ => undone_refl _)
  obtain ⟨mapping, held, rfl⟩ := mappingIndex_some found
  simp only [held, orError_some, wp_lift_ok]
  refine wp_lift_intro (fun previous stored => ?_) (fun reason _ => undone_refl _)
  refine wp_lift_intro (fun value made => ?_) (fun reason _ => undone_refl _)
  refine wp_replaceLeaf (fun _ _ undone => undone) (fun memory wrote => ?_)
  exact .permitted held stored made wrote

theorem beginUnmap_spec (consistent : Consistent machine.space) (address : Word) :
    wp (beginUnmap address) (fun _ machine' => Effect offers machine machine')
      (fun reason machine' => Unnumbered machine reason machine') machine := by
  unfold beginUnmap
  simp only [wp_bind, wp_read]
  refine wp_lift_intro (fun _ ok => ?_) (fun reason _ => (undone_refl _).unnumbered)
  refine wp_orError (fun slot found => ?_) (fun _ => (undone_refl _).unnumbered)
  obtain ⟨mapping, held, rfl⟩ := mappingIndex_some found
  refine wp_orError (fun place vacancy => ?_) (fun _ => (undone_refl _).unnumbered)
  simp only [held, orError_some, wp_lift_ok]
  refine wp_orError (fun cell found' => ?_) (fun _ => (undone_refl _).unnumbered)
  obtain ⟨binding, bound, same⟩ := frameIndex_some found'
  simp only [bound, orError_some, wp_lift_ok]
  refine wp_lift_intro (fun previous stored => ?_) (fun reason _ => (undone_refl _).unnumbered)
  refine wp_replaceLeaf (fun _ _ undone => undone.unnumbered) (fun memory wrote => ?_)
  refine wp_orError (fun next counted => ?_) (fun full => ?_)
  · obtain ⟨room, rfl⟩ := checkedAdd_eq_some.mp counted
    have mapped := consistent.mapped_pos held bound same
    have small := consistent.pendingCount_le bound
    refine wp_orError (fun mappingCount lowered => ?_) (fun none_ => ?_)
    · obtain rfl := checkedSub_some mapped lowered
      refine wp_orError (fun pendingCount raised => ?_) (fun full => ?_)
      · obtain ⟨_, rfl⟩ := checkedAdd_eq_some.mp raised
        exact .unmapped held bound same (vacancy_eq_some vacancy) stored room wrote
      · rw [checkedAdd_eq_none] at full
        unfold u8Values at full
        omega
    · simp [checkedSub, mapped] at none_
  · -- the leaf is cleared already when the token numbers run out
    rw [checkedAdd_eq_none] at full
    refine ⟨⟨rfl, rfl, fun _ table index => ?_⟩, fun _ room => absurd full (Nat.not_le.mpr room)⟩
    rw [wrote.after, write_entries]
    split
    · exact .inr rfl
    · exact .inl rfl

theorem acknowledgeInactive_spec (token : Token) :
    wp (acknowledgeInactive token) (fun _ machine' => Effect offers machine machine')
      (fun reason machine' => Undone machine reason machine') machine := by
  unfold acknowledgeInactive
  simp only [wp_bind, wp_read]
  refine wp_ensure_intro (fun _ => ?_) (fun _ => undone_refl _)
  refine wp_orError (fun place found => ?_) (fun _ => undone_refl _)
  obtain ⟨pending, held, rfl⟩ := pendingIndex_some found
  simp only [held, orError_some, wp_lift_ok]
  refine wp_ensure_intro (fun fine => ?_) (fun _ => undone_refl _)
  exact .acknowledged held fine.1 rfl

theorem completeUnmap_spec (consistent : Consistent machine.space) (frees : Bool) (token : Token) :
    wp (completeUnmap frees token) (fun _ machine' => Effect offers machine machine')
      (fun reason machine' => Undone machine reason machine') machine := by
  unfold completeUnmap
  simp only [wp_bind, wp_read]
  refine wp_orError (fun place found => ?_) (fun _ => undone_refl _)
  obtain ⟨pending, held, rfl⟩ := pendingIndex_some found
  simp only [held, orError_some, wp_lift_ok]
  refine wp_ensure_intro (fun closed => ?_) (fun _ => undone_refl _)
  refine wp_orError (fun cell found' => ?_) (fun _ => undone_refl _)
  obtain ⟨binding, bound, owner⟩ := frameIndex_some found'
  simp only [bound, orError_some, wp_lift_ok]
  have waits := consistent.pending_pos held bound owner
  refine wp_when_intro (fun release => ?_) (fun keep => ?_)
  · obtain ⟨unmapped, last⟩ := of_decide_eq_true release
    unfold freeFrame
    simp only [wp_bind]
    refine wp_ensure_intro (fun _ => ?_) (fun _ => undone_refl _)
    simp only [wp_onLog, checkedSub, waits, if_true, orError_some, wp_lift_ok, wp_onSpace, release,
      wp_bind, wp_pure]
    exact .freed held closed bound owner unmapped last rfl
  · have more : ¬ (binding.mappingCount = 0 ∧ binding.pendingCount = 1) := by simpa using keep
    simp only [checkedSub, waits, if_true, orError_some, wp_lift_ok, wp_onSpace, keep]
    exact .completed held closed bound owner more rfl

/-- The memory and nothing else, with entries kept or zeroed. -/
structure Zeroed (machine machine' : Machine) : Prop where
  space : machine'.space = machine.space
  log : machine'.log = machine.log
  entries : ∀ table index, machine'.memory.entries table index = machine.memory.entries table index ∨
    machine'.memory.entries table index = 0#64

theorem Zeroed.refused {machine' : Machine} (zeroed : Zeroed machine machine') (reason : Error) :
    Refused machine reason machine' := ⟨zeroed.space, zeroed.log, fun _ => zeroed.entries⟩

theorem zeroed_refl : Zeroed machine machine := ⟨rfl, rfl, fun _ _ => .inl rfl⟩

/-- One step of a zeroing loop. -/
theorem Zeroed.write {machine₁ : Machine} (zeroed : Zeroed machine machine₁) (table : Word) (index : Nat) :
    wp (onMemory (writeEntry table index 0#64)) (fun _ => Zeroed machine) (fun _ => Zeroed machine) machine₁ := by
  rw [wp_onMemory, wp_state]
  refine ⟨zeroed.space, zeroed.log, fun other cell => ?_⟩
  rcases writeEntry_mayWrite machine₁.memory 0#64 with kept | wrote
  · rw [kept]
    exact zeroed.entries other cell
  · rw [wrote, write_entries]
    split
    · exact .inr rfl
    · exact zeroed.entries other cell

theorem zeroTables_spec (machine : Machine) (tables : Fin 4 → Word) (levels : List (Fin 4)) (indices : List Nat) :
    wp (forEach levels (fun level =>
      forEach indices (fun index => onMemory (writeEntry (tables level) index 0#64))))
      (fun _ => Zeroed machine) (fun _ => Zeroed machine) machine := by
  refine wp_forEach (fun _ => Zeroed machine) (fun level rest machine₁ zeroed => ?_) _ _
    zeroed_refl
  exact wp_forEach (fun _ => Zeroed machine)
    (fun index rest machine₂ zeroed => zeroed.write _ index) _ _ zeroed

theorem release_spec (frees : Bool) : wp (release frees) (fun _ machine' => Released machine machine')
      (fun reason machine' => Refused machine reason machine') machine := by
  unfold release
  simp only [wp_bind, wp_read]
  refine wp_ensure_intro (fun idle => ?_) (fun _ => zeroed_refl.refused _)
  generalize List.range tableEntries = indices
  have zeroes := zeroTables_spec machine machine.space.tables (List.finRange 4) indices
  refine wp_mono zeroes ?_ (fun reason _ zeroed => zeroed.refused reason)
  intro _ machine₁ zeroed
  rw [wp_onMemory]
  have finished : wp finishMemory
      (fun _ memory => memory.entries = machine₁.memory.entries)
      (fun _ memory => memory.entries = machine₁.memory.entries) machine₁.memory :=
    wp_state.mpr rfl
  have after : ∀ memory : Memory, memory.entries = machine₁.memory.entries →
      Zeroed machine { machine₁ with memory } := by
    intro memory same
    refine ⟨zeroed.space, zeroed.log, fun table index => ?_⟩
    rw [same]
    exact zeroed.entries table index
  refine wp_mono finished (fun _ memory same => ?_)
    (fun reason memory same => (after memory same).refused reason)
  unfold freeFrame
  simp only [wp_bind]
  refine wp_ensure_intro (fun _ => ?_) (fun _ => (after memory same).refused _)
  simp only [wp_onLog, wp_onSpace, zeroed.space, zeroed.log]
  exact ⟨idle.2.1, idle.2.2.1, idle.2.2.2.1, idle.2.2.2.2, (after memory same).entries, rfl, rfl⟩

end Specs

end PooleOS.Paging
