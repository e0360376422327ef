import PooleOS.Paging.Effects

/- The records of an address space stay consistent: every effect keeps the counts
of mappings and pending invalidations of each frame. -/
namespace PooleOS.Paging

open Function Option Cells

section

variable {space : Space}

/-- A frame without a record has neither mappings nor pending invalidations. -/
theorem Consistent.unbound (consistent : Consistent space) {frame : Handle} (unbound : space.frameIndex frame = none) :
    (∀ cell binding, space.frames cell = some binding → binding.frame ≠ frame) ∧
      count space.mappings (fun mapping => mapping.frame = frame) = 0 ∧
        count space.pending (fun pending => pending.frame = frame) = 0 := by
  have absent : ∀ cell binding, space.frames cell = some binding → binding.frame ≠ frame := by
    intro cell binding held same
    have off := position_eq_none.mp unbound cell binding held
    simp [same] at off
  refine ⟨absent, count_eq_zero.mpr ?_, count_eq_zero.mpr ?_⟩
  · intro cell mapping held
    obtain ⟨index, binding, bound, same, _⟩ := consistent.backed cell mapping held
    simp only [decide_eq_false_iff_not]
    exact fun equal => absent index binding bound (same.trans equal)
  · intro cell pending held
    obtain ⟨index, binding, bound, same⟩ := consistent.awaited cell pending held
    simp only [decide_eq_false_iff_not]
    exact fun equal => absent index binding bound (same.trans equal)

theorem fresh_address {address : Word} (fresh : space.mappingIndex address = none) {cell : Fin maxMappings}
    {mapping : Mapping} (held : space.mappings cell = some mapping) : mapping.virtualAddress ≠ address := by
  have off := position_eq_none.mp fresh cell mapping held
  simpa using off

variable {cell : Fin maxFrames} {binding : Frame}

/-- The other frame records are those of other frames. -/
theorem Consistent.others (consistent : Consistent space) {other : Fin maxFrames}
    {found : Frame} (held : space.frames cell = some binding) (apart : other ≠ cell)
    (old : space.frames other = some found) : binding.frame ≠ found.frame := by
  intro same
  exact apart (consistent.framesApart other cell found binding old held same.symm)

/-- A frame keeps a record when its cell is rewritten. -/
theorem bound_rewrite {frames : Fin maxFrames → Option Frame} {replaced : Frame} {holds : Frame → Prop}
    (held : frames cell = some binding) (keeps : holds binding → holds replaced)
    (bound : ∃ index found, frames index = some found ∧ holds found) :
    ∃ index found, update frames cell (some replaced) index = some found ∧ holds found := by
  obtain ⟨index, found, old, fine⟩ := bound
  by_cases same : index = cell
  · subst same
    obtain rfl := some.inj (held.symm.trans old)
    exact ⟨index, replaced, update_some_iff.mpr (.inl ⟨rfl, rfl⟩), keeps fine⟩
  · exact ⟨index, found, update_some_iff.mpr (.inr ⟨same, old⟩), fine⟩

/-- A frame keeps its record when another cell is written. -/
theorem bound_elsewhere {frames : Fin maxFrames → Option Frame} {written : Option Frame} {holds : Frame → Prop}
    (bound : ∃ index found, index ≠ cell ∧ frames index = some found ∧ holds found) :
    ∃ index found, update frames cell written index = some found ∧ holds found := by
  obtain ⟨index, found, apart, old, fine⟩ := bound
  refine ⟨index, found, ?_, fine⟩
  rw [update_of_ne apart]
  exact old

/-- Pages are shared within one generation only, also after a record is rewritten in place. -/
theorem Consistent.pages_rewrite (consistent : Consistent space) {replaced : Frame}
    (held : space.frames cell = some binding) (same : replaced.frame = binding.frame) (left right : Fin maxFrames)
    (first second : Frame) (held₁ : update space.frames cell (some replaced) left = some first)
    (held₂ : update space.frames cell (some replaced) right = some second)
    (page : first.frame.startPage = second.frame.startPage) : first.frame.generation = second.frame.generation := by
  have before : ∀ index found, update space.frames cell (some replaced) index = some found →
      ∃ old, space.frames index = some old ∧ old.frame = found.frame :=
    fun index found held' => by
      rcases update_some_iff.mp held' with ⟨rfl, rfl⟩ | ⟨_, old⟩
      · exact ⟨binding, held, same.symm⟩
      · exact ⟨found, old, rfl⟩
  obtain ⟨old, was, equal⟩ := before left first held₁
  obtain ⟨old', was', equal'⟩ := before right second held₂
  rw [← equal, ← equal'] at page ⊢
  exact consistent.pages left right old old' was was' page

section Mapped

variable {address value : Word} {permissions : Permissions} {slot : Fin maxMappings}

/-- A new frame with its first mapping. -/
theorem Consistent.bind (consistent : Consistent space) {frame : Handle} {cache : CachePolicy}
    {cell : Fin maxFrames} (inside : InWindow address) (fresh : space.mappingIndex address = none)
    (vacant : space.mappings slot = none) (made : leafEntry frame permissions cache = .ok value)
    (unbound : space.frameIndex frame = none)
    (alone : ∀ other binding, space.frames other = some binding →
      binding.frame.startPage = frame.startPage → binding.frame.generation = frame.generation)
    (free : space.frames cell = none) (operations : Nat) :
    Consistent { space with
      mappings := update space.mappings slot (some ⟨address, frame, permissions, cache⟩)
      frames := update space.frames cell (some ⟨frame, cache, 1, 0⟩)
      mapOperations := operations } := by
  obtain ⟨absent, mapped, waiting⟩ := consistent.unbound unbound
  have kept : ∀ {index binding}, space.frames index = some binding → index ≠ cell := by
    rintro index binding held rfl
    rw [free] at held
    cases held
  refine ⟨?_, ?_, consistent.tokensApart, ?_, ?_, ?_, ?_, consistent.sequenced, ?_, ?_, ?_, ?_⟩
  · exact consistent.mappingsApart.update (fun other mapping _ old => fresh_address fresh old)
  · exact consistent.framesApart.update (fun other binding _ old => absent other binding old)
  · intro left right binding other held held' same
    rcases update_some_iff.mp held with ⟨rfl, rfl⟩ | ⟨_, old⟩
    · rcases update_some_iff.mp held' with ⟨rfl, rfl⟩ | ⟨_, old'⟩
      · rfl
      · exact (alone right other old' same.symm).symm
    · rcases update_some_iff.mp held' with ⟨rfl, rfl⟩ | ⟨_, old'⟩
      · exact alone left binding old same
      · exact consistent.pages left right binding other old old' same
  · exact each_update inside (fun other mapping _ old => consistent.inside other mapping old)
  · exact each_update ⟨value, made⟩ (fun other mapping _ old => consistent.made other mapping old)
  · refine each_update ?_ (fun other mapping _ old => ?_)
    · exact ⟨cell, _, update_some_iff.mpr (.inl ⟨rfl, rfl⟩), rfl, rfl⟩
    · obtain ⟨index, binding, bound, rest⟩ := consistent.backed other mapping old
      exact bound_elsewhere ⟨index, binding, kept bound, bound, rest⟩
  · intro other pending old
    obtain ⟨index, binding, bound, same⟩ := consistent.awaited other pending old
    exact bound_elsewhere ⟨index, binding, kept bound, bound, same⟩
  · refine each_update ?_ (fun other binding _ old => ?_)
    · rw [count_insert vacant, mapped]
      simp
    · rw [count_insert vacant, ← consistent.mappingCounts other binding old]
      simp [Ne.symm (absent other binding old)]
  · exact each_update waiting.symm
      (fun other binding _ old => consistent.pendingCounts other binding old)
  · exact each_update Nat.one_pos
      (fun other binding _ old => consistent.used other binding old)

/-- One more mapping of a bound frame. -/
theorem Consistent.alias (consistent : Consistent space) {cell : Fin maxFrames} {binding : Frame}
    (inside : InWindow address) (fresh : space.mappingIndex address = none)
    (vacant : space.mappings slot = none)
    (made : leafEntry binding.frame permissions binding.cache = .ok value)
    (held : space.frames cell = some binding) (operations : Nat) :
    Consistent { space with
      mappings := update space.mappings slot
        (some ⟨address, binding.frame, permissions, binding.cache⟩)
      frames := update space.frames cell
        (some { binding with mappingCount := binding.mappingCount + 1 })
      mapOperations := operations } := by
  refine ⟨?_, ?_, consistent.tokensApart, ?_, ?_, ?_, ?_, consistent.sequenced, ?_, ?_, ?_, ?_⟩
  · exact consistent.mappingsApart.update (fun other mapping _ old => fresh_address fresh old)
  · exact consistent.framesApart.rewrite held rfl
  · exact consistent.pages_rewrite held rfl
  · exact each_update inside (fun other mapping _ old => consistent.inside other mapping old)
  · exact each_update ⟨value, made⟩ (fun other mapping _ old => consistent.made other mapping old)
  · refine each_update ?_ (fun other mapping _ old => ?_)
    · exact ⟨cell, _, update_some_iff.mpr (.inl ⟨rfl, rfl⟩), rfl, rfl⟩
    · exact bound_rewrite held id (consistent.backed other mapping old)
  · intro other pending old
    exact bound_rewrite held id (consistent.awaited other pending old)
  · refine each_update ?_ (fun other found apart old => ?_)
    · rw [count_insert vacant, consistent.mappingCounts cell binding held]
      simp
    · rw [count_insert vacant, ← consistent.mappingCounts other found old]
      simp [consistent.others held apart old]
  · exact each_update (consistent.pendingCounts cell binding held)
      (fun other found _ old => consistent.pendingCounts other found old)
  · exact each_update (by dsimp only; omega)
      (fun other found _ old => consistent.used other found old)

theorem Consistent.permit (consistent : Consistent space) {mapping : Mapping}
    (held : space.mappings slot = some mapping)
    (made : leafEntry mapping.frame permissions mapping.cache = .ok value) (operations : Nat) :
    Consistent { space with
      mappings := update space.mappings slot (some { mapping with permissions })
      protectOperations := operations } := by
  refine ⟨?_, consistent.framesApart, consistent.tokensApart, consistent.pages, ?_, ?_, ?_,
    consistent.sequenced, consistent.awaited, ?_, consistent.pendingCounts, consistent.used⟩
  · exact consistent.mappingsApart.rewrite held rfl
  · exact each_update (consistent.inside slot mapping held)
      (fun other found _ old => consistent.inside other found old)
  · exact each_update ⟨value, made⟩ (fun other found _ old => consistent.made other found old)
  · exact each_update (consistent.backed slot mapping held)
      (fun other found _ old => consistent.backed other found old)
  · intro other binding old
    refine (consistent.mappingCounts other binding old).trans (count_replace held ?_).symm
    rfl

end Mapped

/-- A mapping turns into a pending invalidation of its frame. -/
theorem Consistent.unmap (consistent : Consistent space) {slot : Fin maxMappings} {mapping : Mapping}
    {place : Fin maxPendingInvalidations} {token : Token}
    (held : space.mappings slot = some mapping) (bound : space.frames cell = some binding)
    (same : binding.frame = mapping.frame) (vacant : space.pending place = none)
    (numbered : token.sequence = space.nextInvalidation) (operations : Nat) :
    Consistent { space with
      mappings := update space.mappings slot none
      frames := update space.frames cell (some { binding with
        mappingCount := binding.mappingCount - 1, pendingCount := binding.pendingCount + 1 })
      pending := update space.pending place (some ⟨token, mapping.frame, false⟩)
      nextInvalidation := space.nextInvalidation + 1
      unmapOperations := operations } := by
  refine ⟨consistent.mappingsApart.remove, ?_, ?_, ?_, ?_, ?_, ?_, ?_, ?_, ?_, ?_, ?_⟩
  · exact consistent.framesApart.rewrite bound rfl
  · refine consistent.tokensApart.update (fun other pending _ old equal => ?_)
    have older := consistent.sequenced other pending old
    rw [equal, numbered] at older
    exact Nat.lt_irrefl _ older
  · exact consistent.pages_rewrite bound rfl
  · exact each_remove (fun other found _ old => consistent.inside other found old)
  · exact each_remove (fun other found _ old => consistent.made other found old)
  · exact each_remove (fun other found _ old =>
      bound_rewrite bound id (consistent.backed other found old))
  · refine each_update ?_ (fun other pending _ old => ?_)
    · dsimp only
      omega
    · exact Nat.lt_succ_of_lt (consistent.sequenced other pending old)
  · refine each_update ?_ (fun other pending _ old => ?_)
    · exact ⟨cell, _, update_some_iff.mpr (.inl ⟨rfl, rfl⟩), same⟩
    · exact bound_rewrite bound id (consistent.awaited other pending old)
  · refine each_update ?_ (fun other found apart old => ?_)
    · have moved := count_remove (fun m => m.frame = binding.frame) held
      rw [← consistent.mappingCounts cell binding bound] at moved
      simp only [same, decide_true, if_true] at moved ⊢
      omega
    · have moved := count_remove (fun m => m.frame = found.frame) held
      rw [← consistent.mappingCounts other found old] at moved
      simpa [same ▸ consistent.others bound apart old] using moved.symm
  · refine each_update ?_ (fun other found apart old => ?_)
    · rw [count_insert vacant, consistent.pendingCounts cell binding bound]
      simp [same]
    · rw [count_insert vacant, ← consistent.pendingCounts other found old]
      simp [same ▸ consistent.others bound apart old]
  · refine each_update ?_ (fun other found _ old => consistent.used other found old)
    dsimp only
    omega

section Pendings

variable {place : Fin maxPendingInvalidations} {pending : Pending}

theorem Consistent.acknowledge (consistent : Consistent space)
    (held : space.pending place = some pending) (receipts : Nat) :
    Consistent { space with
      pending := update space.pending place (some { pending with acknowledged := true })
      invalidationReceipts := receipts } := by
  refine ⟨consistent.mappingsApart, consistent.framesApart, ?_, consistent.pages, consistent.inside,
    consistent.made, consistent.backed, ?_, ?_, consistent.mappingCounts, ?_, consistent.used⟩
  · exact consistent.tokensApart.rewrite held rfl
  · exact each_update (consistent.sequenced place pending held)
      (fun other found _ old => consistent.sequenced other found old)
  · exact each_update (consistent.awaited place pending held)
      (fun other found _ old => consistent.awaited other found old)
  · intro other binding old
    refine (consistent.pendingCounts other binding old).trans (count_replace held ?_).symm
    rfl

variable {cell : Fin maxFrames} {binding : Frame}

section

variable (consistent : Consistent space) (held : space.pending place = some pending) (bound : space.frames cell = some binding) (owner : binding.frame = pending.frame)
include consistent held bound owner

theorem Consistent.complete
    (more : ¬ (binding.mappingCount = 0 ∧ binding.pendingCount = 1)) :
    Consistent { space with
      pending := update space.pending place none
      frames := update space.frames cell
        (some { binding with pendingCount := binding.pendingCount - 1 }) } := by
  have waits := consistent.pending_pos held bound owner
  refine ⟨consistent.mappingsApart, ?_, consistent.tokensApart.remove, ?_, consistent.inside,
    consistent.made, ?_, ?_, ?_, ?_, ?_, ?_⟩
  · exact consistent.framesApart.rewrite bound rfl
  · exact consistent.pages_rewrite bound rfl
  · intro other mapping old
    exact bound_rewrite bound id (consistent.backed other mapping old)
  · exact each_remove (fun other found _ old => consistent.sequenced other found old)
  · exact each_remove (fun other found _ old =>
      bound_rewrite bound id (consistent.awaited other found old))
  · exact each_update (consistent.mappingCounts cell binding bound)
      (fun other found _ old => consistent.mappingCounts other found old)
  · refine each_update ?_ (fun other found apart old => ?_)
    · have moved := count_remove (fun p => p.frame = binding.frame) held
      rw [← consistent.pendingCounts cell binding bound] at moved
      simp only [owner, decide_true, if_true] at moved ⊢
      omega
    · have moved := count_remove (fun p => p.frame = found.frame) held
      rw [← consistent.pendingCounts other found old] at moved
      simpa [owner ▸ consistent.others bound apart old] using moved.symm
  · refine each_update ?_ (fun other found _ old => consistent.used other found old)
    dsimp only
    omega

/-- The last pending invalidation of an unmapped frame is the only record of it. -/
theorem Consistent.last
    (unmapped : binding.mappingCount = 0) (last : binding.pendingCount = 1) :
    (∀ other mapping, space.mappings other = some mapping → mapping.frame ≠ binding.frame) ∧
      ∀ other found, other ≠ place → space.pending other = some found → found.frame ≠ binding.frame := by
  constructor
  · intro other mapping old same
    have mapped := consistent.mapped_pos old bound same.symm
    omega
  · intro other found apart old same
    have one : count space.pending (fun p => p.frame = binding.frame) ≤ 1 := by
      rw [← consistent.pendingCounts cell binding bound, last]
    exact apart (count_le_one one (by simp [old, same]) (by simp [held, owner]))

theorem Consistent.free (unmapped : binding.mappingCount = 0)
    (last : binding.pendingCount = 1) (releasedFrames : Nat) :
    Consistent { space with
      pending := update space.pending place none
      frames := update space.frames cell none
      releasedFrames } := by
  obtain ⟨mapsOthers, waitsOthers⟩ := consistent.last held bound owner unmapped last
  have elsewhere : ∀ {index found}, space.frames index = some found → found.frame ≠ binding.frame →
      index ≠ cell := by
    rintro index found old apart rfl
    obtain rfl := some.inj (bound.symm.trans old)
    exact apart rfl
  refine ⟨consistent.mappingsApart, consistent.framesApart.remove, consistent.tokensApart.remove, ?_,
    consistent.inside, consistent.made, ?_, ?_, ?_, ?_, ?_, ?_⟩
  · intro left right first second held₁ held₂
    exact consistent.pages left right first second (update_none_iff.mp held₁).2
      (update_none_iff.mp held₂).2
  · intro other mapping old
    obtain ⟨index, found, was, same, cached⟩ := consistent.backed other mapping old
    have apart := elsewhere was (fun equal => mapsOthers other mapping old (same.symm.trans equal))
    exact bound_elsewhere ⟨index, found, apart, was, same, cached⟩
  · exact each_remove (fun other found _ old => consistent.sequenced other found old)
  · refine each_remove (fun other waiting apart old => ?_)
    obtain ⟨index, found, was, same⟩ := consistent.awaited other waiting old
    have off := elsewhere was
      (fun equal => waitsOthers other waiting apart old (same.symm.trans equal))
    exact bound_elsewhere ⟨index, found, off, was, same⟩
  · exact each_remove (fun other found _ old => consistent.mappingCounts other found old)
  · refine each_remove (fun other found apart old => ?_)
    have moved := count_remove (fun p => p.frame = found.frame) held
    rw [← consistent.pendingCounts other found old] at moved
    simpa [owner ▸ consistent.others bound apart old] using moved.symm
  · exact each_remove (fun other found _ old => consistent.used other found old)

end

end Pendings

theorem Effect.consistent {offers : Handle → Prop} {machine machine' : Machine}
    (effect : Effect offers machine machine') (consistent : Consistent machine.space) : Consistent machine'.space := by
  cases effect with
  | bound _ inside fresh vacant made unbound alone free _ =>
    exact consistent.bind inside fresh vacant made unbound alone free _
  | aliased inside fresh vacant made held _ => exact consistent.alias inside fresh vacant made held _
  | permitted held _ made _ => exact consistent.permit held made _
  | unmapped held bound same vacant _ _ _ => exact consistent.unmap held bound same vacant rfl _
  | acknowledged held _ _ => exact consistent.acknowledge held _
  | completed held _ bound owner more _ => exact consistent.complete held bound owner more
  | freed held _ bound owner unmapped last _ => exact consistent.free held bound owner unmapped last _

theorem Released.consistent {machine machine' : Machine} (released : Released machine machine')
    (consistent : Consistent machine.space) : Consistent machine'.space := by
  rw [released.space]
  exact ⟨consistent.mappingsApart, consistent.framesApart, consistent.tokensApart, consistent.pages,
    consistent.inside, consistent.made, consistent.backed, consistent.sequenced, consistent.awaited,
    consistent.mappingCounts, consistent.pendingCounts, consistent.used⟩

end

variable {machine machine' : Machine}

/-- The stored leaf of an address. -/
def Machine.leaf (machine : Machine) (address : Word) : Word :=
  machine.memory.entries (machine.space.tables 3) (tableIndex address 3)

/-- A leaf that maps something is that of a record. -/
def Covered (machine : Machine) : Prop :=
  ∀ address, InWindow address → machine.leaf address = 0#64 ∨
    ∃ slot mapping, machine.space.mappings slot = some mapping ∧ mapping.virtualAddress = address ∧
      leafEntry mapping.frame mapping.permissions mapping.cache = .ok (machine.leaf address)

/-- A record has its leaf in the table. -/
def Stored (machine : Machine) : Prop :=
  ∀ slot mapping, machine.space.mappings slot = some mapping →
    leafEntry mapping.frame mapping.permissions mapping.cache = .ok (machine.leaf mapping.virtualAddress)

/-- The three entries that lead to the leaves. -/
structure Linked (machine : Machine) : Prop where
  parents : ∀ level : Fin 3,
    machine.memory.entries (machine.space.tables level.castSucc)
      (tableIndex windowStart level.castSucc) = machine.space.tables level.succ ||| parentFlags
  above : ∀ level : Fin 3, machine.space.tables level.castSucc ≠ machine.space.tables 3

section Writes

variable {address expected value : Word} {memory : Memory}

variable {space : Space} {log : Log}

theorem Wrote.leaf (wrote : Wrote machine address expected value memory)
    (tables : space.tables = machine.space.tables) :
    Machine.leaf ⟨memory, space, log⟩ address = value := by
  unfold Machine.leaf
  rw [tables, wrote.after, write_entries, if_pos ⟨rfl, rfl⟩]

/-- The other leaves are as they were. -/
theorem Wrote.leaf_of_ne (wrote : Wrote machine address expected value memory) {other : Word}
    (inside : InWindow address) (inside' : InWindow other) (apart : other ≠ address)
    (tables : space.tables = machine.space.tables) : Machine.leaf ⟨memory, space, log⟩ other = machine.leaf other := by
  unfold Machine.leaf
  rw [tables, wrote.after, write_entries, if_neg]
  exact fun same => apart (inside'.leaf_injective inside same.2)

/-- A walk to the leaves does not see a leaf change. -/
theorem Linked.wrote (linked : Linked machine) (wrote : Wrote machine address expected value memory)
    (tables : space.tables = machine.space.tables) : Linked ⟨memory, space, log⟩ := by
  refine ⟨fun level => ?_, fun level => ?_⟩
  · rw [tables, wrote.after, write_entries, if_neg (fun same => linked.above level same.1)]
    exact linked.parents level
  · rw [tables]
    exact linked.above level

variable {slot : Fin maxMappings}

/-- A record is written with its leaf: at a free cell with a new address, or over its own. -/
theorem Covered.record (covered : Covered machine) (mapping : Mapping) (inside : InWindow mapping.virtualAddress)
    (wrote : Wrote machine mapping.virtualAddress expected value memory)
    (made : leafEntry mapping.frame mapping.permissions mapping.cache = .ok value)
    (mine : ∀ old, machine.space.mappings slot = some old → old.virtualAddress = mapping.virtualAddress)
    (tables : space.tables = machine.space.tables)
    (records : space.mappings = update machine.space.mappings slot (some mapping)) :
    Covered ⟨memory, space, log⟩ := by
  intro address inside'
  by_cases same : address = mapping.virtualAddress
  · subst same
    refine .inr ⟨slot, mapping, ?_, rfl, ?_⟩
    · rw [records, update_self]
    · rw [wrote.leaf tables]
      exact made
  · rw [wrote.leaf_of_ne inside inside' same tables]
    refine (covered address inside').imp_right (fun ⟨other, old, held, found, stored⟩ => ?_)
    refine ⟨other, old, ?_, found, stored⟩
    rw [records]
    refine update_some_iff.mpr (.inr ⟨?_, held⟩)
    rintro rfl
    exact same (found.symm.trans (mine old held))

theorem Stored.record (stored : Stored machine) (consistent : Consistent machine.space) (mapping : Mapping)
    (inside : InWindow mapping.virtualAddress) (wrote : Wrote machine mapping.virtualAddress expected value memory)
    (made : leafEntry mapping.frame mapping.permissions mapping.cache = .ok value)
    (fresh : ∀ other old, other ≠ slot → machine.space.mappings other = some old →
      old.virtualAddress ≠ mapping.virtualAddress) (tables : space.tables = machine.space.tables)
    (records : space.mappings = update machine.space.mappings slot (some mapping)) :
    Stored ⟨memory, space, log⟩ := by
  unfold Stored
  rw [records]
  refine each_update ?_ (fun other old apart held => ?_)
  · rw [wrote.leaf tables]
    exact made
  · rw [wrote.leaf_of_ne inside (consistent.inside other old held) (fresh other old apart held) tables]
    exact stored other old held

/-- A record goes with its leaf. -/
theorem Covered.erase (covered : Covered machine) {mapping : Mapping} (inside : InWindow mapping.virtualAddress)
    (held : machine.space.mappings slot = some mapping)
    (wrote : Wrote machine mapping.virtualAddress expected 0#64 memory) (tables : space.tables = machine.space.tables)
    (records : space.mappings = update machine.space.mappings slot none) : Covered ⟨memory, space, log⟩ := by
  intro address inside'
  by_cases same : address = mapping.virtualAddress
  · subst same
    exact .inl (wrote.leaf tables)
  · rw [wrote.leaf_of_ne inside inside' same tables]
    refine (covered address inside').imp_right (fun ⟨other, old, held', found, stored⟩ => ?_)
    refine ⟨other, old, ?_, found, stored⟩
    rw [records]
    refine update_none_iff.mpr ⟨?_, held'⟩
    rintro rfl
    obtain rfl := some.inj (held.symm.trans held')
    exact same found.symm

theorem Stored.erase (stored : Stored machine) (consistent : Consistent machine.space) {mapping : Mapping}
    (held : machine.space.mappings slot = some mapping)
    (wrote : Wrote machine mapping.virtualAddress expected 0#64 memory) (tables : space.tables = machine.space.tables)
    (records : space.mappings = update machine.space.mappings slot none) : Stored ⟨memory, space, log⟩ := by
  unfold Stored
  rw [records]
  refine each_remove (fun other old apart held' => ?_)
  have elsewhere : old.virtualAddress ≠ mapping.virtualAddress := fun same =>
    apart (consistent.mappingsApart other slot old mapping held' held same)
  rw [wrote.leaf_of_ne (consistent.inside slot mapping held) (consistent.inside other old held')
    elsewhere tables]
  exact stored other old held'

end Writes

section Kept

variable {memory : Memory} {space : Space} {log : Log}

theorem leaf_same (same : memory.entries = machine.memory.entries) (tables : space.tables = machine.space.tables)
    (address : Word) : Machine.leaf ⟨memory, space, log⟩ address = machine.leaf address := by
  unfold Machine.leaf
  rw [tables, same]

theorem Covered.keep (covered : Covered machine) (same : memory.entries = machine.memory.entries)
    (tables : space.tables = machine.space.tables)
    (records : space.mappings = machine.space.mappings) : Covered ⟨memory, space, log⟩ := by
  intro address inside
  rw [leaf_same same tables]
  rw [records]
  exact covered address inside

theorem Stored.keep (stored : Stored machine) (same : memory.entries = machine.memory.entries)
    (tables : space.tables = machine.space.tables)
    (records : space.mappings = machine.space.mappings) : Stored ⟨memory, space, log⟩ := by
  intro slot mapping held
  rw [leaf_same same tables]
  rw [records] at held
  exact stored slot mapping held

theorem Linked.keep (linked : Linked machine) (same : memory.entries = machine.memory.entries)
    (tables : space.tables = machine.space.tables) : Linked ⟨memory, space, log⟩ := by
  refine ⟨fun level => ?_, fun level => ?_⟩
  · rw [tables, same]
    exact linked.parents level
  · rw [tables]
    exact linked.above level

end Kept

section Effects

variable {offers : Handle → Prop}

theorem Effect.linked (effect : Effect offers machine machine') (linked : Linked machine) : Linked machine' := by
  cases effect with
  | bound _ _ _ _ _ _ _ _ wrote => exact linked.wrote wrote rfl
  | aliased _ _ _ _ _ wrote => exact linked.wrote wrote rfl
  | permitted _ _ _ wrote => exact linked.wrote wrote rfl
  | unmapped _ _ _ _ _ _ wrote => exact linked.wrote wrote rfl
  | acknowledged _ _ same => exact linked.keep same rfl
  | completed _ _ _ _ _ same => exact linked.keep same rfl
  | freed _ _ _ _ _ _ same => exact linked.keep same rfl

theorem vacant_mine {slot : Fin maxMappings} {address : Word} (vacant : machine.space.mappings slot = none)
    (old : Mapping) (held : machine.space.mappings slot = some old) : old.virtualAddress = address := by
  rw [vacant] at held
  cases held

theorem Effect.covered (effect : Effect offers machine machine') (consistent : Consistent machine.space)
    (covered : Covered machine) : Covered machine' := by
  cases effect with
  | bound _ inside _ vacant made _ _ _ wrote =>
    exact covered.record _ inside wrote made (vacant_mine vacant) rfl rfl
  | aliased inside _ vacant made _ wrote =>
    exact covered.record _ inside wrote made (vacant_mine vacant) rfl rfl
  | @permitted mapping permissions slot previous value memory held stored made wrote =>
    refine covered.record { mapping with permissions }
      (consistent.inside slot mapping held) wrote made (fun old held' => ?_) rfl rfl
    obtain rfl := some.inj (held.symm.trans held')
    rfl
  | @unmapped mapping slot cell binding place previous memory held _ _ _ _ _ wrote =>
    exact covered.erase (consistent.inside slot mapping held) held wrote rfl rfl
  | acknowledged _ _ same => exact covered.keep same rfl rfl
  | completed _ _ _ _ _ same => exact covered.keep same rfl rfl
  | freed _ _ _ _ _ _ same => exact covered.keep same rfl rfl

theorem Effect.stored (effect : Effect offers machine machine') (consistent : Consistent machine.space)
    (stored : Stored machine) : Stored machine' := by
  cases effect with
  | bound _ inside fresh _ made _ _ _ wrote =>
    exact stored.record consistent _ inside wrote made
      (fun _ _ _ held => fresh_address fresh held) rfl rfl
  | aliased inside fresh _ made _ wrote =>
    exact stored.record consistent _ inside wrote made
      (fun _ _ _ held => fresh_address fresh held) rfl rfl
  | @permitted mapping permissions slot previous value memory held _ made wrote =>
    refine stored.record consistent { mapping with permissions }
      (consistent.inside slot mapping held) wrote made (fun other old apart held' same => ?_) rfl rfl
    exact apart (consistent.mappingsApart other slot old mapping held' held same)
  | unmapped held _ _ _ _ _ wrote => exact stored.erase consistent held wrote rfl rfl
  | acknowledged _ _ same => exact stored.keep same rfl rfl
  | completed _ _ _ _ _ same => exact stored.keep same rfl rfl
  | freed _ _ _ _ _ _ same => exact stored.keep same rfl rfl

/-- Zeroing entries covers nothing up. -/
theorem Covered.zeroed (covered : Covered machine) (zeroed : ∀ table index, machine'.memory.entries table index =
      machine.memory.entries table index ∨ machine'.memory.entries table index = 0#64)
    (tables : machine'.space.tables = machine.space.tables) (records : machine'.space.mappings = machine.space.mappings)
    : Covered machine' := by
  intro address inside
  rcases zeroed (machine.space.tables 3) (tableIndex address 3) with kept | zero
  · have same : machine'.leaf address = machine.leaf address := by
      unfold Machine.leaf
      rw [tables, kept]
    rw [same, records]
    exact covered address inside
  · left
    unfold Machine.leaf
    rw [tables, zero]

end Effects

end PooleOS.Paging
