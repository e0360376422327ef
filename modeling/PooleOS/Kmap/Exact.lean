import PooleOS.Kmap.Retained

/- The map as the walk sees it: what is asked for is mapped, and nothing else of
the slot is. -/
namespace PooleOS.Kmap

open Op (wp)

/-- The request maps this address to this physical address. -/
def ImageMaps (request : Request) (address physical : Nat) (permissions : Permissions) : Prop :=
  ∃ mapping ∈ request.active, ∃ offset, mapping.Holds offset ∧
    address = request.virtualBase.toNat + offset ∧ physical = request.physicalBase.toNat + offset ∧
    permissions = mapping.permissions

/-- A run of pages of the window maps this address to this physical address. -/
def RunMaps (request : Request) (base : Word) (firstPage pages : Nat) (granted : Permissions)
    (address physical : Nat) (permissions : Permissions) : Prop :=
  ∃ offset < pages * pageSize, address = request.virtualBase.toNat + firstPage * pageSize + offset ∧
    physical = base.toNat + offset ∧ permissions = granted

/-- The request maps this address, or the stack or the handoff does. -/
def RetainedMaps (request : Request) (retained : RetainedRequest) (address physical : Nat)
    (permissions : Permissions) : Prop :=
  ImageMaps request address physical permissions ∨
    RunMaps request retained.stackPhysicalBase stackFirstPage stackPageCount .readWrite address physical
      permissions ∨
    RunMaps request retained.handoffPhysicalBase handoffFirstPage handoffPageCount .readOnly address physical
      permissions

/-- The walk maps exactly what `maps` says in the slot of the virtual base, never writable and executable
and never two pages to one, and it agrees with the original root in the other slots. -/
structure WalksExactly (maps : Nat → Nat → Permissions → Prop) (request : Request)
    (addresses : TableAddresses) (reader : TableReader) : Prop where
  mapped : ∀ address physical permissions, maps address physical permissions →
    address < u64Values ∧ ∃ word : Word, word.toNat = physical ∧
      translate reader addresses.candidateRoot (BitVec.ofNat 64 address) request.physicalAddressBits =
        .ok ⟨word, pageSize, permissions.write, permissions.execute, false, ⟨false, false, false⟩⟩
  unmapped : ∀ address : Word, isCanonical48 address = true →
    pml4Index address = pml4Index request.virtualBase →
    (∀ physical permissions, ¬ maps address.toNat physical permissions) →
    translate reader addresses.candidateRoot address request.physicalAddressBits =
      .error (.refused .translationMissing)
  safe : ∀ address translation, pml4Index address = pml4Index request.virtualBase →
    translate reader addresses.candidateRoot address request.physicalAddressBits = .ok translation →
    ¬ (translation.writable = true ∧ translation.executable = true)
  apart : ∀ left right first second, pml4Index left = pml4Index request.virtualBase →
    pml4Index right = pml4Index request.virtualBase →
    translate reader addresses.candidateRoot left request.physicalAddressBits = .ok first →
    translate reader addresses.candidateRoot right request.physicalAddressBits = .ok second →
    left.toNat / pageSize ≠ right.toNat / pageSize →
    first.physicalAddress.toNat / pageSize ≠ second.physicalAddress.toNat / pageSize
  others : ∀ address, pml4Index address ≠ pml4Index request.virtualBase →
    translate reader addresses.candidateRoot address request.physicalAddressBits =
      translate reader addresses.originalRoot address request.physicalAddressBits

/-- The tables keep the other slots of the root, memory can hold them, and every walk over memory that
holds them is exact. -/
structure MapsExactly (maps : Nat → Nat → Permissions → Prop) (request : Request) (addresses : TableAddresses)
    (names : List TableName) (originalRoot : Table) (tables : Tables) : Prop where
  others : ∀ index : Fin 512, index.val ≠ pml4Index request.virtualBase →
    tables .candidateRoot index = originalRoot index
  held : ∃ reader, Reads reader addresses names originalRoot tables
  walks : ∀ reader, Reads reader addresses names originalRoot tables →
    WalksExactly maps request addresses reader

section Plans

variable {request : Request} {addresses : TableAddresses} {summary : Summary} {retained : RetainedRequest}
  {names : List TableName} {originalRoot : Table} {tables : Tables} {plan : Plan} {reader : TableReader}
  {maps : Nat → Nat → Permissions → Prop} {address : Word}

/-- An address of the last slot lies in the directory entry of the virtual base exactly if it lies in the
window. -/
theorem PlacedWell.window_iff (placed : PlacedWell request) (canonical : isCanonical48 address = true)
    (slot : pml4Index address = 511) :
    (pdptIndex address = 510 ∧ pageDirectoryIndex address = pageDirectoryIndex request.virtualBase) ↔
      request.virtualBase.toNat ≤ address.toNat ∧ address.toNat < request.virtualBase.toNat + 2097152 := by
  have above := placed.above
  have below := placed.below
  have window := placed.window
  simp only [minVirtualBase, maxVirtualExclusive, BitVec.toNat_ofNat] at above below
  rw [isCanonical48_iff] at canonical
  rw [pml4Index_eq] at slot
  rw [pdptIndex_eq, pageDirectoryIndex_eq, pageDirectoryIndex_eq]
  have small := address.isLt
  omega

variable {offset : Nat}

/-- The page of an offset in the window. -/
theorem PlacedWell.pageTableIndex (placed : PlacedWell request) (inside : offset < 2097152)
    (same : address.toNat = request.virtualBase.toNat + offset) : Kmap.pageTableIndex address = offset / 4096 := by
  have window := placed.window
  rw [pageTableIndex_eq, same]
  omega

/-- An address of the window, with its indices. -/
theorem PlacedWell.inWindow (placed : PlacedWell request) (inside : offset < 2097152) :
    request.virtualBase.toNat + offset < u64Values ∧
      isCanonical48 (BitVec.ofNat 64 (request.virtualBase.toNat + offset)) = true ∧
      pml4Index (BitVec.ofNat 64 (request.virtualBase.toNat + offset)) = 511 := by
  have above := placed.above
  have below := placed.below
  have window := placed.window
  simp only [minVirtualBase, maxVirtualExclusive, BitVec.toNat_ofNat] at above below
  have small : request.virtualBase.toNat + offset < 2 ^ 64 := by omega
  rw [isCanonical48_iff, pml4Index_eq, BitVec.toNat_ofNat, Nat.mod_eq_of_lt small]
  exact ⟨small, by omega, by omega⟩

/-- The plan says what is mapped. -/
def Follows (request : Request) (plan : Plan) (maps : Nat → Nat → Permissions → Prop) : Prop :=
  ∀ address physical permissions, maps address physical permissions ↔ ∃ offset leaf, offset < 2097152 ∧
    address = request.virtualBase.toNat + offset ∧ plan (offset / 4096) = some (leaf, permissions) ∧
    physical = leaf.toNat + offset % 4096

/-- Memory that holds the tables at their addresses. -/
def holding (addresses : TableAddresses) (originalRoot : Table) (tables : Tables) : TableReader :=
  fun table index =>
    if table = addresses.originalRoot then entryAt originalRoot index
    else if table = addresses.candidateRoot then entryAt (tables .candidateRoot) index
    else if table = addresses.pdpt then entryAt (tables .pdpt) index
    else if table = addresses.pageDirectory then entryAt (tables .pageDirectory) index
    else if table = addresses.pageTable then entryAt (tables .pageTable) index
    else entryAt (tables .retainedPageTable) index

theorem entryAt_of (table : Table) (index : Fin 512) : entryAt table index.val = .ok (table index) := by
  unfold entryAt
  rw [dif_pos index.isLt]

theorem TabledWell.reads {bits : Nat} (well : TabledWell bits addresses) (names : List TableName) :
    Reads (holding addresses originalRoot tables) addresses names originalRoot tables := by
  have apart := well.apart
  simp only [tableValues, List.pairwise_cons, List.mem_cons, List.not_mem_nil, or_false, forall_eq_or_imp,
    forall_eq, ne_eq, false_implies, implies_true, and_true, List.Pairwise.nil] at apart
  obtain ⟨⟨a1, a2, a3, a4, a5⟩, ⟨b2, b3, b4, b5⟩, ⟨c3, c4, c5⟩, ⟨d4, d5⟩, e5⟩ := apart
  refine ⟨fun index => ?_, fun name _ index => ?_⟩
  · unfold holding
    rw [if_pos rfl]
    exact entryAt_of originalRoot index
  · unfold holding
    cases name <;> simp only [TableAddresses.page] <;>
      simp only [Ne.symm a1, Ne.symm a2, Ne.symm a3, Ne.symm a4, Ne.symm a5, Ne.symm b2, Ne.symm b3,
        Ne.symm b4, Ne.symm b5, Ne.symm c3, Ne.symm c4, Ne.symm c5, Ne.symm d4, Ne.symm d5, Ne.symm e5,
        if_false, if_true] <;> exact entryAt_of _ index

variable {leaf : Word}

/-- A leaf with the offset of an address. -/
theorem leaf_toNat {bits : Nat} (clean : Clean bits leaf) (address : Word) :
    (leaf ||| low address pageSize).toNat = leaf.toNat + address.toNat % 4096 :=
  toNat_or_low leaf address clean.1

/-- A translation in the last slot comes from a page of the plan. -/
theorem planned_eq_ok {directory : Nat} {translation : Translation}
    (ok : planned plan directory address = .ok translation) :
    ∃ leaf permissions, (pdptIndex address = 510 ∧ pageDirectoryIndex address = directory) ∧
      plan (pageTableIndex address) = some (leaf, permissions) ∧
      translation = ⟨leaf ||| low address pageSize, pageSize, permissions.write, permissions.execute, false,
        ⟨false, false, false⟩⟩ := by
  unfold planned at ok
  split at ok
  · rename_i here
    split at ok
    · cases ok
    · rename_i leaf permissions page
      injection ok with same
      exact ⟨leaf, permissions, here, page, same.symm⟩
  · cases ok

/-- Walking tables that follow a plan maps exactly what the plan says. -/
theorem Laid.mapsExactly (laid : Laid addresses names originalRoot summary.pageDirectoryIndex plan tables)
    (accepted : Accepted request addresses summary) (fits : PlanFits request.physicalAddressBits plan)
    (follows : Follows request plan maps) : MapsExactly maps request addresses names originalRoot tables := by
  have placed := accepted.placed
  have well := accepted.tables
  have unit : pageSize = 4096 := rfl
  refine ⟨fun index other => ?_, ⟨_, well.reads names⟩, fun reader reads => ?_⟩
  · rw [placed.root] at other
    rw [laid.root, expectedRoot, if_neg other]
  rw [accepted.directory] at laid
  -- Only a canonical address is translated.
  have canonical : ∀ address translation,
      translate reader addresses.candidateRoot address request.physicalAddressBits = .ok translation →
      isCanonical48 address = true := by
    intro address translation ok
    by_contra never
    unfold translate at ok
    simp [never] at ok
  have walk : ∀ address, isCanonical48 address = true → pml4Index address = 511 →
      translate reader addresses.candidateRoot address request.physicalAddressBits =
        planned plan (pageDirectoryIndex request.virtualBase) address :=
    fun address canonical slot => laid.walk accepted.width well fits reads canonical slot
  have found : ∀ address translation, pml4Index address = 511 →
      translate reader addresses.candidateRoot address request.physicalAddressBits = .ok translation →
      ∃ leaf permissions, plan ((address.toNat - request.virtualBase.toNat) / 4096) =
          some (leaf, permissions) ∧ request.virtualBase.toNat ≤ address.toNat ∧
        translation = ⟨leaf ||| low address pageSize, pageSize, permissions.write, permissions.execute,
          false, ⟨false, false, false⟩⟩ := by
    intro address translation slot ok
    have fine := canonical address translation ok
    rw [walk address fine slot] at ok
    obtain ⟨leaf, permissions, here, page, same⟩ := planned_eq_ok ok
    obtain ⟨after, before⟩ := (placed.window_iff fine slot).mp here
    have index : Kmap.pageTableIndex address = (address.toNat - request.virtualBase.toNat) / 4096 :=
      placed.pageTableIndex (by omega) (by omega)
    rw [index] at page
    exact ⟨leaf, permissions, page, after, same⟩
  refine ⟨?_, ?_, ?_, ?_, ?_⟩
  · intro address physical permissions mapped
    obtain ⟨offset, leaf, inside, rfl, page, rfl⟩ := (follows _ _ _).mp mapped
    obtain ⟨small, fine, slot⟩ := placed.inWindow inside
    have value : (BitVec.ofNat 64 (request.virtualBase.toNat + offset)).toNat =
        request.virtualBase.toNat + offset := by
      rw [BitVec.toNat_ofNat]
      exact Nat.mod_eq_of_lt small
    have here := (placed.window_iff fine slot).mpr (by omega)
    have index := placed.pageTableIndex inside value
    have window := placed.window
    refine ⟨small, leaf ||| low (BitVec.ofNat 64 (request.virtualBase.toNat + offset)) pageSize, ?_, ?_⟩
    · rw [leaf_toNat (fits.clean _ _ _ page), value]
      omega
    · rw [walk _ fine slot, planned, if_pos here, index, page]
  · intro address fine slot none_
    rw [placed.root] at slot
    rw [walk address fine slot]
    unfold planned
    split
    · rename_i here
      obtain ⟨after, before⟩ := (placed.window_iff fine slot).mp here
      have index : Kmap.pageTableIndex address = (address.toNat - request.virtualBase.toNat) / 4096 :=
        placed.pageTableIndex (by omega) (by omega)
      rw [index]
      cases page : plan ((address.toNat - request.virtualBase.toNat) / 4096) with
      | none => rfl
      | some entry =>
        obtain ⟨leaf, permissions⟩ := entry
        refine absurd ((follows _ _ _).mpr ⟨address.toNat - request.virtualBase.toNat, leaf, by omega,
          by omega, page, rfl⟩) (none_ _ _)
    · rfl
  · intro address translation slot ok
    rw [placed.root] at slot
    obtain ⟨leaf, permissions, page, _, rfl⟩ := found address translation slot ok
    exact fits.safe _ _ _ page
  · intro left right first second slotLeft slotRight okLeft okRight differ same
    rw [placed.root] at slotLeft slotRight
    obtain ⟨leaf, permissions, page, after, rfl⟩ := found left first slotLeft okLeft
    obtain ⟨leaf', permissions', page', after', rfl⟩ := found right second slotRight okRight
    have clean := fits.clean _ _ _ page
    have clean' := fits.clean _ _ _ page'
    dsimp only at same
    rw [leaf_toNat clean, leaf_toNat clean', unit] at same
    have aligned := clean.1
    have aligned' := clean'.1
    have one : leaf = leaf' := BitVec.eq_of_toNat_eq (by omega)
    rw [← one] at page'
    have pages := fits.apart _ _ _ _ _ page page'
    have window := placed.window
    rw [unit] at differ
    omega
  · intro address slot
    rw [placed.root] at slot
    exact laid.walk_other accepted.width well reads slot

variable {page : Nat} {permissions : Permissions}

section

variable (accepted : Accepted request addresses summary)
include accepted

/-- A page of the image is mapped by the mapping that holds it. -/
theorem Accepted.imagePlan_iff
    : imagePlan request page = some (leaf, permissions) ↔ ∃ mapping ∈ request.active, mapping.Holds (page * 4096) ∧
        leaf.toNat = request.physicalBase.toNat + page * 4096 ∧ permissions = mapping.permissions := by
  have wide := two_pow_width_lt accepted.width
  have values : u64Values = 2 ^ 64 := rfl
  have fits := accepted.placed.fits
  have pages := accepted.placed.pages
  have unit : pageSize = 4096 := rfl
  have value : page < request.pageCount →
      (BitVec.ofNat 64 (request.physicalBase.toNat + page * 4096)).toNat =
        request.physicalBase.toNat + page * 4096 := by
    intro inside
    rw [BitVec.toNat_ofNat]
    exact Nat.mod_eq_of_lt (by omega)
  unfold imagePlan
  rw [unit]
  constructor
  · intro planned
    split at planned
    · rename_i inside
      obtain ⟨mapping, found, same⟩ := Option.map_eq_some_iff.mp planned
      obtain ⟨rfl, rfl⟩ := Prod.mk.injEq .. ▸ same
      have holds := List.find?_some found
      exact ⟨mapping, List.mem_of_find?_eq_some found, by simpa using holds, value inside, rfl⟩
    · cases planned
  · rintro ⟨mapping, member, holds, same, rfl⟩
    have bounds := accepted.chain.bounds member holds
    have inside : page < request.pageCount := by omega
    rw [if_pos inside, accepted.chain.find member holds, Option.map_some]
    have equal : BitVec.ofNat 64 (request.physicalBase.toNat + page * 4096) = leaf :=
      BitVec.eq_of_toNat_eq ((value inside).trans same.symm)
    rw [equal]

theorem Accepted.image_bounds
    (planned : imagePlan request page = some (leaf, permissions)) :
    page < request.pageCount ∧ leaf.toNat = request.physicalBase.toNat + page * 4096 := by
  obtain ⟨mapping, member, holds, same, _⟩ := accepted.imagePlan_iff.mp planned
  have bounds := accepted.chain.bounds member holds
  have pages := accepted.placed.pages
  exact ⟨by omega, same⟩

theorem Accepted.imageFits :
    PlanFits request.physicalAddressBits (imagePlan request) := by
  have fits := accepted.placed.fits
  have pages := accepted.placed.pages
  have aligned := accepted.placed.aligned
  refine ⟨?_, ?_, ?_⟩
  · intro page leaf permissions planned
    obtain ⟨inside, same⟩ := accepted.image_bounds planned
    exact ⟨by omega, by omega⟩
  · intro page leaf permissions planned
    obtain ⟨mapping, member, _, _, rfl⟩ := accepted.imagePlan_iff.mp planned
    exact accepted.chain.safe member
  · intro page other leaf permissions permissions' planned planned'
    have same := (accepted.image_bounds planned).2
    have same' := (accepted.image_bounds planned').2
    omega

theorem Accepted.imageFollows :
    Follows request (imagePlan request) (ImageMaps request) := by
  have fits := accepted.placed.fits
  have small := accepted.placed.small
  intro address physical permissions
  constructor
  · rintro ⟨mapping, member, offset, holds, rfl, rfl, rfl⟩
    have bounds := accepted.chain.bounds member holds
    have paged := (accepted.chain.holds_page (Nat.zero_mod _) member).mp holds
    have wide := two_pow_width_lt accepted.width
    have values : u64Values = 2 ^ 64 := rfl
    have value : (BitVec.ofNat 64 (request.physicalBase.toNat + offset / 4096 * 4096)).toNat =
        request.physicalBase.toNat + offset / 4096 * 4096 := by
      rw [BitVec.toNat_ofNat]
      exact Nat.mod_eq_of_lt (by omega)
    refine ⟨offset, _, by omega, rfl, accepted.imagePlan_iff.mpr ⟨mapping, member, paged, value, rfl⟩, ?_⟩
    rw [value]
    omega
  · rintro ⟨offset, leaf, _, rfl, planned, rfl⟩
    obtain ⟨mapping, member, holds, same, rfl⟩ := accepted.imagePlan_iff.mp planned
    refine ⟨mapping, member, offset, (accepted.chain.holds_page (Nat.zero_mod _) member).mpr holds, rfl, ?_, rfl⟩
    rw [same]
    omega

end

variable {summary : RetainedSummary}

section

variable (fine : RetainedAccepted request addresses retained summary)
include fine

/-- A page of the retained plan belongs to the image, to the stack or to the handoff. -/
theorem RetainedAccepted.plan_iff
    : retainedPlan request retained page = some (leaf, permissions) ↔
      imagePlan request page = some (leaf, permissions) ∨ ((193 ≤ page ∧ page < 229) ∧
        leaf.toNat = retained.stackPhysicalBase.toNat + (page - 193) * 4096 ∧ permissions = .readWrite) ∨
      ((230 ≤ page ∧ page < 486) ∧
        leaf.toNat = retained.handoffPhysicalBase.toNat + (page - 230) * 4096 ∧ permissions = .readOnly) := by
  obtain ⟨_, stackFirst, stackPages, _, handoffFirst, handoffPages, unit, _⟩ := window_pages
  have few := fine.pages
  have wide := two_pow_width_lt fine.accepted.width
  have values : u64Values = 2 ^ 64 := rfl
  have outside : 192 ≤ page → imagePlan request page = none := fun beyond => imagePlan_eq_none (by omega)
  -- A run of pages whose addresses do not wrap.
  have run : ∀ (base : Word) first granted, base.toNat + (page - first) * 4096 < 2 ^ 64 →
      (runPlan base first granted page = some (leaf, permissions) ↔
        leaf.toNat = base.toNat + (page - first) * 4096 ∧ permissions = granted) := by
    intro base first granted less
    unfold runPlan
    rw [unit, Option.some_inj, Prod.mk.injEq, ← BitVec.toNat_inj, BitVec.toNat_ofNat, Nat.mod_eq_of_lt less]
    exact and_congr eq_comm eq_comm
  have stack := fine.stack.2
  have handoff := fine.handoff.2
  rw [stackPages, unit] at stack
  rw [handoffPages, unit] at handoff
  by_cases inStack : 193 ≤ page ∧ page < 229
  · rw [retainedPlan_stack (by omega) (by omega), stackFirst, run _ _ _ (by omega), outside (by omega)]
    simp [inStack]
    omega
  by_cases inHandoff : 230 ≤ page ∧ page < 486
  · rw [retainedPlan_handoff (by omega) (by omega), handoffFirst, run _ _ _ (by omega), outside (by omega)]
    simp [inHandoff]
    omega
  · rw [retainedPlan_other (by omega) (by omega)]
    simp [inStack, inHandoff]

theorem RetainedAccepted.planFits :
    PlanFits request.physicalAddressBits (retainedPlan request retained) := by
  have image := fine.accepted.imageFits
  have pages := fine.accepted.placed.pages
  obtain ⟨⟨stackAligned, _⟩, stackFits⟩ := fine.stack
  obtain ⟨⟨handoffAligned, _⟩, handoffFits⟩ := fine.handoff
  have imageStack := fine.imageStack
  have imageHandoff := fine.imageHandoff
  have stackHandoff := fine.stackHandoff
  have stackBytes : stackPageCount * pageSize = 147456 := rfl
  have handoffBytes : handoffPageCount * pageSize = 1048576 := rfl
  rw [stackBytes] at stackFits imageStack stackHandoff
  rw [handoffBytes] at handoffFits imageHandoff stackHandoff
  refine ⟨?_, ?_, ?_⟩
  · intro page leaf permissions planned
    rcases fine.plan_iff.mp planned with one | ⟨inside, same, _⟩ | ⟨inside, same, _⟩
    · exact image.clean _ _ _ one
    · exact ⟨by omega, by omega⟩
    · exact ⟨by omega, by omega⟩
  · intro page leaf permissions planned
    rcases fine.plan_iff.mp planned with one | ⟨_, _, rfl⟩ | ⟨_, _, rfl⟩
    · exact image.safe _ _ _ one
    · exact fun both => absurd both.2 (by decide)
    · exact fun both => absurd both.2 (by decide)
  · intro page other leaf permissions permissions' planned planned'
    unfold Apart at imageStack imageHandoff stackHandoff
    have placed : ∀ page permissions, imagePlan request page = some (leaf, permissions) →
        page < request.pageCount ∧ leaf.toNat = request.physicalBase.toNat + page * 4096 :=
      fun _ _ planned => fine.accepted.image_bounds planned
    rcases fine.plan_iff.mp planned with one | ⟨inside, same, _⟩ | ⟨inside, same, _⟩ <;>
      rcases fine.plan_iff.mp planned' with other_ | ⟨inside', same', _⟩ | ⟨inside', same', _⟩
    · exact image.apart _ _ _ _ _ one other_
    · have held := placed _ _ one
      omega
    · have held := placed _ _ one
      omega
    · have held := placed _ _ other_
      omega
    · omega
    · omega
    · have held := placed _ _ other_
      omega
    · omega
    · omega

theorem RetainedAccepted.planFollows :
    Follows request (retainedPlan request retained) (RetainedMaps request retained) := by
  obtain ⟨_, stackFirst, stackPages, _, handoffFirst, handoffPages, unit, _⟩ := window_pages
  have wide := two_pow_width_lt fine.accepted.width
  have values : u64Values = 2 ^ 64 := rfl
  have stack := fine.stack.2
  have handoff := fine.handoff.2
  rw [stackPages, unit] at stack
  rw [handoffPages, unit] at handoff
  have image := fine.accepted.imageFollows
  -- A page of a run, for an offset in it.
  have run : ∀ (base : Word) offset, base.toNat + offset < 2 ^ 64 →
      (BitVec.ofNat 64 (base.toNat + offset / 4096 * 4096)).toNat = base.toNat + offset / 4096 * 4096 := by
    intro base offset less
    rw [BitVec.toNat_ofNat]
    exact Nat.mod_eq_of_lt (by omega)
  intro address physical permissions
  unfold RetainedMaps RunMaps
  rw [stackFirst, stackPages, handoffFirst, handoffPages, unit]
  constructor
  · rintro (one | ⟨offset, inside, rfl, rfl, rfl⟩ | ⟨offset, inside, rfl, rfl, rfl⟩)
    · obtain ⟨offset, leaf, within, here, planned, there⟩ := (image _ _ _).mp one
      exact ⟨offset, leaf, within, here, fine.plan_iff.mpr (Or.inl planned), there⟩
    · have value := run retained.stackPhysicalBase offset (by omega)
      refine ⟨193 * 4096 + offset, _, by omega, by omega,
        fine.plan_iff.mpr (Or.inr (Or.inl ⟨by omega, value.trans (by omega), rfl⟩)), ?_⟩
      rw [value]
      omega
    · have value := run retained.handoffPhysicalBase offset (by omega)
      refine ⟨230 * 4096 + offset, _, by omega, by omega,
        fine.plan_iff.mpr (Or.inr (Or.inr ⟨by omega, value.trans (by omega), rfl⟩)), ?_⟩
      rw [value]
      omega
  · rintro ⟨offset, leaf, within, rfl, planned, rfl⟩
    rcases fine.plan_iff.mp planned with one | ⟨inside, same, rfl⟩ | ⟨inside, same, rfl⟩
    · exact Or.inl ((image _ _ _).mpr ⟨offset, leaf, within, rfl, one, rfl⟩)
    · exact Or.inr (Or.inl ⟨offset - 193 * 4096, by omega, by omega, by omega, rfl⟩)
    · exact Or.inr (Or.inr ⟨offset - 230 * 4096, by omega, by omega, by omega, rfl⟩)

/-- A guard page is not mapped. -/
theorem RetainedAccepted.guards {physical : Nat}
    (guard : offset / pageSize = stackGuardLowPage ∨ offset / pageSize = stackGuardHighPage) :
    ¬ RetainedMaps request retained (request.virtualBase.toNat + offset) physical permissions := by
  obtain ⟨guardLow, _, _, guardHigh, _, _, unit, _⟩ := window_pages
  rw [guardLow, guardHigh, unit] at guard
  intro mapped
  obtain ⟨place, leaf, within, here, planned, _⟩ := (fine.planFollows _ _ _).mp mapped
  have same : place = offset := by omega
  have few := fine.pages
  rw [same] at planned
  rcases fine.plan_iff.mp planned with one | ⟨inside, _, _⟩ | ⟨inside, _, _⟩
  · have held := fine.accepted.image_bounds one
    omega
  · omega
  · omega

end

/-- The guard pages of the window are not translated. -/
def GuardsUnmapped (request : Request) (addresses : TableAddresses) (reader : TableReader) : Prop :=
  ∀ offset, offset / pageSize = stackGuardLowPage ∨ offset / pageSize = stackGuardHighPage →
    translate reader addresses.candidateRoot (BitVec.ofNat 64 (request.virtualBase.toNat + offset))
      request.physicalAddressBits = .error (.refused .translationMissing)

theorem RetainedAccepted.guardsUnmapped (fine : RetainedAccepted request addresses retained summary)
    (walks : WalksExactly (RetainedMaps request retained) request addresses reader) :
    GuardsUnmapped request addresses reader := by
  intro offset guard
  obtain ⟨guardLow, _, _, guardHigh, _, _, unit, _⟩ := window_pages
  have inside : offset < 2097152 := by
    rw [guardLow, guardHigh, unit] at guard
    omega
  obtain ⟨small, canonical, slot⟩ := fine.accepted.placed.inWindow inside
  refine walks.unmapped _ canonical (slot.trans fine.accepted.placed.root.symm) ?_
  intro physical permissions
  have whole : (request.virtualBase.toNat + offset) % 2 ^ 64 = request.virtualBase.toNat + offset :=
    Nat.mod_eq_of_lt small
  rw [BitVec.toNat_ofNat, whole]
  exact fine.guards guard

end Plans

/-- For every request, whatever the tables hold: `populate` fails only if the request is refused or the slot
is taken, and then writes nothing; otherwise the tables map exactly the image. `populate_retained` likewise
maps exactly the image, the stack and the handoff, with both guards unmapped. -/
theorem populate_exact (request : Request) (addresses : TableAddresses) (retained : RetainedRequest)
    (originalRoot : Table) (tables : Tables) : wp (populate request addresses originalRoot)
      (fun summary after => requestSummary request addresses = .ok summary ∧
        MapsExactly (ImageMaps request) request addresses imageTables originalRoot after)
      (fun stop after => Refusal stop ∧ after = tables ∧ (requestSummary request addresses = .error stop ∨
        (stop = .refused .rootSlotOccupied ∧ originalRoot 511 ≠ 0#64))) tables ∧
    wp (populateRetained request retained addresses originalRoot)
      (fun summary after => requestSummary request addresses = .ok summary.kernel ∧
        MapsExactly (RetainedMaps request retained) request addresses retainedTables originalRoot after ∧
        ∀ reader, Reads reader addresses retainedTables originalRoot after → GuardsUnmapped request addresses reader)
      (fun stop after => Refusal stop ∧ after = tables ∧ (retainedSummary request addresses retained = .error stop ∨
          (stop = .refused .rootSlotOccupied ∧ originalRoot 511 ≠ 0#64))) tables := by
  constructor
  · cases summarized : requestSummary request addresses with
    | error stop =>
      have refusal : Refusal stop := spec_requestSummary.of_error summarized
      unfold populate
      rw [summarized]
      exact ⟨refusal, rfl, Or.inl rfl⟩
    | ok summary =>
      have accepted : Accepted request addresses summary := spec_requestSummary.of_ok summarized
      refine Op.wp_mono (wp_populate accepted summarized) ?_ ?_
      · rintro result after ⟨rfl, _, laid⟩
        exact ⟨rfl, laid.mapsExactly accepted accepted.imageFits accepted.imageFollows⟩
      · rintro stop after ⟨⟨rfl, taken⟩, same⟩
        exact ⟨⟨_, rfl⟩, same, Or.inr ⟨rfl, taken⟩⟩
  · cases summarized : retainedSummary request addresses retained with
    | error stop =>
      have refusal : Refusal stop := spec_retainedSummary.of_error summarized
      unfold populateRetained
      rw [summarized]
      exact ⟨refusal, rfl, Or.inl rfl⟩
    | ok summary =>
      have fine : RetainedAccepted request addresses retained summary :=
        spec_retainedSummary.of_ok summarized
      refine Op.wp_mono (wp_populateRetained fine summarized) ?_ ?_
      · rintro result after ⟨rfl, _, laid⟩
        have exact_ := laid.mapsExactly fine.accepted fine.planFits fine.planFollows
        exact ⟨fine.summarized, exact_, fun reader reads => fine.guardsUnmapped (exact_.walks reader reads)⟩
      · rintro stop after ⟨⟨rfl, taken⟩, same⟩
        exact ⟨⟨_, rfl⟩, same, Or.inr ⟨rfl, taken⟩⟩

end PooleOS.Kmap
