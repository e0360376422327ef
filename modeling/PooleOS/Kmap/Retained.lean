import PooleOS.Kmap.Walk

/- What `populate` and `populate_retained` leave in the tables, whatever was there. -/
namespace PooleOS.Kmap

open List Op Nat Function


section Plans

variable {request : Request} {addresses : TableAddresses} {summary : Summary} {retained : RetainedRequest}

/-- The plan of the image. -/
def imagePlan (request : Request) : Plan := fun page =>
  if page < request.pageCount then
    (request.active.find? (fun mapping => mapping.Holds (page * pageSize))).map (fun mapping =>
      (BitVec.ofNat 64 (request.physicalBase.toNat + page * pageSize), mapping.permissions))
  else none

/-- The plan of a run of pages at a physical base. -/
def runPlan (base : Word) (firstPage : Nat) (permissions : Permissions) : Plan := fun page =>
  some (BitVec.ofNat 64 (base.toNat + (page - firstPage) * pageSize), permissions)

/-- A plan with another one over some of its pages. -/
def overlay (base plan : Plan) (firstPage pages : Nat) : Plan := fun page =>
  if firstPage ≤ page ∧ page < firstPage + pages then plan page else base page

/-- The plan of the image, the stack and the handoff. -/
def retainedPlan (request : Request) (retained : RetainedRequest) : Plan :=
  overlay
    (overlay (imagePlan request) (runPlan retained.stackPhysicalBase stackFirstPage .readWrite)
      stackFirstPage stackPageCount)
    (runPlan retained.handoffPhysicalBase handoffFirstPage .readOnly) handoffFirstPage handoffPageCount

theorem leafEntry_of {base : Word} {page : Nat} (permissions : Permissions)
    (small : base.toNat + page * pageSize < u64Values) : leafEntry base page permissions =
      .ok (planEntry (some (BitVec.ofNat 64 (base.toNat + page * pageSize), permissions))) := by
  unfold leafEntry
  rw [times_of (by omega), ok_bind, plus_of small, ok_bind]
  rfl

theorem two_pow_width_lt {bits : Nat} (width : Width bits) : 2 ^ bits < u64Values := by
  have limit : 2 ^ bits ≤ 2 ^ 52 := Nat.pow_le_pow_right (by decide) width.2
  have wide : (2 : Nat) ^ 52 < u64Values := by decide
  omega

/-- The leaf of a page of the image. -/
theorem Accepted.imageLeaf (accepted : Accepted request addresses summary) {page : Nat}
    (inside : page < request.pageCount) : Kmap.imageLeaf request page = .ok (planEntry (imagePlan request page)) := by
  have fits := accepted.placed.fits
  have pages := accepted.placed.pages
  have wide := two_pow_width_lt accepted.width
  have unit : pageSize = 4096 := rfl
  have small : request.physicalBase.toNat + page * pageSize < u64Values := by
    rw [unit]
    omega
  obtain ⟨mapping, member, holds⟩ := accepted.chain.exists (zero_le (page * pageSize)) (by
    rw [unit]
    omega)
  have found := accepted.chain.find member holds
  unfold Kmap.imageLeaf mappingForOffset imagePlan
  rw [times_of (by omega), ok_bind, found, if_pos inside]
  exact leafEntry_of mapping.permissions small

theorem imagePlan_eq_none {page : Nat} (outside : request.pageCount ≤ page) : imagePlan request page = none := by
  unfold imagePlan
  rw [if_neg (not_lt.mpr outside)]

end Plans

section Writes

variable {request : Request} {addresses : TableAddresses} {summary : Summary} {names : List TableName}
  {originalRoot : Table} {tables : Tables} {base : Plan} {directory count : Nat}

theorem wp_store {name : TableName} {index : Nat} {entry : Word} {done : Unit → Tables → Prop}
    {failed : Stop → Tables → Prop} (inside : index < 512) (pass : done () (write tables name index entry)) :
    wp (store name index entry) done failed tables := by
  unfold store
  rw [wp_bind]
  exact wp_ensure_intro (fun _ => pass) (fun outside => absurd inside outside)

/-- A leaf is written. -/
theorem Laid.store (laid : Laid addresses names originalRoot directory base tables) {index : Nat}
    {leaf : Option (Word × Permissions)} :
    Laid addresses names originalRoot directory (fun page => if page = index then leaf else base page)
      (write tables .pageTable index (planEntry leaf)) := by
  refine ⟨laid.written, laid.root, laid.pdpt, laid.directory, fun place => ?_, laid.blank⟩
  simp only [write, update_self]
  split
  · rfl
  · exact laid.leaves place

/-- A loop that writes one leaf of the plan each round. -/
theorem wp_overlay {body : Nat → M Unit} (plan : Plan) (firstPage : Nat) (laid : Laid addresses names originalRoot directory base tables)
    (each : ∀ page after, page < count → wp (body page) (fun _ next => next = write after .pageTable
      (firstPage + page) (planEntry (plan (firstPage + page)))) (fun _ _ => False) after) :
    wp (forEach (range count) body)
      (fun _ => Laid addresses names originalRoot directory (overlay base plan firstPage count))
      (fun _ _ => False) tables := by
  refine wp_forEach_range _
    (fun cursor => Laid addresses names originalRoot directory (overlay base plan firstPage cursor)) ?_ ?_
  · intro cursor after less before
    refine wp_mono (each cursor after less) (fun _ next written => ?_) (fun _ _ never => never)
    have grown : overlay base plan firstPage (cursor + 1) = fun page =>
        if page = firstPage + cursor then plan (firstPage + cursor)
        else overlay base plan firstPage cursor page := by
      funext page
      unfold overlay
      by_cases here : page = firstPage + cursor
      · rw [if_pos here, if_pos (by omega), here]
      · have same : (firstPage ≤ page ∧ page < firstPage + (cursor + 1)) ↔
            (firstPage ≤ page ∧ page < firstPage + cursor) := by omega
        rw [if_neg here, if_congr same rfl rfl]
    rw [written, grown]
    exact before.store
  · have same : overlay base plan firstPage 0 = base := by
      funext page
      unfold overlay
      rw [if_neg (by omega)]
    rw [same]
    exact laid

/-- The parents are written over a copy of the root and blank tables. -/
theorem laid_parents (directory : Nat) : Laid addresses imageTables originalRoot directory (fun _ => none)
      (write (write (write (update (update (update
        (update tables .candidateRoot originalRoot) .pdpt (fun _ => 0#64))
          .pageDirectory (fun _ => 0#64)) .pageTable (fun _ => 0#64)) .candidateRoot 511 (parentEntry addresses.pdpt))
        .pdpt 510 (parentEntry addresses.pageDirectory))
        .pageDirectory directory (parentEntry addresses.pageTable)) := by
  refine ⟨fun _ member => member, fun index => ?_, fun index => ?_, fun index => ?_, fun index => ?_, ?_⟩
  · simp [write, expectedRoot]
  · simp [write, expectedParent]
  · simp [write, expectedParent, imageTables]
  · simp [write, planEntry]
  · exact fun never => absurd never (by decide)

/-- The tables as they are expected pass `verify`. -/
theorem Laid.verify (laid : Laid addresses imageTables originalRoot summary.pageDirectoryIndex
    (imagePlan request) tables) (accepted : Accepted request addresses summary)
    (summarized : requestSummary request addresses = .ok summary) (vacant : originalRoot 511 = 0#64) :
    Kmap.verify request addresses originalRoot tables = .ok summary := by
  have entry : entryAt originalRoot summary.pml4Index = .ok 0#64 := by
    rw [accepted.root, ← vacant]
    rfl
  have root : verifyRoot addresses originalRoot summary.pml4Index (tables .candidateRoot) = .ok () := by
    rw [accepted.root]
    exact forM_ok (fun index _ => require_of (laid.root index))
  have parents : verifyParents addresses summary tables = .ok () := by
    refine forM_ok (fun index _ => ?_)
    rw [accepted.pdpt, require_of (laid.pdpt index), ok_bind]
    refine require_of ?_
    rw [laid.directory]
    rfl
  have leaves : verifyLeaves request summary.firstPageTableIndex (tables .pageTable) = .ok () := by
    refine forM_ok (fun index _ => ?_)
    simp only [accepted.leaf, Nat.zero_le, true_and, Nat.zero_add, Nat.sub_zero]
    have written := laid.leaves index
    by_cases inside : index.val < request.pageCount
    · rw [if_pos inside, accepted.imageLeaf inside, ok_bind]
      exact require_of written
    · rw [if_neg inside]
      rw [imagePlan_eq_none (Nat.le_of_not_lt inside)] at written
      exact require_of written
  unfold Kmap.verify
  rw [summarized, ok_bind]
  simp only [entry, root, parents, leaves, ok_bind, require_true]
  rfl

/-- `populate` fails only if the slot is taken, before it writes; otherwise the tables hold the image,
whatever was there before. -/
theorem wp_populate (accepted : Accepted request addresses summary)
    (summarized : requestSummary request addresses = .ok summary) :
    wp (populate request addresses originalRoot) (fun result after => result = summary ∧
        originalRoot 511 = 0#64 ∧ Laid addresses imageTables originalRoot summary.pageDirectoryIndex
          (imagePlan request) after)
      (fun stop after => (stop = .refused .rootSlotOccupied ∧ originalRoot 511 ≠ 0#64) ∧ after = tables) tables := by
  have entry : entryAt originalRoot summary.pml4Index = .ok (originalRoot 511) := by
    rw [accepted.root]
    rfl
  have inside : summary.pageDirectoryIndex < 512 := by
    rw [accepted.directory]
    exact (field_lt request.virtualBase).2.2.1
  have pages := accepted.placed.pages
  have small := accepted.placed.small
  unfold populate
  rw [summarized]
  simp only [wp_bind, wp_lift_ok]
  rw [entry]
  refine wp_ensure_intro (fun vacant => ?_) (fun taken => ⟨⟨rfl, taken⟩, rfl⟩)
  simp only [copyFromSlice, fillZero, wp_update]
  rw [accepted.root, accepted.pdpt, accepted.leaf]
  refine wp_store (by decide) (wp_store (by decide) (wp_store inside ?_))
  refine wp_mono (wp_overlay (imagePlan request) 0 (laid_parents _) ?_)
    (fun _ after laid => ?_) (fun _ _ never => never.elim)
  · intro page after less
    simp only [wp_bind]
    rw [accepted.imageLeaf less, wp_lift_ok, plus_of (by unfold u64Values; omega), wp_lift_ok,
      zero_add]
    exact wp_store (by omega) rfl
  · have whole : overlay (fun _ => none) (imagePlan request) 0 request.pageCount = imagePlan request := by
      funext page
      unfold overlay
      by_cases less : page < request.pageCount
      · rw [if_pos (by omega)]
      · rw [if_neg (by omega), imagePlan_eq_none (Nat.le_of_not_lt less)]
    rw [whole] at laid
    simp only [wp_read]
    rw [laid.verify accepted summarized vacant, wp_lift_ok]
    exact ⟨rfl, vacant, laid⟩

end Writes

variable {request : Request} {addresses : TableAddresses} {retained : RetainedRequest}
  {summary : RetainedSummary} {originalRoot : Table} {tables : Tables}

/-- The pages of the window: the image, a guard, the stack, a guard and the handoff. -/
theorem window_pages : stackGuardLowPage = 192 ∧ stackFirstPage = 193 ∧ stackPageCount = 36 ∧
    stackGuardHighPage = 229 ∧ handoffFirstPage = 230 ∧ handoffPageCount = 256 ∧ pageSize = 4096 ∧
    tableEntries = 512 ∧ handoffCapacityBytes = 1048576 := by decide

section Checks

/-- Two ranges share no byte. -/
def Apart (first firstBytes second secondBytes : Nat) : Prop :=
  first + firstBytes ≤ second ∨ second + secondBytes ≤ first

theorem apart_of_ranges {first firstBytes second secondBytes : Nat}
    (disjoint : ¬ RangesOverlap first firstBytes second secondBytes) (fits : first + firstBytes < u64Values)
    (fits' : second + secondBytes < u64Values) : Apart first firstBytes second secondBytes := by
  unfold RangesOverlap saturatingAdd at disjoint
  unfold Apart
  omega

/-- What `retained_summary` guarantees. -/
structure RetainedAccepted (request : Request) (addresses : TableAddresses) (retained : RetainedRequest)
    (summary : RetainedSummary) : Prop where
  summarized : requestSummary request addresses = .ok summary.kernel
  accepted : Accepted request addresses summary.kernel
  pages : request.pageCount ≤ 192
  stack : Clean request.physicalAddressBits retained.stackPhysicalBase ∧
    retained.stackPhysicalBase.toNat + stackPageCount * pageSize ≤ 2 ^ request.physicalAddressBits
  handoff : Clean request.physicalAddressBits retained.handoffPhysicalBase ∧
    retained.handoffPhysicalBase.toNat + handoffPageCount * pageSize ≤ 2 ^ request.physicalAddressBits
  imageStack : Apart request.physicalBase.toNat request.imageBytes retained.stackPhysicalBase.toNat
    (stackPageCount * pageSize)
  imageHandoff : Apart request.physicalBase.toNat request.imageBytes retained.handoffPhysicalBase.toNat
    (handoffPageCount * pageSize)
  stackHandoff : Apart retained.stackPhysicalBase.toNat (stackPageCount * pageSize)
    retained.handoffPhysicalBase.toNat (handoffPageCount * pageSize)
  next : summary.kernel.pageDirectoryIndex + 1 < 512

theorem spec_fingerprintPages {tag firstPage pages : Nat} {base : Word} {permissions : Permissions}
    {fingerprint : Word} (small : base.toNat + pages * pageSize < u64Values) :
    Spec (fingerprintPages tag firstPage pages base permissions fingerprint) (fun _ => True) Refusal := by
  refine spec_foldlM_range (fun _ _ => True) (fun page value less _ => ?_) trivial
  simp only [spec_bind, spec_pure]
  have product : page * pageSize ≤ pages * pageSize := mul_le_mul_right _ (le_of_lt less)
  refine spec_times (by omega) ?_
  exact spec_plus (by omega) trivial

theorem spec_retainedSummary :
    Spec (retainedSummary request addresses retained) (RetainedAccepted request addresses retained) Refusal := by
  obtain ⟨guardLow, stackFirst, stackPages, guardHigh, handoffFirst, handoffPages, unit, entries, capacity⟩ :=
    window_pages
  unfold retainedSummary rangeEnd
  rw [spec_bind]
  refine spec_requestSummary.known.imp (fun kernel known => ?_)
  obtain ⟨summarized, accepted⟩ := known
  have wide := two_pow_width_lt accepted.width
  have fits := accepted.placed.fits
  have below := accepted.placed.below
  have limit : maxVirtualExclusive.toNat = 18446744072635809792 := by decide
  have values := word_sizes.2
  rw [spec_bind]
  refine spec_require (fun checks => ?_)
  simp only [not_or, not_not, ne_eq, low_pageSize_eq_zero] at checks
  obtain ⟨_, few, _, stackAligned, stackCount, _, handoffAligned, handoffCount⟩ := checks
  rw [spec_bind, stackCount, handoffCount, stackPages, unit, capacity]
  refine spec_times (by omega) ?_
  rw [spec_bind]
  refine Spec.imp (spec_forM ?_ : Spec _ (fun _ => ∀ range ∈ [
    (retained.stackPhysicalBase.toNat, 36 * 4096), (retained.handoffPhysicalBase.toNat, 1048576)],
    range.1 + range.2 ≤ 2 ^ request.physicalAddressBits) _) ?_
  · intro range _
    rw [spec_bind]
    refine spec_addOr (fun _ => spec_require (fun inside => ?_))
    exact Nat.le_of_not_lt inside
  intro _ inside
  have stackFits : retained.stackPhysicalBase.toNat + 36 * 4096 ≤ 2 ^ request.physicalAddressBits :=
    inside (_, _) (mem_cons_self ..)
  have handoffFits : retained.handoffPhysicalBase.toNat + 1048576 ≤ 2 ^ request.physicalAddressBits :=
    inside (_, _) (mem_cons_of_mem _ (mem_cons_self ..))
  rw [spec_bind]
  refine spec_require (fun apart => ?_)
  simp only [retainedRanges, pairwise_cons, mem_cons, forall_eq_or_imp, handoffCount, capacity,
    not_mem_nil, false_implies, implies_true, and_true] at apart
  obtain ⟨⟨_, imageStack, imageHandoff⟩, _, stackHandoff, _⟩ := apart
  have stackApart := apart_of_ranges imageStack (by omega) (by omega)
  have handoffApart := apart_of_ranges imageHandoff (by omega) (by omega)
  have bothApart := apart_of_ranges stackHandoff (by omega) (by omega)
  simp only [spec_bind, spec_pure, stackFirst, guardHigh, handoffFirst, handoffPages, entries]
  refine spec_addOr (fun _ => spec_addOr (fun _ => spec_addOr (fun _ => spec_addOr (fun _ => ?_))))
  have window : retainedWindowBytes = 4194304 := rfl
  refine spec_minus (by omega) (spec_minus (by omega) (spec_plus (by omega) ?_))
  refine spec_require (fun checks => ?_)
  simp only [not_or] at checks
  obtain ⟨_, _, _, _, _, _, _, _, next⟩ := checks
  refine (spec_fingerprintPages (by rw [unit]; omega)).imp (fun _ _ => ?_)
  refine (spec_fingerprintPages (by rw [unit]; omega)).imp (fun _ _ => ?_)
  exact ⟨summarized, accepted, by omega, ⟨⟨stackAligned, by omega⟩, stackFits⟩,
    ⟨⟨handoffAligned, by omega⟩, handoffFits⟩, stackApart, handoffApart, bothApart, Nat.lt_of_not_le next⟩

end Checks

section Leaves

/-- The plan of a page of the stack. -/
theorem retainedPlan_stack {page : Nat} (after : stackFirstPage ≤ page)
    (before : page < stackFirstPage + stackPageCount) : retainedPlan request retained page =
      runPlan retained.stackPhysicalBase stackFirstPage .readWrite page := by
  obtain ⟨_, stackFirst, stackPages, _, handoffFirst, _⟩ := window_pages
  unfold retainedPlan overlay
  rw [if_neg (by omega), if_pos ⟨after, before⟩]

theorem retainedPlan_handoff {page : Nat} (after : handoffFirstPage ≤ page)
    (before : page < handoffFirstPage + handoffPageCount) : retainedPlan request retained page =
      runPlan retained.handoffPhysicalBase handoffFirstPage .readOnly page := by
  unfold retainedPlan overlay
  rw [if_pos ⟨after, before⟩]

theorem retainedPlan_other {page : Nat} (notStack : ¬ (stackFirstPage ≤ page ∧ page < stackFirstPage + stackPageCount))
    (notHandoff : ¬ (handoffFirstPage ≤ page ∧ page < handoffFirstPage + handoffPageCount)) :
    retainedPlan request retained page = imagePlan request page := by
  unfold retainedPlan overlay
  rw [if_neg notHandoff, if_neg notStack]

section

variable (fine : RetainedAccepted request addresses retained summary)
include fine

theorem RetainedAccepted.stackEntry {page : Nat}
    (after : stackFirstPage ≤ page) (before : page < stackFirstPage + stackPageCount) :
    leafEntry retained.stackPhysicalBase (page - stackFirstPage) .readWrite =
      .ok (planEntry (runPlan retained.stackPhysicalBase stackFirstPage .readWrite page)) := by
  obtain ⟨_, stackFirst, stackPages, _, _, _, unit, _⟩ := window_pages
  have wide := two_pow_width_lt fine.accepted.width
  have inside := fine.stack.2
  refine leafEntry_of _ ?_
  rw [unit] at *
  omega

theorem RetainedAccepted.handoffEntry
    {page : Nat} (after : handoffFirstPage ≤ page) (before : page < handoffFirstPage + handoffPageCount) :
    leafEntry retained.handoffPhysicalBase (page - handoffFirstPage) .readOnly =
      .ok (planEntry (runPlan retained.handoffPhysicalBase handoffFirstPage .readOnly page)) := by
  obtain ⟨_, _, _, _, handoffFirst, handoffPages, unit, _⟩ := window_pages
  have wide := two_pow_width_lt fine.accepted.width
  have inside := fine.handoff.2
  refine leafEntry_of _ ?_
  rw [unit] at *
  omega

/-- The expected leaf of every page. -/
theorem RetainedAccepted.leaf (page : Nat) :
    retainedLeaf request retained page = .ok (planEntry (retainedPlan request retained page)) := by
  obtain ⟨guardLow, stackFirst, stackPages, guardHigh, handoffFirst, handoffPages, unit, entries, capacity⟩ :=
    window_pages
  have few := fine.pages
  have first : pageTableIndex request.virtualBase = 0 := fine.accepted.placed.leaf
  unfold retainedLeaf
  simp only [first, Nat.zero_le, true_and, Nat.zero_add, Nat.sub_zero]
  split
  · rename_i image
    rw [retainedPlan_other (by omega) (by omega)]
    exact fine.accepted.imageLeaf image
  rename_i beyond
  split
  · rename_i stack
    rw [retainedPlan_stack stack.1 stack.2]
    exact fine.stackEntry stack.1 stack.2
  rename_i notStack
  split
  · rename_i handoff
    rw [retainedPlan_handoff handoff.1 handoff.2]
    exact fine.handoffEntry handoff.1 handoff.2
  · rename_i notHandoff
    rw [retainedPlan_other notStack notHandoff, imagePlan_eq_none (Nat.le_of_not_lt beyond)]
    rfl

end

end Leaves

section Writes

/-- The retained table is blank, and the directory points to it. -/
theorem Laid.retain {directory : Nat} {plan : Plan}
    (laid : Laid addresses imageTables originalRoot directory plan tables) :
    Laid addresses retainedTables originalRoot directory plan
      (write (update tables .retainedPageTable (fun _ => 0#64)) .pageDirectory (directory + 1)
        (parentEntry addresses.retainedPageTable)) := by
  refine ⟨fun name member => mem_append_left _ member, laid.root, laid.pdpt, fun index => ?_,
    laid.leaves, fun _ index => rfl⟩
  have before := laid.directory index
  rw [if_pos (by decide)]
  simp only [write, update_self, expectedDirectory]
  by_cases next : index.val = directory + 1
  · rw [if_pos next, if_neg (by omega), if_pos next]
  · rw [if_neg next, if_neg next]
    exact before

/-- One of the two loops of `populate_retained`. -/
theorem wp_storeRetained {base : Plan} {directory firstPage pages : Nat} (plan : Plan)
    (laid : Laid addresses retainedTables originalRoot directory base tables)
    (inside : firstPage + pages ≤ 512) (entries : ∀ page, firstPage ≤ page → page < firstPage + pages →
      retainedLeaf request retained page = .ok (planEntry (plan page))) : wp
    (storeRetained request retained firstPage pages)
    (fun _ => Laid addresses retainedTables originalRoot directory (overlay base plan firstPage pages))
    (fun _ _ => False) tables := by
  refine wp_overlay plan firstPage laid (fun page after less => ?_)
  simp only [wp_bind]
  rw [entries (firstPage + page) (by omega) (by omega), wp_lift_ok]
  exact wp_store (by omega) rfl

/-- The tables as they are expected pass `verify_retained`. -/
theorem Laid.verifyRetained (laid : Laid addresses retainedTables originalRoot
    summary.kernel.pageDirectoryIndex (retainedPlan request retained) tables)
    (fine : RetainedAccepted request addresses retained summary)
    (summarized : retainedSummary request addresses retained = .ok summary) (vacant : originalRoot 511 = 0#64) :
    Kmap.verifyRetained request retained addresses originalRoot tables = .ok summary := by
  have entry : entryAt originalRoot summary.kernel.pml4Index = .ok 0#64 := by
    rw [fine.accepted.root, ← vacant]
    rfl
  have root : verifyRoot addresses originalRoot summary.kernel.pml4Index (tables .candidateRoot) = .ok () := by
    rw [fine.accepted.root]
    exact forM_ok (fun index _ => require_of (laid.root index))
  have parents : verifyRetainedParents addresses summary.kernel.pdptIndex
      summary.kernel.pageDirectoryIndex tables = .ok () := by
    refine forM_ok (fun index _ => require_of ?_)
    rw [fine.accepted.pdpt, laid.pdpt index, laid.directory index, if_pos (by decide)]
    exact fun either => either.elim (fun differs => differs rfl) (fun differs => differs rfl)
  have leaves : verifyRetainedLeaves request retained tables = .ok () := by
    obtain ⟨guardLow, stackFirst, stackPages, guardHigh, handoffFirst, handoffPages, unit, entries, capacity⟩ :=
      window_pages
    have few := fine.pages
    have table : ∀ index : Fin 512, tables .pageTable index =
        planEntry (retainedPlan request retained index.val) := laid.leaves
    have blank : ∀ index : Fin 512, tables .retainedPageTable index =
        planEntry (retainedPlan request retained (tableEntries + index.val)) := by
      intro index
      rw [laid.blank (by decide) index, retainedPlan_other (by omega) (by omega),
        imagePlan_eq_none (by omega)]
      rfl
    unfold verifyRetainedLeaves
    rw [forM_ok (fun index _ => ?_), ok_bind]
    · refine forM_ok (fun index _ => ?_)
      rw [fine.leaf, ok_bind]
      exact require_of (blank index)
    · rw [fine.leaf, ok_bind]
      exact require_of (table index)
  unfold Kmap.verifyRetained
  rw [summarized, ok_bind]
  simp only [entry, root, parents, leaves, ok_bind, require_true]
  rfl

/-- `populate_retained` fails only if the slot is taken, before it writes; otherwise the tables hold the
image, the stack and the handoff, whatever was there before. -/
theorem wp_populateRetained (fine : RetainedAccepted request addresses retained summary)
    (summarized : retainedSummary request addresses retained = .ok summary) :
    wp (populateRetained request retained addresses originalRoot) (fun result after => result = summary ∧
        originalRoot 511 = 0#64 ∧ Laid addresses retainedTables originalRoot
          summary.kernel.pageDirectoryIndex (retainedPlan request retained) after)
      (fun stop after => (stop = .refused .rootSlotOccupied ∧ originalRoot 511 ≠ 0#64) ∧ after = tables) tables := by
  obtain ⟨guardLow, stackFirst, stackPages, guardHigh, handoffFirst, handoffPages, unit, entries, capacity⟩ :=
    window_pages
  unfold populateRetained
  rw [summarized]
  simp only [wp_bind, wp_lift_ok]
  refine wp_mono (wp_populate fine.accepted fine.summarized) ?_ (fun _ _ failed => failed)
  rintro _ after ⟨_, vacant, laid⟩
  refine wp_store fine.next ?_
  refine wp_mono (wp_storeRetained (runPlan retained.stackPhysicalBase stackFirstPage .readWrite)
    laid.retain (by omega) ?_) ?_ (fun _ _ never => never.elim)
  · intro page after before
    rw [fine.leaf, retainedPlan_stack after before]
  intro _ stacked laidStack
  refine wp_mono (wp_storeRetained (runPlan retained.handoffPhysicalBase handoffFirstPage .readOnly)
    laidStack (by omega) ?_) ?_ (fun _ _ never => never.elim)
  · intro page after before
    rw [fine.leaf, retainedPlan_handoff after before]
  intro _ handed laidHandoff
  have whole : Laid addresses retainedTables originalRoot summary.kernel.pageDirectoryIndex
    (retainedPlan request retained) handed := laidHandoff
  simp only [wp_read]
  rw [whole.verifyRetained fine summarized vacant, wp_lift_ok]
  exact wp_ensure_intro (fun _ => ⟨rfl, vacant, whole⟩) (fun differs => absurd rfl differs)

end Writes

end PooleOS.Kmap
