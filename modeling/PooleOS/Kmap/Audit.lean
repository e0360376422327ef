import PooleOS.Kmap.Exact
import PooleOS.Kmap.Verify

/- The audit of the kernel translations. It has no table addresses and checks the request
with made-up ones, so besides the walk it refuses every image that meets them. -/
namespace PooleOS.Kmap

open List

section Definitions

/-- `TableAddresses::contiguous`. -/
def TableAddresses.contiguous (originalRoot allocationBase : Nat) : Outcome TableAddresses := do
  let pdpt ← addOr allocationBase pageSize .tableAddress
  let pageDirectory ← addOr pdpt pageSize .tableAddress
  let pageTable ← addOr pageDirectory pageSize .tableAddress
  let retainedPageTable ← addOr pageTable pageSize .tableAddress
  return ⟨BitVec.ofNat 64 originalRoot, BitVec.ofNat 64 allocationBase, BitVec.ofNat 64 pdpt,
    BitVec.ofNat 64 pageDirectory, BitVec.ofNat 64 pageTable, BitVec.ofNat 64 retainedPageTable⟩

/-- One round of the loop over the pages. -/
def auditPage (reader : TableReader) (root : Word) (request : Request) (fingerprint : Word) (page : Nat) :
    Outcome Word := do
  let offset ← times page pageSize
  let permissions ← mappingForOffset request offset
  let address ← plus request.virtualBase.toNat offset
  let translation ← translate reader root (BitVec.ofNat 64 address) request.physicalAddressBits
  require (translation.pageSize = pageSize) .largePageCollision
  let physical ← plus request.physicalBase.toNat offset
  require (¬ (translation.physicalAddress ≠ BitVec.ofNat 64 physical ∨ translation.writable ≠ permissions.write ∨
    translation.executable ≠ permissions.execute ∨ translation.user = true ∨
      translation.cache ≠ ⟨false, false, false⟩)) .leafEntry
  return fnvU64 (fnvU64 fingerprint (BitVec.ofNat 64 page)) (permissionCode permissions)

def verifyKernelTranslations (reader : TableReader) (root : Word) (request : Request) : Outcome Summary := do
  let addresses ← TableAddresses.contiguous pageSize (2 * pageSize)
  let summary ← requestSummary request addresses
  let fingerprint ← (List.range request.pageCount).foldlM (auditPage reader root request) fnvOffset
  require (fingerprint = summary.leafFingerprint) .leafEntry
  let entry ← translate reader root request.entryVirtual request.physicalAddressBits
  require (¬ (entry.executable = false ∨ entry.writable = true ∨ entry.user = true)) .entryPoint
  return { summary with leafFingerprint := fingerprint }

end Definitions

section Fingerprint

variable {request : Request} {granted : Nat → Permissions} {mapping : Mapping} {mappings : List Mapping}

/-- The fingerprint of one more page. -/
def printPage (granted : Nat → Permissions) (state : Word) (page : Nat) : Word :=
  fnvU64 (fnvU64 state (BitVec.ofNat 64 page)) (permissionCode (granted page))

/-- The fingerprint of the first pages. -/
def printPages (granted : Nat → Permissions) (pages : Nat) : Word :=
  (List.range pages).foldl (printPage granted) fnvOffset

theorem printPages_add (first pages : Nat) : printPages granted (first + pages) =
    (range pages).foldl (fun state page => printPage granted state (first + page)) (printPages granted first) := by
  unfold printPages
  rw [range_add, foldl_append, foldl_map]

theorem printPages_succ (pages : Nat) :
    printPages granted (pages + 1) = printPage granted (printPages granted pages) pages := by
  unfold printPages
  rw [range_succ, foldl_append, foldl_cons, foldl_nil]

/-- What the loop over the mappings knows: the fingerprint of the pages so far, and where the entry is. -/
structure Tallied (request : Request) (granted : Nat → Permissions) (tally : Tally) : Prop where
  aligned : tally.expectedOffset % 4096 = 0
  print : tally.leafFingerprint = printPages granted (tally.expectedOffset / 4096)
  entry : tally.entryExecutable = true → ∃ mapping ∈ request.active, mapping.permissions.execute = true ∧
    request.virtualBase.toNat + mapping.virtualOffset ≤ request.entryVirtual.toNat ∧
    request.entryVirtual.toNat < request.virtualBase.toNat + (mapping.virtualOffset + mapping.byteCount)

theorem spec_tallied {tally : Tally} (tallied : Tallied request granted tally) (member : mapping ∈ request.active)
    (grants : ∀ page, mapping.Holds (page * 4096) → granted page = mapping.permissions) :
    Spec (checkMapping request tally mapping) (Tallied request granted) Refusal := by
  have unit : pageSize = 4096 := rfl
  unfold checkMapping
  simp only [spec_bind, spec_pure]
  refine spec_require (fun fine => ?_)
  refine spec_require (fun start => ?_)
  refine spec_require (fun _ => spec_require (fun safe => ?_))
  refine spec_addOr (fun _ => spec_require (fun _ => ?_))
  refine spec_addOr (fun _ => spec_addOr (fun _ => spec_require (fun _ => ?_)))
  simp only [not_or, not_not, MultipleOf, unit] at fine
  refine ⟨by dsimp only; omega, ?_, fun executable => ?_⟩
  · have pages : (tally.expectedOffset + mapping.byteCount) / 4096 =
        tally.expectedOffset / 4096 + mapping.byteCount / 4096 := by omega
    rw [pages, printPages_add, ← tallied.print, unit]
    refine foldl_ext _ _ _ (fun state page inside => ?_)
    have less := mem_range.mp inside
    unfold printPage
    rw [grants (tally.expectedOffset / 4096 + page) ⟨by omega, by omega⟩]
  · simp only [Bool.or_eq_true, decide_eq_true_eq] at executable
    rcases executable with before | ⟨low, high, executes⟩
    · exact tallied.entry before
    · exact ⟨mapping, member, executes, by omega, by omega⟩

theorem spec_tallies {tally : Tally} (tallied : Tallied request granted tally)
    (each : ∀ mapping ∈ mappings, mapping ∈ request.active ∧
      ∀ page, mapping.Holds (page * 4096) → granted page = mapping.permissions) :
    Spec (mappings.foldlM (checkMapping request) tally) (Tallied request granted) Refusal := by
  induction mappings generalizing tally with
  | nil => exact tallied
  | cons mapping rest ih =>
    obtain ⟨⟨member, grants⟩, others⟩ := forall_mem_cons.mp each
    rw [foldlM_cons, spec_bind]
    exact (spec_tallied tallied member grants).imp (fun next more => ih more others)

end Fingerprint

section Audit

variable {request : Request} {addresses other : TableAddresses} {summary : Summary} {originalRoot : Table}
  {tables : Tables} {reader : TableReader}

/-- The permissions of a page. -/
def grantedOf (request : Request) (page : Nat) : Permissions :=
  match request.active.find? (fun mapping => mapping.Holds (page * 4096)) with
  | some mapping => mapping.permissions
  | none => ⟨false, false, false⟩

/-- The summary names no table: other tables only have to pass their own checks. -/
theorem requestSummary_retabled (summarized : requestSummary request addresses = .ok summary) :
    requestSummary request other = (checkTables request other (maskOf request.physicalAddressBits) >>=
      fun _ => .ok summary) := by
  unfold requestSummary at summarized ⊢
  obtain ⟨mask, masked, rest⟩ := bind_eq_ok summarized
  obtain ⟨bound, placed, rest⟩ := bind_eq_ok rest
  obtain ⟨_, tabled, rest⟩ := bind_eq_ok rest
  have same : mask = maskOf request.physicalAddressBits := by
    obtain ⟨_, _, last⟩ := bind_eq_ok masked
    exact (Except.ok.inj last).symm
  rw [masked, ok_bind, placed, ok_bind, ← same]
  exact congrArg _ (funext fun _ => rest)

/-- The table addresses that the audit makes up. -/
def placeholder : TableAddresses :=
  ⟨0x1000#64, 0x2000#64, 0x3000#64, 0x4000#64, 0x5000#64, 0x6000#64⟩

theorem contiguous_placeholder : TableAddresses.contiguous pageSize (2 * pageSize) = .ok placeholder := by
  decide +kernel

/-- The made-up tables pass unless the image meets them. -/
theorem checkTables_placeholder {bits : Nat} (width : Width bits) : checkTables request placeholder (maskOf bits) =
      require (¬ RangesOverlap request.physicalBase.toNat request.imageBytes (2 * pageSize)
        (tablePageCount * pageSize)) .tableOverlap := by
  have unit : pageSize = 4096 := rfl
  have values := word_sizes.2
  have root : placeholder.candidateRoot.toNat = 2 * pageSize := rfl
  have pdpt : placeholder.pdpt.toNat = 3 * pageSize := rfl
  have directory : placeholder.pageDirectory.toNat = 4 * pageSize := rfl
  have table : placeholder.pageTable.toNat = 5 * pageSize := rfl
  have retained : placeholder.retainedPageTable.toNat = 6 * pageSize := rfl
  have wide : 2 ^ 36 ≤ 2 ^ bits := Nat.pow_le_pow_right (by decide) width.1
  have clean : ∀ value ∈ tableValues placeholder,
      value ≠ 0#64 ∧ low value pageSize = 0#64 ∧ value.toNat % 4096 = 0 ∧ value.toNat < 65536 := by
    simp [tableValues, placeholder, low, unit]
  have passes : (tableValues placeholder).forM (fun value => (require (¬ (value = 0#64 ∨ low value pageSize ≠ 0#64 ∨
      value &&& ~~~maskOf bits ≠ 0#64)) .tableAddress : Outcome Unit)) = .ok () := by
    refine forM_ok (fun value member => require_of ?_)
    obtain ⟨nonzero, aligned, whole, small⟩ := clean value member
    have inside := Clean.inside width ⟨whole, Nat.lt_of_lt_of_le (by omega) wide⟩
    simp [nonzero, aligned, inside]
  have distinct : (tableValues placeholder).Pairwise (· ≠ ·) := by
    decide
  unfold checkTables
  rw [passes, ok_bind, root, pdpt, directory, table, retained, plus_of (by omega), ok_bind, require_of (by omega),
    ok_bind, plus_of (by omega), ok_bind, require_of (by omega), ok_bind, plus_of (by omega), ok_bind,
    require_of (by omega), ok_bind, plus_of (by omega), ok_bind, require_of (by omega), ok_bind,
    require_of distinct, ok_bind]

/-- A page that the tables map passes. -/
theorem auditPage_ok (accepted : Accepted request addresses summary)
    (walks : WalksExactly (ImageMaps request) request addresses reader) {page : Nat}
    (inside : page < request.pageCount) (state : Word) :
    auditPage reader addresses.candidateRoot request state page = .ok (printPage (grantedOf request) state page) := by
  have unit : pageSize = 4096 := rfl
  have fits := accepted.placed.fits
  have pages := accepted.placed.pages
  have wide := two_pow_width_lt accepted.width
  obtain ⟨mapping, member, holds⟩ := accepted.chain.exists (Nat.zero_le (page * 4096)) (by omega)
  have found := accepted.chain.find member holds
  obtain ⟨small, word, value, translated⟩ := walks.mapped _ _ _ ⟨mapping, member, page * 4096, holds, rfl, rfl, rfl⟩
  have physical : word = BitVec.ofNat 64 (request.physicalBase.toNat + page * 4096) := by
    rw [← value, BitVec.ofNat_toNat, BitVec.setWidth_eq]
  unfold auditPage mappingForOffset printPage grantedOf
  rw [unit, times_of (by omega), ok_bind, found, ok_bind, plus_of small, ok_bind, translated, ok_bind,
    require_of unit, ok_bind, plus_of (by omega), ok_bind, require_of (by simp [physical]), ok_bind]
  rfl

/-- The loop over the pages. -/
theorem audit_loop (accepted : Accepted request addresses summary)
    (walks : WalksExactly (ImageMaps request) request addresses reader) :
    (range request.pageCount).foldlM (auditPage reader addresses.candidateRoot request) fnvOffset =
      .ok (printPages (grantedOf request) request.pageCount) := by
  refine (@foldlM_range_closed _ _ _ (printPages (grantedOf request)) (fun _ => True) request.pageCount ?_ _).mpr
    ⟨fun _ _ => trivial, rfl⟩
  intro page inside _ next
  rw [auditPage_ok accepted walks inside, ← printPages_succ, true_and, ok_eq_ok]

section

variable (summarized : requestSummary request addresses = .ok summary)
include summarized

/-- The summary's fingerprint is that of the pages, and the entry lies in an executable mapping. -/
theorem requestSummary_tallied :
    summary.leafFingerprint = printPages (grantedOf request) request.pageCount ∧
      ∃ mapping ∈ request.active, mapping.permissions.execute = true ∧
        request.virtualBase.toNat + mapping.virtualOffset ≤ request.entryVirtual.toNat ∧
        request.entryVirtual.toNat < request.virtualBase.toNat + (mapping.virtualOffset + mapping.byteCount) := by
  have accepted := spec_requestSummary.of_ok summarized
  have pages := accepted.placed.pages
  have each : ∀ mapping ∈ request.active, mapping ∈ request.active ∧
      ∀ page, mapping.Holds (page * 4096) → grantedOf request page = mapping.permissions := by
    refine fun mapping member => ⟨member, fun page holds => ?_⟩
    unfold grantedOf
    rw [accepted.chain.find member holds]
  have begin : Tallied request (grantedOf request) ⟨0, false, 0, 0, 0, 0, fnvOffset⟩ := ⟨rfl, rfl, nofun⟩
  obtain ⟨_, _, rest⟩ := bind_eq_ok summarized
  obtain ⟨_, _, rest⟩ := bind_eq_ok rest
  obtain ⟨_, _, rest⟩ := bind_eq_ok rest
  obtain ⟨tally, ran, rest⟩ := bind_eq_ok rest
  have tallied := (spec_tallies begin each).of_ok ran
  simp only [unit_bind_eq_ok, require_eq_ok, pure_eq_ok] at rest
  obtain ⟨whole, executable, rfl⟩ := rest
  refine ⟨tallied.print.trans ?_, tallied.entry executable⟩
  congr 1
  omega

/-- Where the tables map the image, the audit repeats the summary when the made-up tables pass. -/
theorem audit_eq
    (walks : WalksExactly (ImageMaps request) request addresses reader) :
    verifyKernelTranslations reader addresses.candidateRoot request =
      (require (¬ RangesOverlap request.physicalBase.toNat request.imageBytes (2 * pageSize)
        (tablePageCount * pageSize)) .tableOverlap >>= fun _ => .ok summary) := by
  have accepted := spec_requestSummary.of_ok summarized
  obtain ⟨print, mapping, member, executes, after, before⟩ := requestSummary_tallied summarized
  have safe := accepted.chain.safe member
  have entered : ImageMaps request request.entryVirtual.toNat
      (request.physicalBase.toNat + (request.entryVirtual.toNat - request.virtualBase.toNat)) mapping.permissions :=
    ⟨mapping, member, request.entryVirtual.toNat - request.virtualBase.toNat, ⟨by omega, by omega⟩, by omega, rfl, rfl⟩
  obtain ⟨_, word, _, entry⟩ := walks.mapped _ _ _ entered
  rw [BitVec.ofNat_toNat, BitVec.setWidth_eq] at entry
  have plain : mapping.permissions.write = false := by
    simpa [executes] using safe
  unfold verifyKernelTranslations
  rw [contiguous_placeholder, ok_bind, requestSummary_retabled summarized, checkTables_placeholder accepted.width,
    bind_assoc]
  refine congrArg _ (funext fun _ => ?_)
  rw [ok_bind, audit_loop accepted walks, ok_bind, require_of print.symm, ok_bind, entry, ok_bind,
    require_of (by simp [executes, plain]), ok_bind, ← print]
  rfl

theorem populated_walks {start : Tables}
    (populated : (populate request addresses originalRoot).run start = (.ok summary, tables))
    (reads : Reads reader addresses imageTables originalRoot tables) :
    WalksExactly (ImageMaps request) request addresses reader := by
  have accepted := spec_requestSummary.of_ok summarized
  have wrote := @wp_populate _ _ _ originalRoot start accepted summarized
  unfold Op.wp at wrote
  rw [populated] at wrote
  obtain ⟨_, _, laid⟩ := wrote
  exact (laid.mapsExactly accepted accepted.imageFits accepted.imageFollows).walks reader reads

end

/-- Over tables that `populate` wrote the audit accepts the image, with the same summary, unless the image
meets the five pages from the made-up root on. -/
theorem audit_accepts_iff {start : Tables} (summarized : requestSummary request addresses = .ok summary)
    (populated : (populate request addresses originalRoot).run start = (.ok summary, tables))
    (reads : Reads reader addresses imageTables originalRoot tables) :
    verifyKernelTranslations reader addresses.candidateRoot request = .ok summary ↔
      ¬ RangesOverlap request.physicalBase.toNat request.imageBytes (2 * pageSize) (tablePageCount * pageSize) := by
  rw [audit_eq summarized (populated_walks summarized populated reads), unit_bind_eq_ok, require_eq_ok]
  exact and_iff_left rfl

/-- An executable image of one page. -/
def onePage (physicalBase : Word) : Request where
  physicalBase := physicalBase
  virtualBase := minVirtualBase
  imageBytes := pageSize
  pageCount := 1
  entryVirtual := minVirtualBase
  mappingCount := 1
  mappings := fun _ => ⟨0, pageSize, ⟨true, false, true⟩⟩
  physicalAddressBits := 36

/-- Tables from one mebibyte on, with the root of the firmware behind them. -/
def tablesAbove : TableAddresses :=
  ⟨0x200000#64, 0x100000#64, 0x101000#64, 0x102000#64, 0x103000#64, 0x104000#64⟩

theorem onePage_populated {physicalBase : Word}
    (fine : (requestSummary (onePage physicalBase) tablesAbove).toBool = true) (start : Tables) :
    ∃ summary tables, requestSummary (onePage physicalBase) tablesAbove = .ok summary ∧
      (populate (onePage physicalBase) tablesAbove (fun _ => 0#64)).run start = (.ok summary, tables) ∧
      Reads (holding tablesAbove (fun _ => 0#64) tables) tablesAbove imageTables (fun _ => 0#64) tables := by
  cases summarized : requestSummary (onePage physicalBase) tablesAbove with
  | error stop =>
    rw [summarized] at fine
    exact nomatch fine
  | ok summary =>
    have accepted := spec_requestSummary.of_ok summarized
    have wrote := @wp_populate _ _ _ (fun _ => 0#64) start accepted summarized
    unfold Op.wp at wrote
    cases ran : (populate (onePage physicalBase) tablesAbove (fun _ => 0#64)).run start with
    | mk result tables =>
      rw [ran] at wrote
      cases result with
      | error stop => exact absurd rfl wrote.1.2
      | ok written =>
        obtain ⟨rfl, _⟩ := wrote
        exact ⟨written, tables, rfl, rfl, accepted.tables.reads imageTables⟩

theorem audit_accepts_iff_above : ∃ summary tables,
    (populate (onePage 0x300000#64) tablesAbove (fun _ => 0#64)).run (fun _ _ => 0#64) = (.ok summary, tables) ∧
      (verifyKernelTranslations (holding tablesAbove (fun _ => 0#64) tables) tablesAbove.candidateRoot
        (onePage 0x300000#64) = .ok summary ↔
          ¬ RangesOverlap 0x300000 pageSize (2 * pageSize) (tablePageCount * pageSize)) := by
  obtain ⟨summary, tables, summarized, populated, reads⟩ :=
    @onePage_populated 0x300000#64 (by decide +kernel) (fun _ _ => 0#64)
  exact ⟨summary, tables, populated, audit_accepts_iff summarized populated reads⟩

/-- An image at the third page is mapped, and the audit refuses it. -/
theorem audit_refuses_low : ∃ summary tables, requestSummary (onePage 0x3000#64) tablesAbove = .ok summary ∧
      (populate (onePage 0x3000#64) tablesAbove (fun _ => 0#64)).run (fun _ _ => 0#64) = (.ok summary, tables) ∧
      Reads (holding tablesAbove (fun _ => 0#64) tables) tablesAbove imageTables (fun _ => 0#64) tables ∧
      verifyKernelTranslations (holding tablesAbove (fun _ => 0#64) tables) tablesAbove.candidateRoot
        (onePage 0x3000#64) = .error (.refused .tableOverlap) := by
  obtain ⟨summary, tables, summarized, populated, reads⟩ :=
    @onePage_populated 0x3000#64 (by decide +kernel) (fun _ _ => 0#64)
  refine ⟨summary, tables, summarized, populated, reads, ?_⟩
  rw [audit_eq summarized (populated_walks summarized populated reads)]
  unfold require demand
  rfl

end Audit

end PooleOS.Kmap
