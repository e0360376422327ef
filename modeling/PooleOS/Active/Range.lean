import PooleOS.Lib.Answers
import PooleOS.Pmm.Handoff
import PooleOS.Active.Initialize

/- Which manifests `initialize` can map. The topology admits up to four directories;
the check of the end points admits one. -/
namespace PooleOS.Active

open Op Nat
open List
open Pmm (AllocationHandle DirectMapManifest DirectMapRange pageBytes)

section Topology

variable {manifest : DirectMapManifest} {topology : DirectMapTopology} {range : DirectMapRange}

theorem directAddress_eq_ok {physical address : Nat} : directAddress physical = .ok address ↔
      address = directMapStart + physical ∧ directMapStart + physical < directMapEndExclusive := by
  unfold directAddress
  simp only [bind_eq_ok_iff, orError_eq_ok, checkedAdd_eq_some, demand_eq_ok, pure_eq_ok]
  have bound : directMapEndExclusive < u64Values := by decide
  constructor
  · rintro ⟨_, ⟨-, rfl⟩, -, inside, same⟩
    exact ⟨same, inside⟩
  · rintro ⟨rfl, inside⟩
    exact ⟨_, ⟨by omega, rfl⟩, (), inside, rfl⟩

/-- What the topology has checked of one range. -/
structure Mappable (range : DirectMapRange) : Prop where
  nonempty : range.pageCount ≠ 0
  guarded : range.startPage ≠ 0
  /-- The pages lie below 2^27, the pages of one entry of the root. -/
  low : range.endPage ≤ 134217728

theorem pushRegion_low {before after : DirectMapTopology} {region : Nat}
    (ok : before.pushRegion region = .ok after) : region < 262144 := by
  unfold DirectMapTopology.pushRegion at ok
  simp only [bind_eq_ok_iff, demand_eq_ok] at ok
  obtain ⟨_, -, _, low, -⟩ := ok
  unfold tableEntries at low
  omega

theorem pushRange_mappable {state : DirectMapTopology × Nat} {next : DirectMapTopology × Nat}
    (ok : DirectMapTopology.pushRange state range = .ok next) :
    Mappable range ∧ state.2 ≤ range.startPage ∧ next.2 = range.endPage := by
  unfold DirectMapTopology.pushRange at ok
  simp only [bind_eq_ok_iff, demand_eq_ok, orError_eq_ok, pure_eq_ok] at ok
  obtain ⟨_, ⟨-, some⟩, endPage, ends, _, guarded, endPhysical, -, -, -, firstPhysical, -, -, -, -, -,
    after, pushed, rfl⟩ := ok
  obtain ⟨-, rfl⟩ := checkedAdd_eq_some.mp ends
  have last : (range.startPage + range.pageCount - 1) / pagesPerPageTable ∈
      range' (range.startPage / pagesPerPageTable)
        ((range.startPage + range.pageCount - 1) / pagesPerPageTable + 1 -
          range.startPage / pagesPerPageTable) := by
    have ordered : range.startPage / pagesPerPageTable ≤
        (range.startPage + range.pageCount - 1) / pagesPerPageTable := Nat.div_le_div_right (by omega)
    rw [mem_range'_1]
    omega
  have each : ∀ (regions : List Nat) (before after : DirectMapTopology),
      regions.foldlM DirectMapTopology.pushRegion before = .ok after → ∀ region ∈ regions, region < 262144 := by
    intro regions
    induction regions with
    | nil => exact fun _ _ _ _ member => absurd member not_mem_nil
    | cons region rest ih =>
      intro before after folded other member
      obtain ⟨middle, first, others⟩ := bind_eq_ok folded
      rcases mem_cons.mp member with rfl | member
      · exact pushRegion_low first
      · exact ih middle after others other member
  have low := each _ _ _ pushed _ last
  refine ⟨⟨some, fun zero => guarded (.inl zero), ?_⟩, by omega, rfl⟩
  unfold pagesPerPageTable at low
  unfold DirectMapRange.endPage
  omega

/-- Ranges that the topology accepts one after the other. -/
structure Ascending (previousEnd : Nat) (ranges : List DirectMapRange) : Prop where
  mappable : ∀ range ∈ ranges, Mappable range
  after : ∀ range ∈ ranges, previousEnd ≤ range.startPage
  ordered : ranges.Pairwise fun first later => first.endPage ≤ later.startPage

theorem pushRanges_ascending : ∀ {ranges : List DirectMapRange} {state next : DirectMapTopology × Nat},
    ranges.foldlM DirectMapTopology.pushRange state = .ok next → Ascending state.2 ranges
  | [], _, _, _ => ⟨nofun, nofun, .nil⟩
  | range :: rest, state, next, ok => by
      rw [foldlM_cons] at ok
      obtain ⟨middle, first, others⟩ := bind_eq_ok ok
      obtain ⟨mappable, behind, stop⟩ := pushRange_mappable first
      obtain ⟨mappables, after, ordered⟩ := pushRanges_ascending others
      rw [stop] at after
      refine ⟨fun other member => ?_, fun other member => ?_, pairwise_cons.mpr ⟨after, ordered⟩⟩
      · rcases mem_cons.mp member with rfl | member
        · exact mappable
        · exact mappables other member
      · rcases mem_cons.mp member with rfl | member
        · exact behind
        · have later := after other member
          unfold DirectMapRange.endPage at later
          omega

theorem fromManifest_ascending (ok : DirectMapTopology.fromManifest manifest = .ok topology) :
    Ascending 0 manifest.ranges ∧ manifest.ranges ≠ [] := by
  unfold DirectMapTopology.fromManifest at ok
  simp only [bind_eq_ok_iff, demand_eq_ok] at ok
  obtain ⟨_, nonempty, ⟨pushed, last⟩, folded, -⟩ := ok
  refine ⟨pushRanges_ascending folded, fun none => nonempty (.inr (.inl ?_))⟩
  rw [none]
  rfl

/-- What one more region adds. -/
theorem pushRegion_mem {before after : DirectMapTopology} {region : Nat} (ok : before.pushRegion region = .ok after) :
    region ∈ after.regions ∧ ∀ other ∈ before.regions, other ∈ after.regions := by
  unfold DirectMapTopology.pushRegion at ok
  simp only [bind_eq_ok_iff, demand_eq_ok, pure_eq_ok] at ok
  obtain ⟨regions, pushed, _, -, directories, -, rfl⟩ := ok
  unfold DirectMapTopology.pushDistinct at pushed
  split at pushed
  · rename_i last
    cases pushed
    exact ⟨mem_of_getLast? last, fun _ member => member⟩
  · simp only [bind_eq_ok_iff, pure_eq_ok] at pushed
    obtain ⟨_, -, rfl⟩ := pushed
    exact ⟨mem_append_right _ (mem_singleton_self _), fun _ member => mem_append_left _ member⟩

theorem pushRegions_mem : ∀ {regions : List Nat} {before after : DirectMapTopology},
    regions.foldlM DirectMapTopology.pushRegion before = .ok after →
      (∀ region ∈ regions, region ∈ after.regions) ∧ ∀ other ∈ before.regions, other ∈ after.regions
  | [], before, after, ok => by
      cases ok
      exact ⟨nofun, fun _ member => member⟩
  | region :: rest, before, after, ok => by
      rw [foldlM_cons] at ok
      obtain ⟨middle, first, others⟩ := bind_eq_ok ok
      obtain ⟨here, kept⟩ := pushRegion_mem first
      obtain ⟨added, stays⟩ := pushRegions_mem others
      refine ⟨fun other member => ?_, fun other member => stays other (kept other member)⟩
      rcases mem_cons.mp member with rfl | member
      · exact stays _ here
      · exact added other member

theorem pushRanges_mem : ∀ {ranges : List DirectMapRange} {state next : DirectMapTopology × Nat},
    ranges.foldlM DirectMapTopology.pushRange state = .ok next →
      (∀ range ∈ ranges, ∀ page, range.startPage ≤ page → page < range.endPage →
        page / pagesPerPageTable ∈ next.1.regions) ∧ ∀ other ∈ state.1.regions, other ∈ next.1.regions
  | [], state, next, ok => by
      cases ok
      exact ⟨nofun, fun _ member => member⟩
  | range :: rest, state, next, ok => by
      rw [foldlM_cons] at ok
      obtain ⟨middle, first, others⟩ := bind_eq_ok ok
      obtain ⟨added, stays⟩ := pushRanges_mem others
      unfold DirectMapTopology.pushRange at first
      simp only [bind_eq_ok_iff, orError_eq_ok, pure_eq_ok] at first
      obtain ⟨_, -, endPage, ends, _, -, _, -, _, -, _, -, _, -, _, -, topology, pushed, rfl⟩ := first
      obtain ⟨-, rfl⟩ := checkedAdd_eq_some.mp ends
      obtain ⟨here, kept⟩ := pushRegions_mem pushed
      refine ⟨fun other member page from' below => ?_, fun other member => stays other (kept other member)⟩
      rcases mem_cons.mp member with rfl | member
      · refine stays _ (here _ (mem_range'_1.mpr ?_))
        unfold DirectMapRange.endPage at below
        have low : other.startPage / pagesPerPageTable ≤ page / pagesPerPageTable := Nat.div_le_div_right from'
        have high : page / pagesPerPageTable ≤
            (other.startPage + other.pageCount - 1) / pagesPerPageTable := Nat.div_le_div_right (by omega)
        omega
      · exact added other member page from' below

/-- Every mapped page has its table among those that are counted. -/
theorem fromManifest_regions (ok : DirectMapTopology.fromManifest manifest = .ok topology) {page : Nat}
    (mapped : manifestContainsPage manifest page) : page / pagesPerPageTable ∈ topology.regions ∧ page < 134217728 ∧
      topology.tablePageCount = fixedTablePageCount + topology.directories.length + topology.regions.length := by
  have ascending := (fromManifest_ascending ok).1
  unfold DirectMapTopology.fromManifest at ok
  simp only [bind_eq_ok_iff, pure_eq_ok] at ok
  obtain ⟨_, -, ⟨pushed, last⟩, folded, _, -, rfl⟩ := ok
  obtain ⟨range, member, above, below⟩ := mapped
  have mappable := ascending.mappable range member
  have low := mappable.low
  have stop : range.checkedEnd.getD range.startPage ≤ range.endPage := by
    cases ends : range.checkedEnd with
    | none => exact le_add_right _ _
    | some endPage => exact (checkedAdd_eq_some.mp ends).2.le
  have inside : page < range.endPage := lt_of_lt_of_le below stop
  exact ⟨(pushRanges_mem folded).1 range member page above inside, by omega, rfl⟩

end Topology

section Span

variable {manifest : DirectMapManifest} {topology : DirectMapTopology}

/-- The direct map begins at the start of an entry of the root. -/
theorem tableIndex_direct {page : Nat} (low : page < 134217728) (offset : Nat) (inside : offset < pageBytes) :
    tableIndex (directMapStart + (page * pageBytes + offset)) 0 = 288 ∧
      tableIndex (directMapStart + (page * pageBytes + offset)) 1 = page / 262144 := by
  have field : ∀ level value : Nat, tableIndex value level = value / 2 ^ (39 - 9 * level) % 512 := by
    intro level value
    unfold tableIndex
    rw [shiftRight_eq_div_pow]
    exact and_two_pow_sub_one_eq_mod _ 9
  rw [field, field]
  unfold directMapStart pageBytes at *
  constructor
  · omega
  · omega

/-- The pages of one entry of the two upper levels. -/
def SameBlock (manifest : DirectMapManifest) : Prop :=
  manifest.firstPage / 262144 = (manifest.endPage - 1) / 262144

instance : Decidable (SameBlock manifest) := inferInstanceAs (Decidable (_ = _))

/-- The end points of a manifest that the topology accepts. -/
structure Bounded (manifest : DirectMapManifest) : Prop where
  nonempty : manifest.firstPage < manifest.endPage
  low : manifest.endPage ≤ 134217728

theorem bounded_of {s : Pmm.Manager} {generation : Nat} (made : Pmm.directMapManifest s generation = .ok manifest)
    (accepted : DirectMapTopology.fromManifest manifest = .ok topology) : Bounded manifest := by
  obtain ⟨first, last, head, tail, starts, ends⟩ := Pmm.directMapManifest_ends made
  obtain ⟨ascending, -⟩ := fromManifest_ascending accepted
  obtain ⟨-, stop⟩ := checkedAdd_eq_some.mp ends
  have member := mem_of_getLast? tail
  have mappable := ascending.mappable last member
  have low : last.endPage ≤ 134217728 := mappable.low
  have some := mappable.nonempty
  have before : first.startPage ≤ last.startPage := by
    cases ranges : manifest.ranges with
    | nil => rw [ranges] at head; cases head
    | cons range rest =>
      rw [ranges] at head member
      obtain rfl : range = first := by simpa using head
      rcases mem_cons.mp member with rfl | member
      · exact le_refl _
      · have later := (pairwise_cons.mp (ranges ▸ ascending.ordered)).1 last member
        unfold DirectMapRange.endPage at later
        omega
  unfold DirectMapRange.endPage at low
  exact ⟨by omega, by omega⟩

theorem checkSpan_bounded (bounded : Bounded manifest) :
    checkSpan manifest = demand (SameBlock manifest) .directMapRange := by
  obtain ⟨nonempty, low⟩ := bounded
  have firstFits : manifest.firstPage * pageBytes < u64Values := by unfold pageBytes u64Values; omega
  have endFits : manifest.endPage * pageBytes < u64Values := by unfold pageBytes u64Values; omega
  have firstAddress : directAddress (manifest.firstPage * pageBytes) =
      .ok (directMapStart + manifest.firstPage * pageBytes) :=
    directAddress_eq_ok.mpr ⟨rfl, by unfold directMapStart directMapEndExclusive pageBytes; omega⟩
  have lastAddress : directAddress (manifest.endPage * pageBytes - 1) =
      .ok (directMapStart + (manifest.endPage * pageBytes - 1)) :=
    directAddress_eq_ok.mpr ⟨rfl, by unfold directMapStart directMapEndExclusive pageBytes; omega⟩
  have firstIndex := tableIndex_direct (show manifest.firstPage < 134217728 by omega) 0 (by decide)
  have lastIndex := tableIndex_direct (show manifest.endPage - 1 < 134217728 by omega) (pageBytes - 1)
    (by decide)
  have last : (manifest.endPage - 1) * pageBytes + (pageBytes - 1) = manifest.endPage * pageBytes - 1 := by
    unfold pageBytes
    omega
  rw [add_zero] at firstIndex
  rw [last] at lastIndex
  unfold checkSpan
  rw [show checkedMul u64Values manifest.firstPage pageBytes = some (manifest.firstPage * pageBytes) from
      checkedMul_eq_some.mpr ⟨firstFits, rfl⟩,
    show checkedMul u64Values manifest.endPage pageBytes = some (manifest.endPage * pageBytes) from
      checkedMul_eq_some.mpr ⟨endFits, rfl⟩]
  simp only [orError_some, ok_bind]
  rw [demand_pass (by unfold pageBytes; omega), ok_bind, firstAddress, ok_bind, lastAddress, ok_bind]
  unfold demand
  by_cases same : SameBlock manifest
  · rw [if_pos same, if_pos]
    unfold SameBlock at same
    omega
  · rw [if_neg same, if_neg]
    unfold SameBlock at same
    omega

end Span

section Spared

variable {T : Type} (memory : TableMemory T)

/-- The method never rejects a range. -/
abbrev Spared {σ α : Type} (method : Op σ Error α) : Prop :=
  Op.Answers (fun _ => True) (· ≠ Error.directMapRange) method

variable {σ α : Type}

theorem spared_bind {β : Type} {first : Op σ Error β} {next : β → Op σ Error α} (one : Spared first)
    (two : ∀ value, Spared (next value)) : Spared (first >>= next) := one.bind (fun value _ => two value)

variable {reason : Error}

theorem ensure_spared {condition : Prop} [Decidable condition]
    (spared : reason ≠ .directMapRange) : Spared (ensure condition reason : Op σ Error Unit) :=
  .ensure (fun _ => trivial) spared

theorem forEach_spared {ι : Type} {items : List ι} {body : ι → Op σ Error Unit}
    (each : ∀ item, Spared (body item)) : Spared (forEach items body) :=
  .forEach (fun item _ => each item)

theorem mapError_spared {ε : Type} (spared : reason ≠ .directMapRange)
    (method : Op σ ε α) : Spared (mapError (fun _ => reason) method) := .mapError method spared

theorem outcome_spared {S : Type} (method : S → Bool × S) : Spared (outcome method) := by
  refine ⟨fun s => wp_iff.mpr ⟨fun _ _ => trivial, fun reason run => ?_⟩⟩
  change (if (method s).1 = true then _ else _) = _ at run
  split at run
  · cases run
  · cases run
    decide

theorem answer_spared {S : Type} (method : S → Option α × S) : Spared (answer method) := by
  refine ⟨fun s => wp_iff.mpr ⟨fun _ _ => trivial, fun reason run => ?_⟩⟩
  change orError (method s).1 _ = _ at run
  cases found : (method s).1 <;> rw [found] at run <;> cases run
  decide

theorem readEntry_spared (table index : Nat) : Spared (readEntry memory table index) := answer_spared _

theorem writeEntry_spared (table index : Nat) (value : Word) : Spared (writeEntry memory table index value) :=
  outcome_spared _

theorem transaction_spared (spared : reason ≠ .directMapRange) (table index : Nat)
    (expected replacement : Word) : Spared (transaction memory reason table index expected replacement) :=
  .mapError _ spared

theorem lift_orError_spared {option : Option α} (spared : reason ≠ .directMapRange) :
    Spared (lift (orError option reason) : Op σ Error α) := by
  refine .lift (fun _ _ => trivial) (fun other run => ?_)
  cases option with
  | some value => cases run
  | none =>
    cases run
    exact spared

theorem checkedEnd_low {range : DirectMapRange} (mappable : Mappable range) :
    range.checkedEnd = some range.endPage := by
  have low := mappable.low
  refine checkedAdd_eq_some.mpr ⟨?_, rfl⟩
  unfold DirectMapRange.endPage at low
  unfold u64Values
  omega

variable {page : Nat}

theorem directAddress_low (low : page < 134217728) :
    directAddress (page * pageBytes) = .ok (directMapStart + page * pageBytes) :=
  directAddress_eq_ok.mpr ⟨rfl, by unfold directMapStart directMapEndExclusive pageBytes; omega⟩

theorem clearTable_spared (table : Nat) : Spared (clearTable memory table) := by
  exact spared_bind (outcome_spared _) (fun _ => forEach_spared (fun index => writeEntry_spared memory table index _))

theorem inheritRoot_spared (originalRoot root : Nat) : Spared (inheritRoot memory originalRoot root) := by
  exact forEach_spared (fun index => spared_bind (readEntry_spared memory originalRoot index)
      (fun _ => writeEntry_spared memory root index _))

theorem linkUser_spared (tables : Nat → Nat) : Spared (linkUser memory tables) := by
  exact spared_bind (readEntry_spared memory _ _) (fun _ => transaction_spared memory (by decide) _ _ _ _)

theorem linkUserHierarchy_spared (tables : Nat → Nat) (data : Nat) : Spared (linkUserHierarchy memory tables data) := by
  exact spared_bind (transaction_spared memory (by decide) _ _ _ _) fun _ =>
      spared_bind (transaction_spared memory (by decide) _ _ _ _) fun _ =>
        transaction_spared memory (by decide) _ _ _ _

variable (topology : DirectMapTopology)

section

variable (tables : Nat → Nat)
include tables

theorem linkDirectories_spared : Spared (linkDirectories memory topology tables) := by
  exact forEach_spared (fun _ => transaction_spared memory (by decide) _ _ _ _)

theorem linkRegions_spared : Spared (linkRegions memory topology tables) := by
  exact forEach_spared (fun _ => spared_bind (lift_orError_spared (by decide))
      (fun _ => transaction_spared memory (by decide) _ _ _ _))

theorem mapPage_spared (page : Nat) : Spared (mapPage memory topology tables page) := by
  exact spared_bind (lift_orError_spared (by decide)) (fun _ => transaction_spared memory (by decide) _ _ _ _)

theorem mapRanges_spared {ranges : List DirectMapRange}
    (mappable : ∀ range ∈ ranges, Mappable range) : Spared (mapRanges memory topology tables ranges) := by
  refine .forEach (fun range member => ?_)
  rw [checkedEnd_low (mappable range member)]
  exact spared_bind (.lift (fun _ _ => trivial) nofun)
    (fun _ => forEach_spared (mapPage_spared memory topology tables))

theorem writeTables_spared (data directSlot : Nat) (input : ActiveAddressSpaceInput)
    (mappable : ∀ range ∈ input.manifest.ranges, Mappable range) :
    Spared (writeTables memory topology tables data directSlot input) := by
  refine spared_bind (forEach_spared (clearTable_spared memory)) (fun _ => ?_)
  refine spared_bind (inheritRoot_spared memory _ _) (fun _ => ?_)
  refine spared_bind (readEntry_spared memory _ _) (fun _ => ?_)
  refine spared_bind (ensure_spared (by decide)) (fun _ => ?_)
  refine spared_bind (linkUser_spared memory tables) (fun _ => ?_)
  refine spared_bind (transaction_spared memory (by decide) _ _ _ _) (fun _ => ?_)
  refine spared_bind (linkUserHierarchy_spared memory tables data) (fun _ => ?_)
  refine spared_bind (linkDirectories_spared memory topology tables) (fun _ => ?_)
  refine spared_bind (linkRegions_spared memory topology tables) (fun _ => ?_)
  exact mapRanges_spared memory topology tables mappable

end

variable (space : ActiveAddressSpace) (core : CoreRecord) (bits : Nat)

theorem translateBoth_spared (spared : reason ≠ .directMapRange) (address : Nat) :
    Spared (translateBoth memory space core bits reason address) := mapError_spared spared _

theorem requireMissing_spared (spared : reason ≠ .directMapRange) (root address : Nat) :
    Spared (requireMissing memory root address bits reason) := by
  exact (Op.Answers.attempt _).bind (fun _ _ => ensure_spared spared)

theorem auditRoot_spared : Spared (auditRoot memory space core) := by
  exact forEach_spared (fun _ => spared_bind (readEntry_spared memory _ _) fun _ =>
      spared_bind (readEntry_spared memory _ _) fun _ => ensure_spared (by decide))

theorem auditKernel_spared : Spared (auditKernel memory space core bits) := by
  refine spared_bind (forEach_spared (fun _ => ?_)) (fun _ => ?_)
  · exact spared_bind (translateBoth_spared memory space core bits (by decide) _) (fun _ => ensure_spared (by decide))
  · exact spared_bind (mapError_spared (by decide) _) (fun _ => ensure_spared (by decide))

theorem auditStackAddress_spared (address : Nat) : Spared (auditStackAddress memory space core bits address) := by
  exact spared_bind (translateBoth_spared memory space core bits (by decide) address) (fun _ => ensure_spared (by decide))

theorem auditStack_spared : Spared (auditStack memory space core bits) := by
  refine spared_bind (ensure_spared (by decide)) (fun _ => ?_)
  refine spared_bind (auditStackAddress_spared memory space core bits _) (fun _ => ?_)
  refine spared_bind (auditStackAddress_spared memory space core bits _) (fun _ => ?_)
  exact spared_bind (requireMissing_spared memory bits (by decide) _ _)
    (fun _ => requireMissing_spared memory bits (by decide) _ _)

theorem auditHandoffAddress_spared (virtualAddress physicalAddress : Nat) :
    Spared (auditHandoffAddress memory space core bits virtualAddress physicalAddress) := by
  exact spared_bind (translateBoth_spared memory space core bits (by decide) virtualAddress) (fun _ => ensure_spared (by decide))

theorem auditHandoff_spared : Spared (auditHandoff memory space core bits) := by
  refine spared_bind (lift_orError_spared (by decide)) (fun _ => ?_)
  refine spared_bind (ensure_spared (by decide)) (fun _ => ?_)
  exact spared_bind (auditHandoffAddress_spared memory space core bits _ _)
    (fun _ => auditHandoffAddress_spared memory space core bits _ _)

theorem auditGapPage_spared (low : page < 134217728) : Spared (auditGapPage memory space bits page) := by
  unfold auditGapPage
  rw [directAddress_low low]
  exact spared_bind (.lift (fun _ _ => trivial) nofun) (fun _ => requireMissing_spared memory bits (by decide) _ _)

/-- One audited page adds one to a number that stays below the page numbers. -/
theorem auditPage_spared (range : DirectMapRange) {audited : Nat} (below : audited ≤ page) (low : page < 134217728) :
    Op.Answers (· ≤ page + 1) (· ≠ Error.directMapRange) (auditPage memory space bits range audited page) := by
  unfold auditPage
  rw [directAddress_low low, show checkedAdd u64Values audited 1 = some (audited + 1) from
      checkedAdd_eq_some.mpr ⟨by unfold u64Values; omega, rfl⟩]
  refine .bind (?_ : Spared _) (fun _ _ => ?_)
  · exact .lift (fun _ _ => trivial) nofun
  refine .bind (mapError_spared (by decide) _) (fun _ _ => ?_)
  refine .bind (ensure_spared (by decide)) (fun _ _ => ?_)
  refine .lift (fun value ok => ?_) nofun
  cases ok
  omega

theorem auditPages_spared (range : DirectMapRange) :
    ∀ (count first audited : Nat), audited ≤ first → first + count ≤ 134217728 →
      Op.Answers (· ≤ first + count) (· ≠ Error.directMapRange)
        ((range' first count).foldlM (auditPage memory space bits range) audited)
  | 0, first, audited, below, _ => .pure (by omega)
  | more + 1, first, audited, below, low => by
      rw [range'_succ, foldlM_cons]
      refine .bind (auditPage_spared memory space bits range below (by omega)) (fun next kept => ?_)
      exact (auditPages_spared range more (first + 1) next kept (by omega)).mono
        (fun _ last => by omega)

/-- What the audit carries from one range to the next: the end of the range before, and no more pages
than lie before it. -/
def Audited (rest : List DirectMapRange) (state : Option Nat × Nat) : Prop :=
  ∃ previousEnd, Ascending previousEnd rest ∧ state.2 ≤ previousEnd ∧
    ∀ gapStart, state.1 = some gapStart → gapStart = previousEnd

theorem auditRange_spared {range : DirectMapRange} {rest : List DirectMapRange} {state : Option Nat × Nat}
    (audited : Audited (range :: rest) state) :
    Op.Answers (Audited rest) (· ≠ Error.directMapRange) (auditRange memory space bits state range) := by
  obtain ⟨previousEnd, ascending, few, gaps⟩ := audited
  obtain ⟨first, pages⟩ := state
  have mappable := ascending.mappable range (mem_cons_self ..)
  have behind := ascending.after range (mem_cons_self ..)
  have low := mappable.low
  unfold DirectMapRange.endPage at low
  unfold auditRange
  rw [checkedEnd_low mappable]
  refine .bind (.lift (fun _ ok => ?_) nofun : Op.Answers (· = range.endPage) _ _) (fun endPage ends => ?_)
  · cases ok
    rfl
  subst ends
  refine .bind (?_ : Spared _) (fun _ _ => ?_)
  · cases first with
    | none => exact .pure trivial
    | some gapStart =>
      refine .when (fun gap => ?_)
      exact .bind (auditGapPage_spared memory space bits (by omega))
        (fun _ _ => auditGapPage_spared memory space bits (by omega))
  · have count : range.endPage - range.startPage = range.pageCount := Nat.add_sub_cancel_left ..
    have below : pages ≤ range.startPage := le_trans few behind
    rw [count]
    refine .bind (auditPages_spared memory space bits range range.pageCount range.startPage pages below low)
      (fun audited last => .pure ?_)
    refine ⟨range.endPage, ⟨fun other member => ascending.mappable other (mem_cons_of_mem _ member),
      (pairwise_cons.mp ascending.ordered).1, (pairwise_cons.mp ascending.ordered).2⟩, last,
      fun gapStart some => ?_⟩
    cases some
    rfl

theorem audit_spared {previousEnd : Nat} (ascending : Ascending previousEnd space.manifest.ranges) :
    Spared (audit memory space core bits) := by
  refine spared_bind (auditRoot_spared memory space core) (fun _ => ?_)
  refine spared_bind (auditKernel_spared memory space core bits) (fun _ => ?_)
  refine spared_bind (auditStack_spared memory space core bits) (fun _ => ?_)
  refine spared_bind (auditHandoff_spared memory space core bits) (fun _ => ?_)
  refine .bind (Op.Answers.foldlM Audited (fun state range rest holds =>
    auditRange_spared memory space bits holds) _ _ ⟨previousEnd, ascending, zero_le _, nofun⟩)
    (fun state _ => ?_)
  refine spared_bind (ensure_spared (by decide)) (fun _ => ?_)
  refine spared_bind (mapError_spared (by decide) _) (fun _ => ?_)
  refine spared_bind ?_ (fun _ => ensure_spared (by decide))
  refine .lift (fun _ _ => trivial) (fun reason run => ?_)
  unfold physicalAddress at run
  intro range
  subst range
  cases found : checkedMul u64Values space.dataAllocation.startPage pageBytes <;> rw [found] at run
  · cases run
  · simp only [orError_some, ok_bind] at run
    unfold demand at run
    split at run <;> cases run

end Spared

section Initialize

variable {E T : Type} {host : Host E T} {tableAllocation dataAllocation : AllocationHandle}
  {input : ActiveAddressSpaceInput} {topology : DirectMapTopology} {root : Nat}

/-- What the caller provides: two allocations that it owns, of the right sizes and next to each other, the
manifest of the manager, and the root that the processor runs on. -/
structure Provided (s : Pmm.Manager) (tableAllocation dataAllocation : AllocationHandle)
    (input : ActiveAddressSpaceInput) (topology : DirectMapTopology) (root : Nat) : Prop where
  operational : s.requireOperational = .ok ()
  retainable : Pmm.checkRetainableFrom s [] [some tableAllocation, some dataAllocation] = .ok ()
  manifest : Pmm.directMapManifest s tableAllocation.generation = .ok input.manifest
  accepted : DirectMapTopology.fromManifest input.manifest = .ok topology
  tables : tableAllocation.pageCount = topology.tablePageCount ∧ tableAllocation.owner = tableOwner ∧
    tableAllocation.zone = .dma32
  data : dataAllocation.pageCount = 1 ∧ dataAllocation.owner = dataOwner ∧ dataAllocation.zone = .dma32
  width : 36 ≤ input.physicalAddressBits ∧ input.physicalAddressBits ≤ 52
  tableAddress : physicalAddress tableAllocation = .ok root
  dataAddress : physicalAddress dataAllocation = .ok (root + tableAllocation.pageCount * pageBytes)
  originalRoot : (word input.originalCr3 &&& rootAddressMask).toNat = input.core.pageTableRootPhysical ∧
    input.core.pageTableRootPhysical ≠ 0
  tablesMapped : ∀ page ∈ List.range' tableAllocation.startPage tableAllocation.pageCount,
    manifestContainsPage input.manifest page
  dataMapped : manifestContainsPage input.manifest dataAllocation.startPage

theorem managed_ok {α : Type} {reason : Error} {method : Pmm.M E α} {value : α}
    (run : method.run host.world = (.ok value, host.world)) :
    (managed reason method : K E T α).run host = (.ok value, host) := by
  unfold managed within mapError
  simp only [run, Except.mapError]

theorem managed_spared {α : Type} {reason : Error} (spared : reason ≠ .directMapRange)
    (method : Pmm.M E α) : Spared (managed reason method : K E T α) :=
  .within (mapError_spared spared method)

theorem buildSpace_spared (memory : TableMemory T) {space : ActiveAddressSpace} (data : Nat)
    (input : ActiveAddressSpaceInput) {previousEnd : Nat} (written : Ascending previousEnd input.manifest.ranges)
    (audited : Ascending previousEnd space.manifest.ranges) :
    Spared (buildSpace memory space data input : K E T ActiveAddressSpace) := by
  refine spared_bind (.within (writeTables_spared memory _ _ _ _ input written.mappable)) (fun _ => ?_)
  refine spared_bind (.within (audit_spared memory _ _ _ audited)) (fun _ => ?_)
  exact spared_bind (managed_spared (by decide) _) (fun _ => .pure trivial)

theorem validateAllocation_run {w : Pmm.World E} {handle : AllocationHandle} {allocation : Pmm.Allocation}
    (operational : w.manager.requireOperational = .ok ())
    (valid : w.manager.validateAllocationInner handle = .ok allocation) :
    (Pmm.validateAllocation handle : Pmm.M E Unit).run w = (.ok (), w) := by
  unfold Pmm.validateAllocation Pmm.requireOperational Pmm.manager
  simp only [run_bind, run_read, run_pure, run_lift, operational, valid]

namespace Provided

variable (provided : Provided host.world.manager tableAllocation dataAllocation input topology root)
include provided

theorem valid : (∃ allocation, host.world.manager.validateAllocationInner tableAllocation = .ok allocation) ∧
    ∃ allocation, host.world.manager.validateAllocationInner dataAllocation = .ok allocation := by
  have retainable := provided.retainable
  unfold Pmm.checkRetainableFrom at retainable
  simp only [bind_eq_ok_iff] at retainable
  obtain ⟨first, one, -, -, -, -, -, -, rest⟩ := retainable
  unfold Pmm.checkRetainableFrom at rest
  simp only [bind_eq_ok_iff] at rest
  obtain ⟨second, two, -⟩ := rest
  exact ⟨⟨first, one⟩, second, two⟩

theorem generation : tableAllocation.generation = input.manifest.generation :=
  (Pmm.directMapManifest_generation provided.manifest).symm

theorem admitInput_ok : admitInput tableAllocation dataAllocation input =
    .ok (topology, root, root + tableAllocation.pageCount * pageBytes) := by
  obtain ⟨pages, owner, zone⟩ := provided.tables
  obtain ⟨dataPages, dataOwner, dataZone⟩ := provided.data
  unfold admitInput
  rw [provided.accepted, ok_bind, demand_pass (by rw [pages, owner, zone, provided.generation]; simp), ok_bind,
    demand_pass (by rw [dataPages, dataOwner, dataZone]; simp), ok_bind, demand_pass provided.width, ok_bind,
    provided.tableAddress, ok_bind, provided.dataAddress, ok_bind, demand_pass rfl, ok_bind,
    demand_pass (by simp [provided.originalRoot]), ok_bind, demand_pass provided.tablesMapped, ok_bind,
    demand_pass provided.dataMapped, ok_bind]
  rfl

/-- All checks before that of the end points pass. -/
theorem run_checks (memory : TableMemory T) :
    (initializeSpace memory tableAllocation dataAllocation input).run host =
      (lift (checkSpan input.manifest) >>= fun _ =>
        buildSpace memory (prepared tableAllocation dataAllocation topology root input)
          (root + tableAllocation.pageCount * pageBytes) input).run host := by
  obtain ⟨⟨_, tableValid⟩, _, dataValid⟩ := provided.valid
  have operational := provided.operational
  have tables := validateAllocation_run operational tableValid
  have data := validateAllocation_run operational dataValid
  have retainable : (Pmm.checkRetainableAllocations [some tableAllocation, some dataAllocation] :
      Pmm.M E Unit).run host.world = (.ok (), host.world) := by
    unfold Pmm.checkRetainableAllocations Pmm.requireOperational Pmm.manager
    simp only [run_bind, run_read, run_pure, run_lift, operational, provided.retainable]
  have manifest : (Pmm.validateDirectMapManifest input.manifest tableAllocation :
      Pmm.M E Unit).run host.world = (.ok (), host.world) := by
    unfold Pmm.validateDirectMapManifest Pmm.manager
    rw [run_bind_ok _ tables]
    simp only [run_bind, run_read, run_pure, run_lift, provided.manifest]
    exact run_ensure_pass _ trivial
  unfold initializeSpace
  rw [run_bind_ok _ (managed_ok tables), run_bind_ok _ (managed_ok data),
    run_bind_ok _ (managed_ok retainable), run_bind_ok _ (managed_ok manifest),
    provided.admitInput_ok, run_bind_ok _ (run_lift _ _)]

end Provided

/-- What the topology accepts is mapped unless it reaches beyond one entry of the second level, which is
one GiB. -/
theorem initialize_maps_one_block (memory : TableMemory T)
    (provided : Provided host.world.manager tableAllocation dataAllocation input topology root) :
    ((initializeSpace memory tableAllocation dataAllocation input).run host).1 ≠ .error .directMapRange ↔
      SameBlock input.manifest := by
  rw [provided.run_checks memory, checkSpan_bounded (bounded_of provided.manifest provided.accepted)]
  by_cases same : SameBlock input.manifest
  · rw [demand_pass same, run_bind_ok _ (run_lift _ _)]
    have ascending := (fromManifest_ascending provided.accepted).1
    exact ⟨fun _ => same, fun _ failed => (buildSpace_spared memory _ input ascending ascending).error failed rfl⟩
  · rw [demand_stop same, run_bind_error _ (run_lift _ _)]
    exact ⟨fun kept => absurd rfl kept, fun holds => absurd holds same⟩

/-- The table words themselves, by table and index. -/
def plainMemory : TableMemory (Nat → Nat → Word) where
  preparePage _ cells := (true, cells)
  readEntry table index cells := (some (cells table index), cells)
  writeEntry table index value cells :=
    (true, Function.update cells table (Function.update (cells table) index value))
  finish cells := (true, cells)

def memoryEntry (start pages kind source : Nat) : Bytes :=
  Bytes.ofWord 8 start ++ Bytes.ofWord 8 pages ++ Bytes.ofWord 8 0 ++ Bytes.ofWord 4 kind ++
    Bytes.ofWord 4 source ++ Bytes.ofWord 8 0

/-- The kernel, the handoff and the boot root in one MiB, and the usable pages that are given. -/
def bootMap (usable : List (Nat × Nat)) : Pmm.MemoryMap where
  elementCount := usable.length + 1
  elementSize := Pmm.memoryEntryBytes
  payload := memoryEntry 0x100000 16 Pmm.memoryLoaderReserved 1 ++
    usable.flatMap (fun (page, pages) => memoryEntry (page * pageBytes) pages Pmm.memoryUsable 7)

/-- The manager made from the map, with the pages of the tables and the data page allocated. -/
def bootHost (usable : List (Nat × Nat)) (tablePages : Nat) : Host Unit (Nat → Nat → Word) where
  world :=
    match Pmm.fromHandoff (some (bootMap usable)) ⟨0x100000, 0x4000, 0x108000, 0x104000, 0x1000⟩ 4096 with
    | .ok s => (do
        let _ ← Pmm.allocate .dma32 tablePages tableOwner
        let _ ← Pmm.allocate .dma32 1 dataOwner
        return () : Pmm.M Unit Unit).run ⟨s, (), 1⟩ |>.2
    | .error _ => ⟨Pmm.Manager.empty 0, (), 1⟩
  memory := fun _ _ => 0#64

def bootInput (ranges : List DirectMapRange) (mapped gap first last : Nat) : ActiveAddressSpaceInput where
  manifest := ⟨1, ranges, mapped, 0, gap, first, last, Pmm.coverageChecksum 1 mapped 0 gap first last ranges⟩
  originalCr3 := 0x108000
  core := ⟨0x108000, 0x100000, 0x4000, 0xffffffff80000000, 0xffffffff80000000, 0xffffffff90024000, 0x104000,
    0xffffffffa0000000, 0x1000⟩
  physicalAddressBits := 36

/-- Eight usable pages: seven tables and the data page. -/
theorem initialize_maps_eight_pages :
    ((initializeSpace plainMemory ⟨0, 1, 4096, 7, .dma32, tableOwner⟩ ⟨1, 2, 4103, 1, .dma32, dataOwner⟩
      (bootInput [⟨4096, 8, .writeBack⟩] 8 0 4096 4104)).run (bootHost [(4096, 8)] 7)).1 ≠ .error .directMapRange := by
  have provided : Provided (bootHost [(4096, 8)] 7).world.manager ⟨0, 1, 4096, 7, .dma32, tableOwner⟩
      ⟨1, 2, 4103, 1, .dma32, dataOwner⟩ (bootInput [⟨4096, 8, .writeBack⟩] 8 0 4096 4104) ⟨[8], [0], 7⟩
      0x1000000 :=
    { operational := by decide +kernel
      retainable := by decide +kernel
      manifest := by decide +kernel
      accepted := by decide +kernel
      tables := by decide +kernel
      data := by decide +kernel
      width := by decide +kernel
      tableAddress := by decide +kernel
      dataAddress := by decide +kernel
      originalRoot := by decide +kernel
      tablesMapped := by decide +kernel
      dataMapped := by decide +kernel }
  exact (initialize_maps_one_block plainMemory provided).mpr (by decide)

/-- Ten usable pages below the first GiB and one at its end: two directories, which the topology accepts
and the check of the end points does not. -/
theorem two_blocks_are_refused :
    Provided (bootHost [(4096, 10), (262144, 1)] 9).world.manager ⟨0, 1, 4096, 9, .dma32, tableOwner⟩
        ⟨1, 2, 4105, 1, .dma32, dataOwner⟩
        (bootInput [⟨4096, 10, .writeBack⟩, ⟨262144, 1, .writeBack⟩] 11 258038 4096 262145)
        ⟨[8, 512], [0, 1], 9⟩ 0x1000000 ∧
      ((initializeSpace plainMemory ⟨0, 1, 4096, 9, .dma32, tableOwner⟩ ⟨1, 2, 4105, 1, .dma32, dataOwner⟩
        (bootInput [⟨4096, 10, .writeBack⟩, ⟨262144, 1, .writeBack⟩] 11 258038 4096 262145)).run
          (bootHost [(4096, 10), (262144, 1)] 9)).1 = .error .directMapRange := by
  have provided : Provided (bootHost [(4096, 10), (262144, 1)] 9).world.manager
      ⟨0, 1, 4096, 9, .dma32, tableOwner⟩ ⟨1, 2, 4105, 1, .dma32, dataOwner⟩
      (bootInput [⟨4096, 10, .writeBack⟩, ⟨262144, 1, .writeBack⟩] 11 258038 4096 262145)
      ⟨[8, 512], [0, 1], 9⟩ 0x1000000 :=
    { operational := by decide +kernel
      retainable := by decide +kernel
      manifest := by decide +kernel
      accepted := by decide +kernel
      tables := by decide +kernel
      data := by decide +kernel
      width := by decide +kernel
      tableAddress := by decide +kernel
      dataAddress := by decide +kernel
      originalRoot := by decide +kernel
      tablesMapped := by decide +kernel
      dataMapped := by decide +kernel }
  have span : checkSpan (bootInput [⟨4096, 10, .writeBack⟩, ⟨262144, 1, .writeBack⟩] 11 258038 4096
      262145).manifest = .error .directMapRange := by decide +kernel
  refine ⟨provided, ?_⟩
  rw [provided.run_checks plainMemory, span, run_bind_error _ (run_lift _ _)]

end Initialize

end PooleOS.Active
