import PooleOS.Pmm.Ops

/- The manifest of the direct map: the managed pages as ordered ranges, without the
allocations that are excluded from release. -/
namespace PooleOS.Pmm

inductive DirectMapCachePolicy
  | writeBack
deriving DecidableEq, Repr

structure DirectMapRange where
  startPage : Nat
  pageCount : Nat
  cachePolicy : DirectMapCachePolicy
deriving DecidableEq, Repr

/-- `ranges[..range_count]` is the list; the cells behind it are empty. -/
structure DirectMapManifest where
  generation : Nat
  ranges : List DirectMapRange
  mappedPages : Nat
  retainedExcludedPages : Nat
  gapPages : Nat
  firstPage : Nat
  endPage : Nat
  coverageChecksum : Word
deriving DecidableEq, Repr

def DirectMapCachePolicy.code : DirectMapCachePolicy → Nat
  | .writeBack => 0

namespace DirectMapRange

/-- `range.start_page.checked_add(range.page_count)`. -/
def checkedEnd (range : DirectMapRange) : Option Nat :=
  checkedAdd u64Values range.startPage range.pageCount

def endPage (range : DirectMapRange) : Nat := range.startPage + range.pageCount

end DirectMapRange

section Manifest

/-- The candidates so far, and the pages of the excluded allocations. -/
abbrev Candidates : Type := List DirectMapRange × Nat

def pushCandidate (found : Candidates) (startPage pageCount : Nat) : Except Error Candidates := do
  demand (found.1.length ≠ maxDirectMapRanges) .directMapCapacity
  return (found.1 ++ [⟨startPage, pageCount, .writeBack⟩], found.2)

def freeCandidate (found : Candidates) (extent : PageExtent) : Except Error Candidates :=
  pushCandidate found extent.startPage extent.pageCount

def allocationCandidate (found : Candidates) (allocation : Allocation) : Except Error Candidates :=
  if allocation.releaseExcluded = true then do
    let excluded ← orError (checkedAdd u64Values found.2 allocation.pageCount) .addressRange
    return (found.1, excluded)
  else pushCandidate found allocation.startPage allocation.pageCount

/-- The inner loop of the sort: later candidates move up one cell. -/
def insertCandidate (sorted : List DirectMapRange) (value : DirectMapRange) : List DirectMapRange :=
  sorted.rdropWhile (fun other => value.startPage < other.startPage) ++
    value :: sorted.rtakeWhile (fun other => value.startPage < other.startPage)

/-- One candidate joins the last range or opens a new one. -/
def mergeCandidate (ranges : List DirectMapRange) (candidate : DirectMapRange) :
    Except Error (List DirectMapRange) := do
  demand (¬ (candidate.pageCount = 0 ∨ candidate.startPage = 0)) .directMapOwnership
  let candidateEnd ← orError candidate.checkedEnd .addressRange
  match ranges.getLast? with
  | none => return [candidate]
  | some previous => do
      let previousEnd ← orError previous.checkedEnd .addressRange
      demand (¬ candidate.startPage < previousEnd) .directMapOwnership
      if candidate.startPage = previousEnd ∧ candidate.cachePolicy = previous.cachePolicy then do
        demand (previous.startPage ≤ candidateEnd) .addressRange
        return ranges.dropLast ++ [{ previous with pageCount := candidateEnd - previous.startPage }]
      else do
        demand (ranges.length ≠ maxDirectMapRanges) .directMapCapacity
        return ranges ++ [candidate]

/-- Mapped and gap pages, and the range before. -/
structure Coverage where
  mapped : Nat
  gap : Nat
  previous : Option DirectMapRange

def coverRange (tally : Coverage) (range : DirectMapRange) : Except Error Coverage := do
  let mapped ← orError (checkedAdd u64Values tally.mapped range.pageCount) .addressRange
  match tally.previous with
  | none => return ⟨mapped, tally.gap, some range⟩
  | some previous => do
      let previousEnd ← orError previous.checkedEnd .addressRange
      demand (previousEnd ≤ range.startPage) .directMapOwnership
      let gap ← orError (checkedAdd u64Values tally.gap (range.startPage - previousEnd)) .addressRange
      return ⟨mapped, gap, some range⟩

/-- `managed_pages`, added up with overflow checks. -/
def totalManaged (s : Manager) : Option Nat :=
  [s.managedPages .dma, s.managedPages .dma32, s.managedPages .normal].foldlM (checkedAdd u64Values) 0

def coverageChecksum (generation mapped excluded gap first last : Nat) (ranges : List DirectMapRange) : Word :=
  fnvAll fnvOffset ([generation, ranges.length, mapped, excluded, gap, first, last] ++
    ranges.flatMap fun range => [range.startPage, range.pageCount, range.cachePolicy.code])

def directMapManifest (s : Manager) (generation : Nat) : Except Error DirectMapManifest := do
  s.requireOperational
  demand (generation ≠ 0) .directMapOwnership
  let found ← s.free.foldlM freeCandidate ([], 0)
  let found ← (s.allocations.filter (·.active)).foldlM allocationCandidate found
  let sorted := found.1.foldl insertCandidate []
  let ranges ← sorted.foldlM mergeCandidate []
  match ranges.head?, ranges.getLast? with
  | some first, some last => do
      let tally ← ranges.foldlM coverRange ⟨0, 0, none⟩
      let total ← orError (totalManaged s) .directMapOwnership
      demand (found.2 ≤ total) .directMapOwnership
      demand (tally.mapped = total - found.2) .directMapOwnership
      let endPage ← orError last.checkedEnd .addressRange
      return {
        generation := generation
        ranges := ranges
        mappedPages := tally.mapped
        retainedExcludedPages := found.2
        gapPages := tally.gap
        firstPage := first.startPage
        endPage := endPage
        coverageChecksum :=
          coverageChecksum generation tally.mapped found.2 tally.gap first.startPage endPage ranges }
  | _, _ => .error .directMapOwnership

variable {E : Type}

def validateDirectMapManifest (manifest : DirectMapManifest) (generationOwner : AllocationHandle) : M E Unit := do
  validateAllocation generationOwner
  let expected ← Op.lift (directMapManifest (← manager) generationOwner.generation)
  Op.ensure (manifest = expected) .directMapOwnership

end Manifest

section Facts

variable {s : Manager} {generation : Nat} {manifest : DirectMapManifest}

/-- The end points of a manifest are those of its first and last range. -/
theorem directMapManifest_ends (ok : directMapManifest s generation = .ok manifest) :
    ∃ first last, manifest.ranges.head? = some first ∧ manifest.ranges.getLast? = some last ∧
      manifest.firstPage = first.startPage ∧ last.checkedEnd = some manifest.endPage := by
  unfold directMapManifest at ok
  simp only [bind_eq_ok_iff] at ok
  obtain ⟨_, -, _, -, start, -, found, -, ranges, -, rest⟩ := ok
  split at rest
  · rename_i first last head tail
    simp only [bind_eq_ok_iff, orError_eq_ok, pure_eq_ok] at rest
    obtain ⟨tally, -, total, -, _, -, _, -, stop, ends, rfl⟩ := rest
    exact ⟨first, last, head, tail, rfl, ends⟩
  · cases rest

/-- A manifest carries the generation it was made for. -/
theorem directMapManifest_generation (ok : directMapManifest s generation = .ok manifest) :
    manifest.generation = generation := by
  unfold directMapManifest at ok
  simp only [bind_eq_ok_iff] at ok
  obtain ⟨_, -, _, -, start, -, found, -, ranges, -, rest⟩ := ok
  split at rest
  · simp only [bind_eq_ok_iff, pure_eq_ok] at rest
    obtain ⟨_, -, _, -, _, -, _, -, _, -, rfl⟩ := rest
    rfl
  · cases rest

end Facts

end PooleOS.Pmm
