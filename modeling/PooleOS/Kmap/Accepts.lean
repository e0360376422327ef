import PooleOS.Kmap.Checks
import PooleOS.Lib.Arrays

/- When a request is accepted: the converse of what the checks guarantee. -/
namespace PooleOS.Kmap

variable {request : Request} {addresses : TableAddresses} {mapping : Mapping} {mappings : List Mapping} {last : Nat}

theorem minVirtualBase_toNat : minVirtualBase.toNat = 18446744071562067968 := rfl

theorem maxVirtualExclusive_toNat : maxVirtualExclusive.toNat = 18446744072635809792 := rfl

/-- A word with a sum as its value. -/
theorem ofNat_toNat_of {value : Nat} (small : value < u64Values) : (BitVec.ofNat 64 value).toNat = value := by
  exact Nat.mod_eq_of_lt small

theorem checkPlacement_ok (well : PlacedWell request) (nonempty : 0 < request.imageBytes)
    (counted : 0 < request.mappingCount ∧ request.mappingCount ≤ maxMappings)
    (entered : request.virtualBase.toNat ≤ request.entryVirtual.toNat ∧
      request.entryVirtual.toNat < request.virtualBase.toNat + request.imageBytes) (width : Width request.physicalAddressBits) :
    ∃ virtualEnd, checkPlacement request = .ok virtualEnd := by
  obtain ⟨nonzero, aligned, fits, above, below, window, small, pages⟩ := well
  have unit : pageSize = 4096 := rfl
  have slot : windowBytes = 2097152 := rfl
  have wide := word_sizes.2
  have narrow : 2 ^ request.physicalAddressBits ≤ 2 ^ 52 := Nat.pow_le_pow_right (by decide) width.2
  have above' := above
  have below' := below
  rw [minVirtualBase_toNat] at above'
  rw [maxVirtualExclusive_toNat] at below'
  have total : (BitVec.ofNat 64 (request.virtualBase.toNat + request.imageBytes - 1)).toNat =
      request.virtualBase.toNat + request.imageBytes - 1 := ofNat_toNat_of (by omega)
  have canonical : isCanonical48 request.virtualBase = true := isCanonical48_iff.mpr (.inr (by omega))
  have canonicalEnd : isCanonical48 (BitVec.ofNat 64 (request.virtualBase.toNat + request.imageBytes - 1)) = true :=
    isCanonical48_iff.mpr (.inr (by omega))
  have directory : pageDirectoryIndex request.virtualBase =
      pageDirectoryIndex (BitVec.ofNat 64 (request.virtualBase.toNat + request.imageBytes - 1)) := by
    rw [pageDirectoryIndex_eq, pageDirectoryIndex_eq, total]
    omega
  refine ⟨request.virtualBase.toNat + request.imageBytes, ?_⟩
  unfold checkPlacement rangeEnd
  rw [require_of (by simp [nonzero, low_pageSize_eq_zero, aligned]), ok_bind, addOr_of (by omega), ok_bind,
    require_of (by omega), ok_bind, require_of (by simp [low_windowBytes_eq_zero, window, canonical]; omega), ok_bind,
    require_of (by simp [MultipleOf, unit, slot]; omega), ok_bind, require_of (by rw [unit]; omega), ok_bind,
    addOr_of (by omega), ok_bind, require_of (by simp [canonicalEnd, directory, maxVirtualExclusive_toNat]; omega), ok_bind,
    require_of (by omega), ok_bind, require_of (by omega), ok_bind]
  rfl

/-- One round of the loop over the mappings passes. -/
theorem checkMapping_ok {tally : Tally} (aligned : tally.expectedOffset % 4096 = 0)
    (follows : mapping.virtualOffset = tally.expectedOffset ∧ 0 < mapping.byteCount ∧ mapping.byteCount % 4096 = 0 ∧
      ¬ (mapping.permissions.write = true ∧ mapping.permissions.execute = true))
    (readable : mapping.permissions.read = true) (inside : tally.expectedOffset + mapping.byteCount ≤ request.imageBytes)
    (small : request.virtualBase.toNat + request.imageBytes < u64Values ∧ request.imageBytes < u32Values) :
    ∃ after, checkMapping request tally mapping = .ok after ∧
      after.expectedOffset = tally.expectedOffset + mapping.byteCount ∧
      (after.entryExecutable = true ↔ tally.entryExecutable = true ∨ (mapping.permissions.execute = true ∧
        request.virtualBase.toNat + mapping.virtualOffset ≤ request.entryVirtual.toNat ∧
        request.entryVirtual.toNat < request.virtualBase.toNat + (mapping.virtualOffset + mapping.byteCount))) := by
  obtain ⟨start, nonempty, whole, safe⟩ := follows
  have unit : pageSize = 4096 := rfl
  unfold checkMapping
  rw [require_of (by simp [MultipleOf, unit]; omega), ok_bind, require_of start, ok_bind, require_of readable, ok_bind,
    require_of safe, ok_bind, addOr_of (by omega), ok_bind, require_of (by omega), ok_bind, addOr_of (by omega), ok_bind,
    addOr_of (by omega), ok_bind]
  dsimp only
  rw [unit, require_of (by omega), ok_bind]
  refine ⟨_, rfl, rfl, ?_⟩
  rw [Bool.or_eq_true, decide_eq_true_iff, start]
  exact or_congr_right ⟨fun both => ⟨both.2.2, both.1, both.2.1⟩, fun both => ⟨both.2.1, both.2.2, both.1⟩⟩

/-- The loop over mappings that follow each other passes, and finds the entry in an executable one. -/
theorem checkMappings_ok {tally : Tally} (aligned : tally.expectedOffset % 4096 = 0)
    (chain : Chain tally.expectedOffset last mappings) (readable : ∀ mapping ∈ mappings, mapping.permissions.read = true)
    (inside : last ≤ request.imageBytes)
    (small : request.virtualBase.toNat + request.imageBytes < u64Values ∧ request.imageBytes < u32Values) :
    ∃ after, mappings.foldlM (checkMapping request) tally = .ok after ∧ after.expectedOffset = last ∧
      ((tally.entryExecutable = true ∨ ∃ mapping ∈ mappings, mapping.permissions.execute = true ∧
        request.virtualBase.toNat + mapping.virtualOffset ≤ request.entryVirtual.toNat ∧
        request.entryVirtual.toNat < request.virtualBase.toNat + (mapping.virtualOffset + mapping.byteCount)) →
          after.entryExecutable = true) := by
  induction mappings generalizing tally with
  | nil => exact ⟨tally, rfl, chain, fun entered => entered.resolve_right nofun⟩
  | cons mapping rest ih =>
    obtain ⟨follows, later⟩ := chain
    obtain ⟨readable, others⟩ := List.forall_mem_cons.mp readable
    have reach := later.le
    obtain ⟨next, checked, offset, entered⟩ := @checkMapping_ok request mapping tally aligned follows readable
      (by omega) small
    rw [← offset] at later
    obtain ⟨after, ran, final, found⟩ := ih (by omega) later others
    refine ⟨after, ?_, final, fun before => found ?_⟩
    · rw [List.foldlM_cons, checked]
      exact ran
    · rcases before with already | ⟨other, member, holds⟩
      · exact .inl (entered.mpr (.inl already))
      · rcases List.mem_cons.mp member with rfl | behind
        · exact .inl (entered.mpr (.inr holds))
        · exact .inr ⟨other, behind, holds⟩

/-- A request with well placed addresses, and mappings that cover the image and have the entry in an
executable one, is accepted with all table addresses that pass. -/
theorem requestSummary_ok (well : PlacedWell request) (nonempty : 0 < request.imageBytes)
    (width : Width request.physicalAddressBits)
    (counted : 0 < request.mappingCount ∧ request.mappingCount ≤ maxMappings)
    (chain : Chain 0 request.imageBytes request.active)
    (readable : ∀ mapping ∈ request.active, mapping.permissions.read = true)
    (entered : ∃ mapping ∈ request.active, mapping.permissions.execute = true ∧
      request.virtualBase.toNat + mapping.virtualOffset ≤ request.entryVirtual.toNat ∧
      request.entryVirtual.toNat < request.virtualBase.toNat + (mapping.virtualOffset + mapping.byteCount))
    (tabled : checkTables request addresses (maskOf request.physicalAddressBits) = .ok ()) :
    ∃ summary, requestSummary request addresses = .ok summary := by
  have below := well.below
  have small := well.small
  obtain ⟨narrow, wide⟩ := word_sizes
  rw [maxVirtualExclusive_toNat] at below
  obtain ⟨mapping, member, executes, after, before⟩ := entered
  obtain ⟨_, bound⟩ := @Chain.bounds mapping _ 0 request.imageBytes (request.entryVirtual.toNat - request.virtualBase.toNat)
    chain member ⟨by omega, by omega⟩
  obtain ⟨virtualEnd, placed⟩ := checkPlacement_ok well nonempty counted ⟨by omega, by omega⟩ width
  obtain ⟨tally, ran, reached, found⟩ := @checkMappings_ok request request.active request.imageBytes
    ⟨0, false, 0, 0, 0, 0, fnvOffset⟩ rfl chain readable le_rfl ⟨by omega, by omega⟩
  have executable := found (.inr ⟨mapping, member, executes, after, before⟩)
  have masked : physicalMask request.physicalAddressBits = .ok (maskOf request.physicalAddressBits) := by
    obtain ⟨low, high⟩ := width
    unfold physicalMask
    rw [require_of ⟨low, high⟩, ok_bind]
    rfl
  unfold requestSummary
  rw [masked, ok_bind, placed, ok_bind, tabled, ok_bind, ran, ok_bind, require_of reached, ok_bind,
    require_of executable, ok_bind]
  exact ⟨_, rfl⟩

end PooleOS.Kmap
