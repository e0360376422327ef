import PooleOS.Bootload.Image
import PooleOS.Kmap.Exact

/- The kernel that was loaded is the kernel that is entered: the walk of the processor finds it. -/
namespace PooleOS.Bootload

/-- The walk shows each mapping of the plan where it was loaded, with its permissions, and the entry in code
that cannot be written. -/
structure Runs (plan : Elf.ImagePlan) (walk : Word → Kmap.Outcome Kmap.Translation) : Prop where
  mapped : ∀ index, let mapping := plan.mappings index; ∀ offset < mapping.memorySize, ∃ word : Word,
    word.toNat = plan.physicalBase + (mapping.virtualOffset + offset) ∧
    walk (BitVec.ofNat 64 (plan.virtualBase + (mapping.virtualOffset + offset))) =
      .ok ⟨word, Kmap.pageSize, mapping.permissions.write, mapping.permissions.execute, false, ⟨false, false, false⟩⟩
  entry : ∃ word : Word, word.toNat = plan.entryPhysical ∧ walk (BitVec.ofNat 64 plan.entryVirtual) =
    .ok ⟨word, Kmap.pageSize, false, true, false, ⟨false, false, false⟩⟩

theorem spec_when {ε α : Type} {result : Except ε α} {done : α → Prop} (met : ∀ value, result = .ok value → done value) :
    Spec result done (fun _ => True) := by
  cases result with
  | ok value => exact met value rfl
  | error reason => trivial

/-- A kernel file that is accepted runs: if the boot loader passes its plan and the kernel map is populated,
whatever its tables held, then the walk shows the image where it was loaded. -/
theorem loaded_image_runs (bytes : Bytes) (physicalBase bits : Nat) (addresses : Kmap.TableAddresses)
    (originalRoot : Kmap.Table) (tables : Kmap.Tables) : Spec (Elf.inspect bytes physicalBase virtualBase) (fun plan =>
      Spec (summarize plan) (fun kernel => Spec (mappingRequest kernel bits) (fun request =>
        Op.wp (Kmap.populate request addresses originalRoot) (fun _ after => ∀ reader,
          Kmap.Reads reader addresses Kmap.imageTables originalRoot after →
            Runs plan (Kmap.translate reader addresses.candidateRoot · bits)) (fun _ _ => True) tables)
        (fun _ => True)) (fun _ => True)) (fun _ => True) := by
  refine spec_when fun plan accepted => spec_when fun kernel summarized => spec_when fun request requested => ?_
  obtain ⟨text, code, relro, data, mappings, _, _, _, based, entered, entry⟩ := Elf.inspect_planned accepted
  simp only [summarize, bind_eq_ok_iff, pure_eq_ok] at summarized
  obtain ⟨_, validated, pages, -, rfl⟩ := summarized
  simp only [mappingRequest, demand_bind_eq_ok, pure_eq_ok] at requested
  obtain ⟨-, -, rfl⟩ := requested
  cases summarized : Kmap.requestSummary _ addresses with
  | error stop =>
    unfold Kmap.populate
    rw [summarized]
    trivial
  | ok summary =>
    have accepted := Kmap.spec_requestSummary.of_ok summarized
    refine Op.wp_mono (Kmap.wp_populate accepted summarized) ?_ (fun _ _ _ => trivial)
    rintro _ after ⟨-, -, laid⟩ reader reads
    have walks := (laid.mapsExactly accepted accepted.imageFits accepted.imageFollows).walks reader reads
    obtain ⟨_, placed, -⟩ := bind_eq_ok validated
    simp only [require_eq_ok, not_or, not_le] at placed
    have physical : (BitVec.ofNat 64 plan.physicalBase).toNat = plan.physicalBase :=
      Kmap.ofNat_toNat_of (placed.2.2.1.trans (by decide))
    have slot : (BitVec.ofNat 64 plan.virtualBase).toNat = plan.virtualBase :=
      Kmap.ofNat_toNat_of (based.2 ▸ by decide)
    have active : ∀ index, requestMapping (plan.mappings index) ∈ (List.finRange 4).map (requestMapping ∘ plan.mappings) :=
      fun index => List.mem_map_of_mem (List.mem_finRange index)
    have mapped := fun index offset inside => (walks.mapped _ _ _ ⟨_, active index,
      (plan.mappings index).virtualOffset + offset, ⟨Nat.le_add_right .., Nat.add_lt_add_left inside _⟩, rfl, rfl, rfl⟩).2
    simp only [physical, slot] at mapped
    refine ⟨mapped, ?_⟩
    have code : plan.mappings 1 = ⟨text, code, .readExecute⟩ := by
      rw [mappings]
      rfl
    have walked := mapped 1 (plan.entryOffset - text) (by rw [code]; dsimp only [requestMapping]; omega)
    rw [code, Nat.add_sub_cancel' entered.1, based.1, based.2, ← entry.1, ← entry.2] at walked
    exact walked

theorem sampleKernel_runs : ∃ plan kernel request summary after,
    Elf.inspect sampleKernel Elf.minPhysicalBase virtualBase = .ok plan ∧ summarize plan = .ok kernel ∧
      mappingRequest kernel 36 = .ok request ∧
        (Kmap.populate request sampleTables (fun _ => 0#64)).run (fun _ _ => 1#64) = (.ok summary, after) ∧
          ∀ reader, Kmap.Reads reader sampleTables Kmap.imageTables (fun _ => 0#64) after →
            Runs plan (Kmap.translate reader sampleTables.candidateRoot · 36) := by
  obtain ⟨plan, inspected, kernel, summarized, request, requested, summary, shown, _⟩ := sampleKernel_accepted
  have runs := Spec.of_ok (Spec.of_ok (Spec.of_ok (loaded_image_runs _ _ 36 sampleTables (fun _ => 0#64) (fun _ _ => 1#64))
    inspected) summarized) requested
  have populates := @Kmap.wp_populate _ _ _ (fun _ => 0#64) (fun _ _ => 1#64) (Kmap.spec_requestSummary.of_ok shown) shown
  obtain ⟨_, after, ran, _⟩ := Op.wp_returns populates (fun _ _ taken => taken.1.2 rfl)
  unfold Op.wp at runs
  rw [ran] at runs
  exact ⟨plan, kernel, request, _, after, inspected, summarized, requested, ran, runs⟩

end PooleOS.Bootload
