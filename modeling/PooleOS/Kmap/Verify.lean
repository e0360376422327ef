import PooleOS.Kmap.Retained
import PooleOS.Lib.Arrays

/- Verification against population: the tables that pass are the ones that would be
written, entry by entry, and nothing is written before a failure. -/
namespace PooleOS.Kmap

open Op (wp)

variable {request : Request} {addresses : TableAddresses} {retained : RetainedRequest} {names : List TableName}
  {originalRoot : Table} {directory : Nat} {plan : Plan} {tables after : Tables}

/-- Two tables with the same contents are equal. -/
theorem Laid.same (laid : Laid addresses names originalRoot directory plan tables)
    (also : Laid addresses names originalRoot directory plan after) : ∀ name ∈ names, tables name = after name := by
  intro name member
  funext index
  cases name with
  | candidateRoot => exact (laid.root index).trans (also.root index).symm
  | pdpt => exact (laid.pdpt index).trans (also.pdpt index).symm
  | pageDirectory => exact (laid.directory index).trans (also.directory index).symm
  | pageTable => exact (laid.leaves index).trans (also.leaves index).symm
  | retainedPageTable => exact (laid.blank member index).trans (also.blank member index).symm

theorem Laid.congr (laid : Laid addresses names originalRoot directory plan after)
    (same : ∀ name ∈ names, tables name = after name) : Laid addresses names originalRoot directory plan tables := by
  have image : ∀ name ∈ imageTables, tables name = after name := fun name member => same name (laid.written name member)
  refine ⟨laid.written, fun index => ?_, fun index => ?_, fun index => ?_, fun index => ?_, fun member index => ?_⟩
  · rw [image .candidateRoot (by decide)]
    exact laid.root index
  · rw [image .pdpt (by decide)]
    exact laid.pdpt index
  · rw [image .pageDirectory (by decide)]
    exact laid.directory index
  · rw [image .pageTable (by decide)]
    exact laid.leaves index
  · rw [same _ member]
    exact laid.blank member index

section Loops

/-- A loop over the entries of a table. -/
theorem entries_eq_ok {body : Fin 512 → Outcome Unit} {done : Unit} :
    (List.finRange 512).forM body = .ok done ↔ ∀ index, body index = .ok () := by
  rw [forM_eq_ok]
  exact ⟨fun all index => all index (List.mem_finRange index), fun all index _ => all index⟩

theorem verifyRoot_eq_ok {rootIndex : Nat} {root : Table} : verifyRoot addresses originalRoot rootIndex root = .ok () ↔
      ∀ index, root index = expectedRoot addresses originalRoot rootIndex index := by
  unfold verifyRoot
  simp only [entries_eq_ok, require_eq_ok]

theorem verifyParents_eq_ok {summary : Summary} : verifyParents addresses summary tables = .ok () ↔ ∀ index,
    tables .pdpt index = expectedParent summary.pdptIndex addresses.pageDirectory index ∧
      tables .pageDirectory index = expectedParent summary.pageDirectoryIndex addresses.pageTable index := by
  unfold verifyParents
  simp only [entries_eq_ok, unit_bind_eq_ok, require_eq_ok]

theorem verifyLeaves_ok {summary : Summary} (accepted : Accepted request addresses summary)
    (ok : verifyLeaves request summary.firstPageTableIndex (tables .pageTable) = .ok ()) (index : Fin 512) :
    tables .pageTable index = planEntry (imagePlan request index.val) := by
  unfold verifyLeaves at ok
  rw [entries_eq_ok] at ok
  have checked := ok index
  simp only [accepted.leaf, Nat.zero_le, true_and, Nat.zero_add, Nat.sub_zero] at checked
  split at checked
  · rename_i inside
    rw [accepted.imageLeaf inside, ok_bind] at checked
    exact require_eq_ok.mp checked
  · rename_i outside
    rw [imagePlan_eq_none (Nat.le_of_not_lt outside)]
    exact require_eq_ok.mp checked

end Loops

section Image

variable {summary : Summary}

/-- What passes `verify` holds the image. -/
theorem verify_ok (accepted : Accepted request addresses summary)
    (summarized : requestSummary request addresses = .ok summary) {result : Summary}
    (ok : verify request addresses originalRoot tables = .ok result) : result = summary ∧ originalRoot 511 = 0#64 ∧
      Laid addresses imageTables originalRoot summary.pageDirectoryIndex (imagePlan request) tables := by
  have entry : entryAt originalRoot summary.pml4Index = .ok (originalRoot 511) := by
    rw [accepted.root]
    rfl
  unfold verify at ok
  rw [summarized, ok_bind] at ok
  simp only [entry, ok_bind, unit_bind_eq_ok, require_eq_ok, pure_eq_ok] at ok
  obtain ⟨vacant, root, parents, leaves, same⟩ := ok
  rw [accepted.root, verifyRoot_eq_ok] at root
  rw [verifyParents_eq_ok, accepted.pdpt] at parents
  refine ⟨same, vacant, fun _ member => member, root, fun index => (parents index).1, fun index => ?_,
    verifyLeaves_ok accepted leaves, fun never => absurd never (by decide)⟩
  exact (parents index).2

end Image

section Retained

variable {summary : RetainedSummary}

theorem verifyRetainedParents_eq_ok {pdptTarget directoryTarget : Nat} :
    verifyRetainedParents addresses pdptTarget directoryTarget tables = .ok () ↔ ∀ index,
      tables .pdpt index = expectedParent pdptTarget addresses.pageDirectory index ∧
        tables .pageDirectory index = expectedDirectory addresses directoryTarget index := by
  unfold verifyRetainedParents
  simp only [entries_eq_ok, require_eq_ok, not_or, not_not, ne_eq]

theorem verifyRetainedLeaves_ok (fine : RetainedAccepted request addresses retained summary)
    (ok : verifyRetainedLeaves request retained tables = .ok ()) (index : Fin 512) :
    tables .pageTable index = planEntry (retainedPlan request retained index.val) ∧
      tables .retainedPageTable index = 0#64 := by
  obtain ⟨guardLow, stackFirst, stackPages, guardHigh, handoffFirst, handoffPages, unit, entries, capacity⟩ :=
    window_pages
  have few := fine.pages
  unfold verifyRetainedLeaves at ok
  simp only [unit_bind_eq_ok, entries_eq_ok, fine.leaf, ok_bind, require_eq_ok] at ok
  refine ⟨ok.1 index, (ok.2 index).trans ?_⟩
  rw [retainedPlan_other (by omega) (by omega), imagePlan_eq_none (by omega)]
  rfl

/-- What passes `verify_retained` holds the image, the stack and the handoff. -/
theorem verifyRetained_ok (fine : RetainedAccepted request addresses retained summary)
    (summarized : retainedSummary request addresses retained = .ok summary) {result : RetainedSummary}
    (ok : verifyRetained request retained addresses originalRoot tables = .ok result) :
    result = summary ∧ originalRoot 511 = 0#64 ∧ Laid addresses retainedTables originalRoot
      summary.kernel.pageDirectoryIndex (retainedPlan request retained) tables := by
  have entry : entryAt originalRoot summary.kernel.pml4Index = .ok (originalRoot 511) := by
    rw [fine.accepted.root]
    rfl
  unfold verifyRetained at ok
  rw [summarized, ok_bind] at ok
  simp only [entry, ok_bind, unit_bind_eq_ok, require_eq_ok, pure_eq_ok] at ok
  obtain ⟨vacant, root, parents, leaves, same⟩ := ok
  rw [fine.accepted.root, verifyRoot_eq_ok] at root
  rw [verifyRetainedParents_eq_ok, fine.accepted.pdpt] at parents
  have known := verifyRetainedLeaves_ok fine leaves
  refine ⟨same, vacant, fun name member => List.mem_append_left _ member, root, fun index => (parents index).1,
    fun index => ?_, fun index => (known index).1, fun _ index => (known index).2⟩
  exact (parents index).2

end Retained

section Agreement

variable {β : Type} {method : M β} {check : Tables → Outcome β} {value result : β}

/-- The method writes these tables, or the slot of the root is taken and it writes nothing. -/
def Writes (addresses : TableAddresses) (names : List TableName) (originalRoot : Table) (directory : Nat)
    (plan : Plan) (method : M β) (value : β) : Prop :=
  ∀ start, wp method (fun result after => result = value ∧ originalRoot 511 = 0#64 ∧
      Laid addresses names originalRoot directory plan after)
    (fun stop after => (stop = .refused .rootSlotOccupied ∧ originalRoot 511 ≠ 0#64) ∧ after = start) start

/-- A check of the same tables accepts what the method would write. -/
theorem Writes.iff (writes : Writes addresses names originalRoot directory plan method value)
    (sound : check tables = .ok result → result = value ∧ originalRoot 511 = 0#64 ∧
      Laid addresses names originalRoot directory plan tables)
    (complete : originalRoot 511 = 0#64 → Laid addresses names originalRoot directory plan tables →
      check tables = .ok value) : check tables = .ok result ↔
    ∀ start, ∃ after, method.run start = (.ok result, after) ∧ ∀ name ∈ names, tables name = after name := by
  constructor
  · intro checked start
    obtain ⟨rfl, vacant, laid⟩ := sound checked
    obtain ⟨_, after, ran, rfl, _, also⟩ := Op.wp_returns (writes start) (fun _ _ failed => failed.1.2 vacant)
    exact ⟨after, ran, laid.same also⟩
  · intro wrote
    obtain ⟨after, ran, same⟩ := wrote tables
    have known := writes tables
    unfold wp at known
    rw [ran] at known
    obtain ⟨rfl, vacant, laid⟩ := known
    exact complete vacant (laid.congr same)

theorem Writes.failed (writes : Writes addresses names originalRoot directory plan method value) {start : Tables}
    {stop : Stop} (ran : method.run start = (.error stop, after)) : after = start := by
  have known := writes start
  unfold wp at known
  rw [ran] at known
  exact known.2

/-- A request that both refuse. -/
theorem refused_iff {stop : Stop} (refuses : check tables = .error stop)
    (stops : ∀ start, method.run start = (.error stop, start)) : check tables = .ok result ↔
    ∀ start, ∃ after, method.run start = (.ok result, after) ∧ ∀ name ∈ names, tables name = after name := by
  rw [refuses]
  refine ⟨nofun, fun wrote => ?_⟩
  obtain ⟨after, ran, _⟩ := wrote tables
  rw [stops] at ran
  exact nomatch congrArg Prod.fst ran

theorem refused_failed {stop stop' : Stop} {start : Tables} (stops : method.run start = (.error stop, start))
    (ran : method.run start = (.error stop', after)) : after = start :=
  (congrArg Prod.snd (stops.symm.trans ran)).symm

end Agreement

/-- Verification accepts exactly the tables that population would write, and population writes nothing before
it fails. -/
theorem verification_matches_population (request : Request) (retained : RetainedRequest) (addresses : TableAddresses)
    (originalRoot : Table) :
    ((∀ tables result, verify request addresses originalRoot tables = .ok result ↔ ∀ start, ∃ after,
        (populate request addresses originalRoot).run start = (.ok result, after) ∧
          ∀ name ∈ imageTables, tables name = after name) ∧
      ∀ start stop after, (populate request addresses originalRoot).run start = (.error stop, after) → after = start) ∧
    (∀ tables result, verifyRetained request retained addresses originalRoot tables = .ok result ↔ ∀ start, ∃ after,
        (populateRetained request retained addresses originalRoot).run start = (.ok result, after) ∧
          ∀ name ∈ retainedTables, tables name = after name) ∧
      ∀ start stop after, (populateRetained request retained addresses originalRoot).run start = (.error stop, after) →
        after = start := by
  constructor
  · cases summarized : requestSummary request addresses with
    | error stop =>
      have stops : ∀ start, (populate request addresses originalRoot).run start = (.error stop, start) := by
        intro start
        unfold populate
        rw [summarized]
        rfl
      refine ⟨fun tables result => refused_iff ?_ stops, fun start _ after => refused_failed (stops start)⟩
      unfold verify
      rw [summarized]
      rfl
    | ok summary =>
      have accepted := spec_requestSummary.of_ok summarized
      have writes : Writes addresses imageTables originalRoot summary.pageDirectoryIndex (imagePlan request)
          (populate request addresses originalRoot) summary := fun _ => wp_populate accepted summarized
      exact ⟨fun tables result => writes.iff (verify_ok accepted summarized)
        (fun vacant laid => laid.verify accepted summarized vacant), fun _ _ _ ran => writes.failed ran⟩
  · cases summarized : retainedSummary request addresses retained with
    | error stop =>
      have stops : ∀ start, (populateRetained request retained addresses originalRoot).run start =
          (.error stop, start) := by
        intro start
        unfold populateRetained
        rw [summarized]
        rfl
      refine ⟨fun tables result => refused_iff ?_ stops, fun start _ after => refused_failed (stops start)⟩
      unfold verifyRetained
      rw [summarized]
      rfl
    | ok summary =>
      have fine := spec_retainedSummary.of_ok summarized
      have writes : Writes addresses retainedTables originalRoot summary.kernel.pageDirectoryIndex
          (retainedPlan request retained) (populateRetained request retained addresses originalRoot) summary :=
        fun _ => wp_populateRetained fine summarized
      exact ⟨fun tables result => writes.iff (verifyRetained_ok fine summarized)
        (fun vacant laid => laid.verifyRetained fine summarized vacant), fun _ _ _ ran => writes.failed ran⟩

end PooleOS.Kmap
