import PooleOS.Paging.Lifetimes

/- A release that fails. It writes zero over every entry of the four tables before the
memory finishes and the manager takes the pages back, and nothing writes the old entries
again: a failure can be ignored when no write before it met an entry in use. -/
namespace PooleOS.Paging

open List Op Nat


section Loops

variable {σ ε ι κ : Type} {done : Unit → σ → Prop} {failed : ε → σ → Prop}

theorem wp_forEach_append {body : ι → Op σ ε Unit} (front back : List ι) (s : σ) :
    wp (forEach (front ++ back) body) done failed s ↔
      wp (forEach front body) (fun _ => wp (forEach back body) done failed) failed s := by
  induction front generalizing s with
  | nil => rfl
  | cons item rest ih =>
    simp only [cons_append, forEach, wp_bind]
    exact iff_of_eq (congrArg (fun next => wp (body item) next failed s)
      (funext fun _ => funext fun s' => propext (ih s')))

theorem wp_forEach_map {body : κ → Op σ ε Unit} (change : ι → κ) (items : List ι) (s : σ) :
    wp (forEach (items.map change) body) done failed s ↔
      wp (forEach items (fun item => body (change item))) done failed s := by
  induction items generalizing s with
  | nil => rfl
  | cons item rest ih =>
    simp only [map_cons, forEach, wp_bind]
    exact iff_of_eq (congrArg (fun next => wp (body (change item)) next failed s)
      (funext fun _ => funext fun s' => propext (ih s')))

/-- A loop in a loop goes over the pairs. -/
theorem wp_forEach_pairs {body : ι → κ → Op σ ε Unit} (items : List ι) (others : List κ) (s : σ) :
    wp (forEach items (fun item => forEach others (body item))) done failed s ↔
      wp (forEach (items ×ˢ others) (fun pair => body pair.1 pair.2)) done failed s := by
  induction items generalizing s with
  | nil => rfl
  | cons item rest ih =>
    rw [product_cons, wp_forEach_append, wp_forEach_map, forEach, wp_bind]
    exact iff_of_eq (congrArg (fun next => wp (forEach others (body item)) next failed s)
      (funext fun _ => funext fun s' => propext (ih s')))

end Loops

section Writes

/-- The entries that a release writes, in order. -/
@[irreducible] def releaseCells : List (Fin 4 × Nat) := List.finRange 4 ×ˢ List.range tableEntries

/-- How the call of this number among those to come behaves. -/
def Memory.answer (memory : Memory) (call : Nat) : Fault := memory.faults.getD call .none

/-- The next calls all succeed. -/
def Memory.Answers (memory : Memory) (calls : Nat) : Prop :=
  ∀ call < calls, (memory.answer call).succeeds = true

/-- Up to the first call that fails, the writes of zero reach only entries that hold zero. -/
def Harmless (tables : Fin 4 → Word) (memory : Memory) (cells : List (Fin 4 × Nat)) : Prop :=
  ∀ call cell, cells[call]? = some cell → memory.Answers call → (memory.answer call).applied = true →
    memory.entries (tables cell.1) cell.2 = 0#64

/-- The entries are kept or zeroed. -/
def Lowered (memory memory' : Memory) : Prop :=
  ∀ table index, memory'.entries table index = memory.entries table index ∨ memory'.entries table index = 0#64

variable {memory memory₁ memory' : Memory} {tables : Fin 4 → Word} {cell : Fin 4 × Nat}
  {cells : List (Fin 4 × Nat)}

/-- The memory after a write of zero. -/
def Memory.zero (memory : Memory) (table : Word) (index : Nat) : Memory :=
  (if memory.fault.applied then memory.write table index 0#64 else memory).next

theorem wp_writeZero {table : Word} {index : Nat} {done : Unit → Memory → Prop} {failed : Error → Memory → Prop}
    (pass : memory.fault.succeeds = true → done () (memory.zero table index))
    (stop : ¬ memory.fault.succeeds = true → failed memory.fault.reason (memory.zero table index)) :
    wp (writeEntry table index 0#64) done failed memory := by
  by_cases succeeds : memory.fault.succeeds = true
  · have ran : (writeEntry table index 0#64).run memory = (.ok (), memory.zero table index) := by
      unfold writeEntry
      dsimp only
      rw [if_pos succeeds]
      rfl
    unfold wp
    rw [ran]
    exact pass succeeds
  · have ran : (writeEntry table index 0#64).run memory =
        (.error memory.fault.reason, memory.zero table index) := by
      unfold writeEntry
      dsimp only
      rw [if_neg succeeds]
      rfl
    unfold wp
    rw [ran]
    exact stop succeeds

theorem wp_finishMemory {done : Unit → Memory → Prop} {failed : Error → Memory → Prop}
    (pass : memory.fault.succeeds = true → done () memory.next)
    (stop : ¬ memory.fault.succeeds = true → failed memory.fault.reason memory.next) :
    wp finishMemory done failed memory := by
  unfold wp finishMemory
  by_cases succeeds : memory.fault.succeeds = true
  · simp only [succeeds, if_true]
    exact pass succeeds
  · simp only [succeeds]
    exact stop succeeds

theorem answer_zero (memory : Memory) (table : Word) (index call : Nat) :
    (memory.zero table index).answer call = memory.answer (call + 1) := by
  have faults : (memory.zero table index).faults = memory.faults.tail := by
    unfold Memory.zero
    split <;> rfl
  unfold Memory.answer
  rw [faults]
  cases memory.faults <;> rfl

theorem answer_first (memory : Memory) : memory.answer 0 = memory.fault := by
  unfold Memory.answer Memory.fault
  cases memory.faults <;> rfl

theorem lowered_zero (memory : Memory) (table : Word) (index : Nat) : Lowered memory (memory.zero table index) := by
  intro other place
  unfold Memory.zero
  split
  · by_cases here : other = table ∧ place = index
    · exact .inr (if_pos here)
    · exact .inl (if_neg here)
  · exact .inl rfl

theorem zero_same_iff (memory : Memory) (table : Word) (index : Nat) :
    (memory.zero table index).entries = memory.entries ↔
      (memory.fault.applied = true → memory.entries table index = 0#64) := by
  unfold Memory.zero
  split
  · rename_i applied
    constructor
    · intro same _
      rw [← congrFun (congrFun same table) index]
      exact if_pos ⟨rfl, rfl⟩
    · intro blank
      funext other place
      by_cases here : other = table ∧ place = index
      · obtain ⟨rfl, rfl⟩ := here
        exact (if_pos ⟨rfl, rfl⟩).trans (blank applied).symm
      · exact if_neg here
  · rename_i lost
    exact ⟨fun _ applied => absurd applied lost, fun _ => rfl⟩

/-- What is zeroed stays zeroed. -/
theorem Lowered.same_iff (first : Lowered memory memory₁) (second : Lowered memory₁ memory') :
    memory'.entries = memory.entries ↔ memory₁.entries = memory.entries ∧ memory'.entries = memory₁.entries := by
  constructor
  · intro same
    have kept : memory₁.entries = memory.entries := by
      funext table index
      rcases first table index with kept | zero
      · exact kept
      · rcases second table index with kept | blank
        · rw [← kept, same]
        · rw [zero, ← blank, same]
    exact ⟨kept, same.trans kept.symm⟩
  · rintro ⟨kept, same⟩
    exact same.trans kept

theorem Lowered.trans (first : Lowered memory memory₁) (second : Lowered memory₁ memory') : Lowered memory memory' := by
  intro table index
  rcases second table index with kept | blank
  · rw [kept]
    exact first table index
  · exact .inr blank

theorem answers_succ (table : Word) (index calls : Nat) : memory.Answers (calls + 1) ↔
    memory.fault.succeeds = true ∧ (memory.zero table index).Answers calls := by
  rw [← answer_first]
  constructor
  · intro all
    refine ⟨all 0 (zero_lt_succ _), fun call less => ?_⟩
    rw [answer_zero]
    exact all (call + 1) (succ_lt_succ less)
  · rintro ⟨first, rest⟩ call less
    cases call with
    | zero => exact first
    | succ call =>
      rw [← answer_zero memory table index]
      exact rest call (lt_of_succ_lt_succ less)

/-- The first write, and the rest when it succeeds. -/
theorem harmless_cons : Harmless tables memory (cell :: cells) ↔
    (memory.zero (tables cell.1) cell.2).entries = memory.entries ∧
      (memory.fault.succeeds = true → Harmless tables (memory.zero (tables cell.1) cell.2) cells) := by
  rw [zero_same_iff]
  constructor
  · intro harmless
    have first : memory.fault.applied = true → memory.entries (tables cell.1) cell.2 = 0#64 := by
      rw [← answer_first]
      exact harmless 0 cell rfl (fun _ less => absurd less (not_lt_zero _))
    refine ⟨first, fun succeeds call other place answers applied => ?_⟩
    rw [(zero_same_iff _ _ _).mpr first]
    rw [answer_zero] at applied
    exact harmless (call + 1) other place ((answers_succ _ _ _).mpr ⟨succeeds, answers⟩) applied
  · rintro ⟨first, rest⟩ call other place answers applied
    cases call with
    | zero =>
      obtain rfl := Option.some.inj place
      rw [answer_first] at applied
      exact first applied
    | succ call =>
      obtain ⟨succeeds, later⟩ := (answers_succ (tables cell.1) cell.2 call).mp answers
      rw [← answer_zero memory (tables cell.1) cell.2] at applied
      rw [← (zero_same_iff _ _ _).mpr first]
      exact rest succeeds call other place later applied

/-- The entries and the records are as before. -/
structure Untouched (machine machine' : Machine) : Prop where
  entries : machine'.memory.entries = machine.memory.entries
  space : machine'.space = machine.space
  log : machine'.log = machine.log

/-- The writes of a release, done or stopped by a call that fails. -/
structure Zeroing (tables : Fin 4 → Word) (cells : List (Fin 4 × Nat)) (machine machine' : Machine) : Prop where
  space : machine'.space = machine.space
  log : machine'.log = machine.log
  lowered : Lowered machine.memory machine'.memory
  same : machine'.memory.entries = machine.memory.entries ↔ Harmless tables machine.memory cells

theorem wp_zeroCells (tables : Fin 4 → Word) (cells : List (Fin 4 × Nat)) (machine : Machine) :
    wp (forEach cells (fun cell => onMemory (writeEntry (tables cell.1) cell.2 0#64)))
      (fun _ after => Zeroing tables cells machine after ∧ machine.memory.Answers cells.length ∧
        after.memory.answer 0 = machine.memory.answer cells.length)
      (fun _ after => Zeroing tables cells machine after ∧ ¬ machine.memory.Answers cells.length) machine := by
  induction cells generalizing machine with
  | nil =>
    refine ⟨⟨rfl, rfl, fun _ _ => .inl rfl, ?_⟩, ?_, rfl⟩
    · refine ⟨fun _ _ _ place => ?_, fun _ => rfl⟩
      exact nomatch place
    · exact fun _ less => absurd less (not_lt_zero _)
  | cons cell rest ih =>
    have first := lowered_zero machine.memory (tables cell.1) cell.2
    rw [forEach, wp_bind, wp_onMemory]
    refine wp_writeZero (fun succeeds => ?_) (fun stops => ?_)
    · refine wp_mono (ih _) (fun _ after both => ?_) (fun _ after both => ?_)
      · obtain ⟨⟨space, log, lowered, same⟩, answers, next⟩ := both
        refine ⟨⟨space, log, first.trans lowered, ?_⟩, ?_, ?_⟩
        · rw [first.same_iff lowered, same, harmless_cons]
          exact and_congr_right fun _ => ⟨fun harmless _ => harmless, fun harmless => harmless succeeds⟩
        · exact (answers_succ _ _ _).mpr ⟨succeeds, answers⟩
        · exact next.trans (answer_zero _ _ _ _)
      · obtain ⟨⟨space, log, lowered, same⟩, stopped⟩ := both
        refine ⟨⟨space, log, first.trans lowered, ?_⟩, ?_⟩
        · rw [first.same_iff lowered, same, harmless_cons]
          exact and_congr_right fun _ => ⟨fun harmless _ => harmless, fun harmless => harmless succeeds⟩
        · exact fun answers => stopped ((answers_succ _ _ _).mp answers).2
    · refine ⟨⟨rfl, rfl, first, ?_⟩, fun answers => stops ?_⟩
      · rw [harmless_cons]
        exact ⟨fun same => ⟨same, fun fine => absurd fine stops⟩, fun both => both.1⟩
      · exact ((answers_succ (tables cell.1) cell.2 _).mp answers).1

theorem wp_zeroTables (tables : Fin 4 → Word) (levels : List (Fin 4)) (indices : List Nat) (machine : Machine) :
    wp (forEach levels (fun level =>
      forEach indices (fun index => onMemory (writeEntry (tables level) index 0#64))))
      (fun _ after => Zeroing tables (levels ×ˢ indices) machine after ∧
        machine.memory.Answers (levels ×ˢ indices).length ∧
        after.memory.answer 0 = machine.memory.answer (levels ×ˢ indices).length)
      (fun _ after => Zeroing tables (levels ×ˢ indices) machine after ∧
        ¬ machine.memory.Answers (levels ×ˢ indices).length) machine :=
  (wp_forEach_pairs levels indices machine).mpr (wp_zeroCells tables (levels ×ˢ indices) machine)

end Writes

section Release

variable {machine after : Machine}

/-- Nothing is mapped, bound or waiting. -/
structure Vacant (space : Space) : Prop where
  mappings : ∀ cell, space.mappings cell = none
  frames : ∀ cell, space.frames cell = none
  pending : ∀ cell, space.pending cell = none

/-- Every call of a release succeeds: the writes, `finish` and `manager.free`. -/
def ReleaseWorks (memory : Memory) (frees : Bool) : Prop :=
  memory.Answers (releaseCells.length + 1) ∧ frees = true

/-- What a release that fails has done. -/
structure ReleaseFails (frees : Bool) (machine after : Machine) : Prop where
  inactive : machine.space.active = false
  unreleased : machine.space.released = false
  stops : ¬ ReleaseWorks machine.memory frees
  zeroing : Zeroing machine.space.tables releaseCells machine after

theorem release_cases (vacant : Vacant machine.space) (frees : Bool) :
    wp (release frees) (fun _ _ => ReleaseWorks machine.memory frees)
      (fun _ after => (machine.space.active = true ∨ machine.space.released = true) ∧ after = machine ∨
        ReleaseFails frees machine after) machine := by
  unfold release
  simp only [wp_bind, wp_read]
  refine wp_ensure_intro (fun idle => ?_) (fun busy => .inl ⟨?_, rfl⟩)
  · generalize range : range tableEntries = indices
    have cells : releaseCells = finRange 4 ×ˢ indices := by
      unfold releaseCells
      rw [range]
    have zeroes := wp_zeroTables machine.space.tables (finRange 4) indices machine
    rw [← cells] at zeroes
    refine wp_mono zeroes (fun _ cleared both => ?_)
      (fun _ cleared both => .inr ⟨idle.1, idle.2.1, fun works => both.2 ?_, both.1⟩)
    · obtain ⟨zeroing, answers, next⟩ := both
      rw [answer_first] at next
      have fails : ¬ ReleaseWorks machine.memory frees →
          ReleaseFails frees machine { cleared with memory := cleared.memory.next } := fun stops =>
        ⟨idle.1, idle.2.1, stops, zeroing.space, zeroing.log, zeroing.lowered, zeroing.same⟩
      rw [wp_onMemory]
      refine wp_finishMemory (fun finishes => ?_) (fun stuck => .inr (fails fun works => stuck ?_))
      · have all : machine.memory.Answers (releaseCells.length + 1) := by
          intro call less
          rcases lt_or_eq_of_le (le_of_lt_succ less) with early | last
          · exact answers call early
          · rw [last, ← next]
            exact finishes
        unfold freeFrame
        simp only [wp_bind]
        exact wp_ensure_intro (fun frees => ⟨all, frees⟩) (fun kept => .inr (fails fun works => kept works.2))
      · rw [next]
        exact works.1 _ (lt_succ_self _)
    · exact fun call less => works.1 call (lt_succ_of_lt less)
  · by_contra neither
    rw [not_or, Bool.not_eq_true, Bool.not_eq_true] at neither
    exact busy ⟨neither.1, neither.2, vacant.mappings, vacant.frames, vacant.pending⟩

theorem release_untouched_iff (vacant : Vacant machine.space) (frees : Bool) :
    (∀ reason after, (release frees).run machine = (.error reason, after) → Untouched machine after) ↔
      machine.space.active = true ∨ machine.space.released = true ∨ ReleaseWorks machine.memory frees ∨
        Harmless machine.space.tables machine.memory releaseCells := by
  have cases := wp_iff.mp (release_cases vacant frees)
  constructor
  · intro untouched
    cases result : (release frees).run machine with
    | mk outcome after =>
      cases outcome with
      | ok value => exact .inr (.inr (.inl (cases.1 value (by rw [result]))))
      | error reason =>
        have fails := cases.2 reason (by rw [result])
        rw [result] at fails
        rcases fails with ⟨busy, _⟩ | fails
        · exact busy.imp_right .inl
        · exact .inr (.inr (.inr (fails.zeroing.same.mp (untouched reason after result).entries)))
  · intro condition reason after result
    have fails := cases.2 reason (by rw [result])
    rw [result] at fails
    rcases fails with ⟨_, same⟩ | fails
    · obtain rfl : after = machine := same
      exact ⟨rfl, rfl, rfl⟩
    · rcases condition with active | released | works | harmless
      · exact absurd (fails.inactive.symm.trans active) nofun
      · exact absurd (fails.unreleased.symm.trans released) nofun
      · exact absurd works fails.stops
      · exact ⟨fails.zeroing.same.mpr harmless, fails.zeroing.space, fails.zeroing.log⟩

/-- With memory and a manager that work a vacant address space is released. -/
theorem release_works (vacant : Vacant machine.space) (inactive : machine.space.active = false)
    (unreleased : machine.space.released = false) (quiet : machine.memory.Quiet) :
    ((release true).run machine).1 = .ok () := by
  have cases := wp_iff.mp (release_cases vacant true)
  cases outcome : ((release true).run machine).1 with
  | ok value => rfl
  | error reason =>
    have works : ReleaseWorks machine.memory true := by
      refine ⟨fun call _ => ?_, rfl⟩
      unfold Memory.answer
      rw [quiet]
      rfl
    rcases cases.2 reason outcome with ⟨active | released, _⟩ | fails
    · exact absurd (inactive.symm.trans active) nofun
    · exact absurd (unreleased.symm.trans released) nofun
    · exact absurd works fails.stops

/-- A release of a vacant address space that fails leaves the entries and the records alone if and only if
it was refused at once or no write before the failure met an entry in use. Then a later release can
succeed, and in every later run the tables refine the records. -/
theorem failed_release_untouched (vacant : Vacant machine.space) (frees : Bool) :
    ((∀ reason after, (release frees).run machine = (.error reason, after) → Untouched machine after) ↔
      machine.space.active = true ∨ machine.space.released = true ∨ ReleaseWorks machine.memory frees ∨
        Harmless machine.space.tables machine.memory releaseCells) ∧ ∀ after, Untouched machine after →
      (machine.space.active = false → machine.space.released = false →
        ((release true).run (after.facing [])).1 = .ok ()) ∧
      (Faithful machine → ∀ later, Reached Orderly after later → Refines later) := by
  refine ⟨release_untouched_iff vacant frees, fun after same => ⟨fun inactive unreleased => ?_,
    fun faithful later reached => ?_⟩⟩
  · refine @release_works (after.facing []) ?_ ?_ ?_ rfl
    · rw [← same.space] at vacant
      exact vacant
    · exact (congrArg Space.active same.space).trans inactive
    · exact (congrArg Space.released same.space).trans unreleased
  · have kept : ∀ table index, after.memory.entries table index = machine.memory.entries table index :=
      fun table index => congrFun (congrFun same.entries table) index
    have undone : Undone machine .pmm after :=
      ⟨⟨same.space, same.log, fun _ table index => .inl (kept table index)⟩, fun _ => same.entries⟩
    exact (reached.faithful (faithful.undone undone nofun)).refines

/-- A release whose first write fails and is lost. -/
theorem failed_release_untouched_lost :
    Vacant (blankMachine.facing [⟨false, .memoryAccess, false⟩]).space ∧ ∀ reason after,
      (release true).run (blankMachine.facing [⟨false, .memoryAccess, false⟩]) = (.error reason, after) →
        Untouched (blankMachine.facing [⟨false, .memoryAccess, false⟩]) after := by
  have vacant : Vacant (blankMachine.facing [⟨false, .memoryAccess, false⟩]).space :=
    ⟨fun _ => rfl, fun _ => rfl, fun _ => rfl⟩
  refine ⟨vacant, (failed_release_untouched vacant true).1.mpr (.inr (.inr (.inr ?_)))⟩
  intro call cell _ answers applied
  cases call with
  | zero => exact absurd applied (by decide)
  | succ call => exact absurd (answers 0 (zero_lt_succ call)) (by decide)

/-- When only the manager refuses the pages, the walk to the mapping window is gone. -/
theorem failed_release_touches :
    (initializeSpace true tableHandle).run blankMemory = (.ok blankMachine.space, blankMachine.memory) ∧
    Vacant blankMachine.space ∧
    ¬ ∀ reason after, (release false).run blankMachine = (.error reason, after) → Untouched blankMachine after := by
  have vacant : Vacant blankMachine.space := ⟨fun _ => rfl, fun _ => rfl, fun _ => rfl⟩
  refine ⟨initializeSpace_blank, vacant, fun untouched => ?_⟩
  rcases (release_untouched_iff vacant false).mp untouched with active | released | works | harmless
  · exact absurd active (by decide)
  · exact absurd released (by decide)
  · exact nomatch works.2
  · have first : releaseCells[0]? = some (0, 0) := by
      unfold releaseCells
      rw [show tableEntries = 511 + 1 from rfl, range_succ_eq_map]
      rfl
    have zero := harmless 0 (0, 0) first (fun _ less => absurd less (not_lt_zero _)) rfl
    exact absurd zero (by decide)

end Release

end PooleOS.Paging
