import PooleOS.Lib.Words
import PooleOS.Paging.Records

/- Walking the tables: what `translate` finds when its reads succeed, the tables and
records that a successful `initialize` leaves behind, and that it succeeds when
the memory works. -/
namespace PooleOS.Paging

open Op BitVec


section Addresses

theorem tableIndex_eq (address : Word) (level : Fin 4) :
    tableIndex address level = address.toNat / 2 ^ (39 - 9 * level.val) % 512 := by
  unfold tableIndex
  rw [toNat_and, toNat_ushiftRight, Nat.shiftRight_eq_div_pow]
  exact Nat.and_two_pow_sub_one_eq_mod _ 9

/-- The page that an address lies in. -/
def pageOf (address : Word) : Word := address &&& ~~~BitVec.ofNat 64 (pageBytes - 1)

theorem toNat_pageOf (address : Word) : (pageOf address).toNat = address.toNat / 4096 * 4096 :=
  toNat_and_not_low address

/-- The leaf of an address is that of its page. -/
theorem tableIndex_pageOf (address : Word) : tableIndex (pageOf address) 3 = tableIndex address 3 := by
  rw [tableIndex_leaf, tableIndex_leaf, toNat_pageOf]
  omega

/-- The window lies under one entry of each upper table. -/
theorem tableIndex_window {address : Word} (inside : InWindow (pageOf address)) (level : Fin 3) :
    tableIndex address level.castSucc = tableIndex windowStart level.castSucc := by
  obtain ⟨_, low, high⟩ := inside
  rw [toNat_pageOf] at low high
  unfold userWindowEndExclusive userWindowStart at *
  have start : windowStart.toNat = 1073741824 := rfl
  rw [tableIndex_eq, tableIndex_eq, start]
  match level with
  | 0 =>
    change address.toNat / 549755813888 % 512 = 1073741824 / 549755813888 % 512
    omega
  | 1 =>
    change address.toNat / 1073741824 % 512 = 1073741824 / 1073741824 % 512
    omega
  | 2 =>
    change address.toNat / 2097152 % 512 = 1073741824 / 2097152 % 512
    omega

end Addresses

section Translate

variable {machine : Machine}

variable {memory : Memory}

theorem wp_readEntry {table : Word} {index : Nat} {done : Word → Memory → Prop} {failed : Error → Memory → Prop}
    (works : memory.fault.succeeds = true) (pass : done (memory.entries table index) memory.next) :
    wp (readEntry table index) done failed memory := by
  unfold wp readEntry
  simp only [works, if_true]
  exact pass

/-- The calls of a memory that succeed before the first failure. -/
def Memory.Works (memory : Memory) (count : Nat) : Prop :=
  ∀ fault ∈ memory.faults.take count, fault.succeeds = true

variable {count : Nat}

theorem Memory.Works.first (works : memory.Works (count + 1)) : memory.fault.succeeds = true := by
  unfold Memory.fault
  unfold Memory.Works at works
  cases listed : memory.faults with
  | nil => rfl
  | cons fault rest =>
    rw [listed] at works
    exact works fault (by simp)

theorem Memory.Works.rest (works : memory.Works (count + 1)) : memory.next.Works count := by
  unfold Memory.Works Memory.next at *
  cases listed : memory.faults with
  | nil => simp
  | cons fault rest =>
    exact fun other member => works other (by simp_all)

/-- The walk above the leaf passes. -/
theorem wp_checkParent (linked : Linked machine) {address : Word} (inside : InWindow (pageOf address)) (level : Fin 3)
    (same : memory.entries = machine.memory.entries) (works : memory.Works (count + 1)) :
    wp (checkParent machine.space address level)
      (fun _ memory' => memory'.entries = machine.memory.entries ∧ memory'.Works count) (fun _ _ => False) memory := by
  unfold checkParent
  rw [wp_bind]
  refine wp_readEntry works.first ?_
  rw [same, tableIndex_window inside level, linked.parents level]
  exact wp_ensure_intro (fun _ => ⟨same, works.rest⟩) (fun off => off rfl)

/-- A translation whose reads succeed decodes the leaf. -/
theorem translate_leaf (linked : Linked machine) {address : Word} (inside : InWindow (pageOf address))
    (same : memory.entries = machine.memory.entries) (works : memory.Works 4) :
    ((translate machine.space address).run memory).1 = decodeLeaf (machine.leaf (pageOf address)) address := by
  have walks : wp (translate machine.space address)
      (fun value _ => decodeLeaf (machine.leaf (pageOf address)) address = .ok value)
      (fun reason _ => decodeLeaf (machine.leaf (pageOf address)) address = .error reason) memory := by
    unfold translate
    have valid : validateVirtual (address &&& ~~~BitVec.ofNat 64 (pageBytes - 1)) = .ok () :=
      validateVirtual_eq_ok.mpr inside
    simp only [valid, wp_bind, Op.wp_lift_ok]
    have climbed := @Op.wp_forEach _ _ _ (checkParent machine.space address) (fun _ _ => False)
      (fun rest memory => memory.entries = machine.memory.entries ∧ memory.Works (rest.length + 1))
      (fun level rest memory' holds =>
        wp_checkParent linked inside level holds.1 holds.2) (List.finRange 3) memory ⟨same, works⟩
    refine wp_mono climbed (fun _ memory' holds => ?_) (fun _ _ none_ => none_.elim)
    refine wp_readEntry holds.2.first ?_
    have leaf : memory'.entries (machine.space.tables 3) (tableIndex address 3) =
        machine.leaf (pageOf address) := by
      unfold Machine.leaf
      rw [holds.1, tableIndex_pageOf]
    rw [leaf]
    exact Op.wp_lift_intro (fun _ decoded => decoded) (fun _ decoded => decoded)
  rw [wp_iff] at walks
  cases result : ((translate machine.space address).run memory).1 with
  | ok value => exact (walks.1 value result).symm
  | error reason => exact (walks.2 reason result).symm

end Translate

section Initialize

/-- The zeroing of one table: every entry of it reads zero, and the other tables are not touched. -/
theorem clearTable_spec (table : Word) (memory : Memory) : wp (clearTable table)
      (fun _ memory' => (∀ index < tableEntries, memory'.entries table index = 0#64) ∧
        ∀ other, other ≠ table → memory'.entries other = memory.entries other) (fun _ _ => True) memory := by
  unfold clearTable
  generalize tableEntries = count
  have prepared : wp (preparePage table) (fun _ memory' => memory'.entries = memory.entries)
      (fun _ _ => True) memory := by
    rw [wp_iff]
    exact ⟨fun _ _ => rfl, fun _ _ => trivial⟩
  rw [wp_bind]
  refine wp_mono prepared (fun _ memory₁ start => ?_) (fun _ _ _ => trivial)
  have elsewhere : ∀ other, other ≠ table → memory₁.entries other = memory.entries other := by
    intro other _
    rw [start]
  rw [wp_bind]
  refine wp_mono (wp_forEach_range (fun _ _ => True)
    (fun _ memory' => ∀ other, other ≠ table → memory'.entries other = memory.entries other)
    (fun index memory₂ _ kept => ?_) elsewhere) (fun _ memory₂ kept => ?_) (fun _ _ _ => trivial)
  · rw [wp_iff]
    refine ⟨fun _ _ other apart => ?_, fun _ _ => trivial⟩
    rcases writeEntry_mayWrite memory₂ 0#64 with same | wrote
    · rw [same]
      exact kept other apart
    · rw [wrote, ← kept other apart]
      funext cell
      rw [write_entries, if_neg (fun both => apart both.1)]
  · refine wp_forEach_range (fun _ _ => True)
      (fun cursor (memory' : Memory) => (∀ index < cursor, memory'.entries table index = 0#64) ∧
        ∀ other, other ≠ table → memory'.entries other = memory.entries other)
      (fun cursor memory₃ _ holds => ?_) ⟨nofun, kept⟩
    rw [wp_bind, wp_iff]
    refine ⟨fun value seen => ?_, fun _ _ => trivial⟩
    refine wp_ensure_intro (fun zero => ⟨fun index below => ?_, holds.2⟩) (fun _ => trivial)
    rcases Nat.lt_succ_iff_lt_or_eq.mp below with older | rfl
    · exact holds.1 index older
    · exact (readEntry_ok seen).trans zero

theorem tablesAt_injective {root : Word} {left right : Fin 4}
    (same : tablesAt root left = tablesAt root right) : left = right := by
  have offsets : BitVec.ofNat 64 (left.val * pageBytes) = BitVec.ofNat 64 (right.val * pageBytes) :=
    (BitVec.add_right_inj root).mp same
  clear same
  revert left right
  decide

/-- A fresh address space: no records, empty leaves and the three entries that lead there. -/
structure Fresh (machine : Machine) : Prop where
  mappings : ∀ slot, machine.space.mappings slot = none
  frames : ∀ cell, machine.space.frames cell = none
  pending : ∀ place, machine.space.pending place = none
  numbering : machine.space.nextInvalidation = 1
  unreleased : machine.space.released = false
  inactive : machine.space.active = false
  allocation : machine.space.tableAllocation.pageCount = tablePageCount
  empty : ∀ address, machine.leaf address = 0#64
  linked : Linked machine

theorem leafIndex_lt (address : Word) (level : Fin 4) : tableIndex address level < tableEntries := by
  rw [tableIndex_eq]
  exact Nat.mod_lt _ (by decide)

theorem initializeSpace_fresh (valid : Bool) (tableAllocation : Handle) (memory : Memory) :
    wp (initializeSpace valid tableAllocation)
      (fun space memory' => Fresh ⟨memory', space, .new⟩) (fun _ _ => True) memory := by
  unfold initializeSpace
  simp only [wp_bind]
  refine wp_ensure_intro (fun _ => ?_) (fun _ => trivial)
  refine wp_ensure_intro (fun shape => ?_) (fun _ => trivial)
  refine wp_lift_intro (fun root found => ?_) (fun _ _ => trivial)
  have zeroes := @Op.wp_forEach _ _ _ (fun level => clearTable (tablesAt root level))
    (fun _ _ => True)
    (fun rest memory => ∀ level ∉ rest, ∀ index < tableEntries, memory.entries (tablesAt root level) index = 0#64)
    (fun level rest memory₁ holds => ?_) (List.finRange 4) memory
    (fun level off => absurd (List.mem_finRange level) off)
  · refine wp_mono zeroes (fun _ memory₁ zero => ?_) (fun _ _ _ => trivial)
    refine wp_mono (replaceEntry_spec memory₁ _ _) (fun _ memory₂ first => ?_) (fun _ _ _ => trivial)
    refine wp_mono (replaceEntry_spec memory₂ _ _) (fun _ memory₃ second => ?_) (fun _ _ _ => trivial)
    refine wp_mono (replaceEntry_spec memory₃ _ _) (fun _ memory₄ third => ?_) (fun _ _ _ => trivial)
    have apart : ∀ {left right : Fin 4}, left ≠ right → tablesAt root left ≠ tablesAt root right :=
      fun off same => off (tablesAt_injective same)
    have stored : ∀ level index, memory₄.entries (tablesAt root level) index =
        if level = 2 ∧ index = tableIndex windowStart 2 then tablesAt root 3 ||| parentFlags
        else if level = 1 ∧ index = tableIndex windowStart 1 then tablesAt root 2 ||| parentFlags
        else if level = 0 ∧ index = tableIndex windowStart 0 then tablesAt root 1 ||| parentFlags
        else memory₁.entries (tablesAt root level) index := by
      intro level index
      have same : ∀ other : Fin 4, tablesAt root level = tablesAt root other ↔ level = other :=
        fun other => ⟨fun same => tablesAt_injective same, fun same => same ▸ rfl⟩
      rw [third.2, write_entries, second.2, write_entries, first.2, write_entries]
      simp only [same]
    refine ⟨fun _ => rfl, fun _ => rfl, fun _ => rfl, rfl, rfl, rfl, shape.1, fun address => ?_, ?_, ?_⟩
    · unfold Machine.leaf
      rw [stored]
      exact zero 3 (by simp) _ (leafIndex_lt address 3)
    · intro level
      rw [stored]
      match level with
      | 0 => rfl
      | 1 => rfl
      | 2 => rfl
    · intro level
      exact apart (Fin.ne_of_lt (Fin.castSucc_lt_last level))
  · refine wp_mono (clearTable_spec (tablesAt root level) memory₁) (fun _ memory₂ cleared => ?_)
      (fun _ _ _ => trivial)
    intro other off index inside
    by_cases same : other = level
    · subst same
      exact cleared.1 index inside
    · rw [cleared.2 _ (fun equal => same (tablesAt_injective equal))]
      exact holds other (by simp [same, off]) index inside

/-- A successful `initialize` has built a fresh address space. -/
theorem fresh_of_built {valid : Bool} {tableAllocation : Handle} {memory memory' : Memory}
    {space : Space} (built : (initializeSpace valid tableAllocation).run memory = (.ok space, memory')) :
    Fresh ⟨memory', space, .new⟩ := by
  have initial := initializeSpace_fresh valid tableAllocation memory
  unfold wp at initial
  rw [built] at initial
  exact initial

end Initialize

section Quiet

/-- A memory whose calls all work. -/
def Memory.Quiet (memory : Memory) : Prop := memory.faults = []

variable {memory : Memory} {table : Word} {index : Nat} {failed : Error → Memory → Prop}

theorem Memory.Quiet.write (quiet : memory.Quiet) (value : Word) : (memory.write table index value).Quiet := quiet

variable {value : Word}

section

variable (quiet : memory.Quiet)
include quiet

theorem wp_writeEntry_quiet {done : Unit → Memory → Prop} :
    wp (writeEntry table index value) done failed memory ↔ done () (memory.write table index value) := by
  obtain ⟨entries, faults⟩ := memory
  cases quiet
  exact .rfl

theorem wp_readEntry_quiet {done : Word → Memory → Prop} :
    wp (readEntry table index) done failed memory ↔ done (memory.entries table index) memory := by
  obtain ⟨entries, faults⟩ := memory
  cases quiet
  exact .rfl

theorem wp_writeVerified_quiet {done : Bool → Memory → Prop}
    (pass : done true (memory.write table index value)) : wp (writeVerified table index value) done failed memory := by
  obtain ⟨entries, faults⟩ := memory
  cases quiet
  unfold writeVerified
  have wrote : (writeEntry table index value).run ⟨entries, []⟩ =
      (.ok (), Memory.write ⟨entries, []⟩ table index value) := rfl
  have read : (readEntry table index).run (Memory.write ⟨entries, []⟩ table index value) =
      (.ok value, Memory.write ⟨entries, []⟩ table index value) := by
    have seen : (Memory.write ⟨entries, []⟩ table index value).entries table index = value := by
      exact if_pos ⟨rfl, rfl⟩
    unfold readEntry
    dsimp only
    rw [seen]
    rfl
  rw [wp_bind, wp_attempt, wrote]
  simp only [wp_bind, wp_attempt, read, wp_pure, decide_true]
  exact pass

theorem wp_replaceEntry_quiet {expected : Word} {done : Unit → Memory → Prop}
    (stored : memory.entries table index = expected) (pass : done () (memory.write table index value)) :
    wp (replaceEntry table index expected value) done failed memory := by
  unfold replaceEntry
  rw [wp_bind, wp_readEntry_quiet quiet, wp_bind]
  refine wp_ensure_intro (fun _ => ?_) (fun off => absurd stored off)
  rw [wp_bind]
  exact wp_writeVerified_quiet quiet pass

/-- A table is zeroed when the memory works, and no entry gets another value. -/
theorem clearTable_quiet : wp (clearTable table) (fun _ memory' => memory'.Quiet ∧
        (∀ index < tableEntries, memory'.entries table index = 0#64) ∧
          ∀ other cell, memory'.entries other cell = memory.entries other cell ∨ memory'.entries other cell = 0#64)
      (fun _ _ => False) memory := by
  unfold clearTable
  generalize tableEntries = count
  rw [wp_bind]
  have prepared : wp (preparePage table) (fun _ memory' => memory = memory')
      (fun _ _ => False) memory := by
    obtain ⟨entries, faults⟩ := memory
    cases quiet
    exact rfl
  refine wp_mono prepared ?_ (fun _ _ none_ => none_)
  rintro _ _ rfl
  rw [wp_bind]
  refine wp_mono (wp_forEach_range (fun _ _ => False) (fun cursor (memory' : Memory) => memory'.Quiet ∧
      (∀ index < cursor, memory'.entries table index = 0#64) ∧
        ∀ other cell, memory'.entries other cell = memory.entries other cell ∨
          memory'.entries other cell = 0#64)
    ?_ ⟨quiet, nofun, fun _ _ => .inl rfl⟩) ?_ (fun _ _ none_ => none_)
  · rintro cursor memory₁ _ ⟨quiet₁, zero, kept⟩
    rw [wp_writeEntry_quiet quiet₁]
    refine ⟨quiet₁, fun index below => ?_, fun other cell => ?_⟩
    · rw [write_entries]
      split
      · rfl
      · rename_i off
        refine zero index (Nat.lt_of_le_of_ne (Nat.lt_succ_iff.mp below) (fun same => off ⟨rfl, same⟩))
    · rw [write_entries]
      split
      · exact .inr rfl
      · exact kept other cell
  · rintro _ memory₁ ⟨quiet₁, zero, kept⟩
    refine wp_mono (wp_forEach_range (fun _ _ => False) (fun _ memory' => memory' = memory₁)
      ?_ rfl) ?_ (fun _ _ none_ => none_)
    · rintro cursor _ inside rfl
      rw [wp_bind, wp_readEntry_quiet quiet₁]
      exact wp_ensure_intro (fun _ => rfl) (fun off => off (zero cursor inside))
    · rintro _ _ rfl
      exact ⟨quiet₁, zero, kept⟩

end

/-- The tables that are not left to clear are zero, and no entry got another value. -/
structure Cleared (start : Memory) (root : Word) (rest : List (Fin 4)) (memory : Memory) : Prop where
  quiet : memory.Quiet
  zero : ∀ level ∉ rest, ∀ index < tableEntries, memory.entries (tablesAt root level) index = 0#64
  kept : ∀ other cell, memory.entries other cell = start.entries other cell ∨
    memory.entries other cell = 0#64

theorem Cleared.clear {start : Memory} {root : Word} {level : Fin 4} {rest : List (Fin 4)}
    (holds : Cleared start root (level :: rest) memory) :
    wp (clearTable (tablesAt root level)) (fun _ => Cleared start root rest) (fun _ _ => False) memory := by
  refine wp_mono (clearTable_quiet holds.quiet) ?_ (fun _ _ none_ => none_)
  rintro _ memory' ⟨quiet, zero, kept⟩
  refine ⟨quiet, fun other off index inside => ?_, fun other cell => ?_⟩
  · by_cases same : other = level
    · subst same
      exact zero index inside
    · rcases kept (tablesAt root other) index with old | new
      · exact old.trans (holds.zero other (by simp [same, off]) index inside)
      · exact new
  · rcases kept other cell with old | new
    · rw [old]
      exact holds.kept other cell
    · exact .inr new

/-- The entry that leads from one table to the next. -/
def linkAt (root : Word) (level : Fin 3) (memory : Memory) : Memory :=
  memory.write (tablesAt root level.castSucc) (tableIndex windowStart level.castSucc)
    (tablesAt root level.succ ||| parentFlags)

def newSpace (tableAllocation : Handle) (root : Word) : Space where
  tableAllocation := tableAllocation
  tables := tablesAt root
  mappings := fun _ => none
  frames := fun _ => none
  pending := fun _ => none
  nextInvalidation := 1
  mapOperations := 0
  protectOperations := 0
  unmapOperations := 0
  invalidationReceipts := 0
  releasedFrames := 0
  active := false
  released := false

/-- Over a memory that works an address space is built. -/
theorem initializeSpace_quiet (quiet : memory.Quiet) {tableAllocation : Handle} {root : Word}
    (shape : tableAllocation.pageCount = tablePageCount ∧ tableAllocation.owner = tableOwner ∧
      tableAllocation.zone = .dma32) (found : physicalAddress tableAllocation = .ok root) : ∃ cleared, Cleared memory
    root [] cleared ∧ (initializeSpace true tableAllocation).run memory =
    (.ok (newSpace tableAllocation root), linkAt root 2 (linkAt root 1 (linkAt root 0 cleared))) := by
  have builds : wp (initializeSpace true tableAllocation)
      (fun space memory' => ∃ cleared, Cleared memory root [] cleared ∧ space = newSpace tableAllocation root ∧
          memory' = linkAt root 2 (linkAt root 1 (linkAt root 0 cleared)))
      (fun _ _ => False) memory := by
    unfold initializeSpace
    simp only [wp_bind, found, wp_lift_ok]
    refine wp_ensure_intro (fun _ => ?_) (fun off => off trivial)
    refine wp_ensure_intro (fun _ => ?_) (fun off => off shape)
    refine wp_mono (wp_forEach (Cleared memory root) (fun level rest memory holds => holds.clear) _ _
      ⟨quiet, fun level off => absurd (List.mem_finRange level) off, fun _ _ => .inl rfl⟩) ?_
      (fun _ _ none_ => none_)
    intro _ cleared holds
    have empty : ∀ level,
        cleared.entries (tablesAt root level) (tableIndex windowStart level) = 0#64 :=
      fun level => holds.zero level (by simp) _ (leafIndex_lt windowStart level)
    have apart : ∀ {left right : Fin 4}, left ≠ right → tablesAt root left ≠ tablesAt root right :=
      fun off same => off (tablesAt_injective same)
    refine wp_replaceEntry_quiet holds.quiet (empty 0) ?_
    refine wp_replaceEntry_quiet (holds.quiet.write _) ?_
      (wp_replaceEntry_quiet ((holds.quiet.write _).write _) ?_ ⟨cleared, holds, rfl, rfl⟩)
    · rw [write_entries, if_neg (fun both => apart (by decide) both.1)]
      exact empty 1
    · rw [write_entries, if_neg (fun both => apart (by decide) both.1), write_entries,
        if_neg (fun both => apart (by decide) both.1)]
      exact empty 2
  rw [wp_iff] at builds
  rcases result : (initializeSpace true tableAllocation).run memory with ⟨reason | space, memory'⟩
  · exact (builds.2 reason (by rw [result])).elim
  · have post := builds.1 space (by rw [result])
    rw [result] at post
    obtain ⟨cleared, holds, rfl, same⟩ := post
    exact ⟨cleared, holds, by rw [← same]⟩

end Quiet

end PooleOS.Paging
