import PooleOS.Kmap.Checks

/- The walk over tables with known contents: one entry in each parent, and leaves
by a plan of the window. -/
namespace PooleOS.Kmap

/-- What each page of the window is mapped to. -/
abbrev Plan : Type := Nat → Option (Word × Permissions)

def planEntry : Option (Word × Permissions) → Word
  | none => 0#64
  | some (address, permissions) => address ||| leafFlags permissions

/-- The pages of a plan lie inside the physical address width, are not both writable and executable,
and are apart. -/
structure PlanFits (bits : Nat) (plan : Plan) : Prop where
  clean : ∀ page address permissions, plan page = some (address, permissions) → Clean bits address
  safe : ∀ page address permissions, plan page = some (address, permissions) →
    ¬ (permissions.write = true ∧ permissions.execute = true)
  apart : ∀ page other address permissions permissions', plan page = some (address, permissions) →
    plan other = some (address, permissions') → page = other

/-- The address of a table page. -/
def TableAddresses.page (addresses : TableAddresses) : TableName → Word
  | .candidateRoot => addresses.candidateRoot
  | .pdpt => addresses.pdpt
  | .pageDirectory => addresses.pageDirectory
  | .pageTable => addresses.pageTable
  | .retainedPageTable => addresses.retainedPageTable

/-- The tables that `populate` writes. -/
def imageTables : List TableName := [.candidateRoot, .pdpt, .pageDirectory, .pageTable]

/-- The tables that `populate_retained` writes. -/
def retainedTables : List TableName := imageTables ++ [.retainedPageTable]

/-- The reader sees the original root, and these tables. -/
structure Reads (reader : TableReader) (addresses : TableAddresses) (names : List TableName)
    (originalRoot : Table) (tables : Tables) : Prop where
  original : ∀ index : Fin 512, reader addresses.originalRoot index.val = .ok (originalRoot index)
  table : ∀ name ∈ names, ∀ index : Fin 512,
    reader (addresses.page name) index.val = .ok (tables name index)

/-- The contents of the tables. -/
structure Laid (addresses : TableAddresses) (names : List TableName) (originalRoot : Table)
    (directory : Nat) (plan : Plan) (tables : Tables) : Prop where
  written : ∀ name ∈ imageTables, name ∈ names
  root : ∀ index, tables .candidateRoot index = expectedRoot addresses originalRoot 511 index
  pdpt : ∀ index, tables .pdpt index = expectedParent 510 addresses.pageDirectory index
  directory : ∀ index, tables .pageDirectory index = (if .retainedPageTable ∈ names then
    expectedDirectory addresses directory index else expectedParent directory addresses.pageTable index)
  leaves : ∀ index : Fin 512, tables .pageTable index = planEntry (plan index.val)
  blank : .retainedPageTable ∈ names → ∀ index, tables .retainedPageTable index = 0#64

section Levels

variable {reader : TableReader} {bits level index : Nat} {address table leaf : Word} {walk : Walk}
  {permissions : Permissions}

theorem translateLevel_missing (read : reader walk.table index = .ok 0#64) :
    translateLevel reader (maskOf bits) address walk level index = .error (.refused .translationMissing) := by
  have absent : hasBit 0#64 entryPresent = false := by decide
  unfold translateLevel
  rw [read]
  simp [absent, bind, Except.bind]

/-- An entry that points to the next table. -/
theorem translateLevel_parent (width : Width bits) (clean : Clean bits table) (nonzero : table ≠ 0#64)
    (read : reader walk.table index = .ok (parentEntry table)) (early : level < 3) :
    translateLevel reader (maskOf bits) address walk level index =
      .ok (.inl ⟨table, walk.writable, walk.executable, false⟩) := by
  have bit : ∀ flag, flagBits &&& flag = flag → hasBit (parentEntry table) flag = hasBit parentFlags flag :=
    fun flag known => hasBit_entry width clean known
  have same : parentEntry table &&& maskOf bits = table := entry_address width clean (by decide)
  have aligned : low table pageSize = 0#64 := low_pageSize_eq_zero.mpr clean.1
  have present : hasBit parentFlags entryPresent = true := by decide
  have writable : hasBit parentFlags entryWritable = true := by decide
  have executable : hasBit parentFlags entryNoExecute = false := by decide
  have user : hasBit parentFlags entryUser = false := by decide
  have small : hasBit parentFlags entryPageSizeOrPat = false := by decide
  have notLast : level ≠ 3 := by omega
  unfold translateLevel entryAddress Walk.through
  rw [read]
  simp [bit entryPresent (by decide), bit entryWritable (by decide), bit entryNoExecute (by decide),
    bit entryUser (by decide), bit entryPageSizeOrPat (by decide), present, writable, executable, user, small,
    notLast, same, nonzero, aligned, bind, Except.bind, pure, Except.pure]

/-- The entry of a page. -/
theorem translateLevel_leaf (width : Width bits) (clean : Clean bits leaf)
    (read : reader walk.table index = .ok (leaf ||| leafFlags permissions)) :
    translateLevel reader (maskOf bits) address walk 3 index =
      .ok (.inr ⟨leaf ||| low address pageSize, pageSize, walk.writable && permissions.write,
        walk.executable && permissions.execute, false, ⟨false, false, false⟩⟩) := by
  have bit : ∀ flag, flagBits &&& flag = flag →
      hasBit (leaf ||| leafFlags permissions) flag = hasBit (leafFlags permissions) flag :=
    fun flag known => hasBit_entry width clean known
  obtain ⟨readable, write, execute⟩ := permissions
  have known : ∀ readable write execute, flagBits &&& leafFlags ⟨readable, write, execute⟩ =
    leafFlags ⟨readable, write, execute⟩ := by decide
  have flags : ∀ readable write execute, hasBit (leafFlags ⟨readable, write, execute⟩) entryPresent = true ∧
      hasBit (leafFlags ⟨readable, write, execute⟩) entryWritable = write ∧
      hasBit (leafFlags ⟨readable, write, execute⟩) entryNoExecute = !execute ∧
      hasBit (leafFlags ⟨readable, write, execute⟩) entryUser = false ∧
      hasBit (leafFlags ⟨readable, write, execute⟩) entryPageSizeOrPat = false ∧
      hasBit (leafFlags ⟨readable, write, execute⟩) entryPwt = false ∧
      hasBit (leafFlags ⟨readable, write, execute⟩) entryPcd = false := by decide
  obtain ⟨present, writable, executable, user, small, pwt, pcd⟩ := flags readable write execute
  have same := entry_address width clean (known readable write execute)
  unfold translateLevel Walk.through Walk.leaf cacheBits
  rw [read]
  simp [bit entryPresent (by decide), bit entryWritable (by decide), bit entryNoExecute (by decide),
    bit entryUser (by decide), bit entryPageSizeOrPat (by decide), bit entryPwt (by decide),
    bit entryPcd (by decide), present, writable, executable, user, small, pwt, pcd, same, bind,
    Except.bind, pure, Except.pure]

/-- The table of the walk is only read. -/
theorem translateLevel_congr {mask : Word} {walk' : Walk}
    (read : reader walk.table index = reader walk'.table index) (writable : walk.writable = walk'.writable)
    (executable : walk.executable = walk'.executable) (user : walk.user = walk'.user) :
    translateLevel reader mask address walk 0 index = translateLevel reader mask address walk' 0 index := by
  unfold translateLevel Walk.through Walk.leaf
  rw [read, writable, executable, user]

end Levels

section Walks

variable {reader : TableReader} {request : Request} {addresses : TableAddresses} {summary : Summary}
  {names : List TableName} {originalRoot : Table} {tables : Tables} {plan : Plan} {address : Word}

/-- What the plan says of an address of the last slot. -/
def planned (plan : Plan) (directory : Nat) (address : Word) : Outcome Translation :=
  if pdptIndex address = 510 ∧ pageDirectoryIndex address = directory then
    match plan (pageTableIndex address) with
    | none => .error (.refused .translationMissing)
    | some (leaf, permissions) => .ok ⟨leaf ||| low address pageSize, pageSize, permissions.write,
        permissions.execute, false, ⟨false, false, false⟩⟩
  else .error (.refused .translationMissing)

theorem field_lt (address : Word) : pml4Index address < 512 ∧ pdptIndex address < 512 ∧
    pageDirectoryIndex address < 512 ∧ pageTableIndex address < 512 := by
  rw [pml4Index_eq, pdptIndex_eq, pageDirectoryIndex_eq, pageTableIndex_eq]
  exact ⟨Nat.mod_lt _ (by decide), Nat.mod_lt _ (by decide), Nat.mod_lt _ (by decide),
    Nat.mod_lt _ (by decide)⟩

variable {bits : Nat}

theorem TabledWell.page (tables : TabledWell bits addresses) (name : TableName) :
    addresses.page name ≠ 0#64 ∧ Clean bits (addresses.page name) := by
  cases name <;> exact tables.clean _ (by simp [tableValues, TableAddresses.page])

variable {mask : Word} {now : Walk} {level index : Nat} {rest : List (Nat × Nat)}

/-- One level of the walk from a known result. -/
theorem translateFrom_next {next : Walk} (step : translateLevel reader mask address now level index = .ok (.inl next)) :
    translateFrom reader mask address now ((level, index) :: rest) = translateFrom reader mask address next rest := by
  rw [translateFrom, step]
  rfl

theorem translateFrom_stop {stop : Stop} (step : translateLevel reader mask address now level index = .error stop) :
    translateFrom reader mask address now ((level, index) :: rest) = .error stop := by
  rw [translateFrom, step]
  rfl

theorem translateFrom_leaf {translation : Translation}
    (step : translateLevel reader mask address now level index = .ok (.inr translation)) :
    translateFrom reader mask address now ((level, index) :: rest) = .ok translation := by
  rw [translateFrom, step]
  rfl

theorem translate_eq {root : Word} (width : Width bits) (clean : Clean bits root)
    (nonzero : root ≠ 0#64) (canonical : isCanonical48 address = true) :
    translate reader root address bits = translateFrom reader (maskOf bits) address ⟨root, true, true, true⟩
      [(0, pml4Index address), (1, pdptIndex address), (2, pageDirectoryIndex address),
        (3, pageTableIndex address)] := by
  have inside := clean.inside width
  have range : 36 ≤ bits ∧ bits ≤ 52 := width
  unfold translate physicalMask
  simp [canonical, range, nonzero, inside, bind, Except.bind, pure, Except.pure]

/-- The walk through the last slot follows the plan. -/
theorem Laid.walk {directory : Nat} (laid : Laid addresses names originalRoot directory plan tables)
    (width : Width bits) (well : TabledWell bits addresses) (fits : PlanFits bits plan)
    (reads : Reads reader addresses names originalRoot tables) (canonical : isCanonical48 address = true)
    (slot : pml4Index address = 511) :
    translate reader addresses.candidateRoot address bits = planned plan directory address := by
  obtain ⟨_, middle, lower, last⟩ := field_lt address
  have image : ∀ name ∈ imageTables, ∀ index : Fin 512,
      reader (addresses.page name) index.val = .ok (tables name index) :=
    fun name member => reads.table name (laid.written name member)
  have root : addresses.candidateRoot ≠ 0#64 ∧ Clean bits addresses.candidateRoot :=
    well.page .candidateRoot
  have parent := fun name => (well.page name).2
  rw [translate_eq width root.2 root.1 canonical]
  have first : reader addresses.candidateRoot (pml4Index address) = .ok (parentEntry addresses.pdpt) := by
    rw [slot]
    refine (image .candidateRoot (by simp [imageTables]) 511).trans ?_
    rw [laid.root]
    rfl
  rw [translateFrom_next (translateLevel_parent width (parent .pdpt) (well.page .pdpt).1 first (by decide))]
  have second : reader addresses.pdpt (pdptIndex address) =
      .ok (expectedParent 510 addresses.pageDirectory ⟨_, middle⟩) := by
    rw [← laid.pdpt]
    exact image .pdpt (by simp [imageTables]) ⟨_, middle⟩
  unfold planned
  by_cases inner : pdptIndex address = 510
  case neg =>
    rw [expectedParent, if_neg inner] at second
    rw [translateFrom_stop (translateLevel_missing second), if_neg (fun both => inner both.1)]
  rw [expectedParent, if_pos inner] at second
  rw [translateFrom_next (translateLevel_parent width (parent .pageDirectory)
    (well.page .pageDirectory).1 second (by decide))]
  have third : reader addresses.pageDirectory (pageDirectoryIndex address) =
      .ok (tables .pageDirectory ⟨_, lower⟩) := image .pageDirectory (by simp [imageTables]) ⟨_, lower⟩
  by_cases here : pageDirectoryIndex address = directory
  case pos =>
    have entry : tables .pageDirectory ⟨_, lower⟩ = parentEntry addresses.pageTable := by
      rw [laid.directory]
      split <;> simp [expectedDirectory, expectedParent, here]
    rw [entry] at third
    rw [translateFrom_next (translateLevel_parent width (parent .pageTable) (well.page .pageTable).1 third
      (by decide)), if_pos ⟨inner, here⟩]
    have fourth : reader addresses.pageTable (pageTableIndex address) =
        .ok (planEntry (plan (pageTableIndex address))) := by
      rw [← laid.leaves ⟨_, last⟩]
      exact image .pageTable (by simp [imageTables]) ⟨_, last⟩
    cases page : plan (pageTableIndex address) with
    | none =>
      rw [page] at fourth
      rw [translateFrom_stop (translateLevel_missing fourth)]
    | some leaf =>
      rw [page] at fourth
      rw [translateFrom_leaf (translateLevel_leaf width (fits.clean _ _ _ page) fourth)]
      rfl
  rw [if_neg (fun both => here both.2)]
  by_cases beyond : .retainedPageTable ∈ names ∧ pageDirectoryIndex address = directory + 1
  case pos =>
    -- The entry after the window holds the blank retained table.
    obtain ⟨written, next⟩ := beyond
    have entry : tables .pageDirectory ⟨_, lower⟩ = parentEntry addresses.retainedPageTable := by
      rw [laid.directory, if_pos written]
      simp [expectedDirectory, next]
    rw [entry] at third
    rw [translateFrom_next (translateLevel_parent width (parent .retainedPageTable)
      (well.page .retainedPageTable).1 third (by decide))]
    have fourth : reader addresses.retainedPageTable (pageTableIndex address) = .ok 0#64 := by
      rw [← laid.blank written ⟨_, last⟩]
      exact reads.table .retainedPageTable written ⟨_, last⟩
    rw [translateFrom_stop (translateLevel_missing fourth)]
  have entry : tables .pageDirectory ⟨_, lower⟩ = 0#64 := by
    rw [laid.directory]
    split
    · rename_i written
      have next : pageDirectoryIndex address ≠ directory + 1 := fun same => beyond ⟨written, same⟩
      simp [expectedDirectory, here, next]
    · simp [expectedParent, here]
  rw [entry] at third
  rw [translateFrom_stop (translateLevel_missing third)]

/-- The walk through any other slot is the walk from the original root. -/
theorem Laid.walk_other {directory : Nat} (laid : Laid addresses names originalRoot directory plan tables)
    (width : Width bits) (well : TabledWell bits addresses) (reads : Reads reader addresses names originalRoot tables)
    (slot : pml4Index address ≠ 511) : translate reader addresses.candidateRoot address bits =
      translate reader addresses.originalRoot address bits := by
  have root : addresses.candidateRoot ≠ 0#64 ∧ Clean bits addresses.candidateRoot :=
    well.page .candidateRoot
  have original := well.clean addresses.originalRoot (by simp [tableValues])
  by_cases canonical : isCanonical48 address = true
  case neg =>
    unfold translate
    simp [canonical, bind, Except.bind]
  rw [translate_eq width root.2 root.1 canonical, translate_eq width original.2 original.1 canonical]
  obtain ⟨upper, _, _, _⟩ := field_lt address
  have read : reader addresses.candidateRoot (pml4Index address) =
      reader addresses.originalRoot (pml4Index address) := by
    rw [reads.original ⟨_, upper⟩]
    refine (reads.table .candidateRoot (laid.written _ (by simp [imageTables])) ⟨_, upper⟩).trans ?_
    rw [laid.root]
    simp [expectedRoot, slot]
  have level : translateLevel reader (maskOf bits) address ⟨addresses.candidateRoot, true, true, true⟩ 0
      (pml4Index address) = translateLevel reader (maskOf bits) address
        ⟨addresses.originalRoot, true, true, true⟩ 0 (pml4Index address) :=
    translateLevel_congr read rfl rfl rfl
  rw [translateFrom, level, translateFrom]

end Walks

end PooleOS.Kmap
