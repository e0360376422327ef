import PooleOS.Active.Initialize
import PooleOS.Active.Range

/- The space on the processor: it is activated, its user page is protected, unmapped and released, and the
boot root is restored. -/
namespace PooleOS.Active

open List Op
open Pmm (RetainedAllocation pageBytes)

/-- The trait `ActiveHardware`. -/
structure ActiveHardware (W : Type) where
  interruptsDisabled : W → Bool × W
  cpuId : W → Nat × W
  readCr3 : W → Nat × W
  writeCr3 : Nat → W → Except Error Unit × W
  invalidatePage : Nat → W → Except Error Unit × W
  readU64 : Nat → W → Except Error Word × W
  writeU64 : Nat → Word → W → Except Error Unit × W
  readU8 : Nat → W → Except Error Nat × W
  writeU8 : Nat → Nat → W → Except Error Unit × W

/-- The space, what it was built with, and the processor. -/
structure Machine (E T W : Type) where
  space : ActiveAddressSpace
  host : Host E T
  hardware : W

abbrev A (E T W α : Type) : Type := Op (Machine E T W) Error α

variable {E T W : Type}

section Calls

variable {α : Type}

/-- `&self`. -/
def thisSpace : A E T W ActiveAddressSpace := do return (← Op.read).space

def change (f : ActiveAddressSpace → ActiveAddressSpace) : A E T W Unit :=
  Op.update (fun m => { m with space := f m.space })

/-- A question to the processor. -/
def ask (method : W → α × W) : A E T W α :=
  ⟨fun m => (.ok (method m.hardware).1, { m with hardware := (method m.hardware).2 })⟩

/-- A request to the processor that it may refuse. -/
def request (method : W → Except Error α × W) : A E T W α :=
  ⟨fun m => ((method m.hardware).1, { m with hardware := (method m.hardware).2 })⟩

/-- A call of the manager with `map_err(|_| reason)`. -/
def release (token : RetainedAllocation) : A E T W Unit :=
  Op.within (fun m => m.host.world) (fun world m => { m with host := { m.host with world := world } })
    (Op.mapError (fun _ => .pmm) (Pmm.freeRetained token))

/-- `cr3 & ROOT_ADDRESS_MASK`. -/
def rootOf (cr3 : Nat) : Nat := (word cr3 &&& rootAddressMask).toNat

end Calls

section Lifecycle

variable (hardware : ActiveHardware W)

def requireActive : A E T W Nat := do
  let space ← thisSpace
  Op.ensure (space.lifecycle = .active) .lifecycle
  let disabled ← ask hardware.interruptsDisabled
  Op.ensure (disabled = true) .interruptState
  let cpuId ← ask hardware.cpuId
  Op.ensure (cpuId = bspCpuId) .cpuMismatch
  let cr3 ← ask hardware.readCr3
  Op.ensure (rootOf cr3 = space.tables 0) .cr3Mismatch
  return cpuId

def activate : A E T W Unit := do
  let space ← thisSpace
  Op.ensure (space.lifecycle = .prepared) .lifecycle
  let disabled ← ask hardware.interruptsDisabled
  Op.ensure (disabled = true) .interruptState
  let cpuId ← ask hardware.cpuId
  Op.ensure (cpuId = bspCpuId) .cpuMismatch
  let cr3 ← ask hardware.readCr3
  Op.ensure (cr3 = space.originalCr3) .cr3Mismatch
  request (hardware.writeCr3 (space.tables 0))
  let cr3 ← ask hardware.readCr3
  if rootOf cr3 ≠ space.tables 0 then do
    request (hardware.writeCr3 space.originalCr3)
    let cr3 ← ask hardware.readCr3
    Op.ensure (cr3 = space.originalCr3) .rollbackFailed
    change (fun space => { space with activationRollbacks := space.activationRollbacks + 1 })
    Op.fail .activationMismatch
  else
    change (fun space => { space with cr3Writes := space.cr3Writes + 1, lifecycle := .active })

def entryAddress (tableVirtual index : Nat) : Except Error Nat :=
  orError (checkedAdd u64Values tableVirtual (index * 8)) .memoryAccess

def activeReplace (tableVirtual index : Nat) (expected replacement : Word) : A E T W Unit := do
  let address ← Op.lift (entryAddress tableVirtual index)
  exchange (request (hardware.readU64 address)) (fun value => request (hardware.writeU64 address value))
    expected replacement

def observedActiveLeaf (tableVirtual index : Nat) (expectedPolicy : Word) : A E T W Word := do
  let address ← Op.lift (entryAddress tableVirtual index)
  let observed ← request (hardware.readU64 address)
  Op.ensure (observed &&& ~~~hardwareLeafBits = expectedPolicy) .transactionRejected
  return observed

def invalidate (virtualAddress cpuId : Nat) (kind : ReceiptKind) : A E T W InvalidationReceipt := do
  request (hardware.invalidatePage virtualAddress)
  let space ← thisSpace
  let cr3 ← ask hardware.readCr3
  Op.ensure (rootOf cr3 = space.tables 0) .staleReceipt
  let current ← ask hardware.cpuId
  Op.ensure (current = cpuId) .staleReceipt
  let next ← Op.lift (orError (checkedAdd u64Values space.nextReceipt 1) .staleReceipt)
  change (fun space => { space with
    nextReceipt := next
    localInvalidations := space.localInvalidations + 1
    activeReceipts := space.activeReceipts + 1 })
  return ⟨space.nextReceipt, space.tables 0, space.tableAllocation.generation, virtualAddress, cpuId, kind⟩

def writeProbe : A E T W Nat := do
  let _ ← requireActive hardware
  request (hardware.writeU8 userWindowStart probeValue)
  let observed ← request (hardware.readU8 userWindowStart)
  Op.ensure (observed = probeValue) .probeMismatch
  return observed

end Lifecycle

section Leaves

/-- The leaf that an operation rewrites: where it is, what it must hold, what is written, and the page
that is invalidated. -/
structure Leaf where
  data : Nat
  tableVirtual : Nat
  index : Nat
  policy : Word
  replacement : Word → Word
  virtualAddress : Nat

def userLeaf (space : ActiveAddressSpace) (policy : Word) (replacement : Word → Word → Word) : Except Error Leaf := do
  let data ← physicalAddress space.dataAllocation
  let tableVirtual ← directAddress (space.tables 3)
  return ⟨data, tableVirtual, tableIndex userWindowStart 3, word data ||| policy, replacement (word data),
    userWindowStart⟩

def directLeaf (space : ActiveAddressSpace) (policy : Word) (replacement : Word → Word → Word) : Except Error Leaf := do
  let data ← physicalAddress space.dataAllocation
  let direct ← directAddress data
  let page := data / pageBytes
  let regionOffset ← space.topology.regionIndex (page / pagesPerPageTable)
  let tableVirtual ← directAddress (space.tables (directTableStart space.topology + regionOffset))
  return ⟨data, tableVirtual, page % pagesPerPageTable, word data ||| policy, replacement (word data), direct⟩

def leafOf (space : ActiveAddressSpace) : ReceiptKind → Except Error Leaf
  | .protect => userLeaf space userRwNxFlags
      (fun data observed => data ||| entryPresent ||| entryUser ||| (observed &&& hardwareLeafBits))
  | .userUnmap => userLeaf space (entryPresent ||| entryUser) (fun _ _ => 0#64)
  | .directUnmap => directLeaf space supervisorRwNxFlags (fun _ _ => 0#64)

/-- The error that a failed rewrite is mapped to. -/
def ReceiptKind.reason : ReceiptKind → Error
  | .protect => .protectTransaction
  | .userUnmap => .userUnmapTransaction
  | .directUnmap => .directUnmapTransaction

variable (hardware : ActiveHardware W)

/-- What the three operations do before they invalidate the page. -/
def rewriteLeaf (kind : ReceiptKind) : A E T W (Nat × Leaf) := do
  let cpuId ← requireActive hardware
  let leaf ← Op.lift (leafOf (← thisSpace) kind)
  let observed ← Op.mapError (fun _ => kind.reason)
    (observedActiveLeaf hardware leaf.tableVirtual leaf.index leaf.policy)
  Op.mapError (fun _ => kind.reason)
    (activeReplace hardware leaf.tableVirtual leaf.index observed (leaf.replacement observed))
  return (cpuId, leaf)

/-- The translation that a leaf of the user page stands for. -/
def translationOf (value : Word) : Translation :=
  ⟨(value &&& physicalMask52).toNat, decide (value &&& entryWritable ≠ 0#64),
    decide (value &&& entryNoExecute = 0#64), decide (value &&& entryUser ≠ 0#64), .writeBack⟩

def protectUser : A E T W (InvalidationReceipt × Translation) := do
  let (cpuId, leaf) ← rewriteLeaf hardware .protect
  let receipt ← invalidate hardware leaf.virtualAddress cpuId .protect
  let value ← request (hardware.readU64 (leaf.tableVirtual + leaf.index * 8))
  let translation := translationOf value
  Op.ensure (¬ (translation.physicalAddress ≠ leaf.data ∨ translation.writable = true ∨
    translation.executable = false ∨ translation.user = false)) .permission
  let probe ← request (hardware.readU8 userWindowStart)
  Op.ensure (probe = probeValue) .permission
  return (receipt, translation)

def beginUserUnmap : A E T W InvalidationReceipt := do
  let (cpuId, leaf) ← rewriteLeaf hardware .userUnmap
  invalidate hardware leaf.virtualAddress cpuId .userUnmap

def revokeDataDirectMap : A E T W InvalidationReceipt := do
  let (cpuId, leaf) ← rewriteLeaf hardware .directUnmap
  invalidate hardware leaf.virtualAddress cpuId .directUnmap

end Leaves

section Release

/-- `free_owned_allocation(manager, 1)`. The manager hands a token back that it does not release. -/
def freeDataAllocation : A E T W Unit := do
  let token ← Op.lift (orError (← thisSpace).retainedData .pmm)
  change (fun space => { space with retainedData := none })
  Op.onError (release token) (fun reason => do
    change (fun space => { space with retainedData := some token })
    Op.fail reason)

/-- `free_owned_allocation(manager, 0)`. -/
def freeTableAllocation : A E T W Unit := do
  let token ← Op.lift (orError (← thisSpace).retainedTables .pmm)
  change (fun space => { space with retainedTables := none })
  Op.onError (release token) (fun reason => do
    change (fun space => { space with retainedTables := some token })
    Op.fail reason)

variable (hardware : ActiveHardware W)

def completeDataRelease (user : InvalidationReceipt) (direct : Option InvalidationReceipt) : A E T W Unit := do
  let cpuId ← requireActive hardware
  let direct ← Op.lift (orError direct .invalidationRequired)
  let space ← thisSpace
  let data ← Op.lift (physicalAddress space.dataAllocation)
  let dataDirect ← Op.lift (directAddress data)
  Op.ensure (¬ (user.kind ≠ .userUnmap ∨ user.virtualAddress ≠ userWindowStart ∨
    direct.kind ≠ .directUnmap ∨ direct.virtualAddress ≠ dataDirect ∨
    user.rootPhysical ≠ space.tables 0 ∨ direct.rootPhysical ≠ space.tables 0 ∨
    user.rootGeneration ≠ space.tableAllocation.generation ∨
    direct.rootGeneration ≠ space.tableAllocation.generation ∨
    user.cpuId ≠ cpuId ∨ direct.cpuId ≠ cpuId ∨ direct.sequence ≤ user.sequence)) .staleReceipt
  freeDataAllocation
  change (fun space => { space with dataReleased := true })

def restore (activeProcessorCount : Nat) : A E T W GenerationRetirementReceipt := do
  let cpuId ← requireActive hardware
  let space ← thisSpace
  Op.ensure (space.dataReleased = true) .lifecycle
  Op.ensure (activeProcessorCount = 1) .shootdownRequired
  request (hardware.writeCr3 space.originalCr3)
  let cr3 ← ask hardware.readCr3
  Op.ensure (cr3 = space.originalCr3) .rollbackFailed
  change (fun space => { space with cr3Writes := space.cr3Writes + 1, lifecycle := .restored })
  let receipt : GenerationRetirementReceipt := ⟨space.nextReceipt, space.tables 0,
    space.tableAllocation.generation, rootOf space.originalCr3, cpuId, activeProcessorCount, 1, 0⟩
  let next ← Op.lift (orError (checkedAdd u64Values space.nextReceipt 1) .staleReceipt)
  change (fun space => { space with
    nextReceipt := next
    generationRetirementReceipts := space.generationRetirementReceipts + 1
    retirementReceipt := some receipt
    oldGenerationReclaimDeferred := true })
  return receipt

/-- A call on the table memory. -/
def onMemory {α : Type} (method : Op T Error α) : A E T W α :=
  Op.within (fun m => m.host.memory) (fun memory m => { m with host := { m.host with memory := memory } }) method

def releaseTables (memory : TableMemory T) (retirement : Option GenerationRetirementReceipt) : A E T W Unit := do
  let space ← thisSpace
  Op.ensure (¬ (space.lifecycle ≠ .restored ∨ space.dataReleased = false ∨ space.tablesReleased = true))
    .lifecycle
  let receipt ← Op.lift (orError retirement .invalidationRequired)
  Op.ensure (¬ (space.retirementReceipt ≠ some receipt ∨ receipt.retiredRootPhysical ≠ space.tables 0 ∨
    receipt.retiredRootGeneration ≠ space.tableAllocation.generation ∨
    receipt.replacementRootPhysical ≠ rootOf space.originalCr3 ∨ receipt.cpuId ≠ bspCpuId ∨
    receipt.activeProcessorCount ≠ 1 ∨ receipt.localContextFlushes ≠ 1 ∨
    receipt.remoteShootdownsPending ≠ 0)) .staleReceipt
  onMemory (Op.forEach ((List.range space.topology.tablePageCount).map space.tables) (fun table =>
    Op.forEach (List.range tableEntries) (fun index => writeEntry memory table index 0#64)))
  onMemory (outcome memory.finish)
  freeTableAllocation
  change (fun space => { space with tablesReleased := true, lifecycle := .released })

end Release

section Runs

inductive Call
  | activate
  | writeProbe
  | unmap (kind : ReceiptKind)
  | completeDataRelease (user : InvalidationReceipt) (direct : Option InvalidationReceipt)
  | restore (activeProcessorCount : Nat)
  | releaseTables (retirement : Option GenerationRetirementReceipt)

variable (hardware : ActiveHardware W)

/-- The operation that ends in a receipt of this kind. -/
def unmap : ReceiptKind → A E T W InvalidationReceipt
  | .protect => do return (← protectUser hardware).1
  | .userUnmap => beginUserUnmap hardware
  | .directUnmap => revokeDataDirectMap hardware

/-- One call, with the receipt that it hands out. -/
def exec (memory : TableMemory T) : Call → A E T W (Option InvalidationReceipt)
  | .activate => do activate hardware; return none
  | .writeProbe => do let _ ← writeProbe hardware; return none
  | .unmap kind => do return some (← unmap hardware kind)
  | .completeDataRelease user direct => do completeDataRelease hardware user direct; return none
  | .restore count => do let _ ← restore hardware count; return none
  | .releaseTables retirement => do releaseTables memory retirement; return none

/-- The receipt in the answer to a call. -/
def handedOut : Except Error (Option InvalidationReceipt) → List InvalidationReceipt
  | .ok (some receipt) => [receipt]
  | _ => []

/-- A space that some run reaches, whatever the processor and the manager do in each call, with the
receipts that were handed out. -/
inductive Reached : ActiveAddressSpace → List InvalidationReceipt → Prop
  | initialized {E T : Type} {memory : TableMemory T} {tableAllocation dataAllocation : Pmm.AllocationHandle}
      {input : ActiveAddressSpaceInput} {host after : Host E T} {space : ActiveAddressSpace}
      (built : (initializeSpace memory tableAllocation dataAllocation input).run host = (.ok space, after)) :
      Reached space []
  | called {E T W : Type} {space : ActiveAddressSpace} {issued : List InvalidationReceipt}
      (before : Reached space issued) (hardware : ActiveHardware W) (memory : TableMemory T) (call : Call)
      (host : Host E T) (w : W) :
      Reached ((exec hardware memory call).run ⟨space, host, w⟩).2.space
        (issued ++ handedOut ((exec hardware memory call).run ⟨space, host, w⟩).1)

end Runs

section Frame

/-- What no call changes, and that receipts are numbered upwards. -/
structure Carries (before after : ActiveAddressSpace) : Prop where
  data : after.dataAllocation = before.dataAllocation
  tables : after.tables = before.tables
  topology : after.topology = before.topology
  receipts : before.nextReceipt ≤ after.nextReceipt

/-- The same of machines. -/
def CarriesOn (before after : Machine E T W) : Prop := Carries before.space after.space

instance : IsPreorder (Machine E T W) CarriesOn where
  refl _ := ⟨rfl, rfl, rfl, Nat.le_refl _⟩
  trans _ _ _ first second := ⟨second.data.trans first.data, second.tables.trans first.tables,
    second.topology.trans first.topology, Nat.le_trans first.receipts second.receipts⟩

abbrev Carrying {α : Type} (method : A E T W α) : Prop := Steps CarriesOn method

variable {α : Type}

theorem thisSpace_carries : Carrying (thisSpace : A E T W ActiveAddressSpace) :=
  .bind .read (fun _ => .pure _)

theorem ask_carries (method : W → α × W) : Carrying (ask method : A E T W α) :=
  ⟨fun _ => ⟨rfl, rfl, rfl, le_refl _⟩⟩

theorem request_carries (method : W → Except Error α × W) : Carrying (request method : A E T W α) :=
  ⟨fun _ => ⟨rfl, rfl, rfl, le_refl _⟩⟩

theorem onMemory_carries (method : Op T Error α) : Carrying (onMemory method : A E T W α) :=
  ⟨fun _ => ⟨rfl, rfl, rfl, le_refl _⟩⟩

theorem release_carries (token : Pmm.RetainedAllocation) : Carrying (release token : A E T W Unit) :=
  ⟨fun _ => ⟨rfl, rfl, rfl, le_refl _⟩⟩

theorem change_carries {f : ActiveAddressSpace → ActiveAddressSpace} (keeps : ∀ space, Carries space (f space)) :
    Carrying (change f : A E T W Unit) := ⟨fun m => keeps m.space⟩

variable (hardware : ActiveHardware W)

theorem requireActive_carries : Carrying (requireActive hardware : A E T W Nat) := by
  refine .bind thisSpace_carries (fun _ => .bind (.ensure _ _) (fun _ => ?_))
  refine .bind (ask_carries _) (fun _ => .bind (.ensure _ _) (fun _ => ?_))
  refine .bind (ask_carries _) (fun _ => .bind (.ensure _ _) (fun _ => ?_))
  exact .bind (ask_carries _) (fun _ => .bind (.ensure _ _) (fun _ => .pure _))

theorem activate_carries : Carrying (activate hardware : A E T W Unit) := by
  refine .bind thisSpace_carries (fun _ => .bind (.ensure _ _) (fun _ => ?_))
  refine .bind (ask_carries _) (fun _ => .bind (.ensure _ _) (fun _ => ?_))
  refine .bind (ask_carries _) (fun _ => .bind (.ensure _ _) (fun _ => ?_))
  refine .bind (ask_carries _) (fun _ => .bind (.ensure _ _) (fun _ => ?_))
  refine .bind (request_carries _) (fun _ => .bind (ask_carries _) (fun _ => ?_))
  split
  · refine .bind (request_carries _) (fun _ => .bind (ask_carries _) (fun _ => ?_))
    refine .bind (.ensure _ _) (fun _ => .bind (change_carries (fun _ => ?_)) (fun _ => .fail _))
    exact ⟨rfl, rfl, rfl, le_refl _⟩
  · exact change_carries (fun _ => ⟨rfl, rfl, rfl, le_refl _⟩)

theorem writeProbe_carries : Carrying (writeProbe hardware : A E T W Nat) :=
  .bind (requireActive_carries hardware) fun _ => .bind (request_carries _) fun _ =>
    .bind (request_carries _) fun _ => .bind (.ensure _ _) fun _ => .pure _

theorem writeVerified_carries (read : A E T W Word) (write : Word → A E T W Unit) (value : Word) (reads : Carrying read)
    (writes : ∀ value, Carrying (write value)) : Carrying (writeVerified read write value) := by
  refine .bind (writes value).attempt (fun result => ?_)
  cases result with
  | error reason => exact .pure _
  | ok done => exact .bind reads.attempt (fun _ => .pure _)

theorem activeReplace_carries (tableVirtual index : Nat) (expected replacement : Word) :
    Carrying (activeReplace hardware tableVirtual index expected replacement : A E T W Unit) := by
  refine .bind (.lift _) (fun address => .bind (request_carries _) (fun _ => .bind (.ensure _ _) (fun _ => ?_)))
  refine .bind (writeVerified_carries _ _ _ (request_carries _) (fun _ => request_carries _)) (fun verified => ?_)
  split
  · exact .pure _
  · refine .bind (writeVerified_carries _ _ _ (request_carries _) (fun _ => request_carries _)) (fun undone => ?_)
    split
    · exact .fail _
    · exact .fail _

theorem rewriteLeaf_carries (kind : ReceiptKind) : Carrying (rewriteLeaf hardware kind : A E T W (Nat × Leaf)) := by
  refine .bind (requireActive_carries hardware) (fun _ => .bind thisSpace_carries (fun _ => ?_))
  refine .bind (.lift _) (fun leaf => .bind (Steps.mapError ?_) (fun observed => ?_))
  · exact .bind (.lift _) fun _ => .bind (request_carries _) fun _ => .bind (.ensure _ _) fun _ => .pure _
  · exact .bind (activeReplace_carries hardware _ _ _ _).mapError (fun _ => .pure _)

end Frame

open Nat

section Receipts

variable {α : Type} {done : α → Machine E T W → Prop} {failed : Error → Machine E T W → Prop}
  {m : Machine E T W}

@[simp] theorem wp_thisSpace {done : ActiveAddressSpace → Machine E T W → Prop} :
    wp (thisSpace : A E T W ActiveAddressSpace) done failed m ↔ done m.space m := .rfl

@[simp] theorem wp_change {done : Unit → Machine E T W → Prop} (f : ActiveAddressSpace → ActiveAddressSpace) :
    wp (change f : A E T W Unit) done failed m ↔ done () { m with space := f m.space } := .rfl

@[simp] theorem wp_ask (method : W → α × W) : wp (ask method : A E T W α) done failed m ↔
      done (method m.hardware).1 { m with hardware := (method m.hardware).2 } := .rfl

theorem wp_request_intro {method : W → Except Error α × W}
    (pass : ∀ value, (method m.hardware).1 = .ok value → done value { m with hardware := (method m.hardware).2 })
    (stop : ∀ reason, (method m.hardware).1 = .error reason →
      failed reason { m with hardware := (method m.hardware).2 }) :
    wp (request method : A E T W α) done failed m := wp_iff.mpr ⟨pass, stop⟩

variable (hardware : ActiveHardware W)

/-- A receipt takes the next number, and only a receipt does. -/
theorem wp_invalidate (virtualAddress cpuId : Nat) (kind : ReceiptKind) (m : Machine E T W) :
    wp (invalidate hardware virtualAddress cpuId kind)
      (fun receipt after => CarriesOn m after ∧ receipt.sequence = m.space.nextReceipt ∧
        receipt.sequence < after.space.nextReceipt) (fun _ after => CarriesOn m after) m := by
  have stays : ∀ w : W, CarriesOn m { m with hardware := w } := fun _ => ⟨rfl, rfl, rfl, le_refl _⟩
  unfold invalidate
  simp only [wp_bind, wp_thisSpace, wp_ask]
  refine wp_request_intro (fun _ _ => ?_) (fun _ _ => stays _)
  refine wp_ensure_intro (fun _ => wp_ensure_intro (fun _ => ?_) (fun _ => stays _)) (fun _ => stays _)
  refine wp_orError (fun next room => ?_) (fun _ => stays _)
  obtain ⟨-, rfl⟩ := checkedAdd_eq_some.mp room
  exact ⟨⟨rfl, rfl, rfl, le_succ _⟩, rfl, lt_succ_self _⟩

/-- What an operation that rewrites a leaf does to the space. -/
theorem wp_unmap (kind : ReceiptKind) (m : Machine E T W) : wp (unmap hardware kind)
      (fun receipt after => CarriesOn m after ∧ m.space.nextReceipt ≤ receipt.sequence ∧
        receipt.sequence < after.space.nextReceipt) (fun _ after => CarriesOn m after) m := by
  have invalidated : ∀ (virtualAddress cpuId : Nat) (kind : ReceiptKind) (middle : Machine E T W),
      CarriesOn m middle → wp (invalidate hardware virtualAddress cpuId kind)
        (fun receipt after => CarriesOn m after ∧ m.space.nextReceipt ≤ receipt.sequence ∧
          receipt.sequence < after.space.nextReceipt)
        (fun _ after => CarriesOn m after) middle := by
    intro virtualAddress cpuId kind middle before
    refine wp_mono (wp_invalidate hardware virtualAddress cpuId kind middle) ?_
      (fun _ _ after => trans_of CarriesOn before after)
    intro receipt after ⟨carries, number, below⟩
    exact ⟨trans_of CarriesOn before carries, number ▸ before.receipts, below⟩
  cases kind with
  | protect =>
    unfold unmap protectUser
    simp only [wp_bind, wp_pure]
    refine wp_mono ((rewriteLeaf_carries hardware .protect).wp m) (fun leaf middle before => ?_)
      (fun _ _ stop => stop)
    refine wp_mono (invalidated _ _ _ middle before) (fun receipt after numbered => ?_) (fun _ _ stop => stop)
    refine wp_request_intro (fun value _ => ?_) (fun _ _ => numbered.1)
    refine wp_ensure_intro (fun _ => ?_) (fun _ => numbered.1)
    refine wp_request_intro (fun probe _ => ?_) (fun _ _ => numbered.1)
    exact wp_ensure_intro (fun _ => numbered) (fun _ => numbered.1)
  | userUnmap =>
    unfold unmap beginUserUnmap
    rw [wp_bind]
    exact wp_mono ((rewriteLeaf_carries hardware .userUnmap).wp m)
      (fun leaf middle before => invalidated _ _ _ middle before) (fun _ _ stop => stop)
  | directUnmap =>
    unfold unmap revokeDataDirectMap
    rw [wp_bind]
    exact wp_mono ((rewriteLeaf_carries hardware .directUnmap).wp m)
      (fun leaf middle before => invalidated _ _ _ middle before) (fun _ _ stop => stop)

theorem freeDataAllocation_carries : Carrying (freeDataAllocation : A E T W Unit) := by
  refine .bind thisSpace_carries (fun _ => .bind (.lift _) (fun token => ?_))
  refine .bind (change_carries (fun _ => ⟨rfl, rfl, rfl, le_refl _⟩)) (fun _ => ?_)
  refine .onError (release_carries token) (fun reason => ?_)
  exact .bind (change_carries (fun _ => ⟨rfl, rfl, rfl, le_refl _⟩)) (fun _ => .fail _)

theorem freeTableAllocation_carries : Carrying (freeTableAllocation : A E T W Unit) := by
  refine .bind thisSpace_carries (fun _ => .bind (.lift _) (fun token => ?_))
  refine .bind (change_carries (fun _ => ⟨rfl, rfl, rfl, le_refl _⟩)) (fun _ => ?_)
  refine .onError (release_carries token) (fun reason => ?_)
  exact .bind (change_carries (fun _ => ⟨rfl, rfl, rfl, le_refl _⟩)) (fun _ => .fail _)

theorem completeDataRelease_carries (user : InvalidationReceipt) (direct : Option InvalidationReceipt) :
    Carrying (completeDataRelease hardware user direct : A E T W Unit) := by
  refine .bind (requireActive_carries hardware) (fun _ => .bind (.lift _) (fun _ => ?_))
  refine .bind thisSpace_carries (fun _ => .bind (.lift _) (fun _ => .bind (.lift _) (fun _ => ?_)))
  refine .bind (.ensure _ _) (fun _ => .bind freeDataAllocation_carries (fun _ => ?_))
  exact change_carries (fun _ => ⟨rfl, rfl, rfl, le_refl _⟩)

theorem restore_carries (activeProcessorCount : Nat) :
    Carrying (restore hardware activeProcessorCount : A E T W GenerationRetirementReceipt) := by
  refine .of_wp (fun m => ?_)
  unfold restore
  rw [wp_bind]
  refine wp_mono ((requireActive_carries hardware).wp m) (fun cpuId middle before => ?_)
    (fun _ _ stop => stop)
  have stays : ∀ w : W, CarriesOn m { middle with hardware := w } := fun _ => before
  simp only [wp_bind, wp_thisSpace, wp_ask, wp_change, wp_pure]
  refine wp_ensure_intro (fun _ => wp_ensure_intro (fun _ => ?_) (fun _ => before)) (fun _ => before)
  refine wp_request_intro (fun _ _ => ?_) (fun _ _ => stays _)
  refine wp_ensure_intro (fun _ => ?_) (fun _ => stays _)
  refine wp_orError (fun next room => ?_) (fun _ => ⟨before.data, before.tables, before.topology, before.receipts⟩)
  obtain ⟨-, rfl⟩ := checkedAdd_eq_some.mp room
  exact ⟨before.data, before.tables, before.topology, le_succ_of_le before.receipts⟩

theorem releaseTables_carries (memory : TableMemory T) (retirement : Option GenerationRetirementReceipt) :
    Carrying (releaseTables memory retirement : A E T W Unit) := by
  refine .bind thisSpace_carries (fun _ => .bind (.ensure _ _) (fun _ => .bind (.lift _) (fun _ => ?_)))
  refine .bind (.ensure _ _) (fun _ => .bind (onMemory_carries _) (fun _ => ?_))
  refine .bind (onMemory_carries _) (fun _ => .bind freeTableAllocation_carries (fun _ => ?_))
  exact change_carries (fun _ => ⟨rfl, rfl, rfl, le_refl _⟩)

/-- The step lemma. -/
theorem wp_exec (memory : TableMemory T) (call : Call) (m : Machine E T W) : wp (exec hardware memory call)
      (fun answer after => CarriesOn m after ∧
        ∀ receipt ∈ handedOut (.ok answer), receipt.sequence < after.space.nextReceipt)
      (fun _ after => CarriesOn m after) m := by
  have silent : ∀ {β : Type} {method : A E T W β}, Carrying method →
      wp (do let _ ← method; return none)
        (fun answer after => CarriesOn m after ∧
          ∀ receipt ∈ handedOut (.ok answer), receipt.sequence < after.space.nextReceipt)
        (fun _ after => CarriesOn m after) m := by
    intro β method carries
    rw [wp_bind]
    exact wp_mono (carries.wp m) (fun _ _ after => ⟨after, nofun⟩) (fun _ _ after => after)
  cases call with
  | activate => exact silent (activate_carries hardware)
  | writeProbe => exact silent (writeProbe_carries hardware)
  | unmap kind =>
    unfold exec
    rw [wp_bind]
    refine wp_mono (wp_unmap hardware kind m) (fun receipt after ⟨carries, _, below⟩ => ⟨carries, ?_⟩)
      (fun _ _ after => after)
    intro other member
    rw [mem_singleton.mp member]
    exact below
  | completeDataRelease user direct => exact silent (completeDataRelease_carries hardware user direct)
  | restore count => exact silent (restore_carries hardware count)
  | releaseTables retirement => exact silent (releaseTables_carries memory retirement)

end Receipts

section Reach

variable {space : ActiveAddressSpace} {issued : List InvalidationReceipt}

theorem physicalAddress_eq_ok {handle : Pmm.AllocationHandle} {address : Nat} : physicalAddress handle = .ok address ↔
      handle.startPage * pageBytes < u64Values ∧ address = handle.startPage * pageBytes ∧ address ≠ 0 ∧
        word address &&& ~~~physicalMask52 = 0#64 := by
  unfold physicalAddress
  simp only [bind_eq_ok_iff, orError_eq_ok, checkedMul_eq_some, demand_eq_ok, pure_eq_ok]
  constructor
  · rintro ⟨_, ⟨fits, rfl⟩, -, ⟨some, masked⟩, rfl⟩
    exact ⟨fits, rfl, some, masked⟩
  · rintro ⟨fits, rfl, some, masked⟩
    exact ⟨_, ⟨fits, rfl⟩, (), ⟨some, masked⟩, rfl⟩

variable {topology : DirectMapTopology}

theorem regionIndex_ok {region : Nat} (member : region ∈ topology.regions) :
    ∃ offset, topology.regionIndex region = .ok offset ∧ offset < topology.regions.length := by
  unfold DirectMapTopology.regionIndex
  cases found : topology.regions.idxOf? region with
  | none => exact absurd member (idxOf?_eq_none_iff.mp found)
  | some offset =>
    obtain ⟨below, -⟩ := idxOf?_eq_some_iff.mp found
    exact ⟨offset, rfl, below⟩

variable {tableAllocation dataAllocation : Pmm.AllocationHandle} {input : ActiveAddressSpaceInput}

/-- Every table that a checked topology counts lies in the direct map. -/
theorem admitInput_tables {root data : Nat}
    (ok : admitInput tableAllocation dataAllocation input = .ok (topology, root, data)) :
    DirectMapTopology.fromManifest input.manifest = .ok topology ∧ physicalAddress dataAllocation = .ok data ∧
      manifestContainsPage input.manifest dataAllocation.startPage ∧ ∀ index, index < topology.tablePageCount →
        directAddress (tablesFrom root topology.tablePageCount index) =
          .ok (directMapStart + (root + index * pageBytes)) := by
  unfold admitInput at ok
  simp only [bind_eq_ok_iff, demand_eq_ok, pure_eq_ok] at ok
  obtain ⟨_, accepted, _, sizes, _, -, _, -, found, address, _, dataAddress, _, -, _, -, _, tables, _, mapped,
    same⟩ := ok
  cases same
  obtain ⟨-, rfl, -⟩ := physicalAddress_eq_ok.mp address
  refine ⟨accepted, dataAddress, mapped, fun index below => ?_⟩
  have page := tables (tableAllocation.startPage + index) (mem_range'_1.mpr ⟨by omega, by omega⟩)
  have low := (fromManifest_regions accepted page).2.1
  unfold tablesFrom
  rw [if_pos below, ← add_mul, directAddress_low low]

theorem leafOf_prepared {root data : Nat}
    (ok : admitInput tableAllocation dataAllocation input = .ok (topology, root, data)) (kind : ReceiptKind) :
    ∃ leaf, leafOf (prepared tableAllocation dataAllocation topology root input) kind = .ok leaf := by
  obtain ⟨accepted, address, mapped, tables⟩ := admitInput_tables ok
  obtain ⟨region, low, count⟩ := fromManifest_regions accepted mapped
  obtain ⟨-, rfl, -⟩ := physicalAddress_eq_ok.mp address
  have user : ∀ policy replacement, ∃ leaf,
      userLeaf (prepared tableAllocation dataAllocation topology root input) policy replacement = .ok leaf := by
    intro policy replacement
    unfold userLeaf prepared
    rw [address, ok_bind, tables 3 (by unfold fixedTablePageCount at count; omega), ok_bind]
    exact ⟨_, rfl⟩
  cases kind with
  | protect =>
    unfold leafOf
    exact user _ _
  | userUnmap =>
    unfold leafOf
    exact user _ _
  | directUnmap =>
    obtain ⟨offset, index, below⟩ := regionIndex_ok region
    unfold leafOf directLeaf prepared
    simp only
    rw [address, ok_bind, directAddress_low low, ok_bind,
      Nat.mul_div_cancel dataAllocation.startPage (by decide : 0 < pageBytes), index, ok_bind,
      tables (directTableStart topology + offset) (by unfold directTableStart; omega), ok_bind]
    exact ⟨_, rfl⟩

theorem leafOf_carries {before after : ActiveAddressSpace} (carries : Carries before after)
    (kind : ReceiptKind) : leafOf after kind = leafOf before kind := by
  cases kind <;> unfold leafOf <;> simp only [userLeaf, directLeaf, carries.data, carries.tables, carries.topology]

/-- What `initialize` returns is what it has checked, with the two tokens. -/
theorem initializeSpace_built {memory : TableMemory T}
    {host after : Host E T}
    (built : (initializeSpace memory tableAllocation dataAllocation input).run host = (.ok space, after)) :
    ∃ topology root data, admitInput tableAllocation dataAllocation input = .ok (topology, root, data) ∧
      space = { prepared tableAllocation dataAllocation topology root input with
        retainedTables := space.retainedTables, retainedData := space.retainedData } := by
  unfold initializeSpace at built
  simp only [run_bind_eq_ok, run_lift_eq_ok] at built
  obtain ⟨_, _, -, _, _, -, _, _, -, _, _, -, ⟨topology, root, data⟩, _, ⟨admitted, rfl⟩, _, _, -, rest⟩ := built
  unfold buildSpace at rest
  simp only [run_bind_eq_ok, run_pure_eq_ok] at rest
  obtain ⟨_, _, -, _, _, -, _, _, -, rfl, -⟩ := rest
  exact ⟨topology, root, data, admitted, rfl⟩

theorem exec_reached (hardware : ActiveHardware W) (memory : TableMemory T) (call : Call) (m : Machine E T W) :
    Carries m.space ((exec hardware memory call).run m).2.space ∧
      ∀ receipt ∈ handedOut ((exec hardware memory call).run m).1,
        receipt.sequence < ((exec hardware memory call).run m).2.space.nextReceipt := by
  obtain ⟨onOk, onErr⟩ := wp_iff.mp (wp_exec hardware memory call m)
  cases run : ((exec hardware memory call).run m).1 with
  | ok answer => exact onOk answer run
  | error reason => exact ⟨onErr reason run, nofun⟩

/-- In every space that is reached, every leaf can be addressed. -/
theorem Reached.leaf (reached : Reached space issued) (kind : ReceiptKind) : ∃ leaf, leafOf space kind = .ok leaf := by
  induction reached with
  | initialized built =>
    obtain ⟨topology, root, data, admitted, same⟩ := initializeSpace_built built
    rw [same]
    exact leafOf_prepared admitted kind
  | called before hardware memory call host w ih =>
    rw [leafOf_carries (exec_reached hardware memory call ⟨_, host, w⟩).1]
    exact ih

/-- Every receipt that was handed out has a number below the next one. -/
theorem Reached.receipts (reached : Reached space issued) :
    ∀ receipt ∈ issued, receipt.sequence < space.nextReceipt := by
  induction reached with
  | initialized built => exact nofun
  | called before hardware memory call host w ih =>
    obtain ⟨carries, fresh⟩ := exec_reached hardware memory call ⟨_, host, w⟩
    intro receipt member
    rcases mem_append.mp member with earlier | now
    · exact lt_of_lt_of_le (ih receipt earlier) carries.receipts
    · exact fresh receipt now

end Reach

end PooleOS.Active
