import PooleOS.Active.Reach

/- A call that fails after it has rewritten its leaf cannot be repeated: the next one
looks for the value that is no longer there. -/
namespace PooleOS.Active

open Op (wp_attempt wp_bind wp_ensure_intro wp_lift_ok wp_mono wp_pure)
open Op (wp Steps)

variable {E T W : Type}

section Words

/-- Bits outside the address of a page frame. -/
theorem frame_and {frame bits : Word} (masked : frame &&& ~~~physicalMask52 = 0#64)
    (apart : bits &&& physicalMask52 = 0#64) : frame &&& bits = 0#64 := by
  have whole : bits &&& ~~~physicalMask52 = bits := by
    have split : bits &&& (physicalMask52 ||| ~~~physicalMask52) = bits := by
      rw [BitVec.or_not_self, BitVec.and_allOnes]
    rw [BitVec.and_or_distrib_left, apart, BitVec.zero_or] at split
    exact split
  rw [← whole, BitVec.and_comm bits, ← BitVec.and_assoc, masked, BitVec.zero_and]

theorem frame_and_mask {frame : Word} (masked : frame &&& ~~~physicalMask52 = 0#64) :
    frame &&& physicalMask52 = frame := by
  have split : frame &&& (physicalMask52 ||| ~~~physicalMask52) = frame := by
    rw [BitVec.or_not_self, BitVec.and_allOnes]
  rw [BitVec.and_or_distrib_left, masked, BitVec.or_zero] at split
  exact split

variable {frame : Word} (masked : frame &&& ~~~physicalMask52 = 0#64) (observed : Word)
include masked

/-- A protected leaf is no longer writable. -/
theorem protected_differs :
    (frame ||| entryPresent ||| entryUser ||| (observed &&& hardwareLeafBits)) &&& ~~~hardwareLeafBits ≠
      frame ||| userRwNxFlags := by
  intro same
  have left : (frame ||| entryPresent ||| entryUser ||| (observed &&& hardwareLeafBits)) &&&
      ~~~hardwareLeafBits &&& entryWritable = 0#64 := by
    rw [BitVec.and_assoc, BitVec.and_or_distrib_right, BitVec.and_or_distrib_right,
      BitVec.and_or_distrib_right, frame_and masked (by decide), BitVec.and_assoc observed,
      show hardwareLeafBits &&& (~~~hardwareLeafBits &&& entryWritable) = 0#64 by decide, BitVec.and_zero]
    decide
  rw [same, BitVec.and_or_distrib_right, frame_and masked (by decide)] at left
  exact absurd left (by decide)

/-- A leaf without the present bit is not what any later step looks for. -/
theorem cleared_differs {flags : Word} (present : flags &&& entryPresent ≠ 0#64) :
    0#64 &&& ~~~hardwareLeafBits ≠ frame ||| flags := by
  intro same
  have bit : (frame ||| flags) &&& entryPresent = 0#64 := by
    rw [← same, BitVec.zero_and, BitVec.zero_and]
  rw [BitVec.and_or_distrib_right, frame_and masked (by decide), BitVec.zero_or] at bit
  exact present bit

/-- What `protect_user` reads back. -/
theorem translationOf_protected :
    translationOf (frame ||| entryPresent ||| entryUser ||| (observed &&& hardwareLeafBits)) =
      ⟨frame.toNat, false, true, true, .writeBack⟩ := by
  have part : ∀ bits : Word, hardwareLeafBits &&& bits = 0#64 →
      (frame ||| entryPresent ||| entryUser ||| (observed &&& hardwareLeafBits)) &&& bits =
        (frame &&& bits) ||| (entryPresent &&& bits) ||| (entryUser &&& bits) := by
    intro bits apart
    rw [BitVec.and_or_distrib_right, BitVec.and_or_distrib_right, BitVec.and_or_distrib_right,
      BitVec.and_assoc observed, apart, BitVec.and_zero, BitVec.or_zero]
  unfold translationOf
  rw [part _ (by decide), part _ (by decide), part _ (by decide), part _ (by decide), frame_and_mask masked,
    frame_and masked (by decide), frame_and masked (by decide), frame_and masked (by decide)]
  have address : frame ||| (entryPresent &&& physicalMask52) ||| (entryUser &&& physicalMask52) = frame := by
    rw [show entryPresent &&& physicalMask52 = 0#64 by decide,
      show entryUser &&& physicalMask52 = 0#64 by decide, BitVec.or_zero, BitVec.or_zero]
  rw [address]
  rfl

end Words

section Leaves

variable {space : ActiveAddressSpace} {kind : ReceiptKind} {leaf : Leaf}

/-- Where the leaf stands in the direct map. -/
def Leaf.address (leaf : Leaf) : Nat := leaf.tableVirtual + leaf.index * 8

/-- The leaf has the value that its operation looks for, up to the bits that the processor sets. -/
def Leaf.Holds (leaf : Leaf) (entry : Word) : Prop := entry &&& ~~~hardwareLeafBits = leaf.policy

instance (leaf : Leaf) (entry : Word) : Decidable (leaf.Holds entry) := inferInstanceAs (Decidable (_ = _))

/-- What is known of a leaf that can be addressed. -/
structure Leaf.Formed (leaf : Leaf) (kind : ReceiptKind) : Prop where
  address : entryAddress leaf.tableVirtual leaf.index = .ok leaf.address
  /-- No operation finds what it has written itself. -/
  differs : ∀ observed, ¬ leaf.Holds (leaf.replacement observed)
  protects : kind = .protect → ∀ observed,
    translationOf (leaf.replacement observed) = ⟨leaf.data, false, true, true, .writeBack⟩

theorem entryAddress_formed {tableVirtual index physical : Nat} (inside : directAddress physical = .ok tableVirtual)
    (below : index < 512) : entryAddress tableVirtual index = .ok (tableVirtual + index * 8) := by
  obtain ⟨rfl, low⟩ := directAddress_eq_ok.mp inside
  unfold entryAddress
  rw [show checkedAdd u64Values (directMapStart + physical) (index * 8) =
    some (directMapStart + physical + index * 8) from checkedAdd_eq_some.mpr ⟨?_, rfl⟩]
  · rfl
  · unfold directMapStart directMapEndExclusive at *
    unfold u64Values
    omega

theorem leafOf_formed (plan : leafOf space kind = .ok leaf) : leaf.Formed kind := by
  cases kind with
  | protect =>
    unfold leafOf userLeaf at plan
    simp only [bind_eq_ok_iff, pure_eq_ok] at plan
    obtain ⟨data, address, tableVirtual, inside, rfl⟩ := plan
    obtain ⟨fits, same, -, masked⟩ := physicalAddress_eq_ok.mp address
    refine ⟨entryAddress_formed inside (show tableIndex userWindowStart 3 < 512 by decide), fun observed => protected_differs masked observed,
      fun _ observed => ?_⟩
    rw [translationOf_protected masked observed]
    have small : (word data).toNat = data := by
      rw [same]
      exact Nat.mod_eq_of_lt fits
    rw [small]
  | userUnmap =>
    unfold leafOf userLeaf at plan
    simp only [bind_eq_ok_iff, pure_eq_ok] at plan
    obtain ⟨data, address, tableVirtual, inside, rfl⟩ := plan
    obtain ⟨-, -, -, masked⟩ := physicalAddress_eq_ok.mp address
    exact ⟨entryAddress_formed inside (show tableIndex userWindowStart 3 < 512 by decide), fun _ => cleared_differs masked (by decide), nofun⟩
  | directUnmap =>
    unfold leafOf directLeaf at plan
    simp only [bind_eq_ok_iff, pure_eq_ok] at plan
    obtain ⟨data, address, direct, -, offset, -, tableVirtual, inside, rfl⟩ := plan
    obtain ⟨-, -, -, masked⟩ := physicalAddress_eq_ok.mp address
    exact ⟨entryAddress_formed inside (Nat.mod_lt _ (by decide)), fun _ => cleared_differs masked (by decide),
      nofun⟩

end Leaves

section Processors

/-- The words behind the direct map and the bytes behind the user window. -/
structure Cells where
  word : Nat → Word
  byte : Nat → Nat

/-- A processor that may refuse or fail anything, and may answer anything about its state: only what it
reads is true, and what it writes stays in the word it was told to write. -/
structure Truthful (hardware : ActiveHardware W) (view : W → Cells) : Prop where
  interruptsDisabled : ∀ w, view (hardware.interruptsDisabled w).2 = view w
  cpuId : ∀ w, view (hardware.cpuId w).2 = view w
  readCr3 : ∀ w, view (hardware.readCr3 w).2 = view w
  invalidatePage : ∀ address w, view (hardware.invalidatePage address w).2 = view w
  readU64 : ∀ address w, view (hardware.readU64 address w).2 = view w
  reads : ∀ address w value, (hardware.readU64 address w).1 = .ok value → (view w).word address = value
  writes : ∀ address value w, (view (hardware.writeU64 address value w).2).byte = (view w).byte
  readU8 : ∀ address w, view (hardware.readU8 address w).2 = view w

/-- A processor that works: it stands on the root, and it reads, writes and invalidates what it is told to. -/
structure Works (hardware : ActiveHardware W) (view : W → Cells) (root address : Nat) : Prop where
  interruptsDisabled : ∀ w, (hardware.interruptsDisabled w).1 = true ∧ view (hardware.interruptsDisabled w).2 = view w
  cpuId : ∀ w, (hardware.cpuId w).1 = bspCpuId ∧ view (hardware.cpuId w).2 = view w
  readCr3 : ∀ w, rootOf (hardware.readCr3 w).1 = root ∧ view (hardware.readCr3 w).2 = view w
  invalidatePage : ∀ page w, (hardware.invalidatePage page w).1 = .ok () ∧
    view (hardware.invalidatePage page w).2 = view w
  readU64 : ∀ w, (hardware.readU64 address w).1 = .ok ((view w).word address) ∧
    view (hardware.readU64 address w).2 = view w
  writeU64 : ∀ value w, (hardware.writeU64 address value w).1 = .ok () ∧
    (view (hardware.writeU64 address value w).2).word address = value ∧
    (view (hardware.writeU64 address value w).2).byte = (view w).byte
  readU8 : ∀ w, (hardware.readU8 userWindowStart w).1 = .ok ((view w).byte userWindowStart) ∧
    view (hardware.readU8 userWindowStart w).2 = view w

end Processors

section Failing

variable {hardware : ActiveHardware W} {view : W → Cells}

/-- The cells are the same. -/
def SameCells (view : W → Cells) (before after : Machine E T W) : Prop :=
  view after.hardware = view before.hardware

instance : IsPreorder (Machine E T W) (SameCells view) where
  refl _ := rfl
  trans _ _ _ first second := second.trans first

/-- The space and the cells are the same. -/
def Steady (view : W → Cells) (before after : Machine E T W) : Prop :=
  after.space = before.space ∧ view after.hardware = view before.hardware

instance : IsPreorder (Machine E T W) (Steady view) where
  refl _ := ⟨rfl, rfl⟩
  trans _ _ _ first second := ⟨second.1.trans first.1, second.2.trans first.2⟩

theorem ask_steady {α : Type} {method : W → α × W} (same : ∀ w, view (method w).2 = view w) :
    Steps (Steady view) (ask method : A E T W α) := ⟨fun m => ⟨rfl, same m.hardware⟩⟩

theorem thisSpace_steady : Steps (Steady view) (thisSpace : A E T W ActiveAddressSpace) :=
  .bind .read (fun _ => .pure _)

theorem requireActive_steady (truthful : Truthful hardware view) :
    Steps (Steady view) (requireActive hardware : A E T W Nat) := by
  refine .bind thisSpace_steady (fun _ => .bind (.ensure _ _) (fun _ => ?_))
  refine .bind (ask_steady truthful.interruptsDisabled) (fun _ => .bind (.ensure _ _) (fun _ => ?_))
  refine .bind (ask_steady truthful.cpuId) (fun _ => .bind (.ensure _ _) (fun _ => ?_))
  exact .bind (ask_steady truthful.readCr3) (fun _ => .bind (.ensure _ _) (fun _ => .pure _))

theorem invalidate_cells (truthful : Truthful hardware view) (virtualAddress cpuId : Nat) (kind : ReceiptKind) :
    Steps (SameCells view) (invalidate hardware virtualAddress cpuId kind : A E T W InvalidationReceipt) := by
  refine .bind ⟨fun m => truthful.invalidatePage virtualAddress m.hardware⟩ (fun _ => ?_)
  refine .bind ⟨fun _ => rfl⟩ (fun _ => .bind ⟨fun m => truthful.readCr3 m.hardware⟩ (fun _ => ?_))
  refine .bind (.ensure _ _) (fun _ => .bind ⟨fun m => truthful.cpuId m.hardware⟩ (fun _ => ?_))
  exact .bind (.ensure _ _) (fun _ => .bind (.lift _) (fun _ => .bind ⟨fun _ => rfl⟩ (fun _ => .pure _)))

/-- What comes after the rewrite. -/
def finish (hardware : ActiveHardware W) (kind : ReceiptKind) (cpuId : Nat) (leaf : Leaf) :
    A E T W InvalidationReceipt := do
  let receipt ← invalidate hardware leaf.virtualAddress cpuId kind
  if kind = .protect then do
    let value ← request (hardware.readU64 leaf.address)
    let translation := translationOf value
    Op.ensure (¬ (translation.physicalAddress ≠ leaf.data ∨ translation.writable = true ∨
      translation.executable = false ∨ translation.user = false)) .permission
    let probe ← request (hardware.readU8 userWindowStart)
    Op.ensure (probe = probeValue) .permission
    return receipt
  else return receipt

/-- The three operations are a rewrite and what comes after it. -/
theorem unmap_eq (kind : ReceiptKind) : (unmap hardware kind : A E T W InvalidationReceipt) =
      rewriteLeaf hardware kind >>= fun done => finish hardware kind done.1 done.2 := by
  cases kind with
  | protect =>
    unfold unmap protectUser finish Leaf.address
    simp only [if_true, bind_assoc, pure_bind]
  | userUnmap =>
    unfold unmap beginUserUnmap finish
    simp only [reduceCtorEq, if_false, bind_pure]
  | directUnmap =>
    unfold unmap revokeDataDirectMap finish
    simp only [reduceCtorEq, if_false, bind_pure]

theorem finish_cells (truthful : Truthful hardware view) (kind : ReceiptKind) (cpuId : Nat) (leaf : Leaf) :
    Steps (SameCells view) (finish hardware kind cpuId leaf : A E T W InvalidationReceipt) := by
  refine .bind (invalidate_cells truthful leaf.virtualAddress cpuId kind) (fun receipt => ?_)
  split
  · refine .bind ⟨fun m => truthful.readU64 leaf.address m.hardware⟩ (fun _ => .bind (.ensure _ _) (fun _ => ?_))
    exact .bind ⟨fun m => truthful.readU8 userWindowStart m.hardware⟩
      (fun _ => .bind (.ensure _ _) (fun _ => .pure _))
  · exact .pure _

variable {m : Machine E T W} {address : Nat}

/-- A word that reads back is there. -/
theorem wp_writeVerified (truthful : Truthful hardware view) (value : Word) :
    wp (writeVerified (request (hardware.readU64 address))
        (fun value => request (hardware.writeU64 address value)) value)
      (fun verified after => after.space = m.space ∧ (view after.hardware).byte = (view m.hardware).byte ∧
        (verified = true → (view after.hardware).word address = value)) (fun _ _ => False) m := by
  have bytes := truthful.writes address value m.hardware
  unfold writeVerified
  simp only [wp_bind, wp_attempt]
  split
  · exact ⟨rfl, bytes, by simp⟩
  · simp only [wp_bind, wp_attempt, wp_pure, decide_eq_true_eq]
    have same := truthful.readU64 address (hardware.writeU64 address value m.hardware).2
    refine ⟨rfl, ?_, fun found => ?_⟩
    · exact (congrArg Cells.byte same).trans bytes
    · have word := truthful.reads address _ value found
      exact (congrFun (congrArg Cells.word same) address).trans word

/-- The exchange of one word leaves the new value, or the old one if the undo does not fail. -/
theorem wp_activeReplace (truthful : Truthful hardware view) {tableVirtual index : Nat}
    (place : entryAddress tableVirtual index = .ok address) (expected replacement : Word) :
    wp (activeReplace hardware tableVirtual index expected replacement)
      (fun _ after => after.space = m.space ∧ (view after.hardware).word address = replacement)
      (fun reason after => after.space = m.space ∧ (view after.hardware).byte = (view m.hardware).byte ∧
        (reason ≠ .rollbackFailed → (view after.hardware).word address = (view m.hardware).word address)) m := by
  have same := truthful.readU64 address m.hardware
  unfold activeReplace exchange
  rw [place, wp_bind, wp_lift_ok]
  simp only [wp_bind]
  refine wp_request_intro (fun found answer => ?_) (fun reason _ => ⟨rfl, ?_, fun _ => ?_⟩)
  rotate_left
  · exact congrArg Cells.byte same
  · exact congrFun (congrArg Cells.word same) address
  have here := truthful.reads address m.hardware found answer
  refine wp_ensure_intro (fun agreed => ?_) (fun _ => ⟨rfl, congrArg Cells.byte same, fun _ =>
    congrFun (congrArg Cells.word same) address⟩)
  refine wp_mono (wp_writeVerified truthful replacement) (fun verified middle first => ?_)
    (fun _ _ never => never.elim)
  obtain ⟨space, bytes, stored⟩ := first
  have bytes := bytes.trans (congrArg Cells.byte same)
  split
  · rename_i yes
    exact ⟨space, stored yes⟩
  · rw [wp_bind]
    refine wp_mono (wp_writeVerified truthful expected) (fun undone after second => ?_)
      (fun _ _ never => never.elim)
    obtain ⟨space', bytes', restored⟩ := second
    split
    · rename_i yes
      refine ⟨space'.trans space, bytes'.trans bytes, fun _ => ?_⟩
      rw [restored yes, ← agreed, here]
    · exact ⟨space'.trans space, bytes'.trans bytes, fun other => absurd rfl other⟩

/-- A rewrite leaves the leaf with its replacement; where it fails, the space and the probe are untouched. -/
theorem wp_rewriteLeaf (truthful : Truthful hardware view) {kind : ReceiptKind} {leaf : Leaf}
    (plan : leafOf m.space kind = .ok leaf) : wp (rewriteLeaf hardware kind)
      (fun done after => done.2 = leaf ∧ (view after.hardware).word leaf.address =
        leaf.replacement ((view m.hardware).word leaf.address))
      (fun _ after => after.space = m.space ∧ (view after.hardware).byte = (view m.hardware).byte) m := by
  have place := (leafOf_formed plan).address
  unfold rewriteLeaf
  simp only [wp_bind, wp_thisSpace]
  refine wp_mono ((requireActive_steady truthful).wp m) (fun cpuId m₁ steady => ?_)
    (fun _ m₁ steady => ⟨steady.1, congrArg Cells.byte steady.2⟩)
  rw [steady.1, plan, wp_lift_ok, Op.wp_mapError]
  unfold observedActiveLeaf
  rw [place, wp_bind, wp_lift_ok]
  simp only [wp_bind, wp_pure, Op.wp_mapError]
  have same : view (hardware.readU64 leaf.address m₁.hardware).2 = view m.hardware :=
    (truthful.readU64 leaf.address m₁.hardware).trans steady.2
  have untouched := congrArg Cells.byte same
  refine wp_request_intro (fun observed answer => ?_) (fun _ _ => ⟨steady.1, untouched⟩)
  have here := truthful.reads leaf.address m₁.hardware observed answer
  refine wp_ensure_intro (fun _ => ?_) (fun _ => ⟨steady.1, untouched⟩)
  refine wp_mono (wp_activeReplace truthful place observed (leaf.replacement observed))
    (fun _ after replaced => ?_) (fun _ after failed => ⟨failed.1.trans steady.1, failed.2.1.trans untouched⟩)
  refine ⟨trivial, ?_⟩
  rw [← steady.2, here]
  exact replaced.2

end Failing

section Working

variable {hardware : ActiveHardware W} {view : W → Cells} {kind : ReceiptKind} {leaf : Leaf}
  {m : Machine E T W}

/-- What a call needs on a processor that works: the leaf still holds what the call looks for, the receipts
are not used up, and a page that is protected still holds the probe. -/
structure Ready (view : W → Cells) (kind : ReceiptKind) (leaf : Leaf) (m : Machine E T W) : Prop where
  active : m.space.lifecycle = .active
  leaf : leaf.Holds ((view m.hardware).word leaf.address)
  receipts : m.space.nextReceipt + 1 < u64Values
  probe : kind = .protect → (view m.hardware).byte userWindowStart = probeValue

theorem requireActive_works {address : Nat} (works : Works hardware view (m.space.tables 0) address) :
    wp (requireActive hardware)
      (fun cpuId after => m.space.lifecycle = .active ∧ cpuId = bspCpuId ∧ Steady view m after)
      (fun _ _ => m.space.lifecycle ≠ .active) m := by
  unfold requireActive
  simp only [wp_bind, wp_thisSpace, wp_ask, wp_pure]
  refine wp_ensure_intro (fun active => ?_) (fun inactive => inactive)
  refine wp_ensure_intro (fun _ => ?_) (fun enabled => absurd (works.interruptsDisabled _).1 enabled)
  refine wp_ensure_intro (fun bsp => ?_) (fun other => absurd (works.cpuId _).1 other)
  refine wp_ensure_intro (fun _ => ⟨active, bsp, rfl, ?_⟩) (fun other => absurd (works.readCr3 _).1 other)
  exact (works.readCr3 _).2.trans ((works.cpuId _).2.trans (works.interruptsDisabled _).2)

theorem wp_request_ok {α : Type} {method : W → Except Error α × W} {value : α} {done : α → Machine E T W → Prop}
    {failed : Error → Machine E T W → Prop} (answer : (method m.hardware).1 = .ok value)
    (holds : done value { m with hardware := (method m.hardware).2 }) :
    wp (request method) done failed m := by
  refine wp_request_intro (fun other same => ?_) (fun reason failed => ?_)
  · rw [answer] at same
    cases same
    exact holds
  · rw [answer] at failed
    cases failed

/-- On a processor that works the exchange goes through. -/
theorem activeReplace_works {root tableVirtual index address : Nat} (works : Works hardware view root address)
    (place : entryAddress tableVirtual index = .ok address) (replacement : Word) :
    wp (activeReplace hardware tableVirtual index ((view m.hardware).word address) replacement)
      (fun _ after => after.space = m.space ∧ (view after.hardware).byte = (view m.hardware).byte ∧
        (view after.hardware).word address = replacement) (fun _ _ => False) m := by
  obtain ⟨found, still⟩ := works.readU64 m.hardware
  unfold activeReplace exchange
  rw [place, wp_bind, wp_lift_ok]
  simp only [wp_bind]
  refine wp_request_ok found (wp_ensure_intro (fun _ => ?_) (fun differs => differs rfl))
  obtain ⟨written, stored, bytes⟩ := works.writeU64 replacement (hardware.readU64 address m.hardware).2
  obtain ⟨back, after⟩ := works.readU64
    (hardware.writeU64 address replacement (hardware.readU64 address m.hardware).2).2
  unfold writeVerified
  simp only [wp_bind, wp_attempt]
  split
  · rename_i refused
    cases written.symm.trans refused
  simp only [wp_bind, wp_attempt, wp_pure]
  have verified : (hardware.readU64 address
      (hardware.writeU64 address replacement (hardware.readU64 address m.hardware).2).2).1 = .ok replacement := by
    rw [back, stored]
  change wp (if decide ((hardware.readU64 address
    (hardware.writeU64 address replacement (hardware.readU64 address m.hardware).2).2).1 = .ok replacement) = true
    then _ else _) _ _ _
  rw [verified, decide_eq_true rfl, if_pos rfl]
  refine ⟨rfl, ?_, ?_⟩
  · exact (congrArg Cells.byte after).trans (bytes.trans (congrArg Cells.byte still))
  · exact (congrFun (congrArg Cells.word after) address).trans stored

theorem rewriteLeaf_works (works : Works hardware view (m.space.tables 0) leaf.address)
    (plan : leafOf m.space kind = .ok leaf) : wp (rewriteLeaf hardware kind)
      (fun done after => m.space.lifecycle = .active ∧ leaf.Holds ((view m.hardware).word leaf.address) ∧
        done = (bspCpuId, leaf) ∧ after.space = m.space ∧ (view after.hardware).byte = (view m.hardware).byte ∧
        (view after.hardware).word leaf.address = leaf.replacement ((view m.hardware).word leaf.address))
      (fun _ _ => m.space.lifecycle = .active → ¬ leaf.Holds ((view m.hardware).word leaf.address)) m := by
  have place := (leafOf_formed plan).address
  unfold rewriteLeaf
  simp only [wp_bind, wp_thisSpace]
  refine wp_mono (requireActive_works works) (fun cpuId m₁ steady => ?_)
    (fun _ _ inactive active => absurd active inactive)
  obtain ⟨active, rfl, space, cells⟩ := steady
  rw [space, plan, wp_lift_ok, Op.wp_mapError]
  unfold observedActiveLeaf
  rw [place, wp_bind, wp_lift_ok]
  simp only [wp_bind, wp_pure, Op.wp_mapError]
  obtain ⟨found, still⟩ := works.readU64 m₁.hardware
  refine wp_request_ok found ?_
  rw [cells]
  refine wp_ensure_intro (fun holds => ?_) (fun differs _ => differs)
  have same := still.trans cells
  have replaced := activeReplace_works (m := { m₁ with hardware := (hardware.readU64 leaf.address m₁.hardware).2 })
    works place (leaf.replacement ((view m.hardware).word leaf.address))
  rw [same] at replaced
  refine wp_mono replaced (fun _ after kept => ?_) (fun _ _ never => never.elim)
  exact ⟨active, holds, trivial, kept.1.trans space, kept.2.1, kept.2.2⟩

theorem invalidate_works {address : Nat} (works : Works hardware view (m.space.tables 0) address) (virtualAddress : Nat)
    (kind : ReceiptKind) : wp (invalidate hardware virtualAddress bspCpuId kind)
      (fun receipt after => m.space.nextReceipt + 1 < u64Values ∧ receipt.sequence = m.space.nextReceipt ∧
        SameCells view m after) (fun _ _ => ¬ m.space.nextReceipt + 1 < u64Values) m := by
  unfold invalidate
  simp only [wp_bind, wp_thisSpace, wp_ask, wp_change, wp_pure]
  refine wp_request_ok (works.invalidatePage _ _).1 ?_
  refine wp_ensure_intro (fun _ => ?_) (fun other => absurd (works.readCr3 _).1 other)
  refine wp_ensure_intro (fun _ => ?_) (fun other => absurd (works.cpuId _).1 other)
  refine Op.wp_orError (fun next room => ?_) (fun full => ?_)
  · obtain ⟨below, -⟩ := checkedAdd_eq_some.mp room
    refine ⟨below, rfl, ?_⟩
    exact (works.cpuId _).2.trans ((works.readCr3 _).2.trans (works.invalidatePage _ _).2)
  · exact Nat.not_lt.mpr (checkedAdd_eq_none.mp full)

/-- A call on a processor that works returns exactly when it is ready. -/
theorem unmap_works (works : Works hardware view (m.space.tables 0) leaf.address) (plan : leafOf m.space kind = .ok leaf) :
    wp (unmap hardware kind)
      (fun receipt _ => Ready view kind leaf m ∧ receipt.sequence = m.space.nextReceipt)
      (fun _ _ => ¬ Ready view kind leaf m) m := by
  have formed := leafOf_formed plan
  rw [unmap_eq, wp_bind]
  refine wp_mono (rewriteLeaf_works works plan) (fun done m₁ rewritten => ?_)
    (fun _ _ differs ready => differs ready.active ready.leaf)
  obtain ⟨active, holds, rfl, space, bytes, stored⟩ := rewritten
  unfold finish
  rw [wp_bind]
  have works₁ : Works hardware view (m₁.space.tables 0) leaf.address := space ▸ works
  refine wp_mono (invalidate_works works₁ leaf.virtualAddress kind) (fun receipt m₂ numbered => ?_)
    (fun _ _ full ready => full (space ▸ ready.receipts))
  obtain ⟨room, number, cells⟩ := numbered
  rw [space] at room number
  split
  · rename_i protects
    simp only [wp_bind, wp_pure]
    obtain ⟨found, still⟩ := works.readU64 m₂.hardware
    refine wp_request_ok found ?_
    have value : (view m₂.hardware).word leaf.address =
        leaf.replacement ((view m.hardware).word leaf.address) :=
      (congrFun (congrArg Cells.word cells) leaf.address).trans stored
    rw [value, formed.protects protects]
    refine wp_ensure_intro (fun _ => ?_) (fun wrong => absurd (by simp) wrong)
    obtain ⟨probe, -⟩ := works.readU8 (hardware.readU64 leaf.address m₂.hardware).2
    refine wp_request_ok probe ?_
    have byte : (view (hardware.readU64 leaf.address m₂.hardware).2).byte = (view m.hardware).byte :=
      (congrArg Cells.byte (still.trans cells)).trans bytes
    rw [byte]
    exact wp_ensure_intro (fun same => ⟨⟨active, holds, room, fun _ => same⟩, number⟩)
      (fun differs ready => differs (ready.probe protects))
  · rename_i other
    exact ⟨⟨active, holds, room, fun protects => absurd protects other⟩, number⟩

end Working

section Retry

variable {first second : ActiveHardware W} {view : W → Cells} {kind : ReceiptKind} {leaf : Leaf}
  {before after : Machine E T W}

/-- The call stops before its rewrite has taken effect. -/
def StopsBefore (hardware : ActiveHardware W) (kind : ReceiptKind) (m : Machine E T W) : Prop :=
  ∃ reason after, (rewriteLeaf hardware kind).run m = (.error reason, after)

/-- A call that fails, and leaves no leaf behind that it has neither rewritten nor restored. -/
structure Failure (hardware : ActiveHardware W) (view : W → Cells) (kind : ReceiptKind) (leaf : Leaf)
    (before after : Machine E T W) : Prop where
  failed : ∃ reason, (unmap hardware kind).run before = (.error reason, after)
  recovered : StopsBefore hardware kind before →
    (view after.hardware).word leaf.address = (view before.hardware).word leaf.address

theorem Ready.transfer {m m' : Machine E T W} (ready : Ready view kind leaf m) (space : m'.space = m.space)
    (word : (view m'.hardware).word leaf.address = (view m.hardware).word leaf.address)
    (byte : (view m'.hardware).byte = (view m.hardware).byte) : Ready view kind leaf m' where
  active := space ▸ ready.active
  leaf := word ▸ ready.leaf
  receipts := space ▸ ready.receipts
  probe := byte ▸ ready.probe

/-- A failed call can be repeated when it stopped before its rewrite, and only then: afterwards the leaf
holds what no call looks for. -/
theorem failed_unmap_retries_iff {space : ActiveAddressSpace} {issued : List InvalidationReceipt}
    (reached : Reached space issued) (kind : ReceiptKind) : ∃ leaf, leafOf space kind = .ok leaf ∧
      ∀ (first second : ActiveHardware W) (view : W → Cells) (host : Host E T) (w later : W)
        (after : Machine E T W), Truthful first view → Works second view (space.tables 0) leaf.address →
        Failure first view kind leaf ⟨space, host, w⟩ after → view later = view after.hardware →
        ((∃ receipt done, (unmap second kind).run ⟨after.space, after.host, later⟩ = (.ok receipt, done) ∧
            ∀ earlier ∈ issued, earlier.sequence < receipt.sequence) ↔
          StopsBefore first kind (⟨space, host, w⟩ : Machine E T W) ∧
            Ready view kind leaf (⟨space, host, w⟩ : Machine E T W)) := by
  obtain ⟨leaf, plan⟩ := reached.leaf kind
  refine ⟨leaf, plan, fun first second view host w later after truthful works failure cells => ?_⟩
  obtain ⟨⟨reason, failed⟩, recovered⟩ := failure
  have carries := (Op.wp_iff.mp (wp_unmap first kind ⟨space, host, w⟩)).2 reason (by rw [failed])
  rw [failed] at carries
  have kept : leafOf after.space kind = .ok leaf := (leafOf_carries carries kind).trans plan
  have retry := Op.wp_iff.mp (unmap_works (m := ⟨after.space, after.host, later⟩)
    (by rw [carries.tables]; exact works) kept)
  have rewrites := Op.wp_iff.mp (wp_rewriteLeaf (m := ⟨space, host, w⟩) truthful plan)
  rw [unmap_eq, Op.run_bind] at failed
  rcases rewritten : (rewriteLeaf first kind).run ⟨space, host, w⟩ with ⟨why | done, m₁⟩
  · -- The call stopped before the rewrite: nothing that a call looks at has changed.
    have stops : StopsBefore first kind ⟨space, host, w⟩ := ⟨why, m₁, rewritten⟩
    rw [rewritten] at failed rewrites
    cases failed
    obtain ⟨same, bytes⟩ := rewrites.2 reason rfl
    have word := recovered stops
    have wordLater := (congrFun (congrArg Cells.word cells) leaf.address).trans word
    have byteLater := (congrArg Cells.byte cells).trans bytes
    have ready : Ready view kind leaf (⟨after.space, after.host, later⟩ : Machine E T W) ↔
        Ready view kind leaf (⟨space, host, w⟩ : Machine E T W) :=
      ⟨fun ready => ready.transfer same.symm wordLater.symm byteLater.symm,
        fun ready => ready.transfer same wordLater byteLater⟩
    refine ⟨fun ⟨receipt, done, ran, _⟩ => ⟨stops, ready.mp (retry.1 receipt (by rw [ran])).1⟩, fun both => ?_⟩
    rcases ran : (unmap second kind).run ⟨after.space, after.host, later⟩ with ⟨other | receipt, done⟩
    · exact absurd (ready.mpr both.2) (retry.2 other (by rw [ran]))
    · refine ⟨receipt, done, rfl, fun earlier member => ?_⟩
      rw [(retry.1 receipt (by rw [ran])).2, same]
      exact reached.receipts earlier member
  · -- The rewrite took effect: the leaf holds the replacement, and no call looks for that.
    rw [rewritten] at failed rewrites
    obtain ⟨same, stored⟩ := rewrites.1 done rfl
    have still := (finish_cells truthful kind done.1 done.2).rel m₁
    simp only at failed
    rw [failed] at still
    have word : (view later).word leaf.address = leaf.replacement ((view w).word leaf.address) := by
      rw [cells, still]
      exact stored
    constructor
    · rintro ⟨receipt, last, ran, -⟩
      have holds := (retry.1 receipt (by rw [ran])).1.leaf
      simp only [word] at holds
      exact absurd holds ((leafOf_formed plan).differs _)
    · rintro ⟨⟨why, middle, stopped⟩, -⟩
      rw [rewritten] at stopped
      cases stopped

/-- The words of the tables that are not zero, by address, in room for a hundred. -/
abbrev Words : Type := List (Nat × Word)

def Words.find (address : Nat) : Words → Word
  | [] => 0#64
  | cell :: rest => bif Nat.beq cell.1 address then cell.2 else find address rest

def Words.drop (address : Nat) : Words → Words
  | [] => []
  | cell :: rest => bif Nat.beq cell.1 address then rest else cell :: drop address rest

def Words.put (address : Nat) (value : Word) (cells : Words) : Words :=
  bif Nat.beq value.toNat 0 then cells.drop address else (address, value) :: cells.drop address

def wordMemory : TableMemory Words where
  preparePage _ cells := (true, cells)
  readEntry table index cells := (some (cells.find (table + index * 8)), cells)
  writeEntry table index value cells :=
    (Nat.blt (cells.put (table + index * 8) value).length 100, cells.put (table + index * 8) value)
  finish cells := (true, cells)

/-- The boot tables: four pages of the kernel, the ends of its stack, and the handoff. -/
def bootWords : Words :=
  [(0x108ff8, 0x109003#64), (0x109ff0, 0x10a003#64), (0x10a000, 0x10b003#64), (0x10b000, 0x100001#64),
    (0x10b008, 0x101001#64), (0x10b010, 0x102001#64), (0x10b018, 0x103001#64),
    (0x10b028, 0x800000000010c003#64), (0x10b140, 0x800000000010d003#64), (0x10b158, 0x8000000000104001#64)]

def smallInput : ActiveAddressSpaceInput :=
  { bootInput [⟨4096, 8, .writeBack⟩] 8 0 4096 4104 with
    core := ⟨0x108000, 0x100000, 0x4000, 0xffffffff80000000, 0xffffffff80000000, 0xffffffff80029000, 0x104000,
      0xffffffff8002b000, 0x1000⟩ }

def tableHandle : Pmm.AllocationHandle := ⟨0, 1, 4096, 7, .dma32, tableOwner⟩
def dataHandle : Pmm.AllocationHandle := ⟨1, 2, 4103, 1, .dma32, dataOwner⟩

def smallHost : Host Unit Words := ⟨(bootHost [(4096, 8)] 7).world, bootWords⟩

/-- The space over eight pages, and the same after it was activated and its user page protected. -/
def smallSpace : ActiveAddressSpace :=
  { prepared tableHandle dataHandle ⟨[8], [0], 7⟩ 0x1000000 smallInput with
    retainedTables := some ⟨tableHandle, 1⟩, retainedData := some ⟨dataHandle, 2⟩ }

def activeSpace : ActiveAddressSpace := { smallSpace with cr3Writes := 1, lifecycle := .active }

def protectedSpace : ActiveAddressSpace :=
  { activeSpace with nextReceipt := 2, localInvalidations := 1, activeReceipts := 1 }

def protectReceipt : InvalidationReceipt := ⟨1, 0x1000000, 1, userWindowStart, 0, .protect⟩

/-- A processor with its memory, which may be told that it is another one, or to refuse invalidations. -/
structure Bench where
  words : Nat → Word
  byte : Nat
  cr3 : Nat

def bench (cpu : Nat) (invalidates : Bool) : ActiveHardware Bench where
  interruptsDisabled w := (true, w)
  cpuId w := (cpu, w)
  readCr3 w := (w.cr3, w)
  writeCr3 value w := (.ok (), { w with cr3 := value })
  invalidatePage _ w := (if invalidates then .ok () else .error .memoryAccess, w)
  readU64 address w := (.ok (w.words address), w)
  writeU64 address value w := (.ok (), { w with words := Function.update w.words address value })
  readU8 _ w := (.ok w.byte, w)
  writeU8 _ value w := (.ok (), { w with byte := value })

/-- The same with its root fixed. -/
def settledBench : ActiveHardware Bench := { bench 0 true with readCr3 := fun w => (0x1000000, w) }

def benchCells (w : Bench) : Cells := ⟨w.words, fun _ => w.byte⟩

/-- The leaf of the user page as `initialize` leaves it, and as `protect_user` does. -/
def bootBench : Bench := ⟨Function.update (fun _ => 0#64) 0xffff900001003000 0x8000000001007007#64, 0, 0x108000⟩
def runningBench : Bench := ⟨Function.update bootBench.words 0xffff900001003000 0x1007005#64, 0xa5, 0x1000000⟩

/-- After the leaf was cleared. -/
def clearedBench : Bench := ⟨Function.update runningBench.words 0xffff900001003000 0#64, 0xa5, 0x1000000⟩

theorem bench_truthful (cpu : Nat) (invalidates : Bool) : Truthful (bench cpu invalidates) benchCells where
  interruptsDisabled _ := rfl
  cpuId _ := rfl
  readCr3 _ := rfl
  invalidatePage _ _ := rfl
  readU64 _ _ := rfl
  reads address w value answer := by
    cases answer
    rfl
  writes _ _ _ := rfl
  readU8 _ _ := rfl

theorem settledBench_works (address : Nat) : Works settledBench benchCells 0x1000000 address where
  interruptsDisabled _ := ⟨rfl, rfl⟩
  cpuId _ := ⟨rfl, rfl⟩
  readCr3 _ := ⟨show rootOf 0x1000000 = 0x1000000 by decide, rfl⟩
  invalidatePage _ _ := ⟨rfl, rfl⟩
  readU64 _ := ⟨rfl, rfl⟩
  writeU64 value w := ⟨rfl, Function.update_self .., rfl⟩
  readU8 _ := ⟨rfl, rfl⟩

theorem smallSpace_built : ∃ after, (initializeSpace wordMemory tableHandle dataHandle smallInput).run smallHost =
    (.ok smallSpace, after) := by
  have tokens : ((initializeSpace wordMemory tableHandle dataHandle smallInput).run smallHost).1.toOption.map
      (fun space => (space.retainedTables, space.retainedData)) =
        some (some ⟨tableHandle, 1⟩, some ⟨dataHandle, 2⟩) := by decide +kernel
  have admitted : admitInput tableHandle dataHandle smallInput =
      .ok (⟨[8], [0], 7⟩, 0x1000000, 0x1007000) := by decide +kernel
  rcases built : (initializeSpace wordMemory tableHandle dataHandle smallInput).run smallHost with
    ⟨reason | space, after⟩
  · rw [built] at tokens
    cases tokens
  · obtain ⟨topology, root, data, checked, same⟩ := initializeSpace_built built
    rw [admitted] at checked
    cases checked
    rw [built] at tokens
    simp only [Except.toOption, Option.map_some, Option.some.injEq, Prod.mk.injEq] at tokens
    rw [tokens.1, tokens.2] at same
    exact ⟨after, by rw [same]; rfl⟩

/-- It was activated, its probe written, and its page protected. -/
theorem protected_reached : Reached protectedSpace [protectReceipt] := by
  obtain ⟨after, built⟩ := smallSpace_built
  have activated : Reached activeSpace [] :=
    (Reached.initialized built).called (bench 0 true) wordMemory .activate smallHost bootBench
  have probed : Reached activeSpace [] :=
    activated.called (bench 0 true) wordMemory .writeProbe smallHost { bootBench with cr3 := 0x1000000 }
  exact probed.called (bench 0 true) wordMemory (.unmap .protect) smallHost
    { bootBench with cr3 := 0x1000000, byte := 0xa5 }

/-- The leaf of the user page, as `begin_user_unmap` sees it. -/
def smallLeaf : Leaf :=
  ⟨0x1007000, 0xffff900001003000, 0, 0x1007005#64, fun _ => 0#64, userWindowStart⟩

theorem smallLeaf_planned : leafOf protectedSpace .userUnmap = .ok smallLeaf := by
  have address : physicalAddress protectedSpace.dataAllocation = .ok 0x1007000 := by decide +kernel
  have table : directAddress (protectedSpace.tables 3) = .ok 0xffff900001003000 := by decide +kernel
  unfold leafOf userLeaf
  rw [address, ok_bind, table, ok_bind]
  exact congrArg Except.ok (Leaf.mk.injEq .. |>.mpr ⟨rfl, rfl, by decide, by decide, rfl, rfl⟩)

theorem smallLeaf_ready : Ready benchCells .userUnmap smallLeaf
    (⟨protectedSpace, smallHost, runningBench⟩ : Machine Unit Words Bench) where
  active := rfl
  leaf := by decide
  receipts := by decide
  probe := nofun

/-- A call on a processor that takes itself for another one stops at once, and goes through on the next. -/
theorem failed_unmap_retries_after_cpu_mismatch : ∃ leaf, leafOf protectedSpace .userUnmap = .ok leaf ∧
    ∃ receipt done, (unmap settledBench .userUnmap).run (⟨protectedSpace, smallHost, runningBench⟩ :
      Machine Unit Words Bench) = (.ok receipt, done) ∧
      ∀ earlier ∈ [protectReceipt], earlier.sequence < receipt.sequence := by
  obtain ⟨leaf, plan, retries⟩ := failed_unmap_retries_iff (E := Unit) (T := Words) (W := Bench)
    protected_reached .userUnmap
  obtain rfl : smallLeaf = leaf := Except.ok.inj (smallLeaf_planned.symm.trans plan)
  have stops : StopsBefore (bench 1 true) .userUnmap
      (⟨protectedSpace, smallHost, runningBench⟩ : Machine Unit Words Bench) := ⟨_, _, rfl⟩
  exact ⟨smallLeaf, plan, (retries (bench 1 true) settledBench benchCells smallHost runningBench runningBench
    ⟨protectedSpace, smallHost, runningBench⟩ (bench_truthful 1 true) (settledBench_works _)
    ⟨⟨_, rfl⟩, fun _ => rfl⟩ rfl).mpr ⟨stops, smallLeaf_ready⟩⟩

/-- An invalidation that fails once leaves the leaf empty, and every later call refuses to go on: the data
page has no receipt with which it could be released. -/
theorem failed_invalidation_is_final : Reached protectedSpace [protectReceipt] ∧
    leafOf protectedSpace .userUnmap = .ok smallLeaf ∧
    Ready benchCells .userUnmap smallLeaf (⟨protectedSpace, smallHost, runningBench⟩ : Machine Unit Words Bench) ∧
    Truthful (bench 0 false) benchCells ∧ Works settledBench benchCells (protectedSpace.tables 0) smallLeaf.address ∧
    ∃ after, Failure (bench 0 false) benchCells .userUnmap smallLeaf ⟨protectedSpace, smallHost, runningBench⟩ after ∧
      ((unmap settledBench .userUnmap).run after).1 = .error .userUnmapTransaction := by
  refine ⟨protected_reached, smallLeaf_planned, smallLeaf_ready, bench_truthful 0 false, settledBench_works _,
    ⟨protectedSpace, smallHost, clearedBench⟩, ⟨⟨.memoryAccess, rfl⟩, ?_⟩, rfl⟩
  rintro ⟨reason, after, stopped⟩
  have rewritten : (rewriteLeaf (bench 0 false) .userUnmap).run
      (⟨protectedSpace, smallHost, runningBench⟩ : Machine Unit Words Bench) =
        (.ok (0, smallLeaf), ⟨protectedSpace, smallHost, clearedBench⟩) := rfl
  rw [rewritten] at stopped
  cases stopped

end Retry

end PooleOS.Active
