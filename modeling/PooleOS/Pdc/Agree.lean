import PooleOS.Lib.Grid
import PooleOS.Lib.Result
import PooleOS.Pdc.Model

/- The oracles agree: a row of the closed Moore matrix weighs a field exactly as the
loops over a cell and its neighbours do. -/
namespace PooleOS.Pdc

open Nat Function Except
open List

section Shapes

/-- The weights of the neighbourhood along one axis. -/
def axisRow (extent row : Nat) : List Int :=
  deltas.foldl (fun cells delta => cells.modify (wrap row delta extent) (· + 1)) (List.replicate extent 0)

variable {extent row coordinate : Nat} {delta : Int}

theorem wrap_lt (positive : 0 < extent) : wrap coordinate delta extent < extent := by
  have most := Int.emod_lt_of_pos (coordinate + delta) (Int.natCast_pos.mpr positive)
  unfold wrap
  omega

theorem wrap_zero (inside : coordinate < extent) : wrap coordinate 0 extent = coordinate := by
  unfold wrap
  rw [Int.add_zero, Int.emod_eq_of_lt (Int.natCast_nonneg _) (Int.ofNat_lt.mpr inside), Int.toNat_natCast]

theorem axisRow_length : (axisRow extent row).length = extent := by
  simp [axisRow, deltas]

theorem weigh_axisRow (positive : 0 < extent) (value : Nat → Int) :
    weigh (axisRow extent row) value = (deltas.map (fun delta => value (wrap row delta extent))).sum := by
  have inside : ∀ delta, wrap row delta extent < extent := fun _ => wrap_lt positive
  simp only [axisRow, deltas, foldl_cons, foldl_nil, map_cons, map_nil, sum_cons, sum_nil]
  rw [weigh_modify 1 (by simp [inside]), weigh_modify 1 (by simp [inside]), weigh_modify 1 (by simp [inside]),
    weigh_zero]
  ring

/-- The loops of a Kronecker row write every product once. -/
theorem kroneckerRow_eq (leftRow rightRow : List Int) :
    kroneckerRow leftRow rightRow = leftRow.flatMap (fun factor => rightRow.map (factor * ·)) := by
  -- The induction carries the blocks that are already written.
  have blocks : ∀ (rest : List Int) (done : Nat) (front : List Int), front.length = done * rightRow.length →
      (rest.zipIdx done).foldl (fun output left =>
        if left.1 = 0 then output
        else rightRow.zipIdx.foldl (fun output right =>
          output.set (left.2 * rightRow.length + right.2) (left.1 * right.1)) output)
        (front ++ replicate (rest.length * rightRow.length) 0) =
      front ++ rest.flatMap (fun factor => rightRow.map (factor * ·)) := by
    intro rest
    induction rest with
    | nil =>
      intro done front _
      simp
    | cons factor rest ih =>
      intro done front length
      have room : replicate ((factor :: rest).length * rightRow.length) (0 : Int) =
          replicate rightRow.length 0 ++ replicate (rest.length * rightRow.length) 0 := by
        rw [replicate_append_replicate, length_cons, succ_mul, add_comm]
      have block : (if factor = 0 then front ++ (replicate rightRow.length 0 ++
            replicate (rest.length * rightRow.length) 0)
          else rightRow.zipIdx.foldl (fun output right =>
            output.set (done * rightRow.length + right.2) (factor * right.1))
            (front ++ (replicate rightRow.length 0 ++ replicate (rest.length * rightRow.length) 0))) =
          (front ++ rightRow.map (factor * ·)) ++ replicate (rest.length * rightRow.length) 0 := by
        split
        · rename_i zero
          simp [zero]
        · have positioned := positioned_zipIdx (done * rightRow.length) rightRow
          rw [← length] at positioned
          have products : rightRow.zipIdx.map (fun right => factor * right.1) =
              rightRow.map (factor * ·) := by
            rw [← zipIdx_map_fst 0 rightRow, map_map, zipIdx_map_fst]
            rfl
          rw [← length, foldl_set positioned (by simp), append_assoc, products]
      rw [zipIdx_cons, foldl_cons, room]
      rw [block, ih (done + 1)]
      · rw [flatMap_cons, append_assoc]
      · rw [length_append, length_map, length, succ_mul]
  have whole := blocks leftRow 0 [] (by simp)
  exact whole

theorem kroneckerRow_length (leftRow rightRow : List Int) :
    (kroneckerRow leftRow rightRow).length = leftRow.length * rightRow.length := by
  rw [kroneckerRow_eq]
  induction leftRow with
  | nil => simp
  | cons factor rest ih =>
    rw [flatMap_cons, length_append, ih, length_map, length_cons, succ_mul, add_comm]

theorem weigh_kroneckerRow (leftRow rightRow : List Int) (value : Nat → Int) :
    weigh (kroneckerRow leftRow rightRow) value = weigh leftRow (fun index =>
      weigh rightRow (fun cell => value (index * rightRow.length + cell))) := by
  rw [kroneckerRow_eq, weigh_kronecker]

end Shapes

section Tables

variable {left right : DenseMatrix} {rows cells : Nat}

/-- A matrix with this many rows and columns. -/
structure Sized (matrix : DenseMatrix) (rows cells : Nat) : Prop where
  rows : matrix.length = rows
  cells : ∀ row ∈ matrix, row.length = cells

section

variable (sized : Sized left rows cells) (filled : 0 < rows)
include sized filled

theorem Sized.columns : columns left = cells := by
  have length := sized.rows
  cases left with
  | nil =>
    rw [length_nil] at length
    omega
  | cons row rest => exact sized.cells row (mem_cons_self ..)

theorem Sized.nonempty : left ≠ [] := by
  rintro rfl
  have length := sized.rows
  rw [length_nil] at length
  omega

theorem Sized.rectangular : Rectangular left := by
  intro row member
  rw [sized.columns filled]
  exact sized.cells row member

end

/-- What a product of two tables of rows holds. -/
def kroneckerRows (left right : DenseMatrix) : DenseMatrix :=
  left.flatMap (fun leftRow => right.map (kroneckerRow leftRow))

theorem kronecker_ok {rows' cells' : Nat} (first : Sized left rows cells) (second : Sized right rows' cells')
    (filled : 0 < rows ∧ 0 < cells) (filled' : 0 < rows' ∧ 0 < cells') :
    kronecker left right = .ok (kroneckerRows left right) ∧
      Sized (kroneckerRows left right) (rows * rows') (cells * cells') := by
  have nonempty := first.nonempty filled.1
  have nonempty' := second.nonempty filled'.1
  have wide := first.columns filled.1
  have wide' := second.columns filled'.1
  refine ⟨?_, ?_, ?_⟩
  · unfold kronecker
    rw [demand_bind_eq_ok, demand_bind_eq_ok]
    refine ⟨?_, ?_, rfl⟩
    · rintro (empty | empty | none | none)
      · exact nonempty empty
      · exact nonempty' empty
      · omega
      · omega
    · rintro (ragged | ragged)
      · exact ragged (first.rectangular filled.1)
      · exact ragged (second.rectangular filled'.1)
  · unfold kroneckerRows
    rw [length_flatMap]
    simp only [length_map, map_const', sum_replicate_nat, first.rows, second.rows]
  · intro row member
    obtain ⟨leftRow, inLeft, member⟩ := mem_flatMap.mp member
    obtain ⟨rightRow, inRight, rfl⟩ := mem_map.mp member
    rw [kroneckerRow_length, first.cells leftRow inLeft, second.cells rightRow inRight]

theorem subtractIdentity_ok (sized : Sized left rows rows) (filled : 0 < rows) :
    subtractIdentity left = .ok (left.mapIdx (fun index row => row.modify index (· - 1))) ∧
      Sized (left.mapIdx (fun index row => row.modify index (· - 1))) rows rows := by
  refine ⟨?_, ?_, ?_⟩
  · unfold subtractIdentity
    rw [demand_bind_eq_ok, sized.columns filled, sized.rows]
    refine ⟨?_, rfl⟩
    rintro (different | ragged)
    · exact different rfl
    · exact ragged sized.cells
  · rw [length_mapIdx, sized.rows]
  · intro row member
    obtain ⟨index, inside, rfl⟩ := mem_mapIdx.mp member
    rw [length_modify]
    exact sized.cells _ (getElem_mem inside)

theorem matrixVectorMultiply_ok {vector : List Int} (sized : Sized left rows cells) (filled : 0 < rows)
    (length : vector.length = cells) : matrixVectorMultiply left vector =
      .ok (left.map (fun row => weigh row (fun index => vector.getD index 0))) := by
  have products : left.map (fun row => (zipWith (· * ·) row vector).sum) =
      left.map (fun row => weigh row (fun index => vector.getD index 0)) :=
    map_congr_left (fun row member => sum_zipWith_mul ((sized.cells row member).trans length.symm))
  unfold matrixVectorMultiply
  rw [demand_bind_eq_ok, demand_bind_eq_ok, sized.columns filled, ← products]
  refine ⟨sized.nonempty filled, ?_, rfl⟩
  rintro (different | ragged)
  · exact different length
  · exact ragged (sized.rectangular filled)

/-- The rows of the neighbourhoods along one axis. -/
def axisRows (extent : Nat) : DenseMatrix := (List.range extent).map (axisRow extent)

theorem axisRows_sized (extent : Nat) : Sized (axisRows extent) extent extent := by
  refine ⟨by simp [axisRows], fun row member => ?_⟩
  obtain ⟨index, _, rfl⟩ := mem_map.mp member
  exact axisRow_length

end Tables

section Accepted

variable {count : Nat}

/-- A product that is admitted is within the limit. -/
theorem checkedProduct_ok {limit : Nat} : ∀ {values : List Nat} {start product : Nat},
    values.foldlM (fun product value => do
      demand (0 < value) Error.shape
      demand (¬ limit / value < product) Error.overflow
      return product * value) start = .ok product → product = start * values.prod ∧
        (∀ value ∈ values, 0 < value) ∧ (start ≤ limit → product ≤ limit)
  | [], start, product, run => by
      cases run
      exact ⟨by simp, nofun, id⟩
  | value :: rest, start, product, run => by
      rw [foldlM_cons] at run
      obtain ⟨next, first, later⟩ := bind_eq_ok run
      rw [demand_bind_eq_ok, demand_bind_eq_ok] at first
      obtain ⟨positive, within, next⟩ := first
      cases next
      obtain ⟨total, others, bound⟩ := checkedProduct_ok later
      have fits : start * value ≤ limit := (Nat.le_div_iff_mul_le positive).mp (Nat.le_of_not_lt within)
      refine ⟨by rw [total, prod_cons, mul_assoc], ?_, fun _ => bound fits⟩
      exact forall_mem_cons.mpr ⟨positive, others⟩

/-- A product within the limit is admitted. -/
theorem checkedProduct_admits {limit : Nat} : ∀ {values : List Nat} {start : Nat},
    (∀ value ∈ values, 0 < value) → start * values.prod ≤ limit → values.foldlM (fun product value => do
        demand (0 < value) Error.shape
        demand (¬ limit / value < product) Error.overflow
        return product * value) start = .ok (start * values.prod)
  | [], start, _, _ => by
      rw [prod_nil, mul_one]
      rfl
  | value :: rest, start, positive, within => by
      obtain ⟨first, others⟩ := forall_mem_cons.mp positive
      have whole : start * value * rest.prod ≤ limit := by
        rw [mul_assoc]
        exact within
      have whole_le : start * value ≤ limit :=
        Nat.le_trans (Nat.le_mul_of_pos_right _ (prod_pos others)) whole
      have step : (do
          demand (0 < value) Error.shape
          demand (¬ limit / value < start) Error.overflow
          return start * value) = ok (start * value) := by
        rw [demand_bind_eq_ok, demand_bind_eq_ok]
        exact ⟨first, not_lt.mpr ((le_div_iff_mul_le first).mpr whole_le), rfl⟩
      rw [foldlM_cons, step, ok_bind, checkedProduct_admits others whole, prod_cons, mul_assoc]

/-- What an accepted shape is. -/
theorem validate_ok {shape : List Nat} {dimensions : Nat}
    (accepted : validatePeriodicShape shape dimensions = .ok count) :
    (∀ extent ∈ shape, 3 ≤ extent) ∧ count = shape.prod ∧ count ≤ maxReferenceCells ∧
      checkedProduct shape maxReferenceCells = .ok count := by
  unfold validatePeriodicShape at accepted
  rw [demand_bind_eq_ok] at accepted
  obtain ⟨_, run⟩ := accepted
  obtain ⟨_, extents, product⟩ := bind_eq_ok run
  have wide : ∀ extent ∈ shape, 3 ≤ extent := by
    have each : Spec (shape.forM (fun extent => demand (minPeriodicExtent ≤ extent) Error.shape))
        (fun _ => ∀ extent ∈ shape, 3 ≤ extent) (fun _ => True) :=
      spec_forM (fun extent _ => spec_demand id (fun _ => trivial))
    exact each.of_ok extents
  have admitted := product
  unfold checkedProduct at admitted
  rw [demand_bind_eq_ok] at admitted
  obtain ⟨total, _, bound⟩ := checkedProduct_ok admitted.2
  exact ⟨wide, by rw [total, one_mul], bound (by decide), product⟩

/-- Which shapes are accepted. -/
theorem validate_admits {shape : List Nat} {dimensions : Nat} (filled : shape ≠ [])
    (matching : shape.length = dimensions) (wide : ∀ extent ∈ shape, 3 ≤ extent)
    (within : shape.prod ≤ maxReferenceCells) : validatePeriodicShape shape dimensions = .ok shape.prod := by
  have extents : shape.forM (fun extent => demand (minPeriodicExtent ≤ extent) Error.shape) = .ok () :=
    forM_ok (fun extent member => if_pos (wide extent member))
  have product := @checkedProduct_admits maxReferenceCells shape 1
    (fun extent member => lt_of_lt_of_le (by decide) (wide extent member)) (by rw [one_mul]; exact within)
  rw [one_mul] at product
  unfold validatePeriodicShape checkedProduct
  rw [demand_pass matching, extents, demand_pass filled]
  exact product

theorem cyclicClosedMatrix_ok {extent : Nat} (wide : 3 ≤ extent) (within : extent ≤ maxReferenceCells) :
    cyclicClosedMatrix extent = .ok (axisRows extent) := by
  have accepted := @validate_admits [extent] 1 (cons_ne_nil _ _) rfl
    (fun other member => (mem_singleton.mp member).symm ▸ wide) (by simpa using within)
  unfold cyclicClosedMatrix
  rw [accepted]
  rfl

/-- The limit is set aside. -/
theorem withinLimit_none (count : Nat) : withinLimit none count = .ok () := by
  unfold withinLimit demand
  rw [if_pos nofun]

theorem le_product {extent : Nat} {shape : List Nat} (wide : ∀ extent ∈ shape, 3 ≤ extent)
    (member : extent ∈ shape) : extent ≤ shape.prod :=
  le_of_dvd (prod_pos (fun other member => by have := wide other member; omega)) (dvd_prod member)

end Accepted

section Support

variable {values : List Int} {shape : Shape3} {coord : Coord3}

/-- The cell and its neighbours. -/
def closedSupport (values : List Int) (shape : Shape3) (coord : Coord3) : Int :=
  (deltas.map (fun dz => (deltas.map (fun dy => (deltas.map (fun dx =>
    valueAt values shape (wrap coord.1 dx shape.1) (wrap coord.2.1 dy shape.2.1)
      (wrap coord.2.2 dz shape.2.2))).sum)).sum)).sum

/-- The coordinates are inside the shape. -/
def Inside (shape : Shape3) (coord : Coord3) : Prop :=
  coord.1 < shape.1 ∧ coord.2.1 < shape.2.1 ∧ coord.2.2 < shape.2.2

theorem coords_inside (member : coord ∈ coords shape) : Inside shape coord := by
  unfold coords at member
  simp only [mem_flatMap, mem_map, mem_range] at member
  obtain ⟨z, inZ, y, inY, x, inX, rfl⟩ := member
  exact ⟨inX, inY, inZ⟩

/-- The loops visit the cells in their order. -/
theorem coords_positioned (shape : Shape3) : Positioned (fun coord => flat coord shape) 0 (coords shape) ∧
    (coords shape).length = shape.2.2 * (shape.2.1 * shape.1) := by
  have lines : ∀ z y, Positioned (fun coord => flat coord shape) ((z * shape.2.1 + y) * shape.1)
      ((range shape.1).map (fun x => (x, y, z))) := fun z y =>
    positioned_map_range (fun _ _ => rfl)
  have planes : ∀ z, Positioned (fun coord => flat coord shape) (z * (shape.2.1 * shape.1))
      ((range shape.2.1).flatMap (fun y => (range shape.1).map (fun x => (x, y, z)))) ∧
        ((range shape.2.1).flatMap (fun y => (range shape.1).map (fun x => (x, y, z)))).length =
          shape.2.1 * shape.1 := by
    intro z
    refine positioned_flatMap (fun y => by simp) (fun y _ => ?_)
    have line := lines z y
    rw [add_mul, mul_assoc] at line
    exact line
  refine positioned_flatMap (fun z => (planes z).2) (fun z _ => ?_)
  rw [zero_add]
  exact (planes z).1

theorem scalarTotal_eq (inside : Inside shape coord) :
    scalarTotal values shape coord = closedSupport values shape coord - values.getD (flat coord shape) 0 := by
  obtain ⟨x, y, z⟩ := coord
  obtain ⟨inX, inY, inZ⟩ := inside
  have centre : valueAt values shape (wrap x 0 shape.1) (wrap y 0 shape.2.1) (wrap z 0 shape.2.2) =
      values.getD (flat (x, y, z) shape) 0 := by
    rw [wrap_zero inX, wrap_zero inY, wrap_zero inZ]
    rfl
  rw [← centre]
  simp only [scalarTotal, closedSupport, deltas, foldl_cons, foldl_nil, map_cons, map_nil,
    sum_cons, sum_nil]
  norm_num
  ring

theorem neighbors_eq (inside : Inside shape coord) :
    ((neighborCoords coord shape).map (fun neighbor => values.getD (flat neighbor shape) 0)).sum =
      closedSupport values shape coord - values.getD (flat coord shape) 0 := by
  rw [← scalarTotal_eq inside]
  simp [scalarTotal, neighborCoords, deltas, valueAt]
  ring

/-- The row of one cell in the closed matrix. -/
def mooreRow (shape : Shape3) (coord : Coord3) : List Int :=
  kroneckerRow (axisRow shape.2.2 coord.2.2)
    (kroneckerRow (axisRow shape.2.1 coord.2.1) (axisRow shape.1 coord.1))

theorem mooreRow_length : (mooreRow shape coord).length = shape.2.2 * (shape.2.1 * shape.1) := by
  unfold mooreRow
  rw [kroneckerRow_length, kroneckerRow_length, axisRow_length, axisRow_length, axisRow_length]

/-- A row of the closed matrix weighs the field as the loops do. -/
theorem weigh_mooreRow (inside : Inside shape coord) :
    weigh (mooreRow shape coord) (fun index => values.getD index 0) = closedSupport values shape coord := by
  obtain ⟨inX, inY, inZ⟩ := inside
  have position : ∀ x y z, z * (shape.2.1 * shape.1) + (y * shape.1 + x) = flat (x, y, z) shape := by
    intro x y z
    unfold flat
    ring
  unfold mooreRow closedSupport valueAt
  rw [weigh_kroneckerRow, weigh_axisRow (by omega), kroneckerRow_length, axisRow_length, axisRow_length]
  simp only [weigh_kroneckerRow, axisRow_length, weigh_axisRow (show 0 < shape.2.1 by omega),
    weigh_axisRow (show 0 < shape.1 by omega), position]

theorem closed_rows (shape : Shape3) :
    kroneckerRows (axisRows shape.2.2) (kroneckerRows (axisRows shape.2.1) (axisRows shape.1)) =
      (coords shape).map (mooreRow shape) := by
  simp only [kroneckerRows, axisRows, coords, mooreRow, flatMap_map, map_flatMap, map_map,
    comp_def]

/-- The oracle of the dense matrix gives, cell by cell, what the loops give. -/
theorem mooreMatrix_multiply {count : Nat} (accepted : validatePeriodicShape [shape.1, shape.2.1, shape.2.2] 3 = .ok count)
    (length : values.length = count) :
    (mooreMatrix3d none shape >>= fun matrix => matrixVectorMultiply matrix values) =
      .ok ((coords shape).map (scalarTotal values shape)) := by
  obtain ⟨wide, product, within, _⟩ := validate_ok accepted
  have least : ∀ extent ∈ [shape.1, shape.2.1, shape.2.2], extent ≤ maxReferenceCells := fun extent member =>
    le_trans (le_product wide member) (product ▸ within)
  simp only [forall_mem_cons] at wide least
  obtain ⟨wideX, wideY, wideZ, _⟩ := wide
  obtain ⟨leastX, leastY, leastZ, _⟩ := least
  obtain ⟨planes, planesSized⟩ := kronecker_ok (axisRows_sized shape.2.1) (axisRows_sized shape.1)
    ⟨by omega, by omega⟩ ⟨by omega, by omega⟩
  have area : 0 < shape.2.1 * shape.1 := mul_pos (by omega) (by omega)
  obtain ⟨closed, closedSized⟩ := kronecker_ok (axisRows_sized shape.2.2) planesSized
    ⟨by omega, by omega⟩ ⟨area, area⟩
  have volume : 0 < shape.2.2 * (shape.2.1 * shape.1) := mul_pos (by omega) area
  obtain ⟨opened, openedSized⟩ := subtractIdentity_ok closedSized volume
  have cells : values.length = shape.2.2 * (shape.2.1 * shape.1) := by
    rw [length, product]
    simp only [prod_cons, prod_nil]
    ring
  unfold mooreMatrix3d
  rw [accepted, ok_bind, withinLimit_none, ok_bind, cyclicClosedMatrix_ok wideZ leastZ,
    cyclicClosedMatrix_ok wideY leastY, cyclicClosedMatrix_ok wideX leastX, ok_bind, ok_bind, ok_bind, planes,
    ok_bind, closed, ok_bind, opened, ok_bind, matrixVectorMultiply_ok openedSized volume cells, closed_rows,
    mapIdx_positioned (coords_positioned shape).1, map_map]
  refine congrArg ok (map_congr_left (fun coord member => ?_))
  have inside := coords_inside member
  have index : flat coord shape < (mooreRow shape coord).length := by
    obtain ⟨place, here, same⟩ := getElem_of_mem member
    have found : flat coord shape = 0 + place :=
      (coords_positioned shape).1 place coord (by rw [getElem?_eq_getElem here, same])
    rw [mooreRow_length, ← (coords_positioned shape).2]
    omega
  have minus : (fun weight : Int => weight - 1) = (fun weight => weight + -1) := funext (fun _ => rfl)
  dsimp only [comp_apply]
  rw [minus, weigh_modify (-1) index, weigh_mooreRow inside, scalarTotal_eq inside]
  ring

theorem loops_fill {total : Coord3 → Int} (length : values.length = (coords shape).length) :
    (coords shape).foldl (fun out coord => out.set (flat coord shape) (total coord))
      (replicate values.length 0) = (coords shape).map total :=
  foldl_set_all (coords_positioned shape).1 (by rw [length_replicate, length])

end Support

section Planar

variable {values : List Int} {shape : Shape2} {coord : Nat × Nat}

theorem planarCoords_inside (member : coord ∈ planarCoords shape) : coord.1 < shape.1 ∧ coord.2 < shape.2 := by
  unfold planarCoords at member
  simp only [mem_flatMap, mem_map, mem_range] at member
  obtain ⟨y, inY, x, inX, rfl⟩ := member
  exact ⟨inX, inY⟩

theorem planarCoords_positioned (shape : Shape2) :
    Positioned (fun coord => coord.2 * shape.1 + coord.1) 0 (planarCoords shape) ∧
      (planarCoords shape).length = shape.2 * shape.1 := by
  refine positioned_flatMap (fun y => by simp) (fun y _ => positioned_map_range (fun x _ => ?_))
  rw [zero_add]

/-- The row of one cell in the closed planar matrix. -/
def planarRow (shape : Shape2) (coord : Nat × Nat) : List Int :=
  kroneckerRow (axisRow shape.2 coord.2) (axisRow shape.1 coord.1)

theorem planarRow_length : (planarRow shape coord).length = shape.2 * shape.1 := by
  unfold planarRow
  rw [kroneckerRow_length, axisRow_length, axisRow_length]

theorem weigh_planarRow (inside : coord.1 < shape.1 ∧ coord.2 < shape.2) :
    weigh (planarRow shape coord) (fun index => values.getD index 0) = scalarClosed values shape coord := by
  unfold planarRow scalarClosed
  rw [weigh_kroneckerRow, weigh_axisRow (by omega), axisRow_length]
  simp only [weigh_axisRow (show 0 < shape.1 by omega), deltas, map_cons, map_nil, sum_cons,
    sum_nil, foldl_cons, foldl_nil]
  ring

theorem planar_rows (shape : Shape2) :
    kroneckerRows (axisRows shape.2) (axisRows shape.1) = (planarCoords shape).map (planarRow shape) := by
  simp only [kroneckerRows, axisRows, planarCoords, planarRow, flatMap_map, map_flatMap,
    map_map, comp_def]

/-- The open counts leave the cell itself out. -/
def scalarOpen (values : List Int) (shape : Shape2) (coord : Nat × Nat) : Int :=
  scalarClosed values shape coord - values.getD (coord.2 * shape.1 + coord.1) 0

theorem planarMatrices_multiply {count : Nat} (accepted : validatePeriodicShape [shape.1, shape.2] 2 = .ok count)
    (length : values.length = count) : ∃ a8 a9, planarMatrices2d none shape = .ok (a8, a9) ∧
      matrixVectorMultiply a8 values = .ok ((planarCoords shape).map (scalarOpen values shape)) ∧
      matrixVectorMultiply a9 values = .ok ((planarCoords shape).map (scalarClosed values shape)) := by
  obtain ⟨wide, product, within, _⟩ := validate_ok accepted
  have least : ∀ extent ∈ [shape.1, shape.2], extent ≤ maxReferenceCells := fun extent member =>
    le_trans (le_product wide member) (product ▸ within)
  simp only [forall_mem_cons] at wide least
  obtain ⟨wideX, wideY, _⟩ := wide
  obtain ⟨leastX, leastY, _⟩ := least
  obtain ⟨closed, closedSized⟩ := kronecker_ok (axisRows_sized shape.2) (axisRows_sized shape.1)
    ⟨by omega, by omega⟩ ⟨by omega, by omega⟩
  have area : 0 < shape.2 * shape.1 := mul_pos (by omega) (by omega)
  obtain ⟨opened, openedSized⟩ := subtractIdentity_ok closedSized area
  have cells : values.length = shape.2 * shape.1 := by
    rw [length, product]
    simp only [prod_cons, prod_nil]
    ring
  have everywhere : ∀ coord ∈ planarCoords shape,
      weigh (planarRow shape coord) (fun index => values.getD index 0) = scalarClosed values shape coord :=
    fun coord member => weigh_planarRow (planarCoords_inside member)
  refine ⟨(kroneckerRows (axisRows shape.2) (axisRows shape.1)).mapIdx
    (fun index row => row.modify index (· - 1)), kroneckerRows (axisRows shape.2) (axisRows shape.1), ?_, ?_, ?_⟩
  · unfold planarMatrices2d
    rw [accepted, ok_bind, withinLimit_none, ok_bind, cyclicClosedMatrix_ok wideY leastY,
      cyclicClosedMatrix_ok wideX leastX, ok_bind, ok_bind, closed, ok_bind, opened, ok_bind]
    rfl
  · rw [matrixVectorMultiply_ok openedSized area cells, planar_rows,
      mapIdx_positioned (planarCoords_positioned shape).1, map_map]
    refine congrArg ok (map_congr_left (fun coord member => ?_))
    have index : coord.2 * shape.1 + coord.1 < (planarRow shape coord).length := by
      obtain ⟨place, here, same⟩ := getElem_of_mem member
      have found : coord.2 * shape.1 + coord.1 = 0 + place :=
        (planarCoords_positioned shape).1 place coord (by rw [getElem?_eq_getElem here, same])
      rw [planarRow_length, ← (planarCoords_positioned shape).2]
      omega
    have minus : (fun weight : Int => weight - 1) = (fun weight => weight + -1) := funext (fun _ => rfl)
    dsimp only [comp_apply]
    rw [minus, weigh_modify (-1) index, everywhere coord member]
    unfold scalarOpen
    ring
  · rw [matrixVectorMultiply_ok closedSized area cells, planar_rows, map_map]
    exact congrArg ok (map_congr_left everywhere)

end Planar

section Agreement

theorem validateBinaryField_length {field values : List Int} {shape : List Nat} {dimensions : Nat}
    (accepted : validateBinaryField field shape dimensions = .ok values) :
    values = field ∧ validatePeriodicShape shape dimensions = .ok field.length := by
  unfold validateBinaryField at accepted
  obtain ⟨count, shaped, run⟩ := bind_eq_ok accepted
  rw [demand_bind_eq_ok] at run
  obtain ⟨length, run⟩ := run
  obtain ⟨_, _, same⟩ := bind_eq_ok run
  cases same
  exact ⟨rfl, length ▸ shaped⟩

theorem cells_length {field : List Int} {shape : Shape3}
    (accepted : validatePeriodicShape [shape.1, shape.2.1, shape.2.2] 3 = .ok field.length) :
    field.length = (coords shape).length := by
  obtain ⟨_, product, _, _⟩ := validate_ok accepted
  rw [product, (coords_positioned shape).2]
  simp only [prod_cons, prod_nil]
  ring

theorem matrix_agrees (field : List Int) (shape : Shape3) :
    matrixMooreSupport none field shape = scalarMooreSupport field shape := by
  unfold matrixMooreSupport scalarMooreSupport
  cases run : validateBinaryField field [shape.1, shape.2.1, shape.2.2] 3 with
  | error reason => rfl
  | ok values =>
    obtain ⟨rfl, accepted⟩ := validateBinaryField_length run
    rw [ok_bind, ok_bind, mooreMatrix_multiply accepted rfl, loops_fill (cells_length accepted)]
    rfl

/-- The two ways to check a field of three dimensions. -/
theorem normalize_binary (field : List Int) (shape : List Nat) {α : Type} (next : List Int → Except Error α) :
    (normalizeValues field shape >>= fun values =>
      values.forM (fun value => demand (value = 0 ∨ value = 1) Error.contract) >>= fun _ => next values) =
      (validateBinaryField field shape 3 >>= next) := by
  unfold normalizeValues validateBinaryField
  cases shaped : validatePeriodicShape shape 3 with
  | error reason => rfl
  | ok count =>
    rw [ok_bind, ok_bind, (validate_ok shaped).2.2.2, ok_bind]
    unfold demand
    by_cases length : field.length = count
    · rw [if_pos length]
      change (field.forM (fun value => if value = 0 ∨ value = 1 then ok () else .error Error.contract) >>=
        fun _ => next field) = ((field.forM (fun value =>
          if value = 0 ∨ value = 1 then ok () else .error Error.contract) >>= fun _ => pure field) >>= next)
      rw [bind_assoc]
      rfl
    · rw [if_neg length]
      rfl

theorem independent_agrees (field : List Int) (shape : Shape3) :
    independentSupport field shape = scalarMooreSupport field shape := by
  unfold independentSupport scalarMooreSupport
  rw [normalize_binary]
  cases run : validateBinaryField field [shape.1, shape.2.1, shape.2.2] 3 with
  | error reason => rfl
  | ok values =>
    obtain ⟨rfl, accepted⟩ := validateBinaryField_length run
    rw [ok_bind, ok_bind, loops_fill (cells_length accepted), loops_fill (cells_length accepted)]
    exact congrArg ok (map_congr_left (fun coord member => by
      rw [neighbors_eq (coords_inside member), scalarTotal_eq (coords_inside member)]))

theorem planar_agrees (defects : List Int) (shape : Shape2) :
    matrixPlanarCounts none defects shape = scalarPlanarCounts defects shape := by
  unfold matrixPlanarCounts scalarPlanarCounts
  cases run : validateBinaryField defects [shape.1, shape.2] 2 with
  | error reason => rfl
  | ok values =>
    obtain ⟨rfl, accepted⟩ := validateBinaryField_length run
    obtain ⟨a8, a9, matrices, opened, closed⟩ := planarMatrices_multiply accepted rfl
    have length : values.length = (planarCoords shape).length := by
      obtain ⟨_, product, _, _⟩ := validate_ok accepted
      rw [product, (planarCoords_positioned shape).2]
      simp only [prod_cons, prod_nil]
      ring
    have both := @foldl_set_pair _ _ _ (planarCoords shape) (scalarOpen values shape)
      (scalarClosed values shape) (planarCoords_positioned shape).1 (replicate values.length 0)
      (replicate values.length 0) (by simpa using length) (by simpa using length)
    rw [ok_bind, ok_bind, matrices, ok_bind]
    dsimp only
    rw [opened, closed]
    exact congrArg ok both.symm

/-- A field that the oracles take: binary, of a periodic shape that the reference admits. -/
def Admitted (field : List Int) (shape : List Nat) : Prop :=
  (∀ extent ∈ shape, 3 ≤ extent) ∧ shape.prod ≤ maxReferenceCells ∧ field.length = shape.prod ∧
    ∀ value ∈ field, value = 0 ∨ value = 1

theorem validateBinaryField_iff {field : List Int} {shape : List Nat} {dimensions : Nat}
    (filled : shape ≠ []) (matching : shape.length = dimensions) :
    validateBinaryField field shape dimensions = .ok field ↔ Admitted field shape := by
  constructor
  · intro accepted
    have binary := accepted
    obtain ⟨_, shaped⟩ := validateBinaryField_length accepted
    obtain ⟨wide, product, within, _⟩ := validate_ok shaped
    unfold validateBinaryField at binary
    rw [shaped, ok_bind, demand_bind_eq_ok] at binary
    obtain ⟨_, each, _⟩ := bind_eq_ok binary.2
    have checked : Spec (field.forM (fun value => demand (value = 0 ∨ value = 1) Error.contract))
        (fun _ => ∀ value ∈ field, value = 0 ∨ value = 1) (fun _ => True) :=
      spec_forM (fun value _ => spec_demand id (fun _ => trivial))
    exact ⟨wide, product ▸ within, product, checked.of_ok each⟩
  · rintro ⟨wide, within, length, binary⟩
    have cells : field.forM (fun value => demand (value = 0 ∨ value = 1) Error.contract) = .ok () :=
      forM_ok (fun value member => if_pos (binary value member))
    unfold validateBinaryField
    rw [validate_admits filled matching wide within, ok_bind, demand_pass length, ok_bind, cells]
    rfl

theorem scalar_returns (field : List Int) (shape : Shape3) : (∃ support, scalarMooreSupport field shape = .ok support) ↔
      Admitted field [shape.1, shape.2.1, shape.2.2] := by
  rw [← @validateBinaryField_iff field _ 3 (cons_ne_nil _ _) rfl]
  unfold scalarMooreSupport
  constructor
  · rintro ⟨support, run⟩
    obtain ⟨values, accepted, _⟩ := bind_eq_ok run
    exact (validateBinaryField_length accepted).1 ▸ accepted
  · intro accepted
    rw [accepted]
    exact ⟨_, rfl⟩

theorem planar_returns (defects : List Int) (shape : Shape2) :
    (∃ counts, scalarPlanarCounts defects shape = .ok counts) ↔ Admitted defects [shape.1, shape.2] := by
  rw [← @validateBinaryField_iff defects _ 2 (cons_ne_nil _ _) rfl]
  unfold scalarPlanarCounts
  constructor
  · rintro ⟨counts, run⟩
    obtain ⟨values, accepted, _⟩ := bind_eq_ok run
    exact (validateBinaryField_length accepted).1 ▸ accepted
  · intro accepted
    rw [accepted]
    exact ⟨_, rfl⟩

/-- The oracles have one answer, and give it for exactly the fields of periodic shapes. -/
theorem oracles_agree : (∀ (shape : Shape3) (field : List Int),
      matrixMooreSupport none field shape = scalarMooreSupport field shape ∧
        independentSupport field shape = scalarMooreSupport field shape ∧
        ((∃ support, scalarMooreSupport field shape = .ok support) ↔ Admitted field [shape.1, shape.2.1, shape.2.2])) ∧
      ∀ (shape : Shape2) (defects : List Int),
        matrixPlanarCounts none defects shape = scalarPlanarCounts defects shape ∧
          ((∃ counts, scalarPlanarCounts defects shape = .ok counts) ↔ Admitted defects [shape.1, shape.2]) :=
  ⟨fun shape field => ⟨matrix_agrees field shape, independent_agrees field shape, scalar_returns field shape⟩,
    fun shape defects => ⟨planar_agrees defects shape, planar_returns defects shape⟩⟩

end Agreement

end PooleOS.Pdc
