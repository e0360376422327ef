import PooleOS.Lib.Op

/- The support oracles of the PDC reference (`runtime/pdc_reference.py`) and of its
golden harness (`runtime/pdc_golden_metamorphic.py`). A field is flat, with x fastest,
and its shape is periodic. Where a Python function raises, it fails here. -/
namespace PooleOS.Pdc

inductive Error
  | contract
  | shape
  | overflow
  | matrixLimit
deriving DecidableEq, Repr

abbrev Shape2 : Type := Nat × Nat
abbrev Shape3 : Type := Nat × Nat × Nat
abbrev Coord3 : Type := Nat × Nat × Nat
abbrev DenseMatrix : Type := List (List Int)

def minPeriodicExtent : Nat := 3
def maxReferenceCells : Nat := 16777216

section Checks

def checkedProduct (values : List Nat) (limit : Nat) : Except Error Nat := do
  demand (values ≠ []) Error.shape
  values.foldlM (fun product value => do
    demand (0 < value) Error.shape
    demand (¬ limit / value < product) Error.overflow
    return product * value) 1

/-- The number of cells of a shape. -/
def validatePeriodicShape (shape : List Nat) (dimensions : Nat) : Except Error Nat := do
  demand (shape.length = dimensions) Error.shape
  shape.forM (fun extent => demand (minPeriodicExtent ≤ extent) Error.shape)
  checkedProduct shape maxReferenceCells

def validateBinaryField (field : List Int) (shape : List Nat) (dimensions : Nat) : Except Error (List Int) := do
  let count ← validatePeriodicShape shape dimensions
  demand (field.length = count) Error.shape
  field.forM (fun value => demand (value = 0 ∨ value = 1) Error.contract)
  return field

/-- `_normalize_values`. -/
def normalizeValues (values : List Int) (shape : List Nat) : Except Error (List Int) := do
  let _ ← validatePeriodicShape shape 3
  let count ← checkedProduct shape maxReferenceCells
  demand (values.length = count) Error.shape
  return values

end Checks

section Scalar

/-- `(-1, 0, 1)`. -/
def deltas : List Int := [-1, 0, 1]

/-- `(coordinate + delta) % extent`, which is not negative. -/
def wrap (coordinate : Nat) (delta : Int) (extent : Nat) : Nat := ((coordinate + delta) % extent).toNat

/-- `(z * sy + y) * sx + x`. -/
def flat (coord : Coord3) (shape : Shape3) : Nat := (coord.2.2 * shape.2.1 + coord.2.1) * shape.1 + coord.1

/-- `values[(z * sy + y) * sx + x]`; the index is always inside. -/
def valueAt (values : List Int) (shape : Shape3) (x y z : Nat) : Int := values.getD (flat (x, y, z) shape) 0

/-- The three loops over a shape. -/
def coords (shape : Shape3) : List Coord3 :=
  (List.range shape.2.2).flatMap (fun z => (List.range shape.2.1).flatMap (fun y =>
    (List.range shape.1).map (fun x => (x, y, z))))

/-- The three loops over the neighbours of one cell. -/
def scalarTotal (values : List Int) (shape : Shape3) (coord : Coord3) : Int :=
  let (x, y, z) := coord
  let (sx, sy, sz) := shape
  deltas.foldl (fun total dz => deltas.foldl (fun total dy => deltas.foldl (fun total dx =>
    if dx = 0 ∧ dy = 0 ∧ dz = 0 then total
    else total + valueAt values shape (wrap x dx sx) (wrap y dy sy) (wrap z dz sz)) total) total) 0

def scalarMooreSupport (field : List Int) (shape : Shape3) : Except Error (List Int) := do
  let values ← validateBinaryField field [shape.1, shape.2.1, shape.2.2] 3
  return (coords shape).foldl (fun out coord => out.set (flat coord shape) (scalarTotal values shape coord))
    (List.replicate values.length 0)

/-- `_neighbor_coords`. -/
def neighborCoords (coord : Coord3) (shape : Shape3) : List Coord3 :=
  deltas.flatMap (fun dz => deltas.flatMap (fun dy => (deltas.filter (fun dx => (dx, dy, dz) ≠ (0, 0, 0))).map
    (fun dx => (wrap coord.1 dx shape.1, wrap coord.2.1 dy shape.2.1, wrap coord.2.2 dz shape.2.2))))

def independentSupport (values : List Int) (shape : Shape3) : Except Error (List Int) := do
  let values ← normalizeValues values [shape.1, shape.2.1, shape.2.2]
  values.forM (fun value => demand (value = 0 ∨ value = 1) Error.contract)
  return (coords shape).foldl (fun out coord => out.set (flat coord shape)
    ((neighborCoords coord shape).map (fun neighbor => values.getD (flat neighbor shape) 0)).sum)
    (List.replicate values.length 0)

end Scalar

section Matrix

def cyclicClosedMatrix (extent : Nat) : Except Error DenseMatrix := do
  let _ ← validatePeriodicShape [extent] 1
  return (List.range extent).map (fun row => deltas.foldl
    (fun cells delta => cells.modify (wrap row delta extent) (· + 1)) (List.replicate extent 0))

/-- The number of columns. -/
def columns (matrix : DenseMatrix) : Nat := (matrix.headD []).length

def Rectangular (matrix : DenseMatrix) : Prop := ∀ row ∈ matrix, row.length = columns matrix

instance (matrix : DenseMatrix) : Decidable (Rectangular matrix) :=
  inferInstanceAs (Decidable (∀ _ ∈ _, _))

/-- `rows[li * len(right) + ri]` after its loops. -/
def kroneckerRow (leftRow rightRow : List Int) : List Int :=
  leftRow.zipIdx.foldl (fun output left =>
    if left.1 = 0 then output
    else rightRow.zipIdx.foldl (fun output right =>
      output.set (left.2 * rightRow.length + right.2) (left.1 * right.1)) output)
    (List.replicate (leftRow.length * rightRow.length) 0)

def kronecker (left right : DenseMatrix) : Except Error DenseMatrix := do
  demand (¬ (left = [] ∨ right = [] ∨ columns left = 0 ∨ columns right = 0)) Error.contract
  demand (¬ (¬ Rectangular left ∨ ¬ Rectangular right)) Error.contract
  return left.flatMap (fun leftRow => right.map (kroneckerRow leftRow))

def subtractIdentity (matrix : DenseMatrix) : Except Error DenseMatrix := do
  demand (¬ (matrix.length ≠ columns matrix ∨ ¬ ∀ row ∈ matrix, row.length = matrix.length)) Error.contract
  return matrix.mapIdx (fun index row => row.modify index (· - 1))

/-- A limit on the cells, unless it is set aside. -/
def withinLimit (limit : Option Nat) (count : Nat) : Except Error Unit :=
  demand (∀ most ∈ limit, count ≤ most) Error.matrixLimit

/-- The code's limit is 512 cells. -/
def mooreMatrix3d (limit : Option Nat) (shape : Shape3) : Except Error DenseMatrix := do
  let count ← validatePeriodicShape [shape.1, shape.2.1, shape.2.2] 3
  withinLimit limit count
  let closed ← kronecker (← cyclicClosedMatrix shape.2.2)
    (← kronecker (← cyclicClosedMatrix shape.2.1) (← cyclicClosedMatrix shape.1))
  subtractIdentity closed

def matrixVectorMultiply (matrix : DenseMatrix) (vector : List Int) : Except Error (List Int) := do
  demand (matrix ≠ []) Error.contract
  demand (¬ (vector.length ≠ columns matrix ∨ ¬ Rectangular matrix)) Error.shape
  return matrix.map (fun row => (List.zipWith (· * ·) row vector).sum)

def matrixMooreSupport (limit : Option Nat) (field : List Int) (shape : Shape3) : Except Error (List Int) := do
  let values ← validateBinaryField field [shape.1, shape.2.1, shape.2.2] 3
  matrixVectorMultiply (← mooreMatrix3d limit shape) values

end Matrix

section Planar

/-- The two loops over a shape. -/
def planarCoords (shape : Shape2) : List (Nat × Nat) :=
  (List.range shape.2).flatMap (fun y => (List.range shape.1).map (fun x => (x, y)))

/-- The two loops over a cell and its neighbours. -/
def scalarClosed (values : List Int) (shape : Shape2) (coord : Nat × Nat) : Int :=
  deltas.foldl (fun closed dy => deltas.foldl (fun closed dx =>
    closed + values.getD (wrap coord.2 dy shape.2 * shape.1 + wrap coord.1 dx shape.1) 0) closed) 0

/-- The open counts and the closed ones. -/
def scalarPlanarCounts (defects : List Int) (shape : Shape2) : Except Error (List Int × List Int) := do
  let values ← validateBinaryField defects [shape.1, shape.2] 2
  return (planarCoords shape).foldl (fun counts coord =>
    let index := coord.2 * shape.1 + coord.1
    let closed := scalarClosed values shape coord
    (counts.1.set index (closed - values.getD index 0), counts.2.set index closed))
    (List.replicate values.length 0, List.replicate values.length 0)

/-- The code's limit is 512 cells. -/
def planarMatrices2d (limit : Option Nat) (shape : Shape2) : Except Error (DenseMatrix × DenseMatrix) := do
  let count ← validatePeriodicShape [shape.1, shape.2] 2
  withinLimit limit count
  let a9 ← kronecker (← cyclicClosedMatrix shape.2) (← cyclicClosedMatrix shape.1)
  return (← subtractIdentity a9, a9)

def matrixPlanarCounts (limit : Option Nat) (defects : List Int) (shape : Shape2) :
    Except Error (List Int × List Int) := do
  let values ← validateBinaryField defects [shape.1, shape.2] 2
  let (a8, a9) ← planarMatrices2d limit shape
  return (← matrixVectorMultiply a8 values, ← matrixVectorMultiply a9 values)

end Planar

end PooleOS.Pdc
