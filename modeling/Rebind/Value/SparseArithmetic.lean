import Rebind.Value.Sparse
/-!
Arithmetic with sparse matrices. Scaling acts on the stored numbers and keeps the storage scheme; sums and
products go over to a scheme that the left operand chooses. With arrays, sums and matrix products are arrays,
products number by number stay sparse.
-/
namespace Rebind

open Number Strided Syntax Run Layout

namespace Sparse

open Value Run Layout

/-! ### Functions of single numbers -/

def ofPlan (s : Sparse) (plan : Plan) : Run Value := do
  allocate (s.withData plan.dtype (← plan.steps.mapM id))

def unary (f : UnaryUfunc) (s : Sparse) : Run Value := do
  let plan : Run Plan := unaryPlan f s.data none
  match f with
  | .negative =>
    if s.dtype = .bool then fail .notImplemented
    (s.inFormat (if s.format = .lil then .csr else s.format)).ofPlan (← plan)
  | .absolute => (s.inFormat s.format.mapped).ofPlan (← plan)
  | .sqrt => if s.format.isFlat then s.ofPlan (← plan) else fail .type

def scale (s : Sparse) (factor : Value) : Run Value := do
  if s.format = .lil && (← isNothing factor) then
    newSparse { s with entries := s.entries.map fun _ => none }
  else s.ofPlan (← binaryPlan .multiply s.data (← Value.operand factor) none)

/-- The stored numbers divided one by one, for schemes that do not keep them in one array. The element type
is the one of the product. -/
def quotientEach (s : Sparse) (divisor : Value) : Run Value := do
  let given ← Value.operand divisor
  if s.format = .dok then
    let product ← binaryPlan .multiply s.data given none
    let quotient ← binaryPlan .divide s.data given none
    let cells ← quotient.steps.mapM id
    allocate (s.withData product.dtype (← cells.mapM (castCell product.dtype)))
  else
    if given.dtype = .object then fail .type
    let d := Operand.meet s.data given
    let cells ← s.data.cells.mapM fun cell => do cellFor d (← denseBinary .div (ofCell cell) divisor)
    allocate (s.withData d cells)

/-- The matrix divided by a number: as a rule, its doubles are multiplied by the reciprocal. -/
def quotient (s : Sparse) (divisor : Value) : Run Value := do
  if s.format.isFlat then
    let reciprocal ← denseBinary .div (.float 1.0) divisor
    let s := if s.dtype.kind = .complex then s else s.castTo .float64
    s.scale reciprocal
  else s.quotientEach divisor

/-! ### Sums and differences -/

def combine (f : BinaryUfunc) (s t : Sparse) (shape : Shape) (format : SparseFormat) (isMatrix : Bool) :
    Run Value :=
  let d := s.dtype.promote t.dtype
  let cell (x y : Cell) : Cell :=
    let z := d.binary f (d.cast (numOf x)) (d.cast (numOf y))
    .num (if z.isZero then d.zero else z)
  let cells := List.zipWith cell (s.operand.spread shape) (t.operand.spread shape)
  allocate (ofCells format isMatrix d shape cells)

def sumSparse (f : BinaryUfunc) (s t : Sparse) : Run Value := do
  if s.shape ≠ t.shape then fail .value
  let (format, isMatrix) := match s.format, f with
    | .dok, .add => (SparseFormat.dok, s.isMatrix)
    | .dia, f =>
      if t.format = .dia then (.dia, s.isMatrix)
      else if f = .add then (t.format.computed, t.isMatrix)
      else (.csr, s.isMatrix)
    | format, _ => (format.computed, s.isMatrix)
  combine f s t s.shape format isMatrix

def fitted (s : Sparse) (dense : Operand) : Run Operand :=
  match dense.layout.broadcastTo? s.shape with
  | some layout => return { dense with layout := layout, cells := dense.spread s.shape }
  | none => fail .value

def plusDense (s : Sparse) (dense : Operand) : Run Value := do
  if s.format = .dok then (← binaryPlan .add s.operand dense none).arrayResult
  else
    let fitting ← s.fitted dense
    if dense.dtype = .object then fail .type
    let layout := match s.format with
      | .csc => columnMajor s.shape
      | .csr => rowMajor s.shape
      | _ => fitting.layout.copied
    let sum ← binaryPlan .add s.operand fitting none
    let steps := List.zipWith (fun entry (cell, step) => if entry.isSome then step else castCell sum.dtype cell)
      s.entries (fitting.cells.zip sum.steps)
    let plan : Plan := { sum with layout := layout, steps := steps }
    plan.arrayResult

def plusEach (s : Sparse) (v : Value) : Run Value := do
  let d := (← binaryPlan .multiply s.data (← Value.operand v) none).dtype
  let cells ← s.entries.mapM fun entry => do
    let own := match entry with
      | some cell => element s.dtype cell
      | none => .int 0
    castCell d (← cellFor d (← denseBinary .add own v))
  allocate (ofCells s.format s.isMatrix d s.shape cells)

def plus (s : Sparse) (v : Value) : Run Value := do
  match v with
  | .sparse id => sumSparse .add s (← sparseContent id)
  | v =>
    if v.isScalarLike then
      if s.format = .dok then s.plusEach v
      else if ← isNothing v then newSparse s
      else fail .notImplemented
    else if v.isDense then s.plusDense (← Value.operand v)
    else fail .type

def minus (s : Sparse) (v : Value) : Run Value := do
  match v with
  | .sparse id => sumSparse .subtract s (← sparseContent id)
  | v =>
    if v.isScalarLike then
      if ← isNothing v then newSparse s else fail .notImplemented
    else if v.isDense then
      (← binaryPlan .subtract s.operand (← s.fitted (← Value.operand v)) none).arrayResult
    else fail .type

def minusFrom (s : Sparse) (v : Value) : Run Value := do
  if v.isScalarLike then
    if ← isNothing v then s.unary .negative else fail .notImplemented
  else if v.isDense then
    (← binaryPlan .subtract (← s.fitted (← Value.operand v)) s.operand none).arrayResult
  else fail .type

/-! ### Products number by number -/

def isUnit (shape : Shape) : Bool := shape = [1] || shape = [1, 1]

def rowsAndColumns : Shape → Nat × Nat
  | [n] => (1, n)
  | [m, n] => (m, n)
  | shape => (shape.size, 1)

/-- The scheme of a product of matrices of different shapes, and whether it is a matrix: the side that is
stretched gives way to the other one. -/
def stretchedScheme (s t : Sparse) : SparseFormat × Bool :=
  let (rows, columns) := rowsAndColumns s.shape
  let (rows', columns') := rowsAndColumns t.shape
  if isUnit t.shape then (s.format.computed, s.isMatrix)
  else if isUnit s.shape then (t.format, t.isMatrix)
  else if rows = 1 && columns' = 1 then (t.format.computed, t.isMatrix)
  else if (columns = 1 && rows' = 1) || rows' = 1 then (s.format.computed, s.isMatrix)
  else if rows = 1 then (t.format.computed, t.isMatrix)
  else (.csr, s.isMatrix)

def timesSparse (s t : Sparse) : Run Value := do
  if s.shape = t.shape then
    let format := if s.format = .dia && t.format = .dia then .dia else s.format.computed
    combine .multiply s t s.shape format s.isMatrix
  else
    match broadcastShapes s.shape t.shape with
    | none => fail .value
    | some shape =>
      let (format, isMatrix) := stretchedScheme s t
      combine .multiply s t shape format isMatrix

def timesStored (s : Sparse) (dense : Operand) (shape : Shape) (format : SparseFormat) : Run Value := do
  let wide := s.stretched shape
  let facing := ((wide.entries.zip (dense.spread shape)).filter fun (entry, _) => entry.isSome).map (·.2)
  let facing := { dense with layout := rowMajor [facing.length], cells := facing }
  (wide.inFormat format).ofPlan (← binaryPlan .multiply wide.data facing none)

/-- The sum of all stored numbers; truth values and short integers are counted in long ones. -/
def total (s : Sparse) : Value :=
  let d := match s.dtype.kind with
    | .truth | .integer => DType.int64
    | _ => s.dtype
  .scalar d (s.cells.foldl (fun sum cell => d.binary .add sum (d.cast (numOf cell))) d.zero)

def timesDense (s : Sparse) (dense : Operand) : Run Value := do
  if dense.shape.length > 2 then (← binaryPlan .multiply s.operand dense none).arrayResult
  else
    match broadcastShapes s.shape dense.shape with
    | none => fail .value
    | some shape =>
      if s.format = .dia && shape = s.shape && !(s.shape.contains 1) then
        s.timesStored dense shape .dia
      else
        match dense.cells with
        | [cell] =>
          if dense.dtype = .object then fail .type
          let format := if shape = s.shape then s.format.computed else .coo
          ((s.stretched shape).inFormat format).scale (element dense.dtype cell)
        | _ =>
          if isUnit s.shape then
            let product ← binaryPlan .multiply (← Value.operand s.total) dense none
            newArray product.dtype (rowMajor shape) (← product.steps.mapM id)
          else s.timesStored dense shape .coo

def times (s : Sparse) (v : Value) : Run Value := do
  match v with
  | .sparse id => s.timesSparse (← sparseContent id)
  | v => if v.isScalarLike then s.scale v else s.timesDense (← denseOperand v)

/-! ### Matrix products -/

/-- The sum of products of a row and a column. What a sparse side does not store is left out. -/
def dot (d : DType) (sparseLeft sparseRight : Bool) (row column : List Cell) : Cell :=
  let pairs := (row.zip column).filter fun (x, y) =>
    (!sparseLeft || isNonzero x) && (!sparseRight || isNonzero y)
  .num (dotNum d (pairs.map fun (x, _) => d.cast (numOf x)) (pairs.map fun (_, y) => d.cast (numOf y)))

def product (sparseLeft sparseRight : Bool) (a b : Operand) : Run Operand := do
  if a.shape.length > 2 || b.shape.length > 2 then fail .value
  match ProductShape.make? a.shape b.shape with
  | none => fail .value
  | some p =>
    if a.dtype = .object || b.dtype = .object then fail .type
    let d := a.dtype.promote b.dtype
    let rows := rowsOf a.cells.toArray 0 p.rows p.inner
    let columns := columnsOf b.cells.toArray 0 p.inner p.columns
    let cells := rows.flatMap fun row => columns.map fun column => dot d sparseLeft sparseRight row column
    return { dtype := d, layout := rowMajor p.resultShape, cells }

def matmulSparse (s t : Sparse) : Run Value := do
  let result ← product true true s.operand t.operand
  match result.shape with
  | [] => newArray result.dtype result.layout result.cells
  | shape =>
    let format :=
      if shape.length = 1 then SparseFormat.coo
      else if s.format = .dia && t.format = .dia then .dia
      else s.format.computed
    allocate (ofCells format s.isMatrix result.dtype shape result.cells)

/-- A matrix product with an array as a value: a number where no axis is left, and where a matrix by
coordinates meets a vector in one place only. -/
def productValue (s : Sparse) (dense result : Operand) (layout : Layout) : Run Value := do
  match result.shape, result.cells with
  | [], [cell] => return element result.dtype cell
  | [1], [cell] =>
    if s.format = .coo && !s.isMatrix && dense.shape.length = 1 then return element result.dtype cell
    else newArray result.dtype layout [cell]
  | _, cells => newArray result.dtype layout cells

def matmul (s : Sparse) (v : Value) : Run Value := do
  match v with
  | .sparse id => s.matmulSparse (← sparseContent id)
  | v =>
    let dense ← denseOperand v
    let result ← product true false s.operand dense
    s.productValue dense result result.layout

def matmulFrom (s : Sparse) (v : Value) : Run Value := do
  let dense ← denseOperand v
  let result ← product false true dense s.operand
  s.productValue dense result (columnMajor result.shape)

/-! ### Quotients by matrices and arrays -/

/-- The quotient of two matrices is an array: where neither has a number it is undefined. -/
def ratio (s t : Sparse) : Run Value := do
  if s.shape ≠ t.shape then fail .value
  let d := if s.dtype.kind = .complex then s.dtype else .float64
  let wide := d.promote t.dtype
  let cell (x y : Cell) : Cell :=
    if !isNonzero x && isNonzero y then .num d.zero
    else if !isNonzero x then .num (d.cast (.float (0.0 / 0.0)))
    else .num (d.cast (wide.binary .divide (wide.cast (numOf x)) (wide.cast (numOf y))))
  newArray d (rowMajor s.shape) (List.zipWith cell s.cells t.cells)

def dividedBy (s : Sparse) (v : Value) : Run Value := do
  match v with
  | .sparse id => s.ratio (← sparseContent id)
  | v =>
    if v.isScalarLike then s.quotient v
    else
      let dense ← denseOperand v
      let one : Operand := { Operand.single .float64 (.num (.float 1.0)) with weak := some (.float 1.0) }
      let reciprocals ← binaryPlan .divide one dense none
      s.timesDense
        { dtype := reciprocals.dtype, layout := rowMajor reciprocals.shape,
          cells := ← reciprocals.steps.mapM id }

/-! ### Comparison -/

def converse : CompareOp → CompareOp
  | .less => .greater
  | .lessEq => .greaterEq
  | .greater => .less
  | .greaterEq => .lessEq
  | op => op

def ofTruths (s : Sparse) (truths : Value) : Run Value := do
  let truths ← Value.operand truths
  allocate (ofCells s.format.computed s.isMatrix .bool s.shape truths.cells)

/-- A comparison with any value on the right. That zero is at most zero would fill every place, so it is
not offered. -/
def compare (op : CompareOp) (s : Sparse) (v : Value) : Run Value := do
  let byIdentity := op = .eq || op = .notEq
  match v with
  | .sparse id =>
    let t ← sparseContent id
    if s.shape = t.shape then s.ofTruths (← compareArrays op (← s.toArray) (← t.toArray))
    else if byIdentity then return .bool (op = .notEq)
    else fail .value
  | v =>
    if v.isScalarLike then
      if v.isText then fail .type
      if (op = .lessEq || op = .greaterEq) && (← isNothing v) then fail .notImplemented
      s.ofTruths (← compareArrays op (← s.toArray) v)
    else if v.isDense then compareArrays op (← s.toArray) v
    else if byIdentity then return .bool (op = .notEq)
    else fail .type

end Sparse

namespace Value

/-- Arithmetic with at least one sparse matrix. Arrays multiply number by number, matrices as matrices do. -/
def sparseBinary (op : BinaryOp) (a b : Value) : Run Value := do
  match a, b with
  | .sparse id, b =>
    let s ← sparseContent id
    match op with
    | .add => s.plus b
    | .sub => s.minus b
    | .div => s.dividedBy b
    | .mult =>
      if s.isMatrix then
        if b.isScalarLike then s.scale b else s.matmul b
      else s.times b
    | .matMult => if b.isScalarLike then fail .value else s.matmul b
    | _ => fail .type
  | a, .sparse id =>
    let s ← sparseContent id
    match op with
    | .add => s.plus a
    | .sub => s.minusFrom a
    | .mult =>
      if s.isMatrix then
        if a.isScalarLike then s.scale a else s.matmulFrom a
      else s.times a
    | .matMult => if a.isScalarLike then fail .value else s.matmulFrom a
    | _ => fail .type
  | _, _ => fail .type

/-- A number that scales a matrix in its own place. The numbers of schemes that keep them in one array have
to fit into it; those of a table of keys keep the type that they get. -/
def scaleSparse (op : BinaryOp) (target : Nat) (s : Sparse) (v : Value) : Run Value := do
  if s.format.isFlat then
    let factor ← if op = .div then denseBinary .div (.float 1.0) v else pure v
    let plan ← binaryPlan .multiply s.data (← operand factor) none
    if !plan.dtype.sameKind s.dtype then fail .type
    let cells ← plan.steps.mapM id
    writeEntries target (Sparse.scatter s.entries (← cells.mapM (castCell s.dtype)))
  else
    let entries ← s.entries.mapM fun
      | some cell => do
        match ← denseBinary op (element (ownType s.dtype cell) cell) v with
        | .num x | .scalar _ x => return some (Cell.num x)
        | _ => fail .type
      | none => return none
    writeEntries target entries
  return .sparse target
where
  /-- The type of a number that may have left the one of its matrix. -/
  ownType (d : DType) (cell : Cell) : DType :=
    let own := DType.ofNum (numOf cell)
    if own.kind = d.kind then d else own

/-- An in-place operator on a sparse matrix: the value that the target name is given afterwards. Rows of
lists take over those of a matrix of the same shape. -/
def updateSparse (op : BinaryOp) (target : Nat) (v : Value) : Run Value := do
  let s ← sparseContent target
  let scales := (op = .mult || op = .div) && v.isScalarLike
  let sums := op = .add || op = .sub
  if s.format = .lil && (scales || sums) then
    match ← sparseBinary op (.sparse target) v with
    | .sparse other =>
      replaceEntries target ((← sparseContent other).castTo s.dtype).entries
    | result => Sparse.assign target result
    return .sparse target
  else if scales then scaleSparse op target s v
  else sparseBinary op (.sparse target) v

end Value
end Rebind
