import Rebind.Value.Assign
/-!
Matrix products. Vectors take part as single rows or columns, further axes are stretched. Sums run over
the shared axis from its start.
-/
namespace Rebind

open Number Strided Syntax

/-- The shapes that take part in a product, or nothing if they do not fit. -/
structure ProductShape where
  /-- Shape of the stack of matrices. -/
  stack : Shape
  rows : Nat
  inner : Nat
  columns : Nat
  /-- A vector on the left or right leaves no axis in the result. -/
  leftVector : Bool
  rightVector : Bool

namespace ProductShape

def resultShape (p : ProductShape) : Shape :=
  p.stack ++ (if p.leftVector then [] else [p.rows]) ++ (if p.rightVector then [] else [p.columns])

def split? (shape : Shape) : Option (Shape × Nat × Nat) :=
  match shape.reverse with
  | n :: m :: rest => some (rest.reverse, m, n)
  | _ => none

def make? (a b : Shape) : Option ProductShape := do
  let left := match a with
    | [n] => [1, n]
    | a => a
  let right := match b with
    | [n] => [n, 1]
    | b => b
  let (stackA, rows, inner) ← split? left
  let (stackB, inner', columns) ← split? right
  let stack ← Layout.broadcastShapes stackA stackB
  if inner = inner' then
    return ⟨stack, rows, inner, columns, a.length = 1, b.length = 1⟩
  else none

end ProductShape

namespace Value

def dotNum (d : DType) (xs ys : List Numeral) : Numeral :=
  match xs.zip ys with
  | [] => d.zero
  | (x, y) :: rest =>
    rest.foldl (fun sum (x, y) => d.binary .add sum (d.binary .multiply x y)) (d.binary .multiply x y)

/-- The sum of products of objects; nothing at all comes of an empty sum. -/
def dotObjects : List (Value × Value) → Run Value
  | [] => return .null
  | (x, y) :: rest => do
    let first ← objectBinary .multiply x y
    rest.foldlM (fun sum (x, y) => do objectBinary .add sum (← objectBinary .multiply x y)) first

def numOf : Cell → Numeral
  | .num x => x
  | .object _ => .int 0

def dotStep (d : DType) (xs ys : List Cell) : Run Cell := do
  if d = .object then return .object (← dotObjects ((xs.map ofCell).zip (ys.map ofCell)))
  else return .num (dotNum d (xs.map numOf) (ys.map numOf))

def rowsOf (cells : Array Cell) (start rows inner : Nat) : List (List Cell) :=
  (List.range rows).map fun i => (List.range inner).map fun k => cells.getD (start + i * inner + k) default

def columnsOf (cells : Array Cell) (start inner columns : Nat) : List (List Cell) :=
  (List.range columns).map fun j =>
    (List.range inner).map fun k => cells.getD (start + k * columns + j) default

def matrixStarts (own stack : Shape) (size : Nat) : List Nat :=
  match (Layout.rowMajor own).broadcastTo? stack with
  | some layout => layout.addresses.map fun place => place.toNat * size
  | none => []

def productPlan (a b : Operand) (target : Option View) : Run Plan := do
  if Operand.textMisplaced a b then Run.fail .type
  let d := Operand.meet a b
  if !mayStore d target then Run.fail .type
  let a ← a.castTo d
  let b ← b.castTo d
  match ProductShape.make? a.shape b.shape with
  | none => Run.fail .value
  | some p =>
    let stackOf (shape : Shape) : Shape := (shape.reverse.drop 2).reverse
    let startsA := matrixStarts (stackOf a.shape) p.stack (p.rows * p.inner)
    let startsB := matrixStarts (stackOf b.shape) p.stack (p.inner * p.columns)
    let cellsA := a.cells.toArray
    let cellsB := b.cells.toArray
    let steps := (startsA.zip startsB).flatMap fun (i, j) =>
      let columns := columnsOf cellsB j p.inner p.columns
      (rowsOf cellsA i p.rows p.inner).flatMap fun row => columns.map fun column => dotStep d row column
    return ⟨d, p.resultShape, Layout.rowMajor p.resultShape, steps⟩

def matmul (a b : Value) : Run Value := do
  if a.refusesElementwise || b.refusesElementwise then Run.fail .type
  (← productPlan (← operand a) (← operand b) none).result

def matmulOut (a b : Value) (target : View) : Run Unit := do
  let plan ← productPlan (← operand a) (← operand b) (some target)
  plan.into target

end Value
end Rebind
