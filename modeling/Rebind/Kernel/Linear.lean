import Rebind.Kernel.Flat
/-!
Scaled products and sums written into a target. Where types and shapes allow it the elementwise or product
function writes into the target itself; otherwise a new result is assigned to it.
-/
namespace Rebind

open Number Strided

namespace Value

/-- Whether a value compares equal to a number; arrays must have one element. -/
def equals (v : Value) (n : Int) : Run Bool := do truth (← compare .eq v (.int n))

def differs (v : Value) (n : Int) : Run Bool := do truth (← compare .notEq v (.int n))

/-- The product, scaled unless the factor is one. -/
def scaledProduct (a b alpha : Value) : Run Value := do
  let product ← binary .matMult a b
  if ← differs alpha 1 then binary .mult alpha product else return product

/-- `alpha * (a @ b) + beta * c` assigned to all of `c`. -/
def assignProduct (c a b alpha beta : Value) : Run Value := do
  let product ← scaledProduct a b alpha
  let product ← if ← differs beta 0 then binary .add product (← binary .mult beta c) else pure product
  setItem c .ellipsis product
  return c

/-- The shape of a product of vectors and matrices; stacks are not considered. -/
def plainProductShape? (a b : Shape) : Option Shape :=
  match a, b with
  | [_], [_] => some []
  | [_], [_, m] => some [m]
  | [n, _], [_] => some [n]
  | [n, _], [_, m] => some [n, m]
  | _, _ => none

/-- The product for a sparse target: it is spread out and assigned. -/
def assignSparseProduct (id : Nat) (a b alpha beta : Value) : Run Value := do
  let c : Value := .sparse id
  let product ← scaledProduct a b alpha
  let product ← if ← differs beta 0 then binary .add (← binary .mult beta c) product else pure product
  let dense ← match product with
    | .sparse other => (← Run.sparseContent other).toArray
    | product => asArray product
  match dense with
  | .array _ view =>
    let shape := (← Run.sparseContent id).shape
    let shaped ← reshapeView view shape
    if shape.length ≠ 2 then Run.fail .index
    Sparse.assign id (← Run.arrayOf shaped)
    return c
  | _ => Run.fail .type

/-- `c = alpha * (a @ b) + beta * c` in place. -/
def matmulInto (c a b alpha beta : Value) : Run Value := do
  match c, a, b with
  | .array _ target, .array _ left, .array _ right =>
    if ← isDirect target left right then
      matmulOut a b target
      return c
    else assignProduct c a b alpha beta
  | .sparse id, _, _ => assignSparseProduct id a b alpha beta
  | _, _, _ => assignProduct c a b alpha beta
where
  isDirect (target left right : View) : Run Bool := do
    if !(← equals alpha 1) then return false
    if !(← equals beta 0) then return false
    return plainProductShape? left.shape right.shape = some target.shape &&
      (left.dtype.promote right.dtype).sameKind target.dtype

/-- The type in which a scaled sum is computed. Only arrays, sparse matrices and plain numbers have one. -/
def sumType (scaled y beta : Value) : Run DType := do
  let typed (v : Value) : Run Operand := do
    match v with
    | .array _ _ | .scalar _ _ | .num _ => operand v
    | .sparse id => return (← Run.sparseContent id).operand
    | _ => Run.fail .type
  let operands ← [scaled, y, beta].mapM typed
  let firm := operands.filter (·.weak.isNone)
  let dtype := match firm with
    | [] => DType.float64
    | first :: rest => rest.foldl (fun d o => d.promote o.dtype) first.dtype
  return (operands.filterMap (·.weak)).foldl DType.promoteWeak dtype

/-- `y = alpha * x + beta * y` in place. -/
def scaledAddInto (y alpha x beta : Value) : Run Value := do
  match y with
  | .array _ view =>
    let scaled ← applyBinary .multiply alpha x
    let d ← sumType scaled y beta
    if d.sameKind view.dtype then
      if ← differs beta 1 then binaryUfuncInto .multiply y beta view
      binaryUfuncInto .add y scaled view
    else setItem y .ellipsis (← binary .add scaled (← binary .mult beta y))
    return y
  | y =>
    let left ← binary .mult alpha x
    setItem y .ellipsis (← binary .add left (← binary .mult beta y))
    return y

end Value
end Rebind
