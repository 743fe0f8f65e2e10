import Rebind.Syntax.Tree
/-!
Forms: what an update statement asks for, with the parts of the statement that take part in it.
-/
namespace Rebind.Update

open Syntax

/-- The closed list of shapes. -/
inductive Shape where
  | copyInto | copyOf | zeroOf | similarOf | genericOpAssign | broadcastAssign
  | elementwiseApplyAssign | matmulAssign | axpyAssign | unsupported
deriving DecidableEq, Repr

def Shape.text : Shape → String
  | copyInto => "copy_into"
  | copyOf => "copy_of"
  | zeroOf => "zero_of"
  | similarOf => "similar_of"
  | genericOpAssign => "generic_op_assign"
  | broadcastAssign => "broadcast_assign"
  | elementwiseApplyAssign => "elementwise_apply_assign"
  | matmulAssign => "matmul_assign"
  | axpyAssign => "axpy_assign"
  | unsupported => "unsupported"

/-- New arrays made after another one. -/
inductive Allocation where
  | copy | zero | similar
deriving DecidableEq, Repr

namespace Allocation

def ofHead? : String → Option Allocation
  | "copy" => some copy
  | "zero" => some zero
  | "similar" => some similar
  | _ => none

def shape : Allocation → Shape
  | copy => .copyOf
  | zero => .zeroOf
  | similar => .similarOf

end Allocation

/-- The operations that have an in-place and an allocating side. -/
inductive TableOp where
  | copyto | copy | iadd | isub | imul | itruediv
deriving DecidableEq, Repr

namespace TableOp

def name : TableOp → String
  | copyto => "copyto"
  | copy => "copy"
  | iadd => "iadd"
  | isub => "isub"
  | imul => "imul"
  | itruediv => "itruediv"

def all : List TableOp := [copyto, copy, iadd, isub, imul, itruediv]

def ofName? (name : String) : Option TableOp := all.find? (·.name == name)

def minOperands : TableOp → Nat
  | copy => 0
  | _ => 1

def maxOperands : TableOp → Option Nat
  | copyto | copy => some 1
  | _ => none

def accepts (op : TableOp) (count : Int) : Bool :=
  op.minOperands ≤ count &&
    match op.maxOperands with
    | none => true
    | some most => count ≤ most

def shape : TableOp → Shape
  | copyto => .copyInto
  | _ => .genericOpAssign

end TableOp

/-- Which factors of a product are flattened first. -/
inductive Flattened where
  | neither | left | right | both
deriving DecidableEq, Repr

namespace Flattened

def text : Flattened → String
  | neither => "neither"
  | left => "left"
  | right => "right"
  | both => "both"

def ofSides : (left right : Bool) → Flattened
  | true, true => both
  | true, false => left
  | false, true => right
  | false, false => neither

end Flattened

/-- The operators that can update in place. -/
inductive InPlaceOp where
  | add | sub | mul | div
deriving DecidableEq, Repr

namespace InPlaceOp

def ofBinary? : BinaryOp → Option InPlaceOp
  | .add => some add
  | .sub => some sub
  | .mult => some mul
  | .div => some div
  | _ => none

def binary : InPlaceOp → BinaryOp
  | add => .add
  | sub => .sub
  | mul => .mult
  | div => .div

def text : InPlaceOp → String
  | add => "Add"
  | sub => "Sub"
  | mul => "Mult"
  | div => "Div"

end InPlaceOp

inductive Form where
  /-- `target = copy(source)`, and likewise for zeros and for unset contents. -/
  | allocation (kind : Allocation) (target source : Expr)
  /-- `op(target, operands…)` or `target = op(operands…)`. -/
  | operation (op : TableOp) (target : Expr) (operands : List Expr)
  /-- `axpy(alpha, x, y)` or `axpby(alpha, x, beta, y)`. -/
  | axpy (alpha x : Expr) (beta : Option Expr) (y : Expr)
  /-- `target[...] = value` or `target[...] op= value`. -/
  | broadcast (op : Option InPlaceOp) (target value : Expr)
  /-- `target = elementwise(value)`. -/
  | elementwise (target value : Expr)
  /-- `target = left @ right` or `target += left @ right`, with `vec` taken off the factors. -/
  | product (target left right : Expr) (flattened : Flattened) (accumulate : Bool)
  | unsupported (statement : Stmt)
deriving Inhabited

def Form.shape : Form → Shape
  | allocation kind _ _ => kind.shape
  | operation op _ _ => op.shape
  | axpy _ _ _ _ => .axpyAssign
  | broadcast _ _ _ => .broadcastAssign
  | elementwise _ _ => .elementwiseApplyAssign
  | product _ _ _ _ _ => .matmulAssign
  | unsupported _ => .unsupported

end Rebind.Update
