import Rebind.Kernel.Linear
/-!
The table of operations with two sides. The in-place side works on its target, the allocating side leaves
it alone; the capability of the target chooses between them.
-/
namespace Rebind

open Syntax

namespace Update.TableOp

def operator? : TableOp → Option BinaryOp
  | iadd => some .add
  | isub => some .sub
  | imul => some .mult
  | itruediv => some .div
  | copyto | copy => none

/-- One in-place step; a result that is not the target is assigned to it. -/
def updateOnce (op : BinaryOp) (target operand : Value) : Run Unit := do
  let updated ← Value.update op target operand
  if !Value.isUpdated target updated then Value.setItem target .ellipsis updated

def inPlace (op : TableOp) (target : Value) (operands : List Value) : Run Value := do
  match op, operands with
  | .copyto, [source] =>
    Value.setItem target .ellipsis source
    return target
  | .copyto, _ => Run.fail .type
  | .copy, [] => Value.copyOf target
  | .copy, source :: _ => Value.copyOf source
  | op, operands =>
    match op.operator? with
    | some operator =>
      operands.forM (updateOnce operator target)
      return target
    | none => Run.fail .type

def outOfPlace (op : TableOp) (target : Value) (operands : List Value) : Run Value := do
  match op, operands with
  | .copyto, [source] => return source
  | .copyto, _ => Run.fail .type
  | .copy, [] => return target
  | .copy, source :: _ => return source
  | op, operands =>
    match op.operator? with
    | some operator => operands.foldlM (Value.binary operator) target
    | none => Run.fail .type

def dispatch (op : TableOp) (capability : Value) (target : Value) (operands : List Value) : Run Value :=
  match capability with
  | .capability .canMutate => op.inPlace target operands
  | _ => op.outOfPlace target operands

end Update.TableOp
end Rebind
