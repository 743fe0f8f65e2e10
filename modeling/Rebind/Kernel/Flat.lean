import Rebind.Kernel.Fresh
/-!
Flattened arrays: all elements in one row, put back into shape, and written back into the array they came
from. What already shares the array's memory is not written again.
-/
namespace Rebind

open Number Strided

namespace Value

def vec (v : Value) : Run Value := do
  match v with
  | .array _ view => Run.arrayOf (← flattenView view)
  | .box _ view _ => Run.boxOf (← flattenView view) false
  | v => return v

def restructure (reference flat : Value) : Run Value := do
  match reference with
  | .array _ view =>
    match ← asArray flat with
    | .array _ given => Run.arrayOf (← reshapeView given view.shape)
    | _ => Run.fail .value
  | .box _ view _ =>
    match ← asArray (← unboxed flat) with
    | .array _ given => Run.boxOf (← reshapeView given view.shape) false
    | _ => Run.fail .value
  | _ => return flat

def sharesMemory (a b : Value) : Bool :=
  isSame a b ||
    match a, b with
    | .array _ v, .array _ w => overlap v w
    | _, _ => false

def shape? (v : Value) : Run (Option Value) := do
  let lengths (shape : Shape) : Value := .tuple (shape.map fun (n : Nat) => .int n)
  match v with
  | .array _ view | .box _ view _ => return some (lengths view.shape)
  | .scalar _ _ => return some (.tuple [])
  | .sparse id => return some (lengths (← Run.sparseContent id).shape)
  | .memoryview _ of _ =>
    match of with
    | .array _ view => return some (lengths view.shape)
    | .bytes content => return some (lengths [content.length])
    | .bytearray id => return some (lengths [(← Run.byteContent id).length])
    | _ => return none
  | .record id =>
    match ← Run.object id with
    | .record _ attrs => return (attrs.lookup "shape").map bare
    | _ => return none
  | _ => return none

/-- The number of elements: the product of the lengths, one without axes. -/
def numel (v : Value) : Run Value := do
  match ← shape? v with
  | none => return .int 1
  | some lengths => do (← iterate lengths).foldlM (binary .mult) (Value.int 1)

def unflattenInto (target flat : Value) : Run Value := do
  if sharesMemory target flat then
    if ← truth (← compare .eq (← numel target.bare) (← numel flat.bare)) then return target
  setItem target.bare .ellipsis (← restructure target.bare flat.bare)
  return target

end Value
end Rebind
