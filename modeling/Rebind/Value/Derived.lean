import Rebind.Value.Reshape
/-!
Views made from other arrays, and views of the bytes behind a value.
-/
namespace Rebind

open Number Strided Run

/-- A step from an array to a view of it. -/
inductive ViewStep where
  | transpose
  | reverse
  | slice (start stop step : Option Int)
  | index (place : Int)
  | reshape (shape : Shape)
  | broadcast (shape : Shape)
  | readonly
deriving DecidableEq, Repr

namespace ViewStep

def apply (view : View) : ViewStep → Run View
  | transpose => return { view with layout := view.layout.transpose }
  | reverse => apply.sliced none none (-1)
  | slice start stop step => apply.sliced start stop (step.getD 1)
  | index place =>
    match view.layout.index? place with
    | some layout => return { view with layout := layout }
    | none => fail .index
  | reshape shape => Value.reshapeView view shape
  | broadcast shape =>
    match view.layout.broadcastTo? shape with
    | some layout => return { view with layout := layout, writeable := false }
    | none => fail .value
  | readonly => return { view with writeable := false }
where
  sliced (start stop : Option Int) (step : Int) : Run View :=
    match view.layout.slice? start stop step with
    | some layout => return { view with layout := layout }
    | none => fail .value

end ViewStep

namespace Value

def viewThrough (v : Value) (steps : List ViewStep) : Run Value := do
  match v, steps with
  | v, [] => return v
  | .array _ view, steps => arrayOf (← steps.foldlM ViewStep.apply view)
  | _, _ => fail .type

def bytesOf (v : Value) (readonly : Bool) : Run Value := do
  match v with
  | .array _ view => return .memoryview (← freshId) v (readonly || !view.writeable)
  | .bytes _ => return .memoryview (← freshId) v true
  | .bytearray id => do
    watch id
    return .memoryview (← freshId) v readonly
  | .memoryview _ of inner => return .memoryview (← freshId) of (readonly || inner)
  | _ => fail .type

end Value
end Rebind
