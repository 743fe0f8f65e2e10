import Rebind.Value.Elementwise
/-!
Writing into arrays: the value is stretched over the places of the view and every element is cast without
question. What is written before an element fails stays written.
-/
namespace Rebind

open Number Strided

namespace Strided.Layout

/-- A shape without the leading axes of length one that exceed the given number of axes. -/
def dropLeadingOnes : (count : Nat) → Shape → Shape
  | 0, shape => shape
  | excess + 1, 1 :: shape => dropLeadingOnes excess shape
  | _, shape => shape

end Strided.Layout

namespace Value

/-- The cells of an operand stretched over a shape; more axes are allowed if they have length one. -/
def spreadOver (operand : Operand) (shape : Shape) : Except Fault (List Cell) :=
  let trimmed := Layout.dropLeadingOnes (operand.shape.length - shape.length) operand.shape
  let dense : Operand := { operand with layout := Layout.rowMajor trimmed }
  match dense.layout.broadcastTo? shape with
  | some _ => .ok (dense.spread shape)
  | none => .error (.ordinary .value)

def writeEach (view : View) (steps : List (Run Cell)) : Run Unit :=
  (view.layout.addresses.zip steps).forM fun (place, step) => do
    Run.writeCell view.buffer place (← step)

/-- A value with parts, taken apart only as far as the target has axes. -/
def partsFor (view : View) (v : Value) : Run (Shape × List Value) :=
  unnest (if view.dtype = .object then view.shape.length else nestingLimit) v

def assign (view : View) (v : Value) : Run Unit := do
  if !view.writeable then Run.fail .value
  let copied : Run Unit := do
    let source ← operand v
    let cells ← Run.ofExcept (spreadOver source view.shape)
    if source.dtype = view.dtype then Run.write view cells
    else writeEach view (cells.map (castCell view.dtype))
  match v with
  | .array _ _ | .bytearray _ | .memoryview _ _ _ => copied
  | .list _ | .tuple _ =>
    let (shape, leaves) ← partsFor view v
    let given : Operand := ⟨.object, Layout.rowMajor shape, leaves.map Cell.object, none, false⟩
    let cells ← Run.ofExcept (spreadOver given view.shape)
    let steps := cells.map fun cell => cellFor view.dtype (ofCell cell)
    if shape = view.shape then writeEach view steps
    else Run.write view (← steps.mapM id)
  | v =>
    let cell ← cellFor view.dtype v
    Run.write view (List.replicate view.size cell)

end Value
end Rebind
