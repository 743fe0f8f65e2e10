import Rebind.Kernel.Flat
/-!
Functions applied to every element. The arguments are stretched to one shape and the function is called on
their elements, in the order in which these lie in memory. What it makes of the first elements, as numbers
of their element types, settles beforehand the type of all results.
-/
namespace Rebind

open Number Strided

abbrev Caller := Value → List Value → List (String × Value) → Run Value

namespace Value

def objectOperand (v : Value) : Run Operand := do
  match exportedView? v, ← exportedBytes? v with
  | some view, _ =>
    let cells := (← Run.read view).map fun cell => Cell.object (ofCell cell)
    let layout := if view.dtype = .object then view.layout else view.layout.copied
    return { dtype := .object, layout, cells }
  | none, some content =>
    let cells := content.map fun b => Cell.object (ofCell (byteCell b))
    return { dtype := .object, layout := Layout.rowMajor [content.length], cells }
  | none, none =>
    match v with
    | .list _ | .tuple _ =>
      let (shape, leaves) ← unnest nestingLimit v
      return { dtype := .object, layout := Layout.rowMajor shape, cells := leaves.map Cell.object }
    | v => return .single .object (.object v)

def resultType (v : Value) : Run DType := do return (← operand v).dtype

/-- Values gathered crosswise: for each place the elements of all arguments there. -/
def crosswise (shape : Shape) (operands : List Operand) : List (List Value) :=
  operands.foldr
    (fun operand rows => ((operand.spread shape).zip rows).map fun (cell, row) => ofCell cell :: row)
    (List.replicate shape.size [])

def gathered (d : DType) (layout : Layout) (results : List Value) : Run Value := do
  let results := results.toArray
  let cells ← layout.addresses.mapM fun place => cellFor d (results.getD place.toNat .null)
  Run.newArray d layout cells

/-- The single result of a call without axes, taken apart if it has parts. -/
def lone (d : DType) (result : Value) : Run Value := do
  let (shape, leaves) ← unnest (if d = .object then 1 else nestingLimit) result
  Run.newArray d (Layout.rowMajor shape) (← leaves.mapM (cellFor d))

/-- Calls a function on every element of its arguments. A function that gives a tuple has as many outputs
as that has items. -/
def applyEach (call : List Value → Run Value) (args : List Value) : Run Value := do
  let given ← args.mapM operand
  if given.any (·.cells.isEmpty) then Run.fail .value
  let probe ← call (given.filterMap fun o => o.cells.head?.map (element o.dtype))
  let outputs := match probe.bare with
    | .tuple items => items
    | v => [v]
  let types ← outputs.mapM fun v => resultType v.bare
  let operands ← args.mapM objectOperand
  let shape ← Run.ofExcept (resultShape (operands.map Operand.shape) none)
  let layout := Layout.ofOperands shape (operands.map (Operand.stretched · shape))
  let inMemory := (layout.addresses.zip (crosswise shape operands)).mergeSort fun a b => a.1 ≤ b.1
  let results ← inMemory.mapM fun (_, row) => return (← call row).bare
  match types, results with
  | [d], [result] => if shape = [] then lone d result else gathered d layout results
  | [d], results => gathered d layout results
  | types, results =>
    let rows := results.map fun
      | .tuple items => if items.length = types.length then items else types.map fun _ => .null
      | _ => types.map fun _ => .null
    let arrays ← types.zipIdx.mapM fun (d, i) => gathered d layout (rows.map (·.getD i .null))
    return .tuple arrays

def isCallable : Value → Run Bool
  | .builtin _ | .function _ | .method _ _ | .classType _ | .errorType _ | .marker _ => return true
  | .record id => do
    match ← Run.object id with
    | .record (some type) _ =>
      match ← Run.object type with
      | .classType content => return (content.attrs.lookup "__call__").isSome
      | _ => return false
    | _ => return false
  | _ => return false

/-- Applies a function elementwise if an array is among the arguments, and plainly if not. Functions that
know arrays are left to themselves. -/
def broadcastCall (call : Caller) (function : Value) (args : List Value)
    (named : List (String × Value)) : Run Value := do
  if !(args ++ named.map (·.2)).any isArray then call function args named
  else
    match function with
    | .builtin (.unary _) | .builtin (.binary _) => call function args named
    | function =>
      if !(← isCallable function) then Run.fail .type
      let spread (values : List Value) : Run Value :=
        call function (values.take args.length) ((named.map (·.1)).zip (values.drop args.length))
      applyEach spread (args ++ named.map (·.2))

end Value
end Rebind
