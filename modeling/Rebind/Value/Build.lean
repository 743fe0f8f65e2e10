import Rebind.Value.Cell
/-!
Arrays from other values: nested sequences are searched for a shape and a type, single values stand for
arrays without axes.
-/
namespace Rebind

open Number Strided

/-- A value taken as an array: the cells in order and how they lay in memory. A plain number has only a
kind and no type of its own; texts have no place among the numbers. -/
structure Operand where
  dtype : DType
  layout : Layout
  cells : List Cell
  weak : Option Numeral := none
  textual : Bool := false

namespace Operand

def shape (operand : Operand) : Shape := operand.layout.shape

def single (dtype : DType) (cell : Cell) : Operand := { dtype, layout := ⟨0, []⟩, cells := [cell] }

def spread (operand : Operand) (shape : Shape) : List Cell :=
  let dense := Layout.rowMajor operand.shape
  let cells := operand.cells.toArray
  match dense.broadcastTo? shape with
  | some layout => layout.addresses.map fun place => cells.getD place.toNat default
  | none => []

def stretched (operand : Operand) (shape : Shape) : Layout :=
  (operand.layout.broadcastTo? shape).getD ⟨0, []⟩

end Operand

namespace Value

def leafType : Value → DType
  | .num (.int n) =>
    if DType.int64.holds n then .int64 else if DType.uint64.holds n then .uint64 else .object
  | .num x => DType.ofNum x
  | .scalar d _ => d
  | _ => .object

def isText : Value → Bool
  | .str _ | .bytes _ => true
  | _ => false

def parts? (v : Value) : Run (Option (List Value)) := do
  match v with
  | .list id => return some ((← Run.listItems id).map bare)
  | .tuple items => return some (items.map bare)
  | _ => return none

def exportedBytes? (v : Value) : Run (Option (List UInt8)) := do
  match v with
  | .bytearray id | .memoryview _ (.bytearray id) _ => return some (← Run.byteContent id)
  | .memoryview _ (.bytes b) _ => return some b
  | _ => return none

def byteCell (b : UInt8) : Cell := .num (.int b.toNat)

def exportedView? : Value → Option View
  | .array _ view | .memoryview _ (.array _ view) _ => some view
  | _ => none

def unnest : (depth : Nat) → Value → Run (Shape × List Value)
  | 0, v => return ([], [v])
  | depth + 1, v => do
    match exportedView? v, ← exportedBytes? v, ← parts? v with
    | some view, _, _ =>
      let cells ← Run.read view
      return (view.shape, cells.map (element view.dtype))
    | none, some content, _ => return ([content.length], content.map fun b => element .uint8 (byteCell b))
    | none, none, none => return ([], [v])
    | none, none, some [] => return ([0], [])
    | none, none, some (first :: rest) =>
      let (shape, leaves) ← unnest depth first
      let others ← rest.mapM (unnest depth)
      if others.all fun other => other.1 == shape then
        return ((rest.length + 1) :: shape, leaves ++ (others.map (·.2)).flatten)
      else Run.fail .value

def commonType : List Value → DType
  | [] => .float64
  | first :: rest => rest.foldl (fun d v => d.promote v.leafType) first.leafType

def sequenceOperand (v : Value) : Run Operand := do
  let (shape, leaves) ← unnest nestingLimit v
  let dtype := commonType leaves
  let cells ← leaves.mapM (cellFor dtype)
  return { dtype, layout := Layout.rowMajor shape, cells, textual := leaves.any isText }

def operand (v : Value) : Run Operand := do
  match exportedView? v, ← exportedBytes? v with
  | some view, _ => return { dtype := view.dtype, layout := view.layout, cells := ← Run.read view }
  | none, some content =>
    return { dtype := .uint8, layout := Layout.rowMajor [content.length], cells := content.map byteCell }
  | none, none =>
    match v with
    | .scalar d x => return .single d (.num x)
    | .num (.bool b) => return .single .bool (.num (.bool b))
    | .num x => return { Operand.single (leafType v) (.num x) with weak := some x }
    | .list _ | .tuple _ => sequenceOperand v
    | v => return { Operand.single .object (.object v) with textual := v.isText }

def ofOperand (operand : Operand) : Run Value := do
  let cells ←
    if operand.dtype = .object then operand.cells.mapM (castCell .object) else pure operand.cells
  Run.newArray operand.dtype (Layout.rowMajor operand.shape) cells

def asArray (v : Value) : Run Value := do
  match v with
  | .array _ _ => return v
  | v => ofOperand (← operand v)

end Value
end Rebind
