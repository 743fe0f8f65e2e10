import Rebind.Kernel.Capability
/-!
New values after a model: copies, zeros, and buffers of the same form.
-/
namespace Rebind

open Number Strided Run

namespace Value

def zeroLike? : Value → Option Value
  | .num (.bool _) => some (.bool false)
  | .num (.int _) => some (.int 0)
  | .num (.float _) => some (.float 0.0)
  | .num (.complex _ _) => some (.complex 0.0 0.0)
  | .decimal _ => some (.decimal (.ofInt 0))
  | .fraction _ => some (.fraction (.ofInt 0))
  | .scalar d _ => if d = .bool then none else some (.scalar d d.zero)
  | _ => none

def shallowCopy (v : Value) : Run Value := do
  match v with
  | .list id => newList (← listItems id)
  | .bytearray id => return .bytearray (← Run.allocate (.bytes (← byteContent id)))
  | .record id => return .record (← Run.allocate (← Run.object id))
  | .sparse id => Sparse.sharing id
  | .wrapper _ of locked => return .wrapper (← freshId) of locked
  | .memoryview _ _ _ | .module _ => fail .type
  | v => return v

def copyOf (v : Value) : Run Value := do
  match v with
  | .array _ view => arrayOf (← copyView view)
  | .box _ view _ => boxOf (← copyView view) false
  | v => shallowCopy v

def filledLike (view : View) (cell : Cell) : Run View :=
  newView view.dtype view.layout.copied (List.replicate view.size cell)

def zeroCell (d : DType) : Cell :=
  if d = .object then .object (.int 0) else .num d.zero

/-- The zero of the elements of an array of objects, told from the first of them. -/
def elementZero? (view : View) : Run (Option Value) := do
  if view.dtype ≠ .object then return none
  match ← read view with
  | .object first :: _ => return zeroLike? first
  | _ => return none

def arrayLike (view : View) (otherwise : Cell) : Run View := do
  match ← elementZero? view with
  | some zero => filledLike view (.object zero)
  | none => filledLike view otherwise

def likeArray (v : Value) (otherwise : DType → Cell) : Run Value := do
  match v with
  | .array _ view => arrayOf (← arrayLike view (otherwise view.dtype))
  | .box _ view _ => boxOf (← filledLike view (zeroCell view.dtype)) false
  | .scalar d _ => newArray d ⟨0, []⟩ [otherwise d]
  | _ => throw .noArray

def zeroOf (v : Value) : Run Value := do
  match zeroLike? v with
  | some zero => return zero
  | none => likeArray v zeroCell

def zeroValue (v : Value) : Run Value := do
  match v, ← zeroOf v with
  | .array _ model, .array id view => return .array id { view with writeable := model.writeable }
  | _, zero => return zero

def emptyCell (d : DType) : Cell :=
  if d = .object then .object .null else .num d.zero

def similarOf (v : Value) : Run Value := do
  match zeroLike? v with
  | some _ => return v
  | none => likeArray v emptyCell

end Value
end Rebind
