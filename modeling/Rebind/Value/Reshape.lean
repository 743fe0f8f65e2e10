import Rebind.Value.Product
/-!
Other views of the same cells, and copies where no view will do.
-/
namespace Rebind

open Number Strided Run

namespace Value

/-- A new dense array with the contents of a view; the axes keep their order in memory. -/
def copyView (view : View) : Run View := do
  newView view.dtype view.layout.copied (← read view)

/-- The cells of a view under another shape: the same cells if steps allow it, a copy if not. -/
def reshapeView (view : View) (shape : Shape) : Run View := do
  if shape.size ≠ view.size then fail .value
  match view.layout.reshape? shape with
  | some layout => return { view with layout := layout }
  | none => newView view.dtype (Layout.rowMajor shape) (← read view)

def flattenView (view : View) : Run View := reshapeView view [view.size]

def selectView (view : View) : (key : Value) → Run View
  | .ellipsis => return view
  | .num x =>
    match x.toInt? with
    | some i =>
      match view.layout.index? i with
      | some layout => return { view with layout := layout }
      | none => fail .index
    | none => fail .index
  | .scalar _ (.int i) =>
    match view.layout.index? i with
    | some layout => return { view with layout := layout }
    | none => fail .index
  | .slice start stop step => do
    let bound (v : Value) : Run (Option Int) :=
      match v with
      | .null => return none
      | .num x =>
        match x.toInt? with
        | some n => return some n
        | none => fail .type
      | _ => fail .type
    match view.layout.slice? (← bound start) (← bound stop) ((← bound step).getD 1) with
    | some layout => return { view with layout := layout }
    | none => fail .index
  | _ => fail .index

def selectAxes : (keys : List Value) → (done : List Axis) → View → Run View
  | [], done, view => return { view with layout := ⟨view.layout.offset, done.reverse ++ view.layout.axes⟩ }
  | .ellipsis :: keys, done, view => do
    let skipped := view.layout.axes.length - keys.length
    let kept := view.layout.axes.take skipped
    selectAxes keys (kept.reverse ++ done)
      { view with layout := ⟨view.layout.offset, view.layout.axes.drop skipped⟩ }
  | .slice a b c :: keys, done, view => do
    let chosen ← selectView view (.slice a b c)
    match chosen.layout.axes with
    | axis :: rest => selectAxes keys (axis :: done) { chosen with layout := ⟨chosen.layout.offset, rest⟩ }
    | [] => fail .index
  | key :: keys, done, view => do
    let chosen ← selectView view key
    selectAxes keys done chosen

def select (view : View) (key : Value) : Run View :=
  match key with
  | .tuple keys => selectAxes keys [] view
  | key => selectView view key

def keepsArray : Value → Bool
  | .ellipsis => true
  | .tuple keys => keys.any fun
    | .ellipsis => true
    | _ => false
  | _ => false

def selectValue (view : View) (key : Value) : Run Value := do
  let chosen ← select view key
  if chosen.shape = [] && !keepsArray key then
    match ← read chosen with
    | [cell] => return element chosen.dtype cell
    | _ => fail .index
  else arrayOf chosen

def overlap (a b : View) : Bool :=
  a.buffer == b.buffer && a.layout.addresses.any fun place => b.layout.addresses.contains place

end Value
end Rebind
