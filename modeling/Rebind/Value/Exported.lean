import Rebind.Value.Reshape
/-!
Memory shown to others: a window on the cells of an array or on bytes, read and written one element at a
time. Only plain numbers can be read through it. A window without axes is indexed by nothing at all.
-/
namespace Rebind

open Number Strided Run

namespace Strided.DType

def isExportable : DType → Bool
  | bool | uint8 | uint64 | int32 | int64 | float32 | float64 => true
  | _ => false

end Strided.DType

namespace Value

/-- What a window shows: the shape, the element type, and how one cell is read and written. -/
structure Window where
  shape : Shape
  dtype : DType
  read : Nat → Run Value
  write : Nat → Numeral → Run Unit

def byteWindow (content : List UInt8) (write : List UInt8 → Run Unit) : Window where
  shape := [content.length]
  dtype := .uint8
  read place := return .int (content.getD place 0).toNat
  write place x := write (content.set place (UInt8.ofNat ((x.toInt?.getD 0).toNat)))

def cellWindow (view : View) : Window where
  shape := view.shape
  dtype := view.dtype
  read place := do return ofCell ((← Run.read view).getD place default)
  write place x :=
    match view.layout.addresses[place]? with
    | some address => writeCell view.buffer address (.num x)
    | none => fail .index

def windowOn (of : Value) : Run Window := do
  match of with
  | .array _ view => return cellWindow view
  | .bytearray id => return byteWindow (← byteContent id) fun content => store id (.bytes content)
  | .bytes content => return byteWindow content fun _ => fail .type
  | _ => fail .type

def index? : Value → Option Int
  | .num x => x.toInt?
  | .scalar d (.int n) => if d.kind = .integer then some n else none
  | _ => none

def packed (d : DType) (v : Value) : Run Numeral := do
  match d.kind with
  | .truth => return .bool (← plainTruth v)
  | .integer =>
    match v.index? with
    | some n => if d.holds n then return .int n else fail .value
    | none => fail .type
  | _ =>
    match Numeric.ofValue? v, v with
    | some x, _ =>
      match x.toFloat with
      | .ok y => return .float (d.round y)
      | .error fault => fail (if fault.kind = .overflow then .value else fault.kind)
    | none, .scalar _ x => return .float (d.round (DType.realPart x))
    | none, _ => fail .type

def placeIn (length : Nat) (i : Int) : Run Nat := do
  let place := if i < 0 then i + length else i
  if place < 0 || (length : Int) ≤ place then fail .index else return place.toNat

/-- Reads through a window, or gives back the window `self` itself. -/
def windowItem (self of key : Value) : Run Value := do
  let window ← windowOn of
  match window.shape, key with
  | [], .ellipsis => return self
  | [], .tuple [] => if window.dtype.isExportable then window.read 0 else fail .notImplemented
  | [], _ => fail .type
  | shape, key =>
    match key.index?, shape with
    | some i, [n] =>
      if window.dtype.isExportable then do window.read (← placeIn n i) else fail .notImplemented
    | some _, _ => fail .notImplemented
    | none, _ => fail .type

def setWindowItem (of : Value) (readonly : Bool) (key v : Value) : Run Unit := do
  let window ← windowOn of
  if !window.dtype.isExportable then fail .notImplemented
  if readonly then fail .type
  match window.shape, key with
  | [], .ellipsis | [], .tuple [] => window.write 0 (← packed window.dtype v)
  | [], _ => fail .type
  | shape, key =>
    match key.index?, shape with
    | some i, [n] => do
      let place ← placeIn n i
      window.write place (← packed window.dtype v)
    | some _, _ => fail .notImplemented
    | none, _ => fail .type

def windowItems (of : Value) : Run (List Value) := do
  let window ← windowOn of
  match window.shape with
  | [] => fail .type
  | [n] =>
    if window.dtype.isExportable then (List.range n).mapM window.read else fail .notImplemented
  | _ => fail .notImplemented

def windowLength (of : Value) : Run Nat := do
  return ((← windowOn of).shape.head?).getD 1

end Value
end Rebind
