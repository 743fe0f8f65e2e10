/-!
Layouts: where the elements of an array lie. A layout has a length and a step for every axis and an
offset; the elements are listed with the last axis running fastest. Broadcasting, slicing, transposing
and flattening change layouts and move no element.
-/
namespace Rebind.Strided

abbrev Shape := List Nat

def Shape.size (shape : Shape) : Nat := shape.foldr (· * ·) 1

/-- One axis: its length and the distance of neighbours along it. -/
structure Axis where
  length : Nat
  step : Int
deriving DecidableEq, Repr, Inhabited

structure Layout where
  offset : Int
  axes : List Axis
deriving DecidableEq, Repr, Inhabited

namespace Layout

def shape (layout : Layout) : Shape := layout.axes.map (·.length)

def size (layout : Layout) : Nat := Shape.size layout.shape

def places : List Axis → Int → List Int
  | [], start => [start]
  | axis :: rest, start =>
    (List.range axis.length).flatMap fun (i : Nat) => places rest (start + (i : Int) * axis.step)

def addresses (layout : Layout) : List Int := places layout.axes layout.offset

/-! ### Dense layouts -/

/-- Steps that put the last axis next to each other, and the number of elements. -/
def rowAxes : Shape → List Axis × Nat
  | [] => ([], 1)
  | n :: rest =>
    let (axes, size) := rowAxes rest
    (⟨n, size⟩ :: axes, n * size)

def rowMajor (shape : Shape) : Layout := ⟨0, (rowAxes shape).1⟩

def columnMajor (shape : Shape) : Layout := ⟨0, ((rowAxes shape.reverse).1).reverse⟩

def rankedSteps (shape : Shape) : (ranking : List Nat) → (step : Nat) → List (Nat × Nat)
  | [], _ => []
  | axis :: rest, step => (axis, step) :: rankedSteps shape rest (step * shape.getD axis 1)

def ranked (shape : Shape) (ranking : List Nat) : Layout :=
  let steps := rankedSteps shape ranking 1
  ⟨0, (shape.zip (List.range shape.length)).map fun (n, axis) =>
    ⟨n, ((steps.lookup axis).getD 1 : Nat)⟩⟩

/-- Whether the axes lie as densely as possible, in the given order of closeness. An axis of length one
lies anywhere. -/
def isDense : (closestFirst : List Axis) → (step : Int) → Bool
  | [], _ => true
  | axis :: rest, step =>
    if axis.length = 1 then isDense rest step
    else axis.step == step && isDense rest (step * axis.length)

def isRowMajor (layout : Layout) : Bool := layout.size = 0 || isDense layout.axes.reverse 1

def isColumnMajor (layout : Layout) : Bool := layout.size = 0 || isDense layout.axes 1

/-- Puts an axis before the first of the ranked ones that is not closer. -/
def insertByStep (axes : List Axis) (axis : Nat) : List Nat → List Nat
  | [] => [axis]
  | other :: rest =>
    if (axes.getD other default).step.natAbs ≤ (axes.getD axis default).step.natAbs then
      other :: insertByStep axes axis rest
    else axis :: other :: rest

/-- The dense layout of a copy, which keeps the order of the axes in memory. -/
def copied (layout : Layout) : Layout :=
  if layout.axes.length ≤ 1 || layout.isRowMajor then rowMajor layout.shape
  else if layout.isColumnMajor then columnMajor layout.shape
  else
    -- ranked from the last axis, so that of equal steps the later axis is closer
    let ranking :=
      (List.range layout.axes.length).reverse.foldl (fun done axis => insertByStep layout.axes axis done) []
    ranked layout.shape ranking

/-! ### Broadcasting -/

def broadcastReversed : Shape → Shape → Option Shape
  | [], b => some b
  | a, [] => some a
  | n :: a, m :: b => do
    let rest ← broadcastReversed a b
    if n = m then return n :: rest
    else if n = 1 then return m :: rest
    else if m = 1 then return n :: rest
    else none

/-- The common shape of two shapes: axes are aligned at the end and an axis of length one fits any. -/
def broadcastShapes (a b : Shape) : Option Shape :=
  (broadcastReversed a.reverse b.reverse).map List.reverse

def stretchReversed : List Axis → Shape → Option (List Axis)
  | [], shape => some (shape.map fun n => ⟨n, 0⟩)
  | _ :: _, [] => none
  | axis :: axes, n :: shape => do
    let rest ← stretchReversed axes shape
    if axis.length = n then return axis :: rest
    else if axis.length = 1 then return ⟨n, 0⟩ :: rest
    else none

def broadcastTo? (layout : Layout) (shape : Shape) : Option Layout :=
  (stretchReversed layout.axes.reverse shape.reverse).map fun axes => ⟨layout.offset, axes.reverse⟩

/-! ### Parts of a layout -/

def transpose (layout : Layout) : Layout := ⟨layout.offset, layout.axes.reverse⟩

def clampBound (n : Nat) (low high : Int) (bound : Int) : Int :=
  let bound := if bound < 0 then bound + n else bound
  if bound < low then low else if high < bound then high else bound

/-- The elements `start, start + step, …` before `stop` of an axis of length `n`: first place and count. -/
def sliceBounds (n : Nat) (start stop : Option Int) (step : Int) : Int × Nat :=
  if 0 < step then
    let first := (start.map (clampBound n 0 n)).getD 0
    let last := (stop.map (clampBound n 0 n)).getD n
    (first, if first < last then ((last - first - 1) / step + 1).toNat else 0)
  else
    let first := (start.map (clampBound n (-1) (n - 1))).getD (n - 1)
    let last := (stop.map (clampBound n (-1) (n - 1))).getD (-1)
    (first, if last < first then ((first - last - 1) / (-step) + 1).toNat else 0)

def slice? (layout : Layout) (start stop : Option Int) (step : Int) : Option Layout :=
  match layout.axes with
  | [] => none
  | axis :: rest =>
    if step = 0 then none
    else
      let (first, count) := sliceBounds axis.length start stop step
      some ⟨layout.offset + first * axis.step, ⟨count, step * axis.step⟩ :: rest⟩

def index? (layout : Layout) (i : Int) : Option Layout :=
  match layout.axes with
  | [] => none
  | axis :: rest =>
    let i := if i < 0 then i + axis.length else i
    if 0 ≤ i ∧ i < axis.length then some ⟨layout.offset + i * axis.step, rest⟩ else none

/-! ### Reshaping -/

/-- Steps for a group of new axes that together run through elements `step` apart. -/
def groupAxes (step : Int) : (lastFirst : List Nat) → List Axis → List Axis
  | [], done => done
  | n :: rest, done => groupAxes (step * n) rest (⟨n, step⟩ :: done)

def regroup : (fuel : Nat) → (old : List Axis) → (oldSize : Nat) → (lastStep : Int) →
    (new : Shape) → (newSize : Nat) → (group : List Nat) → Option (List Axis × List Axis × Shape)
  | 0, _, _, _, _, _, _ => none
  | fuel + 1, old, oldSize, lastStep, new, newSize, group =>
    if oldSize = newSize then some (groupAxes lastStep group [], old, new)
    else if newSize < oldSize then
      match new with
      | [] => none
      | n :: new => regroup fuel old oldSize lastStep new (newSize * n) (n :: group)
    else
      match old with
      | [] => none
      | axis :: old =>
        if lastStep = axis.step * axis.length then
          regroup fuel old (oldSize * axis.length) axis.step new newSize group
        else none

/-- Axes of the new shape over the same elements, if steps can express it. No axis has length one. -/
def regroupAll : (fuel : Nat) → List Axis → Shape → Option (List Axis)
  | 0, _, _ => none
  | _ + 1, [], [] => some []
  | fuel + 1, axis :: old, n :: new => do
    let (done, old, new) ← regroup (old.length + new.length + 1) old axis.length axis.step new n [n]
    let rest ← regroupAll fuel old new
    return done ++ rest
  | _ + 1, _, _ => none

def restoreOnes : Shape → List Axis → List Axis
  | [], _ => []
  | n :: shape, axes =>
    if n = 1 then ⟨1, 1⟩ :: restoreOnes shape axes
    else
      match axes with
      | [] => ⟨n, 0⟩ :: restoreOnes shape []
      | axis :: axes => axis :: restoreOnes shape axes

/-- The same elements in the same order under another shape of the same size, if steps can express it. -/
def reshape? (layout : Layout) (shape : Shape) : Option Layout :=
  if layout.isRowMajor then some ⟨layout.offset, (rowMajor shape).axes⟩
  else
    let old := layout.axes.filter (·.length ≠ 1)
    let new := shape.filter (· ≠ 1)
    (regroupAll (old.length + new.length + 1) old new).map fun axes =>
      ⟨layout.offset, restoreOnes shape axes⟩

/-! ### The layout of a result -/

/-- How two axes compare for operands with the given steps along them: the second is closer, the first
is, or neither. Where operands disagree the later axis is closer. -/
def closer (here there : List Int) : Option Bool :=
  (here.zip there).foldl (fun verdict (a, b) =>
    if a = 0 || b = 0 then verdict
    else if b.natAbs ≤ a.natAbs then some false
    else
      match verdict with
      | none => some true
      | some v => some v) none

/-- Moves an axis in front of the ranked axes, given from the farthest, that it is closer than. -/
def rankInsert (steps : Nat → List Int) (axis : Nat) : (farthestFirst : List Nat) → List Nat
  | [] => [axis]
  | other :: rest =>
    match closer (steps axis) (steps other) with
    | some false => axis :: other :: rest
    | _ =>
      if passes (other :: rest) then other :: rankInsert steps axis rest else axis :: other :: rest
where
  /-- Whether some axis further on is farther than `axis` before one is met that is not. -/
  passes : List Nat → Bool
    | [] => false
    | other :: rest =>
      match closer (steps axis) (steps other) with
      | some true => true
      | some false => false
      | none => passes rest

/-- The axes ranked by closeness, the closest first, for operands stretched to one shape. -/
def ranking (operands : List Layout) (count : Nat) : List Nat :=
  let steps (axis : Nat) : List Int :=
    operands.map fun layout =>
      let found := layout.axes.getD axis ⟨1, 0⟩
      if found.length = 1 then 0 else found.step
  ((List.range count).reverse.foldl (fun farthestFirst axis => rankInsert steps axis farthestFirst)
    []).reverse

def ofOperands (shape : Shape) (operands : List Layout) : Layout :=
  ranked shape (ranking operands shape.length)

end Layout
end Rebind.Strided
