import Rebind.Value.Exported
import Rebind.Value.SparseArithmetic
/-!
The operators of programs on values of every kind: arithmetic, in-place updates, comparison, truth, and
reading and writing by key. Which rules apply is settled by the most particular operand: a box before a
sparse matrix, that before an array, that before plain numbers and sequences.
-/
namespace Rebind

open Number Strided Syntax Run

namespace Value

def isBox : Value → Bool
  | .box _ _ _ => true
  | _ => false

def isSparse : Value → Bool
  | .sparse _ => true
  | _ => false

def unboxed : Value → Run Value
  | .box _ view _ => arrayOf view
  | v => return v

def boxed (foreign : Bool) (v : Value) : Run Value := do
  match ← asArray v with
  | .array _ view => boxOf view foreign
  | v => return v

/-- Arithmetic with a box: the result is a box of the kind of the first one. -/
def boxBinary (op : BinaryOp) (a b : Value) : Run Value := do
  let foreign := match a, b with
    | .box _ _ foreign, _ => foreign
    | _, .box _ _ foreign => foreign
    | _, _ => false
  boxed foreign (← arrayBinary op (← unboxed a) (← unboxed b))

def binary (op : BinaryOp) (a b : Value) : Run Value :=
  if a.isBox || b.isBox then boxBinary op a b
  else if a.isSparse || b.isSparse then sparseBinary op a b
  else denseBinary op a b

/-! ### In-place updates -/

/-- Whether the result of an operator on a value without identity counts as that value itself: adding
nothing to a text or repeating it once gives it back, and so do small integers that come out unchanged. -/
def keepsValue (target result : Value) : Bool :=
  match target, result with
  | .num (.int n), .num (.int m) => n == m && -5 ≤ n && n ≤ 256
  | .str _, .str _ | .bytes _, .bytes _ | .tuple _, .tuple _ => isSame target result
  | _, _ => false

def extension? (v : Value) : Run (Option (List Value)) := do
  match v with
  | .list id => return some (← listItems id)
  | .tuple items => return some items
  | .str s => return some (s.pieces.map Value.str)
  | .bytes b => return some (b.map fun x => .int x.toNat)
  | .bytearray id => return some ((← byteContent id).map fun x => .int x.toNat)
  | .memoryview _ of _ => return some (← windowItems of)
  | _ => return none

def updateList (op : BinaryOp) (id : Nat) (operand : Value) : Run Value := do
  let items ← listItems id
  match op, operand with
  | .add, operand =>
    if operand.isNumeric || operand.isBox || operand.isSparse then binary op (.list id) operand
    else
      match ← extension? operand with
      | some more =>
        store id (.list (items ++ more))
        return .list id
      | none => fail .type
  | .mult, operand =>
    match operand.times? with
    | some n =>
      store id (.list (repeatList n items))
      return .list id
    | none => binary .mult (.list id) operand
  | op, operand => binary op (.list id) operand

/-- Updates a byte array itself. While it is added to itself, it looks into itself. -/
def updateBytes (op : BinaryOp) (id : Nat) (operand : Value) : Run Value := do
  let content ← byteContent id
  match op, operand with
  | .add, operand =>
    match ← rawBytes? operand, operand.isNumeric with
    | some more, false =>
      if operand.identity? = some id && !content.isEmpty then fail .buffer
      resize id (content ++ more)
      return .bytearray id
    | _, _ => binary op (.bytearray id) operand
  | .mult, operand =>
    match operand.times? with
    | some n =>
      resize id (repeatList n content)
      return .bytearray id
    | none => binary .mult (.bytearray id) operand
  | op, operand => binary op (.bytearray id) operand

/-- An in-place operator: the value that the target name is given afterwards. -/
def update (op : BinaryOp) (target operand : Value) : Run Value := do
  match target with
  | .array _ view =>
    match elementwise? op with
    | some f =>
      if operand.isSparse then binary op target operand
      else
        binaryUfuncInto f target operand view
        return target
    | none =>
      if op = .matMult then
        if operand.isBox || operand.isSparse then binary op target operand
        else
          matmulOut target operand view
          return target
      else binary op target operand
  | .list id => updateList op id operand
  | .bytearray id => updateBytes op id operand
  | .sparse id => if operand.isBox then binary op target operand else updateSparse op id operand
  | target => binary op target operand

def isUpdated (target result : Value) : Bool :=
  match target.identity? with
  | some _ => isSame target result
  | none => keepsValue target result

/-! ### Unary operators -/

def negated (v : Value) : Run Value := do
  match v with
  | .array _ _ | .scalar _ _ => unaryUfunc .negative v
  | .sparse id => (← sparseContent id).unary .negative
  | v => plainNeg v

def absolute (v : Value) : Run Value := do
  match v with
  | .array _ _ | .scalar _ _ => unaryUfunc .absolute v
  | .sparse id => (← sparseContent id).unary .absolute
  | v => plainAbs v

/-! ### Comparison and truth -/

/-- A decimal or fraction before a number of a fixed element type settles the comparison itself where it
knows the type: both know doubles, a decimal takes no integers, and a fraction compares across. -/
def exactCompare? (op : CompareOp) (a b : Value) : Run (Option Value) := do
  let exactly (x : Numeral) : Run (Option Value) := do return some (.bool (← plainCompare op a (.num x)))
  match a, b with
  | .decimal _, .scalar .float64 x => exactly x
  | .decimal _, .scalar .complex128 x => if op = .eq || op = .notEq then exactly x else return none
  | .fraction _, .scalar .float64 (.float x) =>
    if x.isNaN || x.isInf then return none else exactly (.float x)
  | .decimal _, .scalar d _ => if d.kind = .integer then fail .type else return none
  | .fraction q, .scalar d (.int n) =>
    match op with
    | .eq | .notEq =>
      if q.num = n then return some (.bool ((op = .eq) = (q.den = 1))) else return none
    | _ => if d.holds q.den then return none else fail .overflow
  | _, _ => return none

def compareWhole (op : CompareOp) (a b : Value) : Run Value := do
  if a.isBox || b.isBox then return .bool (← plainCompare op a b)
  else
    match a, b with
    | .sparse id, b => (← sparseContent id).compare op b
    | a, .sparse id => (← sparseContent id).compare (Sparse.converse op) a
    | a, b =>
      if a.isNumeric || b.isNumeric then
        match ← exactCompare? op a b with
        | some v => return v
        | none => compareArrays op a b
      else return .bool (← plainCompare op a b)

def facingParts? (a b : Value) : Run (Option (List Value × List Value)) := do
  match a, b with
  | .list s, .list t => return some (← listItems s, ← listItems t)
  | .tuple s, .tuple t => return some (s, t)
  | _, _ => return none

/-- A comparison that looks into sequences: their order is what comes out for the first parts that differ. -/
def compareWithin (op : CompareOp) : (depth : Nat) → Value → Value → Run Value
  | 0, a, b => compareWhole op a b
  | depth + 1, a, b => do
    let ordered := [CompareOp.less, .lessEq, .greater, .greaterEq].contains op
    match ordered, ← facingParts? a b with
    | true, some (s, t) =>
      match ← firstDifference? (s.zip t) with
      | some (x, y) => compareWithin op depth x.bare y.bare
      | none => return .bool (Numeric.holds op (some (Ord.compare s.length t.length)))
    | _, _ => compareWhole op a b

def compare (op : CompareOp) (a b : Value) : Run Value := do
  match op with
  | .is => return .bool (isSame a b)
  | .isNot => return .bool !isSame a b
  | op => compareWithin op nestingLimit a.bare b.bare

def truth (v : Value) : Run Bool := do
  match v with
  | .array _ view =>
    match ← read view with
    | [.num x] => return !x.isZero
    | [.object v] => plainTruth v
    | _ => fail .value
  | .sparse id => (← sparseContent id).truth
  | .memoryview _ of _ => return (← windowLength of) ≠ 0
  | v => plainTruth v

/-! ### Elementwise functions as programs call them -/

def applyUnary (f : UnaryUfunc) (v : Value) : Run Value := do
  match v with
  | .sparse id => (← sparseContent id).unary f
  | v => unaryUfunc f v

/-- A binary function of two values of which one is a sparse matrix, by the operator of the same meaning. -/
def applyPair (f : BinaryUfunc) (a b : Value) : Run Value :=
  match f with
  | .add => binary .add a b
  | .subtract => binary .sub a b
  | .multiply => binary .mult a b
  | .divide => binary .div a b
  | .maximum => do if ← truth (← compare .greaterEq a b) then return a else return b

/-- A binary function of any two values. A sparse matrix is one object, which meets every element of an
array. -/
def applyBinary (f : BinaryUfunc) (a b : Value) : Run Value := do
  match a, b with
  | .sparse _, .sparse _ => applyPair f a b
  | .sparse _, b => eachOf b fun element => applyPair f a element
  | a, .sparse _ => eachOf a fun element => applyPair f element b
  | a, b => binaryUfunc f a b
where
  eachOf (v : Value) (apply : Value → Run Value) : Run Value := do
    if v.refusesElementwise then fail .type
    let given ← operand v
    let results ← given.cells.mapM fun cell => apply (ofCell cell)
    match given.shape, results with
    | [], [result] => return result
    | shape, results => newArray .object (Layout.rowMajor shape) (results.map Cell.object)

/-! ### Keys -/

def itemAt (items : List α) (key : Value) : Run α := do
  match key.times? with
  | some n =>
    let place := if n < 0 then n + items.length else n
    if place < 0 then fail .index
    match items[place.toNat]? with
    | some item => return item
    | none => fail .index
  | none => fail .type

def getItem (v key : Value) : Run Value := do
  match v with
  | .array _ view => selectValue view key
  | .box _ view foreign => boxOf (← select view key) foreign
  | .list id => do itemAt (← listItems id) key
  | .tuple items => itemAt items key
  | .str s => do return .str (← itemAt s.pieces key)
  | .bytes b => do return .int (← itemAt b key).toNat
  | .bytearray id => do return .int (← itemAt (← byteContent id) key).toNat
  | .scalar _ _ =>
    match key with
    | .ellipsis => asArray v
    | .tuple [] => return v
    | _ => fail .index
  | .sparse id =>
    match key with
    | .ellipsis => do newSparse (← sparseContent id)
    | _ => fail .index
  | .memoryview _ of _ => windowItem v of key
  | _ => fail .type

def iterate (v : Value) : Run (List Value) := do
  match v with
  | .array _ view =>
    match view.shape with
    | [] => fail .type
    | n :: _ => (List.range n).mapM fun (i : Nat) => selectValue view (.int i)
  | v =>
    match ← extension? v with
    | some items => return items
    | none => fail .type

/-- A sparse matrix is no array, so each place would have to take all of it. -/
def assignWhole (part : View) (s : Sparse) (v : Value) : Run Unit := do
  match part.dtype.kind with
  | .object => assign part v
  | .truth => assign part (.bool (← s.truth))
  | _ => fail (if s.format = .dia then .type else .value)

def setItem (target key v : Value) : Run Unit := do
  match target with
  | .array _ view => do
    let part ← select view key
    if v.isBox then fail .value
    match v with
    | .sparse id => assignWhole part (← sparseContent id) v
    | v => assign part v
  | .box _ view _ => do assign (← select view key) (← unboxed v)
  | .sparse id => Sparse.assign id v
  | .list id =>
    let items ← listItems id
    let places ← itemAt (List.range items.length) key
    store id (.list (items.set places v))
  | .bytearray id =>
    let content ← byteContent id
    let place ← itemAt (List.range content.length) key
    match v.index? with
    | some n =>
      if DType.uint8.holds n then store id (.bytes (content.set place (UInt8.ofNat n.toNat)))
      else fail .value
    | none => fail .type
  | .memoryview _ of readonly => setWindowItem of readonly key v
  | _ => fail .type

end Value
end Rebind
