import Rebind.Value.Build
/-!
Elementwise functions. The types of the operands choose the type in which all elements are computed; then
the operands are stretched to one shape. A result without axes is a single number; a result may instead be
written into an existing array if its type allows the cast.
-/
namespace Rebind

open Number Strided Syntax Run Operand

/-! ### One element -/

namespace Strided.DType

def complexOf (d : DType) (re im : Float) : Numeral := .complex (d.round re) (d.round im)

/-- Complex division by scaling with the larger part of the divisor; division by zero gives infinities. -/
def divideComplex (d : DType) (x y : Float × Float) : Numeral :=
  let r := d.round
  if y.1.abs ≥ y.2.abs then
    if y.1.abs == 0 && y.2.abs == 0 then d.complexOf (x.1 / y.1.abs) (x.2 / y.1.abs)
    else
      let ratio := r (y.2 / y.1)
      let scale := r (1.0 / r (y.1 + r (y.2 * ratio)))
      d.complexOf (r (x.1 + r (x.2 * ratio)) * scale) (r (x.2 - r (x.1 * ratio)) * scale)
  else
    let ratio := r (y.1 / y.2)
    let scale := r (1.0 / r (y.2 + r (y.1 * ratio)))
    d.complexOf (r (r (x.1 * ratio) + x.2) * scale) (r (r (x.2 * ratio) - x.1) * scale)

def intOf : Numeral → Int
  | .bool b => Numeral.boolInt b
  | .int n => n
  | _ => 0

def binary (d : DType) (f : BinaryUfunc) (x y : Numeral) : Numeral :=
  match d.kind with
  | .truth =>
    let a := !x.isZero
    let b := !y.isZero
    match f with
    | .add | .maximum => .bool (a || b)
    | .multiply => .bool (a && b)
    | .subtract | .divide => .bool (a != b)
  | .integer | .object =>
    let a := intOf x
    let b := intOf y
    match f with
    | .add => .int (d.wrap (a + b))
    | .subtract => .int (d.wrap (a - b))
    | .multiply => .int (d.wrap (a * b))
    | .maximum => .int (if a ≥ b then a else b)
    | .divide => .int 0
  | .real =>
    let a := realPart x
    let b := realPart y
    match f with
    | .add => .float (d.round (a + b))
    | .subtract => .float (d.round (a - b))
    | .multiply => .float (d.round (a * b))
    | .divide => .float (d.round (a / b))
    | .maximum => .float (if a ≥ b || a.isNaN then a else b)
  | .complex =>
    let a := complexParts x
    let b := complexParts y
    let r := d.round
    match f with
    | .add => d.complexOf (a.1 + b.1) (a.2 + b.2)
    | .subtract => d.complexOf (a.1 - b.1) (a.2 - b.2)
    | .multiply =>
      d.complexOf (r (a.1 * b.1) - r (a.2 * b.2)) (r (a.1 * b.2) + r (a.2 * b.1))
    | .divide => d.divideComplex a b
    | .maximum =>
      if a.1.isNaN || a.2.isNaN || a.1 > b.1 || (a.1 == b.1 && a.2 ≥ b.2) then .complex a.1 a.2
      else .complex b.1 b.2

def complexSqrt (re im : Float) : Float × Float :=
  if re == 0 && im == 0 then (0.0, im)
  else
    let size := Numeral.hypot re im
    if re ≥ 0 then
      let t := ((re + size) * 0.5).sqrt
      (t, im / (2.0 * t))
    else
      let t := ((-re + size) * 0.5).sqrt
      (im.abs / (2.0 * t), if im < 0 then -t else t)

def unary (d : DType) (f : UnaryUfunc) (x : Numeral) : Numeral :=
  match d.kind with
  | .truth => .bool !x.isZero
  | .integer | .object =>
    match f with
    | .negative => .int (d.wrap (-intOf x))
    | .absolute => .int (d.wrap (intOf x).natAbs)
    | .sqrt => .int 0
  | .real =>
    match f with
    | .negative => .float (-realPart x)
    | .absolute => .float (realPart x).abs
    | .sqrt => .float (d.round (realPart x).sqrt)
  | .complex =>
    let (re, im) := complexParts x
    match f with
    | .negative => .complex (-re) (-im)
    | .absolute => .float (d.round (Numeral.hypot re im))
    | .sqrt =>
      let (a, b) := complexSqrt re im
      d.complexOf a b

end Strided.DType

/-! ### The type of a computation -/

namespace Operand

def meet (a b : Operand) : DType :=
  match a.weak, b.weak with
  | some x, some y => (DType.ofNum x).promote (DType.ofNum y)
  | some x, none => b.dtype.promoteWeak x
  | none, some y => a.dtype.promoteWeak y
  | none, none => a.dtype.promote b.dtype

def textMisplaced (a b : Operand) : Bool :=
  (a.textual && (b.textual || b.weak.isSome || b.dtype ≠ .object)) ||
    (b.textual && (a.weak.isSome || a.dtype ≠ .object))

def binaryType (f : BinaryUfunc) (a b : Operand) : Except Fault DType :=
  if textMisplaced a b then .error (.ordinary .type)
  else
    let d := meet a b
    match f, d.kind with
    | .subtract, .truth => .error (.ordinary .type)
    | .divide, .truth | .divide, .integer => .ok .float64
    | _, _ => .ok d

def unaryType (f : UnaryUfunc) (a : Operand) : Except Fault DType :=
  if a.textual then .error (.ordinary .type)
  else
    let d := (a.weak.map DType.ofNum).getD a.dtype
    match f, d.kind with
    | .negative, .truth => .error (.ordinary .type)
    | .sqrt, .truth => .ok .float16
    | .sqrt, .integer => .ok (DType.realOfBits d.realBits)
    | _, _ => .ok d

/-- The type of the result of a unary function that computes in type `d`. -/
def unaryResult (f : UnaryUfunc) (d : DType) : DType :=
  match f, d.kind with
  | .absolute, .complex => DType.realOfBits d.bits
  | _, _ => d

/-- The operand with its cells cast to the type of the computation. A plain number is checked. -/
def castTo (d : DType) (operand : Operand) : Run Operand := do
  match operand.weak with
  | some x =>
    if d = .object then return { operand with dtype := d, cells := [.object (.num x)] }
    else return { operand with dtype := d, cells := [.num (← Run.ofExcept (Value.numberFor d (.num x)))] }
  | none => return { operand with dtype := d, cells := ← operand.cells.mapM (Value.castCell d) }

end Operand

/-! ### Whole arrays -/

/-- A computation of the elements of a result, one step for each. -/
structure Plan where
  dtype : DType
  shape : Shape
  layout : Layout
  steps : List (Run Cell)

namespace Plan

def result (plan : Plan) : Run Value := do
  let cells ← plan.steps.mapM id
  match plan.shape, cells with
  | [], [cell] => return Value.element plan.dtype cell
  | _, _ => newArray plan.dtype plan.layout cells

def arrayResult (plan : Plan) : Run Value := do
  newArray plan.dtype plan.layout (← plan.steps.mapM id)

def into (plan : Plan) (view : View) : Run Unit := do
  if plan.shape ≠ view.shape || !view.writeable then fail .value
  (view.layout.addresses.zip plan.steps).forM fun (place, step) => do
    writeCell view.buffer place (← Value.castCell view.dtype (← step))

end Plan

/-- Whether results of type `d` may be written into the array. -/
def mayStore (d : DType) (target : Option View) : Bool :=
  match target with
  | some view => d.sameKind view.dtype
  | none => true

/-- The shape of a result for operands of the given shapes; a target takes part. -/
def resultShape (shapes : List Shape) (target : Option View) : Except Fault Shape := do
  let join (a b : Shape) : Except Fault Shape :=
    match Layout.broadcastShapes a b with
    | some s => .ok s
    | none => .error (.ordinary .value)
  let shape ← shapes.foldlM join []
  match target with
  | some view => join shape view.shape
  | none => return shape

namespace Value

/-- A binary function on two numbers of which at least one has an element type. -/
def elementBinary? (f : BinaryUfunc) (a b : Value) : Option (Except Fault Value) :=
  match a.typed?, b.typed? with
  | some x, some y =>
    if a.isElement || b.isElement then
      let operand (x : Typed) : Operand :=
        { Operand.single (x.dtype?.getD (DType.ofNum x.value)) (.num x.value) with
          weak := if x.dtype?.isNone then some x.value else none }
      let cast (d : DType) (x : Typed) : Except Fault Numeral :=
        if x.dtype?.isNone then numberFor d (.num x.value) else .ok (d.cast x.value)
      some (do
        let d ← binaryType f (operand x) (operand y)
        return .scalar d (d.binary f (← cast d x) (← cast d y)))
    else none
  | _, _ => none

def objectBinary (f : BinaryUfunc) (x y : Value) : Run Value := do
  let plainly (op : BinaryOp) : Run Value :=
    match elementBinary? f x y with
    | some result => Run.ofExcept result
    | none => plainBinary op x y
  match f with
  | .add => plainly .add
  | .subtract => plainly .sub
  | .multiply => plainly .mult
  | .divide => plainly .div
  | .maximum => if ← plainOrder .greaterEq nestingLimit x y then return x else return y

def elementUnary (f : UnaryUfunc) (d : DType) (x : Numeral) : Except Fault Value := do
  let e ← unaryType f (.single d (.num x))
  return .scalar (unaryResult f e) (e.unary f (e.cast x))

/-- One element of a unary function on objects. Only decimals have a root of their own. -/
def objectUnary (f : UnaryUfunc) (x : Value) : Run Value := do
  match f, x with
  | .negative, .scalar d x => Run.ofExcept (elementUnary .negative d x)
  | .absolute, .scalar d x => Run.ofExcept (elementUnary .absolute d x)
  | .negative, x => plainNeg x
  | .absolute, x => plainAbs x
  | .sqrt, x =>
    match x with
    | .decimal d =>
      match d.sqrt with
      | .ok r => return .decimal r
      | .error e => throw (.ofDecimal e)
    | _ => Run.fail .type

def binaryStep (f : BinaryUfunc) (d : DType) (x y : Cell) : Run Cell := do
  match x, y with
  | .num a, .num b => return .num (d.binary f a b)
  | x, y => return .object (← objectBinary f (ofCell x) (ofCell y))

def unaryStep (f : UnaryUfunc) (d : DType) (x : Cell) : Run Cell := do
  match x with
  | .num a => return .num (d.unary f a)
  | .object v => return .object (← objectUnary f v)

def binaryPlan (f : BinaryUfunc) (a b : Operand) (target : Option View) : Run Plan := do
  let d ← Run.ofExcept (binaryType f a b)
  if !mayStore d target then Run.fail .type
  let a ← a.castTo d
  let b ← b.castTo d
  let shape ← Run.ofExcept (resultShape [a.shape, b.shape] target)
  let layout := Layout.ofOperands shape [a.stretched shape, b.stretched shape]
  return ⟨d, shape, layout,
    ((a.spread shape).zip (b.spread shape)).map fun (x, y) => binaryStep f d x y⟩

def unaryPlan (f : UnaryUfunc) (a : Operand) (target : Option View) : Run Plan := do
  let d ← Run.ofExcept (unaryType f a)
  if !mayStore (unaryResult f d) target then Run.fail .type
  let a ← a.castTo d
  let shape ← Run.ofExcept (resultShape [a.shape] target)
  let layout := Layout.ofOperands shape [a.stretched shape]
  return ⟨unaryResult f d, shape, layout, (a.spread shape).map (unaryStep f d)⟩

def refusesElementwise : Value → Bool
  | .box _ _ _ | .sparse _ => true
  | _ => false

def binaryUfunc (f : BinaryUfunc) (a b : Value) : Run Value := do
  if a.refusesElementwise || b.refusesElementwise then fail .type
  (← binaryPlan f (← operand a) (← operand b) none).result

def binaryUfuncInto (f : BinaryUfunc) (a b : Value) (target : View) : Run Unit := do
  if a.refusesElementwise || b.refusesElementwise then fail .type
  (← binaryPlan f (← operand a) (← operand b) (some target)).into target

def unaryUfunc (f : UnaryUfunc) (a : Value) : Run Value := do
  if a.refusesElementwise then fail .type
  (← unaryPlan f (← operand a) none).result

def unaryUfuncInto (f : UnaryUfunc) (a : Value) (target : View) : Run Unit := do
  if a.refusesElementwise then fail .type
  (← unaryPlan f (← operand a) (some target)).into target

/-! ### Comparison -/

def compareArrays (op : CompareOp) (a b : Value) : Run Value := do
  let a ← operand a
  let b ← operand b
  let byIdentity := op = .eq || op = .notEq
  if textMisplaced a b && !byIdentity then Run.fail .type
  let shape ← Run.ofExcept (resultShape [a.shape, b.shape] none)
  let layout := Layout.ofOperands shape [a.stretched shape, b.stretched shape]
  let typed (o : Operand) (x : Numeral) : Typed := ⟨x, if o.weak.isSome then none else some o.dtype⟩
  let step (x y : Cell) : Run Cell := do
    match x, y with
    | .num x, .num y =>
      match (typed a x).compare? (typed b y) with
      | .ok found => return .num (.bool (Numeric.holds op found))
      | .error e => throw (.ofNum e)
    | x, y => return .num (.bool (← plainCompare op (ofCell x) (ofCell y)))
  let steps := ((a.spread shape).zip (b.spread shape)).map fun (x, y) => step x y
  (Plan.mk .bool shape layout steps).result

end Value
end Rebind
