import Rebind.Kernel.Table
/-!
Conversions: integers, doubles and truth values from other values, and numbers rounded to whole ones or to
a number of decimal places. Halves go to the even neighbour.
-/
namespace Rebind

open Number Strided Run

attribute [local instance (high)] instPowNat

namespace Number

def nearestInt (n : Int) (d : Nat) : Int :=
  let m : Int := Binary64.divideToEven n.natAbs d
  if n < 0 then -m else m

def roundedFloat (x : Float) : Float :=
  match Numeral.floatRatio? x with
  | some (n, d) =>
    let m := nearestInt n d
    if m = 0 then (if x.toBits.toNat ≥ Binary64.signBit then -0.0 else 0.0) else floatOfInt m
  | none => x

def roundedTo (x : Float) (places : Int) : Except Fault Float :=
  match Numeral.floatRatio? x with
  | none => .ok x
  | some (n, d) =>
    if places > 400 then .ok x
    else
      let up : Nat := 10 ^ places.toNat
      let down : Nat := 10 ^ (-places).toNat
      let m := if places < -400 then 0 else nearestInt (n * up) (d * down)
      if m = 0 then .ok (if x.toBits.toNat ≥ Binary64.signBit then -0.0 else 0.0)
      else
        let y := floatOfRatio (m * down) up
        if y.isInf then .error (.ordinary .overflow) else .ok y

end Number

namespace Value

def single (v : Value) : Run Value := do
  match v with
  | .array _ view =>
    if view.shape = [] then
      match ← read view with
      | [cell] => return element view.dtype cell
      | _ => fail .type
    else fail .type
  | v => return v

def plainNumeric? : Value → Option Numeric
  | .scalar _ x => some (.num x)
  | v => Numeric.ofValue? v

def realElement : Value → Value
  | .scalar d (.complex re _) => .scalar (DType.realOfBits d.bits) (.float re)
  | v => v

def spelling? (v : Value) : Run (Option (List Char)) := do
  match v with
  | .str s => return some (Spelling.ofText s)
  | .bytes b => return some (Spelling.ofBytes b)
  | v => return (← exportedBytes? v).map Spelling.ofBytes

def readInt (base : Nat) (s : List Char) : Run Value :=
  match Spelling.int? base s with
  | some n => return .int n
  | none => fail .value

def toInt (v : Value) : Run Value := do
  let v := realElement (← single v)
  match plainNumeric? v, ← spelling? v with
  | some x, _ => return .int (← Run.ofExcept x.toInt)
  | none, some s => readInt 10 s
  | none, none => Run.fail .type

def toIntOfBase (v base : Value) : Run Value := do
  match base.index? with
  | none => fail .type
  | some base =>
    if (base ≠ 0 && base < 2) || 36 < base then fail .value
    match v with
    | .memoryview _ _ _ => fail .type
    | v =>
      match ← spelling? v with
      | some s => readInt base.toNat s
      | none => fail .type

def toDouble (v : Value) : Run Float := do
  let v := realElement (← single v)
  match plainNumeric? v with
  | some (.num (.complex _ _)) => Run.fail .type
  | some x => Run.ofExcept x.toFloat
  | none => Run.fail .type

def toFloat (v : Value) : Run Value := do
  match ← spelling? v with
  | some s =>
    match Spelling.real? s with
    | some x => return .float x
    | none => fail .value
  | none => return .float (← toDouble v)

/-- A power of ten as a double: beyond the first ones it is multiplied up step by step. -/
def powerOfTen (n : Nat) : Float :=
  if n < 9 then floatOfInt (10 ^ n) else (List.range (n - 9)).foldl (fun x _ => x * 10.0) 1e9

/-- A double of the type to a number of decimal places: scaled, rounded and scaled back. -/
def scaledRound (d : DType) (places : Int) (x : Float) : Float :=
  let unit := d.round (powerOfTen places.natAbs)
  if places = 0 then roundedFloat x
  else if places > 0 then d.round (roundedFloat (d.round (x * unit)) / unit)
  else d.round (roundedFloat (d.round (x / unit)) * unit)

/-- A number with an element type to a number of decimal places. Integers go through doubles. -/
def elementRounded (d : DType) (x : Numeral) (places : Int) : Run Value := do
  match d.kind, x with
  | .integer, x =>
    if places ≥ 0 then return .scalar d x
    else return .scalar d (d.cast (.float (scaledRound .float64 places (DType.realPart x))))
  | .real, x => return .scalar d (.float (scaledRound d places (DType.realPart x)))
  | .complex, x =>
    let (re, im) := DType.complexParts x
    return .scalar d (.complex (scaledRound d places re) (scaledRound d places im))
  | _, _ => fail .type

def rounded (v : Value) : Run Value := do
  match v with
  | .scalar .bool _ => Run.fail .type
  | .scalar d (.complex re im) => elementRounded d (.complex re im) 0
  | v =>
    match plainNumeric? v with
    | some (.num (.complex _ _)) | none => Run.fail .type
    | some x =>
      match x.ratio? with
      | some (n, d) => return .int (nearestInt n d)
      | none => return .int (← Run.ofExcept x.toInt)

def roundedInt (n : Int) (places : Int) : Int :=
  if places ≥ 0 then n
  else
    let unit := 10 ^ (-places).toNat
    nearestInt n unit * unit

def roundedPlaces (v : Value) (places : Int) : Run Value := do
  match v with
  | .num (.float x) => return .float (← Run.ofExcept (roundedTo x places))
  | .num x =>
    match x.toInt? with
    | some n => return .int (roundedInt n places)
    | none => Run.fail .type
  | .decimal d =>
    match d.toPlaces places with
    | .ok d => return .decimal d
    | .error e => throw (.ofDecimal e)
  | .fraction q =>
    let unit : Fraction := .ofInt (10 ^ places.natAbs)
    if places > 0 then
      return .fraction (((Fraction.ofInt (q.mul unit).round).div? unit).getD q)
    else return .fraction ((Fraction.ofInt ((q.div? unit).getD q).round).mul unit)
  | .scalar d x => elementRounded d x places
  | _ => Run.fail .type

def roundedSparse (s : Sparse) (places : Int) : Run Value := do
  if s.dtype = .bool then fail .value
  let cells ← s.data.cells.mapM fun cell => do
    cellFor s.dtype (← elementRounded s.dtype (numOf cell) places)
  ((s.inFormat s.format.mapped).withData s.dtype cells).allocate

def round (v places : Value) : Run Value := do
  match v, places with
  | .sparse id, .null => do roundedSparse (← sparseContent id) 0
  | .sparse id, places =>
    match places.index? with
    | some n => do roundedSparse (← sparseContent id) n
    | none => fail .type
  | v, .null => rounded v
  | v, places =>
    match places.index? with
    | some n => roundedPlaces v n
    | none => fail .type

def squareRoot (v : Value) : Run Value := do
  let x ← toDouble v
  if x < 0 then fail .value else return .float x.sqrt

def magnitude (v : Value) : Run Value := do return .float (← toDouble v).abs

def floor (v : Value) : Run Value := do
  let exact (x : Numeric) : Run Value :=
    match x.ratio? with
    | some (n, d) => return .int (n.fdiv d)
    | none => do return .int (← Run.ofExcept x.toInt)
  match Numeric.ofValue? v with
  | some (.num (.complex _ _)) => Run.fail .type
  | some x => exact x
  | none => do exact (.num (.float (← toDouble v)))

end Value
end Rebind
