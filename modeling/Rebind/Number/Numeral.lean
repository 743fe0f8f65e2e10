import Rebind.Number.Fraction
import Rebind.Number.FloatText
/-!
Numbers of the four plain kinds: truth values, integers of any size, doubles and complex numbers.
Arithmetic is exact on integers; the wider kind of two operands decides the kind of the result.
-/
namespace Rebind.Number

attribute [local instance (high)] instPowNat

inductive Numeral where
  | bool (value : Bool)
  | int (value : Int)
  | float (value : Float)
  | complex (re im : Float)
deriving Inhabited

/-- Why an operation on plain numbers fails. -/
inductive NumError where
  | overflow
  | zeroDivision
  /-- The operation does not exist for numbers of this kind. -/
  | unsupported
deriving DecidableEq, Repr

namespace Numeral

def boolInt (b : Bool) : Int := if b then 1 else 0

def toInt? : Numeral → Option Int
  | bool b => some (boolInt b)
  | int n => some n
  | _ => none

def floatOfBounded (n : Int) : Except NumError Float :=
  let x := floatOfInt n
  if x.isInf then .error .overflow else .ok x

def toFloat : Numeral → Except NumError Float
  | bool b => .ok (if b then 1.0 else 0.0)
  | int n => floatOfBounded n
  | float x => .ok x
  | complex _ _ => .error .unsupported

def toComplex : Numeral → Except NumError (Float × Float)
  | complex re im => .ok (re, im)
  | x => x.toFloat.map fun re => (re, 0.0)

/-- Two numbers brought to the wider of their kinds. -/
inductive Pair where
  | ints (a b : Int)
  | floats (a b : Float)
  | complexes (a b : Float × Float)

def pair (x y : Numeral) : Except NumError Pair :=
  match x, y with
  | .complex _ _, _ | _, .complex _ _ => do return .complexes (← x.toComplex) (← y.toComplex)
  | .float _, _ | _, .float _ => do return .floats (← x.toFloat) (← y.toFloat)
  | .bool a, .bool b => .ok (.ints (boolInt a) (boolInt b))
  | .bool a, .int b => .ok (.ints (boolInt a) b)
  | .int a, .bool b => .ok (.ints a (boolInt b))
  | .int a, .int b => .ok (.ints a b)

def ofComplex (z : Float × Float) : Numeral := .complex z.1 z.2

def complexMul (a b : Float × Float) : Float × Float :=
  (a.1 * b.1 - a.2 * b.2, a.1 * b.2 + a.2 * b.1)

def complexDiv (a b : Float × Float) : Except NumError (Float × Float) :=
  if b.1.abs ≥ b.2.abs then
    if b.1.abs == 0 then .error .zeroDivision
    else
      let ratio := b.2 / b.1
      let denom := b.1 + b.2 * ratio
      .ok ((a.1 + a.2 * ratio) / denom, (a.2 - a.1 * ratio) / denom)
  else if b.2.abs ≥ b.1.abs then
    let ratio := b.1 / b.2
    let denom := b.1 * ratio + b.2
    .ok ((a.1 * ratio + a.2) / denom, (a.2 * ratio - a.1) / denom)
  else .ok (0.0 / 0.0, 0.0 / 0.0)

def add (x y : Numeral) : Except NumError Numeral := do
  match ← pair x y with
  | .ints a b => return .int (a + b)
  | .floats a b => return .float (a + b)
  | .complexes a b => return .complex (a.1 + b.1) (a.2 + b.2)

def sub (x y : Numeral) : Except NumError Numeral := do
  match ← pair x y with
  | .ints a b => return .int (a - b)
  | .floats a b => return .float (a - b)
  | .complexes a b => return .complex (a.1 - b.1) (a.2 - b.2)

def mul (x y : Numeral) : Except NumError Numeral := do
  match ← pair x y with
  | .ints a b => return .int (a * b)
  | .floats a b => return .float (a * b)
  | .complexes a b => return ofComplex (complexMul a b)

def div (x y : Numeral) : Except NumError Numeral := do
  match ← pair x y with
  | .ints a b =>
    if b = 0 then .error .zeroDivision
    else
      let q := floatOfRatio (if b < 0 then -a else a) b.natAbs
      if q.isInf then .error .overflow else return .float q
  | .floats a b => if b == 0 then .error .zeroDivision else return .float (a / b)
  | .complexes a b => return ofComplex (← complexDiv a b)

def neg : Numeral → Numeral
  | bool b => int (-boolInt b)
  | int n => int (-n)
  | float x => float (-x)
  | complex re im => complex (-re) (-im)

def isqrt (n : Nat) : (fuel : Nat) → (low high : Nat) → Nat
  | 0, low, _ => low
  | fuel + 1, low, high =>
    if high ≤ low + 1 then low
    else
      let mid := (low + high) / 2
      if mid * mid ≤ n then isqrt n fuel mid high else isqrt n fuel low mid

def floatRatio? (x : Float) : Option (Int × Nat) :=
  (Binary64.ofBits? x.toBits).map fun b =>
    let (n, d) := b.ratio
    (if b.negative then -(n : Int) else n, d)

/-- The length of the vector `(x, y)`, correctly rounded: a root that is not whole lies strictly between
two neighbours, and a half stands for it. -/
def hypot (x y : Float) : Float :=
  if x.isInf || y.isInf then 1.0 / 0.0
  else
    match floatRatio? x, floatRatio? y with
    | some (a, b), some (c, d) =>
      let shift := 64
      let n := ((a * d).natAbs ^ (2 : Nat) + (c * b).natAbs ^ (2 : Nat)) * 2 ^ (2 * shift : Nat)
      let root := isqrt n (Nat.log2 n + 2) 0 (2 ^ (Nat.log2 n / 2 + 1))
      let den := b * d * 2 ^ shift
      if root * root = n then floatOfRatio root den else floatOfRatio (2 * root + 1) (2 * den)
    | _, _ => 0.0 / 0.0

def abs : Numeral → Except NumError Numeral
  | bool b => .ok (int (boolInt b))
  | int n => .ok (int n.natAbs)
  | float x => .ok (float x.abs)
  | complex re im =>
    let size := hypot re im
    if size.isInf && !re.isInf && !im.isInf then .error .overflow else .ok (float size)

def ratio? : Numeral → Option (Int × Nat)
  | bool b => some (boolInt b, 1)
  | int n => some (n, 1)
  | float x => floatRatio? x
  | complex _ _ => none

def compare? (x y : Numeral) : Option Ordering :=
  match x.ratio?, y.ratio? with
  | some (a, b), some (c, d) => some (compare (a * d) (c * b))
  | none, some _ => infinite x
  | some _, none => (infinite y).map Ordering.swap
  | none, none =>
    match x, y with
    | .float a, .float b =>
      if a < b then some .lt else if b < a then some .gt else if a == b then some .eq else none
    | _, _ => none
where
  /-- An infinity against anything finite. -/
  infinite : Numeral → Option Ordering
    | .float x => if x.isNaN then none else if x < 0 then some .lt else some .gt
    | _ => none

def isComplex : Numeral → Bool
  | complex _ _ => true
  | _ => false

def isZero : Numeral → Bool
  | bool b => !b
  | int n => n = 0
  | float x => x == 0
  | complex re im => re == 0 && im == 0

end Numeral
end Rebind.Number
