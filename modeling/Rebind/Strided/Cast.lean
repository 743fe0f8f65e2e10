import Rebind.Strided.DType
/-!
Casts of numbers between element types, and comparison of numbers whose types differ. Integers compare by
their exact values; everything else is first cast to the type in which both meet.
-/
namespace Rebind.Strided

open Number

attribute [local instance (high)] instPowNat

namespace DType

def indefinite : DType → Int
  | .int32 => -(2 ^ (31 : Nat))
  | .uint8 => 0
  | .uint64 => 2 ^ (63 : Nat)
  | _ => -(2 ^ (63 : Nat))

def cut (d : DType) (x : Float) : Int :=
  match Numeral.floatRatio? x with
  | some (n, m) =>
    let n := n.tdiv m
    if d.holds n then n else d.indefinite
  | none => d.indefinite

def realPart : Numeral → Float
  | .bool b => if b then 1.0 else 0.0
  | .int n => floatOfInt n
  | .float x => x
  | .complex re _ => re

def imaginaryPart : Numeral → Float
  | .complex _ im => im
  | _ => 0.0

/-- A cast without checks: integers keep their low bits, reals are cut, imaginary parts are dropped, and
everything but zero is true. -/
def cast (d : DType) (x : Numeral) : Numeral :=
  match d.kind with
  | .truth => .bool !x.isZero
  | .integer =>
    match x with
    | .bool b => .int (Numeral.boolInt b)
    | .int n => .int (d.wrap n)
    | .float x => .int (d.cut x)
    | .complex re _ => .int (d.cut re)
  | .real => .float (d.round (realPart x))
  | .complex => .complex (d.round (realPart x)) (d.round (imaginaryPart x))
  | .object => x

def zero (d : DType) : Numeral :=
  match d.kind with
  | .truth => .bool false
  | .integer | .object => .int 0
  | .real => .float 0.0
  | .complex => .complex 0.0 0.0

/-! ### Comparison -/

/-- How complex numbers are ordered: by the real part, then by the imaginary one. -/
def complexCompare? (x y : Float × Float) : Option Ordering :=
  if x.2.isNaN || y.2.isNaN then none
  else if x.1 < y.1 then some .lt
  else if y.1 < x.1 then some .gt
  else if x.1 == y.1 then
    if x.2 < y.2 then some .lt else if y.2 < x.2 then some .gt else some .eq
  else none

def complexParts : Numeral → Float × Float
  | .complex re im => (re, im)
  | x => (realPart x, 0.0)

/-- How two numbers of one type compare; nothing compares with what is no number. -/
def compareCast? (x y : Numeral) : Option Ordering :=
  if x.isComplex || y.isComplex then complexCompare? (complexParts x) (complexParts y)
  else Numeral.compare? x y

end DType

/-- A number with its element type; a plain number has only a kind. -/
structure Typed where
  value : Numeral
  dtype? : Option DType

namespace Typed

def meet (x y : Typed) : DType :=
  match x.dtype?, y.dtype? with
  | some d, some e => d.promote e
  | some d, none => d.promoteWeak y.value
  | none, some e => e.promoteWeak x.value
  | none, none => (DType.ofNum x.value).promote (DType.ofNum y.value)

/-- A number cast to the type of a comparison; a plain integer must not be too large for it. -/
def castTo (d : DType) (x : Typed) : Except NumError Numeral :=
  match x.dtype?, x.value with
  | none, .int n => (Numeral.floatOfBounded n).map fun _ => d.cast (.int n)
  | _, value => .ok (d.cast value)

def compare? (x y : Typed) : Except NumError (Option Ordering) :=
  match x.value.toInt?, y.value.toInt? with
  | some a, some b => .ok (some (compare a b))
  | _, _ => do
    let d := meet x y
    return DType.compareCast? (← x.castTo d) (← y.castTo d)

end Typed
end Rebind.Strided
