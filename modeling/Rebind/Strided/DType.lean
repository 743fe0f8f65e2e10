import Rebind.Number.Numeral
/-!
Element types: how two types are promoted to one, how a plain number takes the type of the array it
meets, and which casts an update in place allows.
-/
namespace Rebind.Strided

open Number

attribute [local instance (high)] instPowNat

inductive DType where
  | bool | uint8 | uint64 | int32 | int64 | float16 | float32 | float64 | complex64 | complex128 | object
deriving DecidableEq, Repr, Inhabited

namespace DType

def name : DType → String
  | bool => "bool"
  | uint8 => "uint8"
  | uint64 => "uint64"
  | int32 => "int32"
  | int64 => "int64"
  | float16 => "float16"
  | float32 => "float32"
  | float64 => "float64"
  | complex64 => "complex64"
  | complex128 => "complex128"
  | object => "object"

def all : List DType :=
  [bool, uint8, uint64, int32, int64, float16, float32, float64, complex64, complex128, object]

def ofName? (name : String) : Option DType := all.find? (·.name == name)

inductive Kind where
  | truth | integer | real | complex | object
deriving DecidableEq, Repr

def kind : DType → Kind
  | bool => .truth
  | uint8 | uint64 | int32 | int64 => .integer
  | float16 | float32 | float64 => .real
  | complex64 | complex128 => .complex
  | object => .object

def isSigned : DType → Bool
  | uint8 | uint64 => false
  | _ => true

/-- The order of the kinds in which casts go upwards; integers without a sign come before the others. -/
def rank (d : DType) : Nat :=
  match d.kind with
  | .truth => 0
  | .integer => if d.isSigned then 2 else 1
  | .real => 3
  | .complex => 4
  | .object => 5

def bits : DType → Nat
  | bool | uint8 => 8
  | int32 | float32 | complex64 => 32
  | uint64 | int64 | float64 | complex128 => 64
  | float16 => 16
  | object => 64

def realOfBits (bits : Nat) : DType := if bits ≤ 16 then float16 else if bits ≤ 32 then float32 else float64

def complexOfBits (bits : Nat) : DType := if bits ≤ 32 then complex64 else complex128

/-- The least type for two integer types. Where only one has a sign it must be the wider one, and beside
the widest integers without a sign only a real type is left. -/
def promoteIntegers (a b : DType) : DType :=
  let wider := if a.bits ≤ b.bits then b else a
  if a.isSigned = b.isSigned then wider
  else if wider.isSigned && a.bits ≠ b.bits then wider
  else float64

def realBits (d : DType) : Nat := if d.bits ≤ 8 then 16 else 64

/-- The least type that holds the values of both; integers of 32 bits and more need 64 bits as reals. -/
def promote (a b : DType) : DType :=
  match a.kind, b.kind with
  | .object, _ | _, .object => object
  | .truth, _ => b
  | _, .truth => a
  | .integer, .integer => promoteIntegers a b
  | .integer, .real => realOfBits (max a.realBits b.bits)
  | .real, .integer => realOfBits (max a.bits b.realBits)
  | .integer, .complex => complexOfBits (max a.realBits b.bits)
  | .complex, .integer => complexOfBits (max a.bits b.realBits)
  | .real, .real => realOfBits (max a.bits b.bits)
  | .real, .complex | .complex, .real | .complex, .complex => complexOfBits (max a.bits b.bits)

def ofNum : Numeral → DType
  | .bool _ => bool
  | .int _ => int64
  | .float _ => float64
  | .complex _ _ => complex128

/-- The type for an array of type `d` and a plain number, which has only a kind. -/
def promoteWeak (d : DType) (x : Numeral) : DType :=
  match x, d.kind with
  | _, .object => object
  | .bool _, _ => promote d bool
  | .int _, .truth => int64
  | .int _, _ => d
  | .float _, .truth | .float _, .integer => float64
  | .float _, _ => d
  | .complex _ _, .truth | .complex _ _, .integer => complex128
  | .complex _ _, .real => complexOfBits d.bits
  | .complex _ _, _ => d

def sameKind (source target : DType) : Bool :=
  source.rank ≤ target.rank

def wrap (d : DType) (n : Int) : Int :=
  match d with
  | uint8 => n % 2 ^ (8 : Nat)
  | uint64 => n % 2 ^ (64 : Nat)
  | int32 => Int.bmod n (2 ^ (32 : Nat))
  | int64 => Int.bmod n (2 ^ (64 : Nat))
  | _ => n

def holds (d : DType) (n : Int) : Bool := d.wrap n == n

def roundHalf (x : Float) : Float :=
  match Numeral.floatRatio? x with
  | none => x
  | some (n, d) =>
    if n = 0 then x
    else
      let e : Int := (Nat.log2 n.natAbs : Int) - (Nat.log2 d : Int)
      let fits : Bool := if 0 ≤ e then d * 2 ^ e.toNat ≤ n.natAbs else d ≤ n.natAbs * 2 ^ (-e).toNat
      let e := max (if fits then e else e - 1) (-14)
      let unit := e - 10
      let q := Binary64.scaledQuotient n.natAbs d unit
      let magnitude :=
        if 0 ≤ unit then floatOfRatio (q * 2 ^ unit.toNat) 1 else floatOfRatio q (2 ^ (-unit).toNat)
      let magnitude := if magnitude ≥ 65520.0 then 1.0 / 0.0 else magnitude
      if n < 0 then -magnitude else magnitude

def round (d : DType) (x : Float) : Float :=
  match d with
  | float16 => roundHalf x
  | float32 | complex64 => x.toFloat32.toFloat
  | _ => x

end DType
end Rebind.Strided
