import Rebind.Number.Binary64
/-!
Fractions in lowest terms.
-/
namespace Rebind.Number

/-- A fraction in lowest terms with a positive denominator. -/
structure Fraction where
  num : Int
  den : Nat
deriving DecidableEq, Repr, Inhabited

namespace Fraction

def make? (n d : Int) : Option Fraction :=
  if d = 0 then none
  else
    let g := Int.gcd n d
    let n := if d < 0 then -n else n
    some ⟨n / g, d.natAbs / g⟩

def ofInt (n : Int) : Fraction := ⟨n, 1⟩

def add (a b : Fraction) : Fraction :=
  (make? (a.num * b.den + b.num * a.den) (a.den * b.den)).getD a

def sub (a b : Fraction) : Fraction :=
  (make? (a.num * b.den - b.num * a.den) (a.den * b.den)).getD a

def mul (a b : Fraction) : Fraction := (make? (a.num * b.num) (a.den * b.den)).getD a

def div? (a b : Fraction) : Option Fraction := make? (a.num * b.den) (a.den * b.num)

def neg (a : Fraction) : Fraction := ⟨-a.num, a.den⟩

def abs (a : Fraction) : Fraction := ⟨a.num.natAbs, a.den⟩

def round (a : Fraction) : Int :=
  let magnitude : Int := Binary64.divideToEven a.num.natAbs a.den
  if a.num < 0 then -magnitude else magnitude

def trunc (a : Fraction) : Int := a.num.tdiv a.den

def toFloat (a : Fraction) : Float := floatOfRatio a.num a.den

end Fraction
end Rebind.Number
