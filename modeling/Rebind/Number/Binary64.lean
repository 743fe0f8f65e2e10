/-!
Double precision numbers by their bits: sign, significand and exponent, and the nearest double of a
ratio of natural numbers. All rounding in the library goes through `nearest`, which is exact.
-/
namespace Rebind.Number

attribute [local instance (high)] instPowNat

/-- The finite double `(-1) ^ negative * significand * 2 ^ exponent`. -/
structure Binary64 where
  negative : Bool
  significand : Nat
  exponent : Int

namespace Binary64

def leastExponent : Int := -1074

def signBit : Nat := 2 ^ (63 : Nat)

def infinityBits : Nat := 0x7ff0000000000000

def quietNaNBits : Nat := 0x7ff8000000000000

def ofBits? (bits : UInt64) : Option Binary64 :=
  let n := bits.toNat
  let negative := signBit ≤ n
  let biased : Nat := n / 2 ^ (52 : Nat) % 2048
  let fraction : Nat := n % 2 ^ (52 : Nat)
  if biased = 2047 then none
  else if biased = 0 then some ⟨negative, fraction, leastExponent⟩
  else some ⟨negative, 2 ^ (52 : Nat) + fraction, (biased : Int) - 1075⟩

def ratio (x : Binary64) : Nat × Nat :=
  if 0 ≤ x.exponent then (x.significand * 2 ^ x.exponent.toNat, 1)
  else (x.significand, 2 ^ (-x.exponent).toNat)

def divideToEven (num den : Nat) : Nat :=
  let q := num / den
  let r := num % den
  if den < 2 * r ∨ (2 * r = den ∧ q % 2 = 1) then q + 1 else q

def scaledQuotient (num den : Nat) (e : Int) : Nat :=
  if 0 ≤ e then divideToEven num (den * 2 ^ e.toNat)
  else divideToEven (num * 2 ^ (-e).toNat) den

/-- The exponent that leaves 53 bits of `num / den` before the point, or the least one. -/
def exponentFor (num den : Nat) : Int :=
  let guess : Int := (Nat.log2 num : Int) - (Nat.log2 den : Int) - 53
  let tooWide (e : Int) : Bool :=
    if 0 ≤ e then den * 2 ^ e.toNat * 2 ^ (53 : Nat) ≤ num
    else den * 2 ^ (53 : Nat) ≤ num * 2 ^ (-e).toNat
  let e := if tooWide guess then (if tooWide (guess + 1) then guess + 2 else guess + 1) else guess
  max e leastExponent

/-- The bits of the double nearest to `num / den`, ties to even; too large a ratio is infinite. -/
def nearestBits (num den : Nat) : Nat :=
  if num = 0 then 0
  else
    let e := exponentFor num den
    let q := scaledQuotient num den e
    if q < 2 ^ (52 : Nat) then q
    else
      let (q, e) := if q = 2 ^ (53 : Nat) then (2 ^ (52 : Nat), e + 1) else (q, e)
      if 971 < e then infinityBits
      else (e + 1075).toNat * 2 ^ (52 : Nat) + (q - 2 ^ (52 : Nat))

def nearest (negative : Bool) (num den : Nat) : UInt64 :=
  UInt64.ofNat ((if negative then signBit else 0) + nearestBits num den)

end Binary64

def floatOfRatio (n : Int) (d : Nat) : Float :=
  Float.ofBits (Binary64.nearest (n < 0) n.natAbs d)

def floatOfInt (n : Int) : Float := floatOfRatio n 1

end Rebind.Number
