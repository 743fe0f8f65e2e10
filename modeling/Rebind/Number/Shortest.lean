import Rebind.Number.Binary64
/-!
The fewest decimal digits that read back as a given double, or as a number of a narrower format. For one digit, two digits and so on, the
two neighbours of the value on that decimal grid are tried against the interval of numbers that
round to it; the first grid with a hit wins, and of two hits the nearer one.
-/
namespace Rebind.Number

attribute [local instance (high)] instPowNat

/-- The decimal `digits * 10 ^ exponent`. -/
structure Digits where
  digits : Nat
  exponent : Int
deriving DecidableEq, Repr

namespace Shortest

def digitCount (n : Nat) : Nat := (Nat.toDigits 10 n).length

def leadingZeros (den : Nat) : (fuel : Nat) → Nat → Nat
  | 0, _ => 0
  | fuel + 1, num => if den ≤ num then 0 else leadingZeros den fuel (num * 10) + 1

def magnitude (num den : Nat) : Int :=
  if den ≤ num then digitCount (num / den) else 1 - (leadingZeros den 400 num : Int)

/-- A binary format: how many digits its numbers have, and the least exponent. -/
structure Format where
  digits : Nat
  leastExponent : Int

def double : Format := ⟨53, Binary64.leastExponent⟩

def single : Format := ⟨24, -149⟩

def Format.parts (f : Format) (x : Binary64) : Nat × Int :=
  let shift := max (53 - f.digits) (f.leastExponent - x.exponent).toNat
  (x.significand / 2 ^ shift, x.exponent + shift)

/-- The interval of numbers that round to a number, in units of a fourth of its last place. -/
structure Interval where
  low : Nat
  value : Nat
  high : Nat
  /-- What the three numbers are to be divided by. -/
  unit : Nat
  /-- The ends belong to the interval. -/
  closed : Bool

def interval (f : Format) (significand : Nat) (exponent : Int) : Interval :=
  let e := exponent - 2
  let scale := if 0 ≤ e then 2 ^ e.toNat else 1
  let unit := if 0 ≤ e then 1 else 2 ^ (-e).toNat
  let below := if significand = 2 ^ (f.digits - 1) ∧ f.leastExponent < exponent then 1 else 2
  let m := 4 * significand
  ⟨(m - below) * scale, m * scale, (m + 2) * scale, unit, significand % 2 = 0⟩

def Interval.holds (i : Interval) (num den d : Nat) : Bool :=
  let point := d * den
  let low := i.low * num
  let high := i.high * num
  if i.closed then low ≤ point && point ≤ high else low < point && point < high

/-- The better of the two neighbours on the grid of step `10 ^ k`, if either is in the interval. -/
def onGrid (i : Interval) (k : Int) : Option Nat :=
  let num := if 0 ≤ k then 1 else 10 ^ (-k).toNat
  let den := i.unit * (if 0 ≤ k then 10 ^ k.toNat else 1)
  let value := i.value * num
  let below := value / den
  let rest := value % den
  match i.holds num den below && below ≠ 0, i.holds num den (below + 1) with
  | true, false => some below
  | false, true => some (below + 1)
  | true, true =>
    if 2 * rest < den ∨ (2 * rest = den ∧ below % 2 = 0) then some below else some (below + 1)
  | false, false => none

def search (i : Interval) (size : Int) : (fuel : Nat) → (count : Nat) → Digits
  | 0, count => ⟨i.value / i.unit, size - count⟩
  | fuel + 1, count =>
    match onGrid i (size - count) with
    | some d => ⟨d, size - count⟩
    | none => search i size fuel (count + 1)

def trim : (fuel : Nat) → Digits → Digits
  | 0, d => d
  | fuel + 1, d =>
    if d.digits % 10 = 0 ∧ d.digits ≠ 0 then trim fuel ⟨d.digits / 10, d.exponent + 1⟩ else d

def ofInterval (i : Interval) : Digits := trim 20 (search i (magnitude i.value i.unit) 18 1)

end Shortest

def shortest (x : Binary64) : Digits :=
  Shortest.ofInterval (Shortest.interval Shortest.double x.significand x.exponent)

/-- The shortest decimal of a nonzero number that has the digits of the narrower format only. -/
def shortestSingle (x : Binary64) : Digits :=
  let (significand, exponent) := Shortest.single.parts x
  Shortest.ofInterval (Shortest.interval Shortest.single significand exponent)

end Rebind.Number
