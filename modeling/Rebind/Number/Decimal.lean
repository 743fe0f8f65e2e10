import Rebind.Number.FloatText
/-!
Decimal numbers with 28 significant digits and a bounded range of exponents. Sums, products and quotients
are formed exactly and then fitted once, a half going to the even digit; trailing zeros are kept. What is
no number is passed on, unless it is of the kind that signals.
-/
namespace Rebind.Number

attribute [local instance (high)] instPowNat

/-- A number `(-1) ^ negative * coefficient * 10 ^ exponent`, an infinity, or no number. -/
inductive Decimal where
  | finite (negative : Bool) (coefficient : Nat) (exponent : Int)
  | infinite (negative : Bool)
  | nan (negative signals : Bool) (payload : Nat)
deriving DecidableEq, Repr, Inhabited

/-- Why a decimal operation has no result. -/
inductive DecimalError where
  | divisionByZero
  | invalid
  | overflow
deriving DecidableEq, Repr

namespace Decimal

def precision : Nat := 28

def greatestExponent : Int := 999999

def leastExponent : Int := -greatestExponent - precision + 1

def ofInt (n : Int) : Decimal := .finite (n < 0) n.natAbs 0

def zero : Decimal := ofInt 0

def isZero : Decimal → Bool
  | .finite _ c _ => c = 0
  | _ => false

def isNaN : Decimal → Bool
  | .nan _ _ _ => true
  | _ => false

def leading (coefficient : Nat) (exponent : Int) : Int := exponent + Shortest.digitCount coefficient - 1

/-- Fits a number into the precision and the range. Zeros keep an exponent within the range, numbers that
are too small lose digits, and those that are too large are refused. -/
def round : Decimal → Except DecimalError Decimal
  | .finite negative 0 e => .ok (.finite negative 0 (min (max e leastExponent) greatestExponent))
  | .finite negative c e =>
    if greatestExponent < leading c e then .error .overflow
    else
      let last := max (leading c e - precision + 1) leastExponent
      if last ≤ e then .ok (.finite negative c e)
      else
        let rounded := Binary64.divideToEven c (10 ^ (last - e).toNat)
        let (rounded, last) := if rounded = 10 ^ precision then (rounded / 10, last + 1) else (rounded, last)
        if greatestExponent < leading rounded last then .error .overflow
        else .ok (.finite negative rounded last)
  | .nan negative signals payload => .ok (.nan negative signals (payload % 10 ^ precision))
  | d => .ok d

/-- What is no number goes through every operation; the kind that signals is refused. -/
def passed? (d : Decimal) : Option (Except DecimalError Decimal) :=
  match d with
  | .nan _ true _ => some (.error .invalid)
  | .nan negative false payload => some (round (.nan negative false payload))
  | _ => none

def passedOfTwo? (a b : Decimal) : Option (Except DecimalError Decimal) :=
  match a, b with
  | .nan _ true _, _ | _, .nan _ true _ => some (.error .invalid)
  | a, b => (passed? a).orElse fun _ => passed? b

def signed (negative : Bool) (n : Nat) : Int := if negative then -(n : Int) else n

/-- A coefficient with its exponent as it takes part in a sum with the other one. What is too small to
change more than the rounding moves up to where it just does so, and a zero asks for no more digits than
the precision has. -/
def beside (other own : Nat × Int) : Nat × Int :=
  let (d, f) := other
  let (c, e) := own
  if d = 0 ∨ f ≤ e then own
  else if c = 0 then (0, max e (f - precision - 1))
  else
    let edge := f + min (-1) ((Shortest.digitCount d : Int) - precision - 2)
    if leading c e < edge then (1, edge) else own

def addNumbers : Decimal → Decimal → Except DecimalError Decimal
  | .infinite a, .infinite b => if a = b then .ok (.infinite a) else .error .invalid
  | .infinite a, _ => .ok (.infinite a)
  | _, .infinite b => .ok (.infinite b)
  | .finite s c e, .finite t d f =>
    let (left, right) := (beside (d, f) (c, e), beside (c, e) (d, f))
    let (c, e) := left
    let (d, f) := right
    let low := min e f
    let sum := signed s c * 10 ^ (e - low).toNat + signed t d * 10 ^ (f - low).toNat
    let negative := if sum = 0 then s && t && c = 0 && d = 0 else sum < 0
    round (.finite negative sum.natAbs low)
  | _, _ => .error .invalid

def add (a b : Decimal) : Except DecimalError Decimal := (passedOfTwo? a b).getD (addNumbers a b)

def negate : Decimal → Decimal
  | .finite s c e => .finite (!s) c e
  | .infinite s => .infinite (!s)
  | d => d

def neg (d : Decimal) : Except DecimalError Decimal :=
  (passed? d).getD (match d with
    | .finite _ 0 e => round (.finite false 0 e)
    | d => round d.negate)

def abs (d : Decimal) : Except DecimalError Decimal :=
  (passed? d).getD (match d with
    | .finite _ c e => round (.finite false c e)
    | _ => .ok (.infinite false))

def sub (a b : Decimal) : Except DecimalError Decimal := add a b.negate

def mulNumbers : Decimal → Decimal → Except DecimalError Decimal
  | .infinite a, .infinite b => .ok (.infinite (a != b))
  | .infinite a, .finite t d _ => if d = 0 then .error .invalid else .ok (.infinite (a != t))
  | .finite s c _, .infinite b => if c = 0 then .error .invalid else .ok (.infinite (s != b))
  | .finite s c e, .finite t d f => round (.finite (s != t) (c * d) (e + f))
  | _, _ => .error .invalid

def mul (a b : Decimal) : Except DecimalError Decimal := (passedOfTwo? a b).getD (mulNumbers a b)

def towards (wanted : Int) : (fuel : Nat) → Nat → Int → Nat × Int
  | 0, c, e => (c, e)
  | fuel + 1, c, e =>
    if e < wanted ∧ c % 10 = 0 then towards wanted fuel (c / 10) (e + 1) else (c, e)

def divNumbers : Decimal → Decimal → Except DecimalError Decimal
  | .infinite _, .infinite _ => .error .invalid
  | .infinite a, .finite t _ _ => .ok (.infinite (a != t))
  | .finite s _ _, .infinite b => .ok (.finite (s != b) 0 leastExponent)
  | .finite s c e, .finite t d f =>
    if d = 0 then if c = 0 then .error .invalid else .error .divisionByZero
    else if c = 0 then round (.finite (s != t) 0 (e - f))
    else
      let shift : Int := Shortest.digitCount d - Shortest.digitCount c + precision + 1
      let num := if 0 ≤ shift then c * 10 ^ shift.toNat else c
      let den := if 0 ≤ shift then d else d * 10 ^ (-shift).toNat
      let q := num / den
      let exponent := e - f - shift
      if num % den ≠ 0 then
        -- A last digit of zero or five must not look like an exact result.
        round (.finite (s != t) (if q % 5 = 0 then q + 1 else q) exponent)
      else
        let (q, exponent) := towards (e - f) (Shortest.digitCount q) q exponent
        round (.finite (s != t) q exponent)
  | _, _ => .error .invalid

def div (a b : Decimal) : Except DecimalError Decimal := (passedOfTwo? a b).getD (divNumbers a b)

def ratio? : Decimal → Option (Int × Nat)
  | .finite s c e =>
    if 0 ≤ e then some (signed s c * 10 ^ e.toNat, 1) else some (signed s c, 10 ^ (-e).toNat)
  | _ => none

def toFloat : Decimal → Float
  | .finite s c e => Float.ofBits (bitsOfDecimal s c e)
  | .infinite s =>
    Float.ofBits (UInt64.ofNat ((if s then Binary64.signBit else 0) + Binary64.infinityBits))
  | .nan negative _ _ =>
    Float.ofBits (UInt64.ofNat ((if negative then Binary64.signBit else 0) + Binary64.quietNaNBits))

def pointed (digits : List Char) (before : Int) : List Char :=
  if before ≤ 0 then '0' :: '.' :: List.replicate (-before).toNat '0' ++ digits
  else if (digits.length : Int) ≤ before then digits
  else digits.take before.toNat ++ '.' :: digits.drop before.toNat

/-- Plain notation for exponents up to zero as long as few zeros lead; else an exponent is written. -/
def text : Decimal → String
  | .nan negative signals payload =>
    (if negative then "-" else "") ++ (if signals then "sNaN" else "NaN") ++
      (if payload = 0 then "" else toString payload)
  | .infinite s => if s then "-Infinity" else "Infinity"
  | .finite s c e =>
    let digits := Nat.toDigits 10 c
    let left : Int := e + digits.length
    let body :=
      if e ≤ 0 ∧ -6 < left then pointed digits left
      else
        let mantissa := pointed digits 1
        let power := left - 1
        mantissa ++ 'E' :: (if power < 0 then '-' else '+') :: Nat.toDigits 10 power.natAbs
    String.ofList (if s then '-' :: body else body)

def read? (s : String) : Option Decimal :=
  let (negative, rest) :=
    match s.toList with
    | '-' :: rest => (true, rest)
    | '+' :: rest => (false, rest)
    | rest => (false, rest)
  match (String.ofList rest).toLower with
  | "inf" | "infinity" => some (.infinite negative)
  | word =>
    let payload? (digits : List Char) : Option Nat :=
      if digits.all Char.isDigit then some (natOfDigits digits) else none
    match word.toList with
    | 'n' :: 'a' :: 'n' :: digits => (payload? digits).map fun n => .nan negative false n
    | 's' :: 'n' :: 'a' :: 'n' :: digits => (payload? digits).map fun n => .nan negative true n
    | _ => (readMagnitude? rest).map fun (c, e) => .finite negative c e

def isqrt (n : Nat) : (fuel : Nat) → (low high : Nat) → Nat
  | 0, low, _ => low
  | fuel + 1, low, high =>
    if high ≤ low + 1 then low
    else
      let mid := (low + high) / 2
      if mid * mid ≤ n then isqrt n fuel mid high else isqrt n fuel low mid

def sqrtNumber : Decimal → Except DecimalError Decimal
  | .infinite s => if s then .error .invalid else .ok (.infinite false)
  | .finite s 0 e => round (.finite s 0 (e.fdiv 2))
  | .finite true _ _ => .error .invalid
  | .finite false c e =>
    let width := precision + 1
    let half := e.fdiv 2
    let (c, e', l) : Nat × Int × Nat :=
      if e % 2 ≠ 0 then (c * 10, half, Shortest.digitCount c / 2 + 1)
      else (c, half, (Shortest.digitCount c + 1) / 2)
    let shift : Int := (width : Int) - l
    let scaled := if 0 ≤ shift then c * 100 ^ shift.toNat else c / 100 ^ (-shift).toNat
    let lost := decide (shift < 0) && c % 100 ^ (-shift).toNat ≠ 0
    let n := isqrt scaled 400 0 (10 ^ (width + 1))
    let exact := n * n = scaled && !lost
    let e' := e' - shift
    if exact then
      let n := if 0 ≤ shift then n / 10 ^ shift.toNat else n * 10 ^ (-shift).toNat
      round (.finite false n (e' + shift))
    else round (.finite false (if n % 5 = 0 then n + 1 else n) e')
  | _ => .error .invalid

def sqrt (d : Decimal) : Except DecimalError Decimal := (passed? d).getD (sqrtNumber d)

/-- To the given number of decimal places, if the precision and the range allow it. -/
def toPlaces (d : Decimal) (places : Int) : Except DecimalError Decimal :=
  (passed? d).getD (match d with
    | .finite negative c e =>
      if -places < leastExponent || greatestExponent < -places then .error .invalid
      else if c = 0 then round (.finite negative 0 (-places))
      else if precision < leading c e + places + 1 then .error .invalid
      else
        let shift := e + places
        let c := if shift ≥ 0 then c * 10 ^ shift.toNat else Binary64.divideToEven c (10 ^ (-shift).toNat)
        if Shortest.digitCount c > precision || greatestExponent < leading c (-places) then .error .invalid
        else round (.finite negative c (-places))
    | _ => .error .invalid)

end Decimal
end Rebind.Number
