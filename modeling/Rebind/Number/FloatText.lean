import Rebind.Number.Shortest
/-!
Decimal spelling of doubles, and reading it back.
-/
namespace Rebind.Number

attribute [local instance (high)] instPowNat

/-- How a finite number is laid out once its digits are known. -/
structure FloatLayout where
  /-- The least and the first excluded decimal exponent written without an exponent mark. -/
  leastPositional : Int
  firstScientific : Int
  /-- A whole number in positional form gets `.0`. -/
  pointZero : Bool

def plainLayout : FloatLayout := ⟨-4, 16, true⟩

def partLayout : FloatLayout := ⟨-4, 16, false⟩

def exponentText (e : Int) : List Char :=
  let digits := Nat.toDigits 10 e.natAbs
  'e' :: (if e < 0 then '-' else '+') :: (if digits.length < 2 then '0' :: digits else digits)

/-- Digits with the point after `before` of them, filled up with zeros on either side. -/
def positional (layout : FloatLayout) (digits : List Char) (before : Int) : List Char :=
  if before ≤ 0 then '0' :: '.' :: List.replicate (-before).toNat '0' ++ digits
  else
    let whole := before.toNat
    if digits.length ≤ whole then
      digits ++ List.replicate (whole - digits.length) '0' ++ (if layout.pointZero then ['.', '0'] else [])
    else digits.take whole ++ '.' :: digits.drop whole

def scientific (digits : List Char) (e : Int) : List Char :=
  match digits with
  | [] => exponentText e
  | [d] => d :: exponentText e
  | d :: rest => d :: '.' :: rest ++ exponentText e

def digitsText (layout : FloatLayout) (d : Digits) : List Char :=
  let digits := Nat.toDigits 10 d.digits
  let e := d.exponent + digits.length - 1
  if layout.leastPositional ≤ e ∧ e < layout.firstScientific then positional layout digits (e + 1)
  else scientific digits e

def magnitudeText (layout : FloatLayout) (x : Binary64) : List Char :=
  if x.significand = 0 then if layout.pointZero then ['0', '.', '0'] else ['0']
  else digitsText layout (shortest x)

/-- Where short numbers of the narrower format end: at ten million, and exactly at a ten thousandth, which
the format does not hold. -/
def singleLayout : FloatLayout := ⟨-4, 7, true⟩

def reachesTenThousandth (x : Binary64) : Bool :=
  let (n, d) := x.ratio
  d ≤ n * 10000

def singleMagnitudeText (x : Binary64) : List Char :=
  if x.significand = 0 then ['0', '.', '0']
  else
    let d := shortestSingle x
    if reachesTenThousandth x then digitsText singleLayout d
    else digitsText { singleLayout with leastPositional := singleLayout.firstScientific } d

def signedText (bits : UInt64) (magnitude : Binary64 → List Char) : String :=
  match Binary64.ofBits? bits with
  | some x => String.ofList (if x.negative then '-' :: magnitude x else magnitude x)
  | none =>
    if bits.toNat % 2 ^ (52 : Nat) ≠ 0 then "nan"
    else if Binary64.signBit ≤ bits.toNat then "-inf" else "inf"

def floatTextOfBits (layout : FloatLayout) (bits : UInt64) : String :=
  signedText bits (magnitudeText layout)

def floatText (x : Float) : String := floatTextOfBits plainLayout x.toBits

def singleText (x : Float) : String := signedText x.toBits singleMagnitudeText

/-- A complex number: a real part of plain zero is left out, and otherwise the sum is bracketed. -/
def complexText (re im : Float) : String :=
  let imag := floatTextOfBits partLayout im.toBits
  if re.toBits = 0 then imag ++ "j"
  else
    let signed := if imag.startsWith "-" then imag else "+" ++ imag
    "(" ++ floatTextOfBits partLayout re.toBits ++ signed ++ "j)"

def digitValue (c : Char) : Nat := c.toNat - '0'.toNat

def natOfDigits (digits : List Char) : Nat := digits.foldl (fun n c => 10 * n + digitValue c) 0

/-- The double nearest to `significand * 10 ^ exponent`. Beyond the range of doubles the power is not
computed. -/
def bitsOfDecimal (negative : Bool) (significand : Nat) (exponent : Int) : UInt64 :=
  let size := (Shortest.digitCount significand : Int) + exponent
  if significand = 0 ∨ size < -400 then Binary64.nearest negative 0 1
  else if 400 < size then Binary64.nearest negative (10 ^ (400 : Nat)) 1
  else if 0 ≤ exponent then Binary64.nearest negative (significand * 10 ^ exponent.toNat) 1
  else Binary64.nearest negative significand (10 ^ (-exponent).toNat)

/-- A decimal number without sign: digits, a point with digits, an exponent, each part optional as
long as a digit stands before the exponent. -/
def readMagnitude? (s : List Char) : Option (Nat × Int) :=
  let whole := s.takeWhile Char.isDigit
  let s := s.dropWhile Char.isDigit
  let (fraction, s) :=
    match s with
    | '.' :: rest => (rest.takeWhile Char.isDigit, rest.dropWhile Char.isDigit)
    | _ => ([], s)
  if whole.isEmpty && fraction.isEmpty then none
  else
    let significand := natOfDigits (whole ++ fraction)
    let scale : Int := -(fraction.length : Int)
    match s with
    | [] => some (significand, scale)
    | mark :: rest =>
      if mark = 'e' ∨ mark = 'E' then
        let (negative, digits) :=
          match rest with
          | '-' :: digits => (true, digits)
          | '+' :: digits => (false, digits)
          | digits => (false, digits)
        if digits.isEmpty || !digits.all Char.isDigit then none
        else
          let e : Int := natOfDigits digits
          some (significand, scale + if negative then -e else e)
      else none

def readFloat? (s : String) : Option Float :=
  let (negative, rest) :=
    match s.toList with
    | '-' :: rest => (true, rest)
    | '+' :: rest => (false, rest)
    | rest => (false, rest)
  let sign := if negative then Binary64.signBit else 0
  match String.ofList rest with
  | "inf" => some (Float.ofBits (UInt64.ofNat (sign + Binary64.infinityBits)))
  | "nan" => some (Float.ofBits (UInt64.ofNat (sign + Binary64.quietNaNBits)))
  | _ => (readMagnitude? rest).map fun (m, e) => Float.ofBits (bitsOfDecimal negative m e)

end Rebind.Number
