import Rebind.Number.FloatText
import Rebind.Text.Blank
import Rebind.Text.Wide
/-!
Numbers as texts spell them: with blanks around, in the digits of every script, and with single underscores
between digits. Integers have a base, complex numbers two parts and perhaps brackets.
-/
namespace Rebind.Number.Spelling

/-- The zeros of the scripts that write numbers in tens; the other nine digits follow each of them. -/
def zeros : List Nat :=
  [0x30, 0x660, 0x6f0, 0x7c0, 0x966, 0x9e6, 0xa66, 0xae6, 0xb66, 0xbe6, 0xc66, 0xce6, 0xd66, 0xde6, 0xe50,
   0xed0, 0xf20, 0x1040, 0x1090, 0x17e0, 0x1810, 0x1946, 0x19d0, 0x1a80, 0x1a90, 0x1b50, 0x1bb0, 0x1c40,
   0x1c50, 0xa620, 0xa8d0, 0xa900, 0xa9d0, 0xa9f0, 0xaa50, 0xabf0, 0xff10, 0x104a0, 0x10d30, 0x11066,
   0x110f0, 0x11136, 0x111d0, 0x112f0, 0x11450, 0x114d0, 0x11650, 0x116c0, 0x11730, 0x118e0, 0x11950,
   0x11c50, 0x11d50, 0x11da0, 0x16a60, 0x16ac0, 0x16b50, 0x1d7ce, 0x1d7d8, 0x1d7e2, 0x1d7ec, 0x1d7f6,
   0x1e140, 0x1e2f0, 0x1e950, 0x1fbf0]

def digit? (code : Nat) : Option Nat :=
  (zeros.find? fun first => first ≤ code && code < first + 10).map (code - ·)

/-- A code point in basic characters. Those that have no place in a number are all alike. -/
def basic (code : Nat) : Char :=
  if code < 127 then Char.ofNat code
  else if Text.blanks.containsCode code then ' '
  else
    match digit? code with
    | some n => Char.ofNat ('0'.toNat + n)
    | none => '?'

def ofText (s : Text.Wide) : List Char := s.codes.map basic

def ofBytes (bytes : List UInt8) : List Char :=
  bytes.map fun b => if b < 127 then Char.ofNat b.toNat else '?'

def isSpace (c : Char) : Bool := c = ' ' || (9 ≤ c.toNat && c.toNat ≤ 13)

def trimmed (s : List Char) : List Char :=
  ((s.dropWhile isSpace).reverse.dropWhile isSpace).reverse

def joined? (isDigit : Char → Bool) : (before : Bool) → List Char → Option (List Char)
  | _, [] => some []
  | before, '_' :: c :: rest =>
    if before && isDigit c then (joined? isDigit true rest).map (c :: ·) else none
  | _, c :: rest =>
    if c = '_' then none else (joined? isDigit (isDigit c) rest).map (c :: ·)
termination_by structural _ s => s

def signed : List Char → Bool × List Char
  | '-' :: rest => (true, rest)
  | '+' :: rest => (false, rest)
  | rest => (false, rest)

/-! ### Integers -/

def digitValue? (c : Char) : Option Nat :=
  if c.isDigit then some (c.toNat - '0'.toNat)
  else if 'a' ≤ c && c ≤ 'z' then some (c.toNat - 'a'.toNat + 10)
  else if 'A' ≤ c && c ≤ 'Z' then some (c.toNat - 'A'.toNat + 10)
  else none

def digits? (base : Nat) (s : List Char) : Option Nat := do
  let isDigit (c : Char) : Bool := (digitValue? c).any (· < base)
  let s ← joined? isDigit false s
  if s.isEmpty || !s.all isDigit then none
  else return s.foldl (fun n c => base * n + (digitValue? c).getD 0) 0

def markedBase? : Char → Option Nat
  | 'x' | 'X' => some 16
  | 'o' | 'O' => some 8
  | 'b' | 'B' => some 2
  | _ => none

/-- The base and the digits of a number. Base zero leaves the choice to the mark; without one the number
is in tens and does not start with a zero unless it is one. -/
def natural? (base : Nat) (s : List Char) : Option Nat :=
  match s with
  | '0' :: mark :: rest =>
    let rest := match rest with
      | '_' :: rest => rest
      | rest => rest
    match markedBase? mark, base with
    | some marked, 0 => digits? marked rest
    | some marked, base => if marked = base then digits? base rest else digits? base s
    | none, 0 => (digits? 10 s).bind fun n => if n = 0 then some 0 else none
    | none, base => digits? base s
  | s => digits? (if base = 0 then 10 else base) s

def int? (base : Nat) (s : List Char) : Option Int :=
  let (negative, rest) := signed (trimmed s)
  (natural? base rest).map fun n => if negative then -(n : Int) else n

/-! ### Real and complex numbers -/

/-- The real number that starts a text, and what follows it; the sign is part of it. -/
def realStart? (s : List Char) : Option (Float × List Char) :=
  let (negative, rest) := signed s
  let sign := if negative then Binary64.signBit else 0
  let special (bits : Nat) : Float := Float.ofBits (UInt64.ofNat (sign + bits))
  let lower := rest.map Char.toLower
  if "infinity".toList.isPrefixOf lower then some (special Binary64.infinityBits, rest.drop 8)
  else if "inf".toList.isPrefixOf lower then some (special Binary64.infinityBits, rest.drop 3)
  else if "nan".toList.isPrefixOf lower then some (special Binary64.quietNaNBits, rest.drop 3)
  else
    let whole := rest.takeWhile Char.isDigit
    let rest := rest.dropWhile Char.isDigit
    let (fraction, rest) :=
      match rest with
      | '.' :: more => (more.takeWhile Char.isDigit, more.dropWhile Char.isDigit)
      | rest => ([], rest)
    if whole.isEmpty && fraction.isEmpty then none
    else
      let (exponent, rest) := powerStart rest
      let bits := bitsOfDecimal negative (natOfDigits (whole ++ fraction)) (exponent - fraction.length)
      some (Float.ofBits bits, rest)
where
  /-- The power of ten, if there is one. -/
  powerStart (s : List Char) : Int × List Char :=
    match s with
    | mark :: rest =>
      let (negative, more) := signed rest
      let digits := more.takeWhile Char.isDigit
      if (mark = 'e' || mark = 'E') && !digits.isEmpty then
        let e : Int := natOfDigits digits
        (if negative then -e else e, more.dropWhile Char.isDigit)
      else (0, s)
    | [] => (0, s)

def real? (s : List Char) : Option Float := do
  match ← realStart? (← joined? Char.isDigit false (trimmed s)) with
  | (x, []) => return x
  | _ => none

def isImaginaryMark (c : Char) : Bool := c = 'j' || c = 'J'

def unbracketed? (s : List Char) : Option (List Char) :=
  match trimmed s with
  | '(' :: rest =>
    match rest.reverse with
    | ')' :: inner => some (trimmed inner.reverse)
    | _ => none
  | s => some s

def unitStart? (s : List Char) : Option (Float × List Char) :=
  match signed s with
  | (negative, c :: rest) =>
    if isImaginaryMark c then some (if negative then -1.0 else 1.0, c :: rest) else none
  | _ => none

/-- A complex number: one part of either kind, or a real part and a signed imaginary one. -/
def complex? (s : List Char) : Option (Float × Float) := do
  let s ← joined? Char.isDigit false (← unbracketed? s)
  let start (s : List Char) := (realStart? s).orElse fun _ => unitStart? s
  match ← start s with
  | (x, []) => return (x, 0.0)
  | (x, [c]) => if isImaginaryMark c then return (0.0, x) else none
  | (x, c :: rest) =>
    if c = '+' || c = '-' then
      match ← start (c :: rest) with
      | (y, [mark]) => if isImaginaryMark mark then return (x, y) else none
      | _ => none
    else none

end Rebind.Number.Spelling
