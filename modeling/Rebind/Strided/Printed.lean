import Rebind.Strided.DType
import Rebind.Strided.Layout
/-!
Arrays as text. The numbers of an array are written alike: with the places that the longest of them needs,
at most eight after the point, or all with an exponent if they differ too much in size. Rows are broken at a
fixed width.
-/
namespace Rebind.Strided.Printed

open Number

attribute [local instance (high)] instPowNat

/-! ### Decimals -/

def precision : Nat := 8

/-- A number cut into what stands before the point, sign included, after it, and in the exponent. -/
structure Pieces where
  whole : List Char
  fraction : List Char
  exponent : List Char

/-- The shortest decimal of a number, or the nearest one with the last digit at `10 ^ place`. -/
def decimalUpTo (isSingle : Bool) (place : Int) (x : Binary64) : Digits :=
  let short := if x.significand = 0 then ⟨0, 0⟩ else if isSingle then shortestSingle x else shortest x
  if place ≤ short.exponent then short
  else
    let (num, den) := x.ratio
    let rounded :=
      if 0 ≤ place then Binary64.divideToEven num (den * 10 ^ place.toNat)
      else Binary64.divideToEven (num * 10 ^ (-place).toNat) den
    Shortest.trim 20 ⟨rounded, place⟩

def filledUp (width : Nat) (digits : List Char) : List Char :=
  List.replicate (width - digits.length) '0' ++ digits

def withoutZeros (digits : List Char) : List Char :=
  (digits.reverse.dropWhile (· == '0')).reverse

def signOf (plus negative : Bool) : List Char :=
  if negative then ['-'] else if plus then ['+'] else []

def positionalPieces (isSingle plus : Bool) (x : Binary64) : Pieces :=
  let d := decimalUpTo isSingle (-(precision : Int)) x
  let sign := signOf plus x.negative
  if 0 ≤ d.exponent then ⟨sign ++ Nat.toDigits 10 (d.digits * 10 ^ d.exponent.toNat), [], []⟩
  else
    let places := (-d.exponent).toNat
    let fraction := filledUp places (Nat.toDigits 10 (d.digits % 10 ^ places))
    ⟨sign ++ Nat.toDigits 10 (d.digits / 10 ^ places), withoutZeros fraction, []⟩

def Digits.size (d : Digits) : Int := d.exponent + Shortest.digitCount d.digits - 1

def scientificPieces (isSingle plus : Bool) (x : Binary64) : Pieces :=
  let size := Digits.size (decimalUpTo isSingle (-1100) x)
  let d := decimalUpTo isSingle (size - precision) x
  let size := if d.digits = 0 then 0 else Digits.size d
  let sign := signOf plus x.negative
  match Nat.toDigits 10 d.digits with
  | first :: rest => ⟨sign ++ [first], withoutZeros rest, (exponentText size).drop 1⟩
  | [] => ⟨sign, [], []⟩

/-- How all numbers of an array are written. -/
structure NumberFormat where
  isSingle : Bool
  /-- Nonnegative numbers get a sign. -/
  plus : Bool
  scientific : Bool
  /-- The widths before and after the point, and of the digits of the exponent. -/
  before : Nat
  after : Nat
  exponent : Nat

namespace NumberFormat

def pieces (f : NumberFormat) (x : Binary64) : Pieces :=
  if f.scientific then scientificPieces f.isSingle f.plus x else positionalPieces f.isSingle f.plus x

def tailWidth (f : NumberFormat) : Nat := if f.scientific then f.after + f.exponent + 2 else f.after

/-- Numbers that differ by more than this, or leave these bounds, are written with exponents. -/
def needsExponent (d : DType) (values : List Float) : Bool :=
  let sizes := (values.filter (· != 0)).map Float.abs
  match sizes with
  | [] => false
  | first :: rest =>
    let greatest := rest.foldl (fun a b => if a < b then b else a) first
    let least := rest.foldl (fun a b => if b < a then b else a) first
    let bound := if d.bits ≤ 16 then 1e3 else if d.bits ≤ 32 then 1e6 else 1e8
    greatest ≥ bound || least < d.round 0.0001 || d.round (greatest / least) > 1000

def fitting (d : DType) (plus : Bool) (values : List Float) : NumberFormat :=
  let finite := values.filter Float.isFinite
  let f : NumberFormat := ⟨d.bits ≤ 32, plus, needsExponent d finite, 0, 0, 0⟩
  let pieces := (finite.filterMap fun x => Binary64.ofBits? x.toBits).map f.pieces
  let widest (part : Pieces → List Char) : Nat := (pieces.map fun p => (part p).length).foldl max 0
  let f := { f with
    before := widest (·.whole)
    after := widest (·.fraction)
    exponent := widest (·.exponent) - 1 }
  if finite.length = values.length then f
  else
    let signed : Nat := if plus || values.any fun x => x.isInf && x < 0 then 1 else 0
    { f with before := max f.before (3 + signed - (f.tailWidth + 1)) }

def padLeft (width : Nat) (text : List Char) : List Char :=
  List.replicate (width - text.length) ' ' ++ text

def padRight (width : Nat) (text : List Char) : List Char :=
  text ++ List.replicate (width - text.length) ' '

def write (f : NumberFormat) (x : Float) : List Char :=
  match Binary64.ofBits? x.toBits with
  | some parts =>
    let p := f.pieces parts
    let whole := padLeft f.before p.whole ++ ['.']
    if f.scientific then
      let fraction := p.fraction ++ List.replicate (f.after - p.fraction.length) '0'
      let digits := filledUp f.exponent (p.exponent.drop 1)
      whole ++ fraction ++ 'e' :: (p.exponent.take 1 ++ digits)
    else whole ++ padRight f.after p.fraction
  | none =>
    let text := if x.isNaN then "nan" else if x < 0 then "-inf" else if f.plus then "+inf" else "inf"
    padLeft (f.before + f.tailWidth + 1) text.toList

end NumberFormat

/-! ### Numbers of each type -/

def realPart : Numeral → Float
  | .float x => x
  | .complex re _ => re
  | _ => 0

def imaginaryPart : Numeral → Float
  | .complex _ im => im
  | _ => 0

def marked (text : List Char) : List Char :=
  let kept := (text.reverse.dropWhile (· == ' ')).reverse
  kept ++ 'j' :: List.replicate (text.length - kept.length) ' '

/-- The numbers of an array, each as it stands in the text. Alone, a truth value needs no blank. -/
def words (d : DType) (alone : Bool) (cells : List Numeral) : List String :=
  match d.kind with
  | .truth => cells.map fun
    | .bool true => if alone then "True" else " True"
    | _ => "False"
  | .integer =>
    let texts := cells.map fun
      | .int n => (toString n).toList
      | _ => []
    let width := (texts.map List.length).foldl max 0
    texts.map fun text => String.ofList (NumberFormat.padLeft width text)
  | .real =>
    let f := NumberFormat.fitting d false (cells.map realPart)
    cells.map fun x => String.ofList (f.write (realPart x))
  | .complex =>
    let re := NumberFormat.fitting d false (cells.map realPart)
    let im := NumberFormat.fitting d true (cells.map imaginaryPart)
    cells.map fun x => String.ofList (re.write (realPart x) ++ marked (im.write (imaginaryPart x)))
  | .object => cells.map fun _ => ""

/-! ### Rows -/

/-- Text in the making: the finished lines and the one that is being filled. -/
structure Page where
  finished : String
  line : String

def withoutBlanks (line : String) : String :=
  String.ofList (line.toList.reverse.dropWhile (· == ' ')).reverse

def blanks (n : Nat) : String := String.ofList (List.replicate n ' ')

namespace Page

def turn (page : Page) (line : String) : Page :=
  ⟨page.finished ++ withoutBlanks page.line ++ "\n", line⟩

def isFull (page : Page) (width : Nat) (indent : String) (length : Nat) : Bool :=
  width < page.line.length + length && indent.length < page.line.length

def add (width : Nat) (indent : String) (page : Page) (word : String) : Page :=
  match word.splitOn "\n" with
  | first :: more =>
    if more.isEmpty then
      let page := if page.isFull width indent word.length then page.turn indent else page
      { page with line := page.line ++ word }
    else
      let longest := ((first :: more).map String.length).foldl max 0
      let (page, indent) :=
        if page.isFull width indent longest then (page.turn (indent ++ first), indent)
        else ({ page with line := page.line ++ first }, blanks page.line.length)
      let page := more.foldl (fun page text => page.turn (indent ++ text)) page
      { page with line := page.line ++ blanks (longest - (more.getLastD "").length) }
  | [] => page

end Page

def row (separator : String) (words : List String) (indent : String) (width : Nat) : String :=
  let width := width - 1
  let start : Page := ⟨"", indent⟩
  let page := words.dropLast.foldl
    (fun page word =>
      let page := page.add width indent word
      { page with line := page.line ++ separator }) start
  let page := match words.getLast? with
    | some word => page.add width indent word
    | none => page
  "[" ++ ((page.finished ++ page.line).drop indent.length).toString ++ "]"

def chunks (length : Nat) : (count : Nat) → List α → List (List α)
  | 0, _ => []
  | count + 1, items => items.take length :: chunks length count (items.drop length)

/-- An array in its brackets: rows below each other, and larger parts further apart. -/
def nested (separator : String) : (shape : Shape) → List String → (indent : String) → (width : Nat) → String
  | [], words, _, _ => words.headD ""
  | [_], words, indent, width => row separator words indent width
  | n :: m :: shape, words, indent, width =>
    let gap := withoutBlanks separator ++ String.ofList (List.replicate (shape.length + 1) '\n')
    let parts := (chunks (Shape.size (m :: shape)) n words).map fun part =>
      nested separator (m :: shape) part (indent ++ " ") (width - 1)
    "[" ++ (gap ++ indent).intercalate parts ++ "]"

def lineWidth : Nat := 75

def contents (shape : Shape) (words : List String) : String :=
  if Shape.size shape = 0 then "[]" else nested " " shape words " " lineWidth

def shapeText : Shape → String
  | [n] => "(" ++ toString n ++ ",)"
  | shape => "(" ++ ", ".intercalate (shape.map toString) ++ ")"

/-- The contents with all that tells the array from others: its type unless it goes without saying, and the
shape if nothing else shows it. -/
def full (d : DType) (shape : Shape) (words : List String) : String :=
  let isEmpty := Shape.size shape = 0
  let start := "array("
  let body :=
    if isEmpty then "[]" else nested ", " shape words (blanks (start.length + 1)) (lineWidth - 1)
  let goesWithoutSaying := [DType.bool, .int64, .float64, .complex128].contains d
  let extras := (if isEmpty && shape ≠ [0] then ["shape=" ++ shapeText shape] else []) ++
    if !goesWithoutSaying || isEmpty then ["dtype=" ++ d.name] else []
  if extras.isEmpty then start ++ body ++ ")"
  else
    let text := start ++ body ++ ","
    let more := ", ".intercalate extras ++ ")"
    let last := ((text.splitOn "\n").getLastD "").length
    text ++ (if lineWidth < last + more.length + 1 then "\n" ++ blanks start.length else " ") ++ more

end Rebind.Strided.Printed
