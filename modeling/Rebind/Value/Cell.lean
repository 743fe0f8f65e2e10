import Rebind.Number.Spelling
import Rebind.Value.Arithmetic
/-!
Cells: a value put into a cell of some type, and the value that a cell holds. Texts are read as the number
that they spell.
-/
namespace Rebind

open Number Strided

namespace Value

/-- A number of the type from a plain number, with the checks of a single assignment. -/
def numberFor (d : DType) (x : Numeric) : Except Fault Numeral :=
  match d.kind with
  | .truth => .ok (.bool !x.isZero)
  | .integer => do
    let n ← x.toInt
    if d.holds n then return .int n else .error (.ordinary .overflow)
  | .real => do return .float (d.round (← x.toFloat))
  | .complex => do
    let (re, im) ← x.toComplex
    return .complex (d.round re) (d.round im)
  | .object => .error (.ordinary .type)

def plainTruth (v : Value) : Run Bool := do
  match v with
  | .null => return false
  | .str s => return !s.isEmpty
  | .bytes b => return !b.isEmpty
  | .tuple items => return !items.isEmpty
  | .list id => return !(← Run.listItems id).isEmpty
  | .bytearray id => return !(← Run.byteContent id).isEmpty
  | .scalar _ x => return !x.isZero
  | v =>
    match Numeric.ofValue? v with
    | some x => return !x.isZero
    | none => return true

/-- A text of fixed width is filled up at its end, and what it is filled up with is no part of it. -/
def unfilled [BEq α] (content : List α) (filler : α) : List α :=
  (content.reverse.dropWhile (· == filler)).reverse

def spelledNumber (d : DType) (s : List Char) : Except Fault Numeral :=
  let found : Option (Except Fault Numeral) :=
    match d.kind with
    | .truth => some (.ok (.bool !s.isEmpty))
    | .integer => (Spelling.int? 10 s).map fun n => numberFor d (.num (.int n))
    | .real => (Spelling.real? s).map fun x => .ok (d.cast (.float x))
    | .complex => (Spelling.complex? s).map fun (re, im) => .ok (d.cast (.complex re im))
    | .object => some (.error (.ordinary .type))
  found.getD (.error (.ordinary .value))

def numberOf (d : DType) (v : Value) : Run Numeral := do
  match v with
  | .scalar _ x => return d.cast x
  | .null =>
    match d.kind with
    | .real => return .float (0.0 / 0.0)
    | .complex => return .complex (0.0 / 0.0) (0.0 / 0.0)
    | .truth => return .bool false
    | _ => Run.fail .type
  | .str s => Run.ofExcept (spelledNumber d (Spelling.ofText ⟨unfilled s.codes 0⟩))
  | .bytes b => Run.ofExcept (spelledNumber d (Spelling.ofBytes (unfilled b 0)))
  | v =>
    match Numeric.ofValue? v with
    | some x => Run.ofExcept (numberFor d x)
    | none =>
      if d.kind = .truth then return .bool (← plainTruth v) else Run.fail .type

/-- Puts a single value into a cell; an object cell takes it as it is. -/
def cellFor (d : DType) (v : Value) : Run Cell := do
  if d = .object then return .object v
  else
    match v with
    | .array _ view =>
      if view.shape = [] then
        match ← Run.read view with
        | [.num x] => return .num (d.cast x)
        | [.object v] => return .num (← numberOf d v)
        | _ => Run.fail .type
      else if d.kind = .truth then
        match ← Run.read view with
        | [.num x] => return .num (.bool !x.isZero)
        | [.object v] => return .num (.bool (← plainTruth v))
        | _ => Run.fail .value
      else Run.fail .type
    | v => return .num (← numberOf d v)

/-- A cell cast to another element type. Numbers leave an array as plain numbers. -/
def castCell (d : DType) (cell : Cell) : Run Cell := do
  match cell with
  | .num x => if d = .object then return .object (.num x) else return .num (d.cast x)
  | .object v => cellFor d v

end Value
end Rebind
