import Rebind.Value.Reshape
/-!
Arithmetic of arrays, numbers of a fixed element type and plain values: what the operators do as long as no
other kind of container takes part.
-/
namespace Rebind

open Number Strided Syntax

namespace Value

def isDense : Value → Bool
  | .array _ _ => true
  | _ => false

def isNumeric : Value → Bool
  | .array _ _ | .scalar _ _ => true
  | _ => false

def elementwise? : BinaryOp → Option BinaryUfunc
  | .add => some .add
  | .sub => some .subtract
  | .mult => some .multiply
  | .div => some .divide
  | _ => none

def softened (a b : Value) : Run Value := do
  match a, b with
  | .fraction q, .scalar .float64 _ | .fraction q, .scalar .complex128 _ =>
    return .num (← Run.ofExcept (Numeric.fractionFloat q))
  | a, _ => return a

def arrayBinary (op : BinaryOp) (a b : Value) : Run Value := do
  if op = .matMult then
    if a.isDense || b.isDense then matmul a b else Run.fail .type
  else
    match op, a, b with
    | .mult, .scalar _ _, b => if b.isSequence then repeatBy b a else elementwise op a b
    | .mult, a, .scalar _ _ => if a.isSequence then repeatBy a b else elementwise op a b
    | op, a, b => elementwise op a b
where
  /-- A sequence times a single number is repeated, never multiplied. -/
  repeatBy (items count : Value) : Run Value :=
    match count.times? with
    | some n => repeated n items
    | none => Run.fail .type
  elementwise (op : BinaryOp) (a b : Value) : Run Value := do
    match elementwise? op with
    | some f => binaryUfunc f (← softened a b) b
    | none => Run.fail .type

def denseBinary (op : BinaryOp) (a b : Value) : Run Value :=
  if a.isNumeric || b.isNumeric then arrayBinary op a b else plainBinary op a b

end Value
end Rebind
