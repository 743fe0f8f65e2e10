import Rebind.Kernel.Apply
import Rebind.Named.Convert
/-!
The functions that programs find under a name: how their arguments are bound and what they do.
-/
namespace Rebind

open Number Strided

namespace Builtin

/-- Parameters of a function: names with defaults, of which the first ones may be positional only. -/
structure Signature where
  params : List (String × Option Value)
  positionalOnly : Nat := 0

def required (names : List String) : List (String × Option Value) := names.map fun name => (name, none)

def bindParam (signature : Signature) (args : List Value) (named : List (String × Value)) (place : Nat)
    (param : String × Option Value) : Run Value := do
  let byName := if place < signature.positionalOnly then none else named.lookup param.1
  match args[place]?, byName, param.2 with
  | some _, some _, _ => Run.fail .type
  | some v, none, _ => return v
  | none, some v, _ => return v
  | none, none, some v => return v
  | none, none, none => Run.fail .type

/-- Matches arguments with parameters; whatever is left over or missing is an error. -/
def bind (signature : Signature) (args : List Value) (named : List (String × Value)) : Run (List Value) := do
  if args.length > signature.params.length then Run.fail .type
  let names := (signature.params.drop signature.positionalOnly).map (·.1)
  if named.any fun (name, _) => !names.contains name then Run.fail .type
  signature.params.zipIdx.mapM fun (param, place) => bindParam signature args named place param

def signature? : Builtin → Option Signature
  | .abs => some ⟨required ["x"], 1⟩
  | .round => some { params := [("number", none), ("ndigits", some .null)] }
  | .float => some ⟨[("x", some (.float 0.0))], 1⟩
  | .bool => some ⟨[("x", some (.bool false))], 1⟩
  | .square | .half | .step | .positive | .ident | .fail => some { params := required ["v"] }
  | .add => some { params := required ["a", "b"] }
  | .clamp => some { params := [("v", none), ("lo", some (.int 0)), ("hi", some (.int 1))] }
  | .seven | .tick => some { params := [] }
  | .mathSqrt | .mathFloor | .mathFabs => some ⟨required ["x"], 1⟩
  | .unary _ => some ⟨[("x", none), ("out", some .null)], 1⟩
  | .binary _ => some ⟨[("x1", none), ("x2", none), ("out", some .null)], 2⟩
  | .vec | .copyOf | .zeroOf | .zeroValue | .similarOf | .isArray | .supportsIndexedAssignment
  | .ensureExtension => some { params := required ["value"] }
  | .setindexTrait => some ⟨required ["value"], 1⟩
  | .restructure => some { params := required ["reference", "flat"] }
  | .unflattenInto => some { params := required ["target", "flat"] }
  | .sharesMemory => some { params := required ["lhs", "rhs"] }
  | .arrayNumel => some { params := required ["array"] }
  | .loadExtension => some { params := required ["package_name"] }
  | .matmulInto =>
    some ⟨required ["c", "a", "b"] ++ [("alpha", some (.int 1)), ("beta", some (.int 0))], 1⟩
  | .axpyInto => some { params := required ["alpha", "x", "y"] ++ [("beta", some (.int 1))] }
  | .scaledAddInto => some ⟨required ["y", "alpha", "x"] ++ [("beta", some (.int 1))], 1⟩
  | .lookup => some { params := required ["name"] }
  | _ => none

def nextTick : Run Value := do
  modify fun memory => { memory with ticks := memory.ticks + 1 }
  return .int (← get).ticks

/-- Whether `a < b` counts as true. -/
def isLess (a b : Value) : Run Bool := do Value.truth (← Value.compare .less a b)

/-- Whether `a > b` counts as true. -/
def isGreater (a b : Value) : Run Bool := do Value.truth (← Value.compare .greater a b)

/-- The first of the values that no other one beats, each with the value by which it is judged. -/
def best (beats : Value → Value → Run Bool) : List (Value × Value) → Run Value
  | [] => Run.fail .value
  | first :: rest => do
    let found ← rest.foldlM (fun found v => do if ← beats v.2 found.2 then return v else return found) first
    return found.1

/-- The best of several arguments, or of the items of a single one. A function may say by what they are
judged, and another value may stand in for items that are missing. -/
def bestOf (caller : Caller) (beats : Value → Value → Run Bool) (args : List Value)
    (named : List (String × Value)) : Run Value := do
  if named.any fun (name, _) => name != "key" && name != "default" then Run.fail .type
  let judged (v : Value) : Run (Value × Value) := do
    match named.lookup "key" with
    | none | some .null => return (v, v)
    | some key => return (v, ← caller key [v] [])
  match args, named.lookup "default" with
  | [], _ => Run.fail .type
  | [single], otherwise =>
    match ← Value.iterate single, otherwise with
    | [], some v => return v
    | items, _ => do best beats (← items.mapM judged)
  | args, none => do best beats (← args.mapM judged)
  | _, some _ => Run.fail .type

def integer (args : List Value) (named : List (String × Value)) : Run Value := do
  match args, named with
  | [], [] => return .int 0
  | [v], [] => Value.toInt v
  | [v, base], [] | [v], [("base", base)] => Value.toIntOfBase v base
  | _, _ => Run.fail .type

def intoOr (out : Value) (fresh : Run Value) (write : View → Run Unit) : Run Value := do
  match out with
  | .null => fresh
  | .tuple [.array id view] | .array id view => do
    write view
    return .array id view
  | _ => Run.fail .type

def apply (f : Builtin) (args : List Value) : Run Value := do
  match f, args with
  | .abs, [v] => Value.absolute v
  | .round, [v, places] => Value.round v places
  | .float, [v] => Value.toFloat v
  | .bool, [v] => return .bool (← Value.truth v)
  | .square, [v] => Value.binary .mult v v
  | .half, [v] => Value.binary .div v (.int 2)
  | .step, [v] => if ← isLess v (.int 0) then return .int 0 else return v
  | .positive, [v] => Value.compare .greater v (.int 0)
  | .ident, [v] => return v
  | .fail, [_] => throw .failCalled
  | .add, [a, b] => Value.binary .add a b
  | .clamp, [v, lo, hi] =>
    if ← isLess v lo then return lo
    else if ← isGreater v hi then return hi
    else return v
  | .seven, [] => return .int 7
  | .tick, [] => nextTick
  | .mathSqrt, [v] => Value.squareRoot v
  | .mathFloor, [v] => Value.floor v
  | .mathFabs, [v] => Value.magnitude v
  | .unary f, [v, out] =>
    intoOr out (Value.applyUnary f v) fun view => Value.unaryUfuncInto f v view
  | .binary f, [a, b, out] =>
    intoOr out (Value.applyBinary f a b) fun view => Value.binaryUfuncInto f a b view
  | .vec, [v] => Value.vec v
  | .restructure, [reference, flat] => Value.restructure reference flat
  | .unflattenInto, [target, flat] => Value.unflattenInto target flat
  | .copyOf, [v] => Value.copyOf v
  | .zeroOf, [v] => Value.zeroOf v
  | .zeroValue, [v] => Value.zeroValue v
  | .similarOf, [v] => Value.similarOf v
  | .sharesMemory, [a, b] => return .bool (Value.sharesMemory a b)
  | .arrayNumel, [v] => Value.numel v
  | .isArray, [v] => return .bool v.isArray
  | .setindexTrait, [v] => return .capability (← Value.capabilityOf v)
  | .supportsIndexedAssignment, [v] => return .bool v.supportsIndexedAssignment
  | .ensureExtension, [v] => return .bool v.hasExtension
  | .loadExtension, [v] => v.extensionOf
  | .matmulInto, [c, a, b, alpha, beta] => Value.matmulInto c a b alpha beta
  | .axpyInto, [alpha, x, y, beta] => Value.scaledAddInto y alpha x beta
  | .scaledAddInto, [y, alpha, x, beta] => Value.scaledAddInto y alpha x beta
  | .lookup, [.str name] =>
    return ((Update.TableOp.ofName? name.text).map fun op => Value.builtin (.entry op)).getD .null
  | .lookup, [_] => return .null
  | _, _ => Run.fail .type

/-- Calls a named function on its arguments as they are given; `caller` calls the functions among them. -/
def callOn (caller : Caller) (f : Builtin) (args : List Value) (named : List (String × Value)) :
    Run Value := do
  match f, args with
  | .max, args => bestOf caller isGreater args named
  | .min, args => bestOf caller isLess args named
  | .int, args => integer args named
  | .broadcastCall, function :: args =>
    if (args ++ named.map (·.2)).any fun v => v.bare.isArray then
      Value.broadcastCall caller function.bare (args.map Value.bare) (named.map fun (name, v) => (name, v.bare))
    else caller function.bare args named
  | .namespace_, args => if named.isEmpty then return .str (← Value.libraryOf args) else Run.fail .type
  | .dispatch op, capability :: target :: operands =>
    if named.isEmpty then op.dispatch capability target operands else Run.fail .type
  | f, args =>
    match f.signature? with
    | some signature => apply f (← bind signature args named)
    | none => Run.fail .type

def tellsApart : Builtin → Bool
  | .sharesMemory | .unflattenInto | .broadcastCall => true
  | _ => false

def passesOn : Builtin → Bool
  | .float | .int | .max | .min | .step | .clamp | .ident | .vec | .restructure | .copyOf | .similarOf
  | .dispatch .copy | .dispatch .copyto => true
  | _ => false

/-- Calls a named function. Few functions ask where a value was made, but some hand on what they are
given. -/
def call (caller : Caller) (f : Builtin) (args : List Value) (named : List (String × Value)) :
    Run Value := do
  if f.tellsApart then callOn caller f args named
  else
    let result ← callOn caller f (args.map Value.bare) (named.map fun (name, v) => (name, v.bare))
    if f.passesOn && result.isMadeAnew then
      return ((args ++ named.map (·.2)).find? fun v => Value.isSame v.bare result).getD result
    else return result

def ofName? : String → Option Builtin
  | "abs" => some .abs
  | "round" => some .round
  | "int" => some .int
  | "float" => some .float
  | "bool" => some .bool
  | "max" => some .max
  | "min" => some .min
  | "square" => some .square
  | "add" => some .add
  | "half" => some .half
  | "step" => some .step
  | "clamp" => some .clamp
  | "positive" => some .positive
  | "ident" => some .ident
  | "seven" => some .seven
  | "fail" => some .fail
  | _ => none

def ofKernel? : String → Option Builtin
  | "vec" => some .vec
  | "restructure" => some .restructure
  | "unflatten_into" => some .unflattenInto
  | "copy_of" => some .copyOf
  | "zero_of" => some .zeroOf
  | "zero_value" => some .zeroValue
  | "similar_of" => some .similarOf
  | "broadcast_call" => some .broadcastCall
  | "shares_memory" => some .sharesMemory
  | "array_numel" => some .arrayNumel
  | "is_array" => some .isArray
  | "setindex_trait" => some .setindexTrait
  | "supports_indexed_assignment" => some .supportsIndexedAssignment
  | "matmul_into" => some .matmulInto
  | "axpy_into" => some .axpyInto
  | "scaled_add_into" => some .scaledAddInto
  | "ensure_extension_for" => some .ensureExtension
  | "load_extension" => some .loadExtension
  | "namespace" => some .namespace_
  | _ => none

def ofModule? : Module → String → Option Builtin
  | .math, "sqrt" => some .mathSqrt
  | .math, "floor" => some .mathFloor
  | .math, "fabs" => some .mathFabs
  | .arrays, "add" => some (.binary .add)
  | .arrays, "subtract" => some (.binary .subtract)
  | .arrays, "multiply" => some (.binary .multiply)
  | .arrays, "maximum" => some (.binary .maximum)
  | .arrays, "negative" => some (.unary .negative)
  | .arrays, "absolute" => some (.unary .absolute)
  | .arrays, "sqrt" => some (.unary .sqrt)
  | _, _ => none

def find? (name : String) : Option Builtin :=
  match name.splitOn "." with
  | ["math", inner] => ofModule? .math inner
  | ["np", inner] => ofModule? .arrays inner
  | [name] => ofName? name
  | _ => none

end Builtin
end Rebind
