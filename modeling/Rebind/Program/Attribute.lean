import Rebind.Named.Call
import Rebind.Program.Variable
import Rebind.Value.TypeName
/-!
Attributes of values.
-/
namespace Rebind

namespace Builtin

def name : Builtin → String
  | .abs => "abs"
  | .round => "round"
  | .int => "int"
  | .float => "float"
  | .bool => "bool"
  | .max => "max"
  | .min => "min"
  | .square => "square"
  | .add => "add"
  | .half => "half"
  | .step => "step"
  | .clamp => "clamp"
  | .positive => "positive"
  | .ident => "ident"
  | .seven => "seven"
  | .fail => "fail"
  | .mathSqrt | .unary .sqrt => "sqrt"
  | .mathFloor => "floor"
  | .mathFabs => "fabs"
  | .unary .negative => "negative"
  | .unary .absolute => "absolute"
  | .binary .add => "add"
  | .binary .subtract => "subtract"
  | .binary .multiply => "multiply"
  | .binary .divide => "divide"
  | .binary .maximum => "maximum"
  | .tick => "tick"
  | .wrapResult => "wrap_result"
  | .lowerFunction => "rewrite_function"
  | .loweredSource => "rewritten_source"
  | .vec => "vec"
  | .restructure => "restructure"
  | .unflattenInto => "unflatten_into"
  | .copyOf => "copy_of"
  | .zeroOf => "zero_of"
  | .zeroValue => "zero_value"
  | .similarOf => "similar_of"
  | .broadcastCall => "broadcast_call"
  | .sharesMemory => "shares_memory"
  | .arrayNumel => "array_numel"
  | .isArray => "is_array"
  | .setindexTrait => "setindex_trait"
  | .supportsIndexedAssignment => "supports_indexed_assignment"
  | .matmulInto => "matmul_into"
  | .axpyInto => "axpy_into"
  | .scaledAddInto => "scaled_add_into"
  | .ensureExtension => "ensure_extension_for"
  | .loadExtension => "load_extension"
  | .namespace_ => "bind_array_namespace"
  | .entry op => op.name
  | .dispatch _ => "OperationPair.dispatch"
  | .lookup => "lookup"

def ofHelper? (name : String) : Option Builtin :=
  if ["vec", "restructure", "unflatten_into", "copy_of", "zero_of", "zero_value", "similar_of",
      "broadcast_call", "setindex_trait", "matmul_into", "axpy_into"].contains name then ofKernel? name
  else none

def ofLibrary? : String → Option Builtin
  | "rewrite_function" => some .lowerFunction
  | "rewritten_source" => some .loweredSource
  | "setindex_trait" => some .setindexTrait
  | "supports_indexed_assignment" => some .supportsIndexedAssignment
  | "axpy_into" => some .axpyInto
  | "matmul_into" => some .matmulInto
  | "lookup" => some .lookup
  | _ => none

end Builtin

namespace Module

def shared? : String → Option Value
  | "CAN_MUTATE" => some (.capability .canMutate)
  | "CANNOT_MUTATE" => some (.capability .cannotMutate)
  | "OPERATION_TABLE" => some (.module .table)
  | _ => none

def attr? : Module → String → Option Value
  | .library, "bb" | .library, "bangbang" => some (.marker .standard)
  | .library, "REWRITE_POLICY" => some (.policy .standard)
  | .library, name => (shared? name).orElse fun _ => (Builtin.ofLibrary? name).map Value.builtin
  | .helpers, name => (shared? name).orElse fun _ => (Builtin.ofHelper? name).map Value.builtin
  | .table, _ => none
  | m, name => (Builtin.ofModule? m name).map Value.builtin

end Module

namespace Function

/-- The attributes that describe a function, and those that it was given. -/
def attr? (f : Function) : String → Option Value
  | "__name__" => some (.str f.name)
  | "__qualname__" => some (.str f.qualname)
  | "__doc__" => some f.doc
  | "__defaults__" => some (if f.defaults.isEmpty then .null else .tuple f.defaults)
  | "__kwdefaults__" => if f.keywordDefaults.isEmpty then some .null else none
  | name => f.attrs.lookup name

/-- Gives a function an attribute. Names must be texts, and defaults a tuple. -/
def setAttr (f : Function) (name : String) (v : Value) : Except Fault Function :=
  match name, v with
  | "__name__", .str s => .ok { f with name := s.text }
  | "__qualname__", .str s => .ok { f with qualname := s.text }
  | "__doc__", v => .ok { f with doc := v }
  | "__defaults__", .null => .ok { f with defaults := [] }
  | "__defaults__", .tuple items => .ok { f with defaults := items }
  | "__kwdefaults__", .null => .ok { f with keywordDefaults := [] }
  | "__name__", _ | "__qualname__", _ | "__defaults__", _ | "__kwdefaults__", _ | "__dict__", _
  | "__code__", _ => .error (.ordinary .type)
  | "__globals__", _ | "__closure__", _ => .error (.ordinary .attribute)
  | name, v => .ok { f with attrs := Bindings.set f.attrs name v }

def loweredAttr : String := "__maybe_inplace_source__"

def wrappedAttr : String := "__wrapped__"

end Function

namespace Run

def functionContent? (id : Nat) : Run (Option Function) := do
  match ← object id with
  | .function content => return some content
  | _ => return none

def classContent? (id : Nat) : Run (Option Class) := do
  match ← object id with
  | .classType content => return some content
  | _ => return none

end Run

namespace Value

def orMissing (found : Option Value) : Run Value :=
  match found with
  | some v => return v
  | none => Run.fail .attribute

/-- An attribute found on a class, as its instance sees it: functions become methods. -/
def boundTo (self : Value) : Value → Value
  | .function id => .method self id
  | v => v

def instanceAttr (id : Nat) (type : Option Nat) (attrs : List (String × Value)) (name : String) :
    Run Value := do
  match attrs.lookup name, type with
  | some v, _ => return v
  | none, some type =>
    match ← Run.classContent? type, name with
    | some _, "__class__" => return .classType type
    | some c, name =>
      match c.attrs.lookup name, name with
      | none, "__doc__" => return .null
      | found, _ => return boundTo (.record id) (← orMissing found)
    | none, _ => Run.fail .attribute
  | none, none => Run.fail .attribute

def getAttr (v : Value) (name : String) : Run Value := do
  match v with
  | .record id =>
    match ← Run.object id with
    | .record type attrs => instanceAttr id type attrs name
    | _ => Run.fail .attribute
  | .module m => orMissing (m.attr? name)
  | .marker rules => if name == "policy" then return .policy rules else Run.fail .attribute
  | .function id =>
    match ← Run.functionContent? id with
    | some f => orMissing (f.attr? name)
    | none => Run.fail .attribute
  | .method self id =>
    match ← Run.functionContent? id, name with
    | some _, "__self__" => return self
    | some _, "__func__" => return .function id
    | some f, name => orMissing (f.attr? name)
    | none, _ => Run.fail .attribute
  | .classType id =>
    match ← Run.classContent? id with
    | some c =>
      match c.attrs.lookup name, name with
      | some v, _ => return v
      | none, "__name__" => return .str c.name
      | none, "__qualname__" => return .str c.qualname
      | none, "__doc__" => return .null
      | none, _ => Run.fail .attribute
    | none => Run.fail .attribute
  | .builtin (.entry op) =>
    match name with
    | "dispatch" => return .builtin (.dispatch op)
    | "name" => return .str op.name
    | "min_operands" => return .int op.minOperands
    | "max_operands" => return (op.maxOperands.map fun (n : Nat) => Value.int n).getD .null
    | _ => Run.fail .attribute
  | .builtin f =>
    match name with
    | "__name__" | "__qualname__" => return .str f.name
    | _ => Run.fail .attribute
  | .policy rules =>
    match name with
    | "block_names" => return .tuple (rules.blockNames.map fun (name : String) => Value.str name)
    | "allow_matmul_accumulate" => return .bool rules.accumulate
    | "max_expansion_depth" => return .int rules.maxDepth
    | _ => Run.fail .attribute
  | .array _ view =>
    match name with
    | "T" => Run.arrayOf { view with layout := view.layout.transpose }
    | "shape" => return .tuple (view.shape.map fun (n : Nat) => Value.int n)
    | "size" => return .int view.size
    | "ndim" => return .int view.shape.length
    | _ => Run.fail .attribute
  | .sparse id =>
    let s ← Run.sparseContent id
    match name with
    | "T" => Sparse.transposed id
    | "shape" => return .tuple (s.shape.map fun (n : Nat) => Value.int n)
    | "ndim" => return .int s.shape.length
    | "format" => return .str s.format.name
    | _ => Run.fail .attribute
  | .box _ view _ =>
    match name with
    | "shape" => return .tuple (view.shape.map fun (n : Nat) => Value.int n)
    | _ => Run.fail .attribute
  | .num x =>
    match name, x with
    | "real", .complex re _ => return .float re
    | "imag", .complex _ im => return .float im
    | "real", .bool b => return .int (Number.Numeral.boolInt b)
    | "real", x => return .num x
    | "imag", .float _ => return .float 0.0
    | "imag", _ => return .int 0
    | _, _ => Run.fail .attribute
  | _ => Run.fail .attribute

def setAttr (target : Value) (name : String) (v : Value) : Run Unit := do
  match target with
  | .record id =>
    match ← Run.object id with
    | .record type attrs => Run.store id (.record type (Bindings.set attrs name v))
    | _ => Run.fail .attribute
  | .classType id =>
    match ← Run.classContent? id with
    | some c => Run.store id (.classType { c with attrs := Bindings.set c.attrs name v })
    | none => Run.fail .attribute
  | .function id =>
    match ← Run.functionContent? id with
    | some f => Run.store id (.function (← Run.ofExcept (f.setAttr name v)))
    | none => Run.fail .attribute
  | _ => Run.fail .attribute

def attr? (v : Value) (name : String) : Run (Option Value) :=
  tryCatch (some <$> getAttr v name) fun _ => return none

def ownAttrs (v : Value) : Run (List (String × Value)) := do
  match v with
  | .function id | .method _ id => return ((← Run.functionContent? id).map Function.attrs).getD []
  | .classType id => return ((← Run.classContent? id).map Class.attrs).getD []
  | .record id =>
    match ← Run.object id with
    | .record _ attrs => return attrs
    | _ => return []
  | _ => return []

/-- The item of a value for a key; the table of operations is asked by name. -/
def lookupItem (v key : Value) : Run Value := do
  match v, key with
  | .module .table, .str name =>
    match Update.TableOp.ofName? name.text with
    | some op => return .builtin (.entry op)
    | none => Run.fail .key
  | .module .table, _ => Run.fail .key
  | v, key => getItem v key

/-- The name of a value's type; instances are named after their class. -/
def typeNameOf (v : Value) : Run String := do
  match v with
  | .record id =>
    match ← Run.object id with
    | .record (some type) _ => return ((← Run.classContent? type).map Class.name).getD v.typeName
    | _ => return v.typeName
  | .sparse id => return (← Run.sparseContent id).typeName
  | v => return v.typeName

end Value

/-- A function that stands for a value takes over its names, its documentation and its attributes. -/
def Function.standingFor (f : Function) (v : Value) : Run Function := do
  let described ← ["__name__", "__qualname__", "__doc__"].foldlM
    (fun (f : Function) name => do
      match ← v.attr? name with
      | some said => Run.ofExcept (f.setAttr name said.bare)
      | none => return f) f
  let attrs := (← v.ownAttrs).foldl (fun attrs (name, w) => Bindings.set attrs name w) described.attrs
  return { described with attrs := Bindings.set attrs Function.wrappedAttr v }

end Rebind
