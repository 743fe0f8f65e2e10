import Rebind.Value.Basic
/-!
The names under which the types of values are shown.
-/
namespace Rebind

namespace Builtin

def typeName : Builtin → String
  | .int | .float | .bool => "type"
  | .abs | .round | .max | .min | .mathSqrt | .mathFloor | .mathFabs => "builtin_function_or_method"
  | .unary _ | .binary _ => "ufunc"
  | .entry _ => "OperationPair"
  | .dispatch _ => "method"
  | _ => "function"

end Builtin

namespace Value

def typeName : Value → String
  | .null => "NoneType"
  | .ellipsis => "ellipsis"
  | .num (.bool _) => "bool"
  | .num (.int _) => "int"
  | .num (.float _) => "float"
  | .num (.complex _ _) => "complex"
  | .decimal _ => "Decimal"
  | .fraction _ => "Fraction"
  | .str _ => "str"
  | .bytes _ => "bytes"
  | .tuple _ => "tuple"
  | .scalar d _ => d.name
  | .array _ _ => "ndarray"
  | .box _ _ _ => "Box"
  | .sparse _ => "sparse"
  | .list _ => "list"
  | .bytearray _ => "bytearray"
  | .record _ => "object"
  | .memoryview _ _ _ => "memoryview"
  | .wrapper _ _ _ => "Wrapper"
  | .capability _ => "Capability"
  | .builtin f => f.typeName
  | .module .table => "dict"
  | .module _ => "module"
  | .function _ => "function"
  | .method _ _ => "method"
  | .classType _ | .errorType _ => "type"
  | .marker _ => "BangBang"
  | .policy _ => "RewritePolicy"
  | .slice _ _ _ => "slice"
  | .pending type => type
  | .held _ v => v.typeName

end Value
end Rebind
