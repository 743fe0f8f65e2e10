import Rebind.Value.Operator
/-!
Capability: whether a value takes indexed writes. Arrays say so themselves, views ask the value behind
them, sparse matrices go by their storage scheme, and everything else does not.
-/
namespace Rebind

open Number Strided

namespace Value

/-- An array in the wide sense: an array, a number of a fixed type, or a box. -/
def isArray : Value → Bool
  | .array _ _ | .scalar _ _ | .box _ _ _ => true
  | _ => false

/-- Whether indexed writes are expected to work; only arrays are asked. -/
def supportsIndexedAssignment : Value → Bool
  | .array _ view => view.writeable
  | .box _ _ _ => true
  | _ => false

def hasExtension : Value → Bool
  | .sparse _ => true
  | .box _ _ foreign => foreign
  | _ => false

def extensionName? : Value → Option String
  | .str name => if name = "scipy" then some "maybe_inplace.ext.sparse" else none
  | _ => none

/-- Why a value can be no key, if it cannot. What can change is none, nor is anything that holds it. -/
def keyRefusal? : Value → Option ErrorKind
  | .list _ | .bytearray _ | .array _ _ | .sparse _ => some .type
  | .decimal (.nan _ true _) => some .type
  | .tuple items => go items
  | .memoryview _ (.bytes _) _ => none
  | .memoryview _ (.array _ _) _ => some .value
  | .memoryview _ _ readonly => some (if readonly then .type else .value)
  | .held _ v => keyRefusal? v
  | _ => none
where
  go : List Value → Option ErrorKind
    | [] => none
    | item :: rest => (keyRefusal? item).or (go rest)

def extensionOf (v : Value) : Run Value := do
  match keyRefusal? v with
  | some kind => Run.fail kind
  | none => return (v.extensionName?.map fun name => Value.str name).getD .null

def capabilityOf (v : Value) : Run Capability := do
  match v with
  | .sparse id => return if (← Run.sparseContent id).format.isWritable then .canMutate else .cannotMutate
  | .memoryview _ of readonly => if readonly then return .cannotMutate else capabilityOf of
  | .wrapper _ of locked => if locked = some true then return .cannotMutate else capabilityOf of
  | v => return if v.supportsIndexedAssignment then .canMutate else .cannotMutate

/-! ### The library that arrays come from -/

def libraryOf (values : List Value) : Run String := do
  let arrays := values.filter isArray
  if arrays.isEmpty then throw .noArray
  else if arrays.all isBox then return "box"
  else if arrays.any isBox then Run.fail .type
  else return "array_api_compat.numpy"

end Value
end Rebind
