import Rebind.Program.Attribute
/-!
Values as they are shown in messages.
-/
namespace Rebind

open Number

def Builtin.shown? (f : Builtin) : Option String :=
  match f with
  | .int | .float | .bool => some ("<class '" ++ f.name ++ "'>")
  | .abs | .round | .max | .min | .mathSqrt | .mathFloor | .mathFabs =>
    some ("<built-in function " ++ f.name ++ ">")
  | .unary _ | .binary _ => some ("<ufunc '" ++ f.name ++ "'>")
  | _ => none

namespace Value

def plainNum : Numeral → Plain
  | .bool b => .bool b
  | .int n => .int n
  | .float x => .float x
  | .complex re im => .complex re im

def plain? : (depth : Nat) → Value → Run (Option Plain)
  | 0, _ => return none
  | depth + 1, v => do
    let all (items : List Value) : Run (Option (List Plain)) := do
      return (← items.mapM (plain? depth)).mapM id
    match v with
    | .held _ v => plain? depth v
    | .null => return some .none
    | .ellipsis => return some .ellipsis
    | .num x => return some (plainNum x)
    | .decimal d => return some (.decimal d)
    | .fraction q => return some (.fraction q)
    | .str s => return some (.str s.text)
    | .bytes b => return some (.bytes b)
    | .bytearray id => return some (.byteArray (← Run.byteContent id))
    | .scalar d x => return some (.machine d.name (plainNum x))
    | .array _ view =>
      let cells ← (← Run.read view).mapM fun
        | .num x => return some (plainNum x)
        | .object v => plain? depth v
      return (cells.mapM id).map fun cells => .array view.dtype view.shape cells view.writeable
    | .builtin f => return f.shown?.map fun text => .named text f.typeName
    | .tuple items => return (← all items).map Plain.tuple
    | .list id => return (← all (← Run.listItems id)).map Plain.list
    | _ => return none

def shown (v : Value) : Run String := do
  match ← plain? nestingLimit v with
  | some p => return p.render
  | none =>
    match v with
    | .marker _ => return "bb"
    | .capability .canMutate => return "<Capability.CAN_MUTATE: 'can_mutate'>"
    | .capability .cannotMutate => return "<Capability.CANNOT_MUTATE: 'cannot_mutate'>"
    | v => return "<" ++ (← typeNameOf v) ++ ">"

def shownByName (v : Value) : Run String := do
  match v with
  | .builtin (.entry _) => shown v
  | .builtin f => return Text.quoted f.name
  | v =>
    let qualname ← tryCatch (some <$> getAttr v "__qualname__") fun _ => return none
    match qualname with
    | some (.str name) => return name.quoted
    | _ => shown v

end Value
end Rebind
