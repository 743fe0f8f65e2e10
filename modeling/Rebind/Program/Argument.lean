import Rebind.Program.Variable
/-!
Arguments of a call matched with the parameters of a function.
-/
namespace Rebind.Function

open Syntax

def paramName (f : Function) (param : Param) : String := privateName f.owner param.name

/-- The defaults of the positional parameters: the last ones have them. -/
def positionalDefaults (f : Function) : List (Option Value) :=
  let count := f.params.positional.length
  List.replicate (count - f.defaults.length) none ++ f.defaults.map some

def bindPositional (args : List Value) (named : Bindings) (byName : Bool) (place : Nat) (name : String)
    (default_ : Option Value) : Run (String × Value) := do
  match args[place]?, if byName then named.lookup name else none, default_ with
  | some _, some _, _ => Run.fail .type
  | some v, none, _ => return (name, v)
  | none, some v, _ => return (name, v)
  | none, none, some v => return (name, v)
  | none, none, none => Run.fail .type

def bindKeyword (f : Function) (named : Bindings) (name : String) : Run (String × Value) := do
  match named.lookup name, f.keywordDefaults.lookup name with
  | some v, _ => return (name, v)
  | none, some v => return (name, v)
  | none, none => Run.fail .type

def bindArguments (f : Function) (args : List Value) (named : Bindings) : Run Bindings := do
  let positional := f.params.positional
  let hidden := f.params.positionalOnly.length
  if args.length > positional.length && f.params.rest?.isNone then Run.fail .type
  let open_ := (f.params.regular ++ f.params.keywordOnly).map f.paramName
  if f.params.keywordRest?.isNone && named.any fun (name, _) => !open_.contains name then Run.fail .type
  let places := (positional.map f.paramName).zip f.positionalDefaults
  let first ← places.zipIdx.mapM fun ((name, default_), place) =>
    bindPositional args named (hidden ≤ place) place name default_
  let only ← f.params.keywordOnly.mapM fun param => bindKeyword f named (f.paramName param)
  let rest := f.params.rest?.toList.map fun param =>
    (f.paramName param, Value.tuple ((args.drop positional.length).map Value.bare))
  let others := f.params.keywordRest?.toList.map fun param =>
    (f.paramName param, Value.tuple ((named.filter fun (name, _) => !open_.contains name).map (·.2.bare)))
  (first ++ only ++ rest ++ others).mapM fun (name, v) => do return (name, ← Run.hold v)

end Rebind.Function
