import Rebind.Value.Reshape
/-!
Reports on a set of variables: which of them are one and the same object, and which arrays share memory.
-/
namespace Rebind

abbrev Bindings := List (String × Value)

namespace Bindings

def find? (bindings : Bindings) (name : String) : Option Value := bindings.lookup name

def set (bindings : Bindings) (name : String) (v : Value) : Bindings :=
  if bindings.any (·.1 == name) then bindings.map fun (n, old) => (n, if n == name then v else old)
  else bindings ++ [(name, v)]

def erase (bindings : Bindings) (name : String) : Bindings := bindings.filter (·.1 != name)

def sorted (bindings : Bindings) : Bindings := bindings.mergeSort fun a b => a.1 ≤ b.1

end Bindings

namespace Report

def isTracked : Value → Bool
  | .array _ _ | .list _ | .box _ _ _ | .record _ | .bytearray _ | .memoryview _ _ _ | .sparse _ => true
  | _ => false

/-- All labels with their values: variables by name, each followed by its attributes. -/
def labels (bindings : Bindings) : Run Bindings := do
  let parts ← bindings.sorted.mapM fun (name, v) => do
    match v with
    | .record id =>
      match ← Run.object id with
      | .record _ attrs => return (name, v) :: (Bindings.sorted attrs).map fun (a, w) => (name ++ "." ++ a, w)
      | _ => return [(name, v)]
    | v => return [(name, v)]
  return parts.flatten

def pairs : List α → List (α × α)
  | [] => []
  | a :: rest => rest.map (fun b => (a, b)) ++ pairs rest

def isShared (a b : Value) : Bool :=
  match a, b with
  | .array i v, .array j w => i != j && Value.overlap v w
  | _, _ => false

structure State where
  bindings : Bindings
  same : List (String × String)
  share : List (String × String)

def state (bindings : Bindings) : Run State := do
  let all := (← labels bindings).filter fun label => isTracked label.2
  let select (holds : Value → Value → Bool) : List (String × String) :=
    (pairs all).filterMap fun (a, b) => if holds a.2 b.2 then some (a.1, b.1) else none
  return ⟨bindings.sorted, select Value.isSame, select isShared⟩

structure Result where
  value : Value
  /-- The labels of the result object itself, if it is tracked. -/
  sameAs : Option (List String)
  /-- The labels of other arrays that share memory with it, if it is an array. -/
  sharedWith : Option (List String)

def result (bindings : Bindings) (v : Value) : Run Result := do
  let all ← labels bindings
  let select (holds : Value → Bool) : List String := (all.filter fun label => holds label.2).map (·.1)
  let isArray := match v with
    | .array _ _ => true
    | _ => false
  return ⟨v, if isTracked v then some (select (Value.isSame v)) else none,
    if isArray then some (select (isShared v)) else none⟩

end Report
end Rebind
