import Rebind.Report
/-!
Variables of a running program. A frame is the module itself or a scope inside it. A function looks up the
names it binds in its own scope, and all others in the functions around it and then in the module.
-/
namespace Rebind

/-- Where a piece of a program runs: in the module, or in a scope. -/
abbrev Frame := Option Nat

namespace Run

def scope (id : Nat) : Run Scope := do
  match ← object id with
  | .scope content => return content
  | _ => return ⟨.function, [], [], [], none, "", ""⟩

def ownerOf (frame : Frame) : Run String := do
  match frame with
  | none => return ""
  | some id => return (← scope id).owner

def knownIn (frame : Frame) (name : String) : Run String := do
  return Syntax.privateName (← ownerOf frame) name

/-- A variable of the module, or a name that is there from the start. -/
def loadGlobal (name : String) : Run Value := do
  let memory ← get
  match memory.globals.lookup name with
  | some v => return v
  | none =>
    match memory.prelude.lookup name with
    | some v => return v
    | none => fail .name

def storeGlobal (name : String) (v : Value) : Run Unit :=
  modify fun memory => { memory with globals := Bindings.set memory.globals name v }

def shows (scope : Scope) (name : String) : Bool :=
  match scope.kind with
  | .function => scope.names.contains name
  | .classBody => name == "__class__" && scope.path != ""

/-- The nearest scope that shows a name to the functions inside it. A function that takes the name from
the module hides all scopes around it. -/
def enclosing (name : String) : (fuel : Nat) → Frame → Run (Option Nat)
  | 0, _ => return none
  | _, none => return none
  | fuel + 1, some id => do
    let s ← scope id
    if shows s name then return some id
    else if s.kind = .function && s.globals.contains name then return none
    else enclosing name fuel s.outer

def enclosingOf (name : String) (frame : Frame) : Run (Option Nat) := do
  enclosing name (← get).objects.size frame

def loadOuter (name : String) (frame : Frame) : Run Value := do
  match ← enclosingOf name frame with
  | none => loadGlobal name
  | some id =>
    match (← scope id).vars.lookup name with
    | some v => return v
    | none => fail .name

/-- The value of a name, with the place where it was made. -/
def load (frame : Frame) (name : String) : Run Value := do
  match frame with
  | none => loadGlobal name
  | some id =>
    let s ← scope id
    let name := Syntax.privateName s.owner name
    match s.vars.lookup name with
    | some v => return v
    | none =>
      if s.names.contains name then
        match s.kind with
        | .function => fail .unboundLocal
        | .classBody => loadGlobal name
      else if s.globals.contains name then loadGlobal name
      else loadOuter name s.outer

def modifyScope (id : Nat) (change : Scope → Scope) : Run Unit := do
  let s ← scope id
  Run.store id (.scope (change s))

/-- The place where a name is bound: a scope, or the module. -/
def home (frame : Frame) (name : String) : Run Frame := do
  match frame with
  | none => return none
  | some id =>
    let s ← scope id
    if s.globals.contains name then return none
    else if s.names.contains name then return some id
    else
      match ← enclosingOf name s.outer with
      | some outer => return some outer
      | none => return some id

def assignName (frame : Frame) (name : String) (v : Value) : Run Unit := do
  let name ← knownIn frame name
  let v ← hold v
  match ← home frame name with
  | none => storeGlobal name v
  | some id => modifyScope id fun s => { s with vars := Bindings.set s.vars name v }

def deleteName (frame : Frame) (name : String) : Run Unit := do
  let name ← knownIn frame name
  match ← home frame name with
  | none =>
    if ((← get).globals.lookup name).isNone then fail .name
    modify fun memory => { memory with globals := Bindings.erase memory.globals name }
  | some id =>
    let s ← scope id
    if (s.vars.lookup name).isNone then fail (if s.kind = .function then .unboundLocal else .name)
    modifyScope id fun s => { s with vars := Bindings.erase s.vars name }

/-- The open names of a block that scopes around it bind, in order. -/
def capturedNames (frame : Frame) (names : List String) : Run (List String) := do
  let found ← names.eraseDups.filterM fun name => return (← enclosingOf name frame).isSome
  return found.mergeSort fun a b => a ≤ b

/-- Annotations of variables are evaluated everywhere but in functions. -/
def evaluatesAnnotations (frame : Frame) : Run Bool := do
  match frame with
  | none => return true
  | some id => return (← scope id).kind != .function

def qualified (frame : Frame) (name : String) : Run String := do
  match frame with
  | none => return name
  | some id =>
    let s ← scope id
    if s.globals.contains (Syntax.privateName s.owner name) then return name
    match s.kind with
    | .function => return s.path ++ ".<locals>." ++ name
    | .classBody => return if s.path == "" then name else s.path ++ "." ++ name

end Run
end Rebind
