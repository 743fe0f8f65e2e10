import Rebind.Program.Eval
/-!
Whole programs: the names they start with, running their text, and asking for what they have made.
-/
namespace Rebind

open Syntax Run

namespace Program

def nesting : Nat := 10000

def commonNames : Bindings :=
  let functions := ["abs", "round", "int", "float", "bool", "max", "min", "square", "add", "half", "step",
    "clamp", "positive", "ident", "seven", "fail"]
  let errors : List (String × ErrorKind) := [("TypeError", .type), ("ValueError", .value),
    ("OverflowError", .overflow), ("ZeroDivisionError", .zeroDivision), ("ArithmeticError", .arithmetic),
    ("NameError", .name), ("UnboundLocalError", .unboundLocal), ("AttributeError", .attribute),
    ("IndexError", .index), ("KeyError", .key), ("LookupError", .lookup), ("AssertionError", .assertion),
    ("NotImplementedError", .notImplemented), ("RuntimeError", .runtime), ("ImportError", .importing),
    ("SyntaxError", .grammar), ("Exception", .general)]
  (functions.filterMap fun name => (Builtin.ofName? name).map fun f => (name, .builtin f)) ++
    errors.map (fun (name, kind) => (name, .errorType kind)) ++ [("__debug__", .bool true)] ++
    [("math", .module .math), ("np", .module .arrays), ("tick", .builtin .tick)]

def replacedNames : Bindings := (Update.libraryName, .module .helpers) :: commonNames

/-- The names for modules with decorated functions; one marker has a policy of its own. -/
def moduleNames (policy : Policy) : Bindings :=
  [("bb", .marker .standard), ("bangbang", .marker .standard), ("mi", .module .library),
    ("pbb", .marker policy), ("rewrite_function", .builtin .lowerFunction),
    ("wrap_result", .builtin .wrapResult)] ++ commonNames

def runBody (body : List Stmt) : Run Unit := do
  if !moduleFits body then throw .unreadable
  body.forM fun s => discard (exec nesting none s)

def runStatement (s : Stmt) : Run Unit := runBody [s]

def runText (text : String) : Run Unit := do
  match readModule text with
  | .error _ => throw .unreadable
  | .ok body => runBody body

def callValue : Caller := call nesting

def resolve (path : String) : Run Value := do
  match path.splitOn "." with
  | [] => fail .attribute
  | name :: rest =>
    match ← tryCatch (loadGlobal name) fun _ => fail .key with
    | .errorType _ => fail .key
    | start => rest.foldlM Value.getAttr start

/-- What is known about a function that was given new code. -/
structure Description where
  source : String
  function : Function

def behind : (fuel : Nat) → Value → Run Function
  | 0, _ => fail .value
  | fuel + 1, v => do
    match v with
    | .function id | .method _ id =>
      match ← functionContent? id with
      | some f => if f.codeName == f.name then return f else behind fuel (← v.getAttr Function.wrappedAttr)
      | none => fail .attribute
    | _ => fail .attribute

/-- Describes a function; one that only passes on results is described by the one behind it. -/
def describe (v : Value) : Run Description := do
  match ← loweredSource v with
  | .str source =>
    let f ← behind ((← get).objects.size + 1) v
    if f.attrs.any (·.1 == Function.wrappedAttr) then return ⟨source.text, f⟩ else fail .attribute
  | _ => fail .type

end Program
end Rebind
