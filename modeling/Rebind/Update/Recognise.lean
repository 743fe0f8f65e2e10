import Rebind.Policy
import Rebind.Syntax.Names
import Rebind.Syntax.Printer
import Rebind.Syntax.Same
import Rebind.Update.Form
/-!
Recognising update statements. The spellings overlap, so they are tried from the most special to the
most general and the first that fits wins; only the spelling is looked at, nothing is evaluated. A call
statement that no spelling takes may stand for another statement by an expander, within a budget that
expansions share with the nesting of blocks.
-/
namespace Rebind.Update

open Syntax

def isReference : Expr → Bool
  | .name _ _ => true
  | .attribute _ value _ => isReference value
  | _ => false

def callHead? : Expr → Option String
  | .call _ (.name _ id) _ _ => some id
  | _ => none

def isStarred : Expr → Bool
  | .starred _ _ => true
  | _ => false

/-- The arguments of a call that has plain positional ones only. -/
def plainArgs? : Expr → Option (List Expr)
  | .call _ _ args [] => if args.any isStarred then none else some args
  | _ => none

def argsOf? (head : String) (e : Expr) : Option (List Expr) :=
  if callHead? e = some head then plainArgs? e else none

/-- The array whose whole contents `ref[...]` names. -/
def wholeOf? : Expr → Option Expr
  | .subscript _ value (.literal _ .ellipsis) => if isReference value then some value else none
  | _ => none

def isName : Expr → Bool
  | .name _ _ => true
  | _ => false

/-- How a special form can be spelt wrongly. -/
inductive Malformed where
  | productArguments
  | productTarget
  | flattenArguments
  | elementwise
deriving DecidableEq, Repr

namespace Malformed

def form : Malformed → String
  | elementwise => "elementwise"
  | _ => "matmul"

def reason : Malformed → String
  | productArguments => "expected exactly two positional operands"
  | productTarget => "the product must be assigned to a name or attribute"
  | flattenArguments => "vec(...) takes exactly one positional argument"
  | elementwise => "expected `name = elementwise(expression)`"

end Malformed

/-! ### The single spellings -/

def allocation? : Stmt → Option Form
  | .assign _ [target] value =>
    match (callHead? value).bind Allocation.ofHead?, plainArgs? value with
    | some kind, some [source] =>
      if isName target && isName source then some (.allocation kind target source) else none
    | _, _ => none
  | _ => none

def axpy? : Stmt → Option Form
  | .expr _ value =>
    match argsOf? "axpy" value, argsOf? "axpby" value with
    | some [alpha, x, y], _ => if isReference y then some (.axpy alpha x none y) else none
    | _, some [alpha, x, beta, y] => if isReference y then some (.axpy alpha x (some beta) y) else none
    | _, _ => none
  | _ => none

def operationCall? : Stmt → Option Form
  | .expr _ value =>
    match (callHead? value).bind TableOp.ofName?, plainArgs? value with
    | some op, some (target :: operands) =>
      if isReference target && op.accepts operands.length then some (.operation op target operands)
      else none
    | _, _ => none
  | _ => none

/-- The factors of `l @ r` or `matmul(l, r)`. -/
def factors? (value : Expr) : Except Malformed (Option (Expr × Expr)) :=
  match value with
  | .binary _ .matMult left right => .ok (some (left, right))
  | _ =>
    if callHead? value = some "matmul" then
      match plainArgs? value with
      | some [left, right] => .ok (some (left, right))
      | _ => .error .productArguments
    else .ok none

/-- A factor, and whether it is to be flattened. -/
def factor (operand : Expr) : Except Malformed (Expr × Bool) :=
  if callHead? operand = some "vec" then
    match plainArgs? operand with
    | some [inner] => .ok (inner, true)
    | _ => .error .flattenArguments
  else .ok (operand, false)

def product (target : Expr) (factors : Expr × Expr) (accumulate : Bool) : Except Malformed Form :=
  if isReference target then do
    let (left, flatLeft) ← factor factors.1
    let (right, flatRight) ← factor factors.2
    return .product target left right (Flattened.ofSides flatLeft flatRight) accumulate
  else .error .productTarget

def assignedOperation? (target value : Expr) : Option Form :=
  match (callHead? value).bind TableOp.ofName?, plainArgs? value with
  | some op, some operands =>
    if isReference target && op.accepts operands.length then some (.operation op target operands)
    else none
  | _, _ => none

def assignment? : Stmt → Except Malformed (Option Form)
  | .assign _ [target] value => do
    match ← factors? value with
    | some factors =>
      if (wholeOf? target).isSome then return none
      else return some (← product target factors false)
    | none => return assignedOperation? target value
  | _ => .ok none

def elementwise? : Stmt → Except Malformed (Option Form)
  | .assign _ [target] value =>
    if callHead? value = some "elementwise" then
      match plainArgs? value with
      | some [inner] =>
        if isReference target then .ok (some (.elementwise target inner)) else .error .elementwise
      | _ => .error .elementwise
    else .ok none
  | _ => .ok none

def accumulation? (accumulate : Bool) : Stmt → Except Malformed (Option Form)
  | .augmented _ target .add value =>
    if accumulate && (wholeOf? target).isNone then do
      match ← factors? value with
      | some factors => return some (← product target factors true)
      | none => return none
    else .ok none
  | _ => .ok none

def broadcast? : Stmt → Option Form
  | .assign _ [target] value => (wholeOf? target).map fun whole => .broadcast none whole value
  | .augmented _ target op value =>
    match InPlaceOp.ofBinary? op, wholeOf? target with
    | some op, some whole => some (.broadcast (some op) whole value)
    | _, _ => none
  | _ => none

/-- The forms that no expander can take over. -/
def special? (accumulate : Bool) (s : Stmt) : Except Malformed (Option Form) :=
  match allocation? s with
  | some form => .ok (some form)
  | none =>
    match axpy? s with
    | some form => .ok (some form)
    | none =>
      match operationCall? s with
      | some form => .ok (some form)
      | none => do
        match ← assignment? s with
        | some form => return some form
        | none =>
          match ← elementwise? s with
          | some form => return some form
          | none => accumulation? accumulate s

/-- What is left when no special form and no expander takes the statement. -/
def general (s : Stmt) : Form := (broadcast? s).getD (.unsupported s)

/-! ### Expansion -/

def expansionOf? (policy : Policy) : Stmt → Option (String × Expr × Expander)
  | .expr _ value => do
    let name ← callHead? value
    let expander ← policy.expander? name
    return (name, value, expander)
  | _ => none

def asStatement (span : Span) : Expansion → Except (Option Fault) Stmt
  | .statement s => .ok (s.moved span)
  | .expression e => .ok (.expr span e)
  | .notTree => .error none
  | .failed fault => .error (some fault)

def sameStatement : Stmt → Stmt → Bool
  | .expr _ a, .expr _ b => a.same b
  | _, _ => false

/-- One expansion of `s`, at a depth that is within the limit. -/
def expandOnce (s : Stmt) (name : String) (call : Expr) (expander : Expander) (depth : Int) :
    Except Fault Stmt :=
  match asStatement s.span (expander call) with
  | .error none => .error (.expansionNotTree name)
  | .error (some fault) => .error fault
  | .ok expanded =>
    if sameStatement expanded s then
      .error (.diagnostic (.expansionFailure s.text depth "expansion reproduced its input"))
    else .ok expanded

def tooDeep (policy : Policy) (statement : String) (depth : Int) : Fault :=
  .diagnostic (.expansionFailure statement depth
    ("exceeded max_expansion_depth=" ++ toString policy.maxDepth))

/-- What comes of a statement, and the expansions on the way with their depths. -/
structure Recognition where
  expanded : List (String × Int)
  outcome : Except Fault Form

def recogniseWithin (policy : Policy) : (budget : Nat) → (depth : Int) → Stmt → Recognition
  | budget, depth, s =>
    match special? policy.accumulate s with
    | .error wrong => ⟨[], .error (.diagnostic (.malformedForm wrong.form s.text wrong.reason))⟩
    | .ok (some form) => ⟨[], .ok form⟩
    | .ok none =>
      match expansionOf? policy s with
      | none => ⟨[], .ok (general s)⟩
      | some (name, call, expander) =>
        match budget with
        | 0 => ⟨[], .error (tooDeep policy s.text depth)⟩
        | budget + 1 =>
          match expandOnce s name call expander depth with
          | .error fault => ⟨[], .error fault⟩
          | .ok expanded =>
            let rest := recogniseWithin policy budget (depth + 1) expanded
            ⟨(name, depth) :: rest.expanded, rest.outcome⟩

def budget (policy : Policy) (depth : Int) : Nat := (policy.maxDepth - depth).toNat

def recognise (policy : Policy) (depth : Int) (s : Stmt) : Recognition :=
  recogniseWithin policy (budget policy depth) depth s

end Rebind.Update
