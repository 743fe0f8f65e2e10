import Rebind.Fault
import Rebind.Syntax.Tree
import Rebind.Text.Identifier
/-!
Policies: the names that mark a block, whether products may accumulate, how deep blocks and expansions
may nest, and the expanders that stand behind further call statements.
-/
namespace Rebind

open Syntax

/-- What an expander makes of a call. -/
inductive Expansion where
  | statement (s : Stmt)
  | expression (e : Expr)
  | notTree
  | failed (fault : Fault)

abbrev Expander := Expr → Expansion

structure Policy where
  blockNames : List String
  accumulate : Bool
  maxDepth : Nat
  expanders : List (String × Expander)

namespace Policy

def standard : Policy := ⟨["bb", "bangbang"], true, 32, []⟩

instance : Inhabited Policy := ⟨standard⟩

def expander? (policy : Policy) (name : String) : Option Expander := policy.expanders.lookup name

def expanderNames (policy : Policy) : List String :=
  ((policy.expanders.map (·.1)).eraseDups).mergeSort fun a b => a ≤ b

def isMarker (policy : Policy) : Expr → Bool
  | .name _ id => policy.blockNames.contains id
  | .attribute _ _ attr => policy.blockNames.contains attr
  | _ => false

def isBlock (policy : Policy) : Stmt → Bool
  | .withBlock _ false [⟨context, none⟩] _ => policy.isMarker context
  | _ => false

end Policy

/-! ### Policies from unchecked settings -/

inductive PolicyError where
  | blockNamesNotTuple
  | blockName (given : Plain)
  | depthNotInt
  | depthTooSmall
  | expanderName (given : Plain)
  | expanderNotCallable (name : String)
  /-- A setting that does not exist. -/
  | unknownSetting
  /-- A setting that is neither the same as another one nor different from it. -/
  | ambiguous

namespace PolicyError

def message? : PolicyError → Option String
  | blockNamesNotTuple => some "block_names must be a non-empty tuple of names"
  | blockName given => some ("block name must be an identifier, got " ++ given.render)
  | depthNotInt => some "max_expansion_depth must be an int"
  | depthTooSmall => some "max_expansion_depth must be at least 1"
  | expanderName given => some ("macro name must be an identifier, got " ++ given.render)
  | expanderNotCallable name => some ("macro " ++ Text.quoted name ++ " expander must be callable")
  | unknownSetting | ambiguous => none

def isTypeError : PolicyError → Bool
  | blockNamesNotTuple | depthNotInt | expanderNotCallable _ | unknownSetting => true
  | _ => false

end PolicyError

/-- Settings as they are given; an expander that is `none` cannot be called. -/
structure Settings where
  blockNames : Plain := .tuple [.str "bb", .str "bangbang"]
  accumulate : Plain := .bool true
  maxDepth : Plain := .int 32
  expanders : List (Plain × Option Expander) := []

namespace Settings

def checkBlockName : Plain → Except PolicyError String
  | .str s => if Text.isIdentifier s then .ok s else .error (.blockName (.str s))
  | given => .error (.blockName given)

def checkBlockNames : Plain → Except PolicyError (List String)
  | .tuple (name :: rest) => (name :: rest).mapM checkBlockName
  | _ => .error .blockNamesNotTuple

def checkDepth : Plain → Except PolicyError Nat
  | .int n => if n < 1 then .error .depthTooSmall else .ok n.toNat
  | _ => .error .depthNotInt

def checkExpander : Plain × Option Expander → Except PolicyError (String × Expander)
  | (.str name, expander) =>
    if !Text.isIdentifier name then .error (.expanderName (.str name))
    else
      match expander with
      | some expander => .ok (name, expander)
      | none => .error (.expanderNotCallable name)
  | (given, _) => .error (.expanderName given)

def check (s : Settings) : Except PolicyError Policy := do
  let blockNames ← checkBlockNames s.blockNames
  let maxDepth ← checkDepth s.maxDepth
  let expanders ← s.expanders.mapM checkExpander
  return ⟨blockNames, s.accumulate.truthy, maxDepth, expanders.reverse⟩

/-- The settings with further expanders, where a later one takes the place of an earlier one. -/
def extend (s : Settings) (more : List (Plain × Option Expander)) : Option Settings :=
  (Plain.keyed (s.expanders ++ more)).map fun expanders => { s with expanders := expanders }

def isStandard (s : Settings) : Except PolicyError Bool :=
  if !namesAreStandard s.blockNames then .ok false
  else if s.accumulate.isAmbiguous then .error .ambiguous
  else .ok (s.accumulate.isOne && depthIsStandard s.maxDepth && s.expanders.isEmpty)
where
  namesAreStandard : Plain → Bool
    | .tuple [.str a, .str b] => a == "bb" && b == "bangbang"
    | _ => false
  depthIsStandard : Plain → Bool
    | .int n => n == 32
    | _ => false

end Settings
end Rebind
