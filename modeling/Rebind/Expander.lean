import Rebind.Policy
import Rebind.Syntax.Names
import Rebind.Syntax.ReadStmt
/-!
Ready-made expanders: other names for a call, calls inside calls, counting down arguments, and
templates with numbered places.
-/
namespace Rebind.Expander

open Syntax

def callStatement (call func : Expr) (args : List Expr) (keywords : List Keyword) : Expansion :=
  .statement (.expr ⟨call.lines.first, 0, call.lines.last, 0⟩ (.call call.lines func args keywords))

def rename (name : String) (keepKeywords : Bool) : Expander
  | .call l f args keywords =>
    callStatement (.call l f args keywords) (.name l name) args (if keepKeywords then keywords else [])
  | _ => .notTree

def identity : Expander
  | .call l f args keywords => callStatement (.call l f args keywords) f args keywords
  | _ => .notTree

def wrap : Expander
  | .call l f args keywords =>
    callStatement (.call l f args keywords) f [.call l f args keywords] []
  | _ => .notTree

def countdown (name : String) (least : Nat) : Expander
  | .call l f args keywords =>
    let call := .call l f args keywords
    if args.length > least then callStatement call f args.tail []
    else callStatement call (.name l name) args []
  | _ => .notTree

def places : List String := ["_1", "_2", "_3", "_4", "_5", "_6", "_7", "_8", "_9"]

/-- A name that is one of the places stands for its argument. What takes the place of a bound name is
no longer bound. -/
def fill (args : List Expr) (bound : Bool) (lines : Lines) (name : String) : Expr :=
  match (places.zip args).lookup name with
  | none => .name lines name
  | some arg => if bound then .filled arg else arg

def argsOf : Expr → List Expr
  | .call _ _ args _ => args
  | _ => []

def statementTemplate (template : Stmt) : Expander := fun call =>
  .statement (template.mapNames (fill (argsOf call)))

def expressionTemplate (template : Expr) : Expander := fun call =>
  .expression (template.mapNames (fill (argsOf call)) false)

/-- The first statement of a text, with its places filled. The text is read when a call is expanded. -/
def statementText (text : String) : Expander :=
  match readModule text with
  | .ok (template :: _) => statementTemplate template
  | .ok [] => fun _ => .failed (.ordinary .index)
  | .error _ => fun _ => .failed .unreadable

def expressionText (text : String) : Expander :=
  match readExpressionText text with
  | .ok template => expressionTemplate template
  | .error _ => fun _ => .failed .unreadable

def nothing : Expander := fun _ => .notTree

def failing : Expander := fun _ => .failed .expanderFailed

end Rebind.Expander
