import Rebind.Syntax.ReadStmt
import Rebind.Update.Recognise
import Rebind.Update.Replacement
/-!
Blocks: every statement of a block is replaced, and a block inside a block is laid flat. The numbers of
the temporaries and the record of what was done go on through the whole block, also past a failure.
-/
namespace Rebind.Update

open Syntax

/-- What was done, in order. -/
inductive Event where
  | expanded (name : String) (depth : Int)
  | replaced (statement : String) (shape : Shape)
  | finished (blocks : Nat) (function : String)
deriving DecidableEq, Repr

def Event.text : Event → String
  | expanded name depth => "expanded macro " ++ name ++ " at depth " ++ toString depth
  | replaced statement shape => "rewrote `" ++ statement ++ "` as " ++ shape.text
  | finished blocks function => "rewrote " ++ toString blocks ++ " block(s) in " ++ function

/-- How many temporaries are in use, and what was done. -/
structure Progress where
  counter : Nat := 0
  log : List Event := []

def Progress.temporary (progress : Progress) : String × Progress :=
  (temporaryName (progress.counter + 1), { progress with counter := progress.counter + 1 })

abbrev Step (α : Type) := Except Fault α × Progress

def lowerStatement (policy : Policy) (depth : Int) (s : Stmt) (progress : Progress) : Step Stmt :=
  let found := recognise policy depth s
  let seen := progress.log ++ found.expanded.map fun (name, depth) => .expanded name depth
  match found.outcome with
  | .error fault => (.error fault, { progress with log := seen })
  | .ok form =>
    let number := if form.needsTemporary then progress.counter + 1 else progress.counter
    match form.replacement? s.span number with
    | some replacement =>
      (.ok replacement, ⟨number, seen ++ [.replaced s.text form.shape]⟩)
    | none =>
      let rejected :=
        match form with
        | .unsupported statement => statement
        | _ => s
      (.error (.diagnostic (.unsupportedShape rejected.text)), { progress with log := seen })

def headLine (s : Stmt) : String :=
  match Text.splitLines s.text.toList with
  | [] => ""
  | line :: _ => String.ofList line

def lowerLeaf (policy : Policy) (depth : Int) (s : Stmt) (progress : Progress) : Step (List Stmt) :=
  match lowerStatement policy depth s progress with
  | (.error fault, progress) => (.error fault, progress)
  | (.ok replacement, progress) => (.ok [replacement], progress)

mutual

def lowerNested (policy : Policy) (depth : Int) : Stmt → Progress → Step (List Stmt)
  | .withBlock span isAsync items body, progress =>
    let s := .withBlock span isAsync items body
    if policy.isBlock s then
      if policy.maxDepth ≤ depth then (.error (tooDeep policy (headLine s) depth), progress)
      else lowerBlock policy (depth + 1) body progress
    else lowerLeaf policy depth s progress
  | s, progress => lowerLeaf policy depth s progress
termination_by structural s => s

def lowerBlock (policy : Policy) (depth : Int) : List Stmt → Progress → Step (List Stmt)
  | [], progress => (.ok [], progress)
  | s :: rest, progress =>
    match lowerNested policy depth s progress with
    | (.error fault, progress) => (.error fault, progress)
    | (.ok done, progress) =>
      match lowerBlock policy depth rest progress with
      | (.error fault, progress) => (.error fault, progress)
      | (.ok later, progress) => (.ok (done ++ later), progress)
termination_by structural s => s

end

def lower (policy : Policy) (s : Stmt) : Except Fault Stmt := (lowerStatement policy 1 s {}).1

def readDedented (source : String) : Except Fault (List Stmt) :=
  match readModule (Text.dedent source) with
  | .ok body => .ok body
  | .error _ => .error .unreadable

def lowerText (policy : Policy) (source : String) : Except Fault (List Stmt × List Event) := do
  let body ← readDedented source
  match lowerBlock policy 1 body {} with
  | (.error fault, _) => .error fault
  | (.ok lowered, progress) => .ok (lowered, progress.log)

end Rebind.Update
