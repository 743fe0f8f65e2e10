import Rebind.Program.Attribute
import Rebind.Syntax.Excerpt
import Rebind.Syntax.Placement
import Rebind.Update.Everywhere
/-!
New code for a function: its text is read again, its decorators are dropped and its blocks replaced.
Functions that take names from the functions around them cannot be made anew, nor those whose text is not
at hand or is no definition.
-/
namespace Rebind

open Syntax

def Run.origin? : (fuel : Nat) → Value → Run (Option Function)
  | 0, _ => fail .value
  | fuel + 1, v => do
    match ← v.attr? Function.wrappedAttr, v with
    | some inner, _ => origin? fuel inner
    | none, .function id | none, .method _ id => functionContent? id
    | none, _ => return none

def Run.textOf (f : Function) (id : Nat) : Run String := do
  let memory ← get
  let missing : Fault := .diagnostic (.sourceUnavailable f.qualname)
  match memory.text, ← origin? (memory.objects.size + 1) (.function id) with
  | some text, some origin =>
    match excerpt text origin.firstLine with
    | .found text => return text
    | .unfinished => fail .general
    | .missing => throw missing
  | _, _ => throw missing

/-- A definition with its blocks replaced. -/
structure Lowered where
  name : String
  definition : Stmt
  blocks : Nat

def Lowered.text (lowered : Lowered) : String := lowered.definition.text

/-- Replaces the blocks of a definition and drops its decorators. What was done is put on record, also if
it comes to nothing. -/
def Run.lowerDefinition (policy : Policy) (f : Function) : Stmt → Run Lowered
  | .function span isAsync name params body _ returns => do
    let (result, tally) := Update.lowerBodies policy body {}
    modify fun memory => { memory with log := memory.log ++ tally.progress.log }
    let body ← ofExcept result
    return ⟨name, .function span isAsync name params body [] returns, tally.blocks⟩
  | _ => throw (.diagnostic (.notDefinedByDef f.qualname))

/-- New code for the function with the given number. Lines are counted from the start of its code. -/
def Run.lowerCode (policy : Policy) (f : Function) (id : Nat) : Run Lowered := do
  if !f.captured.isEmpty then throw (.diagnostic (.closureUnsupported f.qualname f.captured))
  let text ← textOf f id
  match readModuleFrom f.firstLine (Text.dedent text) with
  | .error _ => throw .unreadable
  | .ok [] => throw (.diagnostic (.notDefinedByDef f.qualname))
  | .ok (definition :: _) =>
    let lowered ← lowerDefinition policy f definition
    if moduleFits [lowered.definition] then return lowered else throw .unreadable

end Rebind
