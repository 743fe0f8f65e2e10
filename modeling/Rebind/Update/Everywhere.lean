import Rebind.Update.Block
/-!
Blocks wherever they stand in a body: each outermost block gives way to its replaced statements, also
inside other statements, functions and classes.
-/
namespace Rebind.Update

open Syntax

/-- Progress, and how many blocks have been replaced. -/
structure Tally where
  progress : Progress := {}
  blocks : Nat := 0

abbrev Counted (α : Type) := Except Fault α × Tally

namespace Counted

def done (a : α) : Tally → Counted α := fun tally => (.ok a, tally)

def andThen (first : Tally → Counted α) (next : α → Tally → Counted β) : Tally → Counted β := fun tally =>
  match first tally with
  | (.error fault, tally) => (.error fault, tally)
  | (.ok a, tally) => next a tally

end Counted

open Counted

section
variable (policy : Policy)

def lowerWhole (body : List Stmt) (tally : Tally) : Counted (List Stmt) :=
  match lowerBlock policy 1 body tally.progress with
  | (result, progress) => (result, ⟨progress, tally.blocks + 1⟩)

mutual

def lowerInside : Stmt → Tally → Counted (List Stmt)
  | .branch s t b o =>
    andThen (lowerBodies b) fun b => andThen (lowerBodies o) fun o => done [.branch s t b o]
  | .forLoop s a t i b o =>
    andThen (lowerBodies b) fun b => andThen (lowerBodies o) fun o => done [.forLoop s a t i b o]
  | .whileLoop s t b o =>
    andThen (lowerBodies b) fun b => andThen (lowerBodies o) fun o => done [.whileLoop s t b o]
  | .withBlock s a items b =>
    if policy.isBlock (.withBlock s a items b) then lowerWhole policy b
    else andThen (lowerBodies b) fun b => done [.withBlock s a items b]
  | .tryBlock s g b hs o c =>
    andThen (lowerBodies b) fun b => andThen (lowerHandlers hs) fun hs =>
      andThen (lowerBodies o) fun o => andThen (lowerBodies c) fun c => done [.tryBlock s g b hs o c]
  | .function s a n p b ds r => andThen (lowerBodies b) fun b => done [.function s a n p b ds r]
  | .classDef s n bs ks b ds => andThen (lowerBodies b) fun b => done [.classDef s n bs ks b ds]
  | s => done [s]
termination_by structural s => s

def lowerBodies : List Stmt → Tally → Counted (List Stmt)
  | [] => done []
  | s :: rest => andThen (lowerInside s) fun s => andThen (lowerBodies rest) fun rest => done (s ++ rest)
termination_by structural s => s

def lowerHandler : Handler → Tally → Counted Handler
  | .mk l t n b => andThen (lowerBodies b) fun b => done (.mk l t n b)
termination_by structural s => s

def lowerHandlers : List Handler → Tally → Counted (List Handler)
  | [] => done []
  | h :: rest => andThen (lowerHandler h) fun h => andThen (lowerHandlers rest) fun rest => done (h :: rest)
termination_by structural s => s

end

end

end Rebind.Update
