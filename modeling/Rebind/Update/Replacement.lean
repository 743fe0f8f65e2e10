import Rebind.Update.Form
/-!
Replacements: the statement that carries out a form, in place where the target can be written to and by
binding a new value where it cannot. Parts of the statement keep their lines; all else stands on the
lines of the statement that is replaced.
-/
namespace Rebind.Update

open Syntax

def libraryName : String := "__maybe_inplace__"

def temporaryName (number : Nat) : String := "__bb_a" ++ toString number

section
variable (at_ : Lines)

def library (attr : String) : Expr := .attribute at_ (.name at_ libraryName) attr

def call (func : Expr) (args : List Expr) : Expr := .call at_ func args []

def callLibrary (attr : String) (args : List Expr) : Expr := call at_ (library at_ attr) args

/-- `target[...]`. -/
def whole (target : Expr) : Expr := .subscript at_ target (.literal at_ .ellipsis)

def one : Expr := .literal at_ (.int 1)

/-! ### Elementwise calls -/

mutual

/-- Every call goes through `broadcast_call`, except inside a lambda. A new call stands on the lines of
the expression around it. -/
def routed (around : Lines) : Expr → Expr
  | .call _ f args keywords =>
    .call around (library around "broadcast_call") (routed around f :: routedList around args)
      (routedKeywords keywords)
  | .lambda l p body => .lambda l p body
  | .name l id => .name l id
  | .literal l v => .literal l v
  | .attribute l v a => .attribute l (routed l v) a
  | .subscript l v i => .subscript l (routed l v) (routed l i)
  | .slice l a b c => .slice l (routedOption l a) (routedOption l b) (routedOption l c)
  | .binary l o a b => .binary l o (routed l a) (routed l b)
  | .unary l o a => .unary l o (routed l a)
  | .boolean l o as => .boolean l o (routedList l as)
  | .compare l a as => .compare l (routed l a) (routedComparisons l as)
  | .conditional l a b c => .conditional l (routed l a) (routed l b) (routed l c)
  | .tuple l as => .tuple l (routedList l as)
  | .list l as => .list l (routedList l as)
  | .set l as => .set l (routedList l as)
  | .dict l as => .dict l (routedEntries l as)
  | .starred l a => .starred l (routed l a)
  | .listComp l a cs => .listComp l (routed l a) (routedClauses l cs)
  | .setComp l a cs => .setComp l (routed l a) (routedClauses l cs)
  | .generator l a cs => .generator l (routed l a) (routedClauses l cs)
  | .dictComp l k a cs => .dictComp l (routed l k) (routed l a) (routedClauses l cs)
  | .named l t a => .named l (routed l t) (routed l a)
  | .yields l a => .yields l (routedOption l a)
  | .yieldsFrom l a => .yieldsFrom l (routed l a)
  | .await l a => .await l (routed l a)
  | .filled a => .filled (routed around a)

def routedOption (around : Lines) : Option Expr → Option Expr
  | none => none
  | some a => some (routed around a)

def routedList (around : Lines) : List Expr → List Expr
  | [] => []
  | a :: as => routed around a :: routedList around as

def routedComparisons (around : Lines) : List (CompareOp × Expr) → List (CompareOp × Expr)
  | [] => []
  | (o, a) :: as => (o, routed around a) :: routedComparisons around as

def routedEntries (around : Lines) : List (Option Expr × Expr) → List (Option Expr × Expr)
  | [] => []
  | (k, a) :: as => (routedOption around k, routed around a) :: routedEntries around as

def routedKeyword : Keyword → Keyword
  | .mk n a => .mk n (routed a.lines a)

def routedKeywords : List Keyword → List Keyword
  | [] => []
  | a :: as => routedKeyword a :: routedKeywords as

def routedClause (around : Lines) : Clause → Clause
  | .mk s t i cs => .mk s (routed around t) (routed around i) (routedList around cs)

def routedClauses (around : Lines) : List Clause → List Clause
  | [] => []
  | a :: as => routedClause around a :: routedClauses around as

end

/-! ### The replacement of each form -/

end

section
variable (span : Span)

def assign (target value : Expr) : Stmt := .assign span [target] value

/-- The first branch runs if the tested value can be written to. -/
def capabilityBranch (tested : Expr) (body orelse : List Stmt) : Stmt :=
  .branch span
    (.compare span.lines (callLibrary span.lines "setindex_trait" [tested])
      [(.is, library span.lines "CAN_MUTATE")])
    body orelse

/-- Zeros are made on both sides; a copy and unset contents may be the source itself. -/
def allocationReplacement (kind : Allocation) (target source : Expr) : Stmt :=
  let made (attr : String) := assign span target (callLibrary span.lines attr [source])
  match kind with
  | .copy => capabilityBranch span source [made "copy_of"] [assign span target source]
  | .zero => capabilityBranch span source [made "zero_of"] [made "zero_value"]
  | .similar => capabilityBranch span source [made "similar_of"] [assign span target source]

def operationReplacement (op : TableOp) (target : Expr) (operands : List Expr) : Stmt :=
  let entry : Expr :=
    .subscript span.lines (library span.lines "OPERATION_TABLE")
      (.literal span.lines (.str op.name false))
  let capability := callLibrary span.lines "setindex_trait" [target]
  assign span target
    (call span.lines (.attribute span.lines entry "dispatch") (capability :: target :: operands))

def axpyReplacement (alpha x : Expr) (beta : Option Expr) (y : Expr) : Stmt :=
  let times (a b : Expr) : Expr := .binary span.lines .mult a b
  let kept :=
    match beta with
    | none => y
    | some beta => times beta y
  capabilityBranch span y
    [.expr span (callLibrary span.lines "axpy_into" ([alpha, x, y] ++ beta.toList))]
    [assign span y (.binary span.lines .add (times alpha x) kept)]

def broadcastReplacement (op : Option InPlaceOp) (target value : Expr) : Stmt :=
  match op with
  | none =>
    capabilityBranch span target [assign span (whole span.lines target) value]
      [assign span target value]
  | some op =>
    capabilityBranch span target [.augmented span (whole span.lines target) op.binary value]
      [assign span target (.binary span.lines op.binary target value)]

def elementwiseReplacement (target value : Expr) : Stmt :=
  let applied := routed span.lines value
  capabilityBranch span target [assign span (whole span.lines target) applied]
    [assign span target applied]

/-- The multiplication into `into`, on top of its contents when accumulating. -/
def productInto (into left right : Expr) (accumulate : Bool) : Stmt :=
  .expr span (callLibrary span.lines "matmul_into"
    ([into, left, right] ++ if accumulate then [one span.lines, one span.lines] else []))

/-- The product, in the form of the target. -/
def productBound (target left right : Expr) (accumulate : Bool) : Stmt :=
  let shaped :=
    callLibrary span.lines "restructure" [target, .binary span.lines .matMult left right]
  assign span target (if accumulate then .binary span.lines .add target shaped else shaped)

/-- A product with one flattened factor is written through a flattened target, held by a temporary. -/
def flatProductReplacement (temporary : String) (target left right : Expr) (accumulate : Bool) : Stmt :=
  let flat : Expr := .name span.lines temporary
  capabilityBranch span target
    [assign span flat (callLibrary span.lines "vec" [target]),
      productInto span flat left right accumulate,
      .expr span (callLibrary span.lines "unflatten_into" [target, flat])]
    [productBound span target left right accumulate]

end

def Form.needsTemporary : Form → Bool
  | .product _ _ _ .left _ | .product _ _ _ .right _ => true
  | _ => false

/-- The replacement of a form, with the number of the temporary it may use. Nothing replaces a statement
outside the grammar. -/
def Form.replacement? (span : Span) (number : Nat) : Form → Option Stmt
  | .allocation kind target source => some (allocationReplacement span kind target source)
  | .operation op target operands => some (operationReplacement span op target operands)
  | .axpy alpha x beta y => some (axpyReplacement span alpha x beta y)
  | .broadcast op target value => some (broadcastReplacement span op target value)
  | .elementwise target value => some (elementwiseReplacement span target value)
  | .product target left right .neither accumulate
  | .product target left right .both accumulate =>
    some (capabilityBranch span target [productInto span target left right accumulate]
      [productBound span target left right accumulate])
  | .product target left right .left accumulate =>
    some (flatProductReplacement span (temporaryName number) target
      (callLibrary span.lines "vec" [left]) right accumulate)
  | .product target left right .right accumulate =>
    some (flatProductReplacement span (temporaryName number) target left
      (callLibrary span.lines "vec" [right]) accumulate)
  | .unsupported _ => none

end Rebind.Update
