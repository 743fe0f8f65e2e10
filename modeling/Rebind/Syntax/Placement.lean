import Rebind.Syntax.Scope
/-!
Where the parts of a program may stand. Some statements and expressions make sense only in a function, in
one that waits, or in a loop; some places take several values in one; and one name cannot be bound at all.
A program is compiled only if all of it fits and its names are used as they are declared.
-/
namespace Rebind.Syntax

inductive ScopeForm where
  | module
  | classBody
  | function (isAsync : Bool)
  | lambda
  | comprehension
deriving DecidableEq, Repr

/-- What surrounds a part of a program. -/
structure Place where
  scope : ScopeForm := .module
  /-- Whether a result can be returned, besides the end itself. -/
  canAnswer : Bool := false
  inLoop : Bool := false
  /-- In a handler of groups, which nothing leaves. -/
  inGroup : Bool := false
deriving Repr, Inhabited

namespace Place

/-- The inside of a function. One that waits and yields returns nothing. -/
def function (isAsync : Bool) (names : Names) : Place :=
  { scope := .function isAsync, canAnswer := !((isAsync || names.waits) && names.yields) }

def loop (place : Place) : Place := { place with inLoop := true }

def group (place : Place) : Place := { place with inLoop := false, inGroup := true }

def canReturn (place : Place) : Bool :=
  match place.scope with
  | .function _ => !place.inGroup
  | _ => false

def canYield (place : Place) : Bool :=
  match place.scope with
  | .function _ | .lambda => true
  | _ => false

def canWait (place : Place) : Bool :=
  match place.scope with
  | .function isAsync => isAsync
  | .comprehension => true
  | _ => false

def evaluatesTypes (place : Place) : Bool :=
  match place.scope with
  | .module | .classBody => true
  | _ => false

end Place

def canBind (name : String) : Bool := name != "__debug__"

def keywordsFit (keywords : List Keyword) : Bool :=
  let names := keywords.filterMap Keyword.name?
  decide names.Nodup && names.all canBind

def Expr.waits (e : Expr) : Bool :=
  match e.gather { kind := .comprehension } with
  | some draft => draft.names.waits
  | none => false

mutual

def Expr.fits : Expr → Place → Bool
  | .name _ _, _ | .literal _ _, _ => true
  | .attribute _ v _, place => v.fits place
  | .subscript _ v i, place => v.fits place && i.fits place
  | .slice _ a b c, place => fitsOption a place && fitsOption b place && fitsOption c place
  | .call _ f as ks, place =>
    f.fits place && fitsItems as place && fitsKeywords ks place && keywordsFit ks
  | .binary _ _ a b, place => a.fits place && b.fits place
  | .unary _ _ a, place => a.fits place
  | .boolean _ _ as, place => fitsAll as place
  | .compare _ a as, place => a.fits place && fitsComparisons as place
  | .conditional _ a b c, place => a.fits place && b.fits place && c.fits place
  | .lambda _ p a, place => p.fit place && a.fits { scope := .lambda }
  | .tuple _ as, place | .list _ as, place | .set _ as, place => fitsItems as place
  | .dict _ as, place => fitsEntries as place
  | .starred _ _, _ => false
  | .listComp l a cs, place =>
    (place.canWait || !(Expr.listComp l a cs).waits) && a.fits { scope := .comprehension } &&
      fitsClauses cs place
  | .setComp l a cs, place =>
    (place.canWait || !(Expr.setComp l a cs).waits) && a.fits { scope := .comprehension } &&
      fitsClauses cs place
  | .dictComp l k a cs, place =>
    (place.canWait || !(Expr.dictComp l k a cs).waits) && k.fits { scope := .comprehension } &&
      a.fits { scope := .comprehension } && fitsClauses cs place
  | .generator _ a cs, place => a.fits { scope := .comprehension } && fitsClauses cs place
  | .named _ t a, place => t.targetFits false place && a.fits place
  | .yields _ a, place => place.canYield && fitsOption a place
  | .yieldsFrom _ a, place => place.canYield && !place.canWait && a.fits place
  | .await _ a, place => place.canWait && a.fits place
  | .filled a, place => a.fits place

def fitsOption : Option Expr → Place → Bool
  | none, _ => true
  | some a, place => a.fits place

def fitsAll : List Expr → Place → Bool
  | [], _ => true
  | a :: as, place => a.fits place && fitsAll as place

/-- Items of a display or a call, which may stand for several values. -/
def fitsItems : List Expr → Place → Bool
  | [], _ => true
  | .starred _ a :: as, place => a.fits place && fitsItems as place
  | a :: as, place => a.fits place && fitsItems as place

def fitsComparisons : List (CompareOp × Expr) → Place → Bool
  | [], _ => true
  | (_, a) :: as, place => a.fits place && fitsComparisons as place

def fitsEntries : List (Option Expr × Expr) → Place → Bool
  | [], _ => true
  | (k, a) :: as, place => fitsOption k place && a.fits place && fitsEntries as place

def Keyword.fits : Keyword → Place → Bool
  | .mk _ a, place => a.fits place

def fitsKeywords : List Keyword → Place → Bool
  | [], _ => true
  | a :: as, place => a.fits place && fitsKeywords as place

def Clause.fits : Clause → Bool
  | .mk _ t _ cs =>
    t.targetFits false { scope := .comprehension } && fitsAll cs { scope := .comprehension }

def Clause.sourceFits : Clause → Place → Bool
  | .mk _ _ i _, place => i.fits place

def fitsClauses : List Clause → Place → Bool
  | [], _ => true
  | a :: as, place => a.fits && a.sourceFits place && laterClausesFit as

def laterClausesFit : List Clause → Bool
  | [] => true
  | a :: as => a.fits && a.sourceFits { scope := .comprehension } && laterClausesFit as

/-- A target; one that takes the rest must be part of a row of targets, at most once. -/
def Expr.targetFits : Expr → (inRow : Bool) → Place → Bool
  | .name _ id, _, _ => canBind id
  | .starred _ a, inRow, place => inRow && a.targetFits false place
  | .tuple _ as, _, place | .list _ as, _, place =>
    decide (countStarred as ≤ 1) && targetsFit as place
  | .attribute _ v attr, _, place => canBind attr && v.fits place
  | .subscript _ v i, _, place => v.fits place && i.fits place
  | _, _, _ => true

def targetsFit : List Expr → Place → Bool
  | [], _ => true
  | a :: as, place => a.targetFits true place && targetsFit as place

def countStarred : List Expr → Nat
  | [] => 0
  | .starred _ _ :: as => countStarred as + 1
  | _ :: as => countStarred as

def Param.fits : Param → Place → Bool
  | .mk name a d, place => canBind name && fitsOption a place && fitsOption d place

def fitParams : List Param → Place → Bool
  | [], _ => true
  | a :: as, place => a.fits place && fitParams as place

def fitParam : Option Param → Place → Bool
  | none, _ => true
  | some a, place => a.fits place

def restFits : Option Param → Place → Bool
  | none, _ => true
  | some (.mk name (some (.starred _ a)) _), place => canBind name && a.fits place
  | some a, place => a.fits place

def Params.fit : Params → Place → Bool
  | .mk a b c d e, place =>
    fitParams a place && fitParams b place && restFits c place && fitParams d place && fitParam e place

end

def WithItem.fits (item : WithItem) (place : Place) : Bool :=
  item.context.fits place &&
    match item.target with
    | some target => target.targetFits false place
    | none => true

def Expr.updateFits : Expr → Place → Bool
  | .attribute _ v _, place => v.fits place
  | e, place => e.targetFits false place

mutual

def Expr.indexFits : Expr → Place → Bool
  | .tuple _ as, place => indicesFit as place
  | e, place => e.fits place

def indicesFit : List Expr → Place → Bool
  | [], _ => true
  | a :: as, place => a.indexFits place && indicesFit as place

end

def Expr.typedFits (target : Expr) (hasValue : Bool) (place : Place) : Bool :=
  match target with
  | .subscript _ v i => v.fits place && if hasValue then i.fits place else i.indexFits place
  | target => target.targetFits false place

mutual

def Expr.deletionFits : Expr → Place → Bool
  | .attribute _ v _, place => v.fits place
  | .tuple _ as, place | .list _ as, place => deletionsFit as place
  | e, place => e.targetFits false place

def deletionsFit : List Expr → Place → Bool
  | [], _ => true
  | a :: as, place => a.deletionFits place && deletionsFit as place

end

def Handler.isNamed : Handler → Bool
  | .mk _ type _ _ => type.isSome

def defaultIsLast (handlers : List Handler) : Bool := handlers.dropLast.all Handler.isNamed

mutual

def Stmt.fits : Stmt → Place → Bool
  | .expr _ v, place => v.fits place
  | .assign _ ts v, place => ts.all (·.targetFits false place) && v.fits place
  | .augmented _ t _ v, place => t.updateFits place && v.fits place
  | .annotated _ t a v _, place =>
    t.typedFits v.isSome place && (!place.evaluatesTypes || a.fits place) && fitsOption v place
  | .pass _, _ | .globalNames _ _, _ | .nonlocalNames _ _, _ => true
  | .breakLoop _, place | .continueLoop _, place => place.inLoop
  | .returnValue _ v, place => place.canReturn && (v.isNone || place.canAnswer) && fitsOption v place
  | .raise _ e c, place => fitsOption e place && fitsOption c place
  | .assertion _ t m, place => t.fits place && fitsOption m place
  | .delete _ ts, place => deletionsFit ts place
  | .importNames _ names, _ | .importFrom _ _ names _, _ => names.all (canBind ·.bound)
  | .branch _ t b o, place => t.fits place && fitsBody b place && fitsBody o place
  | .forLoop _ isAsync t i b o, place =>
    (!isAsync || place.canWait) && t.targetFits false place && i.fits place &&
      fitsBody b place.loop && fitsBody o place
  | .whileLoop _ t b o, place => t.fits place && fitsBody b place.loop && fitsBody o place
  | .withBlock _ isAsync items b, place =>
    (!isAsync || place.canWait) && items.all (·.fits place) && fitsBody b place
  | .tryBlock _ isGroup b hs o c, place =>
    fitsBody b place && fitsHandlers hs place (if isGroup then place.group else place) &&
      defaultIsLast hs && fitsBody o place && fitsBody c place
  | .function _ isAsync name p b ds r, place =>
    let names := ((functionBlock "" [] b).map Block.names).getD {}
    canBind name && fitsAll ds place && p.fit place && fitsOption r place &&
      fitsBody b (.function isAsync names)
  | .classDef _ name bs ks b ds, place =>
    canBind name && fitsAll ds place && fitsItems bs place && fitsKeywords ks place && keywordsFit ks &&
      fitsBody b { scope := .classBody }

def fitsBody : List Stmt → Place → Bool
  | [], _ => true
  | s :: rest, place => s.fits place && fitsBody rest place

def Handler.fits : Handler → (outside inside : Place) → Bool
  | .mk _ t name b, outside, inside =>
    fitsOption t outside && name.all canBind && fitsBody b inside

def fitsHandlers : List Handler → (outside inside : Place) → Bool
  | [], _, _ => true
  | h :: rest, outside, inside => h.fits outside inside && fitsHandlers rest outside inside

end

def moduleFits (body : List Stmt) : Bool := namesFit body && fitsBody body {}

end Rebind.Syntax
