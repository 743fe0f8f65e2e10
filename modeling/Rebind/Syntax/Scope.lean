import Rebind.Syntax.Tree
/-!
Names in their blocks. A module, a function, a class and a comprehension are blocks of their own. The names
of a block are gathered in the order of the text, since a name must be declared as shared before it is used;
afterwards every name that is shared with the functions around must be found there. A class shows its names
to none but itself, and a comprehension gives the names that it binds on the way to the block around it.
-/
namespace Rebind.Syntax

inductive BlockKind where
  | module
  | function
  | classBody
  | comprehension
deriving DecidableEq, Repr

/-- Names with two underscores in front belong to the class in whose text they stand, and are known under a
name of its own; a class whose name is nothing but underscores has none. Names that end in two
underscores are everyone's. -/
def privateName (owner name : String) : String :=
  let class_ := owner.toList.dropWhile (· == '_')
  match name.toList with
  | '_' :: '_' :: rest =>
    if class_.isEmpty || name.toList.reverse.take 2 == ['_', '_'] || rest.contains '.' then name
    else String.ofList ('_' :: class_ ++ '_' :: '_' :: rest)
  | _ => name

/-- What a block does with names. -/
structure Names where
  params : List String := []
  binds : List String := []
  /-- The names that are bound by imports. -/
  imports : List String := []
  reads : List String := []
  globals : List String := []
  nonlocals : List String := []
  /-- The names in the targets of a comprehension. -/
  loops : List String := []
  /-- The names that a comprehension binds outside of itself. -/
  exports : List String := []
  yields : Bool := false
  /-- Whether something is waited for. -/
  waits : Bool := false
deriving Repr, Inhabited

def Names.locals (names : Names) : List String :=
  (names.params ++ names.binds ++ names.imports).filter fun name =>
    !(names.globals.contains name || names.nonlocals.contains name)

/-- A block with the blocks inside it. -/
inductive Block where
  | mk (kind : BlockKind) (names : Names) (inner : List Block)

instance : Inhabited Block := ⟨.mk .module {} []⟩

def Block.names : Block → Names
  | .mk _ names _ => names

mutual

def Block.openNames : Block → List String
  | .mk kind names inner =>
    let hidden := names.locals ++ names.globals
    let own := (names.reads ++ names.nonlocals ++ names.exports).filter fun name => !hidden.contains name
    match kind with
    | .classBody => own ++ (openNamesAll inner).filter (· != "__class__")
    | _ => own ++ (openNamesAll inner).filter fun name => !hidden.contains name

def openNamesAll : List Block → List String
  | [] => []
  | b :: rest => b.openNames ++ openNamesAll rest

end

mutual

/-- Every name that a block shares with the functions around it is a name of one of them; `bound` are
their names. The blocks inside a function see its own names too, and no longer those it shares with the
module. -/
def Block.resolves : Block → (bound : List String) → Bool
  | .mk kind names inner, bound =>
    names.nonlocals.all (fun name => bound.contains name && !names.globals.contains name) &&
      match kind with
      | .module => resolveAll inner []
      | .classBody => resolveAll inner ("__class__" :: bound)
      | _ => resolveAll inner (names.locals ++ bound.filter fun name => !names.globals.contains name)

def resolveAll : List Block → (bound : List String) → Bool
  | [], _ => true
  | b :: rest, bound => b.resolves bound && resolveAll rest bound

end

/-! ### Gathering -/

/-- A block whose names are being gathered. -/
structure Draft where
  kind : BlockKind
  names : Names := {}
  inner : List Block := []
  /-- In what a comprehension goes through no names are bound. -/
  iterating : Bool := false
  /-- In the target of a comprehension. -/
  targeting : Bool := false
  /-- The class in whose text the block stands. -/
  owner : String := ""

namespace Draft

def block (d : Draft) : Block := .mk d.kind d.names d.inner

/-- A name in the target of a comprehension is not bound by the comprehension in another way. -/
def note (d : Draft) (name : String) : Option Draft :=
  if !d.targeting then some d
  else if d.names.exports.contains name then none
  else some { d with names := { d.names with loops := name :: d.names.loops } }

def known (d : Draft) (name : String) : String := privateName d.owner name

def read (d : Draft) (name : String) : Option Draft :=
  { d with names := { d.names with reads := d.known name :: d.names.reads } }.note (d.known name)

def bind (d : Draft) (name : String) : Option Draft :=
  { d with names := { d.names with binds := d.known name :: d.names.binds } }.note (d.known name)

def importAll (d : Draft) (names : List String) : Draft :=
  { d with names := { d.names with imports := names.map d.known ++ d.names.imports } }

/-- Reads a name. The name of what is fixed stands for itself, and `super` asks for the class around. -/
def readName (d : Draft) (name : String) : Option Draft := do
  if name == "__debug__" then return d
  let d ← d.read name
  if name == "super" && (d.kind = .function || d.kind = .comprehension) then d.read "__class__"
  else return d

def bindWithin (d : Draft) (name : String) : Option Draft :=
  match d.kind with
  | .comprehension =>
    if d.targeting || d.names.loops.contains (d.known name) then none
    else some { d with names := { d.names with exports := d.known name :: d.names.exports } }
  | _ => d.bind name

def take (d : Draft) (name : String) : Option Draft :=
  match d.kind with
  | .comprehension =>
    if d.names.loops.contains name then none
    else some { d with names := { d.names with exports := name :: d.names.exports } }
  | .function => some { d with names := { d.names with binds := name :: d.names.binds } }
  | .module => some { d with names := { d.names with globals := name :: d.names.globals } }
  | .classBody => none

def areNew (d : Draft) (names : List String) : Bool :=
  names.all fun name =>
    !(d.names.params.contains name || d.names.binds.contains name || d.names.reads.contains name)

def declareGlobal (d : Draft) (names : List String) : Option Draft :=
  let names := names.map d.known
  if d.areNew names then some { d with names := { d.names with globals := names ++ d.names.globals } }
  else none

def declareNonlocal (d : Draft) (names : List String) : Option Draft :=
  let names := names.map d.known
  if d.areNew names then
    some { d with names := { d.names with nonlocals := names ++ d.names.nonlocals } }
  else none

def annotate (d : Draft) (name : String) : Option Draft :=
  if d.kind ≠ .module && (d.names.globals.contains (d.known name) ||
      d.names.nonlocals.contains (d.known name)) then none
  else d.bind name

def setYields (d : Draft) : Option Draft :=
  if d.kind = .comprehension then none else some { d with names := { d.names with yields := true } }

def setWaits (d : Draft) (waits : Bool) : Draft :=
  { d with names := { d.names with waits := d.names.waits || waits } }

def function (owner : String) (params : List String) : Option Draft :=
  let params := params.map (privateName owner)
  if decide params.Nodup then some { kind := .function, names := { params }, owner } else none

def comprehension (d : Draft) : Draft := { kind := .comprehension, owner := d.owner, iterating := d.iterating }

def add (d : Draft) (inner : Draft) : Draft := { d with inner := inner.block :: d.inner }

def addComprehension (d : Draft) (isGenerator : Bool) (inner : Draft) : Option Draft :=
  inner.names.exports.reverse.foldlM take ((d.add inner).setWaits (inner.names.waits && !isGenerator))

end Draft

mutual

def Expr.gather : Expr → Draft → Option Draft
  | .name _ id, d => d.readName id
  | .literal _ _, d => some d
  | .attribute _ v _, d => v.gather d
  | .subscript _ v i, d => do i.gather (← v.gather d)
  | .slice _ a b c, d => do gatherOption c (← gatherOption b (← gatherOption a d))
  | .call _ f as ks, d => do gatherKeywords ks (← gatherList as (← f.gather d))
  | .binary _ _ a b, d => do b.gather (← a.gather d)
  | .unary _ _ a, d => a.gather d
  | .boolean _ _ as, d => gatherList as d
  | .compare _ a as, d => do gatherComparisons as (← a.gather d)
  | .conditional _ a b c, d => do c.gather (← b.gather (← a.gather d))
  | .lambda _ p a, d => do
    let d ← p.gather d
    let inner ← a.gather { (← Draft.function d.owner (p.all.map Param.name)) with iterating := d.iterating }
    return d.add inner
  | .tuple _ as, d | .list _ as, d | .set _ as, d => gatherList as d
  | .dict _ as, d => gatherEntries as d
  | .starred _ a, d => a.gather d
  | .listComp _ a cs, d | .setComp _ a cs, d => do
    let d ← gatherSource cs d
    d.addComprehension false (← a.gather (← gatherClauses cs d.comprehension))
  | .generator _ a cs, d => do
    let d ← gatherSource cs d
    d.addComprehension true (← a.gather (← gatherClauses cs d.comprehension))
  | .dictComp _ k a cs, d => do
    let d ← gatherSource cs d
    let inner ← gatherClauses cs d.comprehension
    d.addComprehension false (← k.gather (← a.gather inner))
  | .named _ t a, d => do
    if d.iterating then none
    else
      match t with
      | .name _ id => a.gather (← d.bindWithin id)
      | _ => a.gather d
  | .yields _ a, d => do (← gatherOption a d).setYields
  | .yieldsFrom _ a, d => do (← a.gather d).setYields
  | .await _ a, d => do return (← a.gather d).setWaits true
  | .filled a, d => a.gather d

def Expr.gatherTarget : Expr → Draft → Option Draft
  | .name _ id, d => d.bind id
  | .attribute _ v _, d => v.gather d
  | .subscript _ v i, d => do i.gather (← v.gather d)
  | .tuple _ as, d | .list _ as, d => gatherTargets as d
  | .starred _ a, d => a.gatherTarget d
  | .filled a, d => a.gather d
  | _, d => some d

def gatherTargets : List Expr → Draft → Option Draft
  | [], d => some d
  | a :: as, d => do gatherTargets as (← a.gatherTarget d)

def gatherOption : Option Expr → Draft → Option Draft
  | none, d => some d
  | some a, d => a.gather d

def gatherList : List Expr → Draft → Option Draft
  | [], d => some d
  | a :: as, d => do gatherList as (← a.gather d)

def gatherComparisons : List (CompareOp × Expr) → Draft → Option Draft
  | [], d => some d
  | (_, a) :: as, d => do gatherComparisons as (← a.gather d)

def gatherEntries : List (Option Expr × Expr) → Draft → Option Draft
  | [], d => some d
  | (k, a) :: as, d => do gatherEntries as (← a.gather (← gatherOption k d))

def Keyword.gather : Keyword → Draft → Option Draft
  | .mk _ a, d => a.gather d

def gatherKeywords : List Keyword → Draft → Option Draft
  | [], d => some d
  | a :: as, d => do gatherKeywords as (← a.gather d)

def Clause.gatherSource : Clause → Draft → Option Draft
  | .mk _ _ i _, d => do return { (← i.gather { d with iterating := true }) with iterating := d.iterating }

def Clause.gatherTarget : Clause → Draft → Option Draft
  | .mk isAsync t _ _, d => do
    let d := d.setWaits isAsync
    return { (← t.gatherTarget { d with targeting := true }) with targeting := d.targeting }

def Clause.gatherConditions : Clause → Draft → Option Draft
  | .mk _ _ _ cs, d => gatherList cs d

def gatherSource : List Clause → Draft → Option Draft
  | [], d => some d
  | a :: _, d => a.gatherSource d

def gatherClauses : List Clause → Draft → Option Draft
  | [], d => some d
  | a :: as, d => do gatherLater as (← a.gatherConditions (← a.gatherTarget d))

def gatherLater : List Clause → Draft → Option Draft
  | [], d => some d
  | a :: as, d => do gatherLater as (← a.gatherConditions (← a.gatherSource (← a.gatherTarget d)))

def Param.gather : Param → Draft → Option Draft
  | .mk _ a v, d => do gatherOption v (← gatherOption a d)

def gatherParams : List Param → Draft → Option Draft
  | [], d => some d
  | a :: as, d => do gatherParams as (← a.gather d)

def gatherParam : Option Param → Draft → Option Draft
  | none, d => some d
  | some a, d => a.gather d

def Params.gather : Params → Draft → Option Draft
  | .mk a b c e f, d => do
    gatherParam f (← gatherParams e (← gatherParam c (← gatherParams b (← gatherParams a d))))

end

def Alias.bound (a : Alias) : String :=
  match a.asName with
  | some name => name
  | none => ((a.name.splitOn ".").head?).getD a.name

def WithItem.gather (item : WithItem) (d : Draft) : Option Draft := do
  let d ← item.context.gather d
  match item.target with
  | some target => target.gatherTarget d
  | none => return d

def gatherItems (items : List WithItem) (d : Draft) : Option Draft :=
  items.foldlM (fun d item => item.gather d) d

mutual

def Stmt.gather : Stmt → Draft → Option Draft
  | .expr _ v, d => v.gather d
  | .assign _ ts v, d => do v.gather (← gatherTargets ts d)
  | .augmented _ t _ v, d => do v.gather (← t.gatherTarget d)
  | .annotated _ t a v simple, d => do
    let d ←
      match t with
      | .name _ id => if simple then d.annotate id else if v.isSome then d.bind id else some d
      | t => t.gatherTarget d
    gatherOption v (← a.gather d)
  | .pass _, d | .breakLoop _, d | .continueLoop _, d => some d
  | .returnValue _ v, d => gatherOption v d
  | .raise _ e c, d => do gatherOption c (← gatherOption e d)
  | .assertion _ t m, d => do gatherOption m (← t.gather d)
  | .delete _ ts, d => gatherTargets ts d
  | .globalNames _ names, d => d.declareGlobal names
  | .nonlocalNames _ names, d => d.declareNonlocal names
  | .importNames _ names, d => some (d.importAll (names.map Alias.bound))
  | .importFrom _ _ names _, d =>
    if names.any (·.name == "*") then if d.kind = .module then some d else none
    else some (d.importAll (names.map Alias.bound))
  | .branch _ t b o, d => do gatherBody o (← gatherBody b (← t.gather d))
  | .forLoop _ _ t i b o, d => do gatherBody o (← gatherBody b (← i.gather (← t.gatherTarget d)))
  | .whileLoop _ t b o, d => do gatherBody o (← gatherBody b (← t.gather d))
  | .withBlock _ _ items b, d => do gatherBody b (← gatherItems items d)
  | .tryBlock _ _ b hs o c, d => do
    gatherBody c (← gatherHandlers hs (← gatherBody o (← gatherBody b d)))
  | .function _ _ name p b ds r, d => do
    let d ← gatherList ds (← gatherOption r (← p.gather (← d.bind name)))
    return d.add (← gatherBody b (← Draft.function d.owner (p.all.map Param.name)))
  | .classDef _ name bs ks b ds, d => do
    let d ← gatherList ds (← gatherKeywords ks (← gatherList bs (← d.bind name)))
    return d.add (← gatherBody b { kind := .classBody, owner := name })

def gatherBody : List Stmt → Draft → Option Draft
  | [], d => some d
  | s :: rest, d => do gatherBody rest (← s.gather d)

def Handler.gather : Handler → Draft → Option Draft
  | .mk _ t n b, d => do gatherBody b (← n.toList.foldlM Draft.bind (← gatherOption t d))

def gatherHandlers : List Handler → Draft → Option Draft
  | [], d => some d
  | h :: rest, d => do gatherHandlers rest (← h.gather d)

end

/-- The block of a function that stands in the text of a class, or in none. -/
def functionBlock (owner : String) (params : List String) (body : List Stmt) : Option Block :=
  ((Draft.function owner params).bind (gatherBody body)).map Draft.block

def lambdaBlock (owner : String) (params : List String) (body : Expr) : Option Block :=
  ((Draft.function owner params).bind body.gather).map Draft.block

def classBlock (name : String) (body : List Stmt) : Option Block :=
  (gatherBody body { kind := .classBody, owner := name }).map Draft.block

def moduleBlock (body : List Stmt) : Option Block :=
  (gatherBody body { kind := .module }).map Draft.block

def namesFit (body : List Stmt) : Bool :=
  match moduleBlock body with
  | some block => block.resolves []
  | none => false

def docOf : List Stmt → Option Text.Wide
  | .expr _ (.literal _ (.str s _)) :: _ => some s
  | _ => none

end Rebind.Syntax
