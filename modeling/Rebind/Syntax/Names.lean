import Rebind.Syntax.Tree
/-!
Putting expressions in the place of names. Only names that stand as expressions are replaced:
parameters, declared names and attributes are no expressions.
-/
namespace Rebind.Syntax

section
-- What takes the place of a name, where an expression binds it and where it does not.
variable (f : (bound : Bool) → Lines → String → Expr)

mutual

def Expr.mapNames (bound : Bool) : Expr → Expr
  | .name l id => f bound l id
  | .literal l v => .literal l v
  | .attribute l v a => .attribute l (v.mapNames false) a
  | .subscript l v i => .subscript l (v.mapNames false) (i.mapNames false)
  | .slice l a b c => .slice l (mapNamesOption a) (mapNamesOption b) (mapNamesOption c)
  | .call l g as ks => .call l (g.mapNames false) (mapNamesList false as) (mapNamesKeywords ks)
  | .binary l o a b => .binary l o (a.mapNames false) (b.mapNames false)
  | .unary l o a => .unary l o (a.mapNames false)
  | .boolean l o as => .boolean l o (mapNamesList false as)
  | .compare l a as => .compare l (a.mapNames false) (mapNamesComparisons as)
  | .conditional l a b c => .conditional l (a.mapNames false) (b.mapNames false) (c.mapNames false)
  | .lambda l p a => .lambda l p.mapNames (a.mapNames false)
  | .tuple l as => .tuple l (mapNamesList bound as)
  | .list l as => .list l (mapNamesList bound as)
  | .set l as => .set l (mapNamesList false as)
  | .dict l as => .dict l (mapNamesEntries as)
  | .starred l a => .starred l (a.mapNames bound)
  | .listComp l a cs => .listComp l (a.mapNames false) (mapNamesClauses cs)
  | .setComp l a cs => .setComp l (a.mapNames false) (mapNamesClauses cs)
  | .generator l a cs => .generator l (a.mapNames false) (mapNamesClauses cs)
  | .dictComp l k a cs => .dictComp l (k.mapNames false) (a.mapNames false) (mapNamesClauses cs)
  | .named l t a => .named l (t.mapNames true) (a.mapNames false)
  | .yields l a => .yields l (mapNamesOption a)
  | .yieldsFrom l a => .yieldsFrom l (a.mapNames false)
  | .await l a => .await l (a.mapNames false)
  | .filled a => .filled (a.mapNames false)

def mapNamesOption : Option Expr → Option Expr
  | none => none
  | some a => some (a.mapNames false)

def mapNamesList (bound : Bool) : List Expr → List Expr
  | [] => []
  | a :: as => a.mapNames bound :: mapNamesList bound as

def mapNamesComparisons : List (CompareOp × Expr) → List (CompareOp × Expr)
  | [] => []
  | (o, a) :: as => (o, a.mapNames false) :: mapNamesComparisons as

def mapNamesEntries : List (Option Expr × Expr) → List (Option Expr × Expr)
  | [] => []
  | (k, a) :: as => (mapNamesOption k, a.mapNames false) :: mapNamesEntries as

def Keyword.mapNames : Keyword → Keyword
  | .mk n a => .mk n (a.mapNames false)

def mapNamesKeywords : List Keyword → List Keyword
  | [] => []
  | a :: as => a.mapNames :: mapNamesKeywords as

def Clause.mapNames : Clause → Clause
  | .mk s t i cs => .mk s (t.mapNames true) (i.mapNames false) (mapNamesList false cs)

def mapNamesClauses : List Clause → List Clause
  | [] => []
  | a :: as => a.mapNames :: mapNamesClauses as

def Param.mapNames : Param → Param
  | .mk n a d => .mk n (mapNamesOption a) (mapNamesOption d)

def mapNamesParamOption : Option Param → Option Param
  | none => none
  | some a => some a.mapNames

def mapNamesParams : List Param → List Param
  | [] => []
  | a :: as => a.mapNames :: mapNamesParams as

def Params.mapNames : Params → Params
  | .mk a b c d e =>
    .mk (mapNamesParams a) (mapNamesParams b) (mapNamesParamOption c) (mapNamesParams d)
      (mapNamesParamOption e)

end

def WithItem.mapNames (item : WithItem) : WithItem :=
  ⟨item.context.mapNames f false, item.target.map (·.mapNames f false)⟩

mutual

def Stmt.mapNames : Stmt → Stmt
  | .expr s v => .expr s (v.mapNames f false)
  | .assign s ts v => .assign s (mapNamesList f false ts) (v.mapNames f false)
  | .augmented s t o v => .augmented s (t.mapNames f false) o (v.mapNames f false)
  | .annotated s t y v b => .annotated s (t.mapNames f false) (y.mapNames f false) (mapNamesOption f v) b
  | .pass s => .pass s
  | .breakLoop s => .breakLoop s
  | .continueLoop s => .continueLoop s
  | .returnValue s v => .returnValue s (mapNamesOption f v)
  | .raise s e c => .raise s (mapNamesOption f e) (mapNamesOption f c)
  | .assertion s t m => .assertion s (t.mapNames f false) (mapNamesOption f m)
  | .delete s ts => .delete s (mapNamesList f false ts)
  | .globalNames s ns => .globalNames s ns
  | .nonlocalNames s ns => .nonlocalNames s ns
  | .importNames s ns => .importNames s ns
  | .importFrom s m ns n => .importFrom s m ns n
  | .branch s t b o => .branch s (t.mapNames f false) (mapNamesBody b) (mapNamesBody o)
  | .forLoop s a t i b o =>
    .forLoop s a (t.mapNames f false) (i.mapNames f false) (mapNamesBody b) (mapNamesBody o)
  | .whileLoop s t b o => .whileLoop s (t.mapNames f false) (mapNamesBody b) (mapNamesBody o)
  | .withBlock s a items b => .withBlock s a (items.map (·.mapNames f)) (mapNamesBody b)
  | .tryBlock s g b hs o c =>
    .tryBlock s g (mapNamesBody b) (mapNamesHandlers hs) (mapNamesBody o) (mapNamesBody c)
  | .function s a n p b ds r =>
    .function s a n (p.mapNames f) (mapNamesBody b) (mapNamesList f false ds) (mapNamesOption f r)
  | .classDef s n bs ks b ds =>
    .classDef s n (mapNamesList f false bs) (mapNamesKeywords f ks) (mapNamesBody b) (mapNamesList f false ds)

def mapNamesBody : List Stmt → List Stmt
  | [] => []
  | s :: rest => s.mapNames :: mapNamesBody rest

def Handler.mapNames : Handler → Handler
  | .mk l t n b => .mk l (mapNamesOption f t) n (mapNamesBody b)

def mapNamesHandlers : List Handler → List Handler
  | [] => []
  | h :: rest => h.mapNames :: mapNamesHandlers rest

end

end

def Stmt.moved (span : Span) : Stmt → Stmt
  | .expr _ v => .expr span v
  | .assign _ ts v => .assign span ts v
  | .augmented _ t o v => .augmented span t o v
  | .annotated _ t y v b => .annotated span t y v b
  | .pass _ => .pass span
  | .breakLoop _ => .breakLoop span
  | .continueLoop _ => .continueLoop span
  | .returnValue _ v => .returnValue span v
  | .raise _ e c => .raise span e c
  | .assertion _ t m => .assertion span t m
  | .delete _ ts => .delete span ts
  | .globalNames _ ns => .globalNames span ns
  | .nonlocalNames _ ns => .nonlocalNames span ns
  | .importNames _ ns => .importNames span ns
  | .importFrom _ m ns n => .importFrom span m ns n
  | .branch _ t b o => .branch span t b o
  | .forLoop _ a t i b o => .forLoop span a t i b o
  | .whileLoop _ t b o => .whileLoop span t b o
  | .withBlock _ a items b => .withBlock span a items b
  | .tryBlock _ g b hs o c => .tryBlock span g b hs o c
  | .function _ a n p b ds r => .function span a n p b ds r
  | .classDef _ n bs ks b ds => .classDef span n bs ks b ds

end Rebind.Syntax
