import Rebind.Syntax.Tree
/-!
Equality of expressions without regard to where they stand in the source.
-/
namespace Rebind.Syntax

mutual

def Expr.same : Expr → Expr → Bool
  | .name _ a, .name _ b => a == b
  | .literal _ a, .literal _ b => a == b
  | .attribute _ a x, .attribute _ b y => a.same b && x == y
  | .subscript _ a i, .subscript _ b j => a.same b && i.same j
  | .slice _ a b c, .slice _ x y z => sameOption a x && sameOption b y && sameOption c z
  | .call _ f as ks, .call _ g bs ls => f.same g && sameList as bs && sameKeywords ks ls
  | .binary _ o a b, .binary _ p x y => o == p && a.same x && b.same y
  | .unary _ o a, .unary _ p b => o == p && a.same b
  | .boolean _ o as, .boolean _ p bs => o == p && sameList as bs
  | .compare _ a as, .compare _ b bs => a.same b && sameComparisons as bs
  | .conditional _ a b c, .conditional _ x y z => a.same x && b.same y && c.same z
  | .lambda _ p a, .lambda _ q b => p.same q && a.same b
  | .tuple _ as, .tuple _ bs => sameList as bs
  | .list _ as, .list _ bs => sameList as bs
  | .set _ as, .set _ bs => sameList as bs
  | .dict _ as, .dict _ bs => sameEntries as bs
  | .starred _ a, .starred _ b => a.same b
  | .listComp _ a cs, .listComp _ b ds => a.same b && sameClauses cs ds
  | .setComp _ a cs, .setComp _ b ds => a.same b && sameClauses cs ds
  | .generator _ a cs, .generator _ b ds => a.same b && sameClauses cs ds
  | .dictComp _ k a cs, .dictComp _ l b ds => k.same l && a.same b && sameClauses cs ds
  | .named _ t a, .named _ u b => t.same u && a.same b
  | .yields _ a, .yields _ b => sameOption a b
  | .yieldsFrom _ a, .yieldsFrom _ b => a.same b
  | .await _ a, .await _ b => a.same b
  | .filled a, .filled b => a.same b
  | _, _ => false
termination_by structural x => x

def sameOption : Option Expr → Option Expr → Bool
  | none, none => true
  | some a, some b => a.same b
  | _, _ => false
termination_by structural x => x

def sameList : List Expr → List Expr → Bool
  | [], [] => true
  | a :: as, b :: bs => a.same b && sameList as bs
  | _, _ => false
termination_by structural x => x

def sameComparisons : List (CompareOp × Expr) → List (CompareOp × Expr) → Bool
  | [], [] => true
  | (o, a) :: as, (p, b) :: bs => o == p && a.same b && sameComparisons as bs
  | _, _ => false
termination_by structural x => x

def sameEntries : List (Option Expr × Expr) → List (Option Expr × Expr) → Bool
  | [], [] => true
  | (k, a) :: as, (l, b) :: bs => sameOption k l && a.same b && sameEntries as bs
  | _, _ => false
termination_by structural x => x

def Keyword.same : Keyword → Keyword → Bool
  | .mk n a, .mk m b => n == m && a.same b
termination_by structural x => x

def sameKeywords : List Keyword → List Keyword → Bool
  | [], [] => true
  | a :: as, b :: bs => a.same b && sameKeywords as bs
  | _, _ => false
termination_by structural x => x

def Clause.same : Clause → Clause → Bool
  | .mk s t i cs, .mk r u j ds => s == r && t.same u && i.same j && sameList cs ds
termination_by structural x => x

def sameClauses : List Clause → List Clause → Bool
  | [], [] => true
  | a :: as, b :: bs => a.same b && sameClauses as bs
  | _, _ => false
termination_by structural x => x

def Param.same : Param → Param → Bool
  | .mk n a d, .mk m b e => n == m && sameOption a b && sameOption d e
termination_by structural x => x

def sameParamOption : Option Param → Option Param → Bool
  | none, none => true
  | some a, some b => a.same b
  | _, _ => false
termination_by structural x => x

def sameParams : List Param → List Param → Bool
  | [], [] => true
  | a :: as, b :: bs => a.same b && sameParams as bs
  | _, _ => false
termination_by structural x => x

def Params.same : Params → Params → Bool
  | .mk a b c d e, .mk v w x y z =>
    sameParams a v && sameParams b w && sameParamOption c x && sameParams d y && sameParamOption e z
termination_by structural x => x

end

end Rebind.Syntax
