import Rebind.Policy
import Rebind.Syntax.Names
import Rebind.Syntax.Same
/-!
Trees without their positions. Two expressions are the same exactly if they agree once their positions are
forgotten, and a statement that is moved stays the statement it was.
-/
namespace Rebind.Syntax

mutual

def Expr.unplaced : Expr → Expr
  | .name _ id => .name default id
  | .literal _ v => .literal default v
  | .attribute _ v a => .attribute default v.unplaced a
  | .subscript _ v i => .subscript default v.unplaced i.unplaced
  | .slice _ a b c => .slice default (unplacedOption a) (unplacedOption b) (unplacedOption c)
  | .call _ g as ks => .call default g.unplaced (unplacedList as) (unplacedKeywords ks)
  | .binary _ o a b => .binary default o a.unplaced b.unplaced
  | .unary _ o a => .unary default o a.unplaced
  | .boolean _ o as => .boolean default o (unplacedList as)
  | .compare _ a as => .compare default a.unplaced (unplacedComparisons as)
  | .conditional _ a b c => .conditional default a.unplaced b.unplaced c.unplaced
  | .lambda _ p a => .lambda default p.unplaced a.unplaced
  | .tuple _ as => .tuple default (unplacedList as)
  | .list _ as => .list default (unplacedList as)
  | .set _ as => .set default (unplacedList as)
  | .dict _ as => .dict default (unplacedEntries as)
  | .starred _ a => .starred default a.unplaced
  | .listComp _ a cs => .listComp default a.unplaced (unplacedClauses cs)
  | .setComp _ a cs => .setComp default a.unplaced (unplacedClauses cs)
  | .generator _ a cs => .generator default a.unplaced (unplacedClauses cs)
  | .dictComp _ k a cs => .dictComp default k.unplaced a.unplaced (unplacedClauses cs)
  | .named _ t a => .named default t.unplaced a.unplaced
  | .yields _ a => .yields default (unplacedOption a)
  | .yieldsFrom _ a => .yieldsFrom default a.unplaced
  | .await _ a => .await default a.unplaced
  | .filled a => .filled a.unplaced

def unplacedOption : Option Expr → Option Expr
  | none => none
  | some a => some a.unplaced

def unplacedList : List Expr → List Expr
  | [] => []
  | a :: as => a.unplaced :: unplacedList as

def unplacedComparisons : List (CompareOp × Expr) → List (CompareOp × Expr)
  | [] => []
  | (o, a) :: as => (o, a.unplaced) :: unplacedComparisons as

def unplacedEntries : List (Option Expr × Expr) → List (Option Expr × Expr)
  | [] => []
  | (k, a) :: as => (unplacedOption k, a.unplaced) :: unplacedEntries as

def Keyword.unplaced : Keyword → Keyword
  | .mk n a => .mk n a.unplaced

def unplacedKeywords : List Keyword → List Keyword
  | [] => []
  | a :: as => a.unplaced :: unplacedKeywords as

def Clause.unplaced : Clause → Clause
  | .mk s t i cs => .mk s t.unplaced i.unplaced (unplacedList cs)

def unplacedClauses : List Clause → List Clause
  | [] => []
  | a :: as => a.unplaced :: unplacedClauses as

def Param.unplaced : Param → Param
  | .mk n a d => .mk n (unplacedOption a) (unplacedOption d)

def unplacedParamOption : Option Param → Option Param
  | none => none
  | some a => some a.unplaced

def unplacedParams : List Param → List Param
  | [] => []
  | a :: as => a.unplaced :: unplacedParams as

def Params.unplaced : Params → Params
  | .mk a b c d e =>
    .mk (unplacedParams a) (unplacedParams b) (unplacedParamOption c) (unplacedParams d) (unplacedParamOption e)

end

mutual

def Stmt.unplaced : Stmt → Stmt
  | .expr _ v => .expr default v.unplaced
  | .assign _ ts v => .assign default (unplacedList ts) v.unplaced
  | .augmented _ t o v => .augmented default t.unplaced o v.unplaced
  | .annotated _ t y v b => .annotated default t.unplaced y.unplaced (unplacedOption v) b
  | .pass _ => .pass default
  | .breakLoop _ => .breakLoop default
  | .continueLoop _ => .continueLoop default
  | .returnValue _ v => .returnValue default (unplacedOption v)
  | .raise _ e c => .raise default (unplacedOption e) (unplacedOption c)
  | .assertion _ t m => .assertion default t.unplaced (unplacedOption m)
  | .delete _ ts => .delete default (unplacedList ts)
  | .globalNames _ ns => .globalNames default ns
  | .nonlocalNames _ ns => .nonlocalNames default ns
  | .importNames _ ns => .importNames default ns
  | .importFrom _ m ns n => .importFrom default m ns n
  | .branch _ t b o => .branch default t.unplaced (unplacedBody b) (unplacedBody o)
  | .forLoop _ a t i b o => .forLoop default a t.unplaced i.unplaced (unplacedBody b) (unplacedBody o)
  | .whileLoop _ t b o => .whileLoop default t.unplaced (unplacedBody b) (unplacedBody o)
  | .withBlock _ a items b =>
    .withBlock default a (items.map fun item => ⟨item.context.unplaced, unplacedOption item.target⟩) (unplacedBody b)
  | .tryBlock _ g b hs o c =>
    .tryBlock default g (unplacedBody b) (unplacedHandlers hs) (unplacedBody o) (unplacedBody c)
  | .function _ a n p b ds r =>
    .function default a n p.unplaced (unplacedBody b) (unplacedList ds) (unplacedOption r)
  | .classDef _ n bs ks b ds =>
    .classDef default n (unplacedList bs) (unplacedKeywords ks) (unplacedBody b) (unplacedList ds)

def unplacedBody : List Stmt → List Stmt
  | [] => []
  | s :: rest => s.unplaced :: unplacedBody rest

def Handler.unplaced : Handler → Handler
  | .mk _ t n b => .mk 0 (unplacedOption t) n (unplacedBody b)

def unplacedHandlers : List Handler → List Handler
  | [] => []
  | h :: rest => h.unplaced :: unplacedHandlers rest

end

/-! ### Equality without positions -/

mutual

theorem Expr.same_iff (a b : Expr) : a.same b = true ↔ a.unplaced = b.unplaced := by
  cases a <;> cases b <;>
    simp [Expr.same, Expr.unplaced, Expr.same_iff, sameOption_iff, sameList_iff, sameComparisons_iff, sameEntries_iff,
      sameKeywords_iff, sameClauses_iff, Params.same_iff, and_assoc]
termination_by structural a

theorem sameOption_iff (a b : Option Expr) : sameOption a b = true ↔ unplacedOption a = unplacedOption b := by
  cases a <;> cases b <;> simp [sameOption, unplacedOption, Expr.same_iff]
termination_by structural a

theorem sameList_iff (as bs : List Expr) : sameList as bs = true ↔ unplacedList as = unplacedList bs := by
  cases as <;> cases bs <;> simp [sameList, unplacedList, Expr.same_iff, sameList_iff]
termination_by structural as

theorem sameComparisons_iff (as bs : List (CompareOp × Expr)) :
    sameComparisons as bs = true ↔ unplacedComparisons as = unplacedComparisons bs := by
  rcases as with _ | ⟨⟨_, _⟩, as⟩ <;> cases bs <;>
    simp [sameComparisons, unplacedComparisons, Expr.same_iff, sameComparisons_iff]
termination_by structural as

theorem sameEntries_iff (as bs : List (Option Expr × Expr)) :
    sameEntries as bs = true ↔ unplacedEntries as = unplacedEntries bs := by
  rcases as with _ | ⟨⟨_, _⟩, as⟩ <;> cases bs <;>
    simp [sameEntries, unplacedEntries, Expr.same_iff, sameOption_iff, sameEntries_iff]
termination_by structural as

theorem Keyword.same_iff (a b : Keyword) : a.same b = true ↔ a.unplaced = b.unplaced := by
  cases a; cases b
  simp [Keyword.same, Keyword.unplaced, Expr.same_iff]
termination_by structural a

theorem sameKeywords_iff (as bs : List Keyword) :
    sameKeywords as bs = true ↔ unplacedKeywords as = unplacedKeywords bs := by
  cases as <;> cases bs <;> simp [sameKeywords, unplacedKeywords, Keyword.same_iff, sameKeywords_iff]
termination_by structural as

theorem Clause.same_iff (a b : Clause) : a.same b = true ↔ a.unplaced = b.unplaced := by
  cases a; cases b
  simp [Clause.same, Clause.unplaced, Expr.same_iff, sameList_iff, and_assoc]
termination_by structural a

theorem sameClauses_iff (as bs : List Clause) : sameClauses as bs = true ↔ unplacedClauses as = unplacedClauses bs := by
  cases as <;> cases bs <;> simp [sameClauses, unplacedClauses, Clause.same_iff, sameClauses_iff]
termination_by structural as

theorem Param.same_iff (a b : Param) : a.same b = true ↔ a.unplaced = b.unplaced := by
  cases a; cases b
  simp [Param.same, Param.unplaced, sameOption_iff, and_assoc]
termination_by structural a

theorem sameParamOption_iff (a b : Option Param) :
    sameParamOption a b = true ↔ unplacedParamOption a = unplacedParamOption b := by
  cases a <;> cases b <;> simp [sameParamOption, unplacedParamOption, Param.same_iff]
termination_by structural a

theorem sameParams_iff (as bs : List Param) : sameParams as bs = true ↔ unplacedParams as = unplacedParams bs := by
  cases as <;> cases bs <;> simp [sameParams, unplacedParams, Param.same_iff, sameParams_iff]
termination_by structural as

theorem Params.same_iff (a b : Params) : a.same b = true ↔ a.unplaced = b.unplaced := by
  cases a; cases b
  simp [Params.same, Params.unplaced, sameParams_iff, sameParamOption_iff, and_assoc]
termination_by structural a

end

theorem Stmt.moved_unplaced (s : Stmt) (span : Span) : (s.moved span).unplaced = s.unplaced := by
  cases s <;> rfl

end Rebind.Syntax
