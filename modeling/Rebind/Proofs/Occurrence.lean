import Rebind.Proofs.Grammar
import Rebind.Proofs.Rows
/-!
What occurs in trees: expressions at any depth, and the identifiers that stand in them. A replacement takes over the
parts of the statement that it replaces; what else is in it names the library or a temporary.
-/
namespace Rebind.Syntax

/-! ### Parts -/

def Param.parts : Param → List Expr
  | .mk _ annotated default => annotated.toList ++ default.toList

def Params.parts (params : Params) : List Expr := params.all.flatMap Param.parts

def Clause.parts : Clause → List Expr
  | .mk _ target iter conditions => target :: iter :: conditions

def Expr.parts : Expr → List Expr
  | .name _ _ | .literal _ _ => []
  | .attribute _ v _ | .unary _ _ v | .starred _ v | .yieldsFrom _ v | .await _ v | .filled v => [v]
  | .subscript _ a b | .binary _ _ a b | .named _ a b => [a, b]
  | .slice _ a b c => a.toList ++ b.toList ++ c.toList
  | .call _ f as ks => f :: (as ++ ks.map Keyword.value)
  | .boolean _ _ as | .tuple _ as | .list _ as | .set _ as => as
  | .compare _ a as => a :: as.map Prod.snd
  | .conditional _ a b c => [a, b, c]
  | .lambda _ p a => p.parts ++ [a]
  | .dict _ as => as.flatMap fun (k, a) => k.toList ++ [a]
  | .listComp _ a cs | .setComp _ a cs | .generator _ a cs => a :: cs.flatMap Clause.parts
  | .dictComp _ k a cs => k :: a :: cs.flatMap Clause.parts
  | .yields _ a => a.toList

def Expr.identifiers : Expr → List String
  | .name _ id => [id]
  | .attribute _ _ attr => [attr]
  | .call _ _ _ ks => ks.filterMap Keyword.name?
  | .lambda _ p _ => p.all.map Param.name
  | _ => []

/-- The first expression stands in the second one, at any depth. -/
inductive Inside (a : Expr) : Expr → Prop
  | self : Inside a a
  | part (held : p ∈ e.parts) (inside : Inside a p) : Inside a e

theorem Inside.trans (first : Inside a b) (second : Inside b c) : Inside a c := by
  induction second with
  | self => exact first
  | part held _ ih => exact .part held ih

def Expr.Mentions (e : Expr) (x : String) : Prop := ∃ a, Inside a e ∧ x ∈ a.identifiers

/-! ### Statements -/

def Stmt.parts : Stmt → List Expr
  | .expr _ v => [v]
  | .assign _ ts v => ts ++ [v]
  | .augmented _ t _ v => [t, v]
  | .annotated _ t y v _ => t :: y :: v.toList
  | .returnValue _ v => v.toList
  | .raise _ e c => e.toList ++ c.toList
  | .assertion _ t m => t :: m.toList
  | .delete _ ts => ts
  | .branch _ t _ _ | .whileLoop _ t _ _ => [t]
  | .forLoop _ _ t i _ _ => [t, i]
  | .withBlock _ _ items _ => items.flatMap fun item => item.context :: item.target.toList
  | .tryBlock _ _ _ handlers _ _ => handlers.flatMap fun (.mk _ type _ _) => type.toList
  | .function _ _ _ p _ ds r => p.parts ++ ds ++ r.toList
  | .classDef _ _ bs ks _ ds => bs ++ ks.map Keyword.value ++ ds
  | _ => []

def Alias.identifiers (a : Alias) : List String := a.name.splitOn "." ++ a.asName.toList

def Stmt.identifiers : Stmt → List String
  | .globalNames _ names | .nonlocalNames _ names => names
  | .importNames _ names => names.flatMap Alias.identifiers
  | .importFrom _ module names _ => (module.map (·.splitOn ".")).getD [] ++ names.flatMap Alias.identifiers
  | .tryBlock _ _ _ handlers _ _ => handlers.flatMap fun (.mk _ _ name _) => name.toList
  | .function _ _ name p _ _ _ => name :: p.all.map Param.name
  | .classDef _ name _ ks _ _ => name :: ks.filterMap Keyword.name?
  | _ => []

def Stmt.Mentions (s : Stmt) (x : String) : Prop := x ∈ s.identifiers ∨ ∃ p ∈ s.parts, p.Mentions x

theorem heads_withBody (handlers : List Handler) (bodies : List (List Stmt)) (f : Handler → List α)
    (blind : ∀ handler body, f (handler.withBody body) = f handler) (count : bodies.length ≥ handlers.length) :
    (List.zipWith Handler.withBody handlers bodies).flatMap f = handlers.flatMap f := by
  induction handlers generalizing bodies with
  | nil => simp
  | cons handler rest ih =>
    cases bodies with
    | nil => simp at count
    | cons body bodies =>
      simp only [List.length_cons] at count
      simp [blind, ih bodies (by omega)]

theorem Stmt.heads_withSuites (s : Stmt) (suites : List (List Stmt)) (count : suites.length = s.suites.length) :
    (s.withSuites suites).parts = s.parts ∧ (s.withSuites suites).identifiers = s.identifiers := by
  cases s with
  | tryBlock _ _ _ handlers _ _ =>
    cases suites with
    | nil => simp [Stmt.suites] at count
    | cons first rest =>
      have enough : rest.length ≥ handlers.length := by
        simp only [Stmt.suites, List.length_cons, List.length_append, List.length_map] at count
        omega
      simp only [Stmt.withSuites, Stmt.parts, Stmt.identifiers]
      exact ⟨heads_withBody handlers rest _ (fun handler _ => by cases handler; rfl) enough,
        heads_withBody handlers rest _ (fun handler _ => by cases handler; rfl) enough⟩
  | _ => rcases suites with _ | ⟨_, _ | ⟨_, _ | ⟨_, _⟩⟩⟩ <;> exact ⟨rfl, rfl⟩

end Rebind.Syntax

namespace Rebind.Update

open Syntax

/-- Some statement of the body, at any position in it, is as said. -/
def Somewhere (holds : Stmt → Prop) (body : List Stmt) : Prop := ∃ s, Within s body ∧ holds s

abbrev Mentioned (x : String) : List Stmt → Prop := Somewhere (·.Mentions x)

section
variable {holds : Stmt → Prop} {policy : Policy} {body block out : List Stmt}

@[simp] theorem somewhere_nil : ¬ Somewhere holds [] := by
  simp [Somewhere]

@[simp] theorem somewhere_cons (s : Stmt) (rest : List Stmt) :
    Somewhere holds (s :: rest) ↔ holds s ∨ (∃ suite ∈ s.suites, Somewhere holds suite) ∨ Somewhere holds rest := by
  constructor
  · rintro ⟨t, within, held⟩
    rw [within_cons] at within
    rcases within with rfl | ⟨suite, member, within⟩ | within
    · exact .inl held
    · exact .inr (.inl ⟨suite, member, t, within, held⟩)
    · exact .inr (.inr ⟨t, within, held⟩)
  · rintro (held | ⟨suite, member, t, within, held⟩ | ⟨t, within, held⟩)
    · exact ⟨s, .here, held⟩
    · exact ⟨t, .inside member within, held⟩
    · exact ⟨t, .later within, held⟩

@[simp] theorem somewhere_append (first second : List Stmt) :
    Somewhere holds (first ++ second) ↔ Somewhere holds first ∨ Somewhere holds second := by
  simp [Somewhere, or_and_right, exists_or]

/-! ### Leaves and blocks -/

theorem somewhere_iff (body : List Stmt) : Somewhere holds body ↔ ∃ s ∈ body, Somewhere holds [s] := by
  induction body with
  | nil => simp
  | cons s rest ih =>
    rw [← List.singleton_append, somewhere_append, ih]
    simp

/-- What is somewhere in a body after its blocks have been replaced was there before, or it is in the replacement of
a leaf. -/
theorem somewhere_lowered {tally last : Tally} (body : List Stmt)
    (heads : ∀ (s : Stmt) suites, suites.length = s.suites.length → holds (s.withSuites suites) → holds s)
    (lowered : lowerBodies policy body tally = (.ok out, last)) (found : Somewhere holds out) :
    Somewhere holds body ∨ ∃ leaf ∈ (outermost policy body).flatMap (leaves policy), ∃ replaced,
      ReplacedWithin policy 1 tally.progress.counter last.progress.counter leaf replaced ∧ Somewhere holds [replaced] := by
  induction body using body_induction generalizing tally last out with
  | nil =>
    cases lowered
    exact .inl found
  | cons s rest inner ih =>
    simp only [outermost, List.flatMap_append, List.mem_append, somewhere_cons s rest]
    rcases lowerBodies_cons_ok s rest lowered with
      ⟨block, piece, middle, later, marked, alone, row, after, rfl⟩ | ⟨suites, middle, later, kept, inside, after, rfl⟩
    · rw [somewhere_append] at found
      rcases found with found | found
      · obtain ⟨r, member, found⟩ := (somewhere_iff piece).mp found
        obtain ⟨leaf, held, replaced⟩ := of_mem_right row.within member
        obtain ⟨only, alone', outer, _⟩ := isBlock_suites policy s marked
        rw [alone, List.cons.injEq] at alone'
        refine .inr ⟨leaf, .inl ?_, r, replaced.wider (Nat.le_refl _) (lowerBodies_le rest after), found⟩
        simpa [outer, ← alone'.1] using held
      · rcases ih after found with before | ⟨leaf, held, r, replaced, found⟩
        · exact .inl (.inr (.inr before))
        · exact .inr ⟨leaf, .inr held, r, replaced.wider row.le (Nat.le_refl _), found⟩
    · have count := lowerSuites_length policy _ inside
      rw [somewhere_cons, Stmt.suites_withSuites s suites count] at found
      rcases found with head | ⟨suite, held, found⟩ | found
      · exact .inl (.inl (heads s suites count head))
      · obtain ⟨old, member, first, last', done, below, above⟩ := lowerSuites_of_mem s.suites inside held
        rcases inner old member done found with before | ⟨leaf, held', r, replaced, found⟩
        · exact .inl (.inr (.inl ⟨old, member, before⟩))
        · refine .inr ⟨leaf, .inl ?_, r, replaced.wider below (Nat.le_trans above (lowerBodies_le rest after)), found⟩
          rw [outermostIn_kept policy s kept]
          simp only [List.mem_flatMap] at held' ⊢
          obtain ⟨block, outer, leaf'⟩ := held'
          exact ⟨block, ⟨old, member, outer⟩, leaf'⟩
      · rcases ih after found with before | ⟨leaf, held, r, replaced, found⟩
        · exact .inl (.inr (.inr before))
        · refine .inr ⟨leaf, .inr held, r, replaced.wider ?_ (Nat.le_refl _), found⟩
          exact lowerSuites_le s.suites (fun suite _ => lowerBodies_le suite) inside

end

/-! ### Replacements -/

/-- The identifiers by which replacements reach the library. -/
def libraryIdentifiers : List String :=
  [libraryName, "setindex_trait", "CAN_MUTATE", "copy_of", "zero_of", "zero_value", "similar_of", "OPERATION_TABLE",
    "dispatch", "axpy_into", "matmul_into", "vec", "restructure", "unflatten_into", "broadcast_call"]

theorem routedList_eq (l : Lines) (es : List Expr) : routedList l es = es.map (routed l) := by
  induction es with
  | nil => rfl
  | cons e es ih => rw [routedList, ih, List.map_cons]

theorem routedOption_eq (l : Lines) (e : Option Expr) : routedOption l e = e.map (routed l) := by
  cases e <;> rfl

theorem routedComparisons_eq (l : Lines) (es : List (CompareOp × Expr)) :
    routedComparisons l es = es.map fun (op, e) => (op, routed l e) := by
  induction es with
  | nil => rfl
  | cons e es ih => rw [routedComparisons, ih, List.map_cons]

theorem routedEntries_eq (l : Lines) (es : List (Option Expr × Expr)) :
    routedEntries l es = es.map fun (k, e) => (k.map (routed l), routed l e) := by
  induction es with
  | nil => rfl
  | cons e es ih => rw [routedEntries, ih, List.map_cons, routedOption_eq]

theorem routedKeywords_eq (ks : List Keyword) :
    routedKeywords ks = ks.map fun k => .mk k.name? (routed k.value.lines k.value) := by
  induction ks with
  | nil => rfl
  | cons k ks ih =>
    cases k
    rw [routedKeywords, ih, List.map_cons]
    rfl

theorem routedClauses_eq (l : Lines) (cs : List Clause) : routedClauses l cs = cs.map (routedClause l) := by
  induction cs with
  | nil => rfl
  | cons c cs ih => rw [routedClauses, ih, List.map_cons]

theorem parts_routedClause (l : Lines) (c : Clause) : (routedClause l c).parts = c.parts.map (routed l) := by
  cases c
  simp [routedClause, Clause.parts, routedList_eq]

/-- The lines that new calls right below an expression stand on. -/
def linesBelow (around : Lines) : Expr → Lines
  | .filled _ => around
  | e => e.lines

theorem parts_routed_eq (l : Lines) (e : Expr) (notCall : ∀ l f as ks, e ≠ .call l f as ks)
    (notLambda : ∀ l p b, e ≠ .lambda l p b) : (routed l e).parts = e.parts.map (routed (linesBelow l e)) := by
  have options (l : Lines) (e : Option Expr) : (e.map (routed l)).toList = e.toList.map (routed l) := by
    cases e <;> rfl
  cases e with
  | call l f as ks => exact absurd rfl (notCall l f as ks)
  | lambda l p b => exact absurd rfl (notLambda l p b)
  | _ =>
    simp [routed, linesBelow, Expr.lines, Expr.parts, routedList_eq, routedOption_eq, routedComparisons_eq,
      routedEntries_eq, routedClauses_eq, parts_routedClause, options, List.map_flatMap, List.flatMap_map,
      Function.comp_def]

/-- Below an expression whose calls are routed there are the routed parts of the expression, and the function that
routes. A lambda stays as it is. -/
theorem parts_routed (l : Lines) (e : Expr) (held : p ∈ (routed l e).parts) :
    p = library l "broadcast_call" ∨ (∃ q ∈ e.parts, ∃ l', p = routed l' q) ∨ p ∈ e.parts := by
  cases e with
  | lambda l p b => exact .inr (.inr held)
  | call l' f as ks =>
    simp only [routed, Expr.parts, routedList_eq, routedKeywords_eq, List.mem_cons, List.mem_append, List.mem_map,
      Keyword.value, exists_exists_and_eq_and] at held
    rcases held with rfl | (rfl | ⟨a, given, rfl⟩) | ⟨k, given, rfl⟩
    · exact .inl rfl
    · exact .inr (.inl ⟨f, by simp [Expr.parts], l, rfl⟩)
    · exact .inr (.inl ⟨a, by simp [Expr.parts, given], l, rfl⟩)
    · exact .inr (.inl ⟨k.value, by simpa [Expr.parts] using .inr (.inr ⟨k, given, rfl⟩), k.value.lines, rfl⟩)
  | _ =>
    right; left
    rw [parts_routed_eq l _ (by simp) (by simp), List.mem_map] at held
    obtain ⟨q, given, rfl⟩ := held
    exact ⟨q, given, _, rfl⟩

theorem identifiers_routed (l : Lines) (e : Expr) : (routed l e).identifiers = e.identifiers := by
  cases e with
  | call l' f as ks =>
    rw [routed, Expr.identifiers, Expr.identifiers, routedKeywords_eq, List.filterMap_map]
    rfl
  | _ => rfl

theorem inside_routed (l : Lines) (e : Expr) (inside : Inside a (routed l e)) :
    (∃ l', Inside a (library l' "broadcast_call")) ∨ (∃ b l', Inside b e ∧ a = routed l' b) ∨ Inside a e := by
  generalize whole : routed l e = r at inside
  induction inside generalizing l e with
  | self => exact .inr (.inl ⟨e, l, .self, whole.symm⟩)
  | part held inside ih =>
    subst whole
    rcases parts_routed l e held with rfl | ⟨q, given, l', rfl⟩ | given
    · exact .inl ⟨l, inside⟩
    · rcases ih l' q rfl with routes | ⟨b, l'', inner, same⟩ | inner
      · exact .inl routes
      · exact .inr (.inl ⟨b, l'', .part given inner, same⟩)
      · exact .inr (.inr (.part given inner))
    · exact .inr (.inr (.part given inside))

theorem routed_eq_lambda (same : routed l e = .lambda l' p b) : e = .lambda l' p b := by
  cases e <;> simp_all [routed]

def Form.parts : Form → List Expr
  | .allocation _ target source => [target, source]
  | .operation _ target operands => target :: operands
  | .axpy alpha x beta y => alpha :: x :: y :: beta.toList
  | .broadcast _ target value | .elementwise target value => [target, value]
  | .product target left right _ _ => [target, left, right]
  | .unsupported _ => []

/-- An expression of a replacement: a part of the form, with its calls routed or not, or put together from such parts
by names of the library and the temporary. -/
inductive Composed (form : Form) (number : Nat) : Expr → Prop
  | part (member : p ∈ form.parts) : Composed form number p
  | routed (member : p ∈ form.parts) : Composed form number (routed l p)
  | built (named : ∀ x ∈ e.identifiers, x ∈ libraryIdentifiers ∨ form.needsTemporary = true ∧ x = temporaryName number)
      (open_ : ∀ l p b, e ≠ .lambda l p b) (parts : ∀ p ∈ e.parts, Composed form number p) : Composed form number e

section
variable {form : Form} {number : Nat}

theorem Composed.library (l : Lines) (named : attr ∈ libraryIdentifiers) : Composed form number (library l attr) := by
  refine .built (by simp [Update.library, Expr.identifiers, named]) (by simp [Update.library]) ?_
  simp only [Update.library, Expr.parts, List.mem_singleton, forall_eq]
  refine .built ?_ (by simp) (by simp [Expr.parts])
  simp [Expr.identifiers, libraryIdentifiers]

theorem Composed.call (func : Composed form number f) (args : ∀ a ∈ as, Composed form number a) :
    Composed form number (call l f as) := by
  refine .built (by simp [Update.call, Expr.identifiers]) (by simp [Update.call]) ?_
  simpa [Update.call, Expr.parts] using ⟨func, args⟩

theorem Composed.callLibrary (named : attr ∈ libraryIdentifiers) (args : ∀ a ∈ as, Composed form number a) :
    Composed form number (callLibrary l attr as) :=
  .call (.library l named) args

theorem Composed.literal : Composed form number (.literal l v) :=
  .built (by simp [Expr.identifiers]) (by simp) (by simp [Expr.parts])

theorem Composed.binary (left : Composed form number a) (right : Composed form number b) :
    Composed form number (.binary l op a b) :=
  .built (by simp [Expr.identifiers]) (by simp) (by simpa [Expr.parts] using ⟨left, right⟩)

theorem Composed.subscript (value : Composed form number a) (index : Composed form number b) :
    Composed form number (.subscript l a b) :=
  .built (by simp [Expr.identifiers]) (by simp) (by simpa [Expr.parts] using ⟨value, index⟩)

theorem Composed.whole (target : Composed form number t) : Composed form number (whole l t) := target.subscript .literal

theorem Composed.attribute (value : Composed form number v) (named : attr ∈ libraryIdentifiers) :
    Composed form number (.attribute l v attr) :=
  .built (by simp [Expr.identifiers, named]) (by simp) (by simpa [Expr.parts] using value)

/-- A body of simple statements is made of composed expressions. -/
def ComposedBody (form : Form) (number : Nat) (body : List Stmt) : Prop :=
  ∀ s, Within s body → s.identifiers = [] ∧ ∀ p ∈ s.parts, Composed form number p

theorem composedBody_append (first : ComposedBody form number body) (second : ComposedBody form number rest) :
    ComposedBody form number (body ++ rest) := by
  intro s within
  rw [within_append] at within
  rcases within with within | within
  · exact first s within
  · exact second s within

theorem composedBody_simple (flat : s.suites = []) (bare : s.identifiers = [])
    (parts : ∀ p ∈ s.parts, Composed form number p) : ComposedBody form number [s] := by
  intro t within
  simp only [within_cons, flat, List.not_mem_nil, false_and, exists_false, within_nil, or_false] at within
  exact within ▸ ⟨bare, parts⟩

theorem composedBody_assign (target : Composed form number t) (value : Composed form number v) :
    ComposedBody form number [assign span t v] :=
  composedBody_simple rfl rfl (by simpa [assign, Stmt.parts] using ⟨target, value⟩)

theorem composedBody_expr (value : Composed form number v) : ComposedBody form number [.expr span v] :=
  composedBody_simple rfl rfl (by simpa [Stmt.parts] using value)

theorem composedBody_capabilityBranch (tested : Composed form number t) (first : ComposedBody form number body)
    (second : ComposedBody form number orelse) : ComposedBody form number [capabilityBranch span t body orelse] := by
  intro s within
  simp only [within_cons, capabilityBranch, Stmt.suites, List.mem_cons, List.not_mem_nil, or_false,
    exists_eq_or_imp, exists_eq_left, within_nil] at within
  rcases within with rfl | within | within
  · refine ⟨rfl, ?_⟩
    simp only [Stmt.parts, List.mem_singleton, forall_eq]
    refine .built (by simp [Expr.identifiers]) (by simp) ?_
    simp only [Expr.parts, List.map_cons, List.map_nil, List.forall_mem_singleton, List.forall_mem_cons]
    exact ⟨.callLibrary (by decide) (by simpa using tested), .library _ (by decide)⟩
  · exact first s within
  · exact second s within

section
variable (left : Composed form number a) (right : Composed form number b) (accumulate : Bool)
include left right

theorem composed_productInto (into : Composed form number i) :
    ComposedBody form number [productInto span i a b accumulate] := by
  refine composedBody_expr (.callLibrary (by decide) ?_)
  cases accumulate <;> simp [into, left, right, one, Composed.literal]

theorem composed_productBound (target : Composed form number t) :
    ComposedBody form number [productBound span t a b accumulate] := by
  have shaped : Composed form number (callLibrary span.lines "restructure" [t, .binary span.lines .matMult a b]) :=
    .callLibrary (by decide) (by simpa using ⟨target, left.binary right⟩)
  refine composedBody_assign target ?_
  cases accumulate
  · exact shaped
  · exact target.binary shaped

theorem composed_flatProduct (needs : form.needsTemporary = true) (target : Composed form number t) :
    ComposedBody form number [flatProductReplacement span (temporaryName number) t a b accumulate] := by
  have flat : Composed form number (.name span.lines (temporaryName number)) :=
    .built (by simp [Expr.identifiers, needs]) (by simp) (by simp [Expr.parts])
  refine composedBody_capabilityBranch target ?_ (composed_productBound left right accumulate target)
  refine composedBody_append (composedBody_assign flat (.callLibrary (by decide) (by simpa using target))) ?_
  refine composedBody_append (composed_productInto left right accumulate flat) (composedBody_expr ?_)
  exact .callLibrary (by decide) (by simpa using ⟨target, flat⟩)

end

theorem replacement_composed (form : Form) (made : form.replacement? span number = some replaced) :
    ComposedBody form number [replaced] := by
  have part (e : Expr) (member : e ∈ form.parts) : Composed form number e := .part member
  cases form with
  | allocation kind target source =>
    simp only [Form.parts, List.forall_mem_singleton, List.forall_mem_cons] at part
    have made' (attr : String) (named : attr ∈ libraryIdentifiers) : ComposedBody (.allocation kind target source) number
        [assign span target (callLibrary span.lines attr [source])] :=
      composedBody_assign part.1 (.callLibrary named (by simpa using part.2))
    cases kind <;> cases made
    · exact composedBody_capabilityBranch part.2 (made' _ (by decide)) (composedBody_assign part.1 part.2)
    · exact composedBody_capabilityBranch part.2 (made' _ (by decide)) (made' _ (by decide))
    · exact composedBody_capabilityBranch part.2 (made' _ (by decide)) (composedBody_assign part.1 part.2)
  | operation op target operands =>
    cases made
    have target' := part target (by simp [Form.parts])
    refine composedBody_assign target' (.call (.attribute (.subscript (.library _ (by decide)) .literal) (by decide)) ?_)
    simp only [List.forall_mem_cons]
    refine ⟨.callLibrary (by decide) (by simpa using target'), target', fun e member => part e ?_⟩
    simp [Form.parts, member]
  | axpy alpha x beta y =>
    cases made
    have alpha' := part alpha (by simp [Form.parts])
    have x' := part x (by simp [Form.parts])
    have y' := part y (by simp [Form.parts])
    refine composedBody_capabilityBranch y' (composedBody_expr (.callLibrary (by decide) fun e member => part e ?_))
      (composedBody_assign y' (.binary (.binary alpha' x') ?_))
    · simpa [Form.parts, or_assoc] using member
    · cases beta with
      | none => exact y'
      | some beta => exact .binary (part beta (by simp [Form.parts])) y'
  | broadcast op target value =>
    simp only [Form.parts, List.forall_mem_singleton, List.forall_mem_cons] at part
    cases op <;> cases made
    · exact composedBody_capabilityBranch part.1 (composedBody_assign part.1.whole part.2)
        (composedBody_assign part.1 part.2)
    · exact composedBody_capabilityBranch part.1
        (composedBody_simple rfl rfl (by simpa [Stmt.parts] using ⟨part.1.whole, part.2⟩))
        (composedBody_assign part.1 (part.1.binary part.2))
  | elementwise target value =>
    cases made
    have target' := part target (by simp [Form.parts])
    have value' : Composed (.elementwise target value) number (routed span.lines value) :=
      .routed (by simp [Form.parts])
    exact composedBody_capabilityBranch target' (composedBody_assign target'.whole value')
      (composedBody_assign target' value')
  | product target left right flattened accumulate =>
    simp only [Form.parts, List.forall_mem_singleton, List.forall_mem_cons] at part
    obtain ⟨target', left', right'⟩ := part
    cases flattened <;> cases made
    · exact composedBody_capabilityBranch target' (composed_productInto left' right' accumulate target')
        (composed_productBound left' right' accumulate target')
    · exact composed_flatProduct (.callLibrary (by decide) (by simpa using left')) right' accumulate rfl target'
    · exact composed_flatProduct left' (.callLibrary (by decide) (by simpa using right')) accumulate rfl target'
    · exact composedBody_capabilityBranch target' (composed_productInto left' right' accumulate target')
        (composed_productBound left' right' accumulate target')
  | unsupported _ => cases made

theorem inside_library (named : attr ∈ libraryIdentifiers) (inside : Inside a (library l attr)) :
    (∀ x ∈ a.identifiers, x ∈ libraryIdentifiers) ∧ ∀ l p b, a ≠ .lambda l p b := by
  cases inside with
  | self => simp [library, Expr.identifiers, named]
  | part held inside =>
    simp only [library, Expr.parts, List.mem_singleton] at held
    subst held
    cases inside with
    | self => simp [Expr.identifiers, libraryIdentifiers]
    | part held _ => simp [Expr.parts] at held

theorem Composed.inside (composed : Composed form number e) (inside : Inside a e) :
    (∃ p ∈ form.parts, ∃ b, Inside b p ∧ (a = b ∨ ∃ l, a = Update.routed l b)) ∨
      ((∀ x ∈ a.identifiers, x ∈ libraryIdentifiers ∨ form.needsTemporary = true ∧ x = temporaryName number) ∧
        ∀ l p b, a ≠ .lambda l p b) := by
  induction composed with
  | part member => exact .inl ⟨_, member, a, inside, .inl rfl⟩
  | routed member =>
    rcases inside_routed _ _ inside with ⟨l, routes⟩ | ⟨b, l, inner, same⟩ | inner
    · obtain ⟨named, notLambda⟩ := inside_library (by decide) routes
      exact .inr ⟨fun x own => .inl (named x own), notLambda⟩
    · exact .inl ⟨_, member, b, inner, .inr ⟨l, same⟩⟩
    · exact .inl ⟨_, member, a, inner, .inl rfl⟩
  | built named notLambda parts ih =>
    cases inside with
    | self => exact .inr ⟨named, notLambda⟩
    | part held inside => exact ih _ held inside

end
end Rebind.Update
