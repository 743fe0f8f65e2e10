import Rebind.Proofs.Grammar
import Rebind.Proofs.Nesting
/-!
Rewriting looks at no names but the reserved ones: the words that head a form, the names that mark a block,
the name of the library and those of the temporaries. So a block can be renamed before it is replaced or
after, also where two names become one.
-/
namespace Rebind.Update

open Syntax

/-- The names that rewriting looks for or makes up. -/
def Reserved (policy : Policy) (id : String) : Prop :=
  id ∈ headWords ∨ id ∈ policy.blockNames ∨ id = libraryName ∨ ∃ number, id = temporaryName number

/-- A map on names that fixes the reserved ones and takes no other name to one of them. -/
structure Renaming (policy : Policy) where
  image : String → String
  fixes : ∀ id, Reserved policy id → image id = id
  avoids : ∀ id, ¬ Reserved policy id → ¬ Reserved policy (image id)

namespace Renaming
variable {policy : Policy} (r : Renaming policy) {id word : String}

def name (_bound : Bool) (lines : Lines) (id : String) : Expr := .name lines (r.image id)

abbrev expr (e : Expr) : Expr := e.mapNames r.name false

abbrev stmt (s : Stmt) : Stmt := s.mapNames r.name

abbrev body (b : List Stmt) : List Stmt := mapNamesBody r.name b

def form : Form → Form
  | .allocation kind target source => .allocation kind (r.expr target) (r.expr source)
  | .operation op target operands => .operation op (r.expr target) (operands.map r.expr)
  | .axpy alpha x beta y => .axpy (r.expr alpha) (r.expr x) (beta.map r.expr) (r.expr y)
  | .broadcast op target value => .broadcast op (r.expr target) (r.expr value)
  | .elementwise target value => .elementwise (r.expr target) (r.expr value)
  | .product target left right flattened accumulate =>
    .product (r.expr target) (r.expr left) (r.expr right) flattened accumulate
  | .unsupported s => .unsupported (r.stmt s)

theorem image_eq_iff (reserved : Reserved policy word) : r.image id = word ↔ id = word := by
  constructor
  · rintro rfl
    by_cases free : Reserved policy id
    · exact (r.fixes id free).symm
    · exact absurd reserved (r.avoids id free)
  · rintro rfl
    exact r.fixes id reserved

/-! ### Parts of statements -/

section Parts
variable (e t : Expr) (span : Span)

@[simp] theorem list_eq (bound : Bool) (es : List Expr) :
    mapNamesList r.name bound es = es.map (·.mapNames r.name bound) := by
  induction es with
  | nil => rfl
  | cons e es ih => rw [mapNamesList, ih, List.map_cons]

@[simp] theorem callHead?_expr : callHead? (r.expr e) = (callHead? e).map r.image := by
  cases e with
  | call _ f _ _ => cases f <;> rfl
  | _ => rfl

theorem headed_iff (word : String) (head : word ∈ headWords) :
    (callHead? e).map r.image = some word ↔ callHead? e = some word := by
  cases callHead? e <;> simp [r.image_eq_iff (.inl head)]

@[simp] theorem bind_ofHead? :
    ((callHead? e).map r.image).bind Allocation.ofHead? = (callHead? e).bind Allocation.ofHead? := by
  refine Option.ext fun kind => ?_
  have head : kind.head ∈ headWords := by cases kind <;> decide
  cases callHead? e <;> simp [ofHead?_eq_some_iff, r.image_eq_iff (.inl head)]

@[simp] theorem bind_ofName? :
    ((callHead? e).map r.image).bind TableOp.ofName? = (callHead? e).bind TableOp.ofName? := by
  refine Option.ext fun op => ?_
  have head : op.name ∈ headWords := by cases op <;> decide
  cases callHead? e <;> simp [ofName?_eq_some_iff, r.image_eq_iff (.inl head)]

@[simp] theorem isReference_expr : isReference (r.expr e) = isReference e := by
  fun_induction isReference e with
  | case1 => rfl
  | case2 _ value _ ih => simpa [Expr.mapNames, isReference] using ih
  | case3 e notName notAttribute => cases e <;> simp_all [Expr.mapNames, isReference]

@[simp] theorem isName_expr : isName (r.expr e) = isName e := by
  cases e <;> rfl

@[simp] theorem isStarred_expr : isStarred (r.expr e) = isStarred e := by
  cases e <;> rfl

@[simp] theorem plainArgs?_expr : plainArgs? (r.expr e) = (plainArgs? e).map (List.map r.expr) := by
  cases e with
  | call _ f args keywords =>
    cases keywords with
    | nil =>
      simp only [Expr.mapNames, mapNamesKeywords, list_eq, plainArgs?, List.any_map, Function.comp_def, isStarred_expr]
      split <;> rfl
    | cons _ _ => rfl
  | _ => rfl

@[simp] theorem wholeOf?_expr : wholeOf? (r.expr e) = (wholeOf? e).map r.expr := by
  cases e with
  | subscript l value index =>
    cases index with
    | literal l v =>
      cases v with
      | ellipsis => simp [Expr.mapNames, wholeOf?, apply_ite (Option.map r.expr)]
      | _ => rfl
    | _ => rfl
  | _ => rfl

/-! ### The recognisers -/

theorem argsOf?_expr (word : String) (head : word ∈ headWords) :
    argsOf? word (r.expr e) = (argsOf? word e).map (List.map r.expr) := by
  simp [argsOf?, r.headed_iff e word head, apply_ite (Option.map _)]

theorem axpy?_stmt : axpy? (.expr span (r.expr e)) = (axpy? (.expr span e)).map r.form := by
  simp only [axpy?, r.argsOf?_expr e "axpy" (by decide), r.argsOf?_expr e "axpby" (by decide)]
  rcases argsOf? "axpy" e with _ | _ | ⟨_, _ | ⟨_, _ | ⟨_, _ | _⟩⟩⟩ <;>
    rcases argsOf? "axpby" e with _ | _ | ⟨_, _ | ⟨_, _ | ⟨_, _ | ⟨_, _ | _⟩⟩⟩⟩ <;>
    simp [form, apply_ite (Option.map r.form)]

theorem operationCall?_stmt : operationCall? (.expr span (r.expr e)) = (operationCall? (.expr span e)).map r.form := by
  simp only [operationCall?, callHead?_expr, bind_ofName?, plainArgs?_expr]
  cases (callHead? e).bind TableOp.ofName? with
  | none => rfl
  | some op => rcases plainArgs? e with _ | _ | _ <;> simp [form, apply_ite (Option.map r.form)]

theorem allocation?_stmt :
    allocation? (.assign span [r.expr t] (r.expr e)) = (allocation? (.assign span [t] e)).map r.form := by
  simp only [allocation?, callHead?_expr, bind_ofHead?, plainArgs?_expr]
  cases (callHead? e).bind Allocation.ofHead? with
  | none => rfl
  | some kind => rcases plainArgs? e with _ | _ | ⟨_, _ | _⟩ <;> simp [form, apply_ite (Option.map r.form)]

theorem assignedOperation?_expr : assignedOperation? (r.expr t) (r.expr e) = (assignedOperation? t e).map r.form := by
  simp only [assignedOperation?, callHead?_expr, bind_ofName?, plainArgs?_expr]
  cases (callHead? e).bind TableOp.ofName? with
  | none => rfl
  | some op => cases plainArgs? e <;> simp [form, apply_ite (Option.map r.form)]

theorem factors?_expr : factors? (r.expr e) = (factors? e).map (Option.map (Prod.map r.expr r.expr)) := by
  cases e with
  | binary l op _ _ => cases op <;> rfl
  | call l f args keywords =>
    have named := r.callHead?_expr (.call l f args keywords)
    have plain := r.plainArgs?_expr (.call l f args keywords)
    simp only [Expr.mapNames] at named plain ⊢
    simp only [factors?, named, plain, r.headed_iff _ "matmul" (by decide)]
    split
    · rcases plainArgs? (.call l f args keywords) with _ | _ | ⟨_, _ | ⟨_, _ | _⟩⟩ <;> rfl
    · rfl
  | _ => rfl

theorem factor_expr : factor (r.expr e) = (factor e).map fun p => (r.expr p.1, p.2) := by
  simp only [factor, callHead?_expr, plainArgs?_expr, r.headed_iff _ "vec" (by decide)]
  split
  · rcases plainArgs? e with _ | _ | ⟨_, _ | _⟩ <;> rfl
  · rfl

theorem product_expr (factors : Expr × Expr) (accumulate : Bool) :
    product (r.expr t) (factors.map r.expr r.expr) accumulate = (product t factors accumulate).map r.form := by
  simp only [product, isReference_expr, Prod.map, factor_expr]
  split
  · cases factor factors.1 with
    | error _ => rfl
    | ok _ => cases factor factors.2 <;> rfl
  · rfl

theorem assignment?_stmt :
    assignment? (.assign span [r.expr t] (r.expr e)) = (assignment? (.assign span [t] e)).map (Option.map r.form) := by
  simp only [assignment?, factors?_expr, wholeOf?_expr, assignedOperation?_expr]
  rcases factors? e with _ | _ | factors
  · rfl
  · rfl
  · simp only [Except.map, Option.map_some, bind, Except.bind, Option.isSome_map, product_expr]
    split
    · rfl
    · cases product t factors false <;> rfl

theorem elementwise?_stmt :
    elementwise? (.assign span [r.expr t] (r.expr e)) = (elementwise? (.assign span [t] e)).map (Option.map r.form) := by
  simp only [elementwise?, callHead?_expr, plainArgs?_expr, r.headed_iff _ "elementwise" (by decide), isReference_expr]
  split
  · rcases plainArgs? e with _ | _ | ⟨_, _ | _⟩ <;> cases isReference t <;> rfl
  · rfl

theorem accumulation?_stmt (accumulate : Bool) (op : BinaryOp) :
    accumulation? accumulate (.augmented span (r.expr t) op (r.expr e)) =
      (accumulation? accumulate (.augmented span t op e)).map (Option.map r.form) := by
  cases op with
  | add =>
    simp only [accumulation?, wholeOf?_expr, Option.isNone_map, factors?_expr]
    split
    · rcases factors? e with _ | _ | factors
      · rfl
      · rfl
      · simp only [Except.map, Option.map_some, bind, Except.bind, product_expr]
        cases product t factors true <;> rfl
    · rfl
  | _ => rfl

end Parts

theorem special?_stmt (accumulate : Bool) (s : Stmt) :
    special? accumulate (r.stmt s) = (special? accumulate s).map (Option.map r.form) := by
  cases s with
  | expr span e => simp only [Stmt.mapNames, special?_expr, axpy?_stmt, operationCall?_stmt, Except.map, ← Option.map_or]
  | assign span targets e =>
    rcases targets with _ | ⟨t, _ | _⟩
    · rfl
    · simp only [Stmt.mapNames, mapNamesList, special?_assign, allocation?_stmt, assignment?_stmt, elementwise?_stmt]
      cases allocation? (.assign span [t] e) with
      | some _ => rfl
      | none => rcases assignment? (.assign span [t] e) with _ | _ | _ <;> rfl
    · rfl
  | augmented span t op e => exact r.accumulation?_stmt e t span accumulate op
  | _ => rfl

theorem general_stmt (s : Stmt) : general (r.stmt s) = r.form (general s) := by
  cases s with
  | assign span targets e =>
    rcases targets with _ | ⟨t, _ | _⟩
    · rfl
    · simp only [general, Stmt.mapNames, mapNamesList, broadcast?, wholeOf?_expr]
      cases wholeOf? t <;> rfl
    · rfl
  | augmented span t op e =>
    simp only [general, Stmt.mapNames, broadcast?, wholeOf?_expr]
    cases InPlaceOp.ofBinary? op <;> cases wholeOf? t <;> rfl
  | _ => rfl

/-! ### Replacements -/

@[simp] theorem library_expr (l : Lines) (attr : String) : r.expr (library l attr) = library l attr := by
  have fixed : r.image libraryName = libraryName := r.fixes _ (.inr (.inr (.inl rfl)))
  simp only [library, Expr.mapNames, name, fixed]

@[simp] theorem callLibrary_expr (l : Lines) (attr : String) (args : List Expr) :
    r.expr (callLibrary l attr args) = callLibrary l attr (args.map r.expr) := by
  simp [callLibrary, call, Expr.mapNames, mapNamesKeywords]

@[simp] theorem capabilityBranch_stmt (span : Span) (tested : Expr) (first second : List Stmt) :
    r.stmt (capabilityBranch span tested first second) =
      capabilityBranch span (r.expr tested) (r.body first) (r.body second) := by
  simp [capabilityBranch, Stmt.mapNames, Expr.mapNames, mapNamesComparisons]

@[simp] theorem lines_mapNames (e : Expr) (bound : Bool) : (e.mapNames r.name bound).lines = e.lines := by
  cases e with
  | filled e => exact lines_mapNames e false
  | _ => rfl

theorem routed_mapNames : ∀ (l : Lines) (e : Expr) (bound : Bool),
    (routed l e).mapNames r.name bound = routed l (e.mapNames r.name bound) := by
  have helper := fun l => r.library_expr l "broadcast_call"
  -- One statement for each of the functions that `routed` goes through.
  apply routed.induct (fun l e => ∀ bound, (routed l e).mapNames r.name bound = routed l (e.mapNames r.name bound))
    (fun l cs => mapNamesClauses r.name (routedClauses l cs) = routedClauses l (mapNamesClauses r.name cs))
    (fun l c => (routedClause l c).mapNames r.name = routedClause l (c.mapNames r.name))
    (fun l as => ∀ bound, mapNamesList r.name bound (routedList l as) = routedList l (mapNamesList r.name bound as))
    (fun l as => mapNamesEntries r.name (routedEntries l as) = routedEntries l (mapNamesEntries r.name as))
    (fun l a => mapNamesOption r.name (routedOption l a) = routedOption l (mapNamesOption r.name a))
    (fun l as => mapNamesComparisons r.name (routedComparisons l as) = routedComparisons l (mapNamesComparisons r.name as))
    (fun ks => mapNamesKeywords r.name (routedKeywords ks) = routedKeywords (mapNamesKeywords r.name ks))
    (fun k => (routedKeyword k).mapNames r.name = routedKeyword (k.mapNames r.name)) <;>
  intros <;> simp_all only [routed, Expr.mapNames, routedClauses, mapNamesClauses, routedClause, Clause.mapNames,
    routedList, mapNamesList, routedEntries, mapNamesEntries, routedOption, mapNamesOption, routedComparisons,
    mapNamesComparisons, routedKeywords, mapNamesKeywords, routedKeyword, Keyword.mapNames, lines_mapNames, name, expr]

@[simp] theorem needsTemporary_form (form : Form) : (r.form form).needsTemporary = form.needsTemporary := by
  cases form with
  | product _ _ _ flattened _ => cases flattened <;> rfl
  | _ => rfl

attribute [local simp] Stmt.mapNames Expr.mapNames mapNamesBody mapNamesKeywords assign whole call one in
theorem replacement?_form (form : Form) (span : Span) (number : Nat) :
    (r.form form).replacement? span number = (form.replacement? span number).map r.stmt := by
  have temporary : r.image (temporaryName number) = temporaryName number := r.fixes _ (.inr (.inr (.inr ⟨number, rfl⟩)))
  cases form with
  | allocation kind _ _ => cases kind <;> simp [Renaming.form, Form.replacement?, allocationReplacement]
  | operation _ _ _ => simp [Renaming.form, Form.replacement?, operationReplacement]
  | axpy _ _ beta _ => cases beta <;> simp [Renaming.form, Form.replacement?, axpyReplacement]
  | broadcast op _ _ => cases op <;> simp [Renaming.form, Form.replacement?, broadcastReplacement]
  | elementwise _ _ => simp [Renaming.form, Form.replacement?, elementwiseReplacement, routed_mapNames]
  | product _ _ _ flattened accumulate =>
    cases flattened <;> cases accumulate <;>
      simp [Renaming.form, Form.replacement?, flatProductReplacement, productInto, productBound, name, temporary]
  | unsupported _ => rfl

/-! ### Blocks -/

@[simp] theorem span_stmt (s : Stmt) : (r.stmt s).span = s.span := by
  cases s <;> rfl

theorem body_append (first second : List Stmt) : r.body (first ++ second) = r.body first ++ r.body second := by
  induction first with
  | nil => rfl
  | cons s rest ih => exact congrArg (r.stmt s :: ·) ih

theorem isMarker_expr (e : Expr) : policy.isMarker (r.expr e) = policy.isMarker e := by
  cases e with
  | name l id =>
    have kept : r.image id ∈ policy.blockNames ↔ id ∈ policy.blockNames := by
      constructor
      · intro marks
        exact (r.image_eq_iff (.inr (.inl marks))).mp rfl ▸ marks
      · intro marks
        rwa [r.fixes id (.inr (.inl marks))]
    simp [Expr.mapNames, Policy.isMarker, name, kept]
  | _ => rfl

theorem isBlock_stmt (s : Stmt) : policy.isBlock (r.stmt s) = policy.isBlock s := by
  cases s with
  | withBlock span isAsync items body =>
    cases isAsync with
    | true => rfl
    | false =>
      rcases items with _ | ⟨⟨context, _ | _⟩, _ | _⟩ <;> try rfl
      exact r.isMarker_expr context
  | _ => rfl

/-- A step, and the same step among renamed statements. -/
inductive Follows : Step (List Stmt) → Step (List Stmt) → Prop where
  | done (out : List Stmt) (counter : Nat) (log log' : List Event) :
    Follows (.ok out, ⟨counter, log⟩) (.ok (r.body out), ⟨counter, log'⟩)
  | failed (same : SameKind fault fault') (counter : Nat) (log log' : List Event) :
    Follows (.error fault, ⟨counter, log⟩) (.error fault', ⟨counter, log'⟩)

theorem Follows.followed {a b : Step (List Stmt)} {f g : List Stmt → Progress → Step (List Stmt)}
    (first : Follows r a b)
    (next : ∀ out counter log log', r.Follows (f out ⟨counter, log⟩) (g (r.body out) ⟨counter, log'⟩)) :
    r.Follows (a.followed f) (b.followed g) := by
  cases first with
  | done out counter log log' => exact next out counter log log'
  | failed same counter log log' => exact .failed same counter log log'

theorem lowerLeaf_follows (noExpanders : policy.expanders = []) (s : Stmt) (counter : Nat) (log log' : List Event) :
    r.Follows (lowerLeaf policy depth s ⟨counter, log⟩) (lowerLeaf policy depth (r.stmt s) ⟨counter, log'⟩) := by
  have taken (form : Form) (found : (recognise policy depth s).outcome = .ok form)
      (found' : (recognise policy depth (r.stmt s)).outcome = .ok (r.form form)) :
      r.Follows (lowerLeaf policy depth s ⟨counter, log⟩) (lowerLeaf policy depth (r.stmt s) ⟨counter, log'⟩) := by
    simp only [lowerLeaf, lowerStatement, found, found', span_stmt, replacement?_form, needsTemporary_form]
    cases form.replacement? s.span (if form.needsTemporary then counter + 1 else counter) with
    | none => exact .failed (.unsupported _ _) _ _ _
    | some replaced => exact .done [replaced] _ _ _
  have outcome := recognise_plain policy depth s noExpanders
  have outcome' := recognise_plain policy depth (r.stmt s) noExpanders
  rw [special?_stmt, general_stmt] at outcome'
  rcases found : special? policy.accumulate s with wrong | _ | form <;> rw [found] at outcome outcome'
  · simp only [lowerLeaf, lowerStatement, outcome, outcome']
    exact .failed (.malformed _ _ _ _) _ _ _
  · exact taken (general s) outcome outcome'
  · exact taken form outcome outcome'

mutual

theorem lowerNested_follows (noExpanders : policy.expanders = []) (s : Stmt) (depth : Int) (counter : Nat)
    (log log' : List Event) :
    r.Follows (lowerNested policy depth s ⟨counter, log⟩) (lowerNested policy depth (r.stmt s) ⟨counter, log'⟩) := by
  cases s with
  | withBlock span isAsync items body =>
    have same := r.isBlock_stmt (.withBlock span isAsync items body)
    simp only [Stmt.mapNames] at same ⊢
    simp only [lowerNested, same]
    split
    · split
      · exact .failed (.expansion _ _ _ _) _ _ _
      · exact lowerBlock_follows noExpanders body (depth + 1) counter log log'
    · exact r.lowerLeaf_follows noExpanders (.withBlock span isAsync items body) counter log log'
  | _ => exact r.lowerLeaf_follows noExpanders _ counter log log'

theorem lowerBlock_follows (noExpanders : policy.expanders = []) (body : List Stmt) (depth : Int) (counter : Nat)
    (log log' : List Event) :
    r.Follows (lowerBlock policy depth body ⟨counter, log⟩) (lowerBlock policy depth (r.body body) ⟨counter, log'⟩) := by
  cases body with
  | nil => exact .done [] counter log log'
  | cons s rest =>
    rw [Renaming.body, mapNamesBody, lowerBlock_cons, lowerBlock_cons]
    refine (lowerNested_follows noExpanders s depth counter log log').followed r fun done counter log log' => ?_
    refine (lowerBlock_follows noExpanders rest depth counter log log').followed r fun later counter log log' => ?_
    exact r.body_append done later ▸ .done (done ++ later) counter log log'

end

end Renaming

/-- Renaming first and then replacing comes to replacing first and then renaming, with the same temporaries; where
one fails so does the other, with the same complaint. -/
theorem lowerBlock_renamed (policy : Policy) (noExpanders : policy.expanders = []) (r : Renaming policy) (depth : Int)
    (body : List Stmt) (progress : Progress) :
    r.Follows (lowerBlock policy depth body progress) (lowerBlock policy depth (r.body body) progress) :=
  r.lowerBlock_follows noExpanders body depth progress.counter progress.log progress.log

theorem not_reserved (id : String) (short : id.length < 6) (other : id ∉ headWords ++ policy.blockNames) :
    ¬ Reserved policy id := by
  rintro (listed | listed | rfl | ⟨number, rfl⟩)
  · exact other (List.mem_append_left _ listed)
  · exact other (List.mem_append_right _ listed)
  · exact absurd short (by decide)
  · rw [temporaryName, String.length_append] at short
    exact absurd short (Nat.not_lt.mpr (Nat.le_add_right 6 _))

/-- Two names become one. -/
def merging : Renaming .standard where
  image id := if id = "x" then "y" else id
  fixes id reserved := by
    split
    · rename_i same
      exact absurd (same ▸ reserved) (not_reserved "x" (by decide) (by decide))
    · rfl
  avoids id free := by
    split
    · exact not_reserved "y" (by decide) (by decide)
    · exact free

/-- `x = vec(y) @ x`, and the same with one name for both. -/
theorem merged_product :
    let s : Stmt := .assign ⟨1, 0, 1, 14⟩ [.name ⟨1, 1⟩ "x"] (.binary ⟨1, 1⟩ .matMult
      (.call ⟨1, 1⟩ (.name ⟨1, 1⟩ "vec") [.name ⟨1, 1⟩ "y"] []) (.name ⟨1, 1⟩ "x"))
    Policy.standard.expanders = [] ∧
      merging.Follows (lowerBlock .standard 1 [s] {}) (lowerBlock .standard 1 (merging.body [s]) {}) :=
  ⟨rfl, lowerBlock_renamed .standard rfl merging 1 _ {}⟩

end Rebind.Update
