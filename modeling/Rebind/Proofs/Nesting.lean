import Rebind.Update.Block
/-!
Blocks inside blocks. The leaves of a body are its statements that are no blocks, in the order of the
source. Replacing a body comes to replacing its leaves one after the other: nothing is lost, doubled or
moved, and the nesting only takes from the budget of depth. The first leaf that is refused, or the first
block that stands too deep, decides the fault.
-/
namespace Rebind.Update

open Syntax

mutual

def leavesOf (policy : Policy) : Stmt → List Stmt
  | .withBlock span isAsync items body =>
    if policy.isBlock (.withBlock span isAsync items body) then leaves policy body
    else [.withBlock span isAsync items body]
  | s => [s]

def leaves (policy : Policy) : List Stmt → List Stmt
  | [] => []
  | s :: rest => leavesOf policy s ++ leaves policy rest

end

/-- A statement with the depth at which it is met. -/
structure Met where
  depth : Int
  statement : Stmt

mutual

/-- What is met on the way through a statement: its leaves, and in place of a block that stands too deep
that block itself. -/
def metIn (policy : Policy) (depth : Int) : Stmt → List Met
  | .withBlock span isAsync items body =>
    if policy.isBlock (.withBlock span isAsync items body) && depth < policy.maxDepth then
      metThrough policy (depth + 1) body
    else [⟨depth, .withBlock span isAsync items body⟩]
  | s => [⟨depth, s⟩]

/-- What is met on the way through a body. -/
def metThrough (policy : Policy) (depth : Int) : List Stmt → List Met
  | [] => []
  | s :: rest => metIn policy depth s ++ metThrough policy depth rest

end

/-- Why a statement cannot be replaced where it is met: a block is too deep there, a leaf is refused. -/
def Met.fault? (policy : Policy) (met : Met) : Option Fault :=
  if policy.isBlock met.statement then some (tooDeep policy (headLine met.statement) met.depth)
  else
    match (lowerStatement policy met.depth met.statement {}).1 with
    | .error fault => some fault
    | .ok _ => none

mutual

/-- Every block has a body, as the grammar of programs asks. -/
def BlockFilled (policy : Policy) : Stmt → Prop
  | .withBlock span isAsync items body =>
    policy.isBlock (.withBlock span isAsync items body) = true → body ≠ [] ∧ BlocksFilled policy body
  | _ => True

def BlocksFilled (policy : Policy) : List Stmt → Prop
  | [] => True
  | s :: rest => BlockFilled policy s ∧ BlocksFilled policy rest

end

/-! ### Blocks and leaves -/

/-- Induction over a body and the bodies of its blocks. -/
theorem nested_induction (policy : Policy) {motive : List Stmt → Prop} (nil : motive [])
    (leaf : ∀ s rest, policy.isBlock s = false → motive rest → motive (s :: rest))
    (block : ∀ span isAsync items body rest, policy.isBlock (.withBlock span isAsync items body) = true →
      motive body → motive rest → motive (.withBlock span isAsync items body :: rest)) (body : List Stmt) :
    motive body := by
  refine leaves.induct policy (fun s => ∀ rest, motive rest → motive (s :: rest)) motive ?_ ?_ ?_ nil ?_ body
  · exact fun span isAsync items body marked inner rest => block span isAsync items body rest marked inner
  · exact fun span isAsync items body kept rest => leaf _ rest (Bool.eq_false_iff.mpr kept)
  · intro s other rest
    refine leaf s rest ?_
    cases s <;> first | rfl | exact absurd rfl (other _ _ _ _)
  · exact fun s rest first => first rest

section
variable {policy : Policy} {s : Stmt}

variable (kept : policy.isBlock s = false)
include kept

theorem leavesOf_kept : leavesOf policy s = [s] := by
  cases s <;> simp [leavesOf, kept]

theorem metIn_kept (depth : Int) : metIn policy depth s = [⟨depth, s⟩] := by
  cases s <;> simp [metIn, kept]

theorem lowerNested_kept (depth : Int) (progress : Progress) :
    lowerNested policy depth s progress = lowerLeaf policy depth s progress := by
  cases s <;> simp [lowerNested, kept]

end

/-! ### One statement -/

/-- The number of the last temporary after a form has been replaced. -/
def Form.lastTemporary (form : Form) (counter : Nat) : Nat :=
  if form.needsTemporary then counter + 1 else counter

/-- What a statement is replaced as, or why it is refused. Nothing here depends on the temporaries. -/
def settled (policy : Policy) (depth : Int) (s : Stmt) : Except Fault Form :=
  match (recognise policy depth s).outcome with
  | .ok (.unsupported statement) => .error (.diagnostic (.unsupportedShape statement.text))
  | outcome => outcome

/-- The same complaint, about statements that may differ. -/
inductive SameKind : Fault → Fault → Prop where
  | unsupported (s t : String) : SameKind (.diagnostic (.unsupportedShape s)) (.diagnostic (.unsupportedShape t))
  | malformed (form s t reason : String) :
    SameKind (.diagnostic (.malformedForm form s reason)) (.diagnostic (.malformedForm form t reason))
  | expansion (s t : String) (depth : Int) (reason : String) :
    SameKind (.diagnostic (.expansionFailure s depth reason)) (.diagnostic (.expansionFailure t depth reason))

theorem settled_eq_ok_iff (policy : Policy) (depth : Int) (s : Stmt) (form : Form) : settled policy depth s = .ok form ↔
    (recognise policy depth s).outcome = .ok form ∧ ∀ statement, form ≠ .unsupported statement := by
  unfold settled
  split
  · rename_i statement found
    simp only [reduceCtorEq, found, Except.ok.injEq, false_iff, not_and]
    rintro rfl supported
    exact supported statement rfl
  · rename_i other
    constructor
    · rintro found
      exact ⟨found, fun statement same => other statement (same ▸ found)⟩
    · exact And.left

theorem replacement?_isSome (form : Form) (supported : ∀ statement, form ≠ .unsupported statement) (span : Span)
    (number : Nat) : ∃ replaced, form.replacement? span number = some replaced := by
  cases form with
  | product target left right flattened accumulate => cases flattened <;> exact ⟨_, rfl⟩
  | unsupported statement => exact absurd rfl (supported statement)
  | _ => exact ⟨_, rfl⟩

theorem replacement?_span (form : Form) (made : form.replacement? span number = some replaced) :
    replaced.span = span := by
  cases form with
  | allocation kind target source => cases kind <;> cases made <;> rfl
  | broadcast op target value => cases op <;> cases made <;> rfl
  | product target left right flattened accumulate => cases flattened <;> cases made <;> rfl
  | _ => cases made <;> rfl

theorem lowerStatement_refused (refused : settled policy depth s = .error fault) (progress : Progress) :
    (lowerStatement policy depth s progress).1 = .error fault := by
  unfold settled at refused
  cases found : (recognise policy depth s).outcome with
  | error why =>
    simp only [found, Except.error.injEq] at refused
    simp [lowerStatement, found, refused]
  | ok form =>
    cases form <;> simp only [found, reduceCtorEq, Except.error.injEq] at refused
    simp [lowerStatement, found, Form.replacement?, refused]

theorem lowerStatement_taken (taken : settled policy depth s = .ok form) (progress : Progress) :
    ∃ replaced after, lowerStatement policy depth s progress = (.ok replaced, after) ∧
      form.replacement? s.span (form.lastTemporary progress.counter) = some replaced ∧
      after.counter = form.lastTemporary progress.counter := by
  obtain ⟨found, supported⟩ := (settled_eq_ok_iff policy depth s form).mp taken
  obtain ⟨replaced, made⟩ := replacement?_isSome form supported s.span
    (form.lastTemporary progress.counter)
  simp only [lowerStatement, found]
  simp only [Form.lastTemporary] at made ⊢
  rw [made]
  exact ⟨replaced, _, rfl, rfl, rfl⟩

/-! ### Depth

A statement that is taken at some depth is taken as the same form at every smaller one: the expansions
do not see the depth, and fewer levels around them leave more of the budget. -/

theorem expandOnce_any_depth (expanded : expandOnce s name given expander depth = .ok next) (other : Int) :
    expandOnce s name given expander other = .ok next := by
  unfold expandOnce at expanded ⊢
  split at expanded
  · cases expanded
  · cases expanded
  · split at expanded
    · cases expanded
    · rename_i different
      simpa [different] using expanded

theorem recogniseWithin_more (found : (recogniseWithin policy left depth s).outcome = .ok form) (enough : left ≤ more)
    (other : Int) : (recogniseWithin policy more other s).outcome = .ok form := by
  induction left using Nat.strongRecOn generalizing more depth other s with
  | ind left ih =>
    unfold recogniseWithin at found ⊢
    rcases special : special? policy.accumulate s with wrong | _ | taken
    · simp [special] at found
    · rcases expansion : expansionOf? policy s with _ | ⟨name, given, expander⟩
      · simpa [special, expansion] using found
      cases left with
      | zero => simp [special, expansion] at found
      | succ left =>
        obtain ⟨more, rfl⟩ : ∃ fewer, more = fewer + 1 := ⟨more - 1, by omega⟩
        cases expanded : expandOnce s name given expander depth with
        | error fault => simp [special, expansion, expanded] at found
        | ok next =>
          simp only [special, expansion, expanded] at found
          simp only [expandOnce_any_depth expanded other]
          exact ih left (by omega) found (by omega) (other + 1)
    · simpa [special] using found

theorem settled_shallower (taken : settled policy depth s = .ok form) (shallower : other ≤ depth) :
    settled policy other s = .ok form := by
  rw [settled_eq_ok_iff] at taken ⊢
  refine ⟨?_, taken.2⟩
  apply recogniseWithin_more taken.1
  unfold budget
  omega

/-! ### The way through a body -/

/-- Goes on from a result with the progress made towards it; a fault ends everything. -/
def Step.followed (first : Step α) (next : α → Progress → Step β) : Step β :=
  match first with
  | (.error fault, progress) => (.error fault, progress)
  | (.ok a, progress) => next a progress

@[simp] theorem followed_error (fault : Fault) (progress : Progress) (next : α → Progress → Step β) :
    Step.followed (.error fault, progress) next = (.error fault, progress) := rfl

@[simp] theorem followed_ok (a : α) (progress : Progress) (next : α → Progress → Step β) :
    Step.followed (.ok a, progress) next = next a progress := rfl

theorem followed_followed (first : Step α) (second : α → Progress → Step β) (third : β → Progress → Step γ) :
    (first.followed second).followed third =
      first.followed fun a progress => (second a progress).followed third := by
  rcases first with ⟨_ | _, _⟩ <;> rfl

/-- Replaces what is met, one statement after the other. -/
def lowerMet (policy : Policy) : List Met → Progress → Step (List Stmt)
  | [], progress => (.ok [], progress)
  | met :: rest, progress =>
    if policy.isBlock met.statement then
      (.error (tooDeep policy (headLine met.statement) met.depth), progress)
    else
      Step.followed (lowerStatement policy met.depth met.statement progress) fun replaced progress =>
        Step.followed (lowerMet policy rest progress) fun later progress =>
          (.ok (replaced :: later), progress)

section
variable (policy : Policy)

theorem lowerMet_append (first second : List Met) (progress : Progress) : lowerMet policy (first ++ second) progress =
      Step.followed (lowerMet policy first progress) fun done progress =>
        Step.followed (lowerMet policy second progress) fun later progress =>
          (.ok (done ++ later), progress) := by
  induction first generalizing progress with
  | nil =>
    simp only [List.nil_append, lowerMet, followed_ok]
    rcases lowerMet policy second progress with ⟨_ | _, _⟩ <;> rfl
  | cons met rest ih =>
    simp only [List.cons_append, lowerMet]
    split
    · rfl
    · simp only [followed_followed, ih, followed_ok, List.cons_append]

theorem lowerMet_leaf (depth : Int) (s : Stmt) (progress : Progress) (leaf : policy.isBlock s = false) :
    lowerMet policy [⟨depth, s⟩] progress = lowerLeaf policy depth s progress := by
  simp only [lowerMet, leaf, Bool.false_eq_true, ↓reduceIte, lowerLeaf]
  rcases lowerStatement policy depth s progress with ⟨_ | _, _⟩ <;> rfl

theorem lowerBlock_cons (depth : Int) (s : Stmt) (rest : List Stmt) (progress : Progress) :
    lowerBlock policy depth (s :: rest) progress =
      Step.followed (lowerNested policy depth s progress) fun done progress =>
        Step.followed (lowerBlock policy depth rest progress) fun later progress =>
          (.ok (done ++ later), progress) := by
  rw [lowerBlock]
  rcases lowerNested policy depth s progress with ⟨_ | _, after⟩
  · rfl
  · simp only [followed_ok]
    rcases lowerBlock policy depth rest after with ⟨_ | _, _⟩ <;> rfl

theorem lowerBlock_eq_lowerMet (depth : Int) (body : List Stmt) (progress : Progress) :
    lowerBlock policy depth body progress = lowerMet policy (metThrough policy depth body) progress := by
  induction body using nested_induction policy generalizing depth progress with
  | nil => rfl
  | leaf s rest kept ih =>
    rw [lowerBlock_cons, metThrough, lowerMet_append, lowerNested_kept kept depth, metIn_kept kept depth,
      lowerMet_leaf policy depth s progress kept]
    simp only [ih]
  | block span isAsync items body rest marked inner ih =>
    rw [lowerBlock_cons, metThrough, lowerMet_append, lowerNested, metIn]
    by_cases deep : (policy.maxDepth : Int) ≤ depth
    · have stops : ¬ depth < policy.maxDepth := by omega
      simp [marked, deep, stops, lowerMet]
    · have goes : depth < policy.maxDepth := by omega
      simp only [marked, deep, goes, ↓reduceIte, decide_true, Bool.and_self, inner, ih]

theorem lowerMet_error_iff (met : List Met) (progress : Progress) (fault : Fault) :
    (lowerMet policy met progress).1 = .error fault ↔ met.findSome? (Met.fault? policy) = some fault := by
  induction met generalizing progress with
  | nil => simp [lowerMet]
  | cons met rest ih =>
    rw [lowerMet, List.findSome?_cons]
    by_cases block : policy.isBlock met.statement = true
    · simp [block, Met.fault?]
    · simp only [block, Bool.false_eq_true, ↓reduceIte, Met.fault?]
      cases verdict : settled policy met.depth met.statement with
      | error why =>
        have alone := lowerStatement_refused verdict {}
        rcases outcome : lowerStatement policy met.depth met.statement progress with ⟨result, after⟩
        have here : result = .error why := by
          simpa [outcome] using lowerStatement_refused verdict progress
        simp [alone, here]
      | ok form =>
        obtain ⟨alone, _, aloneOutcome, _⟩ := lowerStatement_taken verdict {}
        obtain ⟨replaced, after, outcome, _⟩ := lowerStatement_taken verdict progress
        simp only [outcome, aloneOutcome, followed_ok]
        rw [← ih after]
        rcases lowerMet policy rest after with ⟨_ | _, _⟩ <;> simp

theorem lowerMet_cons_ok (met : Met) (rest : List Met) (progress : Progress)
    (done : lowerMet policy (met :: rest) progress = (.ok out, after)) :
    ∃ form replaced between tail, policy.isBlock met.statement = false ∧
      settled policy met.depth met.statement = .ok form ∧
      form.replacement? met.statement.span (form.lastTemporary progress.counter) = some replaced ∧
      between.counter = form.lastTemporary progress.counter ∧
      lowerMet policy rest between = (.ok tail, after) ∧ out = replaced :: tail := by
  rw [lowerMet] at done
  split at done
  · cases done
  · rename_i leaf
    cases verdict : settled policy met.depth met.statement with
    | error why =>
      have refused := lowerStatement_refused verdict progress
      rcases outcome : lowerStatement policy met.depth met.statement progress with ⟨result, _⟩
      simp only [outcome] at refused done
      subst refused
      cases done
    | ok form =>
      obtain ⟨replaced, between, outcome, made, counted⟩ := lowerStatement_taken verdict progress
      simp only [outcome, followed_ok] at done
      rcases later : lowerMet policy rest between with ⟨_ | tail, last⟩
      · simp [later] at done
      · simp only [later, followed_ok, Prod.mk.injEq, Except.ok.injEq] at done
        obtain ⟨rfl, rfl⟩ := done
        exact ⟨form, replaced, between, tail, Bool.eq_false_iff.mpr leaf, rfl, made, counted, later, rfl⟩

theorem lowerMet_spans (met : List Met) (progress : Progress) (done : lowerMet policy met progress = (.ok out, after)) :
    out.map Stmt.span = met.map fun m => m.statement.span := by
  induction met generalizing progress out with
  | nil =>
    cases done
    rfl
  | cons met rest ih =>
    obtain ⟨form, replaced, between, tail, _, _, made, _, later, rfl⟩ :=
      lowerMet_cons_ok policy met rest progress done
    simp [ih between later, replacement?_span form made]

theorem lowerMet_leaves (met : List Met) (progress : Progress)
    (done : lowerMet policy met progress = (.ok out, after)) : ∀ m ∈ met, policy.isBlock m.statement = false := by
  induction met generalizing progress out with
  | nil => simp
  | cons met rest ih =>
    obtain ⟨_, _, between, tail, leaf, _, _, _, later, _⟩ := lowerMet_cons_ok policy met rest progress done
    rw [List.forall_mem_cons]
    exact ⟨leaf, ih between later⟩

theorem lowerMet_shallower (met : List Met) (progress other : Progress) (depth : Int)
    (done : lowerMet policy met progress = (.ok out, after)) (same : other.counter = progress.counter)
    (shallower : ∀ m ∈ met, depth ≤ m.depth) :
    ∃ last, lowerMet policy (met.map fun m => ⟨depth, m.statement⟩) other = (.ok out, last) ∧
      last.counter = after.counter := by
  induction met generalizing progress other out with
  | nil =>
    cases done
    exact ⟨other, rfl, same⟩
  | cons met rest ih =>
    obtain ⟨form, replaced, between, tail, leaf, verdict, made, counted, later, rfl⟩ :=
      lowerMet_cons_ok policy met rest progress done
    rw [List.forall_mem_cons] at shallower
    obtain ⟨again, next, outcome, madeAgain, countedAgain⟩ :=
      lowerStatement_taken (settled_shallower verdict shallower.1) other
    rw [same, made, Option.some.injEq] at madeAgain
    subst madeAgain
    obtain ⟨last, rest_done, final⟩ := ih between next later (by rw [countedAgain, same, counted]) shallower.2
    refine ⟨last, ?_, final⟩
    simp [lowerMet, leaf, outcome, rest_done]

end

/-! ### Leaves -/

section
variable (policy : Policy) (body : List Stmt)

theorem leaves_leaf : ∀ leaf ∈ leaves policy body, policy.isBlock leaf = false := by
  induction body using nested_induction policy with
  | nil => simp [leaves]
  | leaf s rest kept ih => simpa [leaves, leavesOf_kept kept, kept] using ih
  | block span isAsync items body rest marked inner ih =>
    simp only [leaves, leavesOf, marked, ↓reduceIte, List.mem_append]
    exact fun leaf member => member.elim (inner leaf) (ih leaf)

theorem metThrough_statements (depth : Int)
    (allLeaves : ∀ m ∈ metThrough policy depth body, policy.isBlock m.statement = false) :
    (metThrough policy depth body).map Met.statement = leaves policy body := by
  induction body using nested_induction policy generalizing depth with
  | nil => simp [metThrough, leaves]
  | leaf s rest kept ih =>
    simp only [metThrough, metIn_kept kept depth, List.singleton_append, List.forall_mem_cons] at allLeaves
    simp [metThrough, metIn_kept kept depth, leaves, leavesOf_kept kept, ih depth allLeaves.2]
  | block span isAsync items body rest marked inner ih =>
    simp only [metThrough, metIn, List.mem_append] at allLeaves
    by_cases goes : depth < policy.maxDepth
    · simp only [marked, goes, decide_true, Bool.and_self, ↓reduceIte] at allLeaves
      simp only [metThrough, metIn, leaves, leavesOf, marked, goes, decide_true, Bool.and_self, ↓reduceIte,
        List.map_append, inner (depth + 1) fun m member => allLeaves m (.inl member),
        ih depth fun m member => allLeaves m (.inr member)]
    · have leaf := allLeaves ⟨depth, .withBlock span isAsync items body⟩ (by simp [goes])
      simp [marked] at leaf

theorem metThrough_deeper (depth : Int) : ∀ m ∈ metThrough policy depth body, depth ≤ m.depth := by
  induction body using nested_induction policy generalizing depth with
  | nil => simp [metThrough]
  | leaf s rest kept ih => simpa [metThrough, metIn_kept kept depth] using ih depth
  | block span isAsync items body rest marked inner ih =>
    intro m member
    rw [metThrough, metIn, List.mem_append] at member
    rcases member with first | later
    · split at first
      · have deeper := inner (depth + 1) m first
        omega
      · simp_all
    · exact ih depth m later

theorem metThrough_flat (depth : Int) (flat : ∀ s ∈ body, policy.isBlock s = false) :
    metThrough policy depth body = body.map fun s => ⟨depth, s⟩ := by
  induction body with
  | nil => rfl
  | cons s rest ih =>
    rw [List.forall_mem_cons] at flat
    simp [metThrough, metIn_kept flat.1 depth, ih flat.2]

theorem leaves_ne_nil (filled : BlocksFilled policy body) (some : body ≠ []) : leaves policy body ≠ [] := by
  induction body using nested_induction policy with
  | nil => exact absurd rfl some
  | leaf s rest kept ih => simp [leaves, leavesOf_kept kept]
  | block span isAsync items body rest marked inner ih =>
    obtain ⟨within, full⟩ := filled.1 marked
    simp only [leaves, leavesOf, marked, ↓reduceIte]
    exact List.append_ne_nil_of_left_ne_nil (inner full within) _

theorem lowerBlock_leaves (depth : Int) (progress : Progress)
    (done : lowerBlock policy depth body progress = (.ok out, after)) :
    out.map Stmt.span = (leaves policy body).map Stmt.span ∧
      ∃ last, lowerBlock policy depth (leaves policy body) progress = (.ok out, last) ∧
        last.counter = after.counter := by
  rw [lowerBlock_eq_lowerMet] at done
  have statements := metThrough_statements policy body depth (lowerMet_leaves policy _ progress done)
  have flat : metThrough policy depth (leaves policy body) =
      (metThrough policy depth body).map fun m => ⟨depth, m.statement⟩ := by
    rw [metThrough_flat policy _ depth (leaves_leaf policy body), ← statements, List.map_map]
    rfl
  constructor
  · rw [lowerMet_spans policy _ progress done, ← statements, List.map_map]
    rfl
  · rw [lowerBlock_eq_lowerMet, flat]
    exact lowerMet_shallower policy _ progress progress depth done rfl (metThrough_deeper policy body depth)

end

/-- Laying nested blocks flat loses, doubles and moves nothing. A replaced body has one statement for each
leaf, in order and in its place, and is the replacement of the row of leaves at the same depth and with
the same temporaries. It fails exactly if a leaf is refused or a block stands too deep, and then with the
fault of the first of them. -/
theorem lowerBlock_flattens (policy : Policy) (depth : Int) (body : List Stmt) (progress : Progress)
    (filled : BlocksFilled policy body) : (∀ out after, lowerBlock policy depth body progress = (.ok out, after) →
      (body ≠ [] → out ≠ []) ∧ out.length = (leaves policy body).length ∧
      out.map Stmt.span = (leaves policy body).map Stmt.span ∧
      ∃ last, lowerBlock policy depth (leaves policy body) progress = (.ok out, last) ∧
        last.counter = after.counter) ∧
    ∀ fault, (lowerBlock policy depth body progress).1 = .error fault ↔
      (metThrough policy depth body).findSome? (Met.fault? policy) = some fault := by
  constructor
  · intro out after done
    obtain ⟨spans, flat⟩ := lowerBlock_leaves policy body depth progress done
    have counted : out.length = (leaves policy body).length := by
      simpa using congrArg List.length spans
    refine ⟨?_, counted, spans, flat⟩
    intro some empty
    apply leaves_ne_nil policy body filled some
    rw [← List.length_eq_zero_iff, ← counted, empty, List.length_nil]
  · intro fault
    rw [lowerBlock_eq_lowerMet]
    exact lowerMet_error_iff policy _ progress fault

/-- A block with `copyto(y, x)` and, one level further in, `y = vec(a) @ x`. -/
def twoLevels : List Stmt :=
  let on (line : Nat) : Lines := ⟨line, line⟩
  let name (line : Nat) (id : String) : Expr := .name (on line) id
  [.withBlock ⟨1, 0, 4, 23⟩ false [⟨name 1 "bb", none⟩]
    [.expr ⟨2, 4, 2, 16⟩ (.call (on 2) (name 2 "copyto") [name 2 "y", name 2 "x"] []),
      .withBlock ⟨3, 4, 4, 23⟩ false [⟨name 3 "bangbang", none⟩]
        [.assign ⟨4, 8, 4, 23⟩ [name 4 "y"] (.binary (on 4) .matMult
          (.call (on 4) (name 4 "vec") [name 4 "a"] []) (name 4 "x"))]]]

theorem twoLevels_flattens : BlocksFilled .standard twoLevels ∧ ∃ out after,
    lowerBlock .standard 1 twoLevels {} = (.ok out, after) ∧ out.length = 2 ∧
    ∃ last, lowerBlock .standard 1 (leaves .standard twoLevels) {} = (.ok out, last) ∧
      last.counter = after.counter := by
  have filled : BlocksFilled .standard twoLevels := by simp [twoLevels, BlocksFilled, BlockFilled]
  refine ⟨filled, ?_⟩
  have succeeds : (lowerBlock .standard 1 twoLevels {}).1.isOk = true := by decide
  rcases outcome : lowerBlock .standard 1 twoLevels {} with ⟨_ | out, after⟩
  · rw [outcome] at succeeds
    cases succeeds
  · obtain ⟨_, counted, _, flat⟩ := (lowerBlock_flattens .standard 1 twoLevels {} filled).1 out after outcome
    exact ⟨out, after, rfl, counted, flat⟩

end Rebind.Update
