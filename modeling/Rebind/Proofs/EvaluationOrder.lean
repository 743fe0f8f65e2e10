import Rebind.Proofs.Hygiene
import Rebind.Proofs.Outcomes
/-!
The order of evaluation. A run visits expressions when it evaluates them, one after the other; all else that it does is
to look up or bind variables of given names and to work on values that are there. A statement as it is written visits
its operands from left to right, and whichever way its replacement takes, it visits the same operands in that order.
-/
namespace Rebind.Program

open Syntax Update

/-- A single step on values that are there. It evaluates no expression and looks up no variable. -/
inductive Primitive (frame : Frame) : {α : Type} → Run α → Prop
  | known (attr : String) : Primitive frame (Run.knownIn frame attr)
  | getAttr (v : Value) (attr : String) : Primitive frame (Value.getAttr v attr)
  | setAttr (owner : Value) (attr : String) (v : Value) : Primitive frame (Value.setAttr owner attr v)
  | lookupItem (v key : Value) : Primitive frame (Value.lookupItem v key)
  | setItem (owner key v : Value) : Primitive frame (Value.setItem owner key v)
  | binary (op : BinaryOp) (a b : Value) : Primitive frame (Value.binary op a b)
  | update (op : BinaryOp) (old v : Value) : Primitive frame (Value.update op old v)
  | compare (op : CompareOp) (a b : Value) : Primitive frame (Value.compare op a b)
  | truth (v : Value) : Primitive frame (Value.truth v)
  | hold (v : Value) : Primitive frame (Run.hold v)
  | call (fuel : Nat) (function : Value) (given : List Value) : Primitive frame (call fuel function given [])

/-- Where a run works, and the variables that it may look up and bind. -/
structure Access where
  frame : Frame
  reads : Set String
  binds : Set String

/-- The run evaluates the given expressions, each once and in this order, as far as it gets. Besides, it looks up and
binds no other variables than the given ones. Whatever a step gives, what comes after it visits the same. -/
inductive Visits (access : Access) : {α : Type} → List Expr → Run α → Prop
  | done (a : α) : Visits access [] (pure a)
  | failed (es : List Expr) (kind : ErrorKind) : Visits access es (Run.fail kind : Run α)
  | step (run : Run α) (primitive : Primitive access.frame run) : Visits access [] run
  | load (x : String) (own : x ∈ access.reads) : Visits access [] (Run.load access.frame x)
  | store (x : String) (v : Value) (own : x ∈ access.binds) : Visits access [] (Run.assignName access.frame x v)
  | operand (fuel : Nat) (e : Expr) : Visits access [e] (eval fuel access.frame e)
  | whole (fuel : Nat) (e : Expr) : Visits access [e] (evalWhole fuel access.frame e)
  | starred (fuel line : Nat) (l : Lines) (e : Expr) :
      Visits access [.starred l e] (do onLine line (Value.iterate (← eval fuel access.frame e)))
  | onLine (line : Nat) (inner : Visits access es run) : Visits access es (onLine line run)
  | next (run : Run α) (rest : α → Run β) (first : Visits access es run)
      (later : ∀ a, Visits access others (rest a)) :
      Visits access (es ++ others) (run >>= rest)

section
variable {access : Access} {es others : List Expr}

theorem Visits.before {run : Run α} {rest : α → Run β} (first : Visits access [] run)
    (later : ∀ a, Visits access es (rest a)) : Visits access es (run >>= rest) :=
  first.next run rest later

theorem Visits.after {run : Run α} {rest : α → Run β} (first : Visits access es run)
    (later : ∀ a, Visits access [] (rest a)) : Visits access es (run >>= rest) := by
  have both := first.next run rest later
  rwa [List.append_nil] at both

theorem Visits.stepOn {run : Run α} (line : Nat) (primitive : Primitive access.frame run) :
    Visits access [] (Program.onLine line run) :=
  .onLine line (.step run primitive)

theorem Visits.fuelled {run : Nat → Run α} (spent : run 0 = Run.fail .runtime)
    (step : ∀ fuel, Visits access es (run (fuel + 1))) : ∀ fuel, Visits access es (run fuel)
  | 0 => spent ▸ .failed _ _
  | fuel + 1 => step fuel

theorem Visits.mapM {f : α → Run β} {items : List α} {each : List (List Expr)}
    (visits : List.Forall₂ (fun es item => Visits access es (f item)) each items) :
    Visits access each.flatten (items.mapM f) := by
  induction visits with
  | nil => exact .done []
  | cons first _ ih =>
    rw [List.mapM_cons, List.flatten_cons]
    exact first.next _ _ fun b => ih.after fun bs => .done (b :: bs)

/-! ### Expressions -/

/-- An argument of a call, which may stand for several. -/
def evalArg (fuel : Nat) (frame : Frame) (line : Nat) : Expr → Run (List Value)
  | .starred _ e => do onLine line (Value.iterate (← eval fuel frame e))
  | e => do return [← evalWhole fuel frame e]

theorem evalArgs_eq (fuel : Nat) (frame : Frame) (line : Nat) (items : List Expr) :
    evalArgs (fuel + 1) frame line items = do return (← items.mapM (evalArg fuel frame line)).flatten := by
  rw [evalArgs]
  congr 2

/-- In whichever place it is evaluated, the expression visits the given ones. -/
structure Straight (access : Access) (es : List Expr) (e : Expr) : Prop where
  value : ∀ fuel, Visits access es (eval fuel access.frame e)
  whole : ∀ fuel, Visits access es (evalWhole fuel access.frame e)
  passed : ∀ fuel line, Visits access es (evalArg fuel access.frame line e)

theorem Straight.operand (e : Expr) : Straight access [e] e := by
  refine ⟨fun fuel => .operand fuel e, fun fuel => .whole fuel e, fun fuel line => ?_⟩
  cases e with
  | starred l e => exact .starred fuel line l e
  | _ => exact (Visits.whole fuel _).after fun v => .done [v]

theorem Straight.ofSteps (plain : Update.isStarred e = false)
    (value : ∀ fuel, Visits access es (eval (fuel + 1) access.frame e))
    (whole : ∀ fuel, Visits access es (evalWhole (fuel + 1) access.frame e)) : Straight access es e := by
  have evaluated : ∀ fuel, Visits access es (evalWhole fuel access.frame e) := .fuelled rfl whole
  refine ⟨.fuelled rfl value, evaluated, fun fuel line => ?_⟩
  cases e with
  | starred _ _ => cases plain
  | _ => exact (evaluated fuel).after fun v => .done [v]

theorem Straight.ofValue (plain : Update.isStarred e = false)
    (alike : ∀ fuel, evalWhole (fuel + 1) access.frame e = eval fuel access.frame e)
    (value : ∀ fuel, Visits access es (eval (fuel + 1) access.frame e)) : Straight access es e := by
  refine .ofSteps plain value fun fuel => ?_
  rw [alike]
  revert fuel
  exact .fuelled rfl value

theorem Straight.literal (l : Lines) (given : Literal) : Straight access [] (.literal l given) := by
  refine .ofValue rfl (fun _ => by rw [evalWhole] <;> simp) fun fuel => ?_
  rw [eval]
  exact .done _

theorem Straight.name (l : Lines) (own : x ∈ access.reads) : Straight access [] (.name l x) := by
  have loaded : Visits access [] (Program.onLine l.first (Run.load access.frame x)) := .onLine _ (.load x own)
  refine .ofSteps rfl (fun fuel => ?_) fun fuel => ?_
  · rw [eval]
    exact loaded.before fun v => .done _
  · rw [evalWhole]
    exact loaded

theorem Straight.attribute (l : Lines) (attr : String) (owner : Straight access es e) :
    Straight access es (.attribute l e attr) := by
  refine .ofSteps rfl (fun fuel => ?_) fun fuel => ?_
  · rw [eval]
    refine (owner.value fuel).after fun v => (Visits.step _ (.known attr)).before fun attr => ?_
    exact (Visits.stepOn _ (.getAttr v attr)).before fun w => .done _
  · rw [evalWhole]
    refine (owner.value fuel).after fun v => (Visits.step _ (.known attr)).before fun attr => ?_
    exact .stepOn _ (.getAttr v attr)

theorem Straight.subscript (l : Lines) (owner : Straight access es e) (index : Straight access others i) :
    Straight access (es ++ others) (.subscript l e i) := by
  refine .ofValue rfl (fun _ => by rw [evalWhole] <;> simp) fun fuel => ?_
  rw [eval]
  refine (owner.value fuel).next _ _ fun v => (index.value fuel).after fun key => ?_
  exact .stepOn _ (.lookupItem v key)

theorem Straight.binary (l : Lines) (op : BinaryOp) (left : Straight access es a) (right : Straight access others b) :
    Straight access (es ++ others) (.binary l op a b) := by
  refine .ofValue rfl (fun _ => by rw [evalWhole] <;> simp) fun fuel => ?_
  rw [eval]
  refine (left.value fuel).next _ _ fun v => (right.value fuel).after fun w => ?_
  exact .stepOn _ (.binary op v w)

theorem evalWhole_positional (fuel : Nat) (frame : Frame) (l : Lines) (f : Expr) (args : List Expr) :
    ∃ line, evalWhole (fuel + 1) frame (.call l f args []) = (do
      let function ← eval fuel frame f
      let given ← evalArgs fuel frame l.first args
      onLine line (call fuel function given [])) := by
  by_cases dotted : ∃ m owner attr, f = .attribute m owner attr
  · obtain ⟨m, owner, attr, rfl⟩ := dotted
    exact ⟨if args.any Update.isStarred then l.first else m.last, by rw [evalWhole]; rfl⟩
  · refine ⟨l.first, ?_⟩
    rw [evalWhole]
    · rfl
    · intro m owner attr same
      exact dotted ⟨m, owner, attr, same⟩

theorem Straight.call (l : Lines) (function : Straight access [] f) (given : List.Forall₂ (Straight access) each args)
    (joined : each.flatten = es) : Straight access es (.call l f args []) := by
  subst joined
  have arguments (line : Nat) : ∀ fuel, Visits access each.flatten (evalArgs fuel access.frame line args) := by
    refine .fuelled rfl fun fuel => ?_
    rw [evalArgs_eq]
    exact (Visits.mapM (given.imp fun _ _ straight => straight.passed fuel line)).after fun parts => .done _
  have whole (fuel : Nat) : Visits access each.flatten (evalWhole (fuel + 1) access.frame (.call l f args [])) := by
    obtain ⟨line, same⟩ := evalWhole_positional fuel access.frame l f args
    rw [same]
    refine (function.value fuel).before fun v => (arguments _ fuel).after fun given => ?_
    exact .stepOn _ (.call fuel v given)
  refine .ofSteps rfl (fun fuel => ?_) whole
  rw [eval]
  cases fuel with
  | zero =>
    rw [evalWhole]
    exact (Visits.failed _ _).after fun v => .done _
  | succ fuel => exact (whole fuel).after fun v => .done _

theorem Visits.compared (alike : ∀ fuel, evalCompared (fuel + 1) access.frame e = evalWhole fuel access.frame e)
    (straight : Straight access es e) : ∀ fuel, Visits access es (evalCompared fuel access.frame e) :=
  .fuelled rfl fun fuel => alike fuel ▸ straight.whole fuel

theorem Straight.compare (l : Lines) (op : CompareOp)
    (left : ∀ fuel, Visits access [] (evalCompared fuel access.frame a))
    (right : ∀ fuel, Visits access [] (evalCompared fuel access.frame b)) :
    Straight access [] (.compare l a [(op, b)]) := by
  refine .ofValue rfl (fun _ => by rw [evalWhole] <;> simp) fun fuel => ?_
  rw [eval]
  refine (left fuel).before fun v => ?_
  revert fuel
  refine .fuelled rfl fun fuel => ?_
  rw [evalChain]
  refine (right fuel).after fun w => (Visits.stepOn _ (.compare op v w)).before fun verdict => ?_
  exact .done verdict

theorem Straight.reference (ref : Reference e) (own : ∀ x, rootName? e = some x → x ∈ access.reads) :
    Straight access [] e := by
  induction ref with
  | name l x => exact .name l (own x rfl)
  | dotted l attr _ ih => exact (ih own).attribute l attr

/-! ### Statements -/

/-- Run as a statement that always goes on to the next one, it visits the given expressions. -/
def Proceeds (access : Access) (es : List Expr) (s : Stmt) : Prop :=
  ∀ fuel, ∃ run : Run Unit, Visits access es run ∧ exec fuel access.frame s = do run; return .next

theorem Proceeds.exec (proceeds : Proceeds access es s) (fuel : Nat) : Visits access es (exec fuel access.frame s) := by
  obtain ⟨run, visits, same⟩ := proceeds fuel
  rw [same]
  exact visits.after fun _ => .done _

theorem Proceeds.ofSteps (run : Nat → Run Unit) (visits : ∀ fuel, Visits access es (run fuel))
    (same : ∀ fuel, Program.exec (fuel + 1) access.frame s = do run fuel; return .next) : Proceeds access es s := by
  intro fuel
  cases fuel with
  | zero => exact ⟨Run.fail .runtime, .failed _ _, by rw [Program.exec]; rfl⟩
  | succ fuel => exact ⟨run fuel, visits fuel, same fuel⟩

theorem Proceeds.expr (span : Span) (straight : Straight access es e) : Proceeds access es (.expr span e) := by
  refine .ofSteps (fun fuel => discard (eval fuel access.frame e)) (fun fuel => ?_) fun fuel => by rw [Program.exec]
  change Visits access es ((fun _ => PUnit.unit) <$> eval fuel access.frame e)
  rw [map_eq_pure_bind]
  exact (straight.value fuel).after fun _ => .done _

/-- Assigned to, the target visits the given expressions. -/
def Assigned (access : Access) (target : Expr) : Prop :=
  ∀ fuel v, Visits access [] (assign fuel access.frame target v)

theorem Proceeds.assign (span : Span) (straight : Straight access es e) (assigned : Assigned access target) :
    Proceeds access es (.assign span [target] e) := by
  refine .ofSteps (fun fuel => do
    let v ← Run.hold (← evalWhole fuel access.frame e)
    Program.assign fuel access.frame target v) (fun fuel => ?_) fun fuel => ?_
  · refine (straight.whole fuel).after fun v => (Visits.step _ (.hold v)).before fun w => ?_
    exact assigned fuel w
  · rw [Program.exec]
    simp

theorem Assigned.ofSteps (step : ∀ fuel v, Visits access [] (Program.assign (fuel + 1) access.frame target v)) :
    Assigned access target := by
  intro fuel v
  revert fuel
  exact .fuelled rfl (step · v)

theorem Assigned.reference (ref : Reference e)
    (own : ∀ x, rootName? e = some x → x ∈ access.binds ∧ (Update.isName e = false → x ∈ access.reads)) :
    Assigned access e := by
  refine .ofSteps fun fuel v => ?_
  cases ref with
  | name l x =>
    rw [Program.assign]
    exact .onLine _ (.store x v (own x rfl).1)
  | dotted l attr inner =>
    rw [Program.assign]
    have owner : Straight access [] _ := .reference inner fun x named => (own x named).2 rfl
    refine (owner.value fuel).before fun o => (Visits.step _ (.known attr)).before fun attr => ?_
    exact .stepOn _ (.setAttr o attr v)

theorem Assigned.whole (l dots : Lines) (ref : Reference e) (own : ∀ x, rootName? e = some x → x ∈ access.reads) :
    Assigned access (.subscript l e (.literal dots .ellipsis)) := by
  refine .ofSteps fun fuel v => ?_
  rw [Program.assign]
  have owner : Straight access [] e := .reference ref own
  have index : Straight access [] (.literal dots .ellipsis) := .literal dots _
  refine (owner.value fuel).before fun o => (index.value fuel).before fun key => ?_
  exact .stepOn _ (.setItem o key _)

theorem Proceeds.augmented (span : Span) (op : BinaryOp)
    (step : ∀ fuel, Visits access es (augment (fuel + 1) access.frame target op e)) :
    Proceeds access es (.augmented span target op e) := by
  refine .ofSteps (fun fuel => augment fuel access.frame target op e) (.fuelled rfl step) fun fuel => by rw [Program.exec]

theorem Proceeds.augmentedReference (span : Span) (op : BinaryOp) (ref : Reference target)
    (own : ∀ x, rootName? target = some x → x ∈ access.reads ∧ x ∈ access.binds) (straight : Straight access es e) :
    Proceeds access es (.augmented span target op e) := by
  refine .augmented span op fun fuel => ?_
  cases ref with
  | name l x =>
    rw [augment]
    refine (Visits.onLine _ (.load x (own x rfl).1)).before fun old => (straight.value fuel).after fun v => ?_
    exact (Visits.stepOn _ (.update op old.bare v)).before fun w => .onLine _ (.store x w (own x rfl).2)
  | dotted l attr inner =>
    rw [augment]
    have owner : Straight access [] _ := .reference inner fun x named => (own x named).1
    refine (owner.value fuel).before fun o => (Visits.step _ (.known attr)).before fun attr => ?_
    refine (Visits.stepOn _ (.getAttr o attr)).before fun old => (straight.value fuel).after fun v => ?_
    exact (Visits.stepOn _ (.update op old.bare v)).before fun w => .stepOn _ (.setAttr o attr w)

theorem Proceeds.augmentedWhole (span : Span) (l dots : Lines) (op : BinaryOp) (ref : Reference target)
    (own : ∀ x, rootName? target = some x → x ∈ access.reads) (straight : Straight access es e) :
    Proceeds access es (.augmented span (.subscript l target (.literal dots .ellipsis)) op e) := by
  refine .augmented span op fun fuel => ?_
  rw [augment]
  have owner : Straight access [] target := .reference ref own
  have index : Straight access [] (.literal dots .ellipsis) := .literal dots _
  refine (owner.value fuel).before fun o => (index.value fuel).before fun key => ?_
  refine (Visits.stepOn _ (.lookupItem o key)).before fun old => (straight.value fuel).after fun v => ?_
  exact (Visits.stepOn _ (.update op old v)).before fun w => .stepOn _ (.setItem o key w)

theorem Visits.execAll {body : List Stmt} {each : List (List Expr)}
    (proceeds : List.Forall₂ (Proceeds access) each body) :
    ∀ fuel, Visits access each.flatten (execAll fuel access.frame body) := by
  induction proceeds with
  | nil => exact .fuelled rfl fun fuel => .done _
  | cons first _ ih =>
    refine .fuelled rfl fun fuel => ?_
    obtain ⟨run, visits, same⟩ := first fuel
    rw [Program.execAll, same, bind_assoc, List.flatten_cons]
    -- the statement always goes on, so the other ways to end play no part
    simp only [pure_bind]
    exact visits.next _ _ fun _ => ih fuel

theorem Visits.branch (span : Span) (test : Straight access [] e)
    (body : ∀ fuel, Visits access es (Program.execAll fuel access.frame yes))
    (orelse : ∀ fuel, Visits access es (Program.execAll fuel access.frame no)) :
    ∀ fuel, Visits access es (exec fuel access.frame (.branch span e yes no)) := by
  refine .fuelled rfl fun fuel => ?_
  rw [exec]
  refine (test.value fuel).before fun v => (Visits.stepOn _ (.truth v)).before fun b => ?_
  cases b with
  | true => exact body fuel
  | false => exact orelse fuel

end
end Rebind.Program

namespace Rebind.Update

open Syntax Program Update

/-! ### The operands of a form -/

/-- The operands of a form, in the order in which they are written. -/
def Form.operands : Form → List Expr
  | .allocation _ _ _ | .unsupported _ => []
  | .operation _ _ operands => operands
  | .axpy alpha x beta _ => alpha :: x :: beta.toList
  | .broadcast _ _ value | .elementwise _ value => [value]
  | .product _ left right _ _ => [left, right]

/-- The operands as the replacement has them: an elementwise value with its calls routed, all others as they are. -/
def Form.evaluated (l : Lines) : Form → List Expr
  | .elementwise _ value => [routed l value]
  | form => form.operands

/-- The reference that is asked whether it can be written to. -/
def Form.tested? : Form → Option Expr
  | .allocation _ _ source => some source
  | .operation _ target _ | .axpy _ _ _ target | .broadcast _ target _ | .elementwise target _
  | .product target _ _ _ _ => some target
  | .unsupported _ => none

def Form.testedName? (form : Form) : Option String := form.tested?.bind rootName?

/-- The variables of a statement as it is written, those in its operands apart: it looks up the words of its spelling
and the tested reference, and binds its target. -/
def Form.written (form : Form) (frame : Frame) : Access where
  frame := frame
  reads := {x | x ∈ headWords ∨ form.testedName? = some x}
  binds := {x | form.root? = some x}

/-- The variables of a replacement, those in its operands apart: it looks up the library and the tested reference, binds
the target, and may have a temporary. -/
def Form.replaced (form : Form) (number : Nat) (frame : Frame) : Access where
  frame := frame
  reads := {x | x = libraryName ∨ form.testedName? = some x ∨ form.needsTemporary = true ∧ x = temporaryName number}
  binds := {x | form.root? = some x ∨ form.needsTemporary = true ∧ x = temporaryName number}

section
variable {access : Access} {es others : List Expr} {form : Form} {number : Nat}

/-! ### As it is written -/

theorem PlainCall.straight (plain : PlainCall head args e) (own : head ∈ access.reads)
    (given : List.Forall₂ (Straight access) each args) (joined : each.flatten = es) : Straight access es e := by
  obtain ⟨l, nameLines, rfl, _⟩ := plain
  exact .call l (.name nameLines own) given joined

theorem Factor.straight (factor : Factor given flat e) (own : "vec" ∈ access.reads) : Straight access [given] e := by
  cases factor with
  | flattened plain => exact plain.straight own (.cons (.operand given) .nil) rfl
  | plain _ => exact .operand _

theorem ProductOf.straight (multiplied : ProductOf l r value) (own : "vec" ∈ access.reads) (own' : "matmul" ∈ access.reads)
    (left : Factor a flat l) (right : Factor b flat' r) : Straight access [a, b] value := by
  cases multiplied with
  | operator lines _ _ => exact (left.straight own).binary lines .matMult (right.straight own)
  | call plain => exact plain.straight own' (.cons (left.straight own) (.cons (right.straight own) .nil)) rfl

theorem straight_operands (operands : List Expr) :
    List.Forall₂ (Straight access) (operands.map fun e => [e]) operands := by
  induction operands with
  | nil => exact .nil
  | cons e rest ih => exact .cons (.operand e) ih

theorem flatten_singletons (es : List Expr) : (es.map fun e => [e]).flatten = es := by
  rw [← List.flatMap_def, List.flatMap_singleton']

theorem isName_reference (bare : isName e = true) : Reference e := by
  cases e with
  | name l x => exact .name l x
  | _ => cases bare

theorem Reference.assigned (ref : Reference e) (own : ∀ x, rootName? e = some x → x ∈ access.reads)
    (bound : ∀ x, rootName? e = some x → x ∈ access.binds) : Assigned access e :=
  .reference ref fun x named => ⟨bound x named, fun _ => own x named⟩

theorem assigned_name (bare : isName e = true) (bound : ∀ x, rootName? e = some x → x ∈ access.binds) :
    Assigned access e :=
  .reference (isName_reference bare) fun x named => ⟨bound x named, fun dotted => absurd bare (by simp [dotted])⟩

theorem Spells.visits (spelt : Spells accumulate form s) (frame : Frame) (fuel : Nat) :
    Visits (form.written frame) form.operands (exec fuel frame s) := by
  have word (x : String) (listed : x ∈ headWords) : x ∈ (form.written frame).reads := .inl listed
  have read (x : String) (same : form.testedName? = some x) : x ∈ (form.written frame).reads := .inr same
  refine Proceeds.exec ?_ fuel
  cases spelt with
  | allocation kind plain bareTarget bareSource =>
    have headed : kind.head ∈ headWords := by cases kind <;> decide
    refine .assign _ ?_ (assigned_name bareTarget fun _ => id)
    exact plain.straight (word _ headed) (.cons (Straight.reference (isName_reference bareSource) read) .nil) rfl
  | axpy plain ref =>
    exact .expr _ (plain.straight (word _ (by decide))
      (.cons (.operand _) (.cons (.operand _) (.cons (.reference ref read) .nil))) rfl)
  | axpby plain ref =>
    exact .expr _ (plain.straight (word _ (by decide))
      (.cons (.operand _) (.cons (.operand _) (.cons (.operand _) (.cons (.reference ref read) .nil)))) rfl)
  | operationCall op plain ref counted =>
    have headed : op.name ∈ headWords := by cases op <;> decide
    exact .expr _ (plain.straight (word _ headed) (.cons (.reference ref read) (straight_operands _)) (flatten_singletons _))
  | operationAssigned op plain ref counted other =>
    have headed : op.name ∈ headWords := by cases op <;> decide
    refine .assign _ ?_ (ref.assigned read fun _ => id)
    exact plain.straight (word _ headed) (straight_operands _) (flatten_singletons _)
  | product multiplied ref left right =>
    refine .assign _ ?_ (ref.assigned read fun _ => id)
    exact multiplied.straight (word _ (by decide)) (word _ (by decide)) left right
  | accumulation allowed multiplied ref left right =>
    refine .augmentedReference _ .add ref (fun x named => ⟨read x named, named⟩) ?_
    exact multiplied.straight (word _ (by decide)) (word _ (by decide)) left right
  | elementwise plain ref =>
    refine .assign _ ?_ (ref.assigned read fun _ => id)
    exact plain.straight (word _ (by decide)) (.cons (.operand _) .nil) rfl
  | broadcast whole free =>
    obtain ⟨ref, l, dots, rfl⟩ := whole
    exact .assign _ (.operand _) (.whole l dots ref read)
  | update op whole =>
    obtain ⟨ref, l, dots, rfl⟩ := whole
    exact .augmentedWhole _ l dots op.binary ref read (.operand _)

/-! ### As it is replaced -/

theorem straight_library (l : Lines) (attr : String) (own : libraryName ∈ access.reads) :
    Straight access [] (library l attr) :=
  (Straight.name l own).attribute l attr

theorem straight_callLibrary (l : Lines) (attr : String) (own : libraryName ∈ access.reads)
    (given : List.Forall₂ (Straight access) each args) (joined : each.flatten = es) :
    Straight access es (callLibrary l attr args) :=
  .call l (straight_library l attr own) given joined

section
variable (span : Span) (own : libraryName ∈ access.reads)
include own

theorem visits_capabilityBranch (tested : Straight access [] e)
    (body : ∀ fuel, Visits access es (execAll fuel access.frame yes))
    (orelse : ∀ fuel, Visits access es (execAll fuel access.frame no)) (fuel : Nat) :
    Visits access es (exec fuel access.frame (capabilityBranch span e yes no)) := by
  have asked : Straight access [] (callLibrary span.lines "setindex_trait" [e]) :=
    straight_callLibrary _ _ own (.cons tested .nil) rfl
  have able : Straight access [] (library span.lines "CAN_MUTATE") := straight_library _ _ own
  refine Visits.branch span (.compare _ .is ?_ ?_) body orelse fuel
  · exact Visits.compared (fun _ => by rw [callLibrary, call, evalCompared] <;> simp) asked
  · exact Visits.compared (fun _ => by rw [library, evalCompared] <;> simp) able

theorem proceeds_productInto (accumulate : Bool) (into : Straight access [] i) (left : Straight access [a] l)
    (right : Straight access [b] r) : Proceeds access [a, b] (productInto span i l r accumulate) := by
  have factor : Straight access [] (one span.lines) := .literal _ _
  refine .expr span ?_
  cases accumulate with
  | false => exact straight_callLibrary _ _ own (.cons into (.cons left (.cons right .nil))) rfl
  | true =>
    exact straight_callLibrary _ _ own
      (.cons into (.cons left (.cons right (.cons factor (.cons factor .nil))))) rfl

theorem proceeds_productBound (accumulate : Bool) (ref : Reference target)
    (read : ∀ x, rootName? target = some x → x ∈ access.reads) (bound : ∀ x, rootName? target = some x → x ∈ access.binds)
    (left : Straight access [a] l) (right : Straight access [b] r) :
    Proceeds access [a, b] (productBound span target l r accumulate) := by
  have multiplied := left.binary span.lines .matMult right
  have shaped : Straight access [a, b]
      (callLibrary span.lines "restructure" [target, .binary span.lines .matMult l r]) :=
    straight_callLibrary _ _ own (.cons (.reference ref read) (.cons multiplied .nil)) rfl
  refine .assign span ?_ (ref.assigned read bound)
  cases accumulate with
  | false => exact shaped
  | true => exact (Straight.reference ref read).binary span.lines .add shaped

theorem visits_capabilityBranch_single (tested : Straight access [] e) (yes : Proceeds access es s)
    (no : Proceeds access es t) (fuel : Nat) :
    Visits access es (exec fuel access.frame (capabilityBranch span e [s] [t])) := by
  have alone (s : Stmt) (proceeds : Proceeds access es s) (fuel : Nat) :
      Visits access es (execAll fuel access.frame [s]) := by
    have visits := Visits.execAll (.cons proceeds .nil) fuel
    rwa [List.flatten_cons, List.flatten_nil, List.append_nil] at visits
  exact visits_capabilityBranch span own tested (alone s yes) (alone t no) fuel

theorem visits_flatProduct (temporary : String) (accumulate : Bool) (held : temporary ∈ access.reads)
    (made : temporary ∈ access.binds) (ref : Reference target)
    (read : ∀ x, rootName? target = some x → x ∈ access.reads) (bound : ∀ x, rootName? target = some x → x ∈ access.binds)
    (left : Straight access [a] l) (right : Straight access [b] r) (fuel : Nat) : Visits access [a, b]
      (exec fuel access.frame (flatProductReplacement span temporary target l r accumulate)) := by
  have tested : Straight access [] target := .reference ref read
  have flat : Straight access [] (.name span.lines temporary) := .name _ held
  have flattened : Proceeds access []
      (assign span (.name span.lines temporary) (callLibrary span.lines "vec" [target])) := by
    refine .assign span (straight_callLibrary _ _ own (.cons tested .nil) rfl) (assigned_name rfl ?_)
    intro x named
    cases named
    exact made
  have written : Proceeds access []
      (.expr span (callLibrary span.lines "unflatten_into" [target, .name span.lines temporary])) :=
    .expr span (straight_callLibrary _ _ own (.cons tested (.cons flat .nil)) rfl)
  refine visits_capabilityBranch span own tested (fun fuel => ?_) (fun fuel => ?_) fuel
  · exact Visits.execAll (.cons flattened (.cons (proceeds_productInto span own accumulate flat left right)
      (.cons written .nil))) fuel
  · exact Visits.execAll (.cons (proceeds_productBound span own accumulate ref read bound left right) .nil) fuel

theorem visits_allocation (kind : Allocation) (source : Straight access [] e) (assigned : Assigned access target)
    (fuel : Nat) : Visits access [] (exec fuel access.frame (allocationReplacement span kind target e)) := by
  have made (attr : String) : Proceeds access []
      (assign span target (callLibrary span.lines attr [e])) :=
    .assign span (straight_callLibrary _ attr own (.cons source .nil) rfl) assigned
  have shared : Proceeds access [] (assign span target e) := .assign span source assigned
  cases kind with
  | copy | similar => exact visits_capabilityBranch_single span own source (made _) shared fuel
  | zero => exact visits_capabilityBranch_single span own source (made _) (made _) fuel

theorem visits_operation (op : TableOp) (operands : List Expr) (target : Straight access [] e)
    (assigned : Assigned access e) (fuel : Nat) :
    Visits access operands (exec fuel access.frame (operationReplacement span op e operands)) := by
  have table : Straight access [] (library span.lines "OPERATION_TABLE") := straight_library _ _ own
  have entry := (table.subscript span.lines (.literal span.lines (.str op.name false))).attribute span.lines "dispatch"
  have asked := straight_callLibrary span.lines "setindex_trait" own (.cons target .nil) rfl
  refine Proceeds.exec (.assign span ?_ assigned) fuel
  exact .call span.lines entry (.cons asked (.cons target (straight_operands operands))) (flatten_singletons operands)

theorem visits_axpy (alpha x : Expr) (beta : Option Expr) (target : Straight access [] y) (assigned : Assigned access y)
    (fuel : Nat) :
    Visits access (alpha :: x :: beta.toList) (exec fuel access.frame (axpyReplacement span alpha x beta y)) := by
  have product : Straight access [alpha, x] (.binary span.lines .mult alpha x) :=
    (Straight.operand alpha).binary span.lines .mult (.operand x)
  cases beta with
  | none =>
    have into := straight_callLibrary span.lines "axpy_into" own
      (.cons (.operand alpha) (.cons (.operand x) (.cons target .nil))) rfl
    exact visits_capabilityBranch_single span own target (.expr span into)
      (.assign span (product.binary span.lines .add target) assigned) fuel
  | some beta =>
    have into := straight_callLibrary span.lines "axpy_into" own
      (.cons (.operand alpha) (.cons (.operand x) (.cons target (.cons (.operand beta) .nil)))) rfl
    have kept : Straight access [beta] (.binary span.lines .mult beta y) :=
      (Straight.operand beta).binary span.lines .mult target
    exact visits_capabilityBranch_single span own target (.expr span into)
      (.assign span (product.binary span.lines .add kept) assigned) fuel

theorem visits_broadcast (op : Option InPlaceOp) (value : Expr) (ref : Reference e)
    (read : ∀ x, rootName? e = some x → x ∈ access.reads) (bound : ∀ x, rootName? e = some x → x ∈ access.binds)
    (fuel : Nat) : Visits access [value] (exec fuel access.frame (broadcastReplacement span op e value)) := by
  have target : Straight access [] e := .reference ref read
  cases op with
  | none =>
    exact visits_capabilityBranch_single span own target (.assign span (.operand value) (.whole _ _ ref read))
      (.assign span (.operand value) (ref.assigned read bound)) fuel
  | some op =>
    have combined := target.binary span.lines op.binary (.operand value)
    exact visits_capabilityBranch_single span own target
      (.augmentedWhole span _ _ op.binary ref read (.operand value))
      (.assign span combined (ref.assigned read bound)) fuel

end

theorem Spells.reference (spelt : Spells accumulate form s) (e : Expr) (tested : form.tested? = some e) :
    Reference e := by
  cases spelt with
  | allocation _ _ _ bareSource =>
    cases tested
    exact isName_reference bareSource
  | axpy _ ref | axpby _ ref | operationCall _ _ ref _ | operationAssigned _ _ ref _ _ | product _ ref _ _
  | accumulation _ _ ref _ _ | elementwise _ ref =>
    cases tested
    exact ref
  | broadcast whole _ | update _ whole =>
    cases tested
    exact whole.1

theorem Spells.bareTarget (spelt : Spells accumulate (.allocation kind target source) s) : isName target = true := by
  cases spelt with
  | allocation _ _ bareTarget _ => exact bareTarget

theorem Spells.visits_replacement (spelt : Spells accumulate form s) (made : form.replacement? span number = some replaced)
    (frame : Frame) (fuel : Nat) :
    Visits (form.replaced number frame) (form.evaluated span.lines) (exec fuel frame replaced) := by
  have own : libraryName ∈ (form.replaced number frame).reads := .inl rfl
  have read (x : String) (same : form.testedName? = some x) : x ∈ (form.replaced number frame).reads := .inr (.inl same)
  have bound (x : String) (same : form.root? = some x) : x ∈ (form.replaced number frame).binds := .inl same
  have ref := spelt.reference
  cases form with
  | allocation kind target source =>
    cases made
    exact visits_allocation span own kind (.reference (ref source rfl) read) (assigned_name spelt.bareTarget bound) fuel
  | operation op target operands =>
    cases made
    have ref := ref target rfl
    exact visits_operation span own op operands (.reference ref read) (ref.assigned read bound) fuel
  | axpy alpha x beta y =>
    cases made
    have ref := ref y rfl
    exact visits_axpy span own alpha x beta (.reference ref read) (ref.assigned read bound) fuel
  | broadcast op target value =>
    cases made
    exact visits_broadcast span own op value (ref target rfl) read bound fuel
  | elementwise target value =>
    cases made
    exact visits_broadcast span own none (routed span.lines value) (ref target rfl) read bound fuel
  | product target left right flattened accumulate =>
    have path := ref target rfl
    have direct : Visits (Form.replaced _ number frame) [left, right] (exec fuel frame (capabilityBranch span target
        [productInto span target left right accumulate] [productBound span target left right accumulate])) :=
      visits_capabilityBranch_single span own (.reference path read)
        (proceeds_productInto span own accumulate (.reference path read) (.operand left) (.operand right))
        (proceeds_productBound span own accumulate path read bound (.operand left) (.operand right)) fuel
    have flat (e : Expr) : Straight (Form.replaced _ number frame) [e] (callLibrary span.lines "vec" [e]) :=
      straight_callLibrary _ _ own (.cons (.operand e) .nil) rfl
    cases flattened with
    | neither | both =>
      cases made
      exact direct
    | left =>
      cases made
      exact visits_flatProduct span own _ accumulate (.inr (.inr ⟨rfl, rfl⟩)) (.inr ⟨rfl, rfl⟩) path read bound
        (flat left) (.operand right) fuel
    | right =>
      cases made
      exact visits_flatProduct span own _ accumulate (.inr (.inr ⟨rfl, rfl⟩)) (.inr ⟨rfl, rfl⟩) path read bound
        (.operand left) (flat right) fuel
  | unsupported _ => cases made

/-! ### Names in routed expressions -/

/-- The expression has a part where the variable is looked up or bound. -/
def Names (x : String) (e : Expr) : Prop := ∃ l, Inside (.name l x) e

theorem part_routed (l : Lines) (held : p ∈ e.parts) :
    (∃ l', routed l' p ∈ (routed l e).parts) ∨ p ∈ (routed l e).parts := by
  cases e with
  | lambda _ _ _ => exact .inr held
  | call l' f as ks =>
    left
    simp only [Expr.parts, List.mem_cons, List.mem_append, List.mem_map] at held
    simp only [routed, Expr.parts, routedList_eq, routedKeywords_eq, List.mem_cons, List.mem_append, List.mem_map]
    rcases held with rfl | given | ⟨k, given, rfl⟩
    · exact ⟨l, .inr (.inl (.inl rfl))⟩
    · exact ⟨l, .inr (.inl (.inr ⟨p, given, rfl⟩))⟩
    · exact ⟨k.value.lines, .inr (.inr ⟨_, ⟨k, given, rfl⟩, rfl⟩)⟩
  | _ =>
    left
    rw [parts_routed_eq l _ (by simp) (by simp)]
    exact ⟨_, List.mem_map_of_mem held⟩

theorem names_routed (l : Lines) (e : Expr) (other : x ≠ libraryName) : Names x (routed l e) ↔ Names x e := by
  constructor
  · rintro ⟨at_, inside⟩
    rcases inside_routed l e inside with ⟨l', inside⟩ | ⟨b, l', inner, same⟩ | inner
    · -- in the function that routes there is only the library
      cases inside with
      | part held inside =>
        rw [library, Expr.parts, List.mem_singleton] at held
        subst held
        cases inside with
        | self => exact absurd rfl other
        | part held _ => cases held
    · cases b <;> cases same
      exact ⟨at_, inner⟩
    · exact ⟨at_, inner⟩
  · rintro ⟨at_, inside⟩
    refine ⟨at_, ?_⟩
    induction inside generalizing l with
    | self => exact .self
    | part held inside ih =>
      rcases part_routed l held with ⟨l', held'⟩ | held'
      · exact .part held' (ih l')
      · exact .part held' inside

theorem names_evaluated (form : Form) (l : Lines) (other : x ≠ libraryName) :
    (∃ e ∈ form.evaluated l, Names x e) ↔ ∃ e ∈ form.operands, Names x e := by
  cases form with
  | elementwise target value => simp [Form.evaluated, Form.operands, names_routed l value other]
  | _ => rfl

/-! ### Accepted statements -/

theorem lowerStatement_ok {policy : Policy} (done : lowerStatement policy depth s progress = (.ok replaced, after)) :
    ∃ form, settled policy depth s = .ok form ∧ form.replacement? s.span after.counter = some replaced := by
  cases verdict : settled policy depth s with
  | error fault =>
    have refused := lowerStatement_refused verdict progress
    rw [done] at refused
    cases refused
  | ok form =>
    obtain ⟨same, last, taken, made, counted⟩ := lowerStatement_taken verdict progress
    rw [done, Prod.mk.injEq, Except.ok.injEq] at taken
    rw [← taken.1, ← counted, ← taken.2] at made
    exact ⟨form, rfl, made⟩

/-- Every operand is evaluated once and in the order in which it is written. An accepted statement comes, by expansions,
to a spelling of a form. As it is written, that spelling evaluates the operands of the form from left to right. The
replacement evaluates the same operands in the same order, whichever way it takes and in whatever scope it runs.
It looks up no other variable than the library, the tested reference and its temporary, those in the operands apart. -/
theorem lowered_evaluates_in_order (policy : Policy) (depth : Int) (s : Stmt) (progress after : Progress)
    (replaced : Stmt) (done : lowerStatement policy depth s progress = (.ok replaced, after)) :
    ∃ form count spelling, stage? policy s count = some spelling ∧ Spells policy.accumulate form spelling ∧
      form.replacement? s.span after.counter = some replaced ∧
      (∀ frame fuel, Visits (form.written frame) form.operands (exec fuel frame spelling) ∧
        Visits (form.replaced after.counter frame) (form.evaluated s.span.lines) (exec fuel frame replaced)) ∧
      ∀ x, x ≠ libraryName → ((∃ e ∈ form.evaluated s.span.lines, Names x e) ↔ ∃ e ∈ form.operands, Names x e) := by
  obtain ⟨form, read, made⟩ := lowerStatement_ok done
  obtain ⟨count, spelling, stage, spelt⟩ := settled_spelt read
  refine ⟨form, count, spelling, stage, spelt, made, fun frame fuel => ?_, fun x => names_evaluated form _⟩
  exact ⟨spelt.visits frame fuel, spelt.visits_replacement made frame fuel⟩

def weightedSum : Stmt :=
  .expr ⟨2, 4, 2, 25⟩ (.call ⟨2, 2⟩ (.name ⟨2, 2⟩ "axpby")
    [called "f", .name ⟨2, 2⟩ "x", called "g", .name ⟨2, 2⟩ "y"] [])
where
  called (name : String) : Expr := .call ⟨2, 2⟩ (.name ⟨2, 2⟩ name) [] []

/-- The factors are called in the order in which they are written, though the call in place has the target between
them. -/
theorem weightedSum_evaluates_in_order :
    ∃ replaced after, lowerStatement .standard 1 weightedSum {} = (.ok replaced, after) ∧
      ∃ form : Form, form.operands = [weightedSum.called "f", .name ⟨2, 2⟩ "x", weightedSum.called "g"] ∧
        ∀ frame fuel, Visits (form.replaced after.counter frame) form.operands (exec fuel frame replaced) := by
  obtain ⟨replaced, after, done⟩ : ∃ replaced after,
      lowerStatement .standard 1 weightedSum {} = (.ok replaced, after) := ⟨_, _, rfl⟩
  obtain ⟨form, count, spelling, stage, spelt, made, visits, _⟩ :=
    lowered_evaluates_in_order .standard 1 weightedSum {} after replaced done
  refine ⟨replaced, after, done, form, ?_⟩
  have last : successor? .standard weightedSum = none := rfl
  cases count with
  | succ count =>
    rw [stage?_succ, last] at stage
    cases stage
  | zero =>
    cases stage
    cases spelt with
    | axpby plain _ =>
      obtain ⟨_, _, same, _⟩ := plain
      cases same
      exact ⟨rfl, fun frame fuel => (visits frame fuel).2⟩
    | axpy plain _ =>
      obtain ⟨_, _, same, _⟩ := plain
      simp at same
    | operationCall op plain _ _ =>
      obtain ⟨_, _, same, _⟩ := plain
      cases op <;> simp [TableOp.name] at same

end
end Rebind.Update
