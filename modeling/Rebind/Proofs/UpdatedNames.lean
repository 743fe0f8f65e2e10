import Rebind.Proofs.Hygiene
import Rebind.Proofs.Scopes
/-!
The names that updates bind. A replacement assigns to its target as a whole where it cannot write to it, so it binds the
name that the target is, its temporary, and what the parts of the statement bind in their midst; of these the statement
itself may bind the target or not.
-/
namespace Rebind.Syntax

/-! ### Routed calls -/

open Update in
/-- Calls that are routed bind what they bound before, as expressions and as targets. -/
theorem assigned_routed : ∀ (l : Lines) (e : Expr),
    (routed l e).assigned = e.assigned ∧ (routed l e).assignedTarget = e.assignedTarget := by
  have bareName (l : Lines) (e : Expr) : (routed l e).bareName = e.bareName := by
    cases e <;> rfl
  -- One statement for each of the functions that `routed` goes through.
  apply routed.induct
    (fun l e => (routed l e).assigned = e.assigned ∧ (routed l e).assignedTarget = e.assignedTarget)
    (fun l cs => assignedSource (routedClauses l cs) = assignedSource cs ∧
      assignedClauses (routedClauses l cs) = assignedClauses cs ∧ assignedLater (routedClauses l cs) = assignedLater cs)
    (fun l c => (routedClause l c).assignedSource = c.assignedSource ∧
      (routedClause l c).assignedTarget = c.assignedTarget ∧ (routedClause l c).assignedConditions = c.assignedConditions)
    (fun l as => assignedList (routedList l as) = assignedList as ∧
      assignedTargets (routedList l as) = assignedTargets as)
    (fun l as => assignedEntries (routedEntries l as) = assignedEntries as)
    (fun l a => assignedOption (routedOption l a) = assignedOption a)
    (fun l as => assignedComparisons (routedComparisons l as) = assignedComparisons as)
    (fun ks => assignedKeywords (routedKeywords ks) = assignedKeywords ks)
    (fun k => (routedKeyword k).assigned = k.assigned) <;>
  intros <;> simp_all [routed, library, Expr.assigned, Expr.assignedTarget, routedClauses, assignedSource, assignedClauses,
    assignedLater, routedClause, Clause.assignedSource, Clause.assignedTarget, Clause.assignedConditions, routedList,
    assignedList, assignedTargets, routedEntries, assignedEntries, routedOption, assignedOption, routedComparisons,
    assignedComparisons, routedKeywords, assignedKeywords, routedKeyword, Keyword.assigned]

theorem mem_asBound {use : NameUse × String} {names : List String} :
    use ∈ asBound names ↔ use.1 = .bound ∧ use.2 ∈ names := by
  obtain ⟨kind, name⟩ := use
  simp [asBound, eq_comm, and_comm]

end Rebind.Syntax

namespace Rebind.Update

open Syntax

/-! ### Replacements -/

@[simp] def Form.targetNames : Form → List String
  | .allocation _ target _ | .operation _ target _ | .axpy _ _ _ target | .broadcast _ target _ | .elementwise target _
  | .product target _ _ _ _ => target.bareName
  | .unsupported _ => []

@[simp] def Form.temporaryNames (form : Form) (number : Nat) : List String :=
  if form.needsTemporary then [temporaryName number] else []

theorem isName.reference (bare : isName e = true) : Reference e := by
  cases e <;> simp_all [isName]
  exact .name _ _

theorem Reference.names (ref : Reference e) : e.assigned = [] ∧ e.assignedTarget = [] ∧ e.targetNames = e.bareName := by
  induction ref with
  | name l id => exact ⟨rfl, rfl, rfl⟩
  | dotted l attr inner ih => exact ⟨ih.1, ih.1, rfl⟩

theorem PlainCall.assigned (plain : PlainCall head args e) : e.assigned = assignedList args := by
  obtain ⟨_, _, rfl, _⟩ := plain
  simp [Expr.assigned, assignedKeywords]

theorem ProductOf.assigned (multiplied : ProductOf l r value) : value.assigned = l.assigned ++ r.assigned := by
  cases multiplied with
  | operator lines _ _ => rfl
  | call plain => simp [plain.assigned, assignedList]

theorem Factor.assigned (factor : Factor e flat given) : given.assigned = e.assigned := by
  cases factor with
  | flattened plain => simp [plain.assigned, assignedList]
  | plain _ => rfl

theorem usesIn_simple (s : Stmt) (flat : s.suites = []) : usesIn [s] = s.uses := by
  simp [usesIn_cons, flat]

section
variable (l : Lines) (span : Span)

@[simp] theorem assigned_library (attr : String) : (library l attr).assigned = [] := rfl

@[simp] theorem assigned_callLibrary (attr : String) (args : List Expr) :
    (callLibrary l attr args).assigned = assignedList args := by
  simp [callLibrary, call, library, Expr.assigned, assignedKeywords]

@[simp] theorem assignedTarget_whole (t : Expr) : (whole l t).assignedTarget = t.assigned := by
  simp [whole, Expr.assignedTarget, Expr.assigned]

@[simp] theorem usesIn_assign (target value : Expr) :
    usesIn [assign span target value] = asBound (target.targetNames ++ target.assignedTarget ++ value.assigned) := by
  rw [assign, usesIn_simple _ rfl]
  simp [Stmt.uses, targetNamesAll, assignedTargets]

@[simp] theorem usesIn_expr (value : Expr) : usesIn [.expr span value] = asBound value.assigned := usesIn_simple _ rfl

@[simp] theorem usesIn_augmented (target value : Expr) (op : BinaryOp) :
    usesIn [.augmented span target op value] = asBound (target.targetNames ++ target.assignedTarget ++ value.assigned) :=
  usesIn_simple _ rfl

@[simp] theorem usesIn_capabilityBranch (tested : Expr) (body orelse : List Stmt) :
    usesIn [capabilityBranch span tested body orelse] = asBound tested.assigned ++ (usesIn body ++ usesIn orelse) := by
  simp [usesIn_cons, capabilityBranch, Stmt.uses, Stmt.isScope, Stmt.suites, Expr.assigned, assignedComparisons]

end

@[simp] theorem usesIn_pair (s t : Stmt) (rest : List Stmt) : usesIn (s :: t :: rest) = usesIn [s] ++ usesIn (t :: rest) :=
  usesIn_append [s] (t :: rest)

@[simp] def Form.assigned (form : Form) : List String := assignedList form.parts

theorem settled_plain {policy : Policy} (plain : policy.expanders = []) (read : settled policy depth s = .ok form) :
    Spells policy.accumulate form s := by
  obtain ⟨found, supported⟩ := (settled_eq_ok_iff policy depth s form).mp read
  exact recognise_spells plain found supported

theorem Spells.suites (spelt : Spells accumulate form s) : s.suites = [] := by
  cases spelt <;> rfl

theorem Spells.uses (spelt : Spells accumulate form s) (use : NameUse × String) :
    (use ∈ asBound form.assigned → use ∈ s.uses) ∧ (use ∈ s.uses → use ∈ asBound (form.assigned ++ form.targetNames)) := by
  cases spelt with
  | allocation kind plain bareTarget _ =>
    simp [Form.parts, Stmt.uses, plain.assigned, (isName.reference bareTarget).names]
    tauto
  | axpy plain ref | axpby plain ref | operationCall op plain ref | operationAssigned op plain ref =>
    simp [Form.parts, Stmt.uses, plain.assigned, ref.names]
    tauto
  | product multiplied ref left right | accumulation _ multiplied ref left right =>
    simp [Form.parts, Stmt.uses, multiplied.assigned, left.assigned, right.assigned, ref.names]
    tauto
  | elementwise plain ref =>
    simp [Form.parts, Stmt.uses, plain.assigned, ref.names]
    tauto
  | broadcast whole _ | update op whole =>
    obtain ⟨ref, _, _, rfl⟩ := whole
    simp [Form.parts, Stmt.uses, Expr.targetNames, Expr.assignedTarget, Expr.assigned, ref.names]
    tauto

theorem Spells.replaced_uses (spelt : Spells accumulate form s) (made : form.replacement? span number = some replaced)
    (use : NameUse × String) :
    use ∈ usesIn [replaced] ↔ use ∈ asBound (form.assigned ++ (form.targetNames ++ form.temporaryNames number)) := by
  cases spelt with
  | allocation kind plain bareTarget bareSource =>
    have target := (isName.reference bareTarget).names
    have source := (isName.reference bareSource).names
    cases kind <;> cases made <;> simp [allocationReplacement, Form.parts, Form.needsTemporary, target, source]
  | axpy plain ref | axpby plain ref =>
    cases made
    simp [axpyReplacement, Form.parts, Form.needsTemporary, ref.names, Expr.assigned]
    tauto
  | operationCall op plain ref | operationAssigned op plain ref =>
    cases made
    simp [operationReplacement, Form.parts, Form.needsTemporary, ref.names, Expr.assigned, call]
    tauto
  | @product _ _ _ _ _ flatLeft _ flatRight _ multiplied ref left right
  | @accumulation _ _ _ _ _ flatLeft _ flatRight _ _ multiplied ref left right =>
    cases flatLeft <;> cases flatRight <;> cases made <;>
    · simp [flatProductReplacement, productInto, productBound, Form.parts, Form.needsTemporary, ref.names, Expr.assigned,
        Expr.targetNames, Expr.assignedTarget, one, Flattened.ofSides]
      tauto
  | elementwise plain ref =>
    cases made
    simp [elementwiseReplacement, Form.parts, Form.needsTemporary, ref.names, (assigned_routed _ _).1]
    tauto
  | broadcast whole _ | update _ whole =>
    have ref := whole.1
    cases made
    simp [broadcastReplacement, Form.parts, Form.needsTemporary, ref.names, Expr.assigned]
    tauto

end Rebind.Update
