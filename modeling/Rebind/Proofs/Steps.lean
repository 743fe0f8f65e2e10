import Rebind.Proofs.Evaluation
/-!
Steps of a program that are known to go through, in the module itself. An expression or a statement completes
exactly if its parts do, one after the other, with a little less fuel.
-/
namespace Rebind.Program

open Number Strided Syntax Value Run Program Update

section
variable {m : Memory} {post : Value → Memory → Prop}

attribute [local simp] eval evalWhole evalChain evalCompared exec execAll assign

/-! ### Expressions -/

theorem completes_evalWhole_name : (evalWhole (n + 1) none (.name l x)).Completes m post ↔
    (loadGlobal x).Completes m post := by
  simp [load]

theorem completes_eval_name : (eval (n + 1) none (.name l x)).Completes m post ↔
    (loadGlobal x).Completes m fun w after => post w.bare after := by
  simp [load]

theorem completes_eval_attribute : (eval (n + 1) none (.attribute l e attr)).Completes m post ↔
    (eval n none e).Completes m fun owner between =>
      (getAttr owner attr).Completes between fun w after => post w.bare after := by
  simp

theorem completes_evalWhole_attribute : (evalWhole (n + 1) none (.attribute l e attr)).Completes m post ↔
    (eval n none e).Completes m fun owner between => (getAttr owner attr).Completes between post := by
  simp

theorem completes_evalWhole_literal : (evalWhole (n + 2) none (.literal l given)).Completes m post ↔
    post (literal given) m := by
  simp

theorem completes_evalWhole_binary : (evalWhole (n + 2) none (.binary l op a b)).Completes m post ↔
    (eval n none a).Completes m fun first between =>
      (eval n none b).Completes between fun second last => (Value.binary op first second).Completes last post := by
  simp

theorem completes_eval_call : (eval (n + 1) none (.call l f args [])).Completes m post ↔
    (evalWhole n none (.call l f args [])).Completes m fun w after => post w.bare after := by
  simp

theorem completes_evalWhole_call (plain : ∀ e ∈ args, Update.isStarred e = false) :
    (evalWhole (n + 2) none (.call l f args [])).Completes m post ↔
      (eval (n + 1) none f).Completes m fun function between =>
        (args.mapM (evalWhole n none)).Completes between fun given last =>
          (call (n + 1) function given []).Completes last post := by
  simp [evalArgs_succ plain]

theorem completes_eval_compare :
    (eval (n + 3) none (.compare l (.call r f args []) [(op, .attribute k e attr)])).Completes m post ↔
      (evalWhole (n + 1) none (.call r f args [])).Completes m fun first between =>
        (evalWhole n none (.attribute k e attr)).Completes between fun second last =>
          (Value.compare op first second).Completes last post := by
  simp only [eval, evalChain, evalCompared, completes_bind, List.isEmpty_nil, if_true, completes_pure, completes_onLine]

/-! ### Statements -/

variable {post : Flow → Memory → Prop}

theorem completes_exec_expr : (exec (n + 1) none (.expr span e)).Completes m post ↔
    (eval n none e).Completes m fun _ after => post .next after := by
  simp

theorem completes_exec_assign : (exec (n + 2) none (.assign span [.name l x] e)).Completes m post ↔
    (evalWhole (n + 1) none e).Completes m fun v between =>
      (hold v).Completes between fun w last => (assignName none x w).Completes last fun _ after =>
        post .next after := by
  simp

theorem completes_exec_branch : (exec (n + 1) none (.branch span test body orelse)).Completes m post ↔
    (eval n none test).Completes m fun v between => (Value.truth v).Completes between fun b last =>
      (execAll n none (if b then body else orelse)).Completes last post := by
  simp [apply_ite (execAll n none)]

theorem completes_execAll_nil : (execAll (n + 1) none []).Completes m post ↔ post .next m := by simp

theorem execAll_cons_completes
    (first : (exec n none s).Completes m fun flow between => flow = .next ∧ (execAll n none rest).Completes between post) :
    (execAll (n + 1) none (s :: rest)).Completes m post := by
  simp only [execAll, completes_bind]
  refine first.imp ?_
  rintro flow between ⟨rfl, later⟩
  exact later
end
end Rebind.Program

namespace Rebind

open Number Strided Syntax Value Run Program Update

section
variable {m : Memory} {v w : Value} {view : View} {post : Value → Memory → Prop}

/-! ### Variables -/

theorem loadGlobal_completes (found : m.globals.lookup x = some w) : (loadGlobal x).Completes m post ↔ post w m := by
  simp [Completes, loadGlobal_bound found]

theorem hold_completes (v : Value) (m : Memory) :
    (hold v).Completes m fun w after => m.Grows after ∧ w.bare = v.bare ∧ (v.isMadeAnew = false → w = v) := by
  by_cases anew : v.isMadeAnew = true
  · obtain ⟨number, after, fresh, _⟩ := allocate_completes .token m
    have ran : (hold v).Yields m (.held number v) after := by
      rw [hold, if_pos anew, yields_bind]
      exact ⟨number, after, fresh, yields_pure.mpr ⟨rfl, rfl⟩⟩
    obtain ⟨grows, same⟩ := hold_yields ran
    refine ran.completes ⟨grows, same, ?_⟩
    intro wrong
    rw [anew] at wrong
    cases wrong
  · rw [hold, if_neg anew, completes_pure]
    exact ⟨.refl _ _ _, rfl, fun _ => rfl⟩

theorem assignName_completes (x : String) (v : Value) (m : Memory) :
    (assignName none x v).Completes m fun _ after => m.Changes {x} ∅ after ∧
      ∃ w, after.globals.lookup x = some w ∧ w.bare = v.bare ∧ (v.isMadeAnew = false → w = v) := by
  simp only [assignName, home, knownIn_module, pure_bind, completes_bind]
  refine (hold_completes v m).imp ?_
  rintro w between ⟨grows, same, itself⟩
  have stored : (storeGlobal x w).Yields between ⟨⟩
      { between with globals := Bindings.set between.globals x w } := yields_modify.mpr rfl
  refine stored.completes ⟨?_, w, lookup_set_self _ _ _, same, itself⟩
  exact (grows.widened _ _).trans (storeGlobal_changes between x w)

theorem exec_assign_completes {post : Flow → Memory → Prop}
    (evaluated : (evalWhole (n + 1) none e).Completes m fun v between =>
      ∀ w after, between.Changes {x} ∅ after → after.globals.lookup x = some w → w.bare = v.bare →
        (v.isMadeAnew = false → w = v) → post .next after) :
    (exec (n + 2) none (.assign span [.name l x] e)).Completes m post := by
  rw [completes_exec_assign]
  refine evaluated.imp ?_
  intro v between reached
  refine (hold_completes v between).imp ?_
  rintro u last ⟨grows, same, itself⟩
  refine (assignName_completes x u last).imp ?_
  rintro _ after ⟨changes, w, found, same', itself'⟩
  refine reached w after ((grows.widened _ _).trans changes) found (same'.trans same) ?_
  intro kept
  obtain rfl := itself kept
  exact itself' kept

/-! ### The library -/

theorem loadLibrary_completes (ready : m.Ready) :
    (loadGlobal libraryName).Completes m post ↔ post (.module .helpers) m := by
  simp [Completes, loadGlobal_library ready]

theorem eval_library_completes (ready : m.Ready) (found : Module.attr? .helpers attr = some w) :
    (eval (n + 2) none (library l attr)).Completes m post ↔ post w.bare m := by
  rw [library, completes_eval_attribute, completes_eval_name, loadLibrary_completes ready]
  simp only [bare, getAttr, found, orMissing, completes_pure]

theorem evalWhole_library_completes (ready : m.Ready) (found : Module.attr? .helpers attr = some w) :
    (evalWhole (n + 2) none (library l attr)).Completes m post ↔ post w m := by
  rw [library, completes_evalWhole_attribute, completes_eval_name, loadLibrary_completes ready]
  simp only [bare, getAttr, found, orMissing, completes_pure]

section
variable {args : List Expr} (ready : m.Ready) (found : Module.attr? .helpers attr = some (.builtin f))
  (plain : ∀ e ∈ args, Update.isStarred e = false)
include ready found plain

theorem callLibrary_completes : (evalWhole (n + 3) none (callLibrary l attr args)).Completes m post ↔
    (args.mapM (evalWhole (n + 1) none)).Completes m fun vs between =>
      (Program.call (n + 2) (.builtin f) vs []).Completes between post := by
  rw [callLibrary, Update.call, completes_evalWhole_call plain, eval_library_completes ready found]
  rfl

variable (direct : ∀ n vs, Program.call (n + 1) (.builtin f) vs [] = f.call (Program.call n) vs [])
  (apart : f.tellsApart = false)
include direct apart

theorem kernel_completes (called : (args.mapM (evalWhole (n + 1) none)).Completes m fun vs between =>
      ∀ caller, (Builtin.callOn caller f (vs.map bare) []).Completes between fun r after =>
        r.isMadeAnew = false ∧ post r after) :
    (evalWhole (n + 3) none (callLibrary l attr args)).Completes m post := by
  rw [callLibrary_completes ready found plain]
  refine called.imp ?_
  intro vs between made
  simp only [direct, Builtin.call, apart, Bool.false_eq_true, if_false, completes_bind, List.map_nil]
  refine (made _).imp ?_
  rintro r after ⟨known, holds⟩
  simpa [known] using holds

theorem kernel_goesThrough (through : (evalWhole (n + 3) none (callLibrary l attr args)).GoesThrough m) :
    (args.mapM (evalWhole (n + 1) none)).Completes m fun vs between =>
      ∃ caller, (Builtin.callOn caller f (vs.map bare) []).GoesThrough between := by
  refine ((callLibrary_completes ready found plain).mp through).imp ?_
  intro vs between called
  simp only [direct, Builtin.call, apart, Bool.false_eq_true, if_false, completes_bind, List.map_nil] at called
  exact ⟨_, called.goesThrough⟩

end

/-! ### Branches -/

theorem capabilityBranch_completes {post : Flow → Memory → Prop} (ready : m.Ready)
    (found : m.globals.lookup x = some (.array number view)) :
    (exec (n + 6) none (capabilityBranch span (.name l x) body orelse)).Completes m post ↔
      (execAll (n + 5) none (if view.writeable then body else orelse)).Completes m post := by
  let capability : Value := .capability (if view.writeable then .canMutate else .cannotMutate)
  have asked : (evalWhole (n + 3) none
      (callLibrary span.lines "setindex_trait" [.name l x])).Yields m capability m := by
    have completes : (evalWhole (n + 3) none
        (callLibrary span.lines "setindex_trait" [.name l x])).Completes m fun v after =>
          v = capability ∧ m = after := by
      refine kernel_completes ready rfl (by simp [Update.isStarred]) (fun _ _ => rfl) rfl ?_
      simp only [List.mapM_cons, List.mapM_nil, completes_bind, completes_pure, completes_evalWhole_name,
        loadGlobal_completes found]
      intro caller
      change (pure capability : Run Value).Completes m _
      exact completes_pure.mpr ⟨rfl, rfl, rfl⟩
    obtain ⟨_, _, ran, rfl, rfl⟩ := completes
    exact ran
  rw [capabilityBranch, completes_exec_branch]
  refine completes_eval_compare.trans (asked.completes_iff.trans ?_)
  refine (evalWhole_library_completes ready rfl).trans ?_
  cases takes : view.writeable with
  | true | false => simp [capability, takes, Value.compare, isSame, truth_bool]

end
end Rebind
