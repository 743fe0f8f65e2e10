import Rebind.Proofs.Steps
import Rebind.Proofs.Numerals
/-!
How runs end. A run that may fail is followed on both ways out: what holds if it goes through, and what holds of
memory if it fails. Failures pass through whatever comes after, so a program ends as its steps do.
-/
namespace Rebind

open Number Strided Syntax Run Program Update

/-- If the run goes through, its result and the memory that it leaves are as said; if it fails, the memory is. -/
def Run.Ends (run : Run α) (m : Memory) (post : α → Memory → Prop) (failed : Memory → Prop) : Prop :=
  match (run.run.run m).run with
  | (.ok a, after) => post a after
  | (.error _, after) => failed after

section
variable {m : Memory} {post : α → Memory → Prop} {failed : Memory → Prop}

theorem ends_iff {run : Run α} : run.Ends m post failed ↔
    (∀ a after, run.Yields m a after → post a after) ∧ ∀ fault after, run.Fails m fault after → failed after := by
  unfold Ends Yields Fails
  rcases (run.run.run m).run with ⟨_ | a, after⟩ <;> simp

theorem Run.Ends.yields {run : Run α} (ends : run.Ends m post failed) (ran : run.Yields m a after) : post a after :=
  (ends_iff.mp ends).1 a after ran

theorem Run.Ends.fails {run : Run α} (ends : run.Ends m post failed) (ran : run.Fails m fault after) : failed after :=
  (ends_iff.mp ends).2 fault after ran

theorem Run.Ends.imp {run : Run α} {weaker : α → Memory → Prop} {broken : Memory → Prop} (ends : run.Ends m post failed)
    (through : ∀ a after, post a after → weaker a after) (stopped : ∀ after, failed after → broken after) :
    run.Ends m weaker broken :=
  ends_iff.mpr ⟨fun a after ran => through a after (ends.yields ran), fun _ after ran => stopped after (ends.fails ran)⟩

theorem Run.Ends.given {run : Run α} {weaker : α → Memory → Prop} (ends : run.Ends m post failed)
    (through : ∀ a after, run.Yields m a after → post a after → weaker a after) : run.Ends m weaker failed :=
  ends_iff.mpr ⟨fun a after ran => through a after ran (ends.yields ran), fun _ _ ran => ends.fails ran⟩

theorem Run.Completes.ends {run : Run α} (completes : run.Completes m post) : run.Ends m post failed := by
  obtain ⟨a, after, ran, holds⟩ := completes
  unfold Ends
  rw [ran]
  exact holds

theorem Run.Yields.ends_iff {run : Run α} (ran : run.Yields m a after) : run.Ends m post failed ↔ post a after := by
  unfold Ends
  rw [ran]

theorem Run.Leaves.ends {rel : Memory → Memory → Prop} {run : Run α} (leaves : run.Leaves rel) :
    run.Ends m (fun _ after => rel m after) (rel m) :=
  ends_iff.mpr ⟨fun _ _ ran => leaves.yields ran, fun _ _ ran => leaves.fails ran⟩

@[simp] theorem ends_pure {a : α} : (pure a : Run α).Ends m post failed ↔ post a m := Iff.rfl

@[simp] theorem ends_fail {kind : ErrorKind} : (fail kind : Run α).Ends m post failed ↔ failed m := Iff.rfl

@[simp] theorem ends_bind {run : Run β} {next : β → Run α} :
    (run >>= next).Ends m post failed ↔ run.Ends m (fun b between => (next b).Ends between post failed) failed := by
  unfold Ends
  simp only [ExceptT.run_bind, StateT.run_bind, Id.run_bind]
  rcases (run.run.run m).run with ⟨_ | b, between⟩ <;> rfl

@[simp] theorem ends_map {run : Run β} {f : β → α} :
    (f <$> run).Ends m post failed ↔ run.Ends m (fun b after => post (f b) after) failed := by
  rw [map_eq_pure_bind, ends_bind]
  simp only [ends_pure]

@[simp] theorem ends_discard {run : Run β} {post : PUnit → Memory → Prop} :
    (discard run).Ends m post failed ↔ run.Ends m (fun _ after => post ⟨⟩ after) failed := by
  have same : discard run = (fun _ => PUnit.unit) <$> run := rfl
  rw [same, ends_map]

@[simp] theorem ends_onLine {line : Nat} {run : Run α} :
    (onLine line run).Ends m post failed ↔ run.Ends m post failed := by
  change (match ((onLine line run).run.run m).run with | (.ok a, after) => post a after | (.error _, after) => _) ↔ _
  rw [run_onLine]
  unfold Ends
  rcases (StateT.run run.run m).run with ⟨_ | a, after⟩ <;> rfl

end
end Rebind

namespace Rebind.Program

open Number Strided Syntax Run Program Update

section
variable {m : Memory} {post : Value → Memory → Prop} {failed : Memory → Prop}

attribute [local simp] eval evalWhole evalChain evalCompared exec execAll assign

/-! ### Expressions -/

theorem ends_evalWhole_name : (evalWhole (n + 1) none (.name l x)).Ends m post failed ↔
    (loadGlobal x).Ends m post failed := by
  simp [load]

theorem ends_evalWhole_binary : (evalWhole (n + 2) none (.binary l op a b)).Ends m post failed ↔
    (eval n none a).Ends m (fun first between =>
      (eval n none b).Ends between (fun second last => (Value.binary op first second).Ends last post failed) failed)
      failed := by
  simp

theorem ends_eval_call : (eval (n + 1) none (.call l f args [])).Ends m post failed ↔
    (evalWhole n none (.call l f args [])).Ends m (fun w after => post w.bare after) failed := by
  simp

theorem ends_evalWhole_call (plain : ∀ e ∈ args, Update.isStarred e = false) :
    (evalWhole (n + 2) none (.call l f args [])).Ends m post failed ↔
      (eval (n + 1) none f).Ends m (fun function between =>
        (args.mapM (evalWhole n none)).Ends between (fun given last =>
          (call (n + 1) function given []).Ends last post failed) failed) failed := by
  simp [evalArgs_succ plain]

theorem ends_eval_compare :
    (eval (n + 3) none (.compare l (.call r f args []) [(op, .attribute k e attr)])).Ends m post failed ↔
      (evalWhole (n + 1) none (.call r f args [])).Ends m (fun first between =>
        (evalWhole n none (.attribute k e attr)).Ends between (fun second last =>
          (Value.compare op first second).Ends last post failed) failed) failed := by
  simp only [eval, evalChain, evalCompared, ends_bind, List.isEmpty_nil, if_true, ends_pure, ends_onLine]

/-! ### Statements -/

variable {post : Flow → Memory → Prop}

theorem ends_exec_expr : (exec (n + 1) none (.expr span e)).Ends m post failed ↔
    (eval n none e).Ends m (fun _ after => post .next after) failed := by
  simp

theorem ends_exec_assign : (exec (n + 1) none (.assign span [target] e)).Ends m post failed ↔
    (evalWhole n none e).Ends m (fun v between => (hold v).Ends between (fun w last =>
      (assign n none target w).Ends last (fun _ after => post .next after) failed) failed) failed := by
  simp

theorem ends_exec_branch : (exec (n + 1) none (.branch span test body orelse)).Ends m post failed ↔
    (eval n none test).Ends m (fun v between => (Value.truth v).Ends between (fun b last =>
      (execAll n none (if b then body else orelse)).Ends last post failed) failed) failed := by
  simp [apply_ite (execAll n none)]

theorem ends_execAll_nil : (execAll (n + 1) none []).Ends m post failed ↔ post .next m := by simp

theorem execAll_cons_ends (first : (exec n none s).Ends m
      (fun flow between => flow = .next ∧ (execAll n none rest).Ends between post failed) failed) :
    (execAll (n + 1) none (s :: rest)).Ends m post failed := by
  simp only [execAll, ends_bind]
  refine first.imp ?_ fun _ stopped => stopped
  rintro flow between ⟨rfl, later⟩
  exact later
end
end Rebind.Program

namespace Rebind

open Number Strided Syntax Run Program Update

section
variable {m : Memory} {post : Value → Memory → Prop} {failed : Memory → Prop}

/-! ### The library -/

theorem ends_of_completes_iff {run : Run Value} (settled : ∀ post, run.Completes m post ↔ post w m) :
    run.Ends m post failed ↔ post w m := by
  obtain ⟨_, _, ran, rfl, rfl⟩ := (settled fun v after => v = w ∧ after = m).mpr ⟨rfl, rfl⟩
  exact ran.ends_iff

theorem eval_library_ends (ready : m.Ready) (found : Module.attr? .helpers attr = some w) :
    (eval (n + 2) none (library l attr)).Ends m post failed ↔ post w.bare m :=
  ends_of_completes_iff fun _ => eval_library_completes ready found

theorem evalWhole_library_ends (ready : m.Ready) (found : Module.attr? .helpers attr = some w) :
    (evalWhole (n + 2) none (library l attr)).Ends m post failed ↔ post w m :=
  ends_of_completes_iff fun _ => evalWhole_library_completes ready found

variable {args : List Expr} (ready : m.Ready) (found : Module.attr? .helpers attr = some (.builtin f))
  (plain : ∀ e ∈ args, Update.isStarred e = false)
include ready found plain

theorem callLibrary_ends : (evalWhole (n + 3) none (callLibrary l attr args)).Ends m post failed ↔
    (args.mapM (evalWhole (n + 1) none)).Ends m (fun vs between =>
      (Program.call (n + 2) (.builtin f) vs []).Ends between post failed) failed := by
  rw [callLibrary, Update.call, ends_evalWhole_call plain, eval_library_ends ready found]
  rfl

theorem kernel_ends (direct : ∀ n vs, Program.call (n + 1) (.builtin f) vs [] = f.call (Program.call n) vs [])
    (apart : f.tellsApart = false) (called : (args.mapM (evalWhole (n + 1) none)).Ends m (fun vs between =>
      ∀ caller, (Builtin.callOn caller f (vs.map Value.bare) []).Ends between (fun r after =>
        post r after ∧ (r.isMadeAnew = true → ∀ v ∈ vs, post v after)) failed) failed) :
    (evalWhole (n + 3) none (callLibrary l attr args)).Ends m post failed := by
  rw [callLibrary_ends ready found plain]
  refine called.imp ?_ fun _ stopped => stopped
  intro vs between made
  simp only [direct, Builtin.call, apart, Bool.false_eq_true, if_false, ends_bind, List.map_nil, List.append_nil]
  refine (made _).imp ?_ fun _ stopped => stopped
  rintro r after ⟨holds, others⟩
  split
  · rename_i anew
    rw [Bool.and_eq_true] at anew
    rw [ends_pure]
    rcases first : vs.find? (fun v => Value.isSame v.bare r) with _ | v
    · rwa [first]
    · rw [first]
      exact others anew.2 v (List.mem_of_find?_eq_some first)
  · exact holds

end
end Rebind
