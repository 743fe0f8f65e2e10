import Rebind.Proofs.Kernels
import Rebind.Program.Module
/-!
What it takes for a step of a program to go through, in the module itself. Each lemma opens one kind of
expression or statement: it goes through exactly if its parts do, with a little less fuel.
-/
namespace Rebind.Program

open Number Strided Syntax Run Program

section
variable {m between after : Memory} {v w : Value}

@[simp] theorem privateName_module (name : String) : privateName "" name = name := by
  simp only [privateName]
  split <;> simp

@[simp] theorem knownIn_module (name : String) : knownIn none name = pure name := by
  simp [knownIn, ownerOf]

-- The equations of the evaluator are long to find, so they are found once, before the lemmas that open it.
attribute [local simp] eval evalWhole evalChain evalCompared evalArgs exec execAll assign augment

/-! ### Expressions -/

theorem eval_name : (eval fuel none (.name l x)).Yields m v after ↔
    fuel ≠ 0 ∧ ∃ w, (loadGlobal x).Yields m w after ∧ w.bare = v := by
  cases fuel <;> simp [eval, load]

theorem evalWhole_name : (evalWhole fuel none (.name l x)).Yields m v after ↔
    fuel ≠ 0 ∧ (loadGlobal x).Yields m v after := by
  cases fuel <;> simp [evalWhole, load]

theorem eval_literal : (eval fuel none (.literal l given)).Yields m v after ↔
    fuel ≠ 0 ∧ literal given = v ∧ m = after := by
  cases fuel <;> simp [eval]

theorem eval_attribute : (eval fuel none (.attribute l e attr)).Yields m v after ↔
    ∃ n, fuel = n + 1 ∧ ∃ owner between, (eval n none e).Yields m owner between ∧
      ∃ w, (Value.getAttr owner attr).Yields between w after ∧ w.bare = v := by
  cases fuel <;> simp [eval]

theorem evalWhole_attribute : (evalWhole fuel none (.attribute l e attr)).Yields m v after ↔
    ∃ n, fuel = n + 1 ∧ ∃ owner between, (eval n none e).Yields m owner between ∧
      (Value.getAttr owner attr).Yields between v after := by
  cases fuel <;> simp [evalWhole]

theorem eval_subscript : (eval fuel none (.subscript l e i)).Yields m v after ↔
    ∃ n, fuel = n + 1 ∧ ∃ owner between, (eval n none e).Yields m owner between ∧
      ∃ key last, (eval n none i).Yields between key last ∧ (Value.lookupItem owner key).Yields last v after := by
  cases fuel <;> simp [eval]

theorem eval_binary : (eval fuel none (.binary l op a b)).Yields m v after ↔
    ∃ n, fuel = n + 1 ∧ ∃ first between, (eval n none a).Yields m first between ∧
      ∃ second last, (eval n none b).Yields between second last ∧
        (Value.binary op first second).Yields last v after := by
  cases fuel <;> simp [eval]

theorem evalWhole_binary : (evalWhole fuel none (.binary l op a b)).Yields m v after ↔
    ∃ n, fuel = n + 1 ∧ (eval n none (.binary l op a b)).Yields m v after := by
  cases fuel <;> simp [evalWhole]

theorem eval_minus : (eval fuel none (.unary l .minus e)).Yields m v after ↔
    ∃ n, fuel = n + 1 ∧ ∃ w between, (eval n none e).Yields m w between ∧
      (Value.negated w).Yields between v after := by
  cases fuel <;> simp [eval]

theorem eval_call : (eval fuel none (.call l f args [])).Yields m v after ↔
    ∃ n, fuel = n + 1 ∧ ∃ w, (evalWhole n none (.call l f args [])).Yields m w after ∧ w.bare = v := by
  cases fuel <;> simp [eval]

theorem evalWhole_call : (evalWhole fuel none (.call l f args [])).Yields m v after ↔
    ∃ n, fuel = n + 1 ∧ ∃ function between, (eval n none f).Yields m function between ∧
      ∃ given last, (evalArgs n none l.first args).Yields between given last ∧
        (call n function given []).Yields last v after := by
  cases fuel <;> simp [evalWhole]

theorem eval_compare : (eval fuel none (.compare l a [(op, b)])).Yields m v after ↔
    ∃ n, fuel = n + 1 ∧ ∃ first between, (evalCompared n none a).Yields m first between ∧
      (evalChain n none l.first first [(op, b)]).Yields between v after := by
  cases fuel <;> simp [eval]

theorem evalChain_single : (evalChain fuel none line first [(op, b)]).Yields m v after ↔
    ∃ n, fuel = n + 1 ∧ ∃ second between, (evalCompared n none b).Yields m second between ∧
      (Value.compare op first second).Yields between v after := by
  cases fuel <;> simp [evalChain]

theorem evalCompared_call : (evalCompared fuel none (.call l f args [])).Yields m v after ↔
    ∃ n, fuel = n + 1 ∧ (evalWhole n none (.call l f args [])).Yields m v after := by
  cases fuel <;> simp [evalCompared]

theorem evalCompared_attribute : (evalCompared fuel none (.attribute l e attr)).Yields m v after ↔
    ∃ n, fuel = n + 1 ∧ (evalWhole n none (.attribute l e attr)).Yields m v after := by
  cases fuel <;> simp [evalCompared]

theorem mapM_singletons (parts : α → Run (List β)) (single : α → Run β) (items : List α)
    (each : ∀ e ∈ items, parts e = (fun v => [v]) <$> single e) :
    List.flatten <$> items.mapM parts = items.mapM single := by
  induction items with
  | nil => rfl
  | cons e rest ih =>
    rw [List.forall_mem_cons] at each
    simp only [List.mapM_cons, each.1, ← ih each.2, map_eq_pure_bind, bind_assoc, pure_bind]
    rfl

theorem evalArgs_succ (plain : ∀ e ∈ items, Update.isStarred e = false) :
    evalArgs (n + 1) none line items = items.mapM (evalWhole n none) := by
  simp only [evalArgs, bind_pure_comp]
  refine mapM_singletons _ _ _ fun e member => ?_
  cases e with
  | starred l e => cases plain _ member
  | _ => rfl

theorem evalArgs_plain (items : List Expr) (plain : ∀ e ∈ items, Update.isStarred e = false) :
    (evalArgs fuel none line items).Yields m vs after ↔
      ∃ n, fuel = n + 1 ∧ (items.mapM (evalWhole n none)).Yields m vs after := by
  cases fuel with
  | zero => simp [evalArgs]
  | succ n => simp [-evalArgs, evalArgs_succ plain]

/-! ### Statements -/

theorem exec_expr : (exec fuel none (.expr span e)).Yields m flow after ↔
    ∃ n, fuel = n + 1 ∧ (∃ v, (eval n none e).Yields m v after) ∧ Flow.next = flow := by
  cases fuel <;> simp [exec]

theorem exec_assign : (exec fuel none (.assign span [target] e)).Yields m flow after ↔
    ∃ n, fuel = n + 1 ∧ ∃ v between, (evalWhole n none e).Yields m v between ∧
      ∃ w last, (hold v).Yields between w last ∧ (∃ u, (assign n none target w).Yields last u after) ∧
        Flow.next = flow := by
  cases fuel <;> simp [exec]

theorem exec_augmented : (exec fuel none (.augmented span target op e)).Yields m flow after ↔
    ∃ n, fuel = n + 1 ∧ (∃ u, (augment n none target op e).Yields m u after) ∧ Flow.next = flow := by
  cases fuel <;> simp [exec]

theorem exec_branch : (exec fuel none (.branch span test body orelse)).Yields m flow after ↔
    ∃ n, fuel = n + 1 ∧ ∃ v between, (eval n none test).Yields m v between ∧
      ∃ b last, (Value.truth v).Yields between b last ∧
        (execAll n none (if b then body else orelse)).Yields last flow after := by
  cases fuel with
  | zero => simp [exec]
  | succ n =>
    simp only [exec, yields_bind, yields_onLine, Nat.add_right_cancel_iff, exists_eq_left']
    refine exists_congr fun v => exists_congr fun between => and_congr_right fun _ => ?_
    refine exists_congr fun b => exists_congr fun last => and_congr_right fun _ => ?_
    cases b <;> simp

theorem execAll_cons (ran : (execAll fuel none (s :: rest)).Yields m flow after)
    (goesOn : ∀ n flow between, (exec n none s).Yields m flow between → flow = .next) :
    ∃ n between, (exec n none s).Yields m .next between ∧ (execAll n none rest).Yields between flow after := by
  cases fuel with
  | zero => simp [execAll] at ran
  | succ n =>
    simp only [execAll, yields_bind] at ran
    obtain ⟨first, between, ran, later⟩ := ran
    cases goesOn n first between ran
    exact ⟨n, between, ran, later⟩

theorem execAll_single (ran : (execAll fuel none [s]).Yields m flow after) :
    ∃ n first, (exec n none s).Yields m first after := by
  cases fuel with
  | zero => simp [execAll] at ran
  | succ n =>
    simp only [execAll, yields_bind] at ran
    obtain ⟨first, between, ran, later⟩ := ran
    have same : between = after := by
      cases first <;> cases n <;> simp [execAll] at later
      all_goals exact later.2
    exact ⟨n, first, same ▸ ran⟩

theorem assign_name : (assign fuel none (.name l x) v).Yields m u after ↔
    fuel ≠ 0 ∧ (assignName none x v).Yields m u after := by
  cases fuel <;> simp [assign]

theorem assign_attribute : (assign fuel none (.attribute l e attr) v).Yields m u after ↔
    ∃ n, fuel = n + 1 ∧ ∃ owner between, (eval n none e).Yields m owner between ∧
      (Value.setAttr owner attr v).Yields between u after := by
  cases fuel <;> simp [assign]

theorem assign_subscript : (assign fuel none (.subscript l e i) v).Yields m u after ↔
    ∃ n, fuel = n + 1 ∧ ∃ owner between, (eval n none e).Yields m owner between ∧
      ∃ key last, (eval n none i).Yields between key last ∧ (Value.setItem owner key v.bare).Yields last u after := by
  cases fuel <;> simp [assign]

theorem augment_subscript : (augment fuel none (.subscript l e i) op operand).Yields m u after ↔
    ∃ n, fuel = n + 1 ∧ ∃ owner m₁, (eval n none e).Yields m owner m₁ ∧
      ∃ key m₂, (eval n none i).Yields m₁ key m₂ ∧
        ∃ old m₃, (Value.lookupItem owner key).Yields m₂ old m₃ ∧
          ∃ v m₄, (eval n none operand).Yields m₃ v m₄ ∧
            ∃ w m₅, (Value.update op old v).Yields m₄ w m₅ ∧ (Value.setItem owner key w).Yields m₅ u after := by
  cases fuel <;> simp [augment]

end
end Rebind.Program

namespace Rebind

open Number Strided Syntax Run Program

/-- The library is at hand under its own name, and nothing hides it. -/
structure Memory.Ready (m : Memory) : Prop where
  free : m.globals.lookup Update.libraryName = none
  prelude : m.prelude = replacedNames

/-- The value as a variable keeps it: arrays as they are, single numbers perhaps with the place where they
were made. -/
inductive Value.Keeps (m : Memory) (shape : Shape) (xs : List Int) : Value → Prop
  | itself (carries : Value.Carries m shape xs v) : Keeps m shape xs v
  | marked (carries : Value.Carries m shape xs (.scalar .int64 (.int n))) :
      Keeps m shape xs (.held k (.scalar .int64 (.int n)))

section
variable {m between after : Memory} {v w : Value} {names : Set String} {spots : Set (Nat × Nat)}

section
variable (keeps : v.Keeps m shape xs)
include keeps

theorem Value.Keeps.carries : v.bare.Carries m shape xs := by
  rcases keeps with carries | carries
  · rwa [carries.bare]
  · exact carries

theorem Value.Keeps.later (changes : m.Changes names spots after) (avoids : v.bare.Avoids spots) :
    v.Keeps after shape xs := by
  rcases keeps with carries | carries
  · rw [carries.bare] at avoids
    exact .itself (carries.later changes avoids)
  · exact .marked (carries.later changes avoids)

theorem Value.Keeps.grown (grows : m.Grows after) : v.Keeps after shape xs :=
  keeps.later grows (by simp [Value.Avoids])

theorem Value.Keeps.array (same : v.bare = .array number view) : v = .array number view := by
  rcases keeps with carries | carries
  · rwa [carries.bare] at same
  · cases same

theorem hold_keeps (ran : (hold v).Yields m w after) : m.Grows after ∧ w.Keeps after shape xs ∧ w.bare = v.bare := by
  obtain ⟨grows, same⟩ := hold_yields ran
  refine ⟨grows, ?_, same⟩
  rw [hold, yields_ite] at ran
  rcases ran with ⟨anew, ran⟩ | ⟨_, ran⟩
  · simp only [freshId, yields_bind, yields_pure] at ran
    obtain ⟨_, _, _, rfl, rfl⟩ := ran
    rcases keeps with carries | carries
    · cases id carries with
      | array _ _ _ _ _ _ => cases anew
      | single _ _ _ => exact .marked (carries.grown grows)
    · cases anew
  · rw [yields_pure] at ran
    obtain ⟨rfl, rfl⟩ := ran
    exact keeps

end

/-! ### Variables -/

theorem lookup_replaced (bindings : Bindings) (name other : String) (v : Value) :
    (bindings.map fun (n, old) => (n, if n == name then v else old)).lookup other =
      (bindings.lookup other).map fun old => if other == name then v else old := by
  induction bindings with
  | nil => rfl
  | cons pair rest ih =>
    rw [List.map_cons, List.lookup_cons, List.lookup_cons]
    by_cases same : other = pair.1
    · simp [same]
    · have apart : (other == pair.1) = false := beq_false_of_ne same
      simp only [apart, ih]

theorem lookup_set_self (bindings : Bindings) (name : String) (v : Value) :
    (Bindings.set bindings name v).lookup name = some v := by
  rw [Bindings.set]
  split
  · rename_i bound
    obtain ⟨pair, member, same⟩ := List.any_eq_true.mp bound
    have found : bindings.lookup name ≠ none := by
      intro missing
      have apart := List.lookup_eq_none_iff.mp missing pair member
      simp_all
    obtain ⟨old, found⟩ := Option.ne_none_iff_exists'.mp found
    rw [lookup_replaced, found]
    simp
  · rename_i free
    have missing : bindings.lookup name = none := by
      rw [List.lookup_eq_none_iff]
      intro pair member
      rw [bne_iff_ne]
      intro same
      exact free (List.any_eq_true.mpr ⟨pair, member, by simp [same]⟩)
    rw [List.lookup_append, missing]
    simp

theorem lookup_set_of_ne (bindings : Bindings) (v : Value) (different : other ≠ name) :
    (Bindings.set bindings name v).lookup other = bindings.lookup other := by
  rw [Bindings.set]
  split
  · rw [lookup_replaced]
    cases bindings.lookup other <;> simp [different]
  · have apart : (other == name) = false := beq_false_of_ne different
    rw [List.lookup_append, List.lookup_cons, apart]
    simp

theorem loadGlobal_bound (found : m.globals.lookup x = some w) :
    (loadGlobal x).Yields m v after ↔ w = v ∧ m = after := by
  simp [loadGlobal, found]

theorem storeGlobal_changes (m : Memory) (x : String) (v : Value) :
    m.Changes {x} ∅ { m with globals := Bindings.set m.globals x v } where
  globals _ outside := lookup_set_of_ne _ _ outside
  prelude := rfl
  objects := Nat.le_refl _
  buffers := Nat.le_refl _
  lengths _ _ := rfl
  kept _ _ _ := rfl

theorem assignName_yields (keeps : v.Keeps m shape xs) (ran : (assignName none x v).Yields m u after) :
    m.Changes {x} ∅ after ∧ ∃ w, after.globals.lookup x = some w ∧ w.Keeps after shape xs ∧ w.bare = v.bare := by
  simp only [assignName, home, knownIn_module, storeGlobal, pure_bind, yields_bind,
    yields_modify] at ran
  obtain ⟨w, between, held, rfl⟩ := ran
  obtain ⟨grows, keeps', same⟩ := hold_keeps keeps held
  have stored := storeGlobal_changes between x w
  refine ⟨(grows.widened _ _).trans stored, w, lookup_set_self _ _ _, ?_, same⟩
  exact keeps'.later stored (by simp [Value.Avoids])

/-! ### The library -/

theorem Memory.Ready.later (ready : m.Ready) (changes : m.Changes names spots after)
    (outside : Update.libraryName ∉ names) : after.Ready :=
  ⟨(changes.globals _ outside).trans ready.free, changes.prelude.trans ready.prelude⟩

theorem Memory.Ready.grown (ready : m.Ready) (grows : m.Grows after) : after.Ready :=
  ready.later grows (by simp)

theorem loadGlobal_library (ready : m.Ready) :
    (loadGlobal Update.libraryName).Yields m v after ↔ .module .helpers = v ∧ m = after := by
  have found : m.prelude.lookup Update.libraryName = some (.module .helpers) := by
    rw [ready.prelude]
    rfl
  simp [loadGlobal, ready.free, found]

theorem evalWhole_library (ready : m.Ready) (found : Module.attr? .helpers attr = some w)
    (ran : (evalWhole fuel none (Update.library l attr)).Yields m v after) : m = after ∧ w = v := by
  rw [Update.library, evalWhole_attribute] at ran
  obtain ⟨n, rfl, owner, between, named, got⟩ := ran
  rw [eval_name] at named
  obtain ⟨_, _, loaded, rfl⟩ := named
  obtain ⟨rfl, rfl⟩ := (loadGlobal_library ready).mp loaded
  simp only [Value.bare, Value.getAttr, found, Value.orMissing, yields_pure] at got
  exact ⟨got.2, got.1⟩

theorem eval_library (ready : m.Ready) (found : Module.attr? .helpers attr = some w)
    (ran : (eval fuel none (Update.library l attr)).Yields m v after) : m = after ∧ w.bare = v := by
  rw [Update.library, eval_attribute] at ran
  obtain ⟨n, rfl, owner, between, named, u, got, rfl⟩ := ran
  obtain ⟨rfl, rfl⟩ := evalWhole_library ready found (evalWhole_attribute.mpr ⟨n, rfl, owner, between, named, got⟩)
  exact ⟨rfl, rfl⟩

/-- What a named function is called on: its arguments without marks. Its result may be an argument that is
the same value. -/
theorem builtinCall_yields (apart : f.tellsApart = false) (ran : (Builtin.call caller f args []).Yields m v after) :
    ∃ r, (Builtin.callOn caller f (args.map Value.bare) []).Yields m r after ∧
      (v = r ∨ r.isMadeAnew = true ∧ Value.isSame v.bare r = true) := by
  simp only [Builtin.call, apart, Bool.false_eq_true, if_false, yields_bind, List.map_nil, List.append_nil] at ran
  obtain ⟨r, between, called, ran⟩ := ran
  rw [yields_ite] at ran
  rcases ran with ⟨anew, ran⟩ | ⟨_, ran⟩
  · rw [Bool.and_eq_true] at anew
    rw [yields_pure] at ran
    obtain ⟨rfl, rfl⟩ := ran
    refine ⟨r, called, ?_⟩
    cases found : args.find? fun u => Value.isSame u.bare r with
    | none => exact .inl rfl
    | some u =>
      have same := List.find?_some found
      exact .inr ⟨anew.2, same⟩
  · rw [yields_pure] at ran
    obtain ⟨rfl, rfl⟩ := ran
    exact ⟨_, called, .inl rfl⟩

theorem isSame_single (same : Value.isSame v (.scalar .int64 (.int n)) = true) : v = .scalar .int64 (.int n) := by
  cases v with
  | scalar d x =>
    simp only [Value.isSame, Bool.and_eq_true, beq_iff_eq] at same
    obtain ⟨rfl, equal⟩ := same
    cases x with
    | int k => simpa [Value.sameNum] using equal
    | _ => cases equal
  | _ => simp [Value.isSame, Value.identity?] at same

theorem Value.bare_or_held (v : Value) : v.bare = v ∨ ∃ k, v = .held k v.bare := by
  cases v with
  | held k u => exact .inr ⟨k, rfl⟩
  | _ => exact .inl rfl

theorem handedOn (carries : Value.Carries m shape xs r)
    (passed : v = r ∨ r.isMadeAnew = true ∧ Value.isSame v.bare r = true) : v.Keeps m shape xs ∧ v.bare = r := by
  rcases passed with rfl | ⟨anew, same⟩
  · exact ⟨.itself carries, carries.bare⟩
  · cases id carries with
    | array _ _ _ _ _ _ => cases anew
    | single _ _ _ =>
      have equal := isSame_single same
      refine ⟨?_, equal⟩
      rcases Value.bare_or_held v with bare | ⟨k, held⟩
      · rw [← bare, equal]
        exact .itself carries
      · rw [held, equal]
        exact .marked carries

section
variable {args : List Expr} (ready : m.Ready) (found : Module.attr? .helpers attr = some (.builtin f))
  (plain : ∀ e ∈ args, Update.isStarred e = false)
  (ran : (evalWhole fuel none (Update.callLibrary l attr args)).Yields m v after)
include ready found plain ran

theorem evalWhole_callLibrary : ∃ n k vs between, (args.mapM (evalWhole n none)).Yields m vs between ∧
    (Program.call k (.builtin f) vs []).Yields between v after := by
  rw [Update.callLibrary, Update.call, evalWhole_call] at ran
  obtain ⟨n, rfl, function, _, named, vs, between, given, called⟩ := ran
  obtain ⟨rfl, rfl⟩ := eval_library ready found named
  obtain ⟨k, rfl, evaluated⟩ := (evalArgs_plain args plain).mp given
  exact ⟨k, k + 1, vs, between, evaluated, called⟩

theorem evalWhole_kernel (direct : ∀ n vs, Program.call (n + 1) (.builtin f) vs [] = f.call (Program.call n) vs [])
    (apart : f.tellsApart = false) : ∃ n vs between caller r, (args.mapM (evalWhole n none)).Yields m vs between ∧
      (Builtin.callOn caller f (vs.map Value.bare) []).Yields between r after ∧
      (v = r ∨ r.isMadeAnew = true ∧ Value.isSame v.bare r = true) := by
  obtain ⟨n, k, vs, between, evaluated, called⟩ := evalWhole_callLibrary ready found plain ran
  cases k with
  | zero => simp [Program.call] at called
  | succ k =>
    rw [direct] at called
    obtain ⟨r, made, passed⟩ := builtinCall_yields apart called
    exact ⟨n, vs, between, _, r, evaluated, made, passed⟩

end

theorem mapM_single (f : α → Run β) (a : α) : (([a] : List α).mapM f).Yields m vs after ↔
    ∃ b, (f a).Yields m b after ∧ [b] = vs := by
  simp [List.mapM_cons]

theorem eval_setindexTrait (ready : m.Ready) (plain : Update.isStarred tested = false)
    (ran : (evalWhole fuel none (Update.callLibrary l "setindex_trait" [tested])).Yields m v after) :
    ∃ n w between c, (evalWhole n none tested).Yields m w between ∧
      (Value.capabilityOf w.bare).Yields between c after ∧ v = .capability c := by
  obtain ⟨n, vs, between, caller, r, evaluated, called, passed⟩ :=
    evalWhole_kernel ready rfl (by simpa using plain) ran (fun _ _ => rfl) rfl
  obtain ⟨w, given, rfl⟩ := (mapM_single _ _).mp evaluated
  change (do return Value.capability (← Value.capabilityOf w.bare) : Run Value).Yields _ _ _ at called
  simp only [yields_bind, yields_pure] at called
  obtain ⟨c, _, asked, rfl, rfl⟩ := called
  refine ⟨n, w, between, c, given, asked, ?_⟩
  rcases passed with same | ⟨anew, _⟩
  · exact same
  · cases anew

theorem capabilityBranch_yields (ready : m.Ready) (plain : Update.isStarred tested = false)
    (sound : ∀ n w between, (evalWhole n none tested).Yields m w between → m.Grows between ∧
      Value.capabilityOf w.bare = pure (if w.bare.supportsIndexedAssignment then .canMutate else .cannotMutate))
    (ran : (exec fuel none (Update.capabilityBranch span tested body orelse)).Yields m flow after) :
    ∃ n w between k, (evalWhole n none tested).Yields m w between ∧
      (execAll k none
        (if w.bare.supportsIndexedAssignment then body else orelse)).Yields between flow after := by
  rw [Update.capabilityBranch, exec_branch] at ran
  obtain ⟨n, rfl, v, _, compared, b, _, decided, ran⟩ := ran
  rw [eval_compare] at compared
  obtain ⟨n, rfl, first, _, asked, chained⟩ := compared
  rw [evalChain_single] at chained
  obtain ⟨n, rfl, second, _, named, same⟩ := chained
  rw [Update.callLibrary, Update.call, evalCompared_call] at asked
  obtain ⟨k, counted, asked⟩ := asked
  obtain ⟨k', w, between, c, evaluated, capable, rfl⟩ := eval_setindexTrait ready plain asked
  obtain ⟨grows, known⟩ := sound k' w between evaluated
  rw [known, yields_pure] at capable
  obtain ⟨rfl, rfl⟩ := capable
  rw [Update.library, evalCompared_attribute] at named
  obtain ⟨_, _, named⟩ := named
  obtain ⟨rfl, rfl⟩ := evalWhole_library (ready.grown grows) rfl named
  simp only [Value.compare, Value.isSame, yields_pure] at same
  obtain ⟨rfl, rfl⟩ := same
  rw [truth_bool, yields_pure] at decided
  obtain ⟨rfl, rfl⟩ := decided
  refine ⟨k', w, between, n + 1 + 1, evaluated, ?_⟩
  cases takes : w.bare.supportsIndexedAssignment <;> simpa [takes] using ran

end
end Rebind
