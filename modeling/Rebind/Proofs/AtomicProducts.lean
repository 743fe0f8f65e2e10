import Rebind.Proofs.Agreement
import Rebind.Proofs.EvaluationOrder
import Rebind.Proofs.FlatTargets
import Rebind.Proofs.PlainProducts
/-!
Multiplications as a whole. The statement that replaces a multiplication changes its target or fails and changes nothing,
except that a temporary may be bound: what is evaluated only adds to memory, the product fails before it writes, and what
comes after the product goes through, or else writes back what no one else has seen.
-/
namespace Rebind

open Number Strided Syntax Update Value Run Layout Program
open Program hiding assign call

/-- In every state that differs from the given one in the given parts at most, the path leads to something that a product
can be written into; and where a part of it leads to a matrix, the matrix is there. -/
structure Memory.Offers (m : Memory) (parts : Set Part) (target : Expr) : Prop where
  takes : ∀ between, m.Alters parts between → ∀ fuel v after,
    (eval fuel none target).Yields between v after → v.IsTarget after
  known : ∀ between, m.Alters parts between → ∀ stage ∈ stages target, ∀ fuel k after,
    (eval fuel none stage).Yields between (.sparse k) after → ∃ o, after.objects[k]? = some (.sparse o)

/-- A value, perhaps with a mark, that is not taken for an array of objects. -/
def Value.IsFactor (m : Memory) (v : Value) : Prop := v.bare.bare = v.bare ∧ v.bare.FreeOfObjects m

/-- In every such state the operand has no effects, and does not stand for an array of objects. -/
structure Memory.Provides (m : Memory) (parts : Set Part) (e : Expr) : Prop where
  single : Update.isStarred e = false
  quiet : ∀ between, m.Alters parts between → ∀ fuel, (evalWhole fuel none e).Ends between
    (fun v after => between.Extends after ∧ v.IsFactor after) between.Extends

/-- The temporary holds what the target was flattened to, and nothing else has changed. -/
structure Memory.Flattened (m : Memory) (temporary : String) (target : Expr) (v flat : Value) (reached after : Memory) :
    Prop where
  evaluated : ∃ fuel, (eval fuel none target).Yields m v reached
  extends_ : m.Extends reached
  source : v.IsTarget reached
  flattens : Flattens reached v flat
  alters : reached.Alters {.global temporary} after
  bound : after.globals.lookup temporary = some flat
  takes : flat.IsTarget after

/-- The variables that the replacement of a form may bind on its own account. -/
def Update.Form.ownParts (form : Form) (number : Nat) : Set Part :=
  {part | ∃ x ∈ form.temporaries number, part = .global x}

section
variable {m between after last : Memory} {v w : Value} {e target left right tested : Expr} {temporary : String} {n : Nat}
  {body orelse : List Stmt} {parts : Set Part} {s₁ s₂ reached : Memory} {flat : Value}

theorem Memory.Offers.later (offers : m.Offers parts target) (alters : m.Alters parts after) :
    after.Offers parts target :=
  ⟨fun between further => offers.takes between (alters.trans further),
    fun between further => offers.known between (alters.trans further)⟩

theorem Memory.Provides.later (provides : m.Provides parts e) (alters : m.Alters parts after) :
    after.Provides parts e :=
  ⟨provides.single, fun between further => provides.quiet between (alters.trans further)⟩

/-! ### Operands -/

theorem Memory.Provides.evalWhole (provides : m.Provides parts e) (fuel : Nat) :
    (evalWhole fuel none e).Ends m (fun v after => m.Extends after ∧ v.IsFactor after) m.Extends :=
  provides.quiet m (.refl _ m) fuel

theorem Memory.Provides.eval (provides : m.Provides parts e) (fuel : Nat) :
    (Program.eval fuel none e).Ends m (fun _ after => m.Extends after) m.Extends := by
  have whole (fuel : Nat) : (Program.evalWhole fuel none e).Ends m (fun _ after => m.Extends after) m.Extends :=
    (provides.evalWhole fuel).imp (fun _ _ found => found.1) fun _ found => found
  cases fuel with
  | zero => exact ends_fail.mpr (.refl m)
  | succ n =>
    cases e with
    | name l x => exact (Reference.name l x).eval_eq (n + 1) ▸ ends_map.mpr (whole (n + 1))
    | «attribute» l e attr =>
      have same : Program.eval (n + 1) none (.attribute l e attr) =
          bare <$> Program.evalWhole (n + 1) none (.attribute l e attr) := by
        simp [Program.eval, Program.evalWhole]
      rw [same]
      exact ends_map.mpr (whole (n + 1))
    | call l f args keywords =>
      have same : Program.eval (n + 1) none (.call l f args keywords) =
          bare <$> Program.evalWhole n none (.call l f args keywords) := by
        simp [Program.eval]
      rw [same]
      exact ends_map.mpr (whole n)
    | _ => exact whole (n + 2)

theorem Value.Flattens.isFactor (flattens : Flattens between v w) (bare : v.bare = v) (free : v.FreeOfObjects m) :
    w.IsFactor m := by
  cases flattens with
  | array _ typed _ _ _ | box _ typed _ _ _ _ => exact ⟨rfl, typed.trans_ne free⟩
  | itself _ _ =>
    rw [IsFactor, bare, bare]
    exact ⟨rfl, free⟩

theorem Value.IsFactor.later (factor : v.IsFactor m) (extends_ : m.Extends after) : v.IsFactor after :=
  ⟨factor.1, factor.2.later extends_⟩

theorem factor_ends (ready : m.Ready) (provides : m.Provides parts e) (flat : Bool) :
    (evalWhole (n + 3) none (factorOf flat l e)).Ends m
      (fun v after => m.Extends after ∧ v.IsFactor after) m.Extends := by
  cases flat with
  | false => exact provides.evalWhole (n + 3)
  | true =>
    refine kernel_ends ready rfl (by simpa using provides.single) (fun _ _ => rfl) rfl ?_
    simp only [List.mapM_cons, List.mapM_nil, ends_bind, ends_pure]
    refine (provides.evalWhole (n + 1)).imp ?_ fun _ extends_ => extends_
    rintro v between ⟨extends_, factor⟩ caller
    have called : Builtin.callOn caller .vec ([v].map bare) [] = vec v.bare := rfl
    rw [called]
    refine Completes.ends ((vec_made v.bare between).imp ?_)
    rintro w after ⟨further, flattens⟩
    refine ⟨⟨extends_.trans further, flattens.isFactor factor.1 (factor.2.later further)⟩, ?_⟩
    intro _ other member
    rw [List.mem_singleton.mp member]
    exact ⟨extends_.trans further, factor.later further⟩

/-! ### The product -/

theorem Value.IsTarget.later (target : v.IsTarget m)
    (held : ∀ (id : Nat) (o : Object), m.objects[id]? = some o → after.objects[id]? = some o) : v.IsTarget after := by
  cases target with
  | array typed number => exact .array typed number
  | box typed number foreign => exact .box typed number foreign
  | sparse matrix writable => exact .sparse ⟨held _ _ matrix.found, held _ _ matrix.stored⟩ writable

theorem single_factor (single : Update.isStarred e = false) (flat : Bool) (l : Lines) :
    Update.isStarred (factorOf flat l e) = false := by
  cases flat with
  | false => exact single
  | true => rfl

theorem productInto_ends {into : Expr} (good : Value → Prop) (ready : m.Ready) (single : Update.isStarred into = false)
    (evaluated : (evalWhole (n + 3) none into).Ends m
      (fun v after => m.Extends after ∧ v.bare.IsTarget after ∧ good v.bare) m.Extends)
    (first : m.Provides parts left) (second : m.Provides parts right) (onLeft onRight accumulate : Bool) :
    (exec (n + 7) none (productInto span into (factorOf onLeft span.lines left)
      (factorOf onRight span.lines right) accumulate)).Ends m (fun flow after => flow = .next ∧
        ∃ c between, good c ∧ m.Extends between ∧ between.Alters c.parts after ∧ c.IsOpen) m.Extends := by
  have plain : ∀ e ∈ [into, factorOf onLeft span.lines left, factorOf onRight span.lines right] ++
      unitsIf accumulate span.lines, Update.isStarred e = false := by
    simp only [List.cons_append, List.nil_append, List.forall_mem_cons]
    refine ⟨single, single_factor first.single _ _, single_factor second.single _ _, ?_⟩
    cases accumulate <;> simp [unitsIf, one, Update.isStarred]
  refine ends_exec_expr.mpr (ends_eval_call.mpr ?_)
  refine kernel_ends ready rfl plain (fun _ _ => rfl) rfl ?_
  simp only [List.cons_append, List.nil_append, List.mapM_cons, ends_bind, ends_pure]
  refine evaluated.imp ?_ fun _ extends_ => extends_
  rintro c s₁ ⟨grown₁, target, holds⟩
  refine (factor_ends (ready.grown grown₁.toChanges) (first.later (grown₁.alters _)) onLeft).imp ?_
    fun _ further => grown₁.trans further
  rintro a s₂ ⟨grown₂, factor⟩
  have reached := grown₁.trans grown₂
  refine (factor_ends (ready.grown reached.toChanges) (second.later (reached.alters _)) onRight).imp ?_
    fun _ further => reached.trans further
  rintro b s₃ ⟨grown₃, factor'⟩
  have whole := reached.trans grown₃
  refine Completes.ends ((unitsIf_complete accumulate).imp ?_)
  rintro units _ ⟨rfl, same⟩ caller
  have called : Builtin.callOn caller .matmulInto ((c :: a :: b :: units).map bare) [] =
      matmulInto c.bare a.bare b.bare (.int 1) (keptFactor accumulate) := by
    simp only [List.map_cons, same]
    cases accumulate <;> rfl
  rw [called]
  have atomic := matmulInto_atomic (target.later (grown₂.trans grown₃).held) (factor.2.later grown₃) factor'.2 accumulate
  refine atomic.imp ?_ fun _ further => whole.trans further
  rintro v after ⟨alters, rfl, opens⟩
  have done : ∃ c between, good c ∧ m.Extends between ∧ between.Alters c.parts after ∧ c.IsOpen :=
    ⟨_, s₃, holds, whole, alters, opens⟩
  exact ⟨⟨trivial, done⟩, fun _ _ _ => ⟨trivial, done⟩⟩

/-! ### The branch -/

theorem starred_path (path : Reference e) : Update.isStarred e = false := by
  cases path <;> rfl

theorem capabilityBranch_ends {post : Flow → Memory → Prop} {failed : Memory → Prop} (ready : m.Ready)
    (path : Reference tested) (stopped : ∀ after, m.Extends after → failed after)
    (first : ∀ between, m.Extends between → (execAll (n + 6) none body).Ends between post failed)
    (second : ∀ between, m.Extends between → (execAll (n + 6) none orelse).Ends between post failed) :
    (exec (n + 7) none (capabilityBranch span tested body orelse)).Ends m post failed := by
  have asked : (evalWhole (n + 4) none (callLibrary span.lines "setindex_trait" [tested])).Ends m
      (fun _ after => m.Extends after) m.Extends := by
    refine kernel_ends ready rfl (by simpa using starred_path path) (fun _ _ => rfl) rfl ?_
    simp only [List.mapM_cons, List.mapM_nil, ends_bind, ends_pure]
    refine (path.evalWhole_adds (n + 2)).ends.imp ?_ fun _ extends_ => extends_
    intro v between extends_ caller
    have called : Builtin.callOn caller .setindexTrait ([v].map bare) [] =
        (do return .capability (← capabilityOf v.bare)) := rfl
    rw [called, ends_bind]
    refine (capabilityOf_adds (v := v.bare)).ends.imp ?_ fun _ further => extends_.trans further
    intro c after further
    have whole := extends_.trans further
    exact ends_pure.mpr ⟨whole, fun _ _ _ => whole⟩
  rw [capabilityBranch, ends_exec_branch]
  refine ends_eval_compare.mpr (asked.imp ?_ stopped)
  intro capability between extends_
  refine (evalWhole_library_ends (ready.grown extends_.toChanges) rfl).mpr ?_
  simp only [Value.compare, ends_pure, truth_bool]
  split
  · exact first between extends_
  · exact second between extends_

/-! ### The product bound anew -/

theorem setAttr_ends (owner : Value) (attr : String) (v : Value) (m : Memory) :
    (setAttr owner attr v).Ends m (fun _ _ => True) m.Extends := by
  have read (k : Nat) : (Run.object k).Ends m (fun _ after => m = after) m.Extends := (object_goesThrough k m).ends
  have stored (k : Nat) (held : Object) : (store k held).Ends m (fun _ _ => True) m.Extends :=
    (store_goesThrough k m held).ends
  have refused : (fail .attribute : Run Unit).Ends m (fun _ _ => True) m.Extends := ends_fail.mpr (.refl m)
  cases owner with
  | record k =>
    refine ends_bind.mpr ((read k).imp ?_ fun _ extends_ => extends_)
    rintro held _ rfl
    split
    · exact stored _ _
    · exact refused
  | classType k =>
    simp only [setAttr, classContent?, ends_bind]
    refine (read k).imp ?_ fun _ extends_ => extends_
    rintro held _ rfl
    cases held with
    | classType c => exact ends_pure.mpr (stored k _)
    | _ => exact refused
  | function k =>
    simp only [setAttr, functionContent?, ends_bind]
    refine (read k).imp ?_ fun _ extends_ => extends_
    rintro held _ rfl
    cases held with
    | function f =>
      refine ends_pure.mpr (ends_bind.mpr ?_)
      rcases f.setAttr attr v with fault | g
      · exact .refl m
      · exact stored k (.function g)
    | _ => exact refused
  | _ => exact refused

theorem assign_path_ends (path : Reference target) (fuel : Nat) (v : Value) (m : Memory) :
    (Program.assign fuel none target v).Ends m (fun _ _ => True) m.Extends := by
  cases fuel with
  | zero => exact ends_fail.mpr (.refl m)
  | succ n =>
    cases path with
    | name l x => exact ends_onLine.mpr (assignName_completes x v m).goesThrough.ends
    | dotted l attr path =>
      refine ends_bind.mpr ((path.eval_adds n).ends.imp ?_ fun _ extends_ => extends_)
      intro owner between extends_
      rw [knownIn_module, pure_bind, ends_onLine]
      exact (setAttr_ends owner attr v between).imp (fun _ _ done => done) fun _ further => extends_.trans further

theorem eval_factor_ends (ready : m.Ready) (provides : m.Provides parts e) (flat : Bool) :
    (eval (n + 4) none (factorOf flat l e)).Ends m (fun _ after => m.Extends after) m.Extends := by
  cases flat with
  | false => exact provides.eval (n + 4)
  | true =>
    refine ends_eval_call.mpr ((factor_ends (n := n) ready provides true).imp ?_ fun _ extends_ => extends_)
    exact fun _ _ found => found.1

section
variable (ready : m.Ready) (first : m.Provides parts left) (second : m.Provides parts right)
include ready first second

theorem product_ends (onLeft onRight : Bool) :
    (evalWhole (n + 6) none (.binary l .matMult (factorOf onLeft l left) (factorOf onRight l right))).Ends m
      (fun _ after => m.Extends after) m.Extends := by
  rw [ends_evalWhole_binary]
  refine (eval_factor_ends ready first onLeft).imp ?_ fun _ extends_ => extends_
  intro a s₁ grown₁
  refine (eval_factor_ends (ready.grown grown₁.toChanges) (second.later (grown₁.alters _)) onRight).imp ?_
    fun _ further => grown₁.trans further
  intro b s₂ grown₂
  have whole := grown₁.trans grown₂
  exact (binary_adds _ a b).ends.imp (fun _ _ more => whole.trans more) fun _ more => whole.trans more

theorem shapedProduct_ends (path : Reference target) (onLeft onRight : Bool) :
    (evalWhole (n + 8) none (callLibrary l "restructure"
      [target, .binary l .matMult (factorOf onLeft l left) (factorOf onRight l right)])).Ends m
      (fun _ after => m.Extends after) m.Extends := by
  refine kernel_ends ready rfl ?_ (fun _ _ => rfl) rfl ?_
  · simp only [List.forall_mem_singleton, List.forall_mem_cons]
    exact ⟨starred_path path, rfl⟩
  · simp only [List.mapM_cons, List.mapM_nil, ends_bind, ends_pure]
    refine (path.evalWhole_adds _).ends.imp ?_ fun _ extends_ => extends_
    intro reference s₁ grown₁
    refine (product_ends (ready.grown grown₁.toChanges) (first.later (grown₁.alters _))
      (second.later (grown₁.alters _)) onLeft onRight).imp ?_ fun _ further => grown₁.trans further
    intro product s₂ grown₂ caller
    have called : Builtin.callOn caller .restructure ([reference, product].map bare) [] =
        Value.restructure reference.bare product.bare := rfl
    have whole := grown₁.trans grown₂
    rw [called]
    refine (restructure_adds _ _).ends.imp ?_ fun _ more => whole.trans more
    exact fun _ _ more => ⟨whole.trans more, fun _ _ _ => whole.trans more⟩

theorem productBound_ends (path : Reference target) (onLeft onRight accumulate : Bool) :
    (exec (n + 12) none (productBound span target (factorOf onLeft span.lines left)
      (factorOf onRight span.lines right) accumulate)).Ends m (fun flow _ => flow = .next) m.Extends := by
  have bound {e : Expr} (evaluated : (evalWhole (n + 11) none e).Ends m (fun _ after => m.Extends after) m.Extends) :
      (exec (n + 12) none (.assign span [target] e)).Ends m (fun flow _ => flow = .next) m.Extends := by
    refine ends_exec_assign.mpr (evaluated.imp ?_ fun _ extends_ => extends_)
    intro v between extends_
    refine (hold_adds v).ends.imp ?_ fun _ further => extends_.trans further
    intro w last further
    refine (assign_path_ends path (n + 11) w last).imp (fun _ _ _ => rfl) ?_
    exact fun _ more => (extends_.trans further).trans more
  cases accumulate with
  | false => exact bound (shapedProduct_ends (n := n + 3) ready first second path onLeft onRight)
  | true =>
    refine bound (ends_evalWhole_binary.mpr ?_)
    refine (path.eval_adds (n + 9)).ends.imp ?_ fun _ extends_ => extends_
    intro kept s₁ grown₁
    refine ends_eval_call.mpr ?_
    refine (shapedProduct_ends (n := n) (ready.grown grown₁.toChanges) (first.later (grown₁.alters _)) (second.later (grown₁.alters _))
      path onLeft onRight).imp ?_ fun _ further => grown₁.trans further
    intro product s₂ grown₂
    have whole := grown₁.trans grown₂
    exact (binary_adds _ _ _).ends.imp (fun _ _ more => whole.trans more) fun _ more => whole.trans more

end


/-! ### Through a flattened target -/

theorem storeGlobal_alters (m : Memory) (x : String) (v : Value) :
    m.Alters {.global x} { m with globals := Bindings.set m.globals x v } :=
  ⟨(storeGlobal_changes m x v).mono (by simp) (by simp), fun _ o found => ⟨o, found, .same o⟩⟩

theorem bind_ends {post : Flow → Memory → Prop} {failed : Memory → Prop}
    (evaluated : (evalWhole (n + 1) none e).Ends m (fun v between => v.isMadeAnew = false ∧
      ∀ after, between.Alters {.global x} after → after.globals.lookup x = some v →
        (∀ (id : Nat) (o : Object), between.objects[id]? = some o → after.objects[id]? = some o) → post .next after)
      failed) :
    (exec (n + 2) none (assign span (.name l x) e)).Ends m post failed := by
  refine ends_exec_assign.mpr (evaluated.imp ?_ fun _ stopped => stopped)
  rintro v between ⟨plain, reached⟩
  have held : hold v = pure v := by simp [hold, plain]
  have stored : (storeGlobal x v).Yields between ⟨⟩ { between with globals := Bindings.set between.globals x v } :=
    yields_modify.mpr rfl
  rw [held, ends_pure]
  refine ends_onLine.mpr ?_
  simp only [assignName, home, knownIn_module, pure_bind, held]
  exact stored.ends_iff.mpr (reached _ (storeGlobal_alters between x v) (lookup_set_self _ _ _) fun _ _ found => found)

theorem Value.Flattens.isTarget (flattens : Flattens between v w) (target : v.IsTarget m) :
    w.IsTarget m ∧ w.isMadeAnew = false := by
  cases flattens with
  | array _ typed _ _ j =>
    cases target with
    | array typed' _ => exact ⟨.array (typed.trans_ne typed') j, rfl⟩
  | box _ typed _ _ j _ =>
    cases target with
    | box typed' _ _ => exact ⟨.box (typed.trans_ne typed') j false, rfl⟩
  | itself _ _ =>
    refine ⟨target, ?_⟩
    cases target <;> rfl

theorem View.parts_fresh {view : View} (fresh : m.buffers.size ≤ view.buffer) : ∀ part ∈ view.parts, ¬ part.In m := by
  rintro _ ⟨spot, member, rfl⟩ old
  obtain ⟨_, _, rfl⟩ := List.mem_map.mp member
  exact absurd old (Nat.not_lt.mpr fresh)

theorem Value.Flattens.copied (flattens : Flattens m v w) (opens : w.IsOpen) (closed : ¬ v.IsOpen) :
    ∀ part ∈ w.parts, ¬ part.In m := by
  cases flattens with
  | @array view other _ _ made _ _ | @box view other _ _ made _ _ _ =>
    rcases made with ⟨_, same⟩ | ⟨fresh, _⟩
    · exact absurd (same.symm.trans opens) closed
    · exact View.parts_fresh fresh
  | itself _ _ => exact absurd opens closed

theorem flatten_ends (ready : m.Ready) (path : Reference target) (offers : m.Offers parts target) :
    (exec (n + 4) none (assign span (.name l temporary) (callLibrary k "vec" [target]))).Ends m
      (fun flow after => flow = .next ∧ ∃ v flat reached, m.Flattened temporary target v flat reached after)
      m.Extends := by
  refine bind_ends (kernel_ends ready rfl (by simpa using starred_path path) (fun _ _ => rfl) rfl ?_)
  simp only [List.mapM_cons, List.mapM_nil, ends_bind, ends_pure]
  refine (path.evalWhole_adds (n + 1)).ends.given ?_
  intro u reached ran extends_ caller
  have evaluated : (eval (n + 1) none target).Yields m u.bare reached := by
    rw [path.eval_eq, map_eq_pure_bind, yields_bind]
    exact ⟨u, reached, ran, yields_pure.mpr ⟨rfl, rfl⟩⟩
  have source := offers.takes m (.refl _ m) _ _ _ evaluated
  have called : Builtin.callOn caller .vec ([u].map bare) [] = Value.vec u.bare := rfl
  rw [called]
  refine Completes.ends ((vec_made u.bare reached).imp ?_)
  rintro flat made ⟨further, flattens⟩
  obtain ⟨takes, plain⟩ := flattens.isTarget source
  refine ⟨⟨plain, fun after alters bound held => ⟨trivial, u.bare, flat, reached, ?_⟩⟩, fun anew => ?_⟩
  · exact ⟨⟨_, evaluated⟩, extends_, source, flattens, (further.alters _).trans alters, bound,
      (takes.later further.held).later held⟩
  · rw [plain] at anew
    cases anew

theorem isContent_of_mem_parts {part : Part} (member : part ∈ v.parts) : part.IsContent := by
  unfold Value.parts at member
  split at member
  · obtain ⟨_, _, rfl⟩ := member
    trivial
  · obtain ⟨_, _, rfl⟩ := member
    trivial
  · exact member

section
variable (path : Reference target) (offers : m.Offers {.global temporary} target)
  (apart : rootName? target ≠ some temporary)
include path offers apart

theorem putBack_ends (ready : s₂.Ready) (flattened : m.Flattened temporary target v flat reached s₁)
    (written : s₁.Alters flat.parts s₂) (opens : flat.IsOpen) (short : (stages target).length ≤ n + 1) :
    (exec (n + 5) none (.expr span (callLibrary l "unflatten_into" [target, .name k temporary]))).Ends s₂
      (fun flow _ => flow = .next) fun after => m.Alters {.global temporary} after := by
  let parts : Set Part := {.global temporary} ∪ flat.parts
  have altered : reached.Alters parts s₂ :=
    (flattened.alters.mono Set.subset_union_left).trans (written.mono Set.subset_union_right)
  have quiet (i : Nat) (name : String) : .member i name ∉ parts := by
    rintro (wrong | inside)
    · cases wrong
    · exact isContent_of_mem_parts inside
  have elsewhere (x : String) (root : rootName? target = some x) : .global x ∉ parts := by
    rintro (same | inside)
    · cases same
      exact apart root
    · exact isContent_of_mem_parts inside
  obtain ⟨fuel, evaluated⟩ := flattened.evaluated
  have again := path.again ((flattened.extends_.alters _).trans altered) quiet elsewhere (offers.known m (.refl _ m))
    evaluated short
  rw [path.eval_eq, completes_map] at again
  obtain ⟨u, last, ran, same⟩ := again
  have grown : s₂.Extends last := (path.evalWhole_adds (n + 1)).yields ran
  have later : reached.Alters parts last := altered.trans (grown.alters _)
  have bound : last.globals.lookup temporary = some flat := by
    have kept : s₂.globals.lookup temporary = s₁.globals.lookup temporary :=
      written.globals temporary fun inside => isContent_of_mem_parts inside
    rw [grown.globals temporary (by simp), kept, flattened.bound]
  rw [ends_exec_expr]
  refine ends_eval_call.mpr ((callLibrary_ends ready rfl ?_).mpr ?_)
  · simp only [List.forall_mem_singleton, List.forall_mem_cons]
    exact ⟨starred_path path, rfl⟩
  · simp only [List.mapM_cons, List.mapM_nil, ends_bind, ends_pure, ends_evalWhole_name]
    rw [ran.ends_iff, ((loadGlobal_bound bound).mpr ⟨rfl, rfl⟩).ends_iff]
    refine (same.unflattenInto flattened.source flattened.flattens later rfl).imp (fun _ _ _ => trivial) ?_
    rintro ended ⟨further, closed⟩
    refine (flattened.extends_.alters _).trans ((later.trans (further.alters _)).narrow ?_)
    rintro part (rfl | inside) old
    · rfl
    · exact absurd old (flattened.flattens.copied opens closed part inside)

theorem flatProduct_ends (ready : m.Ready) (first : m.Provides {.global temporary} left)
    (second : m.Provides {.global temporary} right) (own : temporary ≠ libraryName)
    (short : (stages target).length ≤ n + 2) (onLeft onRight accumulate : Bool) :
    (execAll (n + 9) none [assign span (.name span.lines temporary) (callLibrary span.lines "vec" [target]),
      productInto span (.name span.lines temporary) (factorOf onLeft span.lines left) (factorOf onRight span.lines right)
        accumulate,
      .expr span (callLibrary span.lines "unflatten_into" [target, .name span.lines temporary])]).Ends m
      (fun _ _ => True) fun after => m.Alters {.global temporary} after := by
  refine execAll_cons_ends ?_
  refine (flatten_ends (n := n + 4) ready path offers).imp ?_ fun _ extends_ => extends_.alters _
  rintro flow s₁ ⟨rfl, v, flat, reached, flattened⟩
  have altered : m.Alters {.global temporary} s₁ := (flattened.extends_.alters _).trans flattened.alters
  have ready₁ : s₁.Ready := ready.later altered.toChanges (by simpa using own.symm)
  have evaluated : (evalWhole (n + 3) none (.name span.lines temporary)).Ends s₁
      (fun c after => s₁.Extends after ∧ c.bare.IsTarget after ∧ c.bare = flat) s₁.Extends := by
    rw [ends_evalWhole_name, ((loadGlobal_bound flattened.bound).mpr ⟨rfl, rfl⟩).ends_iff]
    have bare : flat.bare = flat := by cases flattened.takes <;> rfl
    rw [bare]
    exact ⟨.refl s₁, flattened.takes, rfl⟩
  refine ⟨rfl, execAll_cons_ends ?_⟩
  refine (productInto_ends (· = flat) ready₁ rfl evaluated (first.later altered) (second.later altered) onLeft onRight
    accumulate).imp ?_ fun _ extends_ => altered.trans (extends_.alters _)
  rintro flow s₂ ⟨rfl, c, between, same, grown, written, opens⟩
  rw [same] at written opens
  have changed : s₁.Alters flat.parts s₂ := (grown.alters _).trans written
  have ready₂ : s₂.Ready := ready₁.later changed.toChanges fun inside => isContent_of_mem_parts inside
  refine ⟨rfl, execAll_cons_ends ?_⟩
  refine (putBack_ends path offers apart ready₂ flattened changed opens short).imp ?_ fun _ alters => alters
  rintro flow last rfl
  exact ⟨rfl, ends_execAll_nil.mpr trivial⟩

end

/-! ### Whole statements -/

theorem plainProduct_ends (ready : m.Ready) (path : Reference target) (offers : m.Offers parts target)
    (first : m.Provides parts left) (second : m.Provides parts right) (accumulate : Bool) :
    (execAll (n + 8) none [productInto span target left right accumulate]).Ends m (fun _ _ => True)
      m.Extends := by
  have evaluated : (evalWhole (n + 3) none target).Ends m
      (fun v after => m.Extends after ∧ v.bare.IsTarget after ∧ True) m.Extends := by
    refine (path.evalWhole_adds (n + 3)).ends.given fun u after ran extends_ => ⟨extends_, ?_, trivial⟩
    refine offers.takes m (.refl _ m) (n + 3) _ _ ?_
    rw [path.eval_eq, map_eq_pure_bind, yields_bind]
    exact ⟨u, after, ran, yields_pure.mpr ⟨rfl, rfl⟩⟩
  refine execAll_cons_ends ?_
  refine (productInto_ends (fun _ => True) ready (starred_path path) evaluated first second false false accumulate).imp ?_
    fun _ extends_ => extends_
  rintro flow after ⟨rfl, _⟩
  exact ⟨rfl, ends_execAll_nil.mpr trivial⟩

theorem Update.Reference.ofProduct {policy : Policy} {sides : Flattened}
    (read : settled policy depth s = .ok (.product target left right sides accumulate)) : Reference target := by
  obtain ⟨_, _, _, spelt⟩ := settled_spelt read
  cases spelt with
  | product _ path _ _ | accumulation _ _ path _ _ => exact path

theorem runStatement_ends {statement : Stmt} {failed : Memory → Prop} (same : failed m)
    (ends : (exec nesting none statement).Ends m (fun _ _ => True) failed) :
    (runStatement statement).Ends m (fun _ _ => True) failed := by
  rw [runStatement, runBody]
  cases moduleFits [statement] with
  | false => exact same
  | true => simpa using ends

theorem ownParts_eq {form : Form} (needs : form.needsTemporary = true) (number : Nat) :
    form.ownParts number = {.global (temporaryName number)} := by
  simp [Form.ownParts, Form.temporaries, needs]

section
variable (ready : m.Ready) (path : Reference target) (first : m.Provides parts left) (second : m.Provides parts right)
include ready path first second

theorem productBoundAlone_ends (onLeft onRight accumulate : Bool) :
    (execAll (n + 13) none [productBound span target (factorOf onLeft span.lines left)
      (factorOf onRight span.lines right) accumulate]).Ends m (fun _ _ => True) m.Extends := by
  refine execAll_cons_ends ((productBound_ends ready first second path onLeft onRight accumulate).imp ?_
    fun _ extends_ => extends_)
  rintro flow after rfl
  exact ⟨rfl, ends_execAll_nil.mpr trivial⟩

theorem plainReplacement_ends (offers : m.Offers parts target) (accumulate : Bool) :
    (exec nesting none (capabilityBranch span target [productInto span target left right accumulate]
      [productBound span target left right accumulate])).Ends m (fun _ _ => True) m.Extends := by
  refine capabilityBranch_ends (n := 9993) ready path (fun _ extends_ => extends_) ?_ ?_
  · intro between extends_
    exact (plainProduct_ends (n := 9991) (ready.grown extends_.toChanges) path (offers.later (extends_.alters _))
      (first.later (extends_.alters _)) (second.later (extends_.alters _)) accumulate).imp (fun _ _ done => done)
      fun _ further => extends_.trans further
  · intro between extends_
    exact (productBoundAlone_ends (n := 9986) (ready.grown extends_.toChanges) path (first.later (extends_.alters _))
      (second.later (extends_.alters _)) false false accumulate).imp (fun _ _ done => done)
      fun _ further => extends_.trans further

end

theorem flatReplacement_ends (ready : m.Ready) (path : Reference target) (offers : m.Offers {.global temporary} target)
    (first : m.Provides {.global temporary} left) (second : m.Provides {.global temporary} right)
    (own : temporary ≠ libraryName) (apart : rootName? target ≠ some temporary)
    (short : (stages target).length + 8 ≤ nesting) (onLeft onRight accumulate : Bool) :
    (exec nesting none (flatProductReplacement span temporary target (factorOf onLeft span.lines left)
      (factorOf onRight span.lines right) accumulate)).Ends m (fun _ _ => True)
      fun after => m.Alters {.global temporary} after := by
  refine capabilityBranch_ends (n := 9993) ready path (fun _ extends_ => extends_.alters _) ?_ ?_
  · intro between extends_
    exact (flatProduct_ends (n := 9990) path (offers.later (extends_.alters _)) apart
      (ready.grown extends_.toChanges) (first.later (extends_.alters _)) (second.later (extends_.alters _)) own (Nat.le_of_add_le_add_right short)
      onLeft onRight accumulate).imp (fun _ _ done => done) fun _ alters => (extends_.alters _).trans alters
  · intro between extends_
    exact (productBoundAlone_ends (n := 9986) (ready.grown extends_.toChanges) path (first.later (extends_.alters _))
      (second.later (extends_.alters _)) onLeft onRight accumulate).imp (fun _ _ done => done)
      fun _ further => (extends_.trans further).alters _

/-! ### Variables that hold arrays -/

section
variable {number : Nat} {view : View} (found : m.globals.lookup x = some (.array number view))
include found

theorem evalWhole_array_ends (apart : .global x ∉ parts) (alters : m.Alters parts between) (fuel : Nat) :
    (evalWhole fuel none (.name l x)).Ends between (fun v after => v = .array number view ∧ between = after)
      between.Extends := by
  cases fuel with
  | zero => exact ends_fail.mpr (.refl between)
  | succ n =>
    have bound : between.globals.lookup x = some (.array number view) := (alters.globals x apart).trans found
    rw [ends_evalWhole_name, ((loadGlobal_bound bound).mpr ⟨rfl, rfl⟩).ends_iff]
    exact ⟨rfl, rfl⟩

theorem Memory.Provides.array
    (typed : view.dtype ≠ .object) (apart : .global x ∉ parts) (l : Lines) : m.Provides parts (.name l x) where
  single := rfl
  quiet between alters fuel := by
    refine (evalWhole_array_ends found apart alters fuel).imp ?_ fun _ extends_ => extends_
    rintro _ _ ⟨rfl, rfl⟩
    exact ⟨.refl between, rfl, typed⟩

theorem Memory.Offers.array (typed : view.dtype ≠ .object) (apart : .global x ∉ parts) (l : Lines) :
    m.Offers parts (.name l x) := by
  have evaluated {between after : Memory} (alters : m.Alters parts between) {fuel : Nat} {v : Value}
      (ran : (eval fuel none (.name l x)).Yields between v after) : v = .array number view := by
    rw [(Reference.name l x).eval_eq, map_eq_pure_bind, yields_bind] at ran
    obtain ⟨w, _, loaded, ran⟩ := ran
    obtain ⟨rfl, _⟩ := (evalWhole_array_ends found apart alters fuel).yields loaded
    exact (yields_pure.mp ran).1.symm
  constructor
  · intro between alters fuel v after ran
    rw [evaluated alters ran]
    exact .array typed number
  · intro between alters stage member fuel k after ran
    rw [List.mem_singleton.mp member] at ran
    cases evaluated alters ran

end

/-! ### Failures -/

/-- A multiplication that fails has changed nothing but its temporary. Its target may be any path to an array or a box
for numbers, of any shape, or to a sparse matrix that can be written; its operands may be any expressions without effects
that do not stand for arrays of objects. The path of the target must not start at the temporary, nor be so long that it
cannot be followed. -/
theorem failedProduct_changes_temporary (policy : Policy) (depth : Int) (s : Stmt) (progress lowered : Progress)
    (replaced : Stmt) (target left right : Expr) (sides : Flattened) (accumulate : Bool) (form : Form)
    (multiplies : form = .product target left right sides accumulate) (read : settled policy depth s = .ok form)
    (done : lowerStatement policy depth s progress = (.ok replaced, lowered)) (m after : Memory) (fault : Fault)
    (ready : m.Ready) (offers : m.Offers (form.ownParts lowered.counter) target)
    (first : m.Provides (form.ownParts lowered.counter) left) (second : m.Provides (form.ownParts lowered.counter) right)
    (apart : ∀ x ∈ rootName? target, x ∉ form.temporaries lowered.counter)
    (short : (stages target).length + 8 ≤ Program.nesting)
    (failed : (Program.runStatement replaced).Fails m fault after) :
    m.Alters (form.ownParts lowered.counter) after := by
  obtain ⟨_, read', made⟩ := lowerStatement_ok done
  rw [read, Except.ok.injEq] at read'
  subst read'
  have path := Reference.ofProduct (multiplies ▸ read)
  have plain (same : capabilityBranch s.span target [productInto s.span target left right accumulate]
      [productBound s.span target left right accumulate] = replaced) :
      m.Alters (form.ownParts lowered.counter) after := by
    subst same
    have extends_ := (runStatement_ends (.refl m)
      (plainReplacement_ends ready path first second offers accumulate)).fails failed
    exact extends_.alters _
  have flat (needs : form.needsTemporary = true) (onLeft onRight : Bool)
      (same : flatProductReplacement s.span (temporaryName lowered.counter) target (factorOf onLeft s.span.lines left)
        (factorOf onRight s.span.lines right) accumulate = replaced) :
      m.Alters (form.ownParts lowered.counter) after := by
    subst same
    have elsewhere : rootName? target ≠ some (temporaryName lowered.counter) := fun root => apart _ root ⟨needs, rfl⟩
    rw [ownParts_eq needs] at offers first second ⊢
    exact (runStatement_ends (.refl _ m) (flatReplacement_ends ready path offers first second
      (temporaryName_ne_libraryName _) elsewhere short onLeft onRight accumulate)).fails failed
  subst multiplies
  cases sides with
  | neither | both => exact plain (Option.some.inj made)
  | left => exact flat rfl true false (Option.some.inj made)
  | right => exact flat rfl false true (Option.some.inj made)

/-- A row `a`, a single number `b` and an array `c` with too many rows. -/
def rowAndColumns : Memory where
  buffers := ([[5, 6], [2], [1, 2, 3, 4, 5, 6]].map fun row => (row.map wholeCell).toArray).toArray
  objects := #[.token, .token, .token]
  globals :=
    [("a", .array 0 ⟨0, rowMajor [2], .int64, true⟩), ("b", .array 1 ⟨1, rowMajor [1, 1], .int64, true⟩),
    ("c", .array 2 ⟨2, rowMajor [3, 2], .int64, true⟩)]
  prelude := replacedNames

/-- `a = vec(b) @ c` fails after the temporary was bound. -/
theorem misfit_changes_temporary : ∃ replaced lowered fault after,
    lowerStatement .standard 1 (flatProduct ⟨1, 0, 1, 14⟩ true false "a" "b" "c") {} = (.ok replaced, lowered) ∧
    (Program.runStatement replaced).Fails rowAndColumns fault after ∧
    rowAndColumns.Alters {.global "__bb_a1"} after ∧ (after.globals.lookup "__bb_a1").isSome = true := by
  let replaced := flatProductReplaced ⟨1, 0, 1, 14⟩ 1 true false "a" "b" "c"
  let form : Form := .product (.name ⟨1, 1⟩ "a") (.name ⟨1, 1⟩ "b") (.name ⟨1, 1⟩ "c") .left false
  have own : form.ownParts 1 = {.global "__bb_a1"} := ownParts_eq rfl 1
  have bound : (((Program.runStatement replaced).leftBy rowAndColumns).bind fun after =>
      after.globals.lookup "__bb_a1").isSome = true := by decide +kernel
  obtain ⟨v, found⟩ := Option.isSome_iff_exists.mp bound
  obtain ⟨after, left, there⟩ := Option.bind_eq_some_iff.mp found
  obtain ⟨fault, failed⟩ := fails_of_leftBy left
  refine ⟨replaced, _, fault, after, rfl, failed, ?_, there ▸ rfl⟩
  rw [← own]
  have elsewhere (x : String) (different : x ≠ "__bb_a1") : .global x ∉ form.ownParts 1 := by
    rw [own]
    intro same
    cases same
    exact different rfl
  exact failedProduct_changes_temporary .standard 1 (flatProduct ⟨1, 0, 1, 14⟩ true false "a" "b" "c") {} _ replaced
    _ _ _ _ _ form rfl rfl rfl rowAndColumns after fault ⟨rfl, rfl⟩ (.array rfl (by decide) (elsewhere _ (by decide)) _)
    (.array rfl (by decide) (elsewhere _ (by decide)) _) (.array rfl (by decide) (elsewhere _ (by decide)) _)
    (fun x root inside => elsewhere x (by cases root; decide) ⟨x, inside, rfl⟩) (by decide) failed

/-- A row `a` for numbers, and objects `b` and `c` whose product is a number and a text. -/
def rowAndObjects : Memory where
  buffers := #[#[wholeCell 5, wholeCell 6], #[.object (.int 1), .object (.str "ab")], #[.object (.int 1)]]
  objects := #[.token, .token, .token]
  globals :=
    [("a", .array 0 ⟨0, rowMajor [2], .int64, true⟩), ("b", .array 1 ⟨1, rowMajor [2, 1], .object, true⟩),
    ("c", .array 2 ⟨2, rowMajor [1], .object, true⟩)]
  prelude := replacedNames

/-- `a = b @ c` fails at the text, when the number is in its place already. -/
theorem product_of_objects_half_written : ∃ replaced lowered fault after,
    lowerStatement .standard 1 (plainProduct ⟨1, 0, 1, 9⟩ false "a" "b" "c") {} = (.ok replaced, lowered) ∧
    (Program.runStatement replaced).Fails rowAndObjects fault after ∧
    rowAndObjects.contents ⟨0, Layout.rowMajor [2], .int64, true⟩ = [5, 6].map wholeCell ∧
    after.contents ⟨0, Layout.rowMajor [2], .int64, true⟩ = [1, 6].map wholeCell := by
  let replaced := plainProductReplaced ⟨1, 0, 1, 9⟩ false "a" "b" "c"
  have written : ((Program.runStatement replaced).leftBy rowAndObjects).map (fun after =>
      (after.contents ⟨0, Layout.rowMajor [2], .int64, true⟩).map Cell.whole?) = some [some 1, some 6] := by
    decide +kernel
  obtain ⟨after, left, cells⟩ := Option.map_eq_some_iff.mp written
  obtain ⟨fault, failed⟩ := fails_of_leftBy left
  exact ⟨replaced, _, fault, after, rfl, failed, rfl, cells_eq _ cells⟩

end
end Rebind
