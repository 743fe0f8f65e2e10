import Rebind.Proofs.Fitting
import Rebind.Proofs.ProductUpdates
import Rebind.Proofs.Steps
/-!
Products with a flattened factor, where it is certain that they go through. Whatever the layout of the target and
whatever memory the factors share with it, the product that is written through a flattened target leaves the same
numbers there as the product that a read-only target is bound to.
-/
namespace Rebind

open Number Strided Syntax Update Program Layout ProductShape

/-- The variable is bound to the array, and the array shows these numbers. -/
structure Memory.Stores (m : Memory) (x : String) (d : DType) (shape : Strided.Shape) (xs : List Int) (number : Nat)
    (view : View) : Prop where
  bound : m.globals.lookup x = some (.array number view)
  bears : Value.Bears m d shape xs (.array number view)

section
variable {m between after : Memory} {d : DType} {v w : Value} {view other : View} {p : ProductShape}
  {s t shape : Strided.Shape} {xs ys cs : List Int} {names : Set String} {spots : Set (Nat × Nat)}

theorem Memory.Stores.later (stores : m.Stores x d shape xs number view) (changes : m.Changes names spots after)
    (outside : x ∉ names) (avoids : Value.Avoids spots (.array number view)) : after.Stores x d shape xs number view :=
  ⟨(changes.globals x outside).trans stores.bound, stores.bears.later changes avoids⟩

theorem Memory.Stores.grown (stores : m.Stores x d shape xs number view) (grows : m.Grows after) :
    after.Stores x d shape xs number view :=
  stores.later grows (by simp) (by simp [Value.Avoids])

/-! ### Factors -/

theorem isStarred_variable (flat : Bool) (l k : Lines) (x : String) :
    Update.isStarred (factorOf flat l (.name k x)) = false := by
  cases flat <;> rfl

theorem evalWhole_factor_completes (ready : m.Ready) (flat : Bool) (stores : m.Stores x d s xs number view) :
    (evalWhole (n + 4) none (factorOf flat l (.name k x))).Completes m fun v after => m.Grows after ∧
      ∃ i other, v = .array i other ∧ v.Bears after d (factorShape flat s) xs := by
  cases flat with
  | false =>
    refine (completes_evalWhole_name.trans (loadGlobal_completes stores.bound)).mpr ?_
    exact ⟨.refl _ _ _, _, _, rfl, stores.bears⟩
  | true =>
    refine kernel_completes ready rfl (by simp [Update.isStarred]) (fun _ _ => rfl) rfl ?_
    simp only [List.mapM_cons, List.mapM_nil, completes_bind, completes_pure, completes_evalWhole_name,
      loadGlobal_completes stores.bound]
    intro caller
    refine Run.Completes.imp (vec_completes stores.bears) ?_
    rintro v after ⟨grows, i, other, rfl, _, bears, _⟩
    exact ⟨rfl, grows, i, other, rfl, bears⟩

theorem eval_factor_completes (ready : m.Ready) (flat : Bool) (stores : m.Stores x d s xs number view) :
    (eval (n + 5) none (factorOf flat l (.name k x))).Completes m fun v after => m.Grows after ∧
      ∃ i other, v = .array i other ∧ v.Bears after d (factorShape flat s) xs := by
  cases flat with
  | false =>
    refine (completes_eval_name.trans (loadGlobal_completes stores.bound)).mpr ?_
    exact ⟨.refl _ _ _, _, _, rfl, stores.bears⟩
  | true =>
    refine completes_eval_call.mpr (Run.Completes.imp (evalWhole_factor_completes ready true stores) ?_)
    rintro v after ⟨grows, i, other, rfl, bears⟩
    exact ⟨grows, i, other, rfl, bears⟩

/-! ### The arguments of a product -/

theorem unitsIf_complete (accumulate : Bool) :
    ((unitsIf accumulate l).mapM (evalWhole (n + 2) none)).Completes m fun vs after =>
      m = after ∧ vs.map Value.bare = if accumulate then [.num (.int 1), .num (.int 1)] else [] := by
  cases accumulate with
  | false => exact completes_pure.mpr ⟨rfl, rfl⟩
  | true =>
    simp only [unitsIf, if_true, one, List.mapM_cons, List.mapM_nil, completes_bind, completes_pure,
      completes_evalWhole_literal]
    exact ⟨trivial, rfl⟩

theorem productArguments_complete (ready : m.Ready) (onLeft onRight accumulate : Bool)
    (into : m.Stores z d q cs number view) (first : m.Stores x d s xs i left) (second : m.Stores y d t ys j right) :
    (([.name l z, factorOf onLeft l (.name l x), factorOf onRight l (.name l y)] ++ unitsIf accumulate l).mapM
      (evalWhole (n + 4) none)).Completes m fun vs after => m.Grows after ∧ ∃ i left j right,
        vs.map Value.bare = [.array number view, .array i left, .array j right] ++
          (if accumulate then [.num (.int 1), .num (.int 1)] else []) ∧
        Value.Bears after d (factorShape onLeft s) xs (.array i left) ∧
        Value.Bears after d (factorShape onRight t) ys (.array j right) := by
  simp only [List.cons_append, List.nil_append, List.mapM_cons, completes_bind, completes_pure,
    completes_evalWhole_name, loadGlobal_completes into.bound]
  refine (evalWhole_factor_completes ready onLeft first).imp ?_
  rintro _ between ⟨grows, i', left', rfl, bears⟩
  refine (evalWhole_factor_completes (ready.grown grows) onRight (second.grown grows)).imp ?_
  rintro _ last ⟨further, j', right', rfl, bears'⟩
  refine (unitsIf_complete accumulate).imp ?_
  rintro units _ ⟨rfl, same⟩
  refine ⟨grows.trans further, i', left', j', right', ?_, bears.grown further, bears'⟩
  simp [Value.bare, same]

/-! ### The flattened target -/

theorem flatten_completes (ready : m.Ready) (target : m.Stores x d shape cs number view) (placed : view.Placed m) :
    (exec (n + 4) none (assign span (.name l z) (callLibrary l "vec" [.name l x]))).Completes m
      fun flow after => flow = .next ∧ m.Changes {z} ∅ after ∧ ∃ k other,
        after.Stores z d [shape.size] cs k other ∧ m.objects.size ≤ k ∧ View.From m view other ∧ other.Placed after := by
  refine exec_assign_completes ?_
  refine kernel_completes ready rfl (by simp [Update.isStarred]) (fun _ _ => rfl) rfl ?_
  simp only [List.mapM_cons, List.mapM_nil, completes_bind, completes_pure, completes_evalWhole_name,
    loadGlobal_completes target.bound]
  intro caller
  refine Run.Completes.imp (vec_completes target.bears) ?_
  rintro _ between ⟨grows, k, other, rfl, new, bears, made, placed'⟩
  refine ⟨rfl, ?_⟩
  intro w after changes found _ itself
  obtain rfl := itself rfl
  refine ⟨trivial, (grows.widened _ _).trans changes, k, other, ⟨found, ?_⟩, new, made, (placed' placed).later changes⟩
  exact bears.later changes (by simp [Value.Avoids])

theorem unflatten_completes (ready : m.Ready) (target : m.Stores x d shape cs number view) (placed : view.Placed m)
    (writeable : view.writeable = true) (flat : m.Stores z d q zs k other) (size : q.size = shape.size)
    (different : k ≠ number) (made : other.spots = view.spots ∨ other.buffer ≠ view.buffer) : (exec (n + 5) none
      (.expr span (callLibrary l "unflatten_into" [.name l x, .name l z]))).Completes m fun flow after =>
        flow = .next ∧ after.Stores x d shape zs number view := by
  refine completes_exec_expr.mpr (completes_eval_call.mpr ?_)
  refine (callLibrary_completes ready rfl (by simp [Update.isStarred])).mpr ?_
  simp only [List.mapM_cons, List.mapM_nil, completes_bind, completes_pure, completes_evalWhole_name,
    loadGlobal_completes target.bound, loadGlobal_completes flat.bound]
  refine Run.Completes.imp
    (unflattenInto_completes target.bears placed writeable flat.bears size different made) ?_
  rintro _ after ⟨changes, shown⟩
  exact ⟨trivial, (changes.globals x (by simp)).trans target.bound, shown⟩

/-- After the flattened target was written to, the target still shows numbers: the same ones if it has cells of its
own, otherwise those of the flattened target. -/
theorem target_shows (target : Value.Bears m d shape cs (.array number view))
    (flat : Value.Bears after d q zs (.array k other)) (changes : m.Changes names {spot | spot ∈ other.spots} after)
    (made : other.spots = view.spots ∨ other.buffer ≠ view.buffer) :
    ∃ rs, Value.Bears after d shape rs (.array number view) := by
  rcases made with same | apart
  · cases target with
    | array known stored typed shaped _ _ =>
      cases flat with
      | array _ _ _ _ shown held =>
        refine ⟨zs, .array (known.trans_le changes.objects) (stored.trans_le changes.buffers) typed shaped ?_ held⟩
        rw [← shown, Memory.contents, ← same, Memory.contents]
  · refine ⟨cs, target.later changes ?_⟩
    rintro _ _ ⟨⟩ spot member wrong
    exact apart ((View.mem_spots_buffer wrong).symm.trans (View.mem_spots_buffer member))

theorem assigned_bears (evaluated : (evalWhole (n + 1) none e).Completes m fun v after => v.Bears after d shape zs) :
    (exec (n + 2) none (.assign span [.name l a] e)).Completes m fun flow after =>
      flow = .next ∧ ∃ w, after.globals.lookup a = some w ∧ w.bare.Bears after d shape zs := by
  refine exec_assign_completes (evaluated.imp ?_)
  intro v between bears w after changes found same _
  refine ⟨rfl, w, found, ?_⟩
  rw [same, bears.bare]
  exact bears.later changes (by simp [Value.Avoids])

/-! ### Two factors -/

section
variable (integer : d.kind = .integer) (ready : m.Ready) (onLeft onRight : Bool) (first : m.Stores x d s xs i left)
  (second : m.Stores y d t ys j right) (found : make? (factorShape onLeft s) (factorShape onRight t) = some p)
include integer ready first second found

theorem productInto_completes (accumulate : Bool) (into : m.Stores z d q cs number view) (placed : view.Placed m)
    (writeable : view.writeable = true) (poured : d.pour? accumulate q cs p.resultShape
      (productWords d p (factorShape onLeft s) (factorShape onRight t) xs ys) = some zs) :
    (exec (n + 8) none (productInto span (.name span.lines z) (factorOf onLeft span.lines (.name span.lines x))
      (factorOf onRight span.lines (.name span.lines y)) accumulate)).Completes m fun flow after =>
        flow = .next ∧ m.Changes ∅ {spot | spot ∈ view.spots} after ∧ after.Stores z d q zs number view := by
  have plain : ∀ e ∈ [.name span.lines z, factorOf onLeft span.lines (.name span.lines x),
      factorOf onRight span.lines (.name span.lines y)] ++ unitsIf accumulate span.lines, Update.isStarred e = false := by
    simp only [List.cons_append, List.nil_append, List.forall_mem_cons]
    refine ⟨rfl, isStarred_variable _ _ _ _, isStarred_variable _ _ _ _, ?_⟩
    cases accumulate <;> simp [unitsIf, one, Update.isStarred]
  refine completes_exec_expr.mpr (completes_eval_call.mpr ?_)
  refine kernel_completes ready rfl plain (fun _ _ => rfl) rfl ?_
  refine (productArguments_complete ready onLeft onRight accumulate into first second).imp ?_
  rintro vs between ⟨grows, i', left', j', right', same, bears, bears'⟩ caller
  have kept := into.grown grows
  have called : Builtin.callOn caller .matmulInto (vs.map Value.bare) [] =
      Value.matmulInto (.array number view) (.array i' left') (.array j' right') (.int 1) (keptFactor accumulate) := by
    rw [same]
    cases accumulate <;> rfl
  rw [called]
  refine (matmulInto_completes integer accumulate bears bears' found kept.bears (placed.later grows) writeable
    poured).imp ?_
  rintro _ after ⟨rfl, changes, shown⟩
  exact ⟨rfl, rfl, (grows.widened _ _).trans changes, (changes.globals z (by simp)).trans kept.bound, shown⟩

theorem flatProduct_inPlace_completes (accumulate : Bool) (target : m.Stores a d shape cs number view)
    (placed : view.Placed m) (writeable : view.writeable = true) (own : z ≠ libraryName) (apart : a ≠ z ∧ x ≠ z ∧ y ≠ z)
    (row : IsRow shape.size p.resultShape) : (execAll (n + 10) none
      [assign span (.name span.lines z) (callLibrary span.lines "vec" [.name span.lines a]),
        productInto span (.name span.lines z) (factorOf onLeft span.lines (.name span.lines x))
          (factorOf onRight span.lines (.name span.lines y)) accumulate,
        .expr span (callLibrary span.lines "unflatten_into" [.name span.lines a, .name span.lines z])]).Completes m
      fun flow after => flow = .next ∧ after.Stores a d shape (d.settle accumulate cs
        (productWords d p (factorShape onLeft s) (factorShape onRight t) xs ys)) number view := by
  have quiet (i : Nat) (view : View) : Value.Avoids ∅ (.array i view) := by simp [Value.Avoids]
  refine execAll_cons_completes ((flatten_completes ready target placed).imp ?_)
  rintro _ between ⟨rfl, changes, k, other, flat, new, made, placed'⟩
  refine ⟨rfl, ?_⟩
  have writes : other.writeable = true := by
    rcases made with ⟨_, same⟩ | ⟨_, writes⟩
    · exact same.trans writeable
    · exact writes
  have shared : other.spots = view.spots ∨ other.buffer ≠ view.buffer := by
    refine made.imp And.left ?_
    rintro ⟨later, _⟩ same
    have old := placed.buffer
    omega
  have ready' := ready.later changes (by simpa using own.symm)
  refine execAll_cons_completes ((productInto_completes integer ready' onLeft onRight
    (first.later changes (by simpa using apart.2.1) (quiet _ _))
    (second.later changes (by simpa using apart.2.2) (quiet _ _)) found accumulate flat placed' writes
    (row.pour? accumulate (length_productWords found d xs ys) target.bears.count)).imp ?_)
  rintro _ last ⟨rfl, written, flat'⟩
  refine ⟨rfl, ?_⟩
  have kept := target.later changes (by simpa using apart.1) (quiet _ _)
  obtain ⟨rs, shows⟩ := target_shows kept.bears flat'.bears written shared
  have target' : last.Stores a d shape rs number view := ⟨(written.globals a (by simp)).trans kept.bound, shows⟩
  have different : k ≠ number := by
    have old := target.bears.known
    omega
  refine execAll_cons_completes ((unflatten_completes (ready'.later written (by simp)) target'
    ((placed.later changes).later written) writeable flat' (by simp [size_cons, size_nil]) different
    shared).imp ?_)
  rintro _ after ⟨rfl, stores⟩
  exact ⟨rfl, completes_execAll_nil.mpr ⟨rfl, stores⟩⟩

/-! ### The product bound anew -/

theorem eval_multiplied_completes : (evalWhole (n + 7) none (.binary r .matMult (factorOf onLeft l (.name l x))
    (factorOf onRight l (.name l y)))).Completes m fun v after => m.Grows after ∧
      v.Bears after d p.resultShape (productWords d p (factorShape onLeft s) (factorShape onRight t) xs ys) := by
  refine completes_evalWhole_binary.mpr ((eval_factor_completes ready onLeft first).imp ?_)
  rintro _ between ⟨grows, i', left', rfl, bears⟩
  refine (eval_factor_completes (ready.grown grows) onRight (second.grown grows)).imp ?_
  rintro _ last ⟨further, j', right', rfl, bears'⟩
  refine (matMult_completes integer (bears.grown further) bears' found).imp ?_
  rintro v after ⟨more, made, _⟩
  exact ⟨(grows.trans further).trans more, made⟩

theorem evalWhole_restructured_completes (target : m.Stores a d shape cs number view)
    (size : p.resultShape.size = shape.size) :
    (evalWhole (n + 9) none (callLibrary l "restructure" [.name l a, .binary l .matMult
      (factorOf onLeft l (.name l x)) (factorOf onRight l (.name l y))])).Completes m fun v after =>
        m.Grows after ∧
          v.Bears after d shape (productWords d p (factorShape onLeft s) (factorShape onRight t) xs ys) := by
  refine kernel_completes ready rfl (by simp [Update.isStarred]) (fun _ _ => rfl) rfl ?_
  simp only [List.mapM_cons, List.mapM_nil, completes_bind, completes_pure, completes_evalWhole_name,
    loadGlobal_completes target.bound]
  refine (eval_multiplied_completes integer ready onLeft onRight first second found).imp ?_
  rintro product between ⟨grows, made⟩ caller
  have plain : Value.bare product = product := made.bare
  have called : Builtin.callOn caller .restructure ([.array number view, product].map Value.bare) [] =
      Value.restructure (.array number view) product := by
    rw [List.map_cons, List.map_cons, plain]
    rfl
  rw [called]
  refine (restructure_completes integer (target.grown grows).bears made size).imp ?_
  rintro v after ⟨further, shaped, known, _⟩
  exact ⟨known, grows.trans further, shaped⟩

theorem productBound_completes (accumulate : Bool) (target : m.Stores a d shape cs number view)
    (size : p.resultShape.size = shape.size) :
    (exec (n + 13) none (productBound span (.name span.lines a) (factorOf onLeft span.lines (.name span.lines x))
      (factorOf onRight span.lines (.name span.lines y)) accumulate)).Completes m fun flow after =>
        flow = .next ∧ ∃ w, after.globals.lookup a = some w ∧ w.bare.Bears after d shape (d.settle accumulate cs
          (productWords d p (factorShape onLeft s) (factorShape onRight t) xs ys)) := by
  refine assigned_bears ?_
  cases accumulate with
  | false =>
    refine Run.Completes.imp
      (evalWhole_restructured_completes integer ready onLeft onRight first second found target size) ?_
    rintro v after ⟨_, shaped⟩
    exact shaped
  | true =>
    refine completes_evalWhole_binary.mpr ?_
    rw [completes_eval_name, loadGlobal_completes target.bound]
    refine completes_eval_call.mpr (Run.Completes.imp
      (evalWhole_restructured_completes integer ready onLeft onRight first second found target size) ?_)
    rintro v between ⟨grows, shaped⟩
    rw [shaped.bare]
    have kept := (target.grown grows).bears
    refine Run.Completes.imp (add_completes integer kept shaped (broadcastShapes_self shape)) ?_
    rintro sum after ⟨_, total, _⟩
    rwa [stretch_self kept.count, stretch_self shaped.count] at total

end

/-! ### The replacement as a whole -/

/-- `target = vec(left) @ right` or `target = left @ vec(right)`, or the same with `+=`. -/
def flatProduct (span : Span) (onLeft accumulate : Bool) (target left right : String) : Stmt :=
  let factor (flat : Bool) (x : String) : Expr :=
    if flat then .call span.lines (.name span.lines "vec") [.name span.lines x] [] else .name span.lines x
  let product : Expr := .binary span.lines .matMult (factor onLeft left) (factor (!onLeft) right)
  if accumulate then .augmented span (.name span.lines target) .add product
  else .assign span [.name span.lines target] product

/-- The replacement, with the number of its temporary. -/
def flatProductReplaced (span : Span) (number : Nat) (onLeft accumulate : Bool) (target left right : String) : Stmt :=
  flatProductReplacement span (temporaryName number) (.name span.lines target)
    (factorOf onLeft span.lines (.name span.lines left)) (factorOf (!onLeft) span.lines (.name span.lines right))
    accumulate

/-- The numbers that the product leaves in its target. -/
def flatProductNumbers (d : DType) (p : ProductShape) (onLeft accumulate : Bool) (s t : Strided.Shape)
    (cs xs ys : List Int) : List Int :=
  d.settle accumulate cs (productWords d p (factorShape onLeft s) (factorShape (!onLeft) t) xs ys)

theorem recognise_special {statement : Stmt} {form : Form} (taken : special? policy.accumulate statement = .ok (some form)) :
    recognise policy depth statement = ⟨[], .ok form⟩ := by
  unfold recognise recogniseWithin
  rw [taken]

theorem flatProduct_lowered (policy : Policy) (depth : Int) (progress : Progress) (span : Span)
    (onLeft accumulate : Bool) (allowed : accumulate = true → policy.accumulate = true) (target left right : String) :
    ∃ last, lowerStatement policy depth (flatProduct span onLeft accumulate target left right) progress =
      (.ok (flatProductReplaced span (progress.counter + 1) onLeft accumulate target left right), last) := by
  have taken : special? policy.accumulate (flatProduct span onLeft accumulate target left right) =
      .ok (some (.product (.name span.lines target) (.name span.lines left) (.name span.lines right)
        (Flattened.ofSides onLeft (!onLeft)) accumulate)) := by
    cases accumulate with
    | false => cases onLeft <;> rfl
    | true =>
      rw [allowed rfl]
      cases onLeft <;> rfl
  have placed : (flatProduct span onLeft accumulate target left right).span = span := by
    cases accumulate <;> rfl
  simp only [lowerStatement, recognise_special taken, placed]
  cases onLeft <;> exact ⟨_, rfl⟩

theorem canBind_temporaryName (number : Nat) : canBind (temporaryName number) = true := by
  simp only [canBind, bne_iff_ne]
  intro same
  have letters := congrArg String.toList same
  simp [temporaryName] at letters

theorem plain_callLibrary (l : Lines) (attr : String) {args : List Expr} (given : ∀ e ∈ args, e.Plain) :
    (callLibrary l attr args).Plain := .call (.part .name) given

theorem plain_factor (flat : Bool) (l k : Lines) (x : String) : (factorOf flat l (.name k x)).Plain := by
  cases flat with
  | false => exact .name
  | true => exact plain_callLibrary l "vec" (by simpa using .name)

theorem plain_productInto (accumulate : Bool) {into left right : Expr} (target : into.Plain) (first : left.Plain)
    (second : right.Plain) : (productInto span into left right accumulate).Plain := by
  refine .expr (plain_callLibrary _ _ ?_)
  cases accumulate with
  | false => simpa using ⟨target, first, second⟩
  | true => simpa using ⟨target, first, second, .literal⟩

theorem plain_productBound (accumulate : Bool) {left right : Expr} (free : canBind target = true) (first : left.Plain)
    (second : right.Plain) : (productBound span (.name span.lines target) left right accumulate).Plain := by
  have shaped : (callLibrary span.lines "restructure" [.name span.lines target, .binary span.lines .matMult left
      right]).Plain :=
    plain_callLibrary _ _ (by simpa using ⟨.name, .binary first second⟩)
  cases accumulate with
  | false => exact .assign free shaped
  | true => exact .assign free (.binary .name shaped)

theorem plain_capabilityBranch {body orelse : List Stmt} (first : ∀ s ∈ body, s.Plain)
    (second : ∀ s ∈ orelse, s.Plain) : (capabilityBranch span (.name l x) body orelse).Plain :=
  .branch (.compare (plain_callLibrary _ _ (by simpa using .name)) (.part .name)) first second

theorem flatProductReplaced_plain (span : Span) (number : Nat) (onLeft accumulate : Bool) (target left right : String)
    (free : canBind target = true) : (flatProductReplaced span number onLeft accumulate target left right).Plain := by
  have first := plain_factor onLeft span.lines span.lines left
  have second := plain_factor (!onLeft) span.lines span.lines right
  refine plain_capabilityBranch ?_ (by simpa using plain_productBound accumulate free first second)
  simp only [List.forall_mem_singleton, List.forall_mem_cons]
  refine ⟨.assign (canBind_temporaryName number) (plain_callLibrary _ _ (by simpa using .name)), ?_, ?_⟩
  · exact plain_productInto accumulate .name first second
  · exact .expr (plain_callLibrary _ _ (by simpa using ⟨.name, .name⟩))

theorem runStatement_completes {statement : Stmt} {post : Unit → Memory → Prop} (plain : statement.Plain) :
    (runStatement statement).Completes m post ↔
      (exec nesting none statement).Completes m fun _ after => post () after := by
  have fits : moduleFits [statement] = true := moduleFits_plain _ (by simpa using plain)
  simp [runStatement, runBody, fits]

section
variable (integer : d.kind = .integer) (ready : m.Ready) (free : canBind a = true)
  (target : m.Stores a d shape cs number view) (first : m.Stores x d s xs i left) (second : m.Stores y d t ys j right)
  (fits : make? (factorShape onLeft s) (factorShape (!onLeft) t) = some p)
include integer ready free target first second fits

theorem flatProduct_written (unused : ∀ z ∈ [a, x, y], z ≠ temporaryName temporary) (placed : view.Placed m)
    (writeable : view.writeable = true) (row : IsRow shape.size p.resultShape) :
    (runStatement (flatProductReplaced span temporary onLeft accumulate a x y)).Completes m fun _ after =>
      after.Stores a d shape (flatProductNumbers d p onLeft accumulate s t cs xs ys) number view := by
  simp only [List.forall_mem_singleton, List.forall_mem_cons] at unused
  refine (runStatement_completes (flatProductReplaced_plain span temporary onLeft accumulate a x y free)).mpr ?_
  refine (capabilityBranch_completes (n := 9994) ready target.bound).mpr ?_
  rw [writeable, if_pos rfl]
  refine (flatProduct_inPlace_completes (n := 9989) integer ready onLeft (!onLeft) first second fits accumulate
    target placed writeable (temporaryName_ne_libraryName temporary) unused row).imp ?_
  rintro _ after ⟨_, stores⟩
  exact stores

theorem flatProduct_bound (readOnly : view.writeable = false) (size : p.resultShape.size = shape.size) :
    (runStatement (flatProductReplaced span temporary onLeft accumulate a x y)).Completes m fun _ after =>
      ∃ w, after.globals.lookup a = some w ∧
        w.bare.Bears after d shape (flatProductNumbers d p onLeft accumulate s t cs xs ys) := by
  refine (runStatement_completes (flatProductReplaced_plain span temporary onLeft accumulate a x y free)).mpr ?_
  refine (capabilityBranch_completes (n := 9994) ready target.bound).mpr ?_
  rw [readOnly, if_neg (by decide)]
  refine execAll_cons_completes ((productBound_completes (n := 9985) integer ready onLeft (!onLeft) first
    second fits accumulate target size).imp ?_)
  rintro flow after ⟨goesOn, bound⟩
  exact ⟨goesOn, completes_execAll_nil.mpr bound⟩

end

/-- Either way of a product with a flattened factor goes through and leaves the same numbers in its target. In the first
memory the target takes writes: it stays the array it was and shows the product, added to its old numbers for `+=`.
In the second it is read-only and shows the same numbers at first: it is bound to a value that shows the product too.
The target may have any layout, and any of the arrays may share cells. -/
theorem flatProduct_inPlace_agrees (policy : Policy) (depth : Int) (progress : Progress) (span : Span)
    (onLeft accumulate : Bool) (allowed : accumulate = true → policy.accumulate = true) (target left right : String)
    (free : canBind target = true) (unused : ∀ x ∈ [target, left, right], x ≠ temporaryName (progress.counter + 1))
    (d : DType) (integer : d.kind = .integer) (shape s t : Strided.Shape) (cs xs ys : List Int) (p : ProductShape)
    (axes : (if onLeft then t else s).length = 1 ∨ (if onLeft then t else s).length = 2)
    (fits : ProductShape.make? (factorShape onLeft s) (factorShape (!onLeft) t) = some p)
    (size : p.resultShape.size = shape.size) (first second : Memory) (ready : first.Ready) (ready' : second.Ready)
    (number number' i i' j j' : Nat) (view frozen leftView leftView' rightView rightView' : View)
    (given : first.Stores target d shape cs number view) (placed : view.Placed first)
    (writeable : view.writeable = true) (given' : second.Stores target d shape cs number' frozen)
    (readOnly : frozen.writeable = false) (lefts : first.Stores left d s xs i leftView)
    (lefts' : second.Stores left d s xs i' leftView') (rights : first.Stores right d t ys j rightView)
    (rights' : second.Stores right d t ys j' rightView') : ∃ replaced last first' second' w,
      lowerStatement policy depth (flatProduct span onLeft accumulate target left right) progress = (.ok replaced, last) ∧
      (Program.runStatement replaced).Yields first () first' ∧ (Program.runStatement replaced).Yields second () second' ∧
      first'.Stores target d shape (flatProductNumbers d p onLeft accumulate s t cs xs ys) number view ∧
      second'.globals.lookup target = some w ∧
      w.bare.Bears second' d shape (flatProductNumbers d p onLeft accumulate s t cs xs ys) := by
  obtain ⟨last, lowered⟩ := flatProduct_lowered policy depth progress span onLeft accumulate allowed target left right
  -- one factor is a vector and the other has at most two axes, so the product is a row
  have told : Value.plainProductShape? (factorShape onLeft s) (factorShape (!onLeft) t) = some p.resultShape := by
    cases onLeft with
    | true => exact plainProductShape?_eq fits (.inl rfl) axes
    | false => exact plainProductShape?_eq fits axes (.inl rfl)
  have row : IsRow shape.size p.resultShape := by
    rw [← size]
    cases onLeft with
    | true => exact isRow_of_vector told (.inl rfl)
    | false => exact isRow_of_vector told (.inr rfl)
  let replaced := flatProductReplaced span (progress.counter + 1) onLeft accumulate target left right
  have written : (Program.runStatement replaced).Completes first _ :=
    flatProduct_written integer ready free given lefts rights fits unused placed writeable row
  have bound : (Program.runStatement replaced).Completes second _ :=
    flatProduct_bound integer ready' free given' lefts' rights' fits readOnly size
  obtain ⟨_, first', ran, stores⟩ := written
  obtain ⟨_, second', ran', w, found, bears⟩ := bound
  exact ⟨replaced, last, first', second', w, lowered, ran, ran', stores, found, bears⟩

/-- A matrix `a`, laid out by columns or read-only in cells of its own, a part `b` of the cells of that matrix and a
matrix `c`. -/
def overlapping (readOnly : Bool) : Memory where
  buffers := ([[1, 2, 3, 2147483647], [1, 0, 0, 1, 0, 1, 0, 1], [1, 3, 2, 2147483647]].map fun row =>
    (row.map wholeCell).toArray).toArray
  objects := #[.token, .token, .token]
  globals :=
    [("a", .array 0 (if readOnly then ⟨2, rowMajor [2, 2], .int32, false⟩
      else ⟨0, columnMajor [2, 2], .int32, true⟩)),
    ("b", .array 1 ⟨0, ⟨1, [⟨2, 1⟩]⟩, .int32, true⟩),
    ("c", .array 2 ⟨1, rowMajor [2, 4], .int32, true⟩)]
  prelude := replacedNames

/-- `a += vec(b) @ c`, with a number too large for the type and with cells that the target shares with a factor. -/
theorem overlapping_product_agrees : ∃ replaced last first second w,
    lowerStatement .standard 1 (flatProduct ⟨1, 0, 1, 15⟩ true true "a" "b" "c") {} = (.ok replaced, last) ∧
    (Program.runStatement replaced).Yields (overlapping false) () first ∧
    (Program.runStatement replaced).Yields (overlapping true) () second ∧
    first.Stores "a" .int32 [2, 2] [3, 6, 2, -2147483644] 0 ⟨0, Layout.columnMajor [2, 2], .int32, true⟩ ∧
    second.globals.lookup "a" = some w ∧ w.bare.Bears second .int32 [2, 2] [3, 6, 2, -2147483644] := by
  have numbers : flatProductNumbers .int32 ⟨[], 1, 2, 4, true, false⟩ true true [2] [2, 4] [1, 3, 2, 2147483647] [2, 3]
      [1, 0, 0, 1, 0, 1, 0, 1] = [3, 6, 2, -2147483644] := by decide +kernel
  have matrix : (overlapping false).Stores "a" .int32 [2, 2] [1, 3, 2, 2147483647] 0
      ⟨0, Layout.columnMajor [2, 2], .int32, true⟩ :=
    ⟨rfl, .array (by decide) (by decide) rfl rfl rfl (by decide)⟩
  have frozen : (overlapping true).Stores "a" .int32 [2, 2] [1, 3, 2, 2147483647] 0
      ⟨2, Layout.rowMajor [2, 2], .int32, false⟩ :=
    ⟨rfl, .array (by decide) (by decide) rfl rfl rfl (by decide)⟩
  have part (readOnly : Bool) : (overlapping readOnly).Stores "b" .int32 [2] [2, 3] 1 ⟨0, ⟨1, [⟨2, 1⟩]⟩, .int32, true⟩ :=
    ⟨rfl, .array (by cases readOnly <;> decide) (by cases readOnly <;> decide) rfl rfl rfl (by decide)⟩
  have factor (readOnly : Bool) : (overlapping readOnly).Stores "c" .int32 [2, 4] [1, 0, 0, 1, 0, 1, 0, 1] 2
      ⟨1, Layout.rowMajor [2, 4], .int32, true⟩ :=
    ⟨rfl, .array (by cases readOnly <;> decide) (by cases readOnly <;> decide) rfl rfl rfl (by decide)⟩
  rw [← numbers]
  exact flatProduct_inPlace_agrees .standard 1 {} ⟨1, 0, 1, 15⟩ true true (fun _ => rfl) "a" "b" "c" rfl (by decide)
    .int32 rfl [2, 2] [2] [2, 4] _ _ _ ⟨[], 1, 2, 4, true, false⟩ (.inr rfl) rfl rfl (overlapping false)
    (overlapping true) ⟨rfl, rfl⟩ ⟨rfl, rfl⟩ 0 0 1 1 2 2 _ _ _ _ _ _ matrix ⟨by decide, by decide, by decide⟩ rfl frozen
    rfl (part false) (part true) (factor false) (factor true)

end
end Rebind
