import Rebind.Proofs.Assignments
/-!
Products as updates. A flattened factor makes the product be written through the flattened target; if that had to
be copied, it is put back into the target afterwards.
-/
namespace Rebind

open Number Strided Syntax Update
open Program hiding assign call

section
variable {m between after : Memory} {v w : Value} {view other : View} {names : List String}
  {numbers : String → List Int} {shape : Strided.Shape}

/-! ### Factors -/

def factorOf (flat : Bool) (l : Lines) (e : Expr) : Expr := if flat then callLibrary l "vec" [e] else e

/-- A single number has no axes, flattened or not. -/
def IsFactorShape (flat : Bool) (shape q : Strided.Shape) : Prop := q = factorShape flat shape ∨ q = [] ∧ shape = []

section
variable (holds : m.Holds names shape numbers) (flat : Bool) (e : Expr) (combined : isCombination names e = true)
include holds combined

theorem evalWhole_factor (ran : (evalWhole fuel none (factorOf flat l e)).Yields m v after) :
    m.Grows after ∧ ∃ q, v.Keeps after q (numbersOf numbers e) ∧ IsFactorShape flat shape q := by
  cases flat with
  | false =>
    obtain ⟨grows, keeps, _⟩ := evalWhole_combination holds e combined ran
    exact ⟨grows, shape, keeps, .inl rfl⟩
  | true =>
    obtain ⟨w, between, caller, r, grows, carries, called, passed⟩ :=
      evalWhole_applied holds e combined rfl (fun _ _ => rfl) rfl ran
    have flattened : (Value.vec w).Yields between r after := called
    cases id carries with
    | array _ _ _ _ _ _ =>
      obtain ⟨further, k, other, rfl, _, carries', _⟩ := vec_yields carries flattened
      exact ⟨grows.trans further, _, (handedOn carries' passed).1, .inl rfl⟩
    | single flat _ _ =>
      obtain ⟨rfl, rfl⟩ := yields_pure.mp flattened
      exact ⟨grows, shape, (handedOn carries passed).1, .inr ⟨flat, flat⟩⟩

theorem eval_factor (ran : (eval fuel none (factorOf flat l e)).Yields m v after) :
    m.Grows after ∧ ∃ q, v.Carries after q (numbersOf numbers e) ∧ IsFactorShape flat shape q := by
  cases flat with
  | false =>
    obtain ⟨grows, carries, _⟩ := eval_combination holds e combined ran
    exact ⟨grows, shape, carries, .inl rfl⟩
  | true =>
    rw [factorOf, if_pos rfl, callLibrary, call, eval_call] at ran
    obtain ⟨n, rfl, w, whole, rfl⟩ := ran
    obtain ⟨grows, q, keeps, shaped⟩ := evalWhole_factor holds true e combined (whole : (evalWhole n none
      (factorOf true l e)).Yields m w after)
    exact ⟨grows, q, keeps.carries, shaped⟩

end

theorem factors_exact (one : a = false ∨ b = false) (left : IsFactorShape a shape q) (right : IsFactorShape b shape r)
    (found : product? q r xs ys = some p) : shape ≠ [] ∧ q = factorShape a shape ∧ r = factorShape b shape := by
  have axes : shape ≠ [] := by
    rintro rfl
    rcases one with rfl | rfl
    · have nothing : q = [] := by rcases left with left | ⟨left, _⟩ <;> exact left
      rw [nothing, product?_nil_left] at found
      cases found
    · have nothing : r = [] := by rcases right with right | ⟨right, _⟩ <;> exact right
      rw [nothing, product?_nil_right] at found
      cases found
  refine ⟨axes, ?_, ?_⟩
  · rcases left with left | ⟨_, nothing⟩
    · exact left
    · exact absurd nothing axes
  · rcases right with right | ⟨_, nothing⟩
    · exact right
    · exact absurd nothing axes

theorem isStarred_factor (flat : Bool) (combined : isCombination names e = true) :
    Update.isStarred (factorOf flat l e) = false := by
  cases flat with
  | false => exact isStarred_combination combined
  | true => rfl

/-! ### Flattened targets -/

theorem flatten_yields (holds : m.Holds names shape numbers) (target : Expr)
    (reached : Update.isTarget names target = true) (root : rootName? target = some x)
    (bound : m.globals.lookup x = some (.array number view))
    (ran : (exec fuel none (assign span (.name l temporary) (callLibrary l "vec" [target]))).Yields m flow after) :
    flow = .next ∧ m.Changes {temporary} ∅ after ∧
      ∃ k other, after.globals.lookup temporary = some (.array k other) ∧ m.objects.size ≤ k ∧
        Value.Carries after (factorShape true (faceShape (isTurned target) shape))
          (faceNumbers (isTurned target) shape (numbers x)) (.array k other) ∧
        View.From m (view.faced (isTurned target)) other := by
  rw [assign, exec_assign] at ran
  obtain ⟨n, rfl, v, between, evaluated, w, last, held, ⟨_, assigned⟩, rfl⟩ := ran
  refine ⟨rfl, ?_⟩
  have plain : ∀ e ∈ [target], Update.isStarred e = false := by simpa using isStarred_target target reached
  obtain ⟨n, vs, m₁, caller, result, arguments, called, passed⟩ :=
    evalWhole_kernel holds.ready rfl plain evaluated (fun _ _ => rfl) rfl
  obtain ⟨c, given, rfl⟩ := (mapM_single _ _).mp arguments
  have faces := evalWhole_face holds target reached root given
  obtain ⟨k₁, rfl⟩ := faces.array number view bound
  have flattened : (Value.vec (.array k₁ (view.faced (isTurned target)))).Yields m₁ result between := called
  obtain ⟨grows, k, other, rfl, late, carries, made⟩ := vec_yields faces.carries flattened
  obtain ⟨keeps, same⟩ := handedOn carries passed
  obtain ⟨marked, keeps', same'⟩ := hold_keeps keeps held
  rw [assign_name] at assigned
  obtain ⟨stored, z, stands, keeps'', same''⟩ := assignName_yields keeps' assigned.2
  have array : z = .array k other := keeps''.array (same''.trans (same'.trans same))
  subst array
  have before := (faces.grows.trans grows).trans marked
  refine ⟨(before.widened _ _).trans stored, k, other, stands, faces.grows.objects.trans late, keeps''.carries, ?_⟩
  exact made.imp_right fun new => ⟨faces.grows.buffers.trans new.1, new.2⟩

/-- The target after the product was written through what was made of it: either both look at the same cells, or
a copy was made and the target still shows its old numbers. -/
theorem flattened_target {others : Set String} (target : Value.Carries m t cs (.array number view))
    (changes : m.Changes others {spot | spot ∈ other.spots} after) (made : View.From m view other)
    (flat : Value.Carries after q zs (.array k other)) :
    (other.spots = view.spots ∨ other.buffer ≠ view.buffer) ∧ ∃ ys, Value.Carries after t ys (.array number view) := by
  cases id target with
  | array known placed typed shaped shown wholes =>
    rcases made with ⟨same, _⟩ | ⟨new, _⟩
    · refine ⟨.inl same, zs, .array (known.trans_le changes.objects) (placed.later changes) typed shaped ?_ flat.wholes⟩
      cases flat with
      | array _ _ _ _ shown' _ =>
        rw [Memory.contents, ← same]
        exact shown'
    · have apart : other.buffer ≠ view.buffer := Nat.ne_of_gt (placed.buffer.trans_le new)
      refine ⟨.inr apart, cs, target.later changes ?_⟩
      rintro _ _ ⟨⟩ spot member shared
      exact apart ((View.mem_spots_buffer shared).symm.trans (View.mem_spots_buffer member))

theorem unflatten_yields (ready : m.Ready) (target : Expr) (reached : Update.isTarget names target = true)
    (root : rootName? target = some x) (bound : m.globals.lookup x = some (.array number view))
    (known : number < m.objects.size) (stands : m.globals.lookup temporary = some (.array k other))
    (different : k ≠ number) (shown : Value.Carries m u ys (.array k₀ (view.faced (isTurned target))))
    (flat : Value.Carries m q zs (.array k other)) (made : other.spots = (view.faced (isTurned target)).spots ∨
      other.buffer ≠ (view.faced (isTurned target)).buffer)
    (ran : (exec fuel none
      (.expr span (callLibrary l "unflatten_into" [target, .name l temporary]))).Yields m flow after) :
    m.Changes ∅ {spot | spot ∈ (view.faced (isTurned target)).spots} after ∧
      ∃ k, Value.Carries after u zs (.array k (view.faced (isTurned target))) := by
  rw [exec_expr] at ran
  obtain ⟨_, rfl, ⟨_, evaluated⟩, _⟩ := ran
  rw [callLibrary, call, eval_call] at evaluated
  obtain ⟨_, rfl, _, evaluated, _⟩ := evaluated
  have plain : ∀ e ∈ [target, .name l temporary], Update.isStarred e = false := by
    simp only [List.forall_mem_singleton, List.forall_mem_cons]
    exact ⟨isStarred_target target reached, rfl⟩
  obtain ⟨n, fuel, vs, m₁, arguments, called⟩ := evalWhole_callLibrary ready rfl plain evaluated
  simp only [List.mapM_cons, List.mapM_nil, yields_bind, yields_pure] at arguments
  obtain ⟨v, m₂, first, _, _, ⟨w, m₃, second, _, _, ⟨rfl, rfl⟩, rfl, rfl⟩, rfl, rfl⟩ := arguments
  obtain ⟨grows, seen, itself, bare⟩ := evalWhole_target target reached root bound rfl first
  obtain ⟨k₁, faced, numbered⟩ := seen.faced
  have array : v = .array k₁ (view.faced (isTurned target)) := by
    cases alone : Update.isName target with
    | true =>
      rw [itself alone] at faced ⊢
      exact faced
    | false => exact (bare alone).symm.trans faced
  have stands' := (grows.globals temporary (by simp)).trans stands
  rw [evalWhole_name] at second
  obtain ⟨rfl, rfl⟩ := (loadGlobal_bound stands').mp second.2
  cases fuel with
  | zero => simp [Program.call] at called
  | succ fuel =>
    subst array
    have returned : (Value.unflattenInto (.array k₁ (view.faced (isTurned target))) (.array k other)).Yields m₂ _ after :=
      called
    have known₁ : k₁ < m₂.objects.size ∧ k ≠ k₁ := by
      rcases numbered with rfl | ⟨late, known₁⟩
      · exact ⟨known.trans_le grows.objects, different⟩
      · exact ⟨known₁, Nat.ne_of_lt (flat.known.trans_le late)⟩
    obtain ⟨rfl, changes, carries⟩ := unflattenInto_yields ((shown.grown grows).renumbered known₁.1)
      (flat.grown grows) known₁.2 made returned
    exact ⟨(grows.widened _ _).trans changes, k₁, carries⟩

/-! ### Products written through an array -/

def unitsIf (accumulate : Bool) (l : Lines) : List Expr := if accumulate then [one l, one l] else []

theorem unitsIf_yield (accumulate : Bool) (ran : ((unitsIf accumulate l).mapM (evalWhole n none)).Yields m vs after) :
    m = after ∧ vs.map Value.bare = if accumulate then [.num (.int 1), .num (.int 1)] else [] := by
  cases accumulate with
  | false =>
    simp only [unitsIf, Bool.false_eq_true, if_false, List.mapM_nil, yields_pure] at ran
    obtain ⟨rfl, rfl⟩ := ran
    exact ⟨rfl, rfl⟩
  | true =>
    simp only [unitsIf, if_true, List.mapM_cons, List.mapM_nil, yields_bind, yields_pure] at ran
    obtain ⟨_, _, first, _, _, ⟨_, _, second, _, _, ⟨rfl, rfl⟩, rfl, rfl⟩, rfl, rfl⟩ := ran
    obtain ⟨rfl, rfl⟩ := evalWhole_constant (one l) rfl first
    obtain ⟨rfl, rfl⟩ := evalWhole_constant (one l) rfl second
    exact ⟨rfl, rfl⟩

section
variable (holds : m.Holds names shape numbers) (left right : Expr) (single : a = false ∨ b = false)
  (combined : isCombination names left = true) (combined' : isCombination names right = true)
include holds left right single combined combined'

theorem productInto_yields (into : Expr) (starless : Update.isStarred into = false)
    (seen : ∀ n v between, (evalWhole n none into).Yields m v between →
      m.Grows between ∧ ∃ k, v = .array k other ∧ v.Carries between u cs)
    (ran : (exec fuel none
      (productInto span into (factorOf a span.lines left) (factorOf b span.lines right) accumulate)).Yields m flow after) :
    flow = .next ∧ ∃ q ps zs, product? (factorShape a shape) (factorShape b shape) (numbersOf numbers left)
        (numbersOf numbers right) = some (q, ps) ∧ poured? accumulate u cs q ps = some zs ∧
      m.Changes ∅ {spot | spot ∈ other.spots} after ∧ ∃ k, Value.Carries after u zs (.array k other) := by
  rw [productInto, exec_expr] at ran
  obtain ⟨_, rfl, ⟨_, evaluated⟩, rfl⟩ := ran
  refine ⟨rfl, ?_⟩
  rw [callLibrary, call, eval_call] at evaluated
  obtain ⟨_, rfl, _, evaluated, _⟩ := evaluated
  have plain : ∀ e ∈ [into, factorOf a span.lines left, factorOf b span.lines right] ++
      unitsIf accumulate span.lines, Update.isStarred e = false := by
    simp only [List.cons_append, List.nil_append, List.forall_mem_cons]
    refine ⟨starless, isStarred_factor a combined, isStarred_factor b combined', fun e member => ?_⟩
    cases accumulate with
    | false => cases member
    | true =>
      simp only [unitsIf, if_true, List.mem_cons, List.not_mem_nil, or_false, or_self] at member
      rw [member]
      rfl
  obtain ⟨n, vs, last, caller, result, arguments, called, _⟩ :=
    evalWhole_kernel holds.ready rfl plain evaluated (fun _ _ => rfl) rfl
  simp only [List.cons_append, List.nil_append, List.mapM_cons, yields_bind, yields_pure] at arguments
  obtain ⟨c, m₁, first, _, _, ⟨x, m₂, second, _, _, ⟨y, m₃, third, ws, _, rest, rfl, rfl⟩, rfl, rfl⟩, rfl, rfl⟩ :=
    arguments
  obtain ⟨grows, k, rfl, target⟩ := seen _ _ _ first
  obtain ⟨further, q, keeps, shaped⟩ := evalWhole_factor (holds.grown grows) a left combined second
  have before := grows.trans further
  obtain ⟨more, r, keeps', shaped'⟩ := evalWhole_factor (holds.grown before) b right combined' third
  obtain ⟨rfl, given⟩ := unitsIf_yield accumulate rest
  have multiplied : (Value.matmulInto (.array k other) x.bare y.bare (.int 1) (keptFactor accumulate)).Yields m₃
      result after := by
    rw [List.map_cons, List.map_cons, List.map_cons, given] at called
    cases accumulate <;> exact called
  obtain ⟨rfl, _, shape', ps, zs, found, poured, changes, carries⟩ := matmulInto_yields
    (keeps.grown more).carries keeps'.carries accumulate ((target.grown further).grown more) multiplied
  obtain ⟨_, rfl, rfl⟩ := factors_exact single shaped shaped' found
  exact ⟨_, ps, zs, found, poured, ((before.trans more).widened _ _).trans changes, k, carries⟩

/-! ### Products bound to the variable -/

theorem eval_multiplied
    (ran : (eval fuel none (.binary l .matMult (factorOf a l left) (factorOf b l right))).Yields m v after) :
    m.Grows after ∧ shape ≠ [] ∧ ∃ q ps, product? (factorShape a shape) (factorShape b shape)
      (numbersOf numbers left) (numbersOf numbers right) = some (q, ps) ∧ v.Carries after q ps := by
  rw [eval_binary] at ran
  obtain ⟨n, rfl, x, m₁, first, y, m₂, second, ran⟩ := ran
  obtain ⟨grows, q, carries, shaped⟩ := eval_factor holds a left combined first
  obtain ⟨further, r, carries', shaped'⟩ := eval_factor (holds.grown grows) b right combined' second
  have carries := carries.grown further
  obtain ⟨shape', ps, found, more, made⟩ := matMult_yields carries carries' ran
  obtain ⟨axes, rfl, rfl⟩ := factors_exact single shaped shaped' found
  exact ⟨(grows.trans further).trans more, axes, shape', ps, found, made⟩

/-- What is left in the target when the product has as many elements. -/
def summedIf (accumulate : Bool) (cs ps : List Int) : List Int :=
  if accumulate then List.zipWith (BinaryUfunc.onWhole .add) cs ps else ps

variable (target : Expr) (reached : Update.isTarget names target = true) (root : rootName? target = some x)
include target reached root

theorem evalWhole_restructured (ran : (evalWhole fuel none (callLibrary l "restructure"
      [target, .binary l .matMult (factorOf a l left) (factorOf b l right)])).Yields m v after) :
    m.Grows after ∧ ∃ q ps, product? (factorShape a shape) (factorShape b shape) (numbersOf numbers left)
        (numbersOf numbers right) = some (q, ps) ∧ Shape.size q = Shape.size shape ∧
      v.Keeps after (faceShape (isTurned target) shape) ps := by
  have plain : ∀ e ∈ [target, .binary l .matMult (factorOf a l left) (factorOf b l right)],
      Update.isStarred e = false := by
    simp only [List.forall_mem_singleton, List.forall_mem_cons]
    exact ⟨isStarred_target target reached, rfl⟩
  obtain ⟨n, vs, last, caller, result, arguments, called, passed⟩ :=
    evalWhole_kernel holds.ready rfl plain ran (fun _ _ => rfl) rfl
  simp only [List.mapM_cons, List.mapM_nil, yields_bind, yields_pure] at arguments
  obtain ⟨c, m₁, first, _, _, ⟨y, m₂, second, _, _, ⟨rfl, rfl⟩, rfl, rfl⟩, rfl, rfl⟩ := arguments
  have faces := evalWhole_face holds target reached root first
  rw [evalWhole_binary] at second
  obtain ⟨n, rfl, second⟩ := second
  obtain ⟨grows, axes, q, ps, found, made⟩ :=
    eval_multiplied (holds.grown faces.grows) left right single combined combined' second
  have restructured : (Value.restructure c.bare y.bare).Yields m₂ result after := called
  have reference := faces.carries.grown grows
  rw [made.bare] at restructured
  generalize c.bare = shown at reference restructured
  cases id reference with
  | array _ _ _ _ _ _ =>
    obtain ⟨further, carries, size⟩ := restructure_yields reference made restructured
    rw [size_faceShape] at size
    exact ⟨(faces.grows.trans grows).trans further, q, ps, found, size, (handedOn carries passed).1⟩
  | single flat _ _ =>
    have nothing : shape = [] := by
      rw [← faceShape_faceShape (isTurned target) shape, flat]
      cases isTurned target <;> rfl
    exact absurd nothing axes

theorem productBound_settles (frozen : m.Frozen names)
    (ran : (execAll fuel none [productBound span target (factorOf a span.lines left)
      (factorOf b span.lines right) accumulate]).Yields m flow after) :
    ∃ q ps, product? (factorShape a shape) (factorShape b shape) (numbersOf numbers left)
        (numbersOf numbers right) = some (q, ps) ∧ Shape.size q = Shape.size shape ∧
      m.Settles names shape ∅ x (faceNumbers (isTurned target) (faceShape (isTurned target) shape)
        (summedIf accumulate (faceNumbers (isTurned target) shape (numbers x)) ps)) after := by
  obtain ⟨_, _, ran⟩ := execAll_single ran
  have settled : ∃ xs, (∃ q ps, product? (factorShape a shape) (factorShape b shape) (numbersOf numbers left)
      (numbersOf numbers right) = some (q, ps) ∧ Shape.size q = Shape.size shape ∧
        xs = faceNumbers (isTurned target) (faceShape (isTurned target) shape)
          (summedIf accumulate (faceNumbers (isTurned target) shape (numbers x)) ps)) ∧
      m.Settles names shape ∅ x xs after := by
    refine assign_settles holds target reached root ran (fun n v between evaluated => ?_)
    cases accumulate with
    | false =>
      obtain ⟨grows, q, ps, found, size, keeps⟩ :=
        evalWhole_restructured holds left right single combined combined' target reached root evaluated
      refine ⟨grows.widened _ _, fun alone => ⟨_, ⟨q, ps, found, size, rfl⟩, ?_, .inl frozen⟩⟩
      rw [isTurned_name alone] at keeps ⊢
      exact keeps
    | true =>
      rw [if_pos rfl, evalWhole_binary] at evaluated
      obtain ⟨n, rfl, evaluated⟩ := evaluated
      rw [eval_binary] at evaluated
      obtain ⟨n, rfl, c, m₁, read, p, m₂, made, added⟩ := evaluated
      obtain ⟨grows, old, _⟩ := eval_face holds target reached root read
      rw [callLibrary, call, eval_call] at made
      obtain ⟨n, rfl, w, made, rfl⟩ := made
      obtain ⟨further, q, ps, found, size, keeps⟩ := evalWhole_restructured (holds.grown grows) left right single
        combined combined' target reached root made
      obtain ⟨more, sum, _⟩ := binary_same_shape .add rfl (by simp) (old.grown further) keeps.carries added
      refine ⟨((grows.trans further).trans more).widened _ _,
        fun alone => ⟨_, ⟨q, ps, found, size, rfl⟩, ?_, .inl frozen⟩⟩
      rw [isTurned_name alone] at sum ⊢
      exact .itself sum
  obtain ⟨_, ⟨q, ps, found, size, rfl⟩, settles⟩ := settled
  exact ⟨q, ps, found, size, settles⟩

/-! ### Products through a flattened target -/

theorem flatProduct_settles (free : temporary ∉ names) (own : temporary ≠ libraryName)
    (bound : m.globals.lookup x = some (.array number view)) (ran : (execAll fuel none
      [assign span (.name span.lines temporary) (callLibrary span.lines "vec" [target]),
        productInto span (.name span.lines temporary) (factorOf a span.lines left) (factorOf b span.lines right) accumulate,
        .expr span (callLibrary span.lines "unflatten_into" [target, .name span.lines temporary])]).Yields m flow after) :
    ∃ q ps zs, product? (factorShape a shape) (factorShape b shape) (numbersOf numbers left)
        (numbersOf numbers right) = some (q, ps) ∧
      poured? accumulate (factorShape true (faceShape (isTurned target) shape))
        (faceNumbers (isTurned target) shape (numbers x)) q ps = some zs ∧
      m.Settles names shape {temporary} x (faceNumbers (isTurned target) (faceShape (isTurned target) shape) zs)
        after := by
  have member := isTarget_member reached root
  obtain ⟨known, placed, carries⟩ := holds.array member bound
  have apart : x ∉ ({temporary} : Set String) := by
    rintro rfl
    exact free member
  -- the target is flattened
  obtain ⟨n, m₁, first, ran⟩ := execAll_cons ran fun n flow between ran =>
    (flatten_yields holds target reached root bound ran).1
  obtain ⟨_, stored, k, other, stands, late, flat, made⟩ := flatten_yields holds target reached root bound first
  have holds₁ : m₁.Holds names shape numbers := by
    refine holds.bound stored (fun wrong => own wrong.symm) fun y inside => ?_
    rintro rfl
    exact free inside
  -- the product is written through it
  have seen (n v between) (evaluated : (evalWhole n none (.name span.lines temporary)).Yields m₁ v between) :
      m₁.Grows between ∧ ∃ k, v = .array k other ∧
        v.Carries between (factorShape true (faceShape (isTurned target) shape))
          (faceNumbers (isTurned target) shape (numbers x)) := by
    rw [evalWhole_name] at evaluated
    obtain ⟨rfl, rfl⟩ := (loadGlobal_bound stands).mp evaluated.2
    exact ⟨.refl _ _ _, k, rfl, flat⟩
  obtain ⟨n, m₂, second, ran⟩ := execAll_cons ran fun n flow between ran =>
    (productInto_yields holds₁ left right single combined combined' _ rfl seen ran).1
  obtain ⟨_, q, ps, zs, found, poured, changes, k', filled⟩ :=
    productInto_yields holds₁ left right single combined combined' _ rfl seen second
  -- and put back into the target
  obtain ⟨_, _, third⟩ := execAll_single ran
  have before : m.Changes {temporary} {spot | spot ∈ other.spots} m₂ :=
    (stored.mono subset_rfl (Set.empty_subset _)).trans (changes.mono (Set.empty_subset _) subset_rfl)
  obtain ⟨shared, ys, shown⟩ := flattened_target (carries.faced (isTurned target)) before made filled
  obtain ⟨put, k₁, written⟩ := unflatten_yields (holds₁.ready.later changes (by simp)) target reached root
    ((before.globals x apart).trans bound) (known.trans_le before.objects)
    ((changes.globals temporary (by simp)).trans stands) (Nat.ne_of_gt (known.trans_le late)) shown
    (filled.renumbered (flat.known.trans_le changes.objects)) shared third
  refine ⟨q, ps, zs, found, poured, settles_written bound known apart ?_ written⟩
  have all := (before.mono subset_rfl Set.subset_union_left).trans
    (put.mono (Set.empty_subset _) Set.subset_union_right)
  refine all.narrow fun spot member old => ?_
  rcases member with inside | inside
  · rcases made with ⟨same, _⟩ | ⟨new, _⟩
    · rwa [same] at inside
    · rw [View.mem_spots_buffer inside] at old
      exact absurd old (Nat.not_lt.mpr new)
  · exact inside
end

/-! ### The forms of products -/

theorem size_factorShape (flat : Bool) (shape : Strided.Shape) : Shape.size (factorShape flat shape) = Shape.size shape := by
  cases flat with
  | false => rfl
  | true => simp [factorShape, Layout.size_cons, Layout.size_nil]

theorem product_outcome (root : rootName? target = some x)
    (found : product? (factorShape (flattened == .left) shape) (factorShape (flattened == .right) shape)
      (numbersOf numbers left) (numbersOf numbers right) = some (q, ps))
    (lands : landed? accumulate (factorShape (flattened == .left || flattened == .right)
      (faceShape (isTurned target) shape)) (faceNumbers (isTurned target) shape (numbers x)) q ps = some zs) :
    (Form.product target left right flattened accumulate).outcome? shape numbers =
      some (faceNumbers (isTurned target) (faceShape (isTurned target) shape) zs) := by
  simp only [Form.outcome?, found, Option.bind_some, onTarget?_root root, lands, Option.map_some]

theorem landed?_same_size (flat t : Bool) (size : Shape.size q = Shape.size shape) :
    landed? accumulate (factorShape flat (faceShape t shape)) cs q ps = some (summedIf accumulate cs ps) := by
  rw [landed?, size_factorShape, size_faceShape, if_pos size]
  rfl

theorem length_face (holds : m.Holds names shape numbers) (member : x ∈ names)
    (bound : m.globals.lookup x = some (.array number view)) (flat t : Bool) :
    (faceNumbers t shape (numbers x)).length = Shape.size (factorShape flat (faceShape t shape)) := by
  obtain ⟨_, _, carries⟩ := holds.array member bound
  rw [size_factorShape]
  exact (carries.faced t).count

theorem temporaryName_ne_libraryName (number : Nat) : temporaryName number ≠ libraryName := by
  intro same
  have letters := congrArg String.toList same
  simp [temporaryName, libraryName] at letters

section
variable (holds : m.Holds names shape numbers)
  (plain : (Form.product target left right flattened accumulate).isPlain names = true)
include holds plain

theorem plainProduct_done (whole : flattened = .neither ∨ flattened = .both)
    (ran : (exec fuel none (capabilityBranch span target [productInto span target left right accumulate]
      [productBound span target left right accumulate])).Yields m flow after) :
    (Form.product target left right flattened accumulate).Done names shape numbers ∅ m after := by
  simp only [Form.isPlain, Bool.and_eq_true] at plain
  obtain ⟨⟨reached, combined⟩, combined'⟩ := plain
  obtain ⟨x, member, root⟩ := isTarget_root target reached
  have sides : (flattened == .left) = false ∧ (flattened == .right) = false := by
    rcases whole with rfl | rfl <;> exact ⟨rfl, rfl⟩
  have single : false = false ∨ false = false := .inl rfl
  obtain ⟨between, n, grows, ⟨number, view, bound, ran⟩ | ⟨frozen, ran⟩⟩ := branch_cases holds target reached root ran
  · have holds' := holds.grown grows
    have seen (n v last) (evaluated : (evalWhole n none target).Yields between v last) :
        between.Grows last ∧ ∃ k, v = .array k (view.faced (isTurned target)) ∧
          v.Carries last (faceShape (isTurned target) shape) (faceNumbers (isTurned target) shape (numbers x)) := by
      have faces := evalWhole_face holds' target reached root evaluated
      obtain ⟨k, rfl⟩ := faces.array number view bound
      exact ⟨faces.grows, k, rfl, faces.carries⟩
    obtain ⟨_, _, ran⟩ := execAll_single ran
    obtain ⟨_, q, ps, zs, found, poured, changes, k, carries⟩ := productInto_yields (a := false) (b := false) holds'
      left right single combined combined' target (isStarred_target target reached) seen ran
    have lands := landed?_of_poured? poured (length_face holds' member bound false _) (product?_count found)
    have settles := settles_written_later holds' member bound (.refl _ _ _) changes carries
    refine ⟨rfl, x, _, root, ?_, settles.earlier grows⟩
    apply product_outcome root
    · rw [sides.1, sides.2]
      exact found
    · rw [sides.1, sides.2]
      exact lands
  · obtain ⟨q, ps, found, size, settles⟩ := productBound_settles (a := false) (b := false) (holds.grown grows)
      left right single combined combined' target reached root frozen ran
    refine ⟨rfl, x, _, root, product_outcome root ?_ (landed?_same_size _ _ size), settles.earlier grows⟩
    rw [sides.1, sides.2]
    exact found

theorem flatProduct_done (lone : flattened = .left ∨ flattened = .right) (free : temporary ∉ names)
    (own : temporary ≠ libraryName) (ran : (exec fuel none (flatProductReplacement span temporary target
      (factorOf (flattened == .left) span.lines left) (factorOf (flattened == .right) span.lines right)
      accumulate)).Yields m flow after) :
    (Form.product target left right flattened accumulate).Done names shape numbers {temporary} m after := by
  simp only [Form.isPlain, Bool.and_eq_true] at plain
  obtain ⟨⟨reached, combined⟩, combined'⟩ := plain
  obtain ⟨x, member, root⟩ := isTarget_root target reached
  have sides : (flattened == .left || flattened == .right) = true := by
    rcases lone with rfl | rfl <;> rfl
  have single : (flattened == .left) = false ∨ (flattened == .right) = false := by
    rcases lone with rfl | rfl
    · exact .inr rfl
    · exact .inl rfl
  obtain ⟨between, n, grows, ⟨number, view, bound, ran⟩ | ⟨frozen, ran⟩⟩ := branch_cases holds target reached root ran
  · have holds' := holds.grown grows
    obtain ⟨q, ps, zs, found, poured, settles⟩ := flatProduct_settles holds' left right single combined combined'
      target reached root free own bound ran
    have lands := landed?_of_poured? poured (length_face holds' member bound true _) (product?_count found)
    refine ⟨rfl, x, _, root, product_outcome root found ?_, settles.earlier grows⟩
    rw [sides]
    exact lands
  · obtain ⟨q, ps, found, size, settles⟩ := productBound_settles (holds.grown grows) left right single combined
      combined' target reached root frozen ran
    refine ⟨rfl, x, _, root, product_outcome root found (landed?_same_size _ _ size), ?_⟩
    exact (settles.mono (Set.empty_subset _)).earlier grows

end

/-- The names that a replacement binds besides its variable. -/
def Update.Form.temporaries (form : Form) (number : Nat) : Set String :=
  {x | form.needsTemporary = true ∧ x = temporaryName number}

theorem replacement_done {form : Form} (holds : m.Holds names shape numbers) (plain : form.isPlain names = true)
    (exact : m.Frozen names → form.divides = false) (apart : form.Apart m)
    (free : ∀ x ∈ names, x ∉ form.temporaries number) (replaced : form.replacement? span number = some s)
    (ran : (exec fuel none s).Yields m flow after) :
    form.Done names shape numbers (form.temporaries number) m after := by
  cases form with
  | allocation kind target source =>
    cases replaced
    exact (allocation_done holds plain ran).mono (Set.empty_subset _)
  | operation op target operands =>
    cases replaced
    exact (operation_done holds plain exact apart ran).mono (Set.empty_subset _)
  | axpy alpha x beta y =>
    cases replaced
    exact (axpy_done holds plain ran).mono (Set.empty_subset _)
  | broadcast op target value =>
    cases replaced
    exact (broadcast_done holds plain exact ran).mono (Set.empty_subset _)
  | elementwise target value =>
    cases replaced
    exact (elementwise_done holds plain ran).mono (Set.empty_subset _)
  | product target left right flattened accumulate =>
    cases flattened with
    | neither | both =>
      cases replaced
      exact (plainProduct_done holds plain (by simp) ran).mono (Set.empty_subset _)
    | left | right =>
      cases replaced
      have unused : temporaryName number ∉ names := fun member => free _ member ⟨rfl, rfl⟩
      exact (flatProduct_done holds plain (by simp) unused (temporaryName_ne_libraryName number) ran).mono
        fun x same => ⟨rfl, same⟩
  | unsupported _ => cases plain

end
end Rebind
