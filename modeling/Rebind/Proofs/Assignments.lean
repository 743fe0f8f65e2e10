import Rebind.Proofs.Outcomes
/-!
Scaled sums and assignments to a whole array. In place they write through the target; otherwise the variable is
bound to a new value of the same numbers.
-/
namespace Rebind

open Number Strided Syntax Update Form
open Program hiding assign call

section
variable {m between after : Memory} {v w : Value} {view : View} {names : List String}
  {numbers : String → List Int} {shape : Strided.Shape}

theorem onTarget?_root (root : rootName? target = some x) (change : List Int → Option (List Int)) :
    onTarget? shape numbers target change =
      (change (faceNumbers (isTurned target) shape (numbers x))).map
        (faceNumbers (isTurned target) (faceShape (isTurned target) shape)) := by
  simp [onTarget?, root]

theorem settles_written_later (holds : m.Holds names shape numbers) (member : x ∈ names)
    (found : m.globals.lookup x = some (.array number view)) (grows : m.Grows between)
    (changes : between.Changes ∅ {spot | spot ∈ (view.faced t).spots} after)
    (carries : Value.Carries after (faceShape t shape) zs (.array k (view.faced t))) :
    m.Settles names shape ∅ x (faceNumbers t (faceShape t shape) zs) after := by
  obtain ⟨known, _⟩ := holds.array member found
  have found' := (grows.globals x (by simp)).trans found
  exact (settles_written found' (known.trans_le grows.objects) (by simp) changes carries).earlier grows

theorem stretch_face (t : Bool) (count : xs.length = Shape.size shape)
    (fits : ∃ layout, (Layout.rowMajor shape).broadcastTo? (faceShape t shape) = some layout) :
    stretch shape (faceShape t shape) xs = xs := by
  obtain ⟨layout, found⟩ := fits
  exact stretch_of_same_size found (size_faceShape t shape).symm count

/-! ### Scaled sums -/

/-- The factor before the old numbers; without one they are kept as they are. -/
def factor? (beta : Option Expr) : Option Int := (beta.map constant?).getD (some 1)

section
variable (holds : m.Holds names shape numbers) (alpha x y : Expr) (beta : Option Expr)
  (scales : constant? alpha = some a) (keeps : factor? beta = some b) (combined : isCombination names x = true)
  (reached : Update.isTarget names y = true) (root : rootName? y = some r)
include holds alpha x y beta scales keeps combined reached root

theorem axpyArguments_yield (ran : (([alpha, x, y] ++ beta.toList).mapM (evalWhole n none)).Yields m vs after) :
    ∃ u w : Value, vs.map Value.bare = [.num (.int a), u.bare, w.bare] ++ (beta.map fun _ => .num (.int b)).toList ∧
      u.Keeps after shape (numbersOf numbers x) ∧ w.Faces m shape (numbers r) y r after := by
  simp only [List.cons_append, List.nil_append, List.mapM_cons, yields_bind, yields_pure] at ran
  obtain ⟨_, _, first, _, _, ⟨u, between, second, _, _, ⟨w, last, third, ws, final, rest, rfl, rfl⟩, rfl, rfl⟩,
    rfl, rfl⟩ := ran
  obtain ⟨rfl, rfl⟩ := evalWhole_constant alpha scales first
  obtain ⟨grows, kept, _⟩ := evalWhole_combination holds x combined second
  have faces := evalWhole_face (holds.grown grows) y reached root third
  have given : last = final ∧ ws.map Value.bare = (beta.map fun _ => Value.num (.int b)).toList := by
    cases beta with
    | none =>
      simp only [Option.toList_none, List.mapM_nil, yields_pure] at rest
      obtain ⟨rfl, rfl⟩ := rest
      exact ⟨rfl, rfl⟩
    | some e =>
      obtain ⟨v, fourth, rfl⟩ := (mapM_single _ _).mp rest
      obtain ⟨rfl, rfl⟩ := evalWhole_constant e keeps fourth
      exact ⟨rfl, rfl⟩
  obtain ⟨rfl, same⟩ := given
  exact ⟨u, w, by simp [same, Value.bare], kept.grown faces.grows, faces.earlier grows⟩

theorem axpy_inPlace (found : m.globals.lookup r = some (.array number view)) (ran : (execAll fuel none
      [.expr span (callLibrary l "axpy_into" ([alpha, x, y] ++ beta.toList))]).Yields m flow after) :
    m.Settles names shape ∅ r (faceNumbers (isTurned y) (faceShape (isTurned y) shape)
      (List.zipWith (BinaryUfunc.onWhole .add) (scaled b (faceNumbers (isTurned y) shape (numbers r)))
        (scaled a (numbersOf numbers x)))) after := by
  obtain ⟨_, _, ran⟩ := execAll_single ran
  rw [exec_expr] at ran
  obtain ⟨_, rfl, ⟨_, evaluated⟩, _⟩ := ran
  rw [callLibrary, call, eval_call] at evaluated
  obtain ⟨_, rfl, _, evaluated, _⟩ := evaluated
  have plain : ∀ e ∈ [alpha, x, y] ++ beta.toList, Update.isStarred e = false := by
    simp only [List.cons_append, List.nil_append, List.forall_mem_cons]
    refine ⟨isStarred_constant scales, isStarred_combination combined, isStarred_target y reached, fun e member => ?_⟩
    rw [Option.mem_toList] at member
    subst member
    exact isStarred_constant keeps
  obtain ⟨n, vs, between, caller, result, arguments, called, _⟩ :=
    evalWhole_kernel holds.ready rfl plain evaluated (fun _ _ => rfl) rfl
  obtain ⟨u, w, given, kept, faces⟩ :=
    axpyArguments_yield holds alpha x y beta scales keeps combined reached root arguments
  obtain ⟨k, rfl⟩ := faces.array number view found
  rw [given] at called
  have added : (Value.scaledAddInto (.array k (view.faced (isTurned y))) (.num (.int a)) u.bare
      (.num (.int b))).Yields between result after := by
    cases beta with
    | none =>
      cases keeps
      exact called
    | some e => exact called
  obtain ⟨rfl, _, fits, changes, carries⟩ := scaledAddInto_yields a b faces.carries kept.carries added
  rw [stretch_face _ (by rw [length_scaled]; exact kept.carries.count) fits] at carries
  exact settles_written_later holds (isTarget_member reached root) found faces.grows changes carries

end

theorem eval_times {evaluated : List Int} (c e : Expr) (scales : constant? c = some k)
    (made : ∀ n v between, (eval n none e).Yields m v between → m.Grows between ∧ v.Carries between s evaluated)
    (ran : (eval fuel none (.binary l .mult c e)).Yields m v after) :
    m.Grows after ∧ v.Carries after s (scaled k evaluated) := by
  rw [eval_binary] at ran
  obtain ⟨n, rfl, _, _, first, w, between, second, ran⟩ := ran
  obtain ⟨rfl, rfl⟩ := eval_constant c scales first
  obtain ⟨grows, carries⟩ := made n w between second
  obtain ⟨further, times, _⟩ := times_yields k carries ran
  exact ⟨grows.trans further, times⟩

section
variable (holds : m.Holds names shape numbers)
include holds

theorem binaryBound_settles (op : BinaryOp) (meant : Value.elementwise? op = some f) (exact : f ≠ .divide)
    (target first second : Expr) (reached : Update.isTarget names target = true) (root : rootName? target = some x)
    (frozen : m.Frozen names)
    (left : ∀ n v between, (eval n none first).Yields m v between → m.Grows between ∧ v.Carries between s xs)
    (right : ∀ m' n v between, m'.Holds names shape numbers → (eval n none second).Yields m' v between →
      m'.Grows between ∧ v.Carries between t ys)
    (straight : isTurned target = false → s = shape ∧ t = shape)
    (ran : (execAll fuel none [assign span target (.binary l op first second)]).Yields m flow after) :
    m.Settles names shape ∅ x (faceNumbers (isTurned target) (faceShape (isTurned target) shape)
      (List.zipWith f.onWhole xs ys)) after := by
  obtain ⟨_, _, ran⟩ := execAll_single ran
  refine assign_settles_known holds target reached root ran (fun n v between evaluated => ?_)
  rw [evalWhole_binary] at evaluated
  obtain ⟨n, rfl, evaluated⟩ := evaluated
  rw [eval_binary] at evaluated
  obtain ⟨n, rfl, u, middle, evaluated, w, last, evaluated', combined⟩ := evaluated
  obtain ⟨grows, carries⟩ := left _ _ _ evaluated
  obtain ⟨further, carries'⟩ := right _ _ _ _ (holds.grown grows) evaluated'
  obtain ⟨common, joined, more, total, _⟩ := binary_yields op meant exact (.carried (carries.grown further))
    (.carried carries') (.inl carries.isNumeric) combined
  refine ⟨((grows.trans further).trans more).widened _ _, fun alone => ⟨?_, .inl frozen⟩⟩
  obtain ⟨rfl, rfl⟩ := straight (isTurned_name alone)
  simp only [Layout.broadcastShapes_self, Option.some_inj] at joined
  subst joined
  rw [stretch_self carries.count, stretch_self carries'.count] at total
  rw [isTurned_name alone]
  exact .itself total

theorem eval_kept (y : Expr) (reached : Update.isTarget names y = true) (root : rootName? y = some r)
    (beta : Option Expr) (keeps : factor? beta = some b)
    (ran : (eval fuel none (beta.elim y fun c => .binary l .mult c y)).Yields m v after) :
    m.Grows after ∧ v.Carries after (faceShape (isTurned y) shape)
      (scaled b (faceNumbers (isTurned y) shape (numbers r))) := by
  have face (n v between) (evaluated : (eval n none y).Yields m v between) :=
    (eval_face holds y reached root evaluated).imp_right And.left
  cases beta with
  | none =>
    cases keeps
    obtain ⟨grows, carries⟩ := face _ _ _ ran
    rw [scaled_one _ carries.wholes]
    exact ⟨grows, carries⟩
  | some c => exact eval_times c y keeps face ran

theorem axpy_done (plain : (axpy alpha x beta y).isPlain names = true)
    (ran : (exec fuel none (axpyReplacement span alpha x beta y)).Yields m flow after) :
    (axpy alpha x beta y).Done names shape numbers ∅ m after := by
  simp only [isPlain, Bool.and_eq_true] at plain
  obtain ⟨⟨⟨scales, combined⟩, keeps⟩, reached⟩ := plain
  obtain ⟨a, scales⟩ := Option.isSome_iff_exists.mp scales
  obtain ⟨b, keeps⟩ : ∃ b, factor? beta = some b := by
    cases beta with
    | none => exact ⟨1, rfl⟩
    | some c => exact Option.isSome_iff_exists.mp keeps
  obtain ⟨r, member, root⟩ := isTarget_root y reached
  have outcome : (axpy alpha x beta y).outcome? shape numbers = some (faceNumbers (isTurned y)
      (faceShape (isTurned y) shape) (List.zipWith (BinaryUfunc.onWhole .add)
        (scaled b (faceNumbers (isTurned y) shape (numbers r))) (scaled a (numbersOf numbers x)))) := by
    rw [factor?] at keeps
    simp only [outcome?, scales, keeps, Option.bind_some, onTarget?_root root, Option.map_some]
  refine ⟨rfl, r, _, root, outcome, ?_⟩
  obtain ⟨between, n, grows, ⟨number, view, found, ran⟩ | ⟨frozen, ran⟩⟩ := branch_cases holds y reached root ran
  · exact (axpy_inPlace (holds.grown grows) alpha x y beta scales keeps combined reached root found ran).earlier grows
  · have held := holds.grown grows
    rw [zipWith_onWhole_comm .add (.inl rfl)]
    refine (binaryBound_settles (t := faceShape (isTurned y) shape) held .add rfl (by simp) y _ _ reached root frozen
      (fun n v last => eval_times alpha x scales fun n v last evaluated => ?_)
      (fun m' n v last holds evaluated => ?_) (fun straight => ⟨rfl, by rw [straight]; rfl⟩) ran).earlier grows
    · exact (eval_combination held x combined evaluated).imp_right And.left
    · cases beta with
      | none => exact eval_kept (l := span.lines) holds y reached root none keeps evaluated
      | some c => exact eval_kept holds y reached root (some c) keeps evaluated

/-! ### Assignments to a whole array -/

theorem whole_faces (target : Expr) (reached : Update.isTarget names target = true) (root : rootName? target = some x)
    (found : m.globals.lookup x = some (.array number view)) (read : (eval n none target).Yields m owner between)
    (keyed : (eval n none (.literal l .ellipsis)).Yields between key after) :
    m.Grows after ∧ key = .ellipsis ∧ ∃ k, owner = .array k (view.faced (isTurned target)) ∧
      owner.Carries after (faceShape (isTurned target) shape) (faceNumbers (isTurned target) shape (numbers x)) := by
  obtain ⟨grows, carries, array⟩ := eval_face holds target reached root read
  obtain ⟨k, rfl⟩ := array number view found
  rw [eval_literal] at keyed
  obtain ⟨_, rfl, rfl⟩ := keyed
  exact ⟨grows, rfl, k, rfl, carries⟩

end

theorem stretchOver?_face (t : Bool) (count : xs.length = Shape.size shape)
    (over? : stretchOver? shape (faceShape t shape) xs = some zs) : zs = xs :=
  stretchOver?_same_size over? (size_faceShape t shape).symm count

theorem assignWhole_settles (holds : m.Holds names shape numbers) (target value : Expr)
    (reached : Update.isTarget names target = true) (root : rootName? target = some x)
    (combined : isCombination names value = true) (found : m.globals.lookup x = some (.array number view))
    (ran : (execAll fuel none [assign span (whole l target) value]).Yields m flow after) :
    m.Settles names shape ∅ x (faceNumbers (isTurned target) (faceShape (isTurned target) shape)
      (numbersOf numbers value)) after := by
  obtain ⟨_, _, ran⟩ := execAll_single ran
  rw [assign, exec_assign] at ran
  obtain ⟨n, rfl, v, between, evaluated, w, last, held, ⟨_, assigned⟩, _⟩ := ran
  obtain ⟨grows, keeps, _⟩ := evalWhole_combination holds value combined evaluated
  obtain ⟨marked, keeps', _⟩ := hold_keeps keeps held
  have before := grows.trans marked
  rw [whole, assign_subscript] at assigned
  obtain ⟨n, rfl, owner, _, read, key, final, keyed, set⟩ := assigned
  have found' := (before.globals x (by simp)).trans found
  obtain ⟨further, rfl, k, rfl, carries⟩ := whole_faces (holds.grown before) target reached root found' read keyed
  have given := (keeps'.grown further).carries
  obtain ⟨_, zs, over?, changes, written⟩ := setItem_yields carries given set
  rw [stretchOver?_face _ given.count over?] at written
  exact settles_written_later holds (isTarget_member reached root) found (before.trans further) changes written

theorem lookupItem_whole (ran : (Value.lookupItem (.array number view) .ellipsis).Yields m v after) :
    m.Grows after ∧ ∃ k < after.objects.size, v = .array k view := by
  have selected : (Run.arrayOf view).Yields m v after := by
    simpa [Value.lookupItem, Value.getItem, Value.selectValue, Value.select, Value.selectView, Value.keepsArray]
      using ran
  obtain ⟨grows, rfl, known⟩ := arrayOf_yields selected
  exact ⟨grows, _, known, rfl⟩

section
variable (holds : m.Holds names shape numbers) (target value : Expr) (reached : Update.isTarget names target = true)
  (root : rootName? target = some x) (combined : isCombination names value = true)
include holds reached root combined

theorem augmentWhole_settles (op : BinaryOp) (meant : Value.elementwise? op = some f)
    (found : m.globals.lookup x = some (.array number view))
    (ran : (execAll fuel none [.augmented span (whole l target) op value]).Yields m flow after) :
    f ≠ .divide ∧ m.Settles names shape ∅ x (faceNumbers (isTurned target) (faceShape (isTurned target) shape)
      (List.zipWith f.onWhole (faceNumbers (isTurned target) shape (numbers x)) (numbersOf numbers value))) after := by
  obtain ⟨_, _, ran⟩ := execAll_single ran
  rw [exec_augmented] at ran
  obtain ⟨n, rfl, ⟨_, ran⟩, _⟩ := ran
  rw [whole, augment_subscript] at ran
  obtain ⟨n, rfl, owner, _, read, key, m₁, keyed, old, m₂, looked, v, m₃, evaluated, w, m₄, updated, set⟩ := ran
  obtain ⟨grows, rfl, k, rfl, carries⟩ := whole_faces holds target reached root found read keyed
  obtain ⟨further, k', known, rfl⟩ := lookupItem_whole looked
  have before := grows.trans further
  obtain ⟨more, given, _⟩ := eval_combination (holds.grown before) value combined evaluated
  have part := (carries.grown further).renumbered known
  obtain ⟨rfl, exact, _, fits, changes, total⟩ := update_yields op meant (part.grown more) (.carried given) updated
  rw [stretch_face _ given.count fits] at total
  have owner := total.renumbered (((carries.grown further).grown more).known.trans_le changes.objects)
  obtain ⟨_, zs, over?, rewritten, written⟩ := setItem_yields owner total set
  rw [stretchOver?_self total.count] at over?
  cases over?
  exact ⟨exact, settles_written_later holds (isTarget_member reached root) found (before.trans more)
    (changes.trans rewritten) written⟩

theorem assignBound_settles (frozen : m.Frozen names)
    (ran : (execAll fuel none [assign span target value]).Yields m flow after) :
    m.Settles names shape ∅ x (faceNumbers (isTurned target) (faceShape (isTurned target) shape)
      (numbersOf numbers value)) after := by
  obtain ⟨_, _, ran⟩ := execAll_single ran
  refine assign_settles_known holds target reached root ran (fun n v between evaluated => ?_)
  obtain ⟨grows, keeps, _⟩ := evalWhole_combination holds value combined evaluated
  refine ⟨grows.widened _ _, fun alone => ⟨?_, .inl frozen⟩⟩
  rw [isTurned_name alone]
  exact keeps

end

theorem inPlaceOp_meant (op : InPlaceOp) : ∃ f, Value.elementwise? op.binary = some f ∧ (op = .div ↔ f = .divide) := by
  cases op with
  | add => exact ⟨.add, rfl, by simp⟩
  | sub => exact ⟨.subtract, rfl, by simp⟩
  | mul => exact ⟨.multiply, rfl, by simp⟩
  | div => exact ⟨.divide, rfl, by simp⟩

theorem divides_broadcast (op : InPlaceOp) (target value : Expr) :
    (broadcast (some op) target value).divides = false ↔ op ≠ .div := by
  cases op <;> simp [divides]

theorem broadcast_done (holds : m.Holds names shape numbers) (plain : (broadcast op target value).isPlain names = true)
    (exact : m.Frozen names → (broadcast op target value).divides = false)
    (ran : (exec fuel none (broadcastReplacement span op target value)).Yields m flow after) :
    (broadcast op target value).Done names shape numbers ∅ m after := by
  simp only [isPlain, Bool.and_eq_true] at plain
  obtain ⟨reached, combined⟩ := plain
  obtain ⟨x, member, root⟩ := isTarget_root target reached
  cases op with
  | none =>
    have outcome : (broadcast none target value).outcome? shape numbers = some (faceNumbers (isTurned target)
        (faceShape (isTurned target) shape) (numbersOf numbers value)) := by
      rw [outcome?, onTarget?_root root]
      rfl
    refine ⟨rfl, x, _, root, outcome, ?_⟩
    obtain ⟨between, n, grows, ⟨number, view, found, ran⟩ | ⟨frozen, ran⟩⟩ := branch_cases holds target reached root ran
    · exact (assignWhole_settles (holds.grown grows) target value reached root combined found ran).earlier grows
    · exact (assignBound_settles (holds.grown grows) target value reached root combined frozen ran).earlier grows
  | some op =>
    obtain ⟨f, meant, divides⟩ := inPlaceOp_meant op
    have outcome : (broadcast (some op) target value).outcome? shape numbers =
        some (faceNumbers (isTurned target) (faceShape (isTurned target) shape) (List.zipWith f.onWhole
          (faceNumbers (isTurned target) shape (numbers x)) (numbersOf numbers value))) := by
      rw [outcome?, meant, Option.bind_some, onTarget?_root root]
      rfl
    rw [Done, divides_broadcast]
    obtain ⟨between, n, grows, ⟨number, view, found, ran⟩ | ⟨frozen, ran⟩⟩ := branch_cases holds target reached root ran
    · obtain ⟨never, settles⟩ :=
        augmentWhole_settles (holds.grown grows) target value reached root combined op.binary meant found ran
      exact ⟨mt divides.mp never, x, _, root, outcome, settles.earlier grows⟩
    · have never := (divides_broadcast op target value).mp (exact (frozen.earlier grows))
      have held := holds.grown grows
      refine ⟨never, x, _, root, outcome, ?_⟩
      exact (binaryBound_settles held op.binary meant (mt divides.mpr never) target target value reached root frozen
        (fun n v last read => (eval_face held target reached root read).imp_right And.left)
        (fun m' n v last holds evaluated => (eval_combination holds value combined evaluated).imp_right And.left)
        (fun straight => ⟨by rw [straight]; rfl, rfl⟩) ran).earlier grows

theorem routed_combination (e : Expr) (around : Lines) (combined : isCombination names e = true) :
    routed around e = e := by
  fun_induction isCombination names e generalizing around with
  | case1 => rfl
  | case2 l op a b ihA ihB =>
    simp only [Bool.and_eq_true] at combined
    rw [routed, ihA l combined.1.2, ihB l combined.2]
  | case3 => cases combined

theorem elementwise_done (holds : m.Holds names shape numbers) (plain : (elementwise target value).isPlain names = true)
    (ran : (exec fuel none (elementwiseReplacement span target value)).Yields m flow after) :
    (elementwise target value).Done names shape numbers ∅ m after := by
  have same : elementwiseReplacement span target value = broadcastReplacement span none target value := by
    simp only [isPlain, Bool.and_eq_true] at plain
    simp only [elementwiseReplacement, broadcastReplacement, routed_combination value _ plain.2]
  rw [same] at ran
  exact broadcast_done holds plain (fun _ => rfl) ran

end
end Rebind
