import Rebind.Proofs.FailedSums
import Rebind.Proofs.FlatKernels
/-!
Products written directly. Where types and shapes are told in advance to allow it, a product is computed into the cells
of its target; everywhere else it is made as a new array and assigned. Both ways plan the same product, and once there
is a plan of numbers they come down to writing the same cells at the same places, one after the other.
-/
namespace Rebind

open Number Strided Syntax Value Run ProductShape

section
variable {m between after last : Memory} {d e : DType} {v : Value} {view left right : View} {plan : Plan}

theorem Run.yields_or_fails (run : Run α) (m : Memory) :
    (∃ a after, run.Yields m a after) ∨ ∃ fault after, run.Fails m fault after := by
  rcases outcome : (run.run.run m).run with ⟨fault | a, after⟩
  · exact .inr ⟨fault, after, outcome⟩
  · exact .inl ⟨a, after, outcome⟩

/-! ### Plans of products -/

/-- What is known of the plan of a product: its type, its shape, and that there is a sum of products for each place. -/
structure Plan.Multiplies (plan : Plan) (d : DType) (s t : Shape) : Prop where
  typed : plan.dtype = d
  shaped : ∃ p, make? s t = some p ∧ plan.shape = p.resultShape
  layout : plan.layout = Layout.rowMajor plan.shape
  count : plan.steps.length = Shape.size plan.shape
  steps : ∀ step ∈ plan.steps, ∃ row column, step = dotStep d row column

theorem productPlan_planned {a b : Operand} (ran : (productPlan a b target).Yields m plan after) :
    plan.Multiplies (a.meet b) a.shape b.shape ∧ mayStore plan.dtype target = true := by
  unfold productPlan at ran
  dsimp only at ran
  split at ran
  · simp at ran
  · split at ran
    · simp at ran
    · rename_i stores
      simp only [yields_bind] at ran
      obtain ⟨a', _, castA, b', _, castB, ran⟩ := ran
      rw [(castTo_numbers castA).1, (castTo_numbers castB).1] at ran
      split at ran
      · simp at ran
      · rename_i p found
        obtain ⟨rfl, _⟩ := yields_pure.mp ran
        refine ⟨⟨rfl, ⟨p, found, rfl⟩, rfl, ?_, ?_⟩, by simpa using stores⟩
        · -- the numbers play no part in how many there are
          rw [← length_productWords found .int64 [] []]
          simp [productWords, List.length_flatMap, rowsOf, columnsOf, stackOf, Function.comp_def]
        · intro step member
          simp only [List.mem_flatMap, List.mem_map] at member
          obtain ⟨_, _, row, _, column, _, rfl⟩ := member
          exact ⟨row, column, rfl⟩

theorem productPlan_for (a b : Operand) (stores : mayStore (a.meet b) (some view) = true) :
    productPlan a b (some view) = productPlan a b none := by
  have anywhere : mayStore (a.meet b) none = true := rfl
  simp only [productPlan, stores, anywhere]

theorem cast_dotNum (exact : d.kind = .truth ∨ d.kind = .integer) (xs ys : List Numeral) :
    d.cast (dotNum d xs ys) = dotNum d xs ys := by
  rcases exact with truth | integer
  · have sum (rest : List (Numeral × Numeral)) (start : Bool) : ∃ b, rest.foldl (fun total pair =>
        d.binary .add total (d.binary .multiply pair.1 pair.2)) (.bool start) = .bool b := by
      induction rest generalizing start with
      | nil => exact ⟨start, rfl⟩
      | cons pair rest ih =>
        rw [List.foldl_cons]
        simp only [DType.binary, truth] at ih ⊢
        exact ih _
    obtain ⟨b, made⟩ : ∃ b, dotNum d xs ys = .bool b := by
      rw [dotNum]
      rcases xs.zip ys with _ | ⟨⟨x, y⟩, rest⟩
      · exact ⟨false, by simp only [DType.zero, truth]⟩
      · obtain ⟨b, made⟩ := sum rest (!x.isZero && !y.isZero)
        refine ⟨b, ?_⟩
        rw [← made]
        simp only [DType.binary, truth]
    rw [made]
    cases b <;> simp [DType.cast, truth, Numeral.isZero]
  · obtain ⟨n, made, held⟩ := dotNum_word integer xs ys
    rw [made, cast_word integer held]

theorem Plan.Multiplies.numerals (multiplies : plan.Multiplies d s t) (typed : d ≠ .object) :
    ∃ ns : List Numeral, plan.steps = ns.map (fun n => pure (.num n)) ∧
      ∀ n ∈ ns, ∃ xs ys, n = dotNum d xs ys := by
  have sums := multiplies.steps
  generalize plan.steps = steps at sums
  induction steps with
  | nil => exact ⟨[], rfl, by simp⟩
  | cons step rest ih =>
    rw [List.forall_mem_cons] at sums
    obtain ⟨⟨row, column, rfl⟩, others⟩ := sums
    obtain ⟨ns, rfl, sums⟩ := ih others
    refine ⟨dotNum d (row.map numOf) (column.map numOf) :: ns, ?_, ?_⟩
    · simp [dotStep, typed]
    · rw [List.forall_mem_cons]
      exact ⟨⟨_, _, rfl⟩, sums⟩

theorem Plan.Multiplies.isNumeric (multiplies : plan.Multiplies d s t) (typed : d ≠ .object) : plan.IsNumeric := by
  obtain ⟨ns, steps, _⟩ := multiplies.numerals typed
  intro step member
  rw [steps] at member
  obtain ⟨n, _, rfl⟩ := List.mem_map.mp member
  exact ⟨n, rfl⟩

theorem matmul_counts {a b : Value} {o o' : Operand} (reads : (Value.operand a).Yields m o between)
    (reads' : (Value.operand b).Yields between o' last) (typed : o.meet o' ≠ .object)
    (ran : (Value.matmul a b).Yields m v after) :
    ∃ p, make? o.shape o'.shape = some p ∧ v.Counts after (o.meet o') p.resultShape := by
  simp only [Value.matmul] at ran
  split at ran
  · simp at ran
  · simp only [yields_bind] at ran
    obtain ⟨_, _, again, _, _, again', plan, _, planned, ran⟩ := ran
    obtain ⟨rfl, rfl⟩ := reads.eq again
    obtain ⟨rfl, rfl⟩ := reads'.eq again'
    obtain ⟨multiplies, _⟩ := productPlan_planned planned
    obtain ⟨p, found, shaped⟩ := multiplies.shaped
    refine ⟨p, found, ?_⟩
    rw [← multiplies.typed, ← shaped]
    refine (multiplies.isNumeric typed).result (multiplies.typed.trans_ne typed) ?_ ran
    rw [multiplies.layout, Layout.rowMajor_shape]

theorem make?_axes (found : make? s t = some p) : 1 ≤ s.length ∧ 1 ≤ t.length := by
  rcases s with _ | ⟨n, s⟩
  · cases found
  · rcases t with _ | ⟨k, t⟩
    · simp only [make?, split?, List.reverse_nil, Option.bind_eq_bind, Option.bind_none,
        Option.bind_fun_none] at found
      cases found
    · simp

/-! ### Writing the numbers -/

theorem forM_cast (typed : d ≠ .object) (b : Nat) (places : List Int) (ns : List Numeral) :
    (places.zip (ns.map fun n => castCell d (.num n))).forM (fun (place, step) => do
      writeCell b place (← step)) =
      (places.zip (ns.map fun n => .num (d.cast n))).forM fun (place, cell) => writeCell b place cell := by
  exact forM_zip_congr (fun place n => by simp [castCell, typed]) places ns

theorem Plan.into_eq {ns : List Numeral} (steps : plan.steps = ns.map fun n => pure (.num n))
    (typed : view.dtype ≠ .object) (shaped : plan.shape = view.shape) (writeable : view.writeable = true) :
    plan.into view = Run.write view (ns.map fun n => .num (view.dtype.cast n)) := by
  have allowed : ¬ (decide (plan.shape ≠ view.shape) || !view.writeable) = true := by simp [shaped, writeable]
  rw [Plan.into, if_neg allowed, Run.write, ← forM_cast typed, steps]
  simp only [List.zip_map_right, List.forM_eq_forM, List.forM_map]
  rfl

theorem Plan.result_assigned {ns : List Numeral} (steps : plan.steps = ns.map fun n => pure (.num n))
    (typed : plan.dtype ≠ .object) (layout : plan.layout = Layout.rowMajor plan.shape)
    (count : ns.length = Shape.size plan.shape) (exact : ∀ n ∈ ns, plan.dtype.cast n = n)
    (typed' : view.dtype ≠ .object) (shaped : plan.shape = view.shape) (writeable : view.writeable = true) :
    plan.result.Completes m fun v after => m.Extends after ∧ v.Counts after plan.dtype plan.shape ∧
      ((Value.assign view v).run.run after).run =
        ((Run.write view (ns.map fun n => .num (view.dtype.cast n))).run.run after).run := by
  have computed : plan.steps.mapM id = pure (ns.map .num) := by
    rw [steps]
    clear steps count exact
    induction ns with
    | nil => rfl
    | cons n ns ih => simp [List.mapM_cons, ih]
  simp only [Plan.result, computed, pure_bind]
  split
  · rename_i flat alone
    obtain ⟨n, rest, rfl, rfl, none⟩ := List.map_eq_cons_iff.mp alone
    obtain rfl := List.map_eq_nil_iff.mp none
    rw [completes_pure]
    simp only [element, typed, if_false]
    refine ⟨.refl _, .single flat, ?_⟩
    have one : view.size = 1 := by
      rw [flat] at shaped
      rw [View.size, Layout.size, ← View.shape, ← shaped]
      rfl
    simp [Value.assign, writeable, cellFor, typed', numberOf, one]
  · have size : (ns.map Cell.num).length = plan.layout.size := by
      rw [List.length_map, count, layout, Layout.size, Layout.rowMajor_shape]
    obtain ⟨_, after, made, number, new, rfl, _, rfl, placed, _, shown⟩ :=
      newArray_completes (m := m) plan.dtype (layout ▸ Layout.rowMajor_fills _) size
    have shape : View.shape ⟨m.buffers.size, plan.layout, plan.dtype, true⟩ = plan.shape := by
      rw [View.shape, layout, Layout.rowMajor_shape]
    refine made.completes ⟨(Run.newArray_adds _ _ _).yields made, .array placed.buffer rfl shape ?_, ?_⟩
    · intro spot member
      have inside : after.cell spot ∈ ns.map Cell.num := by
        rw [← shown]
        exact List.mem_map.mpr ⟨spot, member, rfl⟩
      obtain ⟨n, _, held⟩ := List.mem_map.mp inside
      exact ⟨n, held.symm⟩
    · let o : Operand := ⟨plan.dtype, plan.layout, ns.map .num, none, false⟩
      have reads : (Value.operand (.array number ⟨m.buffers.size, plan.layout, plan.dtype, true⟩)).Yields after o after := by
        simp [Value.operand, exportedView?, exportedBytes?, shown, o]
      have spread : spreadOver o view.shape = .ok (ns.map .num) :=
        spreadOver_same (shape.trans shaped) (by rw [List.length_map, count, shaped])
      simp only [Value.assign, writeable, Bool.not_true, Bool.false_eq_true, if_false]
      rw [reads.bind_run, spread, Run.ofExcept, pure_bind]
      by_cases same : plan.dtype = view.dtype
      · rw [if_pos same, ← same]
        have kept : ns.map (fun n => Cell.num (plan.dtype.cast n)) = ns.map .num :=
          List.map_congr_left fun n member => by rw [exact n member]
        rw [kept]
      · rw [if_neg same, writeEach, List.map_map, Run.write, ← forM_cast typed']
        rfl

/-! ### Two memories -/

/-- The memory has the buffers of another one, and maybe more. -/
def Memory.Mirrors (m other : Memory) : Prop := ∀ b < m.buffers.size, other.buffers[b]? = m.buffers[b]?

theorem Memory.Changes.mirrors (grows : m.Grows after) : m.Mirrors after := by
  intro b old
  have new := old.trans_le grows.buffers
  rw [Array.getElem?_eq_getElem old, Array.getElem?_eq_getElem new, Option.some_inj]
  have size : after.buffers[b].size = m.buffers[b].size := by simpa [Array.getD, old, new] using grows.lengths b old
  refine Array.ext size fun i inside inside' => ?_
  have same := grows.kept (b, i) old (by simp)
  simpa [Memory.cell, Array.getD, old, new, inside, inside'] using same

theorem Memory.Mirrors.cell (mirrors : m.Mirrors after) (old : spot.1 < m.buffers.size) :
    after.cell spot = m.cell spot := by
  rw [Memory.cell_eq, Memory.cell_eq, mirrors _ old]

theorem writeCells_mirrors (pairs : List (Int × Cell)) (mirrors : m.Mirrors between)
    (first : (pairs.forM fun (place, cell) => writeCell b place cell).Yields m u after)
    (second : (pairs.forM fun (place, cell) => writeCell b place cell).Yields between u last) : after.Mirrors last := by
  induction pairs generalizing m between with
  | nil =>
    simp only [List.forM_eq_forM, List.forM_nil, yields_pure] at first second
    rwa [← first.2, ← second.2]
  | cons pair rest ih =>
    simp only [List.forM_eq_forM, List.forM_cons, yields_bind, writeCell, yields_modify] at first second ih
    obtain ⟨_, _, rfl, first⟩ := first
    obtain ⟨_, _, rfl, second⟩ := second
    refine ih ?_ first second
    intro c old
    simp only [Array.size_modify] at old
    simp only [Array.getElem?_modify, mirrors c old]

/-! ### Both ways -/

/-- Two runs end alike for whoever knew the memory that both started from: they fail alike and leave all that was there,
or they give the same value, and every cell that was there holds the same after both. Only cells of the view are
written. -/
inductive Run.EndAlike (m : Memory) (view : View) (first second : Run α) : Prop
  | failed (fault : Fault) (after last : Memory) (fails : first.Fails m fault after) (fails' : second.Fails m fault last)
      (kept : m.Extends after) (kept' : m.Extends last) : EndAlike m view first second
  | gave (a : α) (after last : Memory) (yields : first.Yields m a after) (yields' : second.Yields m a last)
      (changes : m.Changes ∅ {spot | spot ∈ view.spots} after) (changes' : m.Changes ∅ {spot | spot ∈ view.spots} last)
      (same : ∀ spot, spot.1 < m.buffers.size → last.cell spot = after.cell spot) : EndAlike m view first second

theorem Run.EndAlike.bind {run : Run β} {first second : β → Run α} (adds : run.Adds)
    (rest : ∀ b between, run.Yields m b between → EndAlike between view (first b) (second b)) :
    EndAlike m view (run >>= first) (run >>= second) := by
  rcases run.yields_or_fails m with ⟨b, between, ran⟩ | ⟨fault, after, failed⟩
  · have grown := adds.yields ran
    cases rest b between ran with
    | failed fault after last fails fails' kept kept' =>
      exact .failed fault after last (ran.bind_fails.mpr fails) (ran.bind_fails.mpr fails') (grown.trans kept)
        (grown.trans kept')
    | gave a after last yields yields' changes changes' same =>
      have widened := grown.toChanges.widened ∅ {spot | spot ∈ view.spots}
      refine .gave a after last ?_ ?_ (widened.trans changes) (widened.trans changes') ?_
      · exact yields_bind.mpr ⟨b, between, ran, yields⟩
      · exact yields_bind.mpr ⟨b, between, ran, yields'⟩
      · intro spot old
        exact same spot (old.trans_le grown.buffers)
  · have kept := adds.fails failed
    exact .failed fault after after (fails_bind.mpr (.inl failed)) (fails_bind.mpr (.inl failed)) kept kept

theorem setItem_counted (counts : v.Counts m d shape) (number : Nat) (view : View) :
    setItem (.array number view) .ellipsis v = Value.assign view v := by
  cases counts <;> simp [setItem, select, selectView, isBox]

theorem Plan.Multiplies.endAlike (multiplies : plan.Multiplies d s t) (exact : d.kind = .truth ∨ d.kind = .integer)
    (typed : d ≠ .object) (typed' : view.dtype ≠ .object) (shaped : plan.shape = view.shape)
    (writeable : view.writeable = true) (number : Nat) (m : Memory) :
    EndAlike m view (do plan.into view; return array number view) (do
      let product ← plan.result
      setItem (.array number view) .ellipsis product
      return .array number view) := by
  obtain ⟨ns, steps, sums⟩ := multiplies.numerals typed
  have count : ns.length = Shape.size plan.shape := by rw [← multiplies.count, steps, List.length_map]
  have cast : ∀ n ∈ ns, plan.dtype.cast n = n := by
    intro n member
    obtain ⟨xs, ys, rfl⟩ := sums n member
    rw [multiplies.typed]
    exact cast_dotNum exact xs ys
  obtain ⟨v, between, made, grown, counts, assigned⟩ := plan.result_assigned (m := m) steps
    (multiplies.typed.trans_ne typed) multiplies.layout count cast typed' shaped writeable
  -- from here on both write the same cells, the one to a memory that holds the product as well
  let cells := ns.map fun n => Cell.num (view.dtype.cast n)
  obtain ⟨_, after, written, _⟩ := write_goesThrough view cells m
  obtain ⟨_, last, written', _⟩ := write_goesThrough view cells between
  have changes := (write_changes _ _).yields written
  have stored : (setItem (.array number view) .ellipsis v).Yields between ⟨⟩ last := by
    rw [setItem_counted counts, Yields, assigned]
    exact written'
  refine .gave (.array number view) after last ?_ ?_ changes ?_ ?_
  · rw [plan.into_eq steps typed' shaped writeable]
    exact yields_bind.mpr ⟨⟨⟩, after, written, yields_pure.mpr ⟨rfl, rfl⟩⟩
  · simp only [yields_bind, yields_pure]
    exact ⟨v, between, made, ⟨⟩, last, stored, trivial, rfl⟩
  · exact (grown.toChanges.widened _ _).trans ((write_changes _ _).yields written')
  · intro spot old
    exact (writeCells_mirrors _ grown.toChanges.mirrors written written').cell (old.trans_le changes.buffers)

theorem exact_of_sameKind : ∀ d e : DType, d.sameKind e = true → e.kind = .truth ∨ e.kind = .integer →
    d.kind = .truth ∨ d.kind = .integer := by decide

theorem ne_object_of_promote : ∀ d e : DType, d.promote e ≠ .object → d ≠ .object ∧ e ≠ .object := by decide

theorem exact_ne_object : ∀ d : DType, d.kind = .truth ∨ d.kind = .integer → d ≠ .object := by decide

theorem operands_meet (typed : left.dtype ≠ .object) (typed' : right.dtype ≠ .object) (holds : left.HoldsNumbers m)
    (holds' : right.HoldsNumbers m) (i j : Nat) :
    ∃ o o', (Value.operand (.array i left)).Yields m o m ∧ (Value.operand (.array j right)).Yields m o' m ∧
      o.shape = left.shape ∧ o'.shape = right.shape ∧ o.meet o' = left.dtype.promote right.dtype := by
  obtain ⟨o, _, reads, rfl, counts, firm, typedO⟩ := (holds.counts typed i).operand typed
  obtain ⟨o', _, reads', rfl, counts', firm', typedO'⟩ := (holds'.counts typed' j).operand typed'
  refine ⟨o, o', reads, reads', counts.shaped, counts'.shaped, ?_⟩
  simp only [Operand.meet, firm, firm', typedO, typedO']

theorem assignProduct_arrays (c : Value) (i j : Nat) (left right : View) :
    assignProduct c (.array i left) (.array j right) (.int 1) (.int 0) = (do
      let o ← Value.operand (.array i left)
      let o' ← Value.operand (.array j right)
      let plan ← productPlan o o' none
      let product ← plan.result
      setItem c .ellipsis product
      return c) := by
  have same : Value.binary .matMult (.array i left) (.array j right) =
      Value.matmul (.array i left) (.array j right) := rfl
  simp [assignProduct, scaledProduct, int, differs_whole, same, Value.matmul, refusesElementwise]

/-- Wherever a product is written directly, it could as well have been assigned; and the shape that is told in advance
is that of the product. -/
theorem directProduct_ends_alike (number i j : Nat) (target left right : View) (m : Memory)
    (exact : target.dtype.kind = .truth ∨ target.dtype.kind = .integer) (writeable : target.writeable = true)
    (holds : left.HoldsNumbers m) (holds' : right.HoldsNumbers m) :
    ((Value.matmulInto.isDirect (.int 1) (.int 0) target left right).Yields m true m →
      Run.EndAlike m target (do Value.matmulOut (.array i left) (.array j right) target; return .array number target)
        (Value.assignProduct (.array number target) (.array i left) (.array j right) (.int 1) (.int 0))) ∧
    ∀ v after, (Value.binary .matMult (.array i left) (.array j right)).Yields m v after →
      left.shape.length ≤ 2 → right.shape.length ≤ 2 → left.dtype ≠ .object → right.dtype ≠ .object →
      ∃ q, Value.plainProductShape? left.shape right.shape = some q ∧
        v.Counts after (left.dtype.promote right.dtype) q := by
  constructor
  · intro direct
    simp only [Value.matmulInto.isDirect, Value.int, equals_whole, decide_true, Bool.not_true, Bool.false_eq_true,
      if_false, pure_bind, yields_pure, Bool.and_eq_true, decide_eq_true_eq, and_true] at direct
    obtain ⟨told, stores⟩ := direct
    have typedTarget := exact_ne_object _ exact
    have typed := sameKind_ne_object _ _ typedTarget stores
    obtain ⟨typedLeft, typedRight⟩ := ne_object_of_promote _ _ typed
    obtain ⟨o, o', reads, reads', shapeLeft, shapeRight, met⟩ := operands_meet typedLeft typedRight holds holds' i j
    have planFor : Value.productPlan o o' (some target) = Value.productPlan o o' none :=
      productPlan_for o o' (by rw [met]; exact stores)
    simp only [assignProduct_arrays, Value.matmulOut, bind_assoc]
    refine .bind (Value.operand_adds _) fun _ _ again => ?_
    obtain ⟨rfl, rfl⟩ := reads.eq again
    refine .bind (Value.operand_adds _) fun _ _ again => ?_
    obtain ⟨rfl, rfl⟩ := reads'.eq again
    rw [planFor]
    refine .bind (Value.productPlan_adds _ _ _) fun plan between planned => ?_
    obtain ⟨multiplies, _⟩ := productPlan_planned planned
    rw [met, shapeLeft, shapeRight] at multiplies
    obtain ⟨p, found, shaped⟩ := multiplies.shaped
    rw [← plainProductShape?_unique found told] at shaped
    exact multiplies.endAlike (exact_of_sameKind _ _ stores exact) typed typedTarget shaped writeable number between
  · intro v after ran axes axes' typedLeft typedRight
    obtain ⟨o, o', reads, reads', shapeLeft, shapeRight, met⟩ := operands_meet typedLeft typedRight holds holds' i j
    obtain ⟨p, found, counted⟩ :=
      matmul_counts reads reads' (met.trans_ne (promote_ne_object _ _ typedLeft typedRight)) ran
    rw [shapeLeft, shapeRight] at found
    obtain ⟨some_, some_'⟩ := make?_axes found
    exact ⟨p.resultShape, plainProductShape?_eq found (by omega) (by omega), met ▸ counted⟩

def numbersAndTruths : Memory where
  buffers := #[#[wholeCell 1, wholeCell 2, wholeCell 3, wholeCell 4], #[.num (.bool true), .num (.bool false)]]
  objects := #[.token, .token, .token]

def numberSquare : View := ⟨0, Layout.rowMajor [2, 2], .int64, true⟩

def truthColumn : View := ⟨1, Layout.rowMajor [2, 1], .bool, true⟩

/-- The second column of the square, which the product is written over. -/
def secondColumn : View := ⟨0, ⟨1, [⟨2, 2⟩, ⟨1, 1⟩]⟩, .int64, true⟩

/-- A product over a part of its own factor. -/
theorem product_over_column_alike : Run.EndAlike numbersAndTruths secondColumn
      (do Value.matmulOut (.array 0 numberSquare) (.array 1 truthColumn) secondColumn; return .array 2 secondColumn)
      (Value.assignProduct (.array 2 secondColumn) (.array 0 numberSquare) (.array 1 truthColumn) (.int 1) (.int 0)) ∧
    ∃ v after q, (Value.binary .matMult (.array 0 numberSquare) (.array 1 truthColumn)).Yields numbersAndTruths v after ∧
      Value.plainProductShape? numberSquare.shape truthColumn.shape = some q ∧ v.Counts after .int64 q := by
  have numbers : numberSquare.HoldsNumbers numbersAndTruths := by
    refine ⟨by decide, fun _ spot member => ?_⟩
    replace member : spot ∈ [(0, 0), (0, 1), (0, 2), (0, 3)] := member
    simp only [List.mem_cons, List.not_mem_nil, or_false] at member
    rcases member with rfl | rfl | rfl | rfl <;> exact ⟨_, rfl⟩
  have truths : truthColumn.HoldsNumbers numbersAndTruths := by
    refine ⟨by decide, fun _ spot member => ?_⟩
    replace member : spot ∈ [(1, 0), (1, 1)] := member
    simp only [List.mem_cons, List.not_mem_nil, or_false] at member
    rcases member with rfl | rfl <;> exact ⟨_, rfl⟩
  obtain ⟨alike, shaped⟩ := directProduct_ends_alike 2 0 1 secondColumn numberSquare truthColumn numbersAndTruths
    (.inr rfl) rfl numbers truths
  obtain ⟨v, after, ran⟩ : ∃ v after, (Value.binary .matMult (.array 0 numberSquare) (.array 1 truthColumn)).Yields
      numbersAndTruths v after := ⟨_, _, rfl⟩
  obtain ⟨q, told, counts⟩ := shaped v after ran (by decide) (by decide) (by decide) (by decide)
  exact ⟨alike rfl, v, after, q, ran, told, counts⟩

end
end Rebind
