import Rebind.Proofs.DirectProducts
import Rebind.Proofs.Operators
/-!
What operators make of numbers, whatever holds them: numbers in an array or by themselves, a box around such an array,
or a sparse matrix. Objects come in only by way of operands that are arrays of objects.
-/
namespace Rebind

open Number Strided Syntax Value Run

/-- Numbers, a box of numbers, or a sparse matrix of numbers. -/
inductive Value.Computed (m : Memory) : Value → Prop
  | numbers (typed : d ≠ .object) (counts : v.Counts m d shape) : Computed m v
  | boxed (typed : d ≠ .object) (counts : Value.Counts m d shape (.array number view)) : Computed m (.box k view foreign)
  | sparse {k : Nat} {o : SparseObject} (found : m.objects[k]? = some (.sparse o)) (typed : o.dtype ≠ .object) :
      Computed m (.sparse k)

/-- The value is no array of objects, and is not taken for one now or later. -/
def Value.FreeOfObjects (m : Memory) : Value → Prop
  | .array _ view | .box _ view _ => view.dtype ≠ .object
  | v => ∀ later o last, m.Extends later → (operand v).Yields later o last → o.shape ≠ [] → o.dtype ≠ .object

/-- A value that takes part in arithmetic as numbers do: an array, a single number of a type, or a plain number. -/
inductive Value.IsOperand : Value → Prop
  | array {view : View} (typed : view.dtype ≠ .object) (number : Nat) : IsOperand (.array number view)
  | element {d : DType} (typed : d ≠ .object) (n : Numeral) : IsOperand (.scalar d n)
  | plain (n : Int) : IsOperand (.num (.int n))

/-- Such a value, or a box around such an array. -/
inductive Value.MayBeBoxed : Value → Prop
  | bare (operand : IsOperand v) : MayBeBoxed v
  | box {view : View} (typed : view.dtype ≠ .object) (k : Nat) (foreign : Bool) : MayBeBoxed (.box k view foreign)

section
variable {m between after last : Memory} {d e : DType} {v w a b : Value} {view : View} {plan : Plan} {o o' : Operand}

theorem Value.Computed.later (computed : v.Computed m) (extends_ : m.Extends after) : v.Computed after := by
  cases computed with
  | numbers typed counts => exact .numbers typed (counts.kept extends_.keepsNumbers)
  | boxed typed counts => exact .boxed typed (counts.kept extends_.keepsNumbers)
  | sparse found typed => exact .sparse (extends_.held _ _ found) typed

theorem Value.FreeOfObjects.later (free : v.FreeOfObjects m) (extends_ : m.Extends after) : v.FreeOfObjects after := by
  unfold FreeOfObjects at free ⊢
  split
  · exact free
  · exact free
  · rename_i array box
    intro later o last further
    split at free
    · exact absurd rfl (array _ _)
    · exact absurd rfl (box _ _ _)
    · exact free later o last (extends_.trans further)

/-! ### Operands -/

/-- An operand to compute with in a type for numbers. -/
def Operand.Typed (o : Operand) : Prop := o.dtype ≠ .object ∨ ∃ n, o.weak = some n

theorem meet_ne_object (first : o.Typed) (second : o'.Typed) : o.meet o' ≠ .object := by
  have plain (n : Numeral) : DType.ofNum n ≠ .object := by cases n <;> simp [DType.ofNum]
  unfold Operand.meet
  split
  · exact promote_ne_object _ _ (plain _) (plain _)
  · rename_i firm
    rcases second with typed | ⟨n, weak⟩
    · exact promoteWeak_ne_object _ typed
    · rw [firm] at weak
      cases weak
  · rename_i firm _
    rcases first with typed | ⟨n, weak⟩
    · exact promoteWeak_ne_object _ typed
    · rw [firm] at weak
      cases weak
  · rename_i firm firm'
    rcases first with typed | ⟨n, weak⟩
    · rcases second with typed' | ⟨n, weak⟩
      · exact promote_ne_object _ _ typed typed'
      · rw [firm'] at weak
        cases weak
    · rw [firm] at weak
      cases weak

theorem binaryType_ne_object (f : BinaryUfunc) (met : o.meet o' ≠ .object) (typed : Operand.binaryType f o o' = .ok d) :
    d ≠ .object := by
  simp only [Operand.binaryType] at typed
  split at typed
  · cases typed
  · split at typed
    · cases typed
    · cases typed
      simp
    · cases typed
      simp
    · cases typed
      exact met

theorem Value.IsOperand.dense (operand : v.IsOperand) : v.Dense := by
  cases operand <;> exact ⟨rfl, rfl, rfl, fun _ => rfl⟩

theorem Value.IsOperand.typed (operand : v.IsOperand) (reads : (Value.operand v).Yields m o after) : o.Typed := by
  cases operand with
  | array typed number =>
    simp only [Value.operand, exportedView?, exportedBytes?, pure_bind, yields_bind, yields_pure] at reads
    obtain ⟨cells, _, _, rfl, _⟩ := reads
    exact .inl typed
  | element typed n =>
    simp only [Value.operand, exportedView?, exportedBytes?, pure_bind, yields_pure] at reads
    obtain ⟨rfl, _⟩ := reads
    exact .inl typed
  | plain n =>
    simp only [Value.operand, exportedView?, exportedBytes?, pure_bind, yields_pure] at reads
    obtain ⟨rfl, _⟩ := reads
    exact .inr ⟨_, rfl⟩

theorem Value.Counts.isOperand (counts : v.Counts m d shape) (typed : d ≠ .object) : v.IsOperand := by
  cases counts with
  | array _ same _ _ => exact .array (same.trans_ne typed) _
  | single _ => exact .element typed _

theorem binaryUfunc_computes (f : BinaryUfunc) (first : a.IsOperand) (second : b.IsOperand)
    (ran : (binaryUfunc f a b).Yields m v after) : ∃ d shape, d ≠ .object ∧ v.Counts after d shape := by
  simp only [binaryUfunc] at ran
  split at ran
  · simp at ran
  · simp only [yields_bind] at ran
    obtain ⟨o, _, reads, o', _, reads', plan, _, planned, ran⟩ := ran
    obtain ⟨found, _, _, shaped, numeric⟩ := binaryPlan_planned f planned
    have typed := binaryType_ne_object f (meet_ne_object (first.typed reads) (second.typed reads')) found
    exact ⟨plan.dtype, plan.shape, typed, (numeric typed).result typed shaped ran⟩

/-! ### Products of arrays -/

theorem Value.FreeOfObjects.typed (free : v.FreeOfObjects m) (bare : v.isBox = false) (extends_ : m.Extends between)
    (reads : (Value.operand v).Yields between o after) (axes : o.shape ≠ []) : o.dtype ≠ .object := by
  unfold FreeOfObjects at free
  split at free
  · simp only [Value.operand, exportedView?, exportedBytes?, pure_bind, yields_bind, yields_pure] at reads
    obtain ⟨cells, _, _, rfl, _⟩ := reads
    exact free
  · cases bare
  · exact free between o after extends_ reads axes

theorem matmul_computes (first : a.FreeOfObjects m) (second : b.FreeOfObjects m)
    (ran : (Value.matmul a b).Yields m v after) : ∃ d shape, d ≠ .object ∧ v.Counts after d shape := by
  have same := ran
  simp only [Value.matmul] at same
  split at same
  · simp at same
  · rename_i accepted
    have bare (v : Value) (dense : v.refusesElementwise = false) : v.isBox = false := by
      cases v with
      | box => cases dense
      | _ => rfl
    simp only [Bool.or_eq_true, not_or, Bool.not_eq_true] at accepted
    simp only [yields_bind] at same
    obtain ⟨o, between, reads, o', last, reads', plan, _, planned, _⟩ := same
    have further := (operand_adds a).yields reads
    obtain ⟨p, found, _⟩ := (productPlan_planned planned).1.shaped
    obtain ⟨axes, axes'⟩ := make?_axes found
    have typed := first.typed (bare a accepted.1) (.refl m) reads (List.ne_nil_of_length_pos axes)
    have typed' := second.typed (bare b accepted.2) further reads' (List.ne_nil_of_length_pos axes')
    have met := meet_ne_object (.inl typed) (.inl typed')
    obtain ⟨p, _, counts⟩ := matmul_counts reads reads' met ran
    exact ⟨_, _, met, counts⟩

/-! ### Boxes -/

theorem unboxed_free (free : v.FreeOfObjects m) (ran : (unboxed v).Yields m w after) : w.FreeOfObjects after := by
  have extends_ := (unboxed_adds v).yields ran
  cases v with
  | box k view foreign =>
    simp only [unboxed, arrayOf, yields_bind, yields_pure] at ran
    obtain ⟨_, _, _, rfl, _⟩ := ran
    exact free
  | _ =>
    obtain ⟨rfl, rfl⟩ := yields_pure.mp ran
    exact free

theorem newArray_counts {cells : List Cell} (numbers : ∀ cell ∈ cells, cell.IsNumber)
    (ran : (newArray d layout cells).Yields m v after) : ∃ k view, v = .array k view ∧ v.Counts after d layout.shape := by
  simp only [newArray, freshId, yields_bind, yields_pure] at ran
  obtain ⟨view, between, made, k, _, fresh, rfl, rfl⟩ := ran
  obtain ⟨rfl, stored, numbers⟩ := newView_numbers numbers made
  have counts : Value.Counts between d layout.shape (.array k ⟨m.buffers.size, layout, d, true⟩) :=
    .array stored rfl rfl numbers
  exact ⟨_, _, rfl, counts.kept ((Run.allocate_adds _).yields fresh).keepsNumbers⟩

theorem boxed_computes (typed : d ≠ .object) (counts : v.Counts m d shape)
    (ran : (boxed foreign v).Yields m w after) : w.Computed after ∧ w.isBox = true := by
  have taken : (asArray v).Completes m fun u between =>
      ∃ k view, u = .array k view ∧ u.Counts between d shape := by
    cases id counts with
    | array _ _ _ _ => exact completes_pure.mpr ⟨_, _, rfl, counts⟩
    | @single n flat =>
      subst flat
      simp only [asArray, ofOperand, Value.operand, exportedView?, exportedBytes?, pure_bind,
        Operand.single, typed, if_false]
      have one : [Cell.num n].length = (Layout.rowMajor []).size := rfl
      obtain ⟨u, between, made, _⟩ := newArray_completes (m := m) d (Layout.rowMajor_fills []) one
      refine made.completes ?_
      obtain ⟨k, view, rfl, held⟩ := newArray_counts (by simp [Cell.IsNumber]) made
      exact ⟨k, view, rfl, held⟩
  simp only [boxed, yields_bind] at ran
  obtain ⟨u, between, reads, ran⟩ := ran
  obtain ⟨k, view, rfl, held⟩ := reads.completes_iff.mp taken
  simp only [boxOf, yields_bind, yields_pure] at ran
  obtain ⟨_, _, fresh, rfl, rfl⟩ := ran
  exact ⟨.boxed typed (held.kept (freshId_adds.yields fresh).keepsNumbers), rfl⟩

/-! ### Sparse matrices -/

theorem newSparse_computed {s : Sparse} (typed : s.dtype ≠ .object) (ran : (newSparse s).Yields m v after) :
    v.Computed after := by
  simp only [newSparse, newStore, Run.allocate, yields_bind, yields_pure, yields_get, yields_set] at ran
  obtain ⟨_, _, _, k, last, ⟨_, _, ⟨rfl, rfl⟩, _, _, rfl, rfl, rfl⟩, rfl, rfl⟩ := ran
  exact .sparse Array.getElem?_push_size typed

theorem allocate_computed {s : Sparse} (ran : (Sparse.allocate s).Yields m v after) : v.Computed after := by
  unfold Sparse.allocate at ran
  split at ran
  · exact absurd ran yields_fail
  · rename_i typed
    simp only [Bool.or_eq_true, decide_eq_true_eq, not_or] at typed
    exact newSparse_computed typed.1 ran

theorem sparseContent_typed {k : Nat} {o : SparseObject} {s : Sparse} (found : m.objects[k]? = some (.sparse o))
    (reads : (sparseContent k).Yields m s after) : s.dtype = o.dtype := by
  have held : (sparseObject k).Yields m o m := by
    simp [sparseObject, Run.object, Array.getD_eq_getD_getElem?, found]
  simp only [sparseContent, yields_bind, yields_pure] at reads
  obtain ⟨_, _, again, _, _, _, rfl, _⟩ := reads
  obtain ⟨rfl, _⟩ := held.eq again
  rfl

theorem product_numbers {x y : Bool} {r : Operand} (ran : (Sparse.product x y o o').Yields m r after) :
    r.dtype ≠ .object ∧ ∀ cell ∈ r.cells, cell.IsNumber := by
  simp only [Sparse.product] at ran
  split at ran
  · simp at ran
  · split at ran
    · exact absurd ran yields_fail
    · split at ran
      · simp at ran
      · rename_i typed
        obtain ⟨rfl, _⟩ := yields_pure.mp ran
        simp only [Bool.or_eq_true, decide_eq_true_eq, not_or] at typed
        refine ⟨promote_ne_object _ _ typed.1 typed.2, ?_⟩
        intro cell member
        simp only [List.mem_flatMap, List.mem_map] at member
        obtain ⟨row, _, column, _, rfl⟩ := member
        exact ⟨_, rfl⟩

theorem newArray_computed {cells : List Cell} (typed : d ≠ .object) (numbers : ∀ cell ∈ cells, cell.IsNumber)
    (ran : (newArray d layout cells).Yields m v after) : v.Computed after := by
  obtain ⟨_, _, _, counts⟩ := newArray_counts numbers ran
  exact .numbers typed counts

theorem element_computed {cell : Cell} (typed : d ≠ .object) (number : cell.IsNumber) (m : Memory) :
    (element d cell).Computed m := by
  obtain ⟨n, rfl⟩ := number
  simp only [element, typed, if_false]
  exact .numbers typed (.single rfl)

theorem matmulSparse_computed {s t : Sparse} (ran : (s.matmulSparse t).Yields m v after) : v.Computed after := by
  simp only [Sparse.matmulSparse, yields_bind] at ran
  obtain ⟨r, between, multiplied, ran⟩ := ran
  obtain ⟨typed, numbers⟩ := product_numbers multiplied
  split at ran
  · exact newArray_computed typed numbers ran
  · exact allocate_computed ran

theorem productValue_computed {s : Sparse} {dense r : Operand} (typed : r.dtype ≠ .object)
    (numbers : ∀ cell ∈ r.cells, cell.IsNumber) (ran : (s.productValue dense r layout).Yields m v after) :
    v.Computed after := by
  unfold Sparse.productValue at ran
  split at ran
  · rename_i alone
    obtain ⟨rfl, _⟩ := yields_pure.mp ran
    exact element_computed typed (numbers _ (by simp [alone])) _
  · rename_i alone
    split at ran
    · obtain ⟨rfl, _⟩ := yields_pure.mp ran
      exact element_computed typed (numbers _ (by simp [alone])) _
    · exact newArray_computed typed (by simpa [alone] using numbers) ran
  · exact newArray_computed typed numbers ran

theorem sparseMatmul_computed {s : Sparse} (ran : (s.matmul b).Yields m v after) : v.Computed after := by
  unfold Sparse.matmul at ran
  split at ran
  · simp only [yields_bind] at ran
    obtain ⟨_, _, _, ran⟩ := ran
    exact matmulSparse_computed ran
  · simp only [yields_bind] at ran
    obtain ⟨_, _, _, r, _, multiplied, ran⟩ := ran
    obtain ⟨typed, numbers⟩ := product_numbers multiplied
    exact productValue_computed typed numbers ran

theorem matmulFrom_computed {s : Sparse} (ran : (s.matmulFrom a).Yields m v after) : v.Computed after := by
  simp only [Sparse.matmulFrom, yields_bind] at ran
  obtain ⟨_, _, _, r, _, multiplied, ran⟩ := ran
  obtain ⟨typed, numbers⟩ := product_numbers multiplied
  exact productValue_computed typed numbers ran

theorem arrayResult_computed (typed : plan.dtype ≠ .object)
    (gives : ∀ step ∈ plan.steps, ∀ m cell after, step.Yields m cell after → cell.IsNumber)
    (ran : plan.arrayResult.Yields m v after) : v.Computed after := by
  simp only [Plan.arrayResult, yields_bind] at ran
  obtain ⟨cells, _, computed, ran⟩ := ran
  exact newArray_computed typed (mapM_gives plan.steps gives computed) ran

theorem Plan.IsNumeric.gives (numeric : plan.IsNumeric) :
    ∀ step ∈ plan.steps, ∀ m cell after, step.Yields m cell after → cell.IsNumber := by
  intro step member m cell after ran
  obtain ⟨n, rfl⟩ := numeric step member
  exact ⟨n, (yields_pure.mp ran).1.symm⟩

theorem plusDense_computed {s : Sparse} (typed : s.dtype ≠ .object) (other : o.Typed)
    (ran : (s.plusDense o).Yields m v after) : v.Computed after := by
  have own : s.operand.Typed := .inl typed
  unfold Sparse.plusDense at ran
  split at ran
  · simp only [yields_bind] at ran
    obtain ⟨plan, _, planned, ran⟩ := ran
    obtain ⟨found, _, _, _, numeric⟩ := binaryPlan_planned .add planned
    have typed := binaryType_ne_object .add (meet_ne_object own other) found
    exact arrayResult_computed typed (numeric typed).gives ran
  · simp only [yields_bind] at ran
    obtain ⟨fitting, _, fits, ran⟩ := ran
    have kept : fitting.Typed := by
      unfold Sparse.fitted at fits
      split at fits
      · obtain ⟨rfl, _⟩ := yields_pure.mp fits
        exact other
      · exact absurd fits yields_fail
    split at ran
    · simp at ran
    · simp only [yields_bind] at ran
      obtain ⟨sum, _, planned, ran⟩ := ran
      obtain ⟨found, _, _, _, numeric⟩ := binaryPlan_planned .add planned
      have typed := binaryType_ne_object .add (meet_ne_object own kept) found
      refine arrayResult_computed (by exact typed) ?_ ran
      -- where nothing is stored the other summand is only cast
      intro step member m cell after computed
      rw [← List.map_uncurry_zip_eq_zipWith] at member
      obtain ⟨⟨entry, given, planned⟩, there, rfl⟩ := List.mem_map.mp member
      change (if entry.isSome = true then planned else castCell sum.dtype given).Yields m cell after at computed
      split at computed
      · exact (numeric typed).gives planned (List.of_mem_zip (List.of_mem_zip there).2).2 _ _ _ computed
      · exact castCell_isNumber typed computed

theorem plus_computed {s : Sparse} (typed : s.dtype ≠ .object) (operand : b.IsOperand)
    (ran : (s.plus b).Yields m v after) : v.Computed after := by
  have same : s.plus b = (if b.isScalarLike then
      if s.format = .dok then s.plusEach b
      else do if ← isNothing b then newSparse s else fail .notImplemented
    else if b.isDense then do s.plusDense (← Value.operand b) else fail .type) := by
    cases operand <;> rfl
  rw [same] at ran
  split at ran
  · split at ran
    · simp only [Sparse.plusEach, yields_bind] at ran
      obtain ⟨_, _, _, _, _, _, _, _, _, ran⟩ := ran
      exact allocate_computed ran
    · simp only [yields_bind] at ran
      obtain ⟨nothing, _, _, ran⟩ := ran
      split at ran
      · exact newSparse_computed typed ran
      · exact absurd ran yields_fail
  · split at ran
    · simp only [yields_bind] at ran
      obtain ⟨o, _, reads, ran⟩ := ran
      exact plusDense_computed typed (operand.typed reads) ran
    · exact absurd ran yields_fail

/-! ### Operators -/

theorem boxBinary_computed {op : BinaryOp} (ran : (boxBinary op a b).Yields m v after)
    (dense : ∀ x y w between last, (unboxed a).Yields m x between → (unboxed b).Yields between y last →
      ∀ later, (arrayBinary op x y).Yields last w later → ∃ d shape, d ≠ .object ∧ w.Counts later d shape) :
    v.Computed after ∧ v.isBox = true := by
  simp only [boxBinary, yields_bind] at ran
  obtain ⟨x, _, unboxes, y, _, unboxes', w, _, made, ran⟩ := ran
  obtain ⟨d, shape, typed, counts⟩ := dense x y w _ _ unboxes unboxes' _ made
  exact boxed_computes typed counts ran

theorem numeric_matMult (x y : Numeric) : ∃ fault, Numeric.binary .matMult x y = .error fault := by
  unfold Numeric.binary
  split
  all_goals try exact ⟨_, rfl⟩
  all_goals
    split
    · exact ⟨_, rfl⟩
    · first
      | exact ⟨_, rfl⟩
      | simp only [bind, Except.bind]
        split <;> exact ⟨_, rfl⟩

theorem matMult_computed (first : a.FreeOfObjects m) (second : b.FreeOfObjects m)
    (ran : (Value.binary .matMult a b).Yields m v after) : v.Computed after := by
  have dense {a b v : Value} {m after : Memory} (first : a.FreeOfObjects m) (second : b.FreeOfObjects m)
      (ran : (arrayBinary .matMult a b).Yields m v after) : ∃ d shape, d ≠ .object ∧ v.Counts after d shape := by
    simp only [arrayBinary, if_true] at ran
    split at ran
    · exact matmul_computes first second ran
    · exact absurd ran yields_fail
  unfold Value.binary at ran
  split at ran
  · refine (boxBinary_computed ran fun x y w between last unboxes unboxes' later made => ?_).1
    have further := (unboxed_adds a).yields unboxes
    have more := (unboxed_adds b).yields unboxes'
    exact dense ((unboxed_free first unboxes).later more) (unboxed_free (second.later further) unboxes') made
  · split at ran
    · unfold sparseBinary at ran
      split at ran
      · simp only [yields_bind] at ran
        obtain ⟨s, _, _, ran⟩ := ran
        split at ran
        · exact absurd ran yields_fail
        · exact sparseMatmul_computed ran
      · simp only [yields_bind] at ran
        obtain ⟨s, _, _, ran⟩ := ran
        split at ran
        · exact absurd ran yields_fail
        · exact matmulFrom_computed ran
      · exact absurd ran yields_fail
    · unfold denseBinary at ran
      split at ran
      · obtain ⟨d, shape, typed, counts⟩ := dense first second ran
        exact .numbers typed counts
      · -- plain values have no such product
        unfold plainBinary at ran
        split at ran
        · rename_i x y _ _
          obtain ⟨fault, refused⟩ := numeric_matMult x y
          simp [refused] at ran
        · exact absurd ran yields_fail

theorem arrayBinary_computes {op : BinaryOp} (meant : Value.elementwise? op = some f) (first : a.IsOperand)
    (second : b.IsOperand) (numeric : a.isNumeric = true ∨ b.isNumeric = true)
    (ran : (arrayBinary op a b).Yields m v after) : ∃ d shape, d ≠ .object ∧ v.Counts after d shape := by
  have same : Value.binary op a b = arrayBinary op a b := by
    simp [Value.binary, denseBinary, first.dense.unboxed, second.dense.unboxed, first.dense.full,
      second.dense.full, numeric]
  rw [← same, binary_dense op meant first.dense second.dense numeric] at ran
  exact binaryUfunc_computes f first second ran

theorem Value.MayBeBoxed.unboxed (operand : a.MayBeBoxed) (ran : (Value.unboxed a).Yields m w after) :
    w.IsOperand ∧ (a.isBox = true → w.isNumeric = true) := by
  cases operand with
  | bare operand =>
    have plain : Value.unboxed a = pure a := by cases operand <;> rfl
    rw [plain, yields_pure] at ran
    obtain ⟨rfl, _⟩ := ran
    refine ⟨operand, fun box => ?_⟩
    rw [operand.dense.unboxed] at box
    cases box
  | box typed k foreign =>
    simp only [Value.unboxed, arrayOf, yields_bind, yields_pure] at ran
    obtain ⟨_, _, _, rfl, _⟩ := ran
    exact ⟨.array typed _, fun _ => rfl⟩

theorem boxedBinary_computed {op : BinaryOp} (meant : Value.elementwise? op = some f) (first : a.MayBeBoxed)
    (second : b.MayBeBoxed) (box : a.isBox = true ∨ b.isBox = true)
    (ran : (Value.binary op a b).Yields m v after) : v.Computed after ∧ v.isBox = true := by
  have same : Value.binary op a b = boxBinary op a b := by
    rw [Value.binary, if_pos (by simpa using box)]
  rw [same] at ran
  refine boxBinary_computed ran fun x y w between last unboxes unboxes' later made => ?_
  obtain ⟨operand, numeric⟩ := first.unboxed unboxes
  obtain ⟨operand', numeric'⟩ := second.unboxed unboxes'
  exact arrayBinary_computes meant operand operand' (box.imp numeric numeric') made

theorem Value.Computed.mayBeBoxed (computed : v.Computed m) (full : v.isSparse = false) : v.MayBeBoxed := by
  cases computed with
  | numbers typed counts => exact .bare (counts.isOperand typed)
  | boxed typed counts =>
    cases counts with
    | array _ same _ _ => exact .box (same.trans_ne typed) _ _
  | sparse _ _ => cases full

theorem sparseAdd_computed {k : Nat} {c : SparseObject} (found : m.objects[k]? = some (.sparse c))
    (typed : c.dtype ≠ .object) (second : b.MayBeBoxed) (ran : (Value.binary .add (.sparse k) b).Yields m v after) :
    v.Computed after := by
  cases second with
  | bare operand =>
    have same : Value.binary .add (.sparse k) b = (do (← sparseContent k).plus b) := by cases operand <;> rfl
    rw [same, yields_bind] at ran
    obtain ⟨s, _, reads, ran⟩ := ran
    exact plus_computed ((sparseContent_typed found reads).trans_ne typed) operand ran
  | box typed' i foreign =>
    simp only [Value.binary, isBox, Bool.or_true, if_true, boxBinary, unboxed, arrayOf, pure_bind,
      bind_assoc, yields_bind] at ran
    obtain ⟨_, _, _, _, _, refused, _⟩ := ran
    simp [arrayBinary, arrayBinary.elementwise, Value.elementwise?, softened, binaryUfunc,
      refusesElementwise] at refused

theorem add_computed (first : a.Computed m) (second : b.MayBeBoxed) (numeric : b.isBox = true ∨ b.isNumeric = true)
    (ran : (Value.binary .add a b).Yields m v after) : v.Computed after := by
  have meant : Value.elementwise? .add = some .add := rfl
  cases sparse : a.isSparse with
  | true =>
    cases first with
    | numbers typed counts => cases counts <;> cases sparse
    | boxed typed counts => cases sparse
    | sparse found typed => exact sparseAdd_computed found typed second ran
  | false =>
    have operand := first.mayBeBoxed sparse
    by_cases box : a.isBox = true ∨ b.isBox = true
    · exact (boxedBinary_computed meant operand second box ran).1
    · rcases operand with operand | _
      · rcases second with operand' | _
        · have typed := numeric.resolve_left fun boxed => box (.inr boxed)
          rw [binary_dense .add meant operand.dense operand'.dense (.inr typed)] at ran
          obtain ⟨d, shape, typed, counts⟩ := binaryUfunc_computes .add operand operand' ran
          exact .numbers typed counts
        · exact absurd (.inr rfl) box
      · exact absurd (.inl rfl) box

theorem Value.Computed.mayBeBoxed_of_box (computed : v.Computed m) (box : v.isBox = true) : v.MayBeBoxed := by
  refine computed.mayBeBoxed ?_
  cases v with
  | sparse => cases box
  | _ => rfl

theorem times_mayBeBoxed (n : Int) (second : b.MayBeBoxed) (numeric : b.isBox = true ∨ b.isNumeric = true)
    (ran : (Value.binary .mult (.int n) b).Yields m v after) :
    v.MayBeBoxed ∧ (v.isBox = true ∨ v.isNumeric = true) := by
  have meant : Value.elementwise? .mult = some .multiply := rfl
  cases id second with
  | bare operand =>
    have typed := numeric.resolve_left (by simp [operand.dense.unboxed])
    rw [int, binary_dense .mult meant (IsOperand.plain n).dense operand.dense (.inr typed)] at ran
    obtain ⟨d, shape, typed, counts⟩ := binaryUfunc_computes .multiply (.plain n) operand ran
    refine ⟨.bare (counts.isOperand typed), .inr ?_⟩
    cases counts <;> rfl
  | box typed k foreign =>
    obtain ⟨computed, box⟩ := boxedBinary_computed meant (.bare (.plain n)) second (.inr rfl) ran
    exact ⟨computed.mayBeBoxed_of_box box, .inl box⟩

end
end Rebind
