import Rebind.Proofs.SparseWords
/-!
Products written into a target. An array, a box and a sparse matrix get them in different ways, with or without scaling,
directly or by way of new arrays or matrices. All of them end with `alpha * (a @ b) + beta * c` in integers of the type,
computed from what was there at the start.
-/
namespace Rebind

open Number Strided Syntax Value Run

/-- `alpha * (a @ b) + beta * c` in integers of the type, row by row. -/
def Strided.DType.gemm (d : DType) (r k n : Nat) (alpha beta : Int) (xs ys cs : List Int) : List Int :=
  (List.range r ×ˢ List.range n).map fun (i, j) =>
    d.wrap (alpha * innerSum k n xs ys i j + beta * cs.getD (i * n + j) 0)

/-- An array, a box or a sparse matrix that contains these numbers and is open to writing. -/
inductive Value.Accepts (m : Memory) (d : DType) (shape : Shape) (cs : List Int) : Value → Prop
  | array {number : Nat} {view : View} (bears : Value.Bears m d shape cs (.array number view)) (placed : view.Placed m)
      (writeable : view.writeable = true) : Accepts m d shape cs (.array number view)
  | box {number : Nat} {view : View} {foreign : Bool} (bears : Value.Bears m d shape cs (.array number view))
      (placed : view.Placed m) (writeable : view.writeable = true) : Accepts m d shape cs (.box number view foreign)
  | sparse {k : Nat} {o : SparseObject} {content : Array (Option Cell)} (matrix : m.Matrix k o content)
      (bears : (o.shown content).Bears d shape cs) (placed : o.Placed content) (writable : o.format.isWritable = true) :
      Accepts m d shape cs (.sparse k)

/-- A result is a box if one of the operands is, and sparse only if one of them is. -/
def Value.Blends (a b v : Value) : Prop :=
  v.isBox = (a.isBox || b.isBox) ∧ (v.isSparse = true → a.isSparse = true ∨ b.isSparse = true)

section
variable {m between after : Memory} {d : DType} {a b c v w : Value} {view : View} {shape s t : Shape} {op : BinaryOp}
  {xs ys cs zs : List Int} {r k n : Nat} {alpha beta : Int}

/-! ### The reference -/

theorem map_getD_product (cs : List Int) (r n : Nat) (count : cs.length = r * n) :
    ((List.range r ×ˢ List.range n).map fun (i, j) => cs.getD (i * n + j) 0) = cs := by
  simp only [SProd.sprod, List.product, List.map_flatMap, List.map_map, Function.comp_def]
  induction r generalizing cs with
  | zero =>
    rw [Nat.zero_mul] at count
    rw [List.length_eq_zero_iff.mp count]
    rfl
  | succ r ih =>
    have first : ((List.range n).map fun j => cs.getD (0 * n + j) 0) = cs.take n := by
      refine List.ext_getElem (by simp [count, Nat.succ_mul]) fun j inside inside' => ?_
      have bound : j < cs.length := (List.length_take ▸ inside').trans_le (Nat.min_le_right _ _)
      simp [bound]
    have rest := ih (cs.drop n) (by rw [List.length_drop, count, Nat.succ_mul, Nat.add_sub_cancel])
    have moved (i j : Nat) : cs.getD (i.succ * n + j) 0 = (cs.drop n).getD (i * n + j) 0 := by
      rw [List.getD_eq_getElem?_getD, List.getD_eq_getElem?_getD, List.getElem?_drop, Nat.succ_mul]
      congr 2
      omega
    rw [List.range_succ_eq_map, List.flatMap_cons, List.flatMap_map, first]
    simp only [moved, rest, List.take_append_drop]

theorem gemm_eq (integer : d.kind = .integer) (r k n : Nat) (alpha beta : Int) (xs ys cs : List Int)
    (count : cs.length = Shape.size [r, n]) :
    List.zipWith (d.onWords .add) ((d.products r k n xs ys).map (d.onWords .multiply alpha))
      (cs.map (d.onWords .multiply beta)) = d.gemm r k n alpha beta xs ys cs := by
  have size : cs.length = r * n := by simpa [Layout.size_cons, Layout.size_nil] using count
  conv_lhs => rw [← map_getD_product cs r n size]
  rw [DType.products, List.map_map, List.map_map, List.zipWith_map, List.zipWith_self, DType.gemm]
  refine List.map_congr_left fun p _ => ?_
  simp only [Function.comp_apply, DType.onWords, wrap_mul integer, wrap_add integer]

theorem zipWith_add_nothing (held : ∀ x ∈ xs, d.holds x = true) (count : xs.length = cs.length) :
    List.zipWith (d.onWords .add) xs (cs.map (d.onWords .multiply 0)) = xs := by
  refine List.ext_getElem (by simp [count]) fun i _ inside => ?_
  rw [List.getElem_zipWith, List.getElem_map, DType.onWords, DType.onWords, Int.zero_mul, wrap_zero, Int.add_zero]
  exact (holds_iff _).mp (held _ (List.getElem_mem inside))

/-! ### Values -/

theorem Value.Contains.later (contains : v.Contains m d shape xs) (extends_ : m.Extends after) :
    v.Contains after d shape xs := by
  cases contains with
  | array bears => exact .array (bears.grown extends_.toChanges)
  | box bears => exact .box (bears.grown extends_.toChanges)
  | sparse matrix bears => exact .sparse (matrix.later extends_) bears

theorem Value.Bears.contains (bears : v.Bears m d shape xs) (axes : shape ≠ []) :
    v.Contains m d shape xs ∧ v.isDense = true := by
  cases id bears with
  | array => exact ⟨.array bears, rfl⟩
  | single flat => exact absurd flat axes

theorem Value.Contains.count (contains : v.Contains m d shape xs) : xs.length = Shape.size shape := by
  cases contains with
  | array bears | box bears | sparse _ bears => exact bears.count

theorem Value.Contains.unboxed (contains : v.Contains m d shape xs) (full : v.isSparse = false) :
    (unboxed v).Completes m fun w after => m.Extends after ∧ ∃ number view, w = .array number view ∧
      w.Bears after d shape xs := by
  cases contains with
  | array bears => exact completes_pure.mpr ⟨.refl _, _, _, rfl, bears⟩
  | @box _ view _ bears =>
    obtain ⟨_, after, made, grows, rfl, known⟩ := arrayOf_completes view m
    refine made.completes ⟨(arrayOf_adds view).yields made, _, _, rfl, ?_⟩
    cases bears.grown grows with
    | array _ stored typed shaped shown held => exact .array known stored typed shaped shown held
  | sparse => cases full

theorem boxed_brings (bears : Value.Bears m d shape xs (.array number view)) (foreign : Bool) :
    (boxed foreign (.array number view)).Brings m d shape xs fun v => v.isBox = true ∧ v.isSparse = false := by
  obtain ⟨fresh, after, made, grows, rfl, known⟩ := allocate_completes .token m
  have ran : (boxed foreign (.array number view)).Yields m (.box m.objects.size view foreign) after :=
    yields_bind.mpr ⟨_, _, yields_pure.mpr ⟨rfl, rfl⟩, yields_bind.mpr ⟨_, _, made, yields_pure.mpr ⟨rfl, rfl⟩⟩⟩
  refine ran.completes ⟨(boxed_adds _ _).yields ran, .box ?_, rfl, rfl⟩
  cases bears.grown grows with
  | array _ stored typed shaped shown held => exact .array known stored typed shaped shown held

/-! ### Operators -/

theorem Run.Completes.brings {run : Run Value} {kinds : Value → Prop} (adds : run.Adds) (axes : shape ≠ [])
    (completes : run.Completes m fun v after => m.Grows after ∧ v.Bears after d shape zs)
    (fine : ∀ v, v.isDense = true → kinds v) : run.Brings m d shape zs kinds := by
  obtain ⟨v, after, ran, _, bears⟩ := completes
  obtain ⟨contains, dense⟩ := bears.contains axes
  exact ran.completes ⟨adds.yields ran, contains, fine v dense⟩

theorem blends_of_dense (dense : v.isDense = true) (bare : (a.isBox || b.isBox) = false) : a.Blends b v := by
  cases v with
  | array => exact ⟨bare.symm, fun wrong => by cases wrong⟩
  | _ => cases dense

theorem boxBinary_brings (boxes : (a.isBox || b.isBox) = true) (axes : shape ≠ [])
    (first : (unboxed a).Completes m fun v after => m.Extends after ∧ (unboxed b).Completes after fun w last =>
      after.Extends last ∧ (arrayBinary op v w).Completes last fun u end_ => last.Grows end_ ∧ u.Bears end_ d shape zs) :
    (Value.binary op a b).Brings m d shape zs fun v => v.isBox = true ∧ v.isSparse = false := by
  obtain ⟨foreign, same⟩ : ∃ foreign, boxBinary op a b = (do
      boxed foreign (← arrayBinary op (← unboxed a) (← unboxed b))) := ⟨_, rfl⟩
  rw [Brings, Value.binary, boxes, if_pos rfl, same]
  simp only [completes_bind]
  refine first.imp ?_
  rintro v between ⟨grown, second⟩
  refine second.imp ?_
  rintro w later ⟨further, computes⟩
  obtain ⟨u, last, ran, _, bears⟩ := computes
  refine ran.completes ?_
  obtain ⟨contains, dense⟩ := bears.contains axes
  cases contains with
  | array bears =>
    refine Completes.imp (boxed_brings bears foreign) fun v after made => ⟨?_, made.2⟩
    exact ((grown.trans further).trans ((arrayBinary_adds op _ _).yields ran)).trans made.1
  | _ => cases dense

theorem denseBinary_brings (first : a.Contains m d s xs) (second : b.Contains m d t ys) (full : a.isSparse = false)
    (full' : b.isSparse = false) (axes : shape ≠ [])
    (arrays : ∀ between i left j right, Value.Bears between d s xs (.array i left) →
      Value.Bears between d t ys (.array j right) → (Value.binary op (.array i left) (.array j right)).Completes between
        fun v after => between.Grows after ∧ v.Bears after d shape zs) :
    (Value.binary op a b).Brings m d shape zs (a.Blends b) := by
  cases boxes : a.isBox || b.isBox with
  | false =>
    rw [Bool.or_eq_false_iff] at boxes
    cases first with
    | array bears =>
      cases second with
      | array bears' =>
        exact (arrays m _ _ _ _ bears bears').brings (binary_adds _ _ _) axes fun v dense => blends_of_dense dense rfl
      | box => cases boxes.2
      | sparse => cases full'
    | box => cases boxes.1
    | sparse => cases full
  | true =>
    refine Completes.imp (boxBinary_brings boxes axes ((first.unboxed full).imp ?_)) fun v after made =>
      ⟨made.1, made.2.1, by simp [Blends, made.2.2, boxes]⟩
    rintro _ between ⟨grown, i, left, rfl, bears⟩
    refine ⟨grown, ((second.later grown).unboxed full').imp ?_⟩
    rintro _ last ⟨further, j, right, rfl, bears'⟩
    exact ⟨further, arrays last i left j right (bears.grown further.toChanges) bears'⟩

theorem Run.Brings.blends {run : Run Value} (brings : run.Brings m d shape zs fun v => v.isBox = false)
    (bare : (a.isBox || b.isBox) = false) (sparse : a.isSparse = true ∨ b.isSparse = true) :
    run.Brings m d shape zs (a.Blends b) :=
  Completes.imp brings fun _ _ made => ⟨made.1, made.2.1, made.2.2.trans bare.symm, fun _ => sparse⟩

theorem Value.Bears.isScalarLike (bears : Value.Bears m d shape xs (.array number view)) (axes : shape ≠ []) :
    (Value.array number view).isScalarLike = false := by
  simp [Value.isScalarLike, bears.shaped, axes]

section
variable (integer : d.kind = .integer)
include integer

theorem times_brings (held : d.holds alpha = true) (axes : shape ≠ []) (contains : v.Contains m d shape xs) :
    (Value.binary .mult (.num (.int alpha)) v).Brings m d shape (xs.map (d.onWords .multiply alpha))
      (Blends (.num (.int alpha)) v) := by
  have times (m : Memory) (i : Nat) (view : View) (bears : Value.Bears m d shape xs (.array i view)) :=
    (times_completes integer held bears).imp fun _ _ made => And.intro made.1 made.2.1
  cases id contains with
  | array bears =>
    exact (times m _ _ bears).brings (binary_adds _ _ _) axes fun v dense => blends_of_dense dense rfl
  | box bears =>
    refine Completes.imp (boxBinary_brings rfl axes (completes_pure.mpr ⟨.refl _, (contains.unboxed rfl).imp ?_⟩))
      fun v after made => ⟨made.1, made.2.1, made.2.2.1, fun wrong => by rw [made.2.2.2] at wrong; cases wrong⟩
    rintro _ last ⟨further, i, view, rfl, bears⟩
    exact ⟨further, times last i view bears⟩
  | sparse matrix bears =>
    change (sparseContent _ >>= fun s => if s.isMatrix then s.scale (.num (.int alpha)) else
      s.scale (.num (.int alpha))).Brings _ _ _ _ _
    rw [Brings, completes_bind, matrix.reads.completes_iff, ite_self]
    exact (scale_brings integer held bears).blends rfl (.inr rfl)

theorem matMult_brings (first : a.Contains m d [r, k] xs) (second : b.Contains m d [k, n] ys)
    (apart : (a.isBox || b.isBox) = true → a.isSparse = false ∧ b.isSparse = false) :
    (Value.binary .matMult a b).Brings m d [r, n] (d.products r k n xs ys) (a.Blends b) := by
  have fits : ProductShape.make? [r, k] [k, n] = some ⟨[], r, k, n, false, false⟩ := by
    simp [ProductShape.make?, ProductShape.split?]
  have dense (full : a.isSparse = false) (full' : b.isSparse = false) :
      (Value.binary .matMult a b).Brings m d [r, n] (d.products r k n xs ys) (a.Blends b) :=
    denseBinary_brings first second full full' (by simp) fun between i left j right bears bears' => by
      rw [← productWords_eq integer]
      exact (matMult_completes integer bears bears' fits).imp fun _ _ made => ⟨made.1, made.2.1⟩
  cases id first with
  | sparse matrix bears =>
    cases id second with
    | sparse matrix' bears' =>
      refine Brings.blends ?_ rfl (.inl rfl)
      change (sparseContent _ >>= fun s => sparseContent _ >>= fun t => s.matmulSparse t).Brings _ _ _ _ _
      rw [Brings, completes_bind, matrix.reads.completes_iff, completes_bind, matrix'.reads.completes_iff]
      exact matmulSparse_brings integer bears bears'
    | @array j right bears' =>
      refine Brings.blends ?_ rfl (.inl rfl)
      change (sparseContent _ >>= fun s => if (array j right).isScalarLike then fail .value else
        s.matmul (.array j right)).Brings _ _ _ _ _
      rw [Brings, completes_bind, matrix.reads.completes_iff, bears'.isScalarLike (by simp)]
      exact sparseMatmul_brings integer bears bears'
    | box => cases (apart rfl).1
  | @array i left bears =>
    cases id second with
    | sparse matrix bears' =>
      refine Brings.blends ?_ rfl (.inr rfl)
      change (sparseContent _ >>= fun s => if (array i left).isScalarLike then fail .value else
        s.matmulFrom (.array i left)).Brings _ _ _ _ _
      rw [Brings, completes_bind, matrix.reads.completes_iff, bears.isScalarLike (by simp)]
      exact matmulFrom_brings integer bears bears'
    | _ => exact dense rfl rfl
  | box =>
    cases id second with
    | sparse => cases (apart rfl).2
    | _ => exact dense rfl rfl

theorem plus_brings {s : Sparse} (first : s.Bears d [r, n] xs) (second : Value.Bears m d [r, n] ys (.array j right)) :
    (s.plus (.array j right)).Brings m d [r, n] (List.zipWith (d.onWords .add) xs ys) fun v => v.isDense = true := by
  simp only [Brings, Sparse.plus, second.isScalarLike (by simp), Bool.false_eq_true, if_false, Value.isDense, if_true,
    completes_bind]
  refine second.operand.imp ?_
  rintro o _ ⟨rfl, borne, firm, typed⟩
  exact plusDense_brings integer first borne typed firm

theorem add_brings (first : a.Contains m d [r, n] xs) (second : b.Contains m d [r, n] ys)
    (apart : (a.isBox || b.isBox) = true → a.isSparse = false ∧ b.isSparse = false) :
    (Value.binary .add a b).Brings m d [r, n] (List.zipWith (d.onWords .add) xs ys) (a.Blends b) := by
  have dense (full : a.isSparse = false) (full' : b.isSparse = false) :
      (Value.binary .add a b).Brings m d [r, n] (List.zipWith (d.onWords .add) xs ys) (a.Blends b) :=
    denseBinary_brings first second full full' (by simp) fun between i left j right bears bears' => by
      refine (add_completes integer bears bears' (Layout.broadcastShapes_self _)).imp fun v after made => ⟨made.1, ?_⟩
      rw [stretch_self bears.count, stretch_self bears'.count] at made
      exact made.2.1
  cases id first with
  | sparse matrix bears =>
    cases id second with
    | sparse matrix' bears' =>
      refine Brings.blends ?_ rfl (.inl rfl)
      change (sparseContent _ >>= fun s => sparseContent _ >>= fun t => s.sumSparse .add t).Brings _ _ _ _ _
      rw [Brings, completes_bind, matrix.reads.completes_iff, completes_bind, matrix'.reads.completes_iff]
      exact sumSparse_brings integer bears bears'
    | @array j right bears' =>
      change (sparseContent _ >>= fun s => s.plus (.array j right)).Brings _ _ _ _ _
      rw [Brings, completes_bind, matrix.reads.completes_iff]
      exact Completes.imp (plus_brings integer bears bears') fun v after made =>
        ⟨made.1, made.2.1, blends_of_dense made.2.2 rfl⟩
    | box => cases (apart rfl).1
  | @array i left bears =>
    cases id second with
    | sparse matrix bears' =>
      change (sparseContent _ >>= fun s => s.plus (.array i left)).Brings _ _ _ _ _
      rw [Brings, completes_bind, matrix.reads.completes_iff, zipWith_add_comm]
      exact Completes.imp (plus_brings integer bears' bears) fun v after made =>
        ⟨made.1, made.2.1, blends_of_dense made.2.2 rfl⟩
    | _ => exact dense rfl rfl
  | box =>
    cases id second with
    | sparse => cases (apart rfl).2
    | _ => exact dense rfl rfl

theorem scaledProduct_brings (held : d.holds alpha = true) (first : a.Contains m d [r, k] xs)
    (second : b.Contains m d [k, n] ys)
    (apart : (a.isBox || b.isBox) = true → a.isSparse = false ∧ b.isSparse = false) :
    (scaledProduct a b (.num (.int alpha))).Brings m d [r, n]
      ((d.products r k n xs ys).map (d.onWords .multiply alpha)) (a.Blends b) := by
  rw [Brings, scaledProduct, completes_bind]
  refine Completes.imp (matMult_brings integer first second apart) fun product between made => ?_
  obtain ⟨grown, contains, blends⟩ := made
  rw [differs_whole, pure_bind]
  split
  · refine Completes.imp (times_brings integer held (by simp) contains) fun v after scaled => ?_
    exact ⟨grown.trans scaled.1, scaled.2.1, scaled.2.2.1.trans blends.1,
      fun sparse => blends.2 ((scaled.2.2.2 sparse).resolve_left (by simp [isSparse]))⟩
  · rename_i same
    simp only [decide_eq_true_eq, ne_eq, not_not] at same
    rw [completes_pure, same, map_once (products_held integer r k n xs ys)]
    exact ⟨grown, contains, blends⟩

end

/-! ### Targets -/

theorem Value.Accepts.contains (target : c.Accepts m d shape cs) : c.Contains m d shape cs := by
  cases target with
  | array bears => exact .array bears
  | box bears => exact .box bears
  | sparse matrix bears => exact .sparse matrix bears

theorem Value.Accepts.later (target : c.Accepts m d shape cs) (extends_ : m.Extends after) : c.Accepts after d shape cs := by
  have grows := extends_.toChanges
  cases target with
  | array bears placed writeable => exact .array (bears.grown grows) (placed.later grows) writeable
  | box bears placed writeable => exact .box (bears.grown grows) (placed.later grows) writeable
  | sparse matrix bears placed writable => exact .sparse (matrix.later extends_) bears placed writable

theorem setItem_accepted (integer : d.kind = .integer) (target : c.Accepts m d shape cs) (full : c.isSparse = false)
    (given : v.Contains m d shape zs) (full' : v.isSparse = false) (boxes : v.isBox = true → c.isBox = true) :
    (setItem c .ellipsis v).Completes m fun _ after => c.Contains after d shape zs := by
  have spread := stretchOver?_self given.count
  cases target with
  | array bears placed writeable =>
    cases given with
    | array bears' =>
      exact (setItem_completes integer bears placed writeable bears' spread).imp fun _ after written => .array written.2
    | box => cases boxes rfl
    | sparse => cases full'
  | @box number view foreign bears placed writeable =>
    have same : setItem (.box number view foreign) .ellipsis v = unboxed v >>= Value.assign view := by
      simp [setItem, select, selectView]
    rw [same, completes_bind]
    refine (given.unboxed full').imp ?_
    rintro _ between ⟨grown, i, other, rfl, bears'⟩
    have assigned : Value.assign view (.array i other) = setItem (.array number view) .ellipsis (.array i other) := by
      simp [setItem, select, selectView, isBox]
    rw [assigned]
    exact (setItem_completes integer (bears.grown grown.toChanges) (placed.later grown.toChanges) writeable bears'
      spread).imp fun _ after written => .box written.2
  | sparse => cases full

theorem total_completes {next : Value → Run Value} {post : Value → Memory → Prop} (kinds : Value → Prop)
    (integer : d.kind = .integer) (held : d.holds beta = true) (target : c.Accepts m d [r, n] cs)
    (product : v.Contains m d [r, n] ((d.products r k n xs ys).map (d.onWords .multiply alpha))) (fine : kinds v)
    (sum : Value → Run Value)
    (adds : ∀ kept between, m.Extends between → kept.Contains between d [r, n] (cs.map (d.onWords .multiply beta)) →
      kept.isBox = c.isBox → (kept.isSparse = true → c.isSparse = true) →
      (sum kept).Brings between d [r, n] (d.gemm r k n alpha beta xs ys cs) kinds)
    (finish : ∀ whole last, m.Extends last → whole.Contains last d [r, n] (d.gemm r k n alpha beta xs ys cs) → kinds whole →
      (next whole).Completes last post) :
    (differs (.num (.int beta)) 0 >>= fun more => if more then
      Value.binary .mult (.num (.int beta)) c >>= fun kept => sum kept >>= next else pure v >>= next).Completes m post := by
  rw [differs_whole, pure_bind]
  split
  · rw [completes_bind]
    refine Completes.imp (times_brings integer held (by simp) target.contains) fun kept between scaled => ?_
    rw [completes_bind]
    refine Completes.imp (adds kept between scaled.1 scaled.2.1 scaled.2.2.1 fun sparse =>
      (scaled.2.2.2 sparse).resolve_left (by simp [isSparse])) fun whole last made => ?_
    exact finish whole last (scaled.1.trans made.1) made.2.1 made.2.2
  · rename_i same
    simp only [decide_eq_true_eq, ne_eq, not_not] at same
    have held : ∀ z ∈ (d.products r k n xs ys).map (d.onWords .multiply alpha), d.holds z = true := by
      intro z member
      obtain ⟨x, _, rfl⟩ := List.mem_map.mp member
      exact holds_wrap integer _
    have count := target.contains.count
    rw [pure_bind]
    refine finish v m (.refl _) ?_ fine
    rwa [← gemm_eq integer r k n alpha beta xs ys cs count, same, zipWith_add_nothing held (product.count.trans count.symm)]

theorem assignProduct_accepted (integer : d.kind = .integer) (heldA : d.holds alpha = true) (heldB : d.holds beta = true)
    (target : c.Accepts m d [r, n] cs) (full : c.isSparse = false) (first : a.Contains m d [r, k] xs)
    (second : b.Contains m d [k, n] ys) (alike : ∀ v ∈ [a, b], v.isSparse = false ∧ (v.isBox = true → c.isBox = true)) :
    (assignProduct c a b (.num (.int alpha)) (.num (.int beta))).Completes m fun v after =>
      v = c ∧ v.Contains after d [r, n] (d.gemm r k n alpha beta xs ys cs) := by
  simp only [List.forall_mem_singleton, List.forall_mem_cons] at alike
  rw [assignProduct, completes_bind]
  refine Completes.imp (scaledProduct_brings integer heldA first second fun _ => ⟨alike.1.1, alike.2.1⟩)
    fun product between made => ?_
  obtain ⟨grown, contains, blends⟩ := made
  have flat : product.isSparse = false := by
    have sides := blends.2
    rw [alike.1.1, alike.2.1] at sides
    simpa using sides
  have boxes : product.isBox = true → c.isBox = true := by
    rw [blends.1, Bool.or_eq_true]
    exact Or.rec alike.1.2 alike.2.2
  have later := target.later grown
  refine total_completes (fun w => w.isSparse = false ∧ (w.isBox = true → c.isBox = true)) integer heldB later
    contains ⟨flat, boxes⟩ (Value.binary .add product) (fun kept last more keeps box sparse => ?_)
    fun whole last further keeps kinds => ?_
  · have flat' : kept.isSparse = false := Bool.eq_false_iff.mpr fun wrong => by
      rw [sparse wrong] at full
      cases full
    rw [← gemm_eq integer r k n alpha beta xs ys cs target.contains.count]
    refine Completes.imp (add_brings integer (contains.later more) keeps fun _ => ⟨flat, flat'⟩) fun w after made => ⟨made.1, made.2.1, ?_, ?_⟩
    · have sides := made.2.2.2
      rw [flat, flat'] at sides
      simpa using sides
    · rw [made.2.2.1, Bool.or_eq_true, box]
      exact Or.rec boxes id
  · rw [completes_bind]
    refine (setItem_accepted integer (later.later further) full keeps kinds.1 kinds.2).imp fun _ after written => ?_
    exact completes_pure.mpr ⟨rfl, written⟩

theorem spreadOut_brings (contains : v.Contains m d shape xs) (bare : v.isBox = false) :
    v.spreadOut.Brings m d shape xs fun w => w.isDense = true := by
  cases contains with
  | array bears => exact completes_pure.mpr ⟨.refl _, .array bears, rfl⟩
  | box => cases bare
  | sparse matrix bears =>
    rw [Brings, spreadOut, completes_bind, matrix.reads.completes_iff, Sparse.toArray, bears.shown, bears.typed]
    refine newArray_brings ?_ (by rw [denseLayout_shape, bears.shaped]) bears.count bears.held
    unfold Sparse.denseLayout
    split
    · exact Layout.columnMajor_fills _
    · exact Layout.rowMajor_fills _

theorem sparseAssign_accepted (integer : d.kind = .integer) (target : Accepts m d shape cs (.sparse k))
    (bears : Value.Bears m d shape zs (.array number view)) :
    (Sparse.assign k (.array number view)).Completes m fun _ after => Contains after d shape zs (.sparse k) := by
  cases target with
  | @sparse _ o content matrix shows placed writable =>
    have cells : ((o.shown content).cellsOf (.array number view)).Completes m fun cells after =>
        m = after ∧ cells = zs.map wholeCell := by
      simp only [Sparse.cellsOf, Sparse.converted, completes_bind]
      refine bears.operand.imp ?_
      rintro given _ ⟨rfl, borne, _, typed⟩
      rw [shows.typed, borne.cells, castCell_words integer zs bears.held]
      simp only [completes_pure]
      rw [if_pos (by rw [shows.shaped]; exact congrArg _ borne.shaped)]
      exact completes_pure.mpr ⟨rfl, rfl⟩
    have writes : ((o.shown content).cellsOf (.array number view) >>= fun cells => Sparse.write k (cells.map some)).Completes m
        fun _ after => Contains after d shape zs (.sparse k) := by
      rw [completes_bind]
      refine cells.imp ?_
      rintro _ _ ⟨rfl, rfl⟩
      refine (matrix.write_completes integer placed shows writable bears.count bears.held).imp ?_
      rintro _ after ⟨o, content, kept, shown⟩
      exact .sparse kept shown
    rw [Sparse.assign, completes_bind, matrix.reads.completes_iff]
    have format : (o.shown content).format = o.format := rfl
    cases scheme : o.format with
    | csr | csc | lil | dok => simpa only [format, scheme] using writes
    | _ =>
      rw [scheme] at writable
      cases writable

theorem writeOver_accepted (integer : d.kind = .integer) (target : Accepts m d [r, n] cs (.sparse k))
    (bears : Value.Bears m d [r, n] zs (.array number view)) :
    (writeOver k (.array number view)).Completes m fun v after => v = .sparse k ∧ v.Contains after d [r, n] zs := by
  have arranged := reshaped_completes bears rfl
  cases id target with
  | sparse matrix shows =>
    simp only [writeOver, completes_bind, matrix.reads.completes_iff, shows.shaped] at arranged ⊢
    obtain ⟨shaped, between, ran, _, last, made, _, i, other, rfl, _, bears', _⟩ := arranged
    refine ran.completes ?_
    have grown := ((reshapeView_adds _ _).yields ran).trans ((arrayOf_adds _).yields made)
    simp only [List.length_cons, List.length_nil, ne_eq, not_true_eq_false, if_false, completes_bind]
    refine made.completes ((sparseAssign_accepted integer (target.later grown) bears').imp fun _ after written => ?_)
    exact completes_pure.mpr ⟨rfl, written⟩

theorem assignSparseProduct_accepted (integer : d.kind = .integer) (heldA : d.holds alpha = true)
    (heldB : d.holds beta = true) (target : Accepts m d [r, n] cs (.sparse p)) (first : a.Contains m d [r, k] xs)
    (second : b.Contains m d [k, n] ys) (bare : (a.isBox || b.isBox) = false) :
    (assignSparseProduct p a b (.num (.int alpha)) (.num (.int beta))).Completes m fun v after =>
      v = .sparse p ∧ v.Contains after d [r, n] (d.gemm r k n alpha beta xs ys cs) := by
  rw [assignSparseProduct_eq, completes_bind]
  refine Completes.imp (scaledProduct_brings integer heldA first second fun wrong => ?_) fun product between made => ?_
  · rw [bare] at wrong
    cases wrong
  obtain ⟨grown, contains, blends⟩ := made
  have later := target.later grown
  have free : product.isBox = false := blends.1.trans bare
  refine total_completes (fun w => w.isBox = false) integer heldB later contains free
    (fun kept => Value.binary .add kept product) (fun kept last more keeps box sparse => ?_)
    fun whole last further keeps kind => ?_
  · have apart : (kept.isBox || product.isBox) = false := by
      rw [box, free]
      rfl
    rw [← gemm_eq integer r k n alpha beta xs ys cs target.contains.count, zipWith_add_comm]
    refine Completes.imp (add_brings integer keeps (contains.later more) fun wrong => ?_) fun w after made =>
      ⟨made.1, made.2.1, made.2.2.1.trans apart⟩
    rw [apart] at wrong
    cases wrong
  · rw [completes_bind]
    refine Completes.imp (spreadOut_brings keeps kind) fun dense after made => ?_
    obtain ⟨more, held, array⟩ := made
    cases held with
    | array bears => exact writeOver_accepted integer ((later.later further).later more) bears
    | _ => cases array

end

/-- A sparse row with one of its two numbers stored, and an array of one number. -/
def sparseRowAndTwo : Memory where
  buffers := #[#[wholeCell 2]]
  objects := #[.entries #[some (wholeCell 1), none], .sparse ⟨.csr, false, .int32, [1, 2], 0, [0, 1]⟩, .token]

end Rebind
