import Rebind.Proofs.FlatTargets
/-!
Sparse matrices of integers. What is stored of a matrix does not matter to its numbers: scaling, sums and products give
the numbers that they give for arrays. Written over all of a matrix, numbers are what it shows, in any scheme that is open
to writing.
-/
namespace Rebind

open Number Strided Syntax Value Run Layout Sparse

/-- The sum of the products along the axis that two matrices share. -/
def innerSum (k n : Nat) (xs ys : List Int) (i j : Nat) : Int :=
  ((List.range k).map fun t => xs.getD (i * k + t) 0 * ys.getD (t * n + j) 0).sum

/-- The numbers of a product of matrices in integers of the type, row by row. -/
def Strided.DType.products (d : DType) (r k n : Nat) (xs ys : List Int) : List Int :=
  (List.range r ×ˢ List.range n).map fun (i, j) => d.wrap (innerSum k n xs ys i j)

/-- The matrix has the type and the shape and shows these numbers. -/
structure Sparse.Bears (s : Sparse) (d : DType) (shape : Shape) (xs : List Int) : Prop where
  typed : s.dtype = d
  shaped : s.shape = shape
  shown : s.cells = xs.map wholeCell
  count : xs.length = Shape.size shape
  held : ∀ x ∈ xs, d.holds x = true

/-- The number that an entry of an integer type stands for. -/
def Strided.DType.entryWord (d : DType) (entry : Option Cell) : Int :=
  (entry.map fun cell => DType.intOf (d.cast (numOf cell))).getD 0

/-- An array, a box or a sparse matrix of the type and the shape that shows these numbers. -/
inductive Value.Contains (m : Memory) (d : DType) (shape : Shape) (xs : List Int) : Value → Prop
  | array {number : Nat} {view : View} (bears : Value.Bears m d shape xs (.array number view)) :
      Contains m d shape xs (.array number view)
  | box {number : Nat} {view : View} {foreign : Bool} (bears : Value.Bears m d shape xs (.array number view)) :
      Contains m d shape xs (.box number view foreign)
  | sparse {k : Nat} {o : SparseObject} {content : Array (Option Cell)} (matrix : m.Matrix k o content)
      (bears : (o.shown content).Bears d shape xs) : Contains m d shape xs (.sparse k)

/-- The run only adds a value that contains the numbers, and that is of the kinds given. -/
def Run.Brings (run : Run Value) (m : Memory) (d : DType) (shape : Shape) (xs : List Int) (kinds : Value → Prop) : Prop :=
  run.Completes m fun v after => m.Extends after ∧ v.Contains after d shape xs ∧ kinds v

section
variable {m between after : Memory} {d : DType} {v w : Value} {view : View} {s t : Sparse} {plan : Plan}
  {k : Nat} {o : SparseObject} {content : Array (Option Cell)} {shape : Shape}

/-! ### Sums of products -/

theorem wrap_add (integer : d.kind = .integer) (a b : Int) : d.wrap (d.wrap a + d.wrap b) = d.wrap (a + b) := by
  cases d with
  | uint8 | uint64 => exact (Int.add_emod ..).symm
  | int32 | int64 => simp [DType.wrap]
  | _ => cases integer

theorem wrap_mul (integer : d.kind = .integer) (a b : Int) : d.wrap (a * d.wrap b) = d.wrap (a * b) := by
  cases d with
  | uint8 | uint64 => simp [DType.wrap, Int.mul_emod]
  | int32 | int64 => simp [DType.wrap]
  | _ => cases integer

theorem wrap_zero (d : DType) : d.wrap 0 = 0 := by cases d <;> rfl

theorem dotNum_sum (integer : d.kind = .integer) (pairs : List (Int × Int)) :
    dotNum d (pairs.map fun p => .int p.1) (pairs.map fun p => .int p.2) =
      .int (d.wrap (pairs.map fun p => p.1 * p.2).sum) := by
  have summed (start : Int) (pairs : List (Int × Int)) :
      (pairs.map fun p => (Numeral.int p.1, Numeral.int p.2)).foldl
        (fun sum p => d.binary .add sum (d.binary .multiply p.1 p.2)) (.int (d.wrap start)) =
        .int (d.wrap (start + (pairs.map fun p => p.1 * p.2).sum)) := by
    induction pairs generalizing start with
    | nil => simp
    | cons p rest ih =>
      simp only [List.map_cons, List.foldl_cons, binary_word integer, DType.onWords, wrap_add integer]
      rw [ih, List.sum_cons, Int.add_assoc]
  rw [dotNum, List.zip_map']
  cases pairs with
  | nil => simp [DType.zero, integer, wrap_zero]
  | cons p rest =>
    simp only [List.map_cons, binary_word integer, DType.onWords]
    rw [summed, List.sum_cons]

theorem sum_filter_pairs (keep : Int × Int → Bool) (pairs : List (Int × Int))
    (left : ∀ p, keep p = false → p.1 * p.2 = 0) :
    ((pairs.filter keep).map fun p => p.1 * p.2).sum = (pairs.map fun p => p.1 * p.2).sum := by
  induction pairs with
  | nil => rfl
  | cons p rest ih =>
    rw [List.filter_cons, List.map_cons, List.sum_cons, ← ih]
    split
    · rw [List.map_cons, List.sum_cons]
    · rw [left p (Bool.eq_false_iff.mpr ‹_›), Int.zero_add]

theorem crossed_eq (g : List Cell → List Cell → α) (r k n : Nat) (xs ys : List Int) :
    ((rowsOf (xs.map wholeCell).toArray 0 r k).flatMap fun row =>
      (columnsOf (ys.map wholeCell).toArray 0 k n).map fun column => g row column) =
      (List.range r ×ˢ List.range n).map fun (i, j) =>
        g ((List.range k).map fun t => wholeCell (xs.getD (i * k + t) 0))
          ((List.range k).map fun t => wholeCell (ys.getD (t * n + j) 0)) := by
  have cell (zs : List Int) (place : Nat) : (zs.map wholeCell).toArray.getD place default = wholeCell (zs.getD place 0) := by
    rw [Array.getD_eq_getD_getElem?, List.getElem?_toArray, List.getElem?_map, List.getD_eq_getElem?_getD]
    cases zs[place]? <;> rfl
  simp only [rowsOf, columnsOf, cell, Nat.zero_add, List.flatMap_map, List.map_map, SProd.sprod, List.product,
    List.map_flatMap, Function.comp_def]

theorem dotWord_eq (integer : d.kind = .integer) (f g : Nat → Int) (k : Nat) :
    d.dotWord ((List.range k).map fun t => wholeCell (f t)) ((List.range k).map fun t => wholeCell (g t)) =
      d.wrap ((List.range k).map fun t => f t * g t).sum := by
  have sum := dotNum_sum integer ((List.range k).map fun t => (f t, g t))
  simp only [List.map_map, Function.comp_def] at sum
  simp only [DType.dotWord, List.map_map, Function.comp_def, wholeCell, numOf, sum, DType.intOf]

theorem productWords_eq (integer : d.kind = .integer) (r k n : Nat) (xs ys : List Int) :
    productWords d ⟨[], r, k, n, false, false⟩ [r, k] [k, n] xs ys = d.products r k n xs ys := by
  have starts (size : Nat) : matrixStarts [] [] size = [0] := by
    change [0 * size] = [0]
    rw [Nat.zero_mul]
  simp only [productWords, stackOf, List.reverse_cons, List.reverse_nil, List.nil_append, List.cons_append, List.drop_succ_cons,
    List.drop_nil, starts, List.zip_cons_cons, List.zip_nil_left, List.flatMap_cons, List.flatMap_nil,
    List.append_nil, crossed_eq, dotWord_eq integer, DType.products, innerSum]

theorem length_products (d : DType) (r k n : Nat) (xs ys : List Int) :
    (d.products r k n xs ys).length = Shape.size [r, n] := by
  rw [DType.products, List.length_map, List.length_product, List.length_range, List.length_range]
  simp [size_cons, size_nil]

theorem products_held (integer : d.kind = .integer) (r k n : Nat) (xs ys : List Int) :
    ∀ z ∈ d.products r k n xs ys, d.holds z = true := by
  intro z member
  obtain ⟨p, _, rfl⟩ := List.mem_map.mp member
  exact holds_wrap integer _

/-! ### Stored numbers -/

theorem cast_integer (integer : d.kind = .integer) (x : Numeral) : d.cast x = .int (DType.intOf (d.cast x)) := by
  simp only [DType.cast, integer]
  cases x <;> rfl

theorem cellAt_word (integer : s.dtype.kind = .integer) (entry : Option Cell) :
    s.cellAt entry = wholeCell (s.dtype.entryWord entry) := by
  cases entry with
  | none => simp [cellAt, DType.zero, integer, DType.entryWord, wholeCell]
  | some cell =>
    rw [cellAt, cast_integer integer]
    simp [DType.entryWord, wholeCell, unsignedZero]

theorem cells_words (integer : s.dtype.kind = .integer) : s.cells = (s.entries.map s.dtype.entryWord).map wholeCell := by
  rw [Sparse.cells, List.map_map]
  exact List.map_congr_left fun entry _ => cellAt_word integer entry

theorem wholeCell_injective : Function.Injective wholeCell := by
  intro a b same
  cases same
  rfl

theorem Sparse.Bears.words (bears : s.Bears d shape xs) (integer : d.kind = .integer) : s.entries.map d.entryWord = xs := by
  have shown := bears.shown
  rw [cells_words (bears.typed ▸ integer), bears.typed] at shown
  exact wholeCell_injective.list_map shown

theorem entryWord_whole (integer : d.kind = .integer) (held : d.holds n = true) : d.entryWord (some (wholeCell n)) = n := by
  simp [DType.entryWord, wholeCell, numOf, cast_word integer held, DType.intOf]

theorem bears_of_words (integer : d.kind = .integer) (typed : s.dtype = d) (shaped : s.shape = shape)
    (words : s.entries.map d.entryWord = xs) (count : xs.length = Shape.size shape) (held : ∀ x ∈ xs, d.holds x = true) :
    s.Bears d shape xs := by
  subst typed
  exact ⟨rfl, shaped, by rw [cells_words integer, words], count, held⟩

theorem ofCells_bears (integer : d.kind = .integer) (format : SparseFormat) (isMatrix : Bool)
    (count : xs.length = Shape.size shape) (held : ∀ x ∈ xs, d.holds x = true) :
    (ofCells format isMatrix d shape (xs.map wholeCell)).Bears d shape xs := by
  refine bears_of_words integer rfl rfl ?_ count held
  have each (isKept : Cell × Nat → Bool) (kept : ∀ n place, n ≠ 0 → isKept (wholeCell n, place) = true) (start : Nat) :
      (((xs.map wholeCell).zipIdx start).map fun x => if isKept x then some x.1 else none).map d.entryWord = xs := by
    clear count
    induction xs generalizing start with
    | nil => rfl
    | cons x rest ih =>
      rw [List.forall_mem_cons] at held
      have first : d.entryWord (if isKept (wholeCell x, start) then some (wholeCell x) else none) = x := by
        split
        · exact entryWord_whole integer held.1
        · rename_i left
          by_contra other
          exact left (kept x start (Ne.symm other))
      simp only [List.map_cons, List.zipIdx_cons, first, ih held.2]
  dsimp only [ofCells]
  refine each (fun x => isNonzero x.1 || _) (fun n place other => ?_) 0
  simp [isNonzero, wholeCell, Numeral.isZero, other]

theorem Sparse.Bears.operand (bears : s.Bears d shape xs) :
    s.operand.Bears d shape xs ∧ s.operand.weak = none ∧ s.operand.dtype = d :=
  ⟨⟨by rw [Sparse.operand, Operand.shape, denseLayout_shape, bears.shaped], bears.shown, bears.count, rfl, bears.held,
    .inl ⟨rfl, bears.typed⟩⟩, rfl, bears.typed⟩

/-! ### New matrices and arrays -/

theorem range_getD (entries : List (Option Cell)) :
    ((List.range entries.length).map fun slot => entries.toArray.getD slot none) = entries := by
  refine List.ext_getElem (by simp) fun i inside inside' => ?_
  simp [Array.getD, inside']

theorem newSparse_brings (bears : s.Bears d shape xs) : (newSparse s).Brings m d shape xs fun v => v.isBox = false := by
  let o : SparseObject := ⟨s.format, s.isMatrix, s.dtype, s.shape, m.objects.size, List.range s.entries.length⟩
  let last : Memory := { m with objects := (m.objects.push (.entries s.entries.toArray)).push (.sparse o) }
  have made : (newSparse s).Yields m (.sparse (m.objects.size + 1)) last := by
    simp only [newSparse, newStore, Run.allocate, yields_bind, yields_get, yields_set, yields_pure]
    exact ⟨_, _, ⟨_, _, ⟨_, _, ⟨rfl, rfl⟩, ⟨⟩, _, rfl, rfl, rfl⟩, rfl, rfl⟩, _, _, ⟨_, _, ⟨rfl, rfl⟩, ⟨⟩, _, rfl,
      by rw [Array.size_push], rfl⟩, rfl, rfl⟩
  have matrix : last.Matrix (m.objects.size + 1) o s.entries.toArray := by
    constructor
    · rw [Array.getElem?_push, if_pos (by rw [Array.size_push])]
    · change ((m.objects.push _).push _)[m.objects.size]? = _
      rw [Array.getElem?_push, if_neg (by rw [Array.size_push]; omega), Array.getElem?_push, if_pos rfl]
  refine made.completes ⟨(newSparse_adds s).yields made, .sparse matrix ?_, rfl⟩
  rw [SparseObject.shown, range_getD]
  exact bears

theorem allocate_brings (integer : d.kind = .integer) (bears : s.Bears d shape xs) :
    (Sparse.allocate s).Brings m d shape xs fun v => v.isBox = false := by
  have storable : ¬ (decide (s.dtype = .object) || decide (s.dtype = .float16)) = true := by
    rw [bears.typed]
    intro wrong
    cases d <;> cases integer <;> cases wrong
  rw [Sparse.allocate, if_neg storable]
  exact newSparse_brings bears

theorem newArray_brings {layout : Layout} (fills : layout.Fills) (shaped : layout.shape = shape)
    (count : xs.length = Shape.size shape) (held : ∀ x ∈ xs, d.holds x = true) :
    (newArray d layout (xs.map wholeCell)).Brings m d shape xs fun v => v.isDense = true := by
  have size : (xs.map wholeCell).length = layout.size := by rw [List.length_map, count, Layout.size, shaped]
  obtain ⟨_, after, made, number, view, rfl, known, rfl, placed, _, shown⟩ := newArray_completes (m := m) d fills size
  exact made.completes ⟨(newArray_adds _ _ _).yields made, .array (.array known placed.buffer rfl shaped shown held), rfl⟩

theorem arrayResult_brings (makes : plan.Makes d zs) :
    plan.arrayResult.Brings m d plan.shape zs fun v => v.isDense = true := by
  simp only [Plan.arrayResult, makes.steps, mapM_computed, pure_bind, makes.typed]
  exact newArray_brings makes.fills makes.shaped makes.count makes.held

/-! ### Scaling -/

theorem scatter_map (entries : List (Option Cell)) (g : Cell → Cell) :
    scatter entries ((entries.filterMap id).map g) = entries.map (Option.map g) := by
  induction entries with
  | nil => rfl
  | cons entry rest ih => cases entry <;> simp [scatter, ← ih]

theorem Sparse.Bears.data (bears : s.Bears d shape xs) (integer : d.kind = .integer) :
    ∃ stored : List Int, stored = (s.entries.filterMap id).map (fun cell => d.entryWord (some cell)) ∧
      s.data.Bears d [stored.length] stored ∧ s.data.weak = none := by
  refine ⟨_, rfl, ⟨?_, ?_, by simp [size_cons, size_nil], rfl, ?_, .inl ⟨rfl, bears.typed⟩⟩, rfl⟩
  · simp [Sparse.data, Operand.shape]
  · simp only [Sparse.data, bears.typed, List.map_map]
    refine List.map_congr_left fun cell _ => ?_
    rw [cast_integer integer]
    rfl
  · intro x member
    obtain ⟨cell, stored, rfl⟩ := List.mem_map.mp member
    refine bears.held _ ?_
    rw [← bears.words integer]
    exact List.mem_map_of_mem (List.mem_filterMap.mp stored |>.elim fun entry found => by simpa using found.2 ▸ found.1)

theorem scale_brings (integer : d.kind = .integer) (held : d.holds n = true) (bears : s.Bears d shape xs) :
    (s.scale (.num (.int n))).Brings m d shape (xs.map (d.onWords .multiply n)) fun v => v.isBox = false := by
  have words := bears.words integer
  have count : (xs.map (d.onWords .multiply n)).length = Shape.size shape := by rw [List.length_map, bears.count]
  have held' : ∀ z ∈ xs.map (d.onWords .multiply n), d.holds z = true := by
    intro z member
    obtain ⟨x, _, rfl⟩ := List.mem_map.mp member
    exact holds_wrap integer _
  have nothing : d.onWords .multiply n 0 = 0 := by rw [DType.onWords, Int.mul_zero, wrap_zero]
  simp only [scale, isNothing, pure_bind]
  split
  · rename_i zero
    simp only [Bool.and_eq_true, Numeral.isZero, decide_eq_true_eq] at zero
    refine newSparse_brings (bears_of_words integer bears.typed bears.shaped ?_ count held')
    rw [← words, List.map_map, List.map_map]
    refine List.map_congr_left fun entry _ => ?_
    simp [DType.entryWord, DType.onWords, zero.2, wrap_zero]
  · obtain ⟨stored, listed, data, firm⟩ := bears.data integer
    have plain : Lends m d [] [n] (.num (.int n)) := .plain rfl rfl held
    rw [Brings, completes_bind]
    refine plain.operand.imp ?_
    rintro factor _ ⟨rfl, factored, _⟩
    have row : ∀ length : Nat, broadcastShapes [length] [] = some [length] := fun _ => rfl
    obtain ⟨plan, planned, _, makes⟩ := binaryPlan_makes integer .multiply (by simp) data factored (.inl firm) none rfl
      (resultShape_joined (row _))
    rw [planned, pure_bind, ofPlan, makes.steps, mapM_computed, pure_bind, makes.typed]
    have each : List.zipWith (d.onWords .multiply) (stretch [stored.length] [stored.length] stored)
        (stretch [] [stored.length] [n]) = stored.map (d.onWords .multiply n) := by
      rw [stretch_self data.count, stretch_single, ← data.count, List.zipWith_comm, zipWith_replicate_left]
      simp only [DType.onWords, Int.mul_comm]
      rfl
    rw [each, listed, withData, List.map_map, List.map_map, scatter_map]
    refine allocate_brings integer (bears_of_words integer rfl bears.shaped ?_ count held')
    rw [← words, List.map_map, List.map_map]
    refine List.map_congr_left fun entry _ => ?_
    cases entry with
    | none => exact nothing.symm
    | some cell => exact entryWord_whole integer (holds_wrap integer _)

/-! ### Sums -/

theorem zipWith_cells {f : Cell → Cell → Cell} {g : Int → Int → Int} (xs ys : List Int)
    (each : ∀ x ∈ xs, ∀ y ∈ ys, f (wholeCell x) (wholeCell y) = wholeCell (g x y)) :
    List.zipWith f (xs.map wholeCell) (ys.map wholeCell) = (List.zipWith g xs ys).map wholeCell := by
  refine List.ext_getElem (by simp) fun i _ _ => ?_
  simp only [List.getElem_zipWith, List.getElem_map]
  exact each _ (List.getElem_mem _) _ (List.getElem_mem _)

section
variable (integer : d.kind = .integer)
include integer

theorem combine_brings (first : s.Bears d shape xs) (second : t.Bears d shape ys) (format : SparseFormat)
    (isMatrix : Bool) : (combine .add s t shape format isMatrix).Brings m d shape (List.zipWith (d.onWords .add) xs ys)
      fun v => v.isBox = false := by
  have spread (s : Sparse) (xs : List Int) (bears : s.Bears d shape xs) : s.operand.spread shape = xs.map wholeCell := by
    rw [spread_eq bears.operand.1.shaped bears.operand.1.cells, stretch_self bears.count]
  have count : (List.zipWith (d.onWords .add) xs ys).length = Shape.size shape := by
    rw [List.length_zipWith, first.count, second.count, Nat.min_self]
  simp only [combine, first.typed, second.typed, promote_word integer, spread s xs first, spread t ys second]
  rw [zipWith_cells (g := d.onWords .add) xs ys]
  · exact allocate_brings integer (ofCells_bears integer format isMatrix count
      (zipWith_held integer .add xs ys first.held second.held))
  · intro x inside y inside'
    simp only [wholeCell, numOf, cast_word integer (first.held x inside), cast_word integer (second.held y inside'),
      binary_word integer]
    split
    · rename_i zero
      simp only [Numeral.isZero, decide_eq_true_eq] at zero
      simp [DType.zero, integer, zero]
    · rfl

theorem sumSparse_brings (first : s.Bears d shape xs) (second : t.Bears d shape ys) :
    (sumSparse .add s t).Brings m d shape (List.zipWith (d.onWords .add) xs ys) fun v => v.isBox = false := by
  unfold sumSparse
  rw [first.shaped, second.shaped]
  simp only [ne_eq, not_true_eq_false, if_false]
  exact combine_brings integer first second _ _

theorem steps_words (entries : List (Option Cell)) (ys : List Int) (held : ∀ y ∈ ys, d.holds y = true) :
    List.zipWith (fun entry (pair : Cell × Run Cell) => if entry.isSome then pair.2 else castCell d pair.1) entries
      ((ys.map wholeCell).zip ((List.zipWith (d.onWords .add) (entries.map d.entryWord) ys).map fun z => pure (wholeCell z))) =
      (List.zipWith (d.onWords .add) (entries.map d.entryWord) ys).map fun z => pure (wholeCell z) := by
  induction entries generalizing ys with
  | nil => rfl
  | cons entry rest ih =>
    cases ys with
    | nil => rfl
    | cons y ys =>
      rw [List.forall_mem_cons] at held
      simp only [List.map_cons, List.zipWith_cons_cons, List.zip_cons_cons, ih ys held.2]
      cases entry with
      | some cell => rfl
      | none =>
        have same : d.onWords .add (d.entryWord none) y = y := by
          rw [DType.onWords, DType.entryWord, Option.map_none, Option.getD_none, Int.zero_add, (holds_iff y).mp held.1]
        rw [same, castCell_word integer held.1]
        rfl

theorem plusDense_brings (bears : s.Bears d shape xs) (other : Operand.Bears b d shape ys) (typed : b.dtype = d)
    (firm : b.weak = none) :
    (s.plusDense b).Brings m d shape (List.zipWith (d.onWords .add) xs ys) fun v => v.isDense = true := by
  have own := bears.operand
  have found := resultShape_joined (broadcastShapes_self shape)
  rw [plusDense]
  split
  · obtain ⟨plan, planned, shaped, makes⟩ :=
      binaryPlan_makes integer .add (by simp) own.1 other (.inl own.2.1) none rfl found
    rw [stretch_self bears.count, stretch_self other.count] at makes
    rw [planned, pure_bind, ← shaped]
    exact arrayResult_brings makes
  · have whole : b.layout.broadcastTo? s.shape = some b.layout := by
      rw [bears.shaped, ← other.shaped, Operand.shape, broadcastTo?_self]
    have fitting : s.fitted b = pure { b with cells := ys.map wholeCell } := by
      rw [Sparse.fitted, whole, bears.shaped, spread_eq other.shaped other.cells, stretch_self other.count]
    have fitted : Operand.Bears { b with dtype := d, cells := ys.map wholeCell } d shape ys :=
      { other with cells := rfl, kind := .inl ⟨firm, rfl⟩ }
    obtain ⟨plan, planned, shaped, makes⟩ :=
      binaryPlan_makes integer .add (by simp) own.1 fitted (.inl own.2.1) none rfl found
    rw [stretch_self bears.count, stretch_self other.count] at makes
    rw [fitting, pure_bind, typed, if_neg (word_ne_object integer)]
    dsimp only
    rw [planned, pure_bind, makes.typed, makes.steps, ← bears.words integer, steps_words integer _ _ other.held,
      bears.words integer, bears.shaped, shaped]
    refine arrayResult_brings ⟨rfl, ?_, ?_, rfl, shaped ▸ makes.count, makes.held⟩
    · split
      · exact columnMajor_fills shape
      · exact rowMajor_fills shape
      · exact copied_fills _
    · dsimp only
      split
      · exact columnMajor_shape shape
      · exact rowMajor_shape shape
      · exact (copied_shape _).trans other.shaped

/-! ### Products -/

theorem dot_words (x y : Bool) (pairs : List (Int × Int))
    (held : ∀ p ∈ pairs, d.holds p.1 = true ∧ d.holds p.2 = true) :
    dot d x y (pairs.map fun p => wholeCell p.1) (pairs.map fun p => wholeCell p.2) =
      wholeCell (d.wrap (pairs.map fun p => p.1 * p.2).sum) := by
  have nonzero (n : Int) : isNonzero (wholeCell n) = decide (n ≠ 0) := by
    simp [isNonzero, wholeCell, Numeral.isZero]
  let keep (p : Int × Int) : Bool := (!x || decide (p.1 ≠ 0)) && (!y || decide (p.2 ≠ 0))
  have kept := dotNum_sum integer (pairs.filter keep)
  rw [sum_filter_pairs keep pairs (fun p left => by
    simp only [keep, Bool.and_eq_false_iff, Bool.or_eq_false_iff, decide_eq_false_iff_not, not_not] at left
    rcases left with ⟨_, zero⟩ | ⟨_, zero⟩ <;> simp [zero])] at kept
  have each (f : Int × Int → Int) (inside : ∀ p ∈ pairs, d.holds (f p) = true) :
      ((pairs.filter keep).map fun p => d.cast (.int (f p))) = (pairs.filter keep).map fun p => .int (f p) :=
    List.map_congr_left fun p member => cast_word integer (inside p (List.mem_of_mem_filter member))
  have firsts := each Prod.fst fun p member => (held p member).1
  have seconds := each Prod.snd fun p member => (held p member).2
  rw [dot, List.zip_map', List.filter_map]
  simp only [Function.comp_def, nonzero, List.map_map]
  change Cell.num (dotNum d ((pairs.filter keep).map fun p => d.cast (.int p.1))
    ((pairs.filter keep).map fun p => d.cast (.int p.2))) = _
  rw [firsts, seconds, kept]
  rfl

theorem getD_held {xs : List Int} (held : ∀ x ∈ xs, d.holds x = true) (place : Nat) :
    d.holds (xs.getD place 0) = true := by
  rw [List.getD_eq_getElem?_getD]
  cases found : xs[place]? with
  | none => exact holds_small integer 0 (by decide) (by decide)
  | some x => exact held x (List.mem_of_getElem? found)

theorem product_words (x y : Bool) (first : Operand.Bears a d [r, k] xs) (second : Operand.Bears b d [k, n] ys)
    (typed : a.dtype = d) (typed' : b.dtype = d) : Sparse.product x y a b = pure
      { dtype := d, layout := rowMajor [r, n], cells := (d.products r k n xs ys).map wholeCell } := by
  have fits : ProductShape.make? [r, k] [k, n] = some ⟨[], r, k, n, false, false⟩ := by
    simp [ProductShape.make?, ProductShape.split?]
  have dots : ∀ i j, dot d x y ((List.range k).map fun t => wholeCell (xs.getD (i * k + t) 0))
      ((List.range k).map fun t => wholeCell (ys.getD (t * n + j) 0)) = wholeCell (d.wrap (innerSum k n xs ys i j)) := by
    intro i j
    have sum := dot_words integer x y ((List.range k).map fun t => (xs.getD (i * k + t) 0, ys.getD (t * n + j) 0)) (by
      intro p member
      obtain ⟨t, _, rfl⟩ := List.mem_map.mp member
      exact ⟨getD_held integer first.held _, getD_held integer second.held _⟩)
    simp only [List.map_map, Function.comp_def] at sum
    exact sum
  simp only [Sparse.product, first.shaped, second.shaped, fits, typed, typed', word_ne_object integer, promote_word integer,
    first.cells, second.cells, crossed_eq, dots, DType.products, List.map_map]
  rfl

theorem matmulSparse_brings (first : s.Bears d [r, k] xs) (second : t.Bears d [k, n] ys) :
    (s.matmulSparse t).Brings m d [r, n] (d.products r k n xs ys) fun v => v.isBox = false := by
  have one := first.operand
  have other := second.operand
  rw [matmulSparse, product_words integer true true one.1 other.1 one.2.2 other.2.2, pure_bind]
  simp only [Operand.shape, rowMajor_shape]
  exact allocate_brings integer (ofCells_bears integer _ _ (length_products d r k n xs ys) (products_held integer r k n xs ys))

theorem productValue_brings (s : Sparse) (dense : Operand) (r k n : Nat) (xs ys : List Int)
    {layout : Layout} (fills : layout.Fills) (shaped : layout.shape = [r, n]) :
    (s.productValue dense { dtype := d, layout := rowMajor [r, n], cells := (d.products r k n xs ys).map wholeCell }
      layout).Brings m d [r, n] (d.products r k n xs ys) fun v => v.isBox = false := by
  have made := newArray_brings (m := m) fills shaped (length_products d r k n xs ys) (products_held integer r k n xs ys)
  unfold productValue
  simp only [Operand.shape, rowMajor_shape]
  refine Completes.imp made fun v after new => ⟨new.1, new.2.1, ?_⟩
  have dense := new.2.2
  cases v <;> trivial

end

theorem denseOperand_completes (bears : Value.Bears m d shape xs v) (axes : shape ≠ []) :
    (denseOperand v).Completes m fun o after => m = after ∧ o.Bears d shape xs ∧ o.weak = none ∧ o.dtype = d := by
  rw [denseOperand, (Lends.borne bears).accepted]
  simp only [Bool.false_eq_true, if_false, completes_bind]
  refine bears.operand.imp ?_
  rintro o _ ⟨rfl, borne, rest⟩
  simp only [borne.shaped, axes, decide_false, Bool.false_and, Bool.false_eq_true, if_false, completes_pure]
  exact ⟨trivial, borne, rest⟩

theorem sparseMatmul_brings (integer : d.kind = .integer) (first : s.Bears d [r, k] xs)
    (second : Value.Bears m d [k, n] ys (.array number view)) :
    (s.matmul (.array number view)).Brings m d [r, n] (d.products r k n xs ys) fun v => v.isBox = false := by
  have one := first.operand
  simp only [Brings, Sparse.matmul, completes_bind]
  refine (denseOperand_completes second (by simp)).imp ?_
  rintro o _ ⟨rfl, borne, _, typed⟩
  rw [product_words integer true false one.1 borne one.2.2 typed, completes_pure]
  exact productValue_brings integer s o r k n xs ys (rowMajor_fills _) (rowMajor_shape _)

theorem matmulFrom_brings (integer : d.kind = .integer) (first : Value.Bears m d [r, k] xs (.array number view))
    (second : s.Bears d [k, n] ys) :
    (s.matmulFrom (.array number view)).Brings m d [r, n] (d.products r k n xs ys) fun v => v.isBox = false := by
  have other := second.operand
  rw [Brings, matmulFrom, completes_bind]
  refine (denseOperand_completes first (by simp)).imp ?_
  rintro o _ ⟨rfl, borne, _, typed⟩
  rw [product_words integer false true borne other.1 typed other.2.2, pure_bind]
  exact productValue_brings integer s o r k n xs ys (columnMajor_fills _)
    ((columnMajor_shape _).trans (rowMajor_shape _))

/-! ### Writing -/

theorem filled_elsewhere (content : Array (Option Cell)) (slots : List Nat) (given : List (Option Cell))
    (outside : slot ∉ slots) : (filled content slots given).getD slot none = content.getD slot none := by
  unfold filled
  induction slots generalizing content given with
  | nil => rfl
  | cons first rest ih =>
    cases given with
    | nil => rfl
    | cons entry given =>
      simp only [List.mem_cons, not_or] at outside
      rw [List.zip_cons_cons, List.foldl_cons, ih _ _ outside.2, Array.getD_eq_getD_getElem?, Array.getD_eq_getD_getElem?,
        Array.getElem?_setIfInBounds_ne (Ne.symm outside.1)]

theorem filled_slots (content : Array (Option Cell)) (slots : List Nat) (given : List (Option Cell)) (apart : slots.Nodup)
    (inside : ∀ slot ∈ slots, slot < content.size) (count : given.length = slots.length) :
    (slots.map fun slot => (filled content slots given).getD slot none) = given := by
  induction slots generalizing content given with
  | nil => rw [List.length_eq_zero_iff.mp count, List.map_nil]
  | cons slot rest ih =>
    cases given with
    | nil => cases count
    | cons entry given =>
      rw [List.nodup_cons] at apart
      rw [List.forall_mem_cons] at inside
      have step : filled content (slot :: rest) (entry :: given) = filled (content.setIfInBounds slot entry) rest given := rfl
      rw [List.map_cons, step, filled_elsewhere _ _ _ apart.1,
        ih _ _ apart.2 (by simpa using inside.2) (Nat.succ.inj count), Array.getD_eq_getD_getElem?,
        Array.getElem?_setIfInBounds_self_of_lt inside.1, Option.getD_some]

/-- The matrix has places of its own in its store. -/
structure SparseObject.Placed (o : SparseObject) (content : Array (Option Cell)) : Prop where
  inside : ∀ slot ∈ o.slots, slot < content.size
  distinct : o.slots.Nodup

theorem Memory.Matrix.written (matrix : m.Matrix k o content) (placed : o.Placed content) (given : List (Option Cell))
    (count : given.length = o.slots.length) :
    (Run.writeEntries k given).Completes m fun _ after => ∃ others, after.Matrix k o others ∧
      (o.shown others).entries = given :=
  (matrix.writeEntries given).completes
    ⟨_, matrix.overwritten _, filled_slots content o.slots given placed.distinct placed.inside count⟩

theorem Memory.Matrix.moved (found : m.objects[k]? = some (.sparse o)) (given : List (Option Cell)) :
    (replaceEntries k given).Completes m fun _ after => ∃ others, after.Matrix k (o.moved m.objects.size given) others ∧
      ((o.moved m.objects.size given).shown others).entries = given :=
  (replaceEntries_yields found given).completes ⟨_, moved_matrix found given, range_getD given⟩

theorem joined_eq (zero : Cell) (entries : List (Option Cell)) (cells : List Cell) (count : entries.length = cells.length) :
    List.zipWith (fun (old new : Option Cell) => old.or new)
      (List.zipWith (fun (old new : Option Cell) => old.map fun _ => new.getD zero) entries (cells.map some))
      (cells.map some) = cells.map some := by
  induction entries generalizing cells with
  | nil =>
    cases cells with
    | nil => rfl
    | cons _ _ => cases count
  | cons entry rest ih =>
    cases cells with
    | nil => cases count
    | cons cell cells =>
      simp only [List.map_cons, List.zipWith_cons_cons, ih cells (Nat.succ.inj count)]
      cases entry <;> rfl

theorem settled_eq (zero : Cell) (entries : List (Option Cell)) (cells : List Cell) (count : entries.length = cells.length)
    (full : ((entries.zip (cells.map some)).any fun (old, new) => old.isNone && new.isSome) = false) :
    List.zipWith (fun (old new : Option Cell) => old.map fun _ => new.getD zero) entries (cells.map some) =
      cells.map some := by
  induction entries generalizing cells with
  | nil =>
    cases cells with
    | nil => rfl
    | cons _ _ => cases count
  | cons entry rest ih =>
    cases cells with
    | nil => cases count
    | cons cell cells =>
      simp only [List.map_cons, List.zip_cons_cons, List.any_cons, Bool.or_eq_false_iff] at full
      simp only [List.map_cons, List.zipWith_cons_cons, ih cells (Nat.succ.inj count) full.2]
      cases entry with
      | none => cases full.1
      | some _ => rfl

theorem Memory.Matrix.compressed (matrix : m.Matrix k o content) (placed : o.Placed content) (zero : Cell)
    (cells : List Cell) (count : o.slots.length = cells.length) :
    (do
      let settled := List.zipWith (fun (old new : Option Cell) => old.map fun _ => new.getD zero)
        (o.shown content).entries (cells.map some)
      Run.writeEntries k settled
      if ((o.shown content).entries.zip (cells.map some)).any fun (old, new) => old.isNone && new.isSome then
        Run.replaceEntries k (List.zipWith (fun (old new : Option Cell) => old.or new) settled (cells.map some))
      : Run Unit).Completes m fun _ after => ∃ other content, after.Matrix k other content ∧ other.dtype = o.dtype ∧
        other.shape = o.shape ∧ (other.shown content).entries = cells.map some := by
  have places : (o.shown content).entries.length = cells.length := by rw [SparseObject.shown, List.length_map, count]
  rw [completes_bind]
  refine (matrix.written placed _ (by simp [places, count])).imp ?_
  rintro _ between ⟨others, kept, shown⟩
  split
  · rw [joined_eq _ _ _ places]
    refine (Memory.Matrix.moved kept.found _).imp ?_
    rintro _ after ⟨more, moved, entries⟩
    exact ⟨_, _, moved, rfl, rfl, entries⟩
  · rename_i full
    rw [settled_eq _ _ _ places (Bool.eq_false_iff.mpr full)] at shown
    exact completes_pure.mpr ⟨_, _, kept, rfl, rfl, shown⟩

theorem Memory.Matrix.write_completes (integer : d.kind = .integer) (matrix : m.Matrix k o content) (placed : o.Placed content)
    (bears : (o.shown content).Bears d shape cs) (writable : o.format.isWritable = true)
    (count : zs.length = Shape.size shape) (held : ∀ z ∈ zs, d.holds z = true) :
    (Sparse.write k ((zs.map wholeCell).map some)).Completes m fun _ after =>
      ∃ o content, after.Matrix k o content ∧ (o.shown content).Bears d shape zs := by
  have slots : o.slots.length = (zs.map wholeCell).length := by
    have words := congrArg List.length (bears.words integer)
    rw [SparseObject.shown, List.length_map, List.length_map, bears.count] at words
    rw [words, List.length_map, count]
  have all := (matrix.compressed placed (.num o.dtype.zero) (zs.map wholeCell) slots).imp fun _ after written => by
    obtain ⟨other, content, kept, typed, shaped, shown⟩ := written
    have words : ((zs.map wholeCell).map some).map d.entryWord = zs := by
      rw [List.map_map, List.map_map]
      exact (List.map_congr_left fun z member => entryWord_whole integer (held z member)).trans (List.map_id _)
    exact (⟨other, content, kept, bears_of_words integer (typed.trans bears.typed) (shaped.trans bears.shaped)
      (by rw [shown, words]) count held⟩ :
      ∃ o content, after.Matrix k o content ∧ (o.shown content).Bears d shape zs)
  have listed : (Run.writeEntries k (nonzero ((zs.map wholeCell).map some))).Completes m
      fun _ after => ∃ o content, after.Matrix k o content ∧ (o.shown content).Bears d shape zs := by
    refine (matrix.written placed _ (by simp [nonzero, slots])).imp ?_
    rintro _ after ⟨others, kept, shown⟩
    refine ⟨_, _, kept, bears_of_words integer bears.typed bears.shaped ?_ count held⟩
    rw [shown, nonzero, List.map_map, List.map_map, List.map_map]
    refine (List.map_congr_left fun z member => ?_).trans (List.map_id _)
    by_cases zero : z = 0
    · simp [zero, Option.filter, isNonzero, wholeCell, Numeral.isZero, DType.entryWord]
    · simpa [zero, Option.filter, isNonzero, wholeCell, Numeral.isZero] using entryWord_whole integer (held z member)
  rw [Sparse.write, completes_bind, matrix.reads.completes_iff]
  have format : (o.shown content).format = o.format := rfl
  cases scheme : o.format with
  | csr | csc =>
    simp only [format, scheme]
    exact all
  | lil | dok =>
    simp only [format, scheme]
    exact listed
  | _ =>
    rw [scheme] at writable
    cases writable

end
end Rebind
