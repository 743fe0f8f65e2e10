import Rebind.Proofs.Wholes
/-!
Products of integers. Which numbers a product has is said by the shapes and numbers of its factors; written into an
array, it is stretched over all of it, directly or by way of a new array. It goes through exactly if the factors fit
and the shape of the product covers the array.
-/
namespace Rebind

open Number Strided Syntax Value Run Layout ProductShape

/-- The sum of products of two rows of cells, in integers of the type. -/
def Strided.DType.dotWord (d : DType) (row column : List Cell) : Int :=
  DType.intOf (dotNum d (row.map numOf) (column.map numOf))

def stackOf (shape : Shape) : Shape := (shape.reverse.drop 2).reverse

/-- The numbers of a product, row by row. -/
def productWords (d : DType) (p : ProductShape) (s t : Shape) (xs ys : List Int) : List Int :=
  let starts := matrixStarts (stackOf s) p.stack (p.rows * p.inner)
  let others := matrixStarts (stackOf t) p.stack (p.inner * p.columns)
  (starts.zip others).flatMap fun (i, j) =>
    (rowsOf (xs.map wholeCell).toArray i p.rows p.inner).flatMap fun row =>
      (columnsOf (ys.map wholeCell).toArray j p.inner p.columns).map fun column => d.dotWord row column

section
variable {m between after : Memory} {d : DType} {v : Value} {view other left right : View} {p : ProductShape}
  {shape stack : Strided.Shape} {rows columns : Nat}

/-! ### One element -/

theorem dotNum_word (integer : d.kind = .integer) (xs ys : List Numeral) :
    ∃ n, dotNum d xs ys = .int n ∧ d.holds n = true := by
  have product (x y : Numeral) : d.binary .multiply x y = .int (d.wrap (DType.intOf x * DType.intOf y)) := by
    simp only [DType.binary, integer]
  have sum (x y : Numeral) : d.binary .add x y = .int (d.wrap (DType.intOf x + DType.intOf y)) := by
    simp only [DType.binary, integer]
  rw [dotNum]
  rcases xs.zip ys with _ | ⟨⟨x, y⟩, rest⟩
  · refine ⟨0, ?_, holds_small integer 0 (by decide) (by decide)⟩
    simp only [DType.zero, integer]
  · simp only [product, sum]
    -- every partial sum is a number of the type again
    have summed (start : Int) (held : d.holds start = true) : ∃ n,
        rest.foldl (fun total p => Numeral.int (d.wrap (DType.intOf total +
          DType.intOf (Numeral.int (d.wrap (DType.intOf p.1 * DType.intOf p.2)))))) (.int start) = .int n ∧
          d.holds n = true := by
      induction rest generalizing start with
      | nil => exact ⟨start, rfl, held⟩
      | cons pair rest ih => exact ih _ (holds_wrap integer _)
    exact summed _ (holds_wrap integer _)

theorem dotStep_word (integer : d.kind = .integer) (row column : List Cell) :
    dotStep d row column = pure (wholeCell (d.dotWord row column)) := by
  obtain ⟨n, same, _⟩ := dotNum_word integer (row.map numOf) (column.map numOf)
  simp [dotStep, DType.dotWord, same, wholeCell, DType.intOf, word_ne_object integer]

/-! ### Shapes of products -/

theorem split?_eq (found : split? shape = some (stack, rows, columns)) : stack = stackOf shape := by
  rw [split?] at found
  split at found
  · rename_i n m rest reversed
    cases found
    rw [stackOf, reversed]
    rfl
  · cases found

section
variable (found : make? s t = some p)
include found

/-- What a product's shape is made of: the stacks of both factors can be stretched to the common one, and a
vector stands for a single row or column. -/
theorem make?_eq : (∃ layout, (Layout.rowMajor (stackOf s)).broadcastTo? p.stack = some layout) ∧
    (∃ layout, (Layout.rowMajor (stackOf t)).broadcastTo? p.stack = some layout) ∧ (p.leftVector = true → p.rows = 1)
    ∧ (p.rightVector = true → p.columns = 1) := by
  simp only [make?, Option.bind_eq_bind, Option.bind_eq_some_iff] at found
  obtain ⟨⟨stackA, rows, inner⟩, splitA, ⟨stackB, inner', columns⟩, splitB, stack, joined, found⟩ := found
  have stackS : stackA = stackOf s := by
    rw [split?_eq splitA]
    rcases s with _ | ⟨n, _ | ⟨k, rest⟩⟩ <;> rfl
  have stackT : stackB = stackOf t := by
    rw [split?_eq splitB]
    rcases t with _ | ⟨n, _ | ⟨k, rest⟩⟩ <;> rfl
  have oneRow (vector : s.length = 1) : rows = 1 := by
    obtain ⟨n, rfl⟩ := List.length_eq_one_iff.mp vector
    cases splitA
    rfl
  have oneColumn (vector : t.length = 1) : columns = 1 := by
    obtain ⟨n, rfl⟩ := List.length_eq_one_iff.mp vector
    cases splitB
    rfl
  split at found
  · cases found
    obtain ⟨fitsS, fitsT⟩ := Layout.broadcastShapes_fits _ _ joined
    rw [stackS] at fitsS
    rw [stackT] at fitsT
    refine ⟨Layout.broadcastTo?_isSome _ _ (by rwa [Layout.rowMajor_shape]),
      Layout.broadcastTo?_isSome _ _ (by rwa [Layout.rowMajor_shape]), ?_, ?_⟩
    · intro vector
      exact oneRow (of_decide_eq_true vector)
    · intro vector
      exact oneColumn (of_decide_eq_true vector)
  · cases found

theorem resultShape_size : Shape.size p.resultShape = Shape.size p.stack * (p.rows * p.columns) := by
  obtain ⟨_, _, left, right⟩ := make?_eq found
  rw [ProductShape.resultShape, Layout.size_append, Layout.size_append, Nat.mul_assoc]
  congr 1
  cases lefts : p.leftVector <;> cases rights : p.rightVector <;>
    simp_all [Layout.size_cons, Layout.size_nil]

theorem length_productWords (d : DType) (xs ys : List Int) :
    (productWords d p s t xs ys).length = Shape.size p.resultShape := by
  obtain ⟨⟨first, spreadS⟩, ⟨second, spreadT⟩, _⟩ := make?_eq found
  have starts : (matrixStarts (stackOf s) p.stack (p.rows * p.inner)).length = Shape.size p.stack := by
    simp only [matrixStarts, spreadS, List.length_map, Layout.length_addresses, Layout.size,
      Layout.broadcastTo?_shape _ _ spreadS]
  have others : (matrixStarts (stackOf t) p.stack (p.inner * p.columns)).length = Shape.size p.stack := by
    simp only [matrixStarts, spreadT, List.length_map, Layout.length_addresses, Layout.size,
      Layout.broadcastTo?_shape _ _ spreadT]
  rw [resultShape_size found]
  simp [productWords, List.length_flatMap, rowsOf, columnsOf, Function.comp_def, starts, others]

theorem plainProductShape?_eq (first : s.length = 1 ∨ s.length = 2) (second : t.length = 1 ∨ t.length = 2) :
    plainProductShape? s t = some p.resultShape := by
  have left := first.imp List.length_eq_one_iff.mp List.length_eq_two.mp
  have right := second.imp List.length_eq_one_iff.mp List.length_eq_two.mp
  rcases left with ⟨_, rfl⟩ | ⟨_, _, rfl⟩ <;> rcases right with ⟨_, rfl⟩ | ⟨_, _, rfl⟩
  all_goals
    simp only [make?, split?, List.reverse_cons, List.reverse_nil, List.nil_append,
      List.cons_append, Option.bind_eq_bind, Option.bind_some, Layout.broadcastShapes_self] at found
    split at found
    · cases found
      rfl
    · cases found

theorem plainProductShape?_unique (told : plainProductShape? s t = some q) : q = p.resultShape := by
  have axes : (s.length = 1 ∨ s.length = 2) ∧ (t.length = 1 ∨ t.length = 2) := by
    unfold plainProductShape? at told
    split at told
    · simp
    · simp
    · simp
    · simp
    · cases told
  rw [plainProductShape?_eq found axes.1 axes.2, Option.some_inj] at told
  exact told.symm

end

/-! ### Products -/

section
variable (integer : d.kind = .integer)
include integer

theorem productWords_held (p : ProductShape) (s t : Shape) (xs ys : List Int) :
    ∀ z ∈ productWords d p s t xs ys, d.holds z = true := by
  intro z member
  simp only [productWords, List.mem_flatMap, List.mem_map] at member
  obtain ⟨_, _, row, _, column, _, rfl⟩ := member
  obtain ⟨n, same, held⟩ := dotNum_word integer (row.map numOf) (column.map numOf)
  simpa [DType.dotWord, same, DType.intOf] using held

section
variable (first : Operand.Bears a d s xs) (second : Operand.Bears b d t ys) (target : Option View)
  (stores : mayStore d target = true)
include first second stores

theorem productPlan_makes (firm : a.weak = none ∨ b.weak = none) (found : make? s t = some p) :
    ∃ plan, productPlan a b target = pure plan ∧ plan.shape = p.resultShape ∧
      plan.Makes d (productWords d p s t xs ys) := by
  obtain ⟨a', castA, shapeA, cellsA⟩ := first.castTo integer
  obtain ⟨b', castB, shapeB, cellsB⟩ := second.castTo integer
  refine ⟨⟨d, p.resultShape, Layout.rowMajor p.resultShape,
    (productWords d p s t xs ys).map fun n => pure (wholeCell n)⟩, ?_, rfl, rfl, Layout.rowMajor_fills _,
    Layout.rowMajor_shape _, rfl, length_productWords found d xs ys, productWords_held integer p s t xs ys⟩
  simp only [productPlan, first.placed second, first.meet integer second firm, stores, Bool.false_eq_true,
    if_false, Bool.not_true, castA, castB, pure_bind, shapeA, shapeB, found, productWords, List.map_flatMap,
    List.map_map, dotStep_word integer, cellsA, cellsB, stackOf, Function.comp_def]

theorem productPlan_goesThrough (firm : a.weak = none) (through : (productPlan a b target).GoesThrough m) :
    ∃ p, make? s t = some p := by
  obtain ⟨a', castA, shapeA, _⟩ := first.castTo integer
  obtain ⟨b', castB, shapeB, _⟩ := second.castTo integer
  cases found : make? s t with
  | some p => exact ⟨p, rfl⟩
  | none =>
    simp only [productPlan, first.placed second, first.meet integer second (.inl firm), stores, Bool.false_eq_true,
      if_false, Bool.not_true, castA, castB, pure_bind, shapeA, shapeB, found] at through
    exact absurd through not_goesThrough_fail

end

theorem matMult_completes (first : Value.Bears m d s xs (.array i view))
    (second : Value.Bears m d t ys (.array j other)) (found : make? s t = some p) :
    (Value.binary .matMult (.array i view) (.array j other)).Completes m fun v after =>
      m.Grows after ∧ v.Bears after d p.resultShape (productWords d p s t xs ys) ∧ v.Placed after := by
  have same : Value.binary .matMult (.array i view) (.array j other) =
      Value.matmul (.array i view) (.array j other) := rfl
  rw [same]
  simp only [Value.matmul, refusesElementwise, Bool.or_self, Bool.false_eq_true, if_false, completes_bind]
  refine first.operand.imp ?_
  rintro a _ ⟨rfl, bearsA, firm, _⟩
  refine second.operand.imp ?_
  rintro b _ ⟨rfl, bearsB, _⟩
  obtain ⟨plan, planned, shaped, makes⟩ := productPlan_makes integer bearsA bearsB none rfl (.inl firm) found
  rw [planned, completes_pure, ← shaped]
  refine (makes.result integer).imp ?_
  rintro v after ⟨grows, made, _, placed⟩
  exact ⟨grows, made, placed⟩

theorem matmul_goesThrough (first : Value.Bears m d s xs a) (second : Value.Bears m d t ys b)
    (through : (Value.matmul a b).GoesThrough m) : ∃ p, make? s t = some p := by
  rw [GoesThrough] at through
  simp only [Value.matmul, (Lends.borne first).accepted, (Lends.borne second).accepted, Bool.or_self,
    Bool.false_eq_true, if_false, completes_bind] at through
  obtain ⟨a, _, _, ⟨rfl, bearsA, firm, _⟩, through⟩ := first.operand.and through
  obtain ⟨b, _, _, ⟨rfl, bearsB, _⟩, through⟩ := second.operand.and through
  exact productPlan_goesThrough integer bearsA bearsB none rfl firm through.goesThrough

theorem matmulOut_completes (first : Value.Bears m d s xs a) (second : Value.Bears m d t ys b)
    (found : make? s t = some p) (target : Value.Bears m d p.resultShape cs (.array number view))
    (placed : view.Placed m) (writeable : view.writeable = true) :
    (matmulOut a b view).Completes m fun _ after => m.Changes ∅ {spot | spot ∈ view.spots} after ∧
      Value.Bears after d p.resultShape (productWords d p s t xs ys) (.array number view) := by
  simp only [matmulOut, completes_bind]
  refine first.operand.imp ?_
  rintro a' _ ⟨rfl, bearsA, firm, _⟩
  refine second.operand.imp ?_
  rintro b' _ ⟨rfl, bearsB, _⟩
  obtain ⟨plan, planned, shaped, makes⟩ := productPlan_makes integer bearsA bearsB (some view) (mayStore_own target.typed)
    (.inl firm) found
  rw [planned, completes_pure]
  rw [← shaped] at target ⊢
  have written := makes.into integer target placed writeable
  rwa [map_wrap_held makes.held] at written

theorem matmulOut_goesThrough (first : Value.Bears m d s xs (.array i left))
    (second : Value.Bears m d t ys (.array j right)) (typed : view.dtype = d)
    (through : (matmulOut (.array i left) (.array j right) view).GoesThrough m) :
    ∃ p, make? s t = some p ∧ view.writeable = true := by
  rw [GoesThrough] at through
  simp only [matmulOut, completes_bind] at through
  obtain ⟨a, _, _, ⟨rfl, bearsA, firm, _⟩, through⟩ := first.operand.and through
  obtain ⟨b, _, _, ⟨rfl, bearsB, _⟩, through⟩ := second.operand.and through
  obtain ⟨p, found⟩ := productPlan_goesThrough integer bearsA bearsB (some view) (mayStore_own typed) firm
    through.goesThrough
  obtain ⟨plan, _, _, _, _, written, _⟩ := through
  exact ⟨p, found, (into_allowed written).2⟩

end

/-! ### Products into arrays -/

/-- What all of an array holds after numbers were stretched over it, on top of its own when accumulating. -/
def Strided.DType.pour? (d : DType) (accumulate : Bool) (target : Shape) (cs : List Int) (shape : Shape)
    (ps : List Int) : Option (List Int) :=
  if accumulate then
    (Layout.broadcastShapes shape target).bind fun common =>
      stretchOver? common target (List.zipWith (d.onWords .add) (stretch shape common ps) (stretch target common cs))
  else stretchOver? shape target ps

theorem pour?_isSome_iff (d : DType) (accumulate : Bool) (target shape : Strided.Shape) (cs ps : List Int) :
    (d.pour? accumulate target cs shape ps).isSome = true ↔ covers shape target = true := by
  cases accumulate with
  | false => exact stretchOver?_isSome_iff shape target ps
  | true =>
    rw [← covers_common_iff]
    simp only [DType.pour?, if_true, Option.isSome_bind, Option.any_eq_true, stretchOver?_isSome_iff]

theorem size_of_stretched (filled : 0 < Shape.size target)
    (found : (Layout.rowMajor target).broadcastTo? common = some layout)
    (over? : stretchOver? common target xs = some zs) : Shape.size common = Shape.size target := by
  obtain ⟨back, found', _⟩ := Option.map_eq_some_iff.mp over?
  obtain ⟨positive, most⟩ := Layout.broadcastTo?_size _ _ found' filled
  rw [Layout.size, Layout.rowMajor_shape, dropLeadingOnes_size] at positive most
  obtain ⟨_, least⟩ := Layout.broadcastTo?_size _ _ found positive
  rw [Layout.size, Layout.rowMajor_shape] at least
  omega

theorem combined_of_same_size (f : Int → Int → Int) (joined : Layout.broadcastShapes shape target = some common)
    (over? : stretchOver? common target (List.zipWith f (stretch shape common ps) (stretch target common cs)) = some zs)
    (same : Shape.size shape = Shape.size target) (count : cs.length = Shape.size target)
    (count' : ps.length = Shape.size shape) : zs = List.zipWith f ps cs := by
  obtain ⟨fits, fits'⟩ := Layout.broadcastShapes_fits _ _ joined
  obtain ⟨layout, found⟩ := Layout.broadcastTo?_isSome (Layout.rowMajor shape) common (by simpa using fits)
  obtain ⟨layout', found'⟩ := Layout.broadcastTo?_isSome (Layout.rowMajor target) common (by simpa using fits')
  by_cases filled : 0 < Shape.size target
  · have size := size_of_stretched filled found' over?
    rw [stretch_of_same_size found (by omega) count', stretch_of_same_size found' size.symm count] at over?
    exact stretchOver?_same_size over? size (by rw [List.length_zipWith]; omega)
  · -- without elements there is nothing to compare
    have none_ : zs.length = 0 := by
      rw [stretchOver?_count over?]
      omega
    rw [List.length_eq_zero_iff.mp none_, List.length_eq_zero_iff.mp (by omega : cs.length = 0), List.zipWith_nil_right]

def keptFactor (accumulate : Bool) : Value := .int (if accumulate then 1 else 0)

theorem differs_keptFactor (accumulate : Bool) : differs (keptFactor accumulate) 0 = pure accumulate := by
  cases accumulate <;> exact differs_whole _ _

theorem scaledProduct_one (a b : Value) : scaledProduct a b (.int 1) = Value.binary .matMult a b := by
  simp [scaledProduct, int, differs_whole]

section
variable (integer : d.kind = .integer) (accumulate : Bool) (first : Value.Bears m d s xs (.array i left))
  (second : Value.Bears m d t ys (.array j right)) (found : make? s t = some p)
  (target : Value.Bears m d u cs (.array number view)) (placed : view.Placed m) (writeable : view.writeable = true)
  (poured : d.pour? accumulate u cs p.resultShape (productWords d p s t xs ys) = some zs)
include integer accumulate first second found target placed writeable poured

theorem assignProduct_completes : (assignProduct (.array number view) (.array i left) (.array j right) (.int 1)
    (keptFactor accumulate)).Completes m fun v after =>
      v = .array number view ∧ m.Changes ∅ {spot | spot ∈ view.spots} after ∧ v.Bears after d u zs := by
  rw [assignProduct, scaledProduct_one, completes_bind]
  refine (matMult_completes integer first second found).imp ?_
  rintro product between ⟨grows, made, _⟩
  cases accumulate with
  | false =>
    simp only [differs_keptFactor, Bool.false_eq_true, if_false, pure_bind, completes_bind, completes_pure]
    refine (setItem_completes integer (target.grown grows) (placed.later grows) writeable made poured).imp ?_
    rintro _ after ⟨changes, shown⟩
    exact ⟨trivial, (grows.widened _ _).trans changes, shown⟩
  | true =>
    obtain ⟨common, joined, over?⟩ := Option.bind_eq_some_iff.mp poured
    simp only [differs_keptFactor, if_true, pure_bind, completes_bind, completes_pure]
    refine (times_completes integer (holds_small integer 1 (by decide) (by decide)) (target.grown grows)).imp ?_
    rintro kept later ⟨further, bears, _⟩
    rw [map_once target.held] at bears
    refine (add_completes integer (made.grown further) bears joined).imp ?_
    rintro total last ⟨more, sum, _⟩
    have grown := (grows.trans further).trans more
    refine (setItem_completes integer (target.grown grown) (placed.later grown) writeable sum over?).imp ?_
    rintro _ after ⟨changes, shown⟩
    exact ⟨trivial, (grown.widened _ _).trans changes, shown⟩

theorem matmulInto_completes : (matmulInto (.array number view) (.array i left) (.array j right) (.int 1)
    (keptFactor accumulate)).Completes m fun v after =>
      v = .array number view ∧ m.Changes ∅ {spot | spot ∈ view.spots} after ∧ v.Bears after d u zs := by
  have assigned := assignProduct_completes integer accumulate first second found target placed writeable poured
  simp only [matmulInto, matmulInto.isDirect, keptFactor, int, equals_whole]
  cases accumulate with
  | true => simpa [keptFactor, int] using assigned
  | false =>
    simp only [decide_true, Bool.not_true, Bool.false_eq_true, if_false, pure_bind]
    split
    · rename_i direct
      rw [Bool.and_eq_true, decide_eq_true_eq, first.shaped, second.shaped, target.shaped] at direct
      obtain rfl := plainProductShape?_unique found direct.1
      obtain rfl : zs = productWords d p s t xs ys :=
        stretchOver?_same_size poured rfl (length_productWords found d xs ys)
      rw [completes_bind]
      refine (matmulOut_completes integer first second found target placed writeable).imp ?_
      rintro _ after ⟨changes, shown⟩
      exact completes_pure.mpr ⟨rfl, changes, shown⟩
    · exact assigned

end

section
variable (integer : d.kind = .integer) (accumulate : Bool) (first : Value.Bears m d s xs (.array i left))
  (second : Value.Bears m d t ys (.array j right)) (target : Value.Bears m d shape cs (.array number view))
include integer accumulate first second target

theorem assignProduct_goesThrough
    (through : (assignProduct (.array number view) (.array i left) (.array j right) (.int 1)
      (keptFactor accumulate)).GoesThrough m) :
    ∃ p, make? s t = some p ∧ view.writeable = true ∧ covers p.resultShape shape = true := by
  rw [GoesThrough, assignProduct, scaledProduct_one, completes_bind] at through
  obtain ⟨p, found⟩ := matmul_goesThrough integer first second through.goesThrough
  refine ⟨p, found, ?_⟩
  obtain ⟨product, between, _, ⟨grows, made, _⟩, through⟩ := (matMult_completes integer first second found).and through
  cases accumulate with
  | false =>
    simp only [differs_keptFactor, Bool.false_eq_true, if_false, pure_bind, completes_bind] at through
    exact setItem_goesThrough (target.grown grows) made through.goesThrough
  | true =>
    simp only [differs_keptFactor, if_true, pure_bind, completes_bind] at through
    obtain ⟨kept, later, _, ⟨further, bears, _⟩, through⟩ :=
      (times_completes integer (holds_small integer 1 (by decide) (by decide)) (target.grown grows)).and through
    obtain ⟨common, joined⟩ := add_goesThrough integer (made.grown further) bears through.goesThrough
    obtain ⟨total, last, _, ⟨more, sum, _⟩, through⟩ :=
      (add_completes integer (made.grown further) bears joined).and through
    obtain ⟨writeable, covered⟩ :=
      setItem_goesThrough (target.grown ((grows.trans further).trans more)) sum through.goesThrough
    exact ⟨writeable, (covers_common_iff _ _).mp ⟨common, joined, covered⟩⟩

theorem matmulInto_goesThrough (through : (matmulInto (.array number view) (.array i left) (.array j right) (.int 1)
      (keptFactor accumulate)).GoesThrough m) :
    ∃ p, make? s t = some p ∧ view.writeable = true ∧ covers p.resultShape shape = true := by
  have assigned := assignProduct_goesThrough integer accumulate first second target
  rw [GoesThrough] at through
  simp only [matmulInto, matmulInto.isDirect, keptFactor, int, equals_whole] at through
  cases accumulate with
  | true =>
    refine assigned ?_
    simpa [GoesThrough, keptFactor, int] using through
  | false =>
    simp only [decide_true, Bool.not_true, Bool.false_eq_true, if_false, pure_bind] at through
    split at through
    · -- a product that is written directly has the shape of the array
      rename_i direct
      rw [Bool.and_eq_true, decide_eq_true_eq, first.shaped, second.shaped, target.shaped] at direct
      rw [completes_bind] at through
      obtain ⟨p, found, writeable⟩ := matmulOut_goesThrough integer first second target.typed through.goesThrough
      refine ⟨p, found, writeable, ?_⟩
      rw [plainProductShape?_unique found direct.1]
      exact coversReversed_self _
    · exact assigned through

end

/-! ### Whole numbers -/

def dotWhole (row column : List Cell) : Int :=
  DType.intOf (dotNum .int64 (row.map numOf) (column.map numOf))

/-- The numbers of a product, row by row. -/
def productWholes (p : ProductShape) (s t : Shape) (xs ys : List Int) : List Int :=
  let starts := matrixStarts (stackOf s) p.stack (p.rows * p.inner)
  let others := matrixStarts (stackOf t) p.stack (p.inner * p.columns)
  (starts.zip others).flatMap fun (i, j) =>
    (rowsOf (xs.map wholeCell).toArray i p.rows p.inner).flatMap fun row =>
      (columnsOf (ys.map wholeCell).toArray j p.inner p.columns).map fun column => dotWhole row column

/-- The shape and the numbers of a product, if the factors fit. -/
def product? (s t : Shape) (xs ys : List Int) : Option (Shape × List Int) :=
  (make? s t).map fun p => (p.resultShape, productWholes p s t xs ys)

/-- What all of an array holds after a product was put into it, on top of its numbers when accumulating. -/
def poured? (accumulate : Bool) (target : Shape) (cs : List Int) (shape : Shape) (ps : List Int) :
    Option (List Int) :=
  if accumulate then
    (Layout.broadcastShapes shape target).bind fun common =>
      stretchOver? common target
        (List.zipWith (BinaryUfunc.onWhole .add) (stretch shape common ps) (stretch target common cs))
  else stretchOver? shape target ps

theorem poured?_eq : poured? = DType.int64.pour? := by
  funext accumulate target cs shape ps
  rw [poured?, DType.pour?, onWhole_eq]

theorem product?_some (found : make? s t = some p) (xs ys : List Int) :
    product? s t xs ys = some (p.resultShape, productWords .int64 p s t xs ys) := by
  rw [product?, found]
  rfl

theorem product?_count (found : product? s t xs ys = some (q, ps)) : ps.length = Shape.size q := by
  simp only [product?, Option.map_eq_some_iff, Prod.mk.injEq] at found
  obtain ⟨p, made, rfl, rfl⟩ := found
  exact length_productWords made .int64 xs ys

section
variable (first : Carries m s xs a) (second : Carries m t ys b)
include first second

/-- A single number has no axes, so it is no factor of a product. -/
theorem arrays_of_product (ran : (Value.binary .matMult a b).Yields m v after) : (∃ i left, a = .array i left)
    ∧ ∃ j right, b = .array j right := by
  have multiplied : (Value.matmul a b).Yields m v after := by
    cases first <;> cases second <;>
      simp only [Value.binary, isBox, isSparse, denseBinary, isNumeric, arrayBinary,
        Value.isDense, Bool.or_self, Bool.or_true, Bool.true_or, Bool.false_eq_true, if_true, if_false,
        yields_fail] at ran <;>
      exact ran
  obtain ⟨p, found⟩ := matmul_goesThrough rfl first.bears second.bears (multiplied.completes trivial)
  cases first with
  | single flat _ _ =>
    subst flat
    simp [make?, split?] at found
  | array _ _ _ _ _ _ =>
    cases second with
    | single flat _ _ =>
      subst flat
      simp [make?, split?] at found
    | array _ _ _ _ _ _ => exact ⟨⟨_, _, rfl⟩, _, _, rfl⟩

theorem matMult_yields (ran : (Value.binary .matMult a b).Yields m v after) :
    ∃ shape zs, product? s t xs ys = some (shape, zs) ∧ m.Grows after ∧ v.Carries after shape zs := by
  obtain ⟨⟨i, left, rfl⟩, j, right, rfl⟩ := arrays_of_product first second ran
  obtain ⟨p, found⟩ := matmul_goesThrough rfl first.bears second.bears (ran.completes trivial)
  obtain ⟨grows, bears, placed⟩ := ran.completes_iff.mp (matMult_completes rfl first.bears second.bears found)
  exact ⟨_, _, product?_some found xs ys, grows, bears.carries placed⟩

theorem matmulInto_yields (accumulate : Bool) (target : Carries m u cs (.array number view))
    (ran : (matmulInto (.array number view) a b (.int 1) (keptFactor accumulate)).Yields m v after) :
    v = .array number view ∧ view.writeable = true ∧ ∃ shape ps zs, product? s t xs ys = some (shape, ps) ∧
      poured? accumulate u cs shape ps = some zs ∧ m.Changes ∅ {spot | spot ∈ view.spots} after ∧
      v.Carries after u zs := by
  have multiplied (otherwise : (assignProduct (.array number view) a b (.int 1)
      (keptFactor accumulate)).Yields m v after) : (∃ i left, a = .array i left) ∧ ∃ j right, b = .array j right := by
    simp only [assignProduct, scaledProduct, bind_assoc, yields_bind] at otherwise
    obtain ⟨_, _, product, _⟩ := otherwise
    exact arrays_of_product first second product
  obtain ⟨⟨i, left, rfl⟩, j, right, rfl⟩ : (∃ i left, a = .array i left) ∧ ∃ j right, b = .array j right := by
    cases id first with
    | single _ _ _ => exact multiplied (by simpa [matmulInto] using ran)
    | array _ _ _ _ _ _ =>
      cases id second with
      | single _ _ _ => exact multiplied (by simpa [matmulInto] using ran)
      | array _ _ _ _ _ _ => exact ⟨⟨_, _, rfl⟩, _, _, rfl⟩
  obtain ⟨p, found, writeable, covered⟩ :=
    matmulInto_goesThrough rfl accumulate first.bears second.bears target.bears (ran.completes trivial)
  obtain ⟨zs, poured⟩ := Option.isSome_iff_exists.mp
    ((pour?_isSome_iff .int64 accumulate u _ cs (productWords .int64 p s t xs ys)).mpr covered)
  obtain ⟨rfl, changes, bears⟩ := ran.completes_iff.mp (matmulInto_completes rfl accumulate first.bears second.bears
    found target.bears (target.placed _ _ rfl) writeable poured)
  refine ⟨rfl, writeable, _, _, zs, product?_some found xs ys, ?_, changes, bears.carries (target.placed.later changes)⟩
  rwa [poured?_eq]

end

/-- A product with as many elements as the target takes the target's shape; any other is stretched. -/
def landed? (accumulate : Bool) (target : Shape) (cs : List Int) (shape : Shape) (ps : List Int) :
    Option (List Int) :=
  if Shape.size shape = Shape.size target then
    some (if accumulate then List.zipWith (BinaryUfunc.onWhole .add) cs ps else ps)
  else poured? accumulate target cs shape ps

theorem landed?_of_poured? (given : poured? accumulate target cs shape ps = some zs)
    (count : cs.length = Shape.size target) (count' : ps.length = Shape.size shape) :
    landed? accumulate target cs shape ps = some zs := by
  rw [landed?]
  by_cases same : Shape.size shape = Shape.size target
  · rw [if_pos same, Option.some_inj]
    cases accumulate with
    | false => exact (stretchOver?_same_size given same count').symm
    | true =>
      simp only [poured?, if_true, Option.bind_eq_some_iff] at given ⊢
      obtain ⟨common, joined, over?⟩ := given
      rw [combined_of_same_size _ joined over? same count count', zipWith_onWhole_comm .add (.inl rfl)]
  · rw [if_neg same]
    exact given

theorem product?_nil_left (t : Shape) (xs ys : List Int) : product? [] t xs ys = none := by
  simp [product?, make?, split?]

theorem product?_nil_right (s : Shape) (xs ys : List Int) : product? s [] xs ys = none := by
  simp [product?, make?, split?]

end
end Rebind
