import Rebind.Proofs.FlatProducts
/-!
Products of two arrays, with nothing flattened. The way in place stretches the product over the target, the other way
gives it the shape of the target. So they do not go through under the same conditions: the one asks that the shape of
the product covers the target, the other that there are as many numbers. Where both go through they leave the same
numbers.
-/
namespace Rebind

open Number Strided Syntax Update Program Value Run Layout ProductShape

section
variable {m : Memory} {d : DType} {v w : Value} {view other left right : View} {p : ProductShape}
  {s t shape : Strided.Shape} {xs ys cs : List Int}

/-! ### What goes through -/

section
variable (integer : d.kind = .integer) (ready : m.Ready) (target : m.Stores z d shape cs number view)
  (first : m.Stores x d s xs i left) (second : m.Stores y d t ys j right)
include integer ready target first second

theorem productInto_goesThrough (accumulate : Bool)
    (through : (exec (n + 8) none (productInto span (.name span.lines z) (.name span.lines x)
      (.name span.lines y) accumulate)).GoesThrough m) :
    ∃ p, make? s t = some p ∧ view.writeable = true ∧ covers p.resultShape shape = true := by
  have plain : ∀ e ∈ [.name span.lines z, .name span.lines x, .name span.lines y] ++ unitsIf accumulate span.lines,
      Update.isStarred e = false := by
    cases accumulate <;> simp [unitsIf, one, Update.isStarred]
  have evaluated := completes_eval_call.mp (completes_exec_expr.mp through)
  have called := kernel_goesThrough ready rfl plain (fun _ _ => rfl) rfl evaluated
  obtain ⟨vs, between, _, ⟨grows, i', left', j', right', same, bears, bears'⟩, caller, called⟩ :=
    (productArguments_complete ready false false accumulate target first second).and called
  refine matmulInto_goesThrough integer accumulate bears bears' (target.grown grows).bears ?_
  rw [same] at called
  cases accumulate <;> exact called

theorem restructured_goesThrough
    (through : (evalWhole (n + 9) none (callLibrary l "restructure" [.name l z, .binary l .matMult (.name l x)
      (.name l y)])).GoesThrough m) :
    ∃ p, make? s t = some p ∧ p.resultShape.size = shape.size := by
  have called := kernel_goesThrough ready rfl (by simp [Update.isStarred]) (fun _ _ => rfl) rfl through
  simp only [List.mapM_cons, List.mapM_nil, completes_bind, completes_pure, completes_evalWhole_name,
    loadGlobal_completes target.bound] at called
  have multiplied := called
  simp only [completes_evalWhole_binary, completes_eval_name, loadGlobal_completes first.bound,
    loadGlobal_completes second.bound] at multiplied
  obtain ⟨p, found⟩ := matmul_goesThrough integer first.bears second.bears multiplied.goesThrough
  obtain ⟨product, between, _, ⟨grows, made⟩, caller, called⟩ :=
    (eval_multiplied_completes integer ready false false first second found).and called
  refine ⟨p, found, restructure_goesThrough (target.grown grows).bears integer made ?_⟩
  rw [List.map_cons, List.map_cons, made.bare] at called
  exact called

theorem productBound_goesThrough (accumulate : Bool)
    (through : (exec (n + 13) none (productBound span (.name span.lines z) (.name span.lines x)
      (.name span.lines y) accumulate)).GoesThrough m) :
    ∃ p, make? s t = some p ∧ p.resultShape.size = shape.size := by
  have evaluated := (completes_exec_assign.mp through).goesThrough
  cases accumulate with
  | false => exact restructured_goesThrough integer ready target first second evaluated
  | true =>
    have summed := completes_evalWhole_binary.mp evaluated
    rw [completes_eval_name, loadGlobal_completes target.bound] at summed
    exact restructured_goesThrough integer ready target first second (completes_eval_call.mp summed).goesThrough

end

/-! ### The replacement as a whole -/

def plainProduct (span : Span) (accumulate : Bool) (target left right : String) : Stmt :=
  let product : Expr := .binary span.lines .matMult (.name span.lines left) (.name span.lines right)
  if accumulate then .augmented span (.name span.lines target) .add product
  else .assign span [.name span.lines target] product

def plainProductReplaced (span : Span) (accumulate : Bool) (target left right : String) : Stmt :=
  capabilityBranch span (.name span.lines target)
    [productInto span (.name span.lines target) (.name span.lines left) (.name span.lines right) accumulate]
    [productBound span (.name span.lines target) (.name span.lines left) (.name span.lines right) accumulate]

theorem plainProduct_lowered (policy : Policy) (depth : Int) (progress : Progress) (span : Span) (accumulate : Bool)
    (allowed : accumulate = true → policy.accumulate = true) (target left right : String) :
    ∃ last, lowerStatement policy depth (plainProduct span accumulate target left right) progress =
      (.ok (plainProductReplaced span accumulate target left right), last) := by
  have taken : special? policy.accumulate (plainProduct span accumulate target left right) =
      .ok (some (.product (.name span.lines target) (.name span.lines left) (.name span.lines right) .neither
        accumulate)) := by
    cases accumulate with
    | false => rfl
    | true =>
      rw [allowed rfl]
      rfl
  have placed : (plainProduct span accumulate target left right).span = span := by
    cases accumulate <;> rfl
  simp only [lowerStatement, recognise_special taken, placed]
  exact ⟨_, rfl⟩

theorem plainProductReplaced_plain (span : Span) (accumulate : Bool) (target left right : String)
    (free : canBind target = true) : (plainProductReplaced span accumulate target left right).Plain :=
  plain_capabilityBranch (by simpa using plain_productInto accumulate .name .name .name)
    (by simpa using plain_productBound accumulate free .name .name)

theorem execAll_single_goesThrough {statement : Stmt} (through : (execAll (n + 1) none [statement]).GoesThrough m) :
    (exec n none statement).GoesThrough m := by
  rw [GoesThrough] at through
  simp only [execAll, completes_bind] at through
  exact through.goesThrough

theorem plainProduct_runs {post : Unit → Memory → Prop} (ready : m.Ready) (free : canBind a = true)
    (target : m.Stores a d shape cs number view) :
    (runStatement (plainProductReplaced span accumulate a x y)).Completes m post ↔
      (execAll 9999 none (if view.writeable then
        [productInto span (.name span.lines a) (.name span.lines x) (.name span.lines y) accumulate]
        else [productBound span (.name span.lines a) (.name span.lines x) (.name span.lines y)
          accumulate])).Completes m fun _ after => post () after :=
  (runStatement_completes (plainProductReplaced_plain span accumulate a x y free)).trans
    (capabilityBranch_completes (n := 9994) ready target.bound)

section
variable (integer : d.kind = .integer) (ready : m.Ready) (free : canBind a = true)
  (target : m.Stores a d shape cs number view) (first : m.Stores x d s xs i left) (second : m.Stores y d t ys j right)
include integer ready free target first second

theorem plainProduct_written (placed : view.Placed m) (writeable : view.writeable = true) (found : make? s t = some p)
    (poured : d.pour? accumulate shape cs p.resultShape (productWords d p s t xs ys) = some zs) :
    (runStatement (plainProductReplaced span accumulate a x y)).Completes m fun _ after =>
      after.Stores a d shape zs number view := by
  rw [plainProduct_runs ready free target, writeable, if_pos rfl]
  refine execAll_cons_completes ((productInto_completes (n := 9990) integer ready false false first second
    found accumulate target placed writeable poured).imp ?_)
  rintro flow after ⟨goesOn, _, stores⟩
  exact ⟨goesOn, completes_execAll_nil.mpr stores⟩

theorem plainProduct_written_iff (placed : view.Placed m) (writeable : view.writeable = true) :
    (runStatement (plainProductReplaced span accumulate a x y)).GoesThrough m ↔
      ∃ p, make? s t = some p ∧ Layout.covers p.resultShape shape = true := by
  constructor
  · intro through
    rw [GoesThrough, plainProduct_runs ready free target, writeable, if_pos rfl] at through
    obtain ⟨p, found, _, covered⟩ := productInto_goesThrough integer ready target first second accumulate
      (execAll_single_goesThrough (n := 9998) through)
    exact ⟨p, found, covered⟩
  · rintro ⟨p, found, covers⟩
    obtain ⟨zs, poured⟩ := Option.isSome_iff_exists.mp
      ((pour?_isSome_iff d accumulate shape p.resultShape cs (productWords d p s t xs ys)).mpr covers)
    exact (plainProduct_written integer ready free target first second placed writeable found poured).goesThrough

theorem plainProduct_bound (readOnly : view.writeable = false) (found : make? s t = some p)
    (size : p.resultShape.size = shape.size) :
    (runStatement (plainProductReplaced span accumulate a x y)).Completes m fun _ after =>
      ∃ w, after.globals.lookup a = some w ∧
        w.bare.Bears after d shape (d.settle accumulate cs (productWords d p s t xs ys)) := by
  rw [plainProduct_runs ready free target, readOnly, if_neg (by decide)]
  refine execAll_cons_completes ((productBound_completes (n := 9985) integer ready false false first second
    found accumulate target size).imp ?_)
  rintro flow after ⟨goesOn, bound⟩
  exact ⟨goesOn, completes_execAll_nil.mpr bound⟩

theorem plainProduct_bound_iff (readOnly : view.writeable = false) :
    (runStatement (plainProductReplaced span accumulate a x y)).GoesThrough m ↔
      ∃ p, make? s t = some p ∧ p.resultShape.size = shape.size := by
  constructor
  · intro through
    rw [GoesThrough, plainProduct_runs ready free target, readOnly, if_neg (by decide)] at through
    exact productBound_goesThrough integer ready target first second accumulate
      (execAll_single_goesThrough (n := 9998) through)
  · rintro ⟨p, found, size⟩
    exact (plainProduct_bound integer ready free target first second readOnly found size).goesThrough

end

/-- Where the two ways of a product go through, and that they agree there. In the first memory the target takes writes:
the product must cover it. In the second it is read-only and shows the same numbers at first: the product must have as
many numbers. If both go through, the first target is the array it was and the second is bound to a value of its shape,
and both show the product, added to the old numbers for `+=`. Any of the arrays may share cells. -/
theorem plainProduct_inPlace_agrees (policy : Policy) (depth : Int) (progress : Progress) (span : Span)
    (accumulate : Bool) (allowed : accumulate = true → policy.accumulate = true) (target left right : String)
    (free : canBind target = true) (d : DType) (integer : d.kind = .integer) (shape s t : Strided.Shape)
    (cs xs ys : List Int) (first second : Memory) (ready : first.Ready) (ready' : second.Ready)
    (number number' i i' j j' : Nat) (view frozen leftView leftView' rightView rightView' : View)
    (given : first.Stores target d shape cs number view) (placed : view.Placed first)
    (writeable : view.writeable = true) (given' : second.Stores target d shape cs number' frozen)
    (readOnly : frozen.writeable = false) (lefts : first.Stores left d s xs i leftView)
    (lefts' : second.Stores left d s xs i' leftView') (rights : first.Stores right d t ys j rightView)
    (rights' : second.Stores right d t ys j' rightView') : ∃ replaced last,
      lowerStatement policy depth (plainProduct span accumulate target left right) progress = (.ok replaced, last) ∧
      ((Program.runStatement replaced).GoesThrough first ↔
        ∃ p, ProductShape.make? s t = some p ∧ Layout.covers p.resultShape shape = true) ∧
      ((Program.runStatement replaced).GoesThrough second ↔
        ∃ p, ProductShape.make? s t = some p ∧ p.resultShape.size = shape.size) ∧
      ∀ first' second', (Program.runStatement replaced).Yields first () first' →
        (Program.runStatement replaced).Yields second () second' →
          ∃ p w, ProductShape.make? s t = some p ∧
            first'.Stores target d shape (d.settle accumulate cs (productWords d p s t xs ys)) number view ∧
            second'.globals.lookup target = some w ∧
            w.bare.Bears second' d shape (d.settle accumulate cs (productWords d p s t xs ys)) := by
  obtain ⟨last, lowered⟩ := plainProduct_lowered policy depth progress span accumulate allowed target left right
  let replaced := plainProductReplaced span accumulate target left right
  have written : (Program.runStatement replaced).GoesThrough first ↔ _ :=
    plainProduct_written_iff integer ready free given lefts rights placed writeable
  have bound : (Program.runStatement replaced).GoesThrough second ↔ _ :=
    plainProduct_bound_iff integer ready' free given' lefts' rights' readOnly
  refine ⟨replaced, last, lowered, written, bound, ?_⟩
  intro first' second' ran ran'
  obtain ⟨p, found, covers⟩ := written.mp (ran.completes trivial)
  obtain ⟨q, found', size⟩ := bound.mp (ran'.completes trivial)
  obtain rfl : p = q := Option.some.inj (found.symm.trans found')
  obtain ⟨zs, poured⟩ := Option.isSome_iff_exists.mp
    ((pour?_isSome_iff d accumulate shape p.resultShape cs (productWords d p s t xs ys)).mpr covers)
  obtain rfl := pour?_same_size poured size given.bears.count (length_productWords found d xs ys)
  have stores := ran.completes_iff.mp
    (plainProduct_written integer ready free given lefts rights placed writeable found poured)
  obtain ⟨w, held, bears⟩ := ran'.completes_iff.mp
    (plainProduct_bound integer ready' free given' lefts' rights' readOnly found size)
  exact ⟨p, w, found, stores, held, bears⟩

/-- A square `a` and a row `c`, taking writes or read-only, and a square `b`. -/
def squaresAndRow (readOnly : Bool) : Memory where
  buffers := ([[0, 0, 0, 0], [1, 2, 3, 4], [5, 6]].map fun row => (row.map wholeCell).toArray).toArray
  objects := #[.token, .token, .token]
  globals :=
    [("a", .array 0 ⟨0, rowMajor [2, 2], .int64, !readOnly⟩),
    ("b", .array 1 ⟨1, rowMajor [2, 2], .int64, true⟩),
    ("c", .array 2 ⟨2, rowMajor [2], .int64, !readOnly⟩)]
  prelude := replacedNames

theorem squaresAndRow_stores (readOnly : Bool) :
    (squaresAndRow readOnly).Stores "a" .int64 [2, 2] [0, 0, 0, 0] 0 ⟨0, rowMajor [2, 2], .int64, !readOnly⟩ ∧
    (squaresAndRow readOnly).Stores "b" .int64 [2, 2] [1, 2, 3, 4] 1 ⟨1, rowMajor [2, 2], .int64, true⟩ ∧
    (squaresAndRow readOnly).Stores "c" .int64 [2] [5, 6] 2 ⟨2, rowMajor [2], .int64, !readOnly⟩ := by
  refine ⟨⟨rfl, ?_⟩, ⟨rfl, ?_⟩, ⟨rfl, ?_⟩⟩
  all_goals exact .array (by cases readOnly <;> decide) (by cases readOnly <;> decide) rfl rfl rfl (by decide)

/-- `c += b @ c`, where the target is a factor. -/
theorem product_of_target_agrees : ∃ replaced last first second w,
    lowerStatement .standard 1 (plainProduct ⟨1, 0, 1, 10⟩ true "c" "b" "c") {} = (.ok replaced, last) ∧
    (Program.runStatement replaced).Yields (squaresAndRow false) () first ∧
    (Program.runStatement replaced).Yields (squaresAndRow true) () second ∧
    first.Stores "c" .int64 [2] [22, 45] 2 ⟨2, Layout.rowMajor [2], .int64, true⟩ ∧
    second.globals.lookup "c" = some w ∧ w.bare.Bears second .int64 [2] [22, 45] := by
  obtain ⟨_, lefts, given⟩ := squaresAndRow_stores false
  obtain ⟨_, lefts', given'⟩ := squaresAndRow_stores true
  obtain ⟨replaced, last, lowered, written, bound, agrees⟩ := plainProduct_inPlace_agrees .standard 1 {} ⟨1, 0, 1, 10⟩
    true (fun _ => rfl) "c" "b" "c" rfl .int64 rfl [2] [2, 2] [2] _ _ _ (squaresAndRow false) (squaresAndRow true)
    ⟨rfl, rfl⟩ ⟨rfl, rfl⟩ 2 2 1 1 2 2 _ _ _ _ _ _ given ⟨by decide, by decide, by decide⟩ rfl given' rfl lefts lefts'
    given given'
  obtain ⟨_, first, ran, _⟩ := written.mpr ⟨⟨[], 2, 2, 1, false, true⟩, rfl, rfl⟩
  obtain ⟨_, second, ran', _⟩ := bound.mpr ⟨⟨[], 2, 2, 1, false, true⟩, rfl, rfl⟩
  obtain ⟨p, w, found, stores, held, bears⟩ := agrees first second ran ran'
  cases found
  exact ⟨replaced, last, first, second, w, lowered, ran, ran', stores, held, bears⟩

/-- `a = b @ c` with a row for a product: it is written into each row of the square, but the square cannot be bound to
it. -/
theorem stretched_product_differs : ∃ replaced last,
    lowerStatement .standard 1 (plainProduct ⟨1, 0, 1, 9⟩ false "a" "b" "c") {} = (.ok replaced, last) ∧
    (Program.runStatement replaced).GoesThrough (squaresAndRow false) ∧
    ¬ (Program.runStatement replaced).GoesThrough (squaresAndRow true) := by
  obtain ⟨last, lowered⟩ := plainProduct_lowered .standard 1 {} ⟨1, 0, 1, 9⟩ false (by simp) "a" "b" "c"
  obtain ⟨given, lefts, rights⟩ := squaresAndRow_stores false
  obtain ⟨given', lefts', rights'⟩ := squaresAndRow_stores true
  refine ⟨_, last, lowered, ?_, ?_⟩
  · exact (plainProduct_written_iff rfl ⟨rfl, rfl⟩ rfl given lefts rights ⟨by decide, by decide, by decide⟩ rfl).mpr
      ⟨⟨[], 2, 2, 1, false, true⟩, rfl, rfl⟩
  · intro through
    obtain ⟨p, found, size⟩ := (plainProduct_bound_iff rfl ⟨rfl, rfl⟩ rfl given' lefts' rights' rfl).mp through
    cases found
    revert size
    decide

end
end Rebind
