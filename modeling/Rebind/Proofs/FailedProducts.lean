import Rebind.Proofs.Matrices
/-!
Products that fail. Whatever a product is written into, everything that can go wrong with numbers goes wrong before the
first cell or entry is written: shapes are compared and types are settled first, and a number always has a place in a
type for numbers. Only an object can refuse, and there are none unless an operand is an array of objects.
-/
namespace Rebind

open Number Strided Syntax Value Run

/-- The run gives a result as said and has altered the given parts at most, or it fails and has only added to memory. -/
def Run.Atomic (run : Run α) (m : Memory) (parts : Set Part) (good : α → Prop) : Prop :=
  run.Ends m (fun a after => m.Alters parts after ∧ good a) m.Extends

/-- A value that a product can be written into: an array or a box for numbers, or a sparse matrix. -/
inductive Value.IsTarget (m : Memory) : Value → Prop
  | array {view : View} (typed : view.dtype ≠ .object) (number : Nat) : IsTarget m (.array number view)
  | box {view : View} (typed : view.dtype ≠ .object) (number : Nat) (foreign : Bool) :
      IsTarget m (.box number view foreign)
  | sparse {k : Nat} {o : SparseObject} (matrix : m.Matrix k o content) (writable : o.format.isWritable = true) :
      IsTarget m (.sparse k)

/-- What is altered when all of a value is written. -/
def Value.parts : Value → Set Part
  | .array _ view | .box _ view _ => view.parts
  | _ => {part | part.IsContent}

/-- Whether the cells behind a value may be written. -/
def Value.IsOpen : Value → Prop
  | .array _ view | .box _ view _ => view.writeable = true
  | _ => True

section
variable {m between after : Memory} {d : DType} {v w a b c : Value} {view : View} {plan : Plan} {k : Nat}
  {parts : Set Part} {o : SparseObject} {content : Array (Option Cell)}

/-! ### Runs that fail early -/

theorem atomic_fail {kind : ErrorKind} {good : α → Prop} : (fail kind : Run α).Atomic m parts good :=
  ends_fail.mpr (.refl m)

theorem Run.Leaves.thenAtomic {run : Run β} {next : β → Run α} {good : α → Prop} (adds : run.Adds)
    (later : ∀ b between, run.Yields m b between → m.Extends between → (next b).Atomic between parts good) :
    (run >>= next).Atomic m parts good := by
  refine ends_bind.mpr (adds.ends.given fun b between ran extends_ => ?_)
  refine (later b between ran extends_).imp ?_ fun after further => extends_.trans further
  rintro a after ⟨alters, holds⟩
  exact ⟨(extends_.alters parts).trans alters, holds⟩

theorem atomic_bind_pure {run : Run β} {a : α} {good : β → Prop} {fine : α → Prop} (atomic : run.Atomic m parts good)
    (holds : ∀ b, good b → fine a) : (run >>= fun _ => pure a).Atomic m parts fine := by
  refine ends_bind.mpr (atomic.imp ?_ fun _ extends_ => extends_)
  rintro b after ⟨alters, known⟩
  exact ⟨alters, holds b known⟩

/-! ### Cells -/

theorem assign_atomic (typed : view.dtype ≠ .object) (typed' : d ≠ .object) (counts : v.Counts m d shape) :
    (Value.assign view v).Atomic m view.parts fun _ => view.writeable = true := by
  refine ends_iff.mpr ⟨fun _ after ran => ⟨(assign_alters view v).yields ran, ?_⟩, fun _ after failed => ?_⟩
  · simp only [Value.assign] at ran
    split at ran
    · simp at ran
    · rename_i writeable
      simpa using writeable
  · obtain rfl := assign_fails typed typed' counts failed
    exact .refl m

theorem assignEach_atomic (view : View) (v : Value) (m : Memory) : (do
    if !view.writeable then fail .value
    let cell ← cellFor view.dtype v
    Run.write view (List.replicate view.size cell) : Run Unit).Atomic m view.parts fun _ => view.writeable = true := by
  cases writeable : view.writeable with
  | false => exact ends_bind.mpr (ends_fail.mpr (.refl m))
  | true =>
    refine (cellFor_adds view.dtype v).thenAtomic fun cell between _ _ => ?_
    obtain ⟨⟨⟩, after, ran, _⟩ := write_goesThrough view (List.replicate view.size cell) between
    exact Completes.ends (ran.completes ⟨(write_alters _ _).yields ran, rfl⟩)

theorem assignWhole_atomic (typed : view.dtype ≠ .object) (s : Sparse) (v : Value) (m : Memory) :
    (assignWhole view s v).Atomic m view.parts fun _ => view.writeable = true := by
  have kind : ∀ d : DType, d ≠ .object → d.kind ≠ .object := by decide
  unfold assignWhole
  split
  · rename_i objects
    exact absurd objects (kind _ typed)
  · exact (Sparse.truth_adds s).thenAtomic fun b between _ _ => assignEach_atomic view (.bool b) between
  · exact atomic_fail

theorem setItem_array_atomic (typed : view.dtype ≠ .object) (computed : v.Computed m) (number : Nat) :
    (setItem (.array number view) .ellipsis v).Atomic m view.parts fun _ => view.writeable = true := by
  have whole : select view .ellipsis = pure view := rfl
  cases computed with
  | numbers typed' counts =>
    rw [setItem_counted counts]
    exact assign_atomic typed typed' counts
  | boxed _ _ =>
    simp only [setItem, whole, pure_bind, isBox, if_true]
    exact ends_bind.mpr (ends_fail.mpr (.refl m))
  | @sparse k o found _ =>
    simp only [setItem, whole, pure_bind, isBox, Bool.false_eq_true, if_false]
    exact (sparseContent_adds k).thenAtomic fun s between _ _ => assignWhole_atomic typed s (.sparse k) between

theorem setItem_box_atomic (typed : view.dtype ≠ .object) (computed : v.Computed m) (number : Nat) (foreign : Bool) :
    (setItem (.box number view foreign) .ellipsis v).Atomic m view.parts fun _ => view.writeable = true := by
  have whole : select view .ellipsis = pure view := rfl
  simp only [setItem, whole, pure_bind]
  cases computed with
  | numbers typed' counts =>
    have plain : unboxed v = pure v := by cases counts <;> rfl
    rw [plain, pure_bind]
    exact assign_atomic typed typed' counts
  | boxed typed' counts =>
    refine (unboxed_adds _).thenAtomic fun w between ran extends_ => ?_
    simp only [unboxed, arrayOf, yields_bind, yields_pure] at ran
    obtain ⟨_, _, _, rfl, rfl⟩ := ran
    cases counts.kept extends_.keepsNumbers with
    | array stored same shaped numbers => exact assign_atomic typed typed' (.array stored same shaped numbers)
  | sparse _ _ => exact assignEach_atomic view _ m

/-! ### Matrices -/

theorem entriesFrom_adds (s given : Sparse) : (s.entriesFrom given).Adds := by
  unfold Sparse.entriesFrom
  grind

theorem converted_adds (d : DType) (v : Value) : (Sparse.converted d v).Adds := by
  unfold Sparse.converted
  grind

theorem cellsOf_adds (s : Sparse) (v : Value) : (s.cellsOf v).Adds := by
  unfold Sparse.cellsOf
  refine .bind (converted_adds s.dtype v) fun given => ?_
  grind

theorem Memory.Matrix.later (matrix : m.Matrix k o content) (extends_ : m.Extends after) : after.Matrix k o content :=
  ⟨extends_.held _ _ matrix.found, extends_.held _ _ matrix.stored⟩

theorem Memory.Matrix.assign_atomic (matrix : m.Matrix k o content) (v : Value) :
    (Sparse.assign k v).Atomic m {part | part.IsContent} fun _ => True := by
  have written {m : Memory} (matrix : m.Matrix k o content) (given : List (Option Cell)) :
      (Sparse.write k given).Atomic m {part | part.IsContent} fun _ => True :=
    Completes.ends ((matrix.write_alters given).imp fun _ _ alters => ⟨alters, trivial⟩)
  unfold Sparse.assign
  refine (sparseContent_adds k).thenAtomic fun s between _ extends_ => ?_
  have kept := matrix.later extends_
  split
  · exact atomic_fail
  · exact atomic_fail
  · refine (sparseContent_adds _).thenAtomic fun given _ _ further => ?_
    exact (entriesFrom_adds s given).thenAtomic fun entries _ _ more => written ((kept.later further).later more) entries
  · exact (cellsOf_adds s _).thenAtomic fun cells _ _ further => written (kept.later further) _

/-! ### The kernel -/

theorem matmulOut_atomic (typed : view.dtype ≠ .object) (a b : Value) (m : Memory) :
    (matmulOut a b view).Atomic m view.parts fun _ => view.writeable = true := by
  refine (operand_adds a).thenAtomic fun o _ _ _ => (operand_adds b).thenAtomic fun o' _ _ _ => ?_
  refine (productPlan_adds o o' _).thenAtomic fun plan between planned _ => ?_
  obtain ⟨multiplies, stores⟩ := productPlan_planned planned
  have numeric := multiplies.isNumeric (multiplies.typed ▸ sameKind_ne_object _ _ typed stores)
  refine ends_iff.mpr ⟨fun _ after ran => ⟨?_, ?_⟩, fun _ after failed => ?_⟩
  · refine Leaves.yields (leaves_guard (leaves_forM _ ?_)) ran
    rintro ⟨place, step⟩ member
    obtain ⟨there, given⟩ := List.of_mem_zip member
    obtain ⟨cell, _, same⟩ := numeric.step_written typed given view.buffer place
    dsimp only
    rw [same]
    exact writeCell_alters there cell
  · rw [Plan.into] at ran
    split at ran
    · simp at ran
    · rename_i allowed
      simp only [Bool.or_eq_true, not_or, Bool.not_eq_true, Bool.not_eq_false'] at allowed
      exact allowed.2
  · obtain rfl := numeric.into_fails typed failed
    exact .refl between

theorem assignProduct_atomic (first : a.FreeOfObjects m) (second : b.FreeOfObjects m) (target : c.MayBeBoxed)
    (numeric : c.isBox = true ∨ c.isNumeric = true) (accumulate : Bool)
    (stored : ∀ v between, v.Computed between → (setItem c .ellipsis v).Atomic between c.parts fun _ => c.IsOpen) :
    (assignProduct c a b (.int 1) (keptFactor accumulate)).Atomic m c.parts fun v => v = c ∧ c.IsOpen := by
  rw [assignProduct, scaledProduct_one, differs_keptFactor]
  refine (binary_adds _ a b).thenAtomic fun product between multiplied extends_ => ?_
  have computed := matMult_computed first second multiplied
  have finish (total : Value) (last : Memory) (made : total.Computed last) :
      (do setItem c .ellipsis total; return c : Run Value).Atomic last c.parts fun v => v = c ∧ c.IsOpen :=
    atomic_bind_pure (stored total last made) fun _ opens => ⟨rfl, opens⟩
  cases accumulate with
  | false =>
    rw [pure_bind]
    exact finish product between computed
  | true =>
    simp only [if_true, pure_bind]
    refine (binary_adds _ _ _).thenAtomic fun kept last scaled further => ?_
    obtain ⟨operand, known⟩ := times_mayBeBoxed 1 target numeric scaled
    refine (binary_adds _ _ _).thenAtomic fun total _ added _ => ?_
    exact finish total _ (add_computed (computed.later further) operand known added)

theorem spreadOut_adds (v : Value) : v.spreadOut.Adds := by
  cases v with
  | sparse other => exact .bind (sparseContent_adds other) fun s => Sparse.toArray_adds s
  | _ => exact asArray_adds _

theorem Memory.Matrix.writeOver_atomic (matrix : m.Matrix k o content) (dense : Value) :
    (writeOver k dense).Atomic m {part | part.IsContent} fun v => v = .sparse k := by
  cases dense with
  | array number view =>
    refine (sparseContent_adds k).thenAtomic fun s _ _ extends_ => ?_
    refine (reshapeView_adds _ _).thenAtomic fun shaped between _ more => ?_
    have kept := (matrix.later extends_).later more
    dsimp only
    split
    · exact ends_bind.mpr (ends_fail.mpr (.refl between))
    · refine (arrayOf_adds shaped).thenAtomic fun given _ _ again => ?_
      exact atomic_bind_pure ((kept.later again).assign_atomic given) fun _ _ => rfl
  | _ => exact atomic_fail

theorem assignSparseProduct_atomic (matrix : m.Matrix k o content) (a b : Value) (accumulate : Bool) :
    (assignSparseProduct k a b (.int 1) (keptFactor accumulate)).Atomic m {part | part.IsContent}
      fun v => v = .sparse k := by
  have finish (total : Value) (last : Memory) (kept : last.Matrix k o content) :
      (total.spreadOut >>= writeOver k).Atomic last {part | part.IsContent} fun v => v = .sparse k :=
    (spreadOut_adds total).thenAtomic fun dense _ _ extends_ => (kept.later extends_).writeOver_atomic dense
  rw [assignSparseProduct_eq, scaledProduct_one, differs_keptFactor]
  refine (binary_adds _ a b).thenAtomic fun product between _ extends_ => ?_
  have kept := matrix.later extends_
  cases accumulate with
  | false =>
    rw [pure_bind]
    exact finish product between kept
  | true =>
    simp only [if_true, pure_bind]
    refine (binary_adds _ _ _).thenAtomic fun scaled _ _ further => ?_
    refine (binary_adds _ _ _).thenAtomic fun total last _ more => ?_
    exact finish total last ((kept.later further).later more)

theorem isDirect_whole (x y : Int) (target left right : View) :
    matmulInto.isDirect (.int x) (.int y) target left right = pure (decide (x = 1) && decide (y = 0) &&
      (decide (plainProductShape? left.shape right.shape = some target.shape) &&
        (left.dtype.promote right.dtype).sameKind target.dtype)) := by
  simp only [matmulInto.isDirect, int, equals_whole, pure_bind]
  by_cases one : x = 1
  · by_cases zero : y = 0 <;> simp [one, zero]
  · simp [one]

theorem matmulInto_atomic (target : c.IsTarget m) (first : a.FreeOfObjects m) (second : b.FreeOfObjects m)
    (accumulate : Bool) :
    (matmulInto c a b (.int 1) (keptFactor accumulate)).Atomic m c.parts fun v => v = c ∧ c.IsOpen := by
  cases target with
  | @array view typed number =>
    have assigned := assignProduct_atomic first second (.bare (.array typed number)) (.inr rfl) accumulate
      fun v between computed => setItem_array_atomic typed computed number
    have direct (a b : Value) : (do
        matmulOut a b view
        return .array number view : Run Value).Atomic m view.parts
          fun v => v = .array number view ∧ view.writeable = true :=
      atomic_bind_pure (matmulOut_atomic typed a b m) fun _ opens => ⟨rfl, opens⟩
    cases a with
    | array i left =>
      cases b with
      | array j right =>
        rw [matmulInto, keptFactor, isDirect_whole, pure_bind]
        generalize (_ && _ : Bool) = told
        cases told with
        | true => exact direct _ _
        | false => exact assigned
      | _ => exact assigned
    | _ => exact assigned
  | @box view typed number foreign =>
    exact assignProduct_atomic first second (.box typed number foreign) (.inl rfl) accumulate
      fun v between computed => setItem_box_atomic typed computed number foreign
  | @sparse _ k o matrix writable =>
    refine (assignSparseProduct_atomic matrix a b accumulate).imp ?_ fun _ extends_ => extends_
    rintro v after ⟨alters, rfl⟩
    exact ⟨alters, rfl, trivial⟩

end
end Rebind
