import Rebind.Proofs.FlatKernels
import Rebind.Proofs.ScaledSums
/-!
The kernels on whole numbers: what each of them makes of the numbers that its arguments carry, which cells
it writes, and where its result lies.
-/
namespace Rebind

open Number Strided Syntax Value Run

section
variable {m between after : Memory} {v w : Value} {view made other : View}

/-! ### Scaled sums -/

theorem scaledAddInto_yields (alpha beta : Int) (target : Carries m t ys (.array number view))
    (carries : Carries m s xs x)
    (ran : (scaledAddInto (.array number view) (.num (.int alpha)) x (.num (.int beta))).Yields m v after) :
    v = .array number view ∧ view.writeable = true ∧
      (∃ layout, (Layout.rowMajor s).broadcastTo? t = some layout) ∧
      m.Changes ∅ {spot | spot ∈ view.spots} after ∧
      v.Carries after t
        (List.zipWith (BinaryUfunc.onWhole .add) (scaled beta ys) (stretch s t (scaled alpha xs))) := by
  have multiplied : applyBinary .multiply (.num (.int alpha)) x =
      binaryUfunc .multiply (.num (.int alpha)) x := by
    cases carries <;> rfl
  simp only [scaledAddInto, multiplied] at ran
  rw [yields_bind] at ran
  obtain ⟨product, between, scale, ran⟩ := ran
  obtain ⟨grows, made, new⟩ := scale_yields alpha carries scale
  rw [yields_bind] at ran
  obtain ⟨d, _, typed, ran⟩ := ran
  obtain ⟨rfl, rfl⟩ := typed.completes_iff.mp
    (sumType_completes (meetIn_signed (by simp) (by simp)) made.bears (target.grown grows).bears beta)
  have placed : view.Placed m := target.placed _ _ rfl
  rw [target.bears.typed, if_pos (show (DType.int64.promote .int64).sameKind .int64 = true from rfl),
    differs_whole, pure_bind, yields_ite] at ran
  have kept := target.grown grows
  rcases ran with ⟨_, ran⟩ | ⟨once, ran⟩
  · simp only [yields_bind, yields_pure] at ran
    obtain ⟨_, last, weighted, _, _, summed, rfl, rfl⟩ := ran
    obtain ⟨_, _, _, changes, carries'⟩ := binaryUfuncInto_yields .multiply kept (.plain rfl rfl) weighted
    rw [(zipWith_multiply_single beta ys kept.count).2] at carries'
    obtain ⟨_, writeable, fits, further, total⟩ :=
      binaryUfuncInto_yields .add carries' (.carried (made.later changes (new.avoids placed))) summed
    exact ⟨rfl, writeable, fits, ((grows.widened _ _).trans changes).trans further, total⟩
  · simp only [yields_bind, yields_pure] at ran
    obtain ⟨_, _, summed, rfl, rfl⟩ := ran
    obtain ⟨_, writeable, fits, changes, total⟩ := binaryUfuncInto_yields .add kept (.carried made) summed
    have one : beta = 1 := by simpa using once
    rw [one, scaled_one ys kept.wholes]
    exact ⟨rfl, writeable, fits, (grows.widened _ _).trans changes, total⟩

/-! ### Other shapes -/

theorem vec_yields (carries : Carries m s xs (.array number view)) (ran : (vec (.array number view)).Yields m v after) :
    m.Grows after ∧ ∃ k other, v = .array k other ∧ m.objects.size ≤ k ∧ v.Carries after [Shape.size s] xs ∧
      View.From m view other := by
  obtain ⟨grows, k, other, rfl, late, bears, made, placed⟩ := ran.completes_iff.mp (vec_completes carries.bears)
  exact ⟨grows, k, other, rfl, late, bears.carries ((placed (carries.placed _ _ rfl)).array k), made⟩

theorem restructure_yields (reference : Carries m t cs (.array number view)) (carries : w.Carries m q ps)
    (ran : (restructure (.array number view) w).Yields m v after) :
    m.Grows after ∧ v.Carries after t ps ∧ Shape.size q = Shape.size t := by
  have size := restructure_goesThrough reference.bears rfl carries.bears (ran.completes trivial)
  obtain ⟨grows, bears, _, placed⟩ :=
    ran.completes_iff.mp (restructure_completes rfl reference.bears carries.bears size)
  exact ⟨grows, bears.carries (placed carries.placed), size⟩

theorem unflattenInto_yields (target : Carries m t cs (.array number view)) (flat : Carries m q zs (.array k other))
    (different : k ≠ number) (made : other.spots = view.spots ∨ other.buffer ≠ view.buffer)
    (ran : (unflattenInto (.array number view) (.array k other)).Yields m v after) :
    v = .array number view ∧ m.Changes ∅ {spot | spot ∈ view.spots} after ∧ v.Carries after t zs := by
  rcases unflattenInto_eq different made with written | ⟨same, unchanged⟩
  · simp only [written, yields_bind, yields_pure] at ran
    obtain ⟨shaped, _, restructured, _, _, assigned, rfl, rfl⟩ := ran
    obtain ⟨grows, carries, _⟩ := restructure_yields target flat restructured
    obtain ⟨_, out, over?, changes, shown⟩ := setItem_yields (target.grown grows) carries assigned
    rw [stretchOver?_same_size over? rfl carries.count] at shown
    exact ⟨rfl, (grows.widened _ _).trans changes, shown⟩
  · rw [unchanged, yields_pure] at ran
    obtain ⟨rfl, rfl⟩ := ran
    refine ⟨rfl, .refl _ _ _, ?_⟩
    cases target with
    | array known placed typed shaped _ _ =>
      cases flat with
      | array _ _ _ _ shown wholes =>
        rw [Memory.contents, same] at shown
        exact .array known placed typed shaped shown wholes

/-! ### New values -/

/-- The zero of the elements of an array of objects, if the first of them is a number. -/
def elementZero (d : DType) (cells : List Cell) : Option Value :=
  match cells with
  | .object first :: _ => if d = .object then zeroLike? first else none
  | _ => none

/-- What fills an array of zeros. -/
def zeroElement (d : DType) (cells : List Cell) : Cell := ((elementZero d cells).map Cell.object).getD (zeroCell d)

/-- A new array in cells of its own, with the form of another one. -/
structure View.Anew (m after : Memory) (view made : View) (cells : List Cell) : Prop where
  shape : made.shape = view.shape
  dtype : made.dtype = view.dtype
  new : m.buffers.size ≤ made.buffer
  placed : made.Placed after
  shown : after.contents made = cells

/-- A new array that can be written to or not. -/
def Value.LikeNew (m after : Memory) (view : View) (writeable : Bool) (cells : List Cell) (v : Value) : Prop :=
  m.Grows after ∧ ∃ k made, v = .array k made ∧ m.objects.size ≤ k ∧ made.writeable = writeable ∧
    View.Anew m after view made cells ∧ k < after.objects.size

theorem newLike_completes (m : Memory) {view : View} {cells : List Cell} (count : cells.length = view.size) :
    (do arrayOf (← newView view.dtype view.layout.copied cells) : Run Value).Completes m fun v after =>
      v.LikeNew m after view true cells := by
  have filled : cells.length = view.layout.copied.size := by
    rw [count, Layout.size, Layout.copied_shape]
    rfl
  rw [completes_bind]
  refine (newView_completes view.dtype (Layout.copied_fills _) filled).imp ?_
  rintro made between ⟨rfl, placed, grows, shown⟩
  refine (arrayOf_completes _ between).imp ?_
  rintro _ after ⟨further, rfl, known⟩
  refine ⟨grows.trans further, _, _, rfl, grows.objects, rfl, ⟨Layout.copied_shape _, rfl, Nat.le_refl _,
    placed.later further, ?_⟩, known⟩
  rw [further.contents placed (by simp), shown]

theorem completes_elementZero? {post : Option Value → Memory → Prop} :
    (elementZero? view).Completes m post ↔ post (elementZero view.dtype (m.contents view)) m := by
  unfold elementZero? elementZero
  by_cases objects : view.dtype = .object
  · simp only [objects, ne_eq, not_true_eq_false, if_false, if_true, completes_bind, completes_read]
    rcases m.contents view with _ | ⟨_ | _, _⟩ <;> simp
  · simp only [objects, ne_eq, not_false_eq_true, if_true, if_false, completes_pure]
    split <;> rfl

theorem likeArray_completes (number : Nat) (otherwise : DType → Cell) :
    (likeArray (.array number view) otherwise).Completes m fun v after =>
      v.LikeNew m after view true (List.replicate view.size
          (((elementZero view.dtype (m.contents view)).map Cell.object).getD (otherwise view.dtype))) := by
  simp only [likeArray, arrayLike, bind_assoc, completes_bind, completes_elementZero?]
  have made (cell : Cell) := newLike_completes m (List.length_replicate : (List.replicate view.size cell).length = _)
  simp only [completes_bind] at made
  cases elementZero view.dtype (m.contents view) with
  | none => exact made _
  | some zero => exact made _

theorem copyOf_completes (number : Nat) (view : View) (m : Memory) :
    (copyOf (.array number view)).Completes m fun v after => v.LikeNew m after view true (m.contents view) := by
  simpa only [copyOf, copyView, bind_assoc, completes_bind, completes_read] using
    newLike_completes m (length_contents m view)

theorem zeroValue_completes (number : Nat) (view : View) (m : Memory) :
    (zeroValue (.array number view)).Completes m fun v after =>
      v.LikeNew m after view view.writeable (List.replicate view.size (zeroElement view.dtype (m.contents view))) := by
  simp only [zeroValue, zeroOf, zeroLike?, completes_bind]
  refine (likeArray_completes number zeroCell).imp ?_
  rintro _ after ⟨grows, k, made, rfl, new, _, anew, known⟩
  rw [completes_pure]
  exact ⟨grows, k, _, rfl, new, rfl, ⟨anew.shape, anew.dtype, anew.new, ⟨anew.placed.buffer, anew.placed.bounds,
    anew.placed.distinct⟩, anew.shown⟩, known⟩

theorem Value.LikeNew.carries {writeable : Bool} (new : w.LikeNew m after view writeable (zs.map wholeCell))
    (typed : view.dtype = .int64) (wholes : ∀ z ∈ zs, IsWhole z) :
    m.Grows after ∧ w.Carries after view.shape zs ∧ (writeable = true → w.NewSince m) := by
  obtain ⟨grows, k, made, rfl, _, written, anew, known⟩ := new
  refine ⟨grows, .array known anew.placed (anew.dtype.trans typed) anew.shape anew.shown wholes, ?_⟩
  rintro rfl _ _ ⟨⟩
  exact ⟨anew.new, written⟩

theorem copyOf_yields (carries : v.Carries m s xs) (ran : (copyOf v).Yields m w after) :
    m.Grows after ∧ w.Carries after s xs ∧ w.NewSince m := by
  cases id carries with
  | array _ _ typed shaped shown wholes =>
    have new := ran.completes_iff.mp (copyOf_completes _ _ m)
    rw [shown] at new
    obtain ⟨grows, copy, since⟩ := new.carries typed wholes
    exact ⟨grows, shaped ▸ copy, since rfl⟩
  | single flat alone whole =>
    simp only [copyOf, shallowCopy, yields_pure] at ran
    obtain ⟨rfl, rfl⟩ := ran
    exact ⟨.refl _ _ _, carries, by rintro _ _ ⟨⟩⟩

theorem Value.LikeNew.zeros {writeable : Bool}
    (new : w.LikeNew m after view writeable (List.replicate view.size (zeroElement view.dtype (m.contents view))))
    (typed : view.dtype = .int64) (shaped : view.shape = s) :
    m.Grows after ∧ w.Carries after s (List.replicate (Shape.size s) 0) ∧ (writeable = true → w.NewSince m) := by
  have zero : zeroElement view.dtype (m.contents view) = wholeCell 0 := by
    unfold zeroElement elementZero
    split <;> simp [typed] <;> rfl
  rw [zero, ← List.map_replicate] at new
  subst shaped
  refine new.carries typed fun z member => ?_
  rw [List.eq_of_mem_replicate member]
  exact isWhole_zero

theorem zeroOf_yields (carries : v.Carries m s xs) (ran : (zeroOf v).Yields m w after) :
    m.Grows after ∧ w.Carries after s (List.replicate (Shape.size s) 0) ∧ w.NewSince m := by
  cases carries with
  | @array number view _ _ typed shaped _ _ =>
    have made : (likeArray (.array number view) zeroCell).Yields m w after := ran
    obtain ⟨grows, zero, since⟩ := (made.completes_iff.mp (likeArray_completes number zeroCell)).zeros typed shaped
    exact ⟨grows, zero, since rfl⟩
  | single flat _ _ =>
    simp only [zeroOf, zeroLike?, reduceCtorEq, if_false, yields_pure] at ran
    obtain ⟨rfl, rfl⟩ := ran
    exact ⟨.refl _ _ _, .single flat (by rw [flat]; rfl) isWhole_zero, by rintro _ _ ⟨⟩⟩

theorem zeroValue_yields (carries : v.Carries m s xs) (ran : (zeroValue v).Yields m w after) :
    m.Grows after ∧ w.Carries after s (List.replicate (Shape.size s) 0) := by
  cases id carries with
  | array _ _ typed shaped _ _ =>
    obtain ⟨grows, zero, _⟩ := (ran.completes_iff.mp (zeroValue_completes _ _ m)).zeros typed shaped
    exact ⟨grows, zero⟩
  | single _ _ _ =>
    simp only [zeroValue, yields_bind, yields_pure] at ran
    obtain ⟨_, _, made, rfl, rfl⟩ := ran
    obtain ⟨grows, zero, _⟩ := zeroOf_yields carries made
    exact ⟨grows, zero⟩

theorem capabilityOf_carries (carries : v.Carries m s xs) :
    capabilityOf v = pure (if v.supportsIndexedAssignment then .canMutate else .cannotMutate) := by
  cases carries <;> rfl

/-! ### Compound updates -/

theorem binary_same_shape (op : BinaryOp) (meant : Value.elementwise? op = some f) (exact : f ≠ .divide)
    (first : Carries m s xs a) (second : Carries m s ys b) (ran : (Value.binary op a b).Yields m v after) :
    m.Grows after ∧ v.Carries after s (List.zipWith f.onWhole xs ys) ∧ v.NewSince m := by
  obtain ⟨shape, joined, grows, carries, new⟩ :=
    binary_yields op meant exact (.carried first) (.carried second) (.inl first.isNumeric) ran
  rw [Layout.broadcastShapes_self] at joined
  cases joined
  rw [stretch_self first.count, stretch_self second.count] at carries
  exact ⟨grows, carries, new⟩

theorem updateOnce_yields (op : BinaryOp) (meant : Value.elementwise? op = some f)
    (target : Carries m t xs (.array number view)) (operand : Carries m s ys b)
    (ran : (Update.TableOp.updateOnce op (.array number view) b).Yields m u after) :
    f ≠ .divide ∧ m.Changes ∅ {spot | spot ∈ view.spots} after ∧
      Carries after t (List.zipWith f.onWhole xs (stretch s t ys)) (.array number view) := by
  simp only [Update.TableOp.updateOnce, yields_bind] at ran
  obtain ⟨updated, _, updates, ran⟩ := ran
  obtain ⟨rfl, exact, writeable, _, changes, carries⟩ := update_yields op meant target (.carried operand) updates
  have itself : isUpdated (.array number view) (.array number view) = true := by
    simp [isUpdated, identity?, isSame]
  simp only [itself, Bool.not_true, Bool.false_eq_true, if_false, yields_pure] at ran
  obtain ⟨_, rfl⟩ := ran
  exact ⟨exact, changes, carries⟩

theorem forall₂_later {spots : Set (Nat × Nat)} {names : Set String} {operands : List Value} {numbers : List (List Int)}
    (carried : List.Forall₂ (fun v ys => v.Carries m s ys) operands numbers) (changes : m.Changes names spots after)
    (apart : ∀ v ∈ operands, v.Avoids spots) : List.Forall₂ (fun v ys => v.Carries after s ys) operands numbers :=
  ((List.forall₂_and_left _ _).mpr ⟨apart, carried⟩).imp fun _ _ given => given.2.later changes given.1

section
variable {s : Shape} (op : BinaryOp) (meant : Value.elementwise? op = some f) (operands : List Value)
  (numbers : List (List Int))
  (target : Carries m t xs (.array number view))
  (carried : List.Forall₂ (fun v ys => v.Carries m s ys) operands numbers)
include op meant operands numbers target carried

/-- A compound update in place. The first operand is read before anything is written, so it may be the target
itself; the others must not look at the target's cells. -/
theorem compound_inPlace_yields (apart : ∀ v ∈ operands.tail, v.Avoids {spot | spot ∈ view.spots})
    (ran : (operands.forM (Update.TableOp.updateOnce op (.array number view))).Yields m u after) :
    (operands ≠ [] → f ≠ .divide) ∧ m.Changes ∅ {spot | spot ∈ view.spots} after ∧
      ∃ zs, Carries after t zs (.array number view) ∧
        (s = t → zs = numbers.foldl (List.zipWith f.onWhole) xs) := by
  induction operands generalizing m xs numbers with
  | nil =>
    cases carried
    simp only [List.forM_eq_forM, List.forM_nil, yields_pure] at ran
    obtain ⟨_, rfl⟩ := ran
    exact ⟨fun wrong => absurd rfl wrong, .refl _ _ _, xs, target, fun _ => rfl⟩
  | cons b operands ih =>
    cases carried with
    | cons first rest =>
      simp only [List.forM_eq_forM, List.forM_cons, yields_bind] at ran ih
      obtain ⟨_, between, once, ran⟩ := ran
      obtain ⟨exact, changes, updated⟩ := updateOnce_yields op meant target first once
      have later : List.Forall₂ (fun v ys => v.Carries between s ys) operands _ := forall₂_later rest changes apart
      obtain ⟨_, further, zs, total, summed⟩ :=
        ih _ updated later (fun v member => apart v (List.mem_of_mem_tail member)) ran
      refine ⟨fun _ => exact, changes.trans further, zs, total, ?_⟩
      rintro rfl
      rw [summed rfl, stretch_self first.count, List.foldl_cons]

end

theorem compound_outOfPlace_yields (op : BinaryOp) (meant : Value.elementwise? op = some f) (operands : List Value)
    (exact : operands ≠ [] → f ≠ .divide) (numbers : List (List Int)) (target : Carries m t xs a)
    (carried : List.Forall₂ (fun v ys => v.Carries m s ys) operands numbers)
    (ran : (operands.foldlM (Value.binary op) a).Yields m v after) : m.Grows after ∧ ∃ q zs, v.Carries after q zs ∧
      (s = t → q = s ∧ zs = numbers.foldl (List.zipWith f.onWhole) xs) := by
  induction operands generalizing m t xs a numbers with
  | nil =>
    cases carried
    simp only [List.foldlM_nil, yields_pure] at ran
    obtain ⟨rfl, rfl⟩ := ran
    exact ⟨.refl _ _ _, t, xs, target, fun same => ⟨same.symm, rfl⟩⟩
  | cons b operands ih =>
    cases carried with
    | cons first rest =>
      simp only [List.foldlM_cons, yields_bind] at ran
      obtain ⟨sum, between, once, ran⟩ := ran
      have never := exact (by simp)
      obtain ⟨common, joined, grows, combined, _⟩ :=
        binary_yields op meant never (.carried target) (.carried first) (.inl target.isNumeric) once
      have later : List.Forall₂ (fun v ys => v.Carries between s ys) operands _ :=
        forall₂_later rest grows fun _ _ => by simp [Avoids]
      obtain ⟨further, q, zs, total, summed⟩ := ih (fun _ => never) _ combined later ran
      refine ⟨grows.trans further, q, zs, total, ?_⟩
      rintro rfl
      rw [Layout.broadcastShapes_self] at joined
      cases joined
      rw [stretch_self target.count, stretch_self first.count] at summed
      exact summed rfl

/-! ### The table of operations -/

/-- What an operation makes of the numbers of its target. -/
def Update.TableOp.outcome? (op : Update.TableOp) (xs : List Int) (numbers : List (List Int)) : Option (List Int) :=
  match op, numbers with
  | .copyto, [ys] => some ys
  | .copyto, _ => none
  | .copy, [] => some xs
  | .copy, ys :: _ => some ys
  | op, numbers => (op.operator?.bind Value.elementwise?).map fun f => numbers.foldl (List.zipWith f.onWhole) xs

theorem tableOp_cases (op : Update.TableOp) : op = .copyto ∨ op = .copy ∨
    ∃ operator f, op.operator? = some operator ∧ Value.elementwise? operator = some f ∧
      (op = .itruediv ↔ f = .divide) ∧
      (∀ target operands, op.inPlace target operands = do
        operands.forM (Update.TableOp.updateOnce operator target)
        return target) ∧
      (∀ target operands, op.outOfPlace target operands = operands.foldlM (Value.binary operator) target) ∧
      ∀ xs numbers, op.outcome? xs numbers = some (numbers.foldl (List.zipWith f.onWhole) xs) := by
  cases op with
  | copyto => exact .inl rfl
  | copy => exact .inr (.inl rfl)
  | _ => exact .inr (.inr ⟨_, _, rfl, rfl, by simp, fun _ _ => rfl, fun _ _ => rfl, fun _ _ => rfl⟩)

variable {s : Shape} (op : Update.TableOp) (operands : List Value) (numbers : List (List Int))
  (carried : List.Forall₂ (fun v ys => v.Carries m s ys) operands numbers)
include carried

theorem inPlace_yields (target : Carries m t xs (.array number view))
    (apart : op.operator?.isSome = true → ∀ v ∈ operands.tail, v.Avoids {spot | spot ∈ view.spots})
    (ran : (op.inPlace (.array number view) operands).Yields m v after) :
    (op = .itruediv → operands = []) ∧ m.Changes ∅ {spot | spot ∈ view.spots} after ∧
      (s = t → ∃ zs, op.outcome? xs numbers = some zs ∧ v.Carries after s zs ∧
        (v = .array number view ∨ v.NewSince m)) := by
  rcases tableOp_cases op with rfl | rfl | ⟨operator, f, named, meant, divides, body, _, outcome⟩
  · refine ⟨by simp, ?_⟩
    rcases carried with _ | ⟨first, _ | ⟨_, _⟩⟩
    · exact absurd ran yields_fail
    · simp only [Update.TableOp.inPlace, yields_bind, yields_pure] at ran
      obtain ⟨_, _, assigned, rfl, rfl⟩ := ran
      obtain ⟨_, zs, over?, changes, carries⟩ := setItem_yields target first assigned
      refine ⟨changes, ?_⟩
      rintro rfl
      rw [stretchOver?_self first.count] at over?
      cases over?
      exact ⟨_, rfl, carries, .inl rfl⟩
    · exact absurd ran yields_fail
  · refine ⟨by simp, ?_⟩
    cases carried with
    | nil =>
      obtain ⟨grows, carries, new⟩ := copyOf_yields target ran
      refine ⟨grows.widened _ _, ?_⟩
      rintro rfl
      exact ⟨_, rfl, carries, .inr new⟩
    | cons first rest =>
      obtain ⟨grows, carries, new⟩ := copyOf_yields first ran
      exact ⟨grows.widened _ _, fun _ => ⟨_, rfl, carries, .inr new⟩⟩
  · rw [body] at ran
    simp only [yields_bind, yields_pure] at ran
    obtain ⟨_, _, updated, rfl, rfl⟩ := ran
    obtain ⟨exact, changes, zs, carries, summed⟩ :=
      compound_inPlace_yields operator meant operands numbers target carried (apart (by simp [named])) updated
    refine ⟨fun same => ?_, changes, ?_⟩
    · by_contra wrong
      exact exact wrong (divides.mp same)
    · rintro rfl
      rw [outcome, ← summed rfl]
      exact ⟨zs, rfl, carries, .inl rfl⟩

theorem outOfPlace_yields (exact : op = .itruediv → operands = []) (target : Carries m t xs a)
    (ran : (op.outOfPlace a operands).Yields m v after) :
    m.Grows after ∧ (s = t → ∃ zs, op.outcome? xs numbers = some zs ∧ v.Carries after s zs) := by
  rcases tableOp_cases op with rfl | rfl | ⟨operator, f, named, meant, divides, _, body, outcome⟩
  · rcases carried with _ | ⟨first, _ | ⟨_, _⟩⟩
    · exact absurd ran yields_fail
    · obtain ⟨rfl, rfl⟩ := yields_pure.mp ran
      exact ⟨.refl _ _ _, fun _ => ⟨_, rfl, first⟩⟩
    · exact absurd ran yields_fail
  · cases carried with
    | nil =>
      obtain ⟨rfl, rfl⟩ := yields_pure.mp ran
      refine ⟨.refl _ _ _, ?_⟩
      rintro rfl
      exact ⟨_, rfl, target⟩
    | cons first rest =>
      obtain ⟨rfl, rfl⟩ := yields_pure.mp ran
      exact ⟨.refl _ _ _, fun _ => ⟨_, rfl, first⟩⟩
  · rw [body] at ran
    have never (some_ : operands ≠ []) : f ≠ .divide := fun same => some_ (exact (divides.mpr same))
    obtain ⟨grows, q, zs, carries, summed⟩ :=
      compound_outOfPlace_yields operator meant operands never numbers target carried ran
    refine ⟨grows, fun same => ?_⟩
    obtain ⟨rfl, rfl⟩ := summed same
    exact ⟨_, outcome _ _, carries⟩

end
end Rebind
