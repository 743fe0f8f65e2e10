import Rebind.Proofs.Words
/-!
Scaled sums of integers in place. The target is scaled in its own cells and then the scaled summand is added to it, in
the type where the two meet and cut to the type of the target. The summand is scaled into cells of its own before
anything is written, so it may be any view of the target.
-/
namespace Rebind

open Number Strided Syntax Value

/-- A value that a scaled sum can be computed with. -/
inductive Value.IsSummand : Value → Prop
  | array (i : Nat) (view : View) : IsSummand (.array i view)
  | element (d : DType) (n : Numeral) : IsSummand (.scalar d n)
  | plain (n : Numeral) : IsSummand (.num n)

/-! ### Two types -/

/-- Integers of two types meet in a third one, which holds them all. -/
structure Strided.DType.MeetIn (e e' d : DType) : Prop where
  integer : d.kind = .integer
  promoted : e.promote e' = d
  holdsFirst (n : Int) : e.holds n = true → d.holds n = true
  holdsSecond (n : Int) : e'.holds n = true → d.holds n = true

section
variable {m : Memory} {d e e' : DType} {view : View} {a b : Operand}

theorem holds_int64_of_int32 (held : DType.int32.holds n = true) : DType.int64.holds n = true := by
  rw [holds_iff] at held ⊢
  change Int.bmod n 4294967296 = n at held
  change Int.bmod n 18446744073709551616 = n
  have low := Int.le_bmod (x := n) (m := 4294967296) (by decide)
  have high := Int.bmod_lt (x := n) (m := 4294967296) (by decide)
  rw [held] at low high
  exact Int.bmod_eq_of_le (by omega) (by omega)

theorem meetIn_signed (first : e ∈ [DType.int32, .int64]) (second : e' ∈ [DType.int32, .int64]) :
    e.MeetIn e' (e.promote e') := by
  simp only [List.mem_cons, List.not_mem_nil, or_false] at first second
  rcases first with rfl | rfl
  · rcases second with rfl | rfl
    · exact ⟨rfl, rfl, fun _ held => held, fun _ held => held⟩
    · exact ⟨rfl, rfl, fun _ held => holds_int64_of_int32 held, fun _ held => held⟩
  · rcases second with rfl | rfl
    · exact ⟨rfl, rfl, fun _ held => held, fun _ held => holds_int64_of_int32 held⟩
    · exact ⟨rfl, rfl, fun _ held => held, fun _ held => held⟩

theorem signed_sum (first : e ∈ [DType.int32, .int64]) (second : e' ∈ [DType.int32, .int64]) :
    e.kind = .integer ∧ e.promote e' = e'.promote e ∧ (e.promote e').sameKind e' = true := by
  simp only [List.mem_cons, List.not_mem_nil, or_false] at first second
  rcases first with rfl | rfl <;> rcases second with rfl | rfl <;> exact ⟨rfl, rfl, rfl⟩

theorem Operand.Bears.retyped (bears : a.Bears e s xs) (firm : a.weak = none) (held : ∀ x ∈ xs, d.holds x = true) :
    Operand.Bears { a with dtype := d } d s xs :=
  ⟨bears.shaped, bears.cells, bears.count, bears.textual, held, .inl ⟨firm, rfl⟩⟩

theorem binaryPlan_retyped (f : BinaryUfunc) (meets : e.MeetIn e' d) (first : a.Bears e s xs) (second : b.Bears e' t ys)
    (firm : a.weak = none) (firm' : b.weak = none) (typed : a.dtype = e) (typed' : b.dtype = e')
    (target : Option View) : binaryPlan f a b target =
      binaryPlan f { a with dtype := d } { b with dtype := d } target := by
  have same : Operand.binaryType f a b = Operand.binaryType f { a with dtype := d } { b with dtype := d } := by
    simp only [Operand.binaryType, Operand.textMisplaced, Operand.meet, first.textual, second.textual, firm, firm', typed,
      typed', meets.promoted, promote_word meets.integer, Bool.false_and, Bool.or_self]
  simp only [binaryPlan, same, Operand.castTo, firm, firm']

theorem binary_mixed_completes (op : BinaryOp) (meant : Value.elementwise? op = some f) (exact : f ≠ .divide)
    (meets : e.MeetIn e' d) (first : Value.Bears m e s xs v) (second : Value.Bears m e' t ys w)
    (joined : Layout.broadcastShapes s t = some shape) :
    (Value.binary op v w).Completes m fun u after => m.Grows after ∧
      u.Bears after d shape (List.zipWith (d.onWords f) (stretch s shape xs) (stretch t shape ys)) := by
  have lends : v.Lends m e s xs := .borne first
  have lends' : w.Lends m e' t ys := .borne second
  rw [binary_dense op meant lends.dense lends'.dense (.inl first.isNumeric)]
  simp only [binaryUfunc, lends.accepted, lends'.accepted, Bool.or_self, Bool.false_eq_true, if_false,
    completes_bind]
  refine first.operand.imp ?_
  rintro a _ ⟨rfl, bearsA, firmA, typedA⟩
  refine second.operand.imp ?_
  rintro b _ ⟨rfl, bearsB, firmB, typedB⟩
  have held : ∀ x ∈ xs, d.holds x = true := fun x member => meets.holdsFirst x (first.held x member)
  have held' : ∀ y ∈ ys, d.holds y = true := fun y member => meets.holdsSecond y (second.held y member)
  obtain ⟨plan, planned, rfl, makes⟩ := binaryPlan_makes meets.integer f exact (bearsA.retyped firmA held)
    (bearsB.retyped firmB held') (.inl firmA) none rfl (resultShape_joined joined)
  rw [binaryPlan_retyped f meets bearsA bearsB firmA firmB typedA typedB, planned, completes_pure]
  refine (makes.result meets.integer).imp ?_
  rintro u after ⟨grows, made, _⟩
  exact ⟨grows, made⟩

theorem binaryUfuncInto_mixed_completes (f : BinaryUfunc) (exact : f ≠ .divide) (meets : e.MeetIn e' d)
    (integer : e.kind = .integer) (stores : d.sameKind e = true) (target : Value.Bears m e s xs (.array number view))
    (placed : view.Placed m) (writeable : view.writeable = true) (operand : Value.Bears m e' t ys w)
    (joined : Layout.broadcastShapes s t = some s) :
    (binaryUfuncInto f (.array number view) w view).Completes m fun _ after =>
      m.Changes ∅ {spot | spot ∈ view.spots} after ∧
        Value.Bears after e s ((List.zipWith (d.onWords f) xs (stretch t s ys)).map e.wrap) (.array number view) := by
  have may : mayStore d (some view) = true := by rwa [mayStore, target.typed]
  have lends : w.Lends m e' t ys := .borne operand
  simp only [binaryUfuncInto, (Lends.borne target).accepted, lends.accepted, Bool.or_self,
    Bool.false_eq_true, if_false, completes_bind]
  refine target.operand.imp ?_
  rintro a _ ⟨rfl, bearsA, firmA, typedA⟩
  refine operand.operand.imp ?_
  rintro b _ ⟨rfl, bearsB, firmB, typedB⟩
  have held : ∀ x ∈ xs, d.holds x = true := fun x member => meets.holdsFirst x (target.held x member)
  have held' : ∀ y ∈ ys, d.holds y = true := fun y member => meets.holdsSecond y (operand.held y member)
  obtain ⟨plan, planned, rfl, makes⟩ := binaryPlan_makes meets.integer f exact (bearsA.retyped firmA held)
    (bearsB.retyped firmB held') (.inl firmA) (some view) may (resultShape_onto target.shaped joined)
  rw [binaryPlan_retyped f meets bearsA bearsB firmA firmB typedA typedB, planned, completes_pure]
  have written := makes.into integer target placed writeable
  rwa [stretch_self target.count] at written

/-! ### Scaled sums -/

/-- The types of what has one meet first, and then come the plain numbers. -/
def Operand.sumType (operands : List Operand) : DType :=
  (operands.filterMap Operand.weak).foldl DType.promoteWeak
    (match operands.filter fun o => o.weak.isNone with
    | [] => DType.float64
    | first :: rest => rest.foldl (fun d o => d.promote o.dtype) first.dtype)

theorem operand_plain : (Value.operand (.num (.int n))).Yields m o after ↔
    m = after ∧ o = { Operand.single (leafType (.num (.int n))) (wholeCell n) with weak := some (.int n) } := by
  simp [Value.operand, exportedView?, exportedBytes?, wholeCell, eq_comm, and_comm]

theorem sumType_reads {u v w : Value} {a b c : Operand} (first : v.IsSummand) (second : w.IsSummand) (third : u.IsSummand)
    (readsA : (Value.operand v).Yields m a m) (readsB : (Value.operand w).Yields m b m)
    (readsC : (Value.operand u).Yields m c m) : (Value.sumType v w u).Yields m (Operand.sumType [a, b, c]) m := by
  cases first <;> cases second <;> cases third <;>
    · simp only [Value.sumType, List.mapM_cons, List.mapM_nil, yields_bind, yields_pure]
      exact ⟨[a, b, c], m, ⟨a, m, readsA, [b, c], m, ⟨b, m, readsB, [c], m, ⟨c, m, readsC, [], m, ⟨rfl, rfl⟩, rfl, rfl⟩,
        rfl, rfl⟩, rfl, rfl⟩, rfl, rfl⟩

theorem Value.Bears.isSummand (bears : Value.Bears m d s xs v) : v.IsSummand := by
  cases bears <;> constructor

theorem sumType_completes (meets : e.MeetIn e' d) (first : Value.Bears m e s xs v) (second : Value.Bears m e' t ys w)
    (n : Int) : (Value.sumType v w (.num (.int n))).Completes m fun found after => found = d ∧ m = after := by
  obtain ⟨o, readsN, weak⟩ : ∃ o : Operand, (Value.operand (.num (.int n))).Yields m o m ∧ o.weak = some (.int n) :=
    ⟨_, operand_plain.mpr ⟨rfl, rfl⟩, rfl⟩
  obtain ⟨a, _, readsA, rfl, _, firmA, typedA⟩ := first.operand
  obtain ⟨b, _, readsB, rfl, _, firmB, typedB⟩ := second.operand
  refine (sumType_reads first.isSummand second.isSummand (.plain _) readsA readsB readsN).completes ⟨?_, rfl⟩
  simp [Operand.sumType, firmA, firmB, weak, typedA, typedB, meets.promoted, promoteWeak_word meets.integer]

/-- The numbers of a scaled sum, in the type where the scaled numbers meet. -/
def Strided.DType.scaledSum (e e' : DType) (alpha beta : Int) (s shape : Shape) (xs cs : List Int) : List Int :=
  List.zipWith ((e.promote e').onWords .add) (stretch s shape (xs.map (e.onWords .multiply alpha)))
    (cs.map (e'.onWords .multiply beta))

theorem scaledTarget_completes (integer : e.kind = .integer) (held : e.holds beta = true)
    (target : Value.Bears m e shape cs (.array number view)) (placed : view.Placed m)
    (writeable : view.writeable = true) :
    (binaryUfuncInto .multiply (.array number view) (.num (.int beta)) view).Completes m fun _ after =>
      m.Changes ∅ {spot | spot ∈ view.spots} after ∧
        Value.Bears after e shape (cs.map (e.onWords .multiply beta)) (.array number view) := by
  have joined : Layout.broadcastShapes shape [] = some shape := by
    rw [Layout.broadcastShapes_comm, Layout.broadcastShapes_nil]
  have each : List.zipWith (e.onWords .multiply) cs (stretch [] shape [beta]) = cs.map (e.onWords .multiply beta) := by
    rw [stretch_single, ← target.count, List.zipWith_comm, zipWith_replicate_left]
    refine List.map_congr_left fun c _ => ?_
    rw [DType.onWords, DType.onWords, Int.mul_comm]
  rw [← each]
  exact binaryUfuncInto_completes integer .multiply (by simp) target placed writeable (.plain rfl rfl held) joined

/-- The sum that is written into no target. -/
def Value.scaledSum (alpha x beta y : Value) : Run Value := do
  let scaled ← binary .mult alpha x
  binary .add scaled (← binary .mult beta y)

section
variable (first : e ∈ [DType.int32, .int64]) (second : e' ∈ [DType.int32, .int64])
  (joined : Layout.broadcastShapes shape s = some shape)
include first second joined

theorem scaledSum_completes (held : e.holds alpha = true) (held' : e'.holds beta = true)
    (summand : Value.Bears m e s xs x) (target : Value.Bears m e' shape cs y) :
    (Value.scaledSum (.num (.int alpha)) x (.num (.int beta)) y).Completes m fun v after =>
      m.Grows after ∧ v.Bears after (e.promote e') shape (e.scaledSum e' alpha beta s shape xs cs) := by
  rw [Value.scaledSum, completes_bind]
  refine (times_completes (signed_sum first second).1 held summand).imp ?_
  rintro scaled between ⟨grows, bears, _⟩
  rw [completes_bind]
  refine (times_completes (signed_sum second first).1 held' (target.grown grows)).imp ?_
  rintro kept later ⟨further, bears', _⟩
  rw [Layout.broadcastShapes_comm] at joined
  refine (binary_mixed_completes .add rfl (by simp) (meetIn_signed first second) (bears.grown further) bears'
    joined).imp ?_
  rintro v after ⟨more, sum⟩
  rw [stretch_self bears'.count] at sum
  exact ⟨(grows.trans further).trans more, sum⟩

variable (target : Value.Bears m e' shape cs (.array number view)) (placed : view.Placed m)
  (writeable : view.writeable = true)
include target placed writeable

theorem sumInto_completes (summand : Value.Bears m e s xs v) :
    (binaryUfuncInto .add (.array number view) v view).Completes m fun _ after =>
      m.Changes ∅ {spot | spot ∈ view.spots} after ∧ Value.Bears after e' shape
        ((List.zipWith ((e.promote e').onWords .add) (stretch s shape xs) cs).map e'.wrap) (.array number view) := by
  obtain ⟨_, same, stores⟩ := signed_sum first second
  rw [zipWith_add_comm]
  rw [same] at stores ⊢
  exact binaryUfuncInto_mixed_completes .add (by simp) (meetIn_signed second first) (signed_sum second first).1 stores
    target placed writeable summand joined

theorem scaledAddInto_completes (held : e.holds alpha = true) (held' : e'.holds beta = true)
    (summand : Value.Bears m e s xs x) :
    (scaledAddInto (.array number view) (.num (.int alpha)) x (.num (.int beta))).Completes m fun v after =>
      v = .array number view ∧ m.Changes ∅ {spot | spot ∈ view.spots} after ∧
        v.Bears after e' shape ((e.scaledSum e' alpha beta s shape xs cs).map e'.wrap) := by
  have multiplied : applyBinary .multiply (.num (.int alpha)) x = Value.binary .mult (.num (.int alpha)) x := by
    cases summand <;> rfl
  simp only [scaledAddInto, multiplied, completes_bind]
  refine (times_completes (signed_sum first second).1 held summand).imp ?_
  rintro scaled between ⟨grows, bears, new, _⟩
  have kept := target.grown grows
  refine (sumType_completes (meetIn_signed first second) bears kept beta).imp ?_
  rintro d _ ⟨rfl, rfl⟩
  rw [target.typed, if_pos (signed_sum first second).2.2, differs_whole, pure_bind]
  by_cases one : beta = 1
  · -- the target is left as it is
    rw [if_neg (by simpa using one), completes_bind]
    refine (sumInto_completes first second joined kept (placed.later grows) writeable bears).imp ?_
    rintro _ after ⟨changes, sum⟩
    rw [← map_once kept.held, ← one] at sum
    exact completes_pure.mpr ⟨rfl, (grows.widened _ _).trans changes, sum⟩
  · rw [if_pos (by simpa using one), completes_bind]
    refine (scaledTarget_completes (signed_sum second first).1 held' kept (placed.later grows) writeable).imp ?_
    rintro _ later ⟨changes, target'⟩
    -- the scaled summand has cells of its own, which the scaling of the target did not touch
    have apart := bears.later changes (new.avoids placed)
    rw [completes_bind]
    refine (sumInto_completes first second joined target' ((placed.later grows).later changes) writeable apart).imp ?_
    rintro _ after ⟨further, sum⟩
    exact completes_pure.mpr ⟨rfl, ((grows.widened _ _).trans changes).trans further, sum⟩

end

/-- A scaled sum in place gives back its target, writes nothing beyond it, and leaves in each cell the number that the
sum computed anew would have there, cut to the type of the target. The summand may share any cells with the target. -/
theorem scaledSum_inPlace_agrees (e e' : DType) (first : e ∈ [DType.int32, .int64]) (second : e' ∈ [DType.int32, .int64])
    (alpha beta : Int) (held : e.holds alpha = true) (held' : e'.holds beta = true) (m : Memory) (s shape : Shape)
    (xs cs : List Int) (i number : Nat) (other view : View) (summand : Value.Bears m e s xs (.array i other))
    (target : Value.Bears m e' shape cs (.array number view)) (placed : view.Placed m)
    (writeable : view.writeable = true) (joined : Layout.broadcastShapes shape s = some shape) : ∃ after after' w,
      (Value.scaledAddInto (.array number view) (.num (.int alpha)) (.array i other) (.num (.int beta))).Yields m
        (.array number view) after ∧
      (Value.scaledSum (.num (.int alpha)) (.array i other) (.num (.int beta)) (.array number view)).Yields m w after' ∧
      m.Changes ∅ {spot | spot ∈ view.spots} after ∧
      w.Bears after' (e.promote e') shape (e.scaledSum e' alpha beta s shape xs cs) ∧
      Value.Bears after e' shape ((e.scaledSum e' alpha beta s shape xs cs).map e'.wrap) (.array number view) := by
  obtain ⟨_, after, ran, rfl, changes, written⟩ :=
    scaledAddInto_completes first second joined target placed writeable held held' summand
  obtain ⟨w, after', ran', _, made⟩ := scaledSum_completes first second joined held held' summand target
  exact ⟨after, after', w, ran, ran', changes, made, written⟩

/-- A row of 32 bits, and the same row from its last number to its first. -/
def forwardAndBack : Memory where
  buffers := #[#[wholeCell 1, wholeCell 2, wholeCell 2147483647]]
  objects := #[.token, .token]

/-- The sum of a row with its mirror image, with numbers that are too large for the type. -/
theorem row_mirrored_agrees : ∃ after after' w,
    (Value.scaledAddInto (.array 0 ⟨0, Layout.rowMajor [3], .int32, true⟩) (.num (.int 3))
      (.array 1 ⟨0, ⟨2, [⟨3, -1⟩]⟩, .int32, true⟩) (.num (.int 2))).Yields forwardAndBack
        (.array 0 ⟨0, Layout.rowMajor [3], .int32, true⟩) after ∧
    (Value.scaledSum (.num (.int 3)) (.array 1 ⟨0, ⟨2, [⟨3, -1⟩]⟩, .int32, true⟩) (.num (.int 2))
      (.array 0 ⟨0, Layout.rowMajor [3], .int32, true⟩)).Yields forwardAndBack w after' ∧
    forwardAndBack.Changes ∅ {spot | spot ∈ (⟨0, Layout.rowMajor [3], .int32, true⟩ : View).spots} after ∧
    w.Bears after' .int32 [3] [2147483647, 10, 1] ∧
    Value.Bears after .int32 [3] [2147483647, 10, 1] (.array 0 ⟨0, Layout.rowMajor [3], .int32, true⟩) := by
  have bears : Value.Bears forwardAndBack .int32 [3] [1, 2, 2147483647] (.array 0 ⟨0, Layout.rowMajor [3], .int32, true⟩) :=
    .array (by decide) (by decide) rfl rfl rfl (by decide)
  have back : Value.Bears forwardAndBack .int32 [3] [2147483647, 2, 1] (.array 1 ⟨0, ⟨2, [⟨3, -1⟩]⟩, .int32, true⟩) :=
    .array (by decide) (by decide) rfl rfl rfl (by decide)
  exact scaledSum_inPlace_agrees .int32 .int32 (by decide) (by decide) 3 2 (by decide) (by decide) forwardAndBack [3] [3] _ _
    1 0 _ _ back bears ⟨by decide, by decide, by decide⟩ rfl (by decide)

end
end Rebind
