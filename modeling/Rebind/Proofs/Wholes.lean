import Rebind.Proofs.Covering
/-!
Arrays of whole numbers. A value carries numbers under a shape if it is an array of 64-bit integers that
shows them, or a single one. Here runs are followed backwards: if a function goes through on such values, their shapes
fit and its plain numbers are whole, and then it does what it does to integers of any width.
-/
namespace Rebind

open Number Strided Syntax Value

def IsWhole (n : Int) : Prop := DType.int64.holds n = true

instance (n : Int) : Decidable (IsWhole n) := inferInstanceAs (Decidable (_ = true))

/-- The function of two numbers that an elementwise function is on whole numbers. -/
def BinaryUfunc.onWhole : BinaryUfunc → Int → Int → Int
  | .add, a, b => DType.int64.wrap (a + b)
  | .subtract, a, b => DType.int64.wrap (a - b)
  | .multiply, a, b => DType.int64.wrap (a * b)
  | .maximum, a, b => if a ≥ b then a else b
  | .divide, _, _ => 0

theorem isWhole_zero : IsWhole 0 := rfl

theorem onWhole_eq (f : BinaryUfunc) : f.onWhole = DType.int64.onWords f := by
  funext a b
  cases f <;> rfl

/-- The value is an array of these numbers, or a single one of them. -/
inductive Value.Carries (m : Memory) (shape : Shape) (xs : List Int) : Value → Prop
  | array (known : number < m.objects.size) (placed : View.Placed view m) (typed : view.dtype = .int64)
      (shaped : view.shape = shape) (shown : m.contents view = xs.map wholeCell)
      (wholes : ∀ x ∈ xs, IsWhole x) : Carries m shape xs (.array number view)
  | single (flat : shape = []) (alone : xs = [n]) (whole : IsWhole n) :
      Carries m shape xs (.scalar .int64 (.int n))

/-- The value carries the numbers, or is a plain number itself. -/
inductive Value.Offers (m : Memory) (shape : Shape) (xs : List Int) : Value → Prop
  | carried (carries : v.Carries m shape xs) : Offers m shape xs v
  | plain (flat : shape = []) (alone : xs = [n]) : Offers m shape xs (.num (.int n))

section
variable {m between after : Memory} {v : Value} {view : View} {plan : Plan} {names : Set String}
  {spots : Set (Nat × Nat)}

theorem Value.Carries.bears (carries : v.Carries m shape xs) : v.Bears m .int64 shape xs := by
  cases carries with
  | array known placed typed shaped shown wholes => exact .array known placed.buffer typed shaped shown wholes
  | single flat alone whole => exact .single flat alone whole

theorem Value.Carries.placed (carries : v.Carries m shape xs) : v.Placed m := by
  rintro number view rfl
  cases carries with
  | array _ placed _ _ _ _ => exact placed

theorem Value.Bears.carries (bears : v.Bears m .int64 shape xs) (placed : v.Placed m) : v.Carries m shape xs := by
  cases bears with
  | array known _ typed shaped shown held => exact .array known (placed _ _ rfl) typed shaped shown held
  | single flat alone held => exact .single flat alone held

theorem Value.Carries.count (carries : v.Carries m shape xs) : xs.length = Shape.size shape := carries.bears.count

theorem Value.Carries.wholes (carries : v.Carries m shape xs) : ∀ x ∈ xs, IsWhole x := carries.bears.held

theorem Value.Carries.isNumeric (carries : v.Carries m shape xs) : v.isNumeric = true := carries.bears.isNumeric

theorem Value.Carries.bare (carries : v.Carries m shape xs) : v.bare = v := carries.bears.bare

theorem Value.Carries.known (carries : Carries m shape xs (.array number view)) : number < m.objects.size :=
  carries.bears.known

theorem Value.Carries.later (carries : v.Carries m shape xs) (changes : m.Changes names spots after)
    (avoids : v.Avoids spots) : v.Carries after shape xs :=
  (carries.bears.later changes avoids).carries (carries.placed.later changes)

theorem Value.Carries.grown (carries : v.Carries m shape xs) (grows : m.Grows after) : v.Carries after shape xs :=
  carries.later grows (by simp [Avoids])

/-! ### Operands -/

/-- The operand holds these numbers, of 64 bits or as a plain number. -/
structure Operand.Shows (o : Operand) (shape : Shape) (xs : List Int) : Prop where
  shaped : o.shape = shape
  cells : o.cells = xs.map wholeCell
  count : xs.length = Shape.size shape
  textual : o.textual = false
  kind : (o.weak = none ∧ o.dtype = .int64 ∧ ∀ x ∈ xs, IsWhole x) ∨ ∃ n, o.weak = some (.int n) ∧ xs = [n]

theorem operand_yields (offers : v.Offers m shape xs) (ran : (Value.operand v).Yields m o after) :
    m = after ∧ o.Shows shape xs := by
  rcases offers with carries | ⟨flat, alone⟩
  · obtain ⟨same, borne, firm, typed⟩ := ran.completes_iff.mp carries.bears.operand
    exact ⟨same, borne.shaped, borne.cells, borne.count, borne.textual, .inl ⟨firm, typed, borne.held⟩⟩
  · simp only [Value.operand, exportedView?, exportedBytes?, yields_bind, yields_pure] at ran
    obtain ⟨_, _, ⟨rfl, rfl⟩, rfl, rfl⟩ := ran
    subst flat alone
    exact ⟨rfl, rfl, rfl, rfl, rfl, .inr ⟨_, rfl, rfl⟩⟩

theorem Operand.Shows.bears (shows : Operand.Shows o s xs) (wholes : ∀ x ∈ xs, IsWhole x) : o.Bears .int64 s xs := by
  refine ⟨shows.shaped, shows.cells, shows.count, shows.textual, wholes, ?_⟩
  exact shows.kind.imp_left fun firm => ⟨firm.1, firm.2.1⟩

theorem Operand.Shows.meet (first : Operand.Shows a s xs) (second : Operand.Shows b t ys) :
    Operand.meet a b = .int64 := by
  rcases first.kind with ⟨firm, typed, _⟩ | ⟨n, weak, _⟩ <;>
    rcases second.kind with ⟨firm', typed', _⟩ | ⟨n', weak', _⟩ <;> simp [Operand.meet, *] <;> rfl

theorem Operand.Shows.placed (first : Operand.Shows a s xs) (second : Operand.Shows b t ys) :
    Operand.textMisplaced a b = false := by
  simp [Operand.textMisplaced, first.textual, second.textual]

theorem castTo_yields (shows : Operand.Shows o shape xs) (ran : (o.castTo .int64).Yields m taken after) :
    ∀ x ∈ xs, IsWhole x := by
  rcases shows.kind with ⟨_, _, wholes⟩ | ⟨n, weak, rfl⟩
  · exact wholes
  · simp only [Operand.castTo, weak, reduceCtorEq, if_false, numberFor, DType.kind, yields_bind,
      yields_ofExcept] at ran
    obtain ⟨_, _, ⟨checked, _⟩, _⟩ := ran
    change (if DType.int64.holds n then Except.ok (Numeral.int n) else _) = _ at checked
    split at checked
    · rename_i whole
      simpa [IsWhole] using whole
    · cases checked

/-! ### Plans -/

theorem binaryPlan_yields (f : BinaryUfunc) (exact : f ≠ .divide) (first : Operand.Shows a s xs)
    (second : Operand.Shows b t ys) (ran : (binaryPlan f a b target).Yields m plan after) :
    m = after ∧ resultShape [s, t] target = .ok plan.shape ∧
      plan.Makes .int64 (List.zipWith f.onWhole (stretch s plan.shape xs) (stretch t plan.shape ys)) := by
  have typed : Operand.binaryType f a b = .ok .int64 := by
    rw [Operand.binaryType, first.placed second, first.meet second]
    cases f with
    | divide => exact absurd rfl exact
    | _ => rfl
  have planned := ran
  simp only [binaryPlan, typed, yields_bind, yields_ofExcept, yields_ite, yields_fail, false_and,
    exists_false, and_false, false_or] at planned
  obtain ⟨_, _, ⟨⟨⟩, rfl⟩, stores, _, _, castA, _, _, castB, _⟩ := planned
  obtain ⟨_, same, makes⟩ := binaryPlan_words rfl f exact (first.bears (castTo_yields first castA))
    (second.bears (castTo_yields second castB)) (first.meet second) target (by simpa using stores)
  simp only [same, yields_bind, yields_ofExcept, yields_pure] at ran
  obtain ⟨shape, _, ⟨found, rfl⟩, rfl, rfl⟩ := ran
  obtain ⟨shaped, makes⟩ := makes shape found
  rw [shaped, onWhole_eq]
  exact ⟨rfl, found, makes⟩

theorem into_allowed (ran : (plan.into view).Yields m u after) : plan.shape = view.shape ∧ view.writeable = true := by
  simp only [Plan.into, yields_ite, yields_bind, yields_fail, false_and, exists_false, and_false, false_or] at ran
  simpa using ran.1

/-! ### Elementwise functions -/

theorem Value.Offers.accepted (offers : v.Offers m shape xs) : v.refusesElementwise = false := by
  rcases offers with ⟨_ | _⟩ | _ <;> rfl

theorem binaryUfunc_yields (f : BinaryUfunc) (exact : f ≠ .divide) (first : Offers m s xs a) (second : Offers m t ys b)
    (ran : (binaryUfunc f a b).Yields m v after) : ∃ shape, Layout.broadcastShapes s t = some shape ∧ m.Grows after ∧
      v.Carries after shape (List.zipWith f.onWhole (stretch s shape xs) (stretch t shape ys)) ∧
      v.NewSince m := by
  simp only [binaryUfunc, first.accepted, second.accepted, Bool.or_self, Bool.false_eq_true, if_false,
    yields_bind] at ran
  obtain ⟨a', _, readA, b', _, readB, plan, _, planned, made⟩ := ran
  obtain ⟨rfl, showsA⟩ := operand_yields first readA
  obtain ⟨rfl, showsB⟩ := operand_yields second readB
  obtain ⟨rfl, found, makes⟩ := binaryPlan_yields f exact showsA showsB planned
  obtain ⟨grows, bears, new, placed⟩ := made.completes_iff.mp (makes.result rfl)
  exact ⟨plan.shape, resultShape_new found, grows, bears.carries placed, new⟩

theorem divide_into_fails (first : Operand.Shows a s xs) (second : Operand.Shows b t ys) (typed : view.dtype = .int64) :
    ¬ (binaryPlan .divide a b (some view)).Yields m plan after := by
  intro ran
  have quotient : Operand.binaryType .divide a b = .ok .float64 := by
    rw [Operand.binaryType, first.placed second, first.meet second]
    rfl
  have refused : mayStore .float64 (some view) = false := by
    rw [mayStore, typed]
    rfl
  simp [binaryPlan, quotient, refused] at ran

theorem binaryUfuncInto_yields (f : BinaryUfunc) (target : Carries m s xs (.array number view))
    (operand : Offers m t ys b) (ran : (binaryUfuncInto f (.array number view) b view).Yields m u after) :
    f ≠ .divide ∧ view.writeable = true ∧ (∃ layout, (Layout.rowMajor t).broadcastTo? s = some layout) ∧
      m.Changes ∅ {spot | spot ∈ view.spots} after ∧
      Carries after s (List.zipWith f.onWhole xs (stretch t s ys)) (.array number view) := by
  simp only [binaryUfuncInto, (Offers.carried target).accepted, operand.accepted, Bool.or_self,
    Bool.false_eq_true, if_false, yields_bind] at ran
  obtain ⟨a', _, readA, b', _, readB, plan, _, planned, made⟩ := ran
  obtain ⟨rfl, showsA⟩ := operand_yields (.carried target) readA
  obtain ⟨rfl, showsB⟩ := operand_yields operand readB
  have exact : f ≠ .divide := by
    rintro rfl
    exact divide_into_fails showsA showsB target.bears.typed planned
  obtain ⟨rfl, found, makes⟩ := binaryPlan_yields f exact showsA showsB planned
  obtain ⟨same, writeable⟩ := into_allowed made
  obtain rfl : plan.shape = s := same.trans target.bears.shaped
  have fits := Layout.broadcastTo?_isSome (Layout.rowMajor t) plan.shape
    (by rw [Layout.rowMajor_shape]; exact (resultShape_fits found).2)
  obtain ⟨changes, bears⟩ := made.completes_iff.mp (makes.into rfl target.bears (target.placed _ _ rfl) writeable)
  rw [map_wrap_held makes.held, stretch_self target.count] at bears
  exact ⟨exact, writeable, fits, changes, bears.carries (target.placed.later changes)⟩

/-! ### Operators -/

theorem Value.Offers.dense (offers : v.Offers m shape xs) : v.Dense := by
  rcases offers with ⟨_ | _⟩ | _ <;> exact ⟨rfl, rfl, rfl, fun _ => rfl⟩

theorem binary_yields (op : BinaryOp) (meant : Value.elementwise? op = some f) (exact : f ≠ .divide)
    (first : Offers m s xs a) (second : Offers m t ys b) (numeric : a.isNumeric = true ∨ b.isNumeric = true)
    (ran : (Value.binary op a b).Yields m v after) : ∃ shape, Layout.broadcastShapes s t = some shape ∧ m.Grows after ∧
      v.Carries after shape (List.zipWith f.onWhole (stretch s shape xs) (stretch t shape ys)) ∧
      v.NewSince m := by
  rw [binary_dense op meant first.dense second.dense numeric] at ran
  exact binaryUfunc_yields f exact first second ran

theorem zipWith_onWhole_comm (f : BinaryUfunc) (commutes : f = .add ∨ f = .multiply) (xs ys : List Int) :
    List.zipWith f.onWhole xs ys = List.zipWith f.onWhole ys xs := by
  have same (a b : Int) : f.onWhole b a = f.onWhole a b := by
    rcases commutes with rfl | rfl
    · rw [BinaryUfunc.onWhole, BinaryUfunc.onWhole, Int.add_comm]
    · rw [BinaryUfunc.onWhole, BinaryUfunc.onWhole, Int.mul_comm]
  rw [List.zipWith_comm]
  simp only [same]

def scaled (k : Int) (xs : List Int) : List Int := xs.map (BinaryUfunc.onWhole .multiply k)

@[simp] theorem length_scaled (k : Int) (xs : List Int) : (scaled k xs).length = xs.length := List.length_map _

theorem scaled_one (xs : List Int) (wholes : ∀ x ∈ xs, IsWhole x) : scaled 1 xs = xs := by
  rw [scaled, onWhole_eq]
  exact map_once wholes

theorem zipWith_multiply_single (k : Int) (xs : List Int) (count : xs.length = Shape.size shape) :
    List.zipWith (BinaryUfunc.onWhole .multiply) (stretch [] shape [k]) xs = scaled k xs ∧
      List.zipWith (BinaryUfunc.onWhole .multiply) xs (stretch [] shape [k]) = scaled k xs := by
  have left : List.zipWith (BinaryUfunc.onWhole .multiply) (stretch [] shape [k]) xs = scaled k xs := by
    rw [stretch_single, ← count, zipWith_replicate_left, scaled]
  exact ⟨left, (zipWith_onWhole_comm .multiply (.inr rfl) _ _).trans left⟩

theorem scale_yields (k : Int) (carries : v.Carries m shape xs)
    (ran : (binaryUfunc .multiply (.num (.int k)) v).Yields m w after) :
    m.Grows after ∧ w.Carries after shape (scaled k xs) ∧ w.NewSince m := by
  obtain ⟨common, joined, grows, made, new⟩ :=
    binaryUfunc_yields .multiply (by simp) (.plain rfl rfl) (.carried carries) ran
  rw [Layout.broadcastShapes_nil] at joined
  cases joined
  rw [stretch_self carries.count, (zipWith_multiply_single k xs carries.count).1] at made
  exact ⟨grows, made, new⟩

theorem times_yields (k : Int) (carries : v.Carries m shape xs)
    (ran : (Value.binary .mult (.num (.int k)) v).Yields m w after) :
    m.Grows after ∧ w.Carries after shape (scaled k xs) ∧ w.NewSince m := by
  have plain : Offers m [] [k] (.num (.int k)) := .plain rfl rfl
  have carried : v.Offers m shape xs := .carried carries
  rw [binary_dense .mult rfl plain.dense carried.dense (.inr carries.isNumeric)] at ran
  exact scale_yields k carries ran

theorem update_yields (op : BinaryOp) (meant : Value.elementwise? op = some f)
    (target : Carries m s xs (.array number view)) (operand : Offers m t ys b)
    (ran : (update op (.array number view) b).Yields m v after) :
    v = .array number view ∧ f ≠ .divide ∧ view.writeable = true ∧
      (∃ layout, (Layout.rowMajor t).broadcastTo? s = some layout) ∧
      m.Changes ∅ {spot | spot ∈ view.spots} after ∧
      v.Carries after s (List.zipWith f.onWhole xs (stretch t s ys)) := by
  have plain : b.isSparse = false := by rcases operand with ⟨_ | _⟩ | _ <;> rfl
  simp only [update, meant, plain, Bool.false_eq_true, if_false, yields_bind, yields_pure] at ran
  obtain ⟨_, _, written, rfl, rfl⟩ := ran
  exact ⟨rfl, binaryUfuncInto_yields f target operand written⟩

/-! ### Assignment -/

theorem setItem_yields (target : Carries m t ys (.array number view)) (carries : v.Carries m s xs)
    (ran : (setItem (.array number view) .ellipsis v).Yields m u after) :
    view.writeable = true ∧ ∃ zs, stretchOver? s t xs = some zs ∧
      m.Changes ∅ {spot | spot ∈ view.spots} after ∧ Carries after t zs (.array number view) := by
  obtain ⟨writeable, covered⟩ := setItem_goesThrough target.bears carries.bears (ran.completes trivial)
  obtain ⟨zs, over?⟩ := Option.isSome_iff_exists.mp ((stretchOver?_isSome_iff s t xs).mpr covered)
  obtain ⟨changes, bears⟩ := ran.completes_iff.mp
    (setItem_completes rfl target.bears (target.placed _ _ rfl) writeable carries.bears over?)
  exact ⟨writeable, zs, over?, changes, bears.carries (target.placed.later changes)⟩

end
end Rebind
