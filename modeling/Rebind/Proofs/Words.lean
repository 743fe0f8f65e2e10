import Rebind.Proofs.Completion
/-!
Arrays of integers of any width. A value bears numbers under a shape if it is an array of the type that shows
them, or a single one. What the elementwise functions do to such values is said by the numbers alone: where the cells
lie, and who else looks at them, plays no part in the result. Everything here is also shown to go through: operands
can be read, elementwise functions applied and results assigned, wherever types and shapes allow it.
-/
namespace Rebind

open Number Strided Syntax Value

def wholeCell (n : Int) : Cell := .num (.int n)

/-! ### Numbers of one type -/

/-- The function of two numbers that an elementwise function is on integers of the type. -/
def Strided.DType.onWords (d : DType) : BinaryUfunc → Int → Int → Int
  | .add, a, b => d.wrap (a + b)
  | .subtract, a, b => d.wrap (a - b)
  | .multiply, a, b => d.wrap (a * b)
  | .maximum, a, b => if a ≥ b then a else b
  | .divide, _, _ => 0

/-- The numbers repeated to fill a wider shape. -/
def stretch (shape target : Shape) (xs : List Int) : List Int :=
  match (Layout.rowMajor shape).broadcastTo? target with
  | some layout => layout.addresses.map fun place => xs.getD place.toNat 0
  | none => []

theorem forM_zip_congr {f : α → β} {g : α → γ} {run : Int × β → Run Unit} {run' : Int × γ → Run Unit}
    (same : ∀ place x, run (place, f x) = run' (place, g x)) (places : List Int) (xs : List α) :
    (places.zip (xs.map f)).forM run = (places.zip (xs.map g)).forM run' := by
  simp only [List.zip_map_right, List.forM_eq_forM, List.forM_map, Prod.map, id, same]

section
variable {d : DType}

theorem holds_iff (n : Int) : d.holds n = true ↔ d.wrap n = n := by simp [DType.holds]

theorem mayStore_own {view : View} (typed : view.dtype = d) : mayStore d (some view) = true := by
  simp [mayStore, typed, DType.sameKind]

theorem onWords_add_comm (d : DType) (a b : Int) : d.onWords .add a b = d.onWords .add b a := by
  rw [DType.onWords, DType.onWords, Int.add_comm]

theorem zipWith_add_comm (d : DType) (xs ys : List Int) :
    List.zipWith (d.onWords .add) xs ys = List.zipWith (d.onWords .add) ys xs := by
  rw [List.zipWith_comm]
  simp only [onWords_add_comm d]

theorem onWords_one_multiply (held : d.holds n = true) : d.onWords .multiply 1 n = n := by
  rw [holds_iff] at held
  rw [DType.onWords, Int.one_mul, held]

theorem map_wrap_held {zs : List Int} (held : ∀ z ∈ zs, d.holds z = true) : zs.map d.wrap = zs :=
  (List.map_congr_left fun z member => (holds_iff z).mp (held z member)).trans (List.map_id _)

theorem map_once {xs : List Int} (held : ∀ x ∈ xs, d.holds x = true) : xs.map (d.onWords .multiply 1) = xs :=
  (List.map_congr_left fun x member => onWords_one_multiply (held x member)).trans (List.map_id _)

variable (integer : d.kind = .integer)
include integer

theorem holds_wrap (n : Int) : d.holds (d.wrap n) = true := by
  rw [holds_iff]
  cases d with
  | uint8 | uint64 => exact Int.emod_emod_of_dvd _ (Int.dvd_refl _)
  | int32 | int64 => exact Int.bmod_bmod
  | _ => cases integer

theorem holds_small (n : Int) (low : 0 ≤ n) (high : n ≤ 1) : d.holds n = true := by
  obtain rfl | rfl : n = 0 ∨ n = 1 := by omega
  all_goals cases d with
    | uint8 | uint64 | int32 | int64 => rfl
    | _ => cases integer

theorem cast_word (held : d.holds n = true) : d.cast (.int n) = .int n := by
  rw [holds_iff] at held
  simp only [DType.cast, integer, held]

theorem promote_word : d.promote d = d := by
  cases d with
  | uint8 | uint64 | int32 | int64 => rfl
  | _ => cases integer

theorem promoteWeak_word (n : Int) : d.promoteWeak (.int n) = d := by
  simp only [DType.promoteWeak, integer]

theorem word_ne_object : d ≠ .object := by
  rintro rfl
  cases integer

theorem binary_word (f : BinaryUfunc) (a b : Int) : d.binary f (.int a) (.int b) = .int (d.onWords f a b) := by
  simp only [DType.binary, integer]
  cases f <;> rfl

theorem holds_onWords (f : BinaryUfunc) (first : d.holds a = true) (second : d.holds b = true) :
    d.holds (d.onWords f a b) = true := by
  cases f with
  | add | subtract | multiply => exact holds_wrap integer _
  | maximum =>
    rw [DType.onWords]
    split
    · exact first
    · exact second
  | divide => exact holds_small integer 0 (by decide) (by decide)

theorem castCell_word (held : d.holds n = true) : castCell d (wholeCell n) = pure (wholeCell n) := by
  simp only [castCell, wholeCell, word_ne_object integer, if_false, cast_word integer held]

theorem castCell_words (xs : List Int) (held : ∀ x ∈ xs, d.holds x = true) :
    (xs.map wholeCell).mapM (castCell d) = pure (xs.map wholeCell) := by
  induction xs with
  | nil => rfl
  | cons x rest ih =>
    rw [List.forall_mem_cons] at held
    simp [List.mapM_cons, castCell_word integer held.1, ih held.2]

theorem stretch_held (shape target : Shape) (held : ∀ x ∈ xs, d.holds x = true) :
    ∀ x ∈ stretch shape target xs, d.holds x = true := by
  intro x member
  rw [stretch] at member
  split at member
  · obtain ⟨place, _, rfl⟩ := List.mem_map.mp member
    rw [List.getD_eq_getElem?_getD]
    cases inside : xs[place.toNat]? with
    | none => exact holds_small integer 0 (by decide) (by decide)
    | some x => exact held x (List.mem_of_getElem? inside)
  · cases member

theorem zipWith_held (f : BinaryUfunc) (xs ys : List Int) (first : ∀ x ∈ xs, d.holds x = true)
    (second : ∀ y ∈ ys, d.holds y = true) : ∀ z ∈ List.zipWith (d.onWords f) xs ys, d.holds z = true := by
  intro z member
  rw [← List.map_uncurry_zip_eq_zipWith, List.mem_map] at member
  obtain ⟨⟨x, y⟩, pair, rfl⟩ := member
  exact holds_onWords integer f (first x (List.of_mem_zip pair).1) (second y (List.of_mem_zip pair).2)

theorem castCell_wrap (n : Int) : castCell d (wholeCell n) = pure (wholeCell (d.wrap n)) := by
  simp only [castCell, wholeCell, word_ne_object integer, if_false, DType.cast, integer]

theorem forM_words (b : Nat) (places zs : List Int) :
    (places.zip (zs.map fun n => (pure (wholeCell n) : Run Cell))).forM (fun (place, step) => do
      Run.writeCell b place (← castCell d (← step))) =
      (places.zip ((zs.map d.wrap).map wholeCell)).forM fun (place, cell) => Run.writeCell b place cell := by
  rw [List.map_map]
  exact forM_zip_congr (fun place n => by simp [castCell_wrap integer]) places zs

end

/-! ### Values -/

/-- The value is an array of the type that shows these numbers, or a single one of them. -/
inductive Value.Bears (m : Memory) (d : DType) (shape : Shape) (xs : List Int) : Value → Prop
  | array (known : number < m.objects.size) (stored : view.buffer < m.buffers.size) (typed : view.dtype = d)
      (shaped : view.shape = shape) (shown : m.contents view = xs.map wholeCell)
      (held : ∀ x ∈ xs, d.holds x = true) : Bears m d shape xs (.array number view)
  | single (flat : shape = []) (alone : xs = [n]) (held : d.holds n = true) :
      Bears m d shape xs (.scalar d (.int n))

/-- The value bears the numbers, or is a plain number itself. -/
inductive Value.Lends (m : Memory) (d : DType) (shape : Shape) (xs : List Int) : Value → Prop
  | borne (bears : v.Bears m d shape xs) : Lends m d shape xs v
  | plain (flat : shape = []) (alone : xs = [n]) (held : d.holds n = true) : Lends m d shape xs (.num (.int n))

def Value.NewSince (m : Memory) (v : Value) : Prop :=
  ∀ number view, v = .array number view → m.buffers.size ≤ view.buffer ∧ view.writeable = true

/-- No cell of the value is among the given spots. -/
def Value.Avoids (spots : Set (Nat × Nat)) (v : Value) : Prop :=
  ∀ number view, v = .array number view → ∀ spot ∈ view.spots, spot ∉ spots

def Value.Placed (m : Memory) (v : Value) : Prop := ∀ number view, v = .array number view → view.Placed m

section
variable {m between after : Memory} {d : DType} {v : Value} {view : View} {plan : Plan} {zs : List Int}
  {names : Set String} {spots : Set (Nat × Nat)}

theorem Value.Bears.count (bears : v.Bears m d shape xs) : xs.length = Shape.size shape := by
  cases bears with
  | array _ _ _ shaped shown _ =>
    have same := congrArg List.length shown
    rw [length_contents, List.length_map] at same
    rw [← same, View.size, Layout.size, ← shaped, View.shape]
  | single flat alone _ => simp [flat, alone, Shape.size]

theorem Value.Bears.held (bears : v.Bears m d shape xs) : ∀ x ∈ xs, d.holds x = true := by
  cases bears with
  | array _ _ _ _ _ held => exact held
  | single _ alone held => simpa [alone] using held

theorem Value.Bears.bare (bears : v.Bears m d shape xs) : v.bare = v := by
  cases bears <;> rfl

theorem Value.Bears.isNumeric (bears : v.Bears m d shape xs) : v.isNumeric = true := by
  cases bears <;> rfl

section
variable (bears : Value.Bears m d shape xs (.array number view))
include bears

theorem Value.Bears.known : number < m.objects.size := by
  cases bears with
  | array known _ _ _ _ _ => exact known

theorem Value.Bears.shaped : view.shape = shape := by
  cases bears with
  | array _ _ _ shaped _ _ => exact shaped

theorem Value.Bears.typed : view.dtype = d := by
  cases bears with
  | array _ _ typed _ _ _ => exact typed

end

theorem Value.Bears.later (bears : v.Bears m d shape xs) (changes : m.Changes names spots after)
    (avoids : v.Avoids spots) : v.Bears after d shape xs := by
  cases bears with
  | array known stored typed shaped shown held =>
    refine .array (known.trans_le changes.objects) (stored.trans_le changes.buffers) typed shaped ?_ held
    rw [changes.shows stored (avoids _ _ rfl), shown]
  | single flat alone held => exact .single flat alone held

theorem Value.Bears.grown (bears : v.Bears m d shape xs) (grows : m.Grows after) : v.Bears after d shape xs :=
  bears.later grows (by simp [Avoids])

theorem Value.Bears.setItem (bears : v.Bears m d s xs) (number : Nat) (view : View) :
    Value.setItem (.array number view) .ellipsis v = Value.assign view v := by
  cases bears <;> simp [Value.setItem, select, selectView, isBox]

theorem Value.Lends.later (lends : v.Lends m d shape xs) (changes : m.Changes names spots after)
    (avoids : v.Avoids spots) : v.Lends after d shape xs := by
  cases lends with
  | borne bears => exact .borne (bears.later changes avoids)
  | plain flat alone held => exact .plain flat alone held

theorem Value.NewSince.avoids (new : v.NewSince m) (placed : view.Placed m) : v.Avoids {spot | spot ∈ view.spots} := by
  intro number other same spot member shared
  have later := (new number other same).1
  rw [← View.mem_spots_buffer member, View.mem_spots_buffer shared] at later
  exact absurd placed.buffer (Nat.not_lt.mpr later)

theorem View.Placed.array (placed : view.Placed m) (number : Nat) : Value.Placed m (.array number view) := by
  rintro _ _ ⟨⟩
  exact placed

theorem Value.Placed.later (placed : v.Placed m) (changes : m.Changes names spots after) : v.Placed after :=
  fun number view same => (placed number view same).later changes

/-! ### Stretching -/

theorem stretch_of_same_size (found : (Layout.rowMajor shape).broadcastTo? target = some layout)
    (same : Shape.size shape = Shape.size target) (count : xs.length = Shape.size shape) :
    stretch shape target xs = xs := by
  have addresses := Layout.broadcastTo?_addresses _ _ found (by rwa [Layout.size, Layout.rowMajor_shape])
  simp only [stretch, found]
  rw [addresses, Layout.rowMajor_addresses, ← count, List.map_map]
  refine List.ext_getElem (by simp) fun i _ inside => ?_
  simp [List.getD_eq_getElem?_getD, inside]

@[simp] theorem stretch_self (count : xs.length = Shape.size shape) : stretch shape shape xs = xs := by
  have found := Layout.broadcastTo?_self (Layout.rowMajor shape)
  rw [Layout.rowMajor_shape] at found
  exact stretch_of_same_size found rfl count

theorem length_stretch (found : (Layout.rowMajor shape).broadcastTo? target = some layout) (xs : List Int) :
    (stretch shape target xs).length = Shape.size target := by
  simp only [stretch, found, List.length_map, Layout.length_addresses]
  rw [Layout.size, Layout.broadcastTo?_shape _ _ found]

theorem places_still (shape : Shape) (start : Int) :
    Layout.places (shape.map fun n => ⟨n, 0⟩) start = List.replicate (Shape.size shape) start := by
  induction shape with
  | nil => rfl
  | cons n rest ih => simp [Layout.places, ih, Layout.size_cons, List.eq_replicate_iff]

theorem stretch_single (n : Int) (target : Shape) : stretch [] target [n] = List.replicate (Shape.size target) n := by
  have found : (Layout.rowMajor []).broadcastTo? target = some ⟨0, target.map fun n => ⟨n, 0⟩⟩ := by
    simp [Layout.broadcastTo?, Layout.rowMajor, Layout.rowAxes, Layout.stretchReversed]
  simp [stretch, found, Layout.addresses, places_still]

theorem zipWith_replicate_left (f : Int → Int → Int) (k : Int) (xs : List Int) :
    List.zipWith f (List.replicate xs.length k) xs = xs.map (f k) := by
  induction xs with
  | nil => rfl
  | cons x rest ih => simp [List.replicate_succ, ih]

/-- The numbers stretched over a shape; more axes are allowed if they have length one. -/
def stretchOver? (shape target : Shape) (xs : List Int) : Option (List Int) :=
  let trimmed := Layout.dropLeadingOnes (shape.length - target.length) shape
  ((Layout.rowMajor trimmed).broadcastTo? target).map fun _ => stretch trimmed target xs

theorem dropLeadingOnes_size (excess : Nat) (shape : Shape) :
    Shape.size (Layout.dropLeadingOnes excess shape) = Shape.size shape := by
  fun_induction Layout.dropLeadingOnes excess shape with
  | case1 => rfl
  | case2 excess shape ih => simp [ih, Layout.size_cons]
  | case3 => rfl

section
variable (over? : stretchOver? shape target xs = some zs)
include over?

theorem stretchOver?_count : zs.length = Shape.size target := by
  obtain ⟨layout, found, rfl⟩ := Option.map_eq_some_iff.mp over?
  exact length_stretch found xs

theorem stretchOver?_held {d : DType} (integer : d.kind = .integer)
    (held : ∀ x ∈ xs, d.holds x = true) : ∀ z ∈ zs, d.holds z = true := by
  obtain ⟨layout, found, rfl⟩ := Option.map_eq_some_iff.mp over?
  exact stretch_held integer _ _ held

theorem stretchOver?_same_size
    (same : Shape.size shape = Shape.size target) (count : xs.length = Shape.size shape) : zs = xs := by
  obtain ⟨layout, found, rfl⟩ := Option.map_eq_some_iff.mp over?
  exact stretch_of_same_size found (by rw [dropLeadingOnes_size, same]) (by rw [dropLeadingOnes_size, count])

end

theorem stretchOver?_single (n : Int) (target : Shape) :
    stretchOver? [] target [n] = some (List.replicate (Shape.size target) n) := by
  obtain ⟨layout, found⟩ := Layout.broadcastTo?_isSome (Layout.rowMajor []) target trivial
  have trimmed : Layout.dropLeadingOnes (([] : Shape).length - target.length) [] = [] := by
    simp [Layout.dropLeadingOnes]
  rw [stretchOver?]
  simp only [trimmed, found, Option.map_some, stretch_single]

theorem stretchOver?_self (count : xs.length = Shape.size shape) : stretchOver? shape shape xs = some xs := by
  have found := Layout.broadcastTo?_self (Layout.rowMajor shape)
  rw [Layout.rowMajor_shape] at found
  simp [stretchOver?, Layout.dropLeadingOnes, found, count]

/-! ### Operands -/

/-- The operand holds these numbers, of the type or as a plain number. -/
structure Operand.Bears (o : Operand) (d : DType) (shape : Shape) (xs : List Int) : Prop where
  shaped : o.shape = shape
  cells : o.cells = xs.map wholeCell
  count : xs.length = Shape.size shape
  textual : o.textual = false
  held : ∀ x ∈ xs, d.holds x = true
  kind : (o.weak = none ∧ o.dtype = d) ∨ ∃ n, o.weak = some (.int n) ∧ xs = [n]

theorem Value.Bears.operand (bears : v.Bears m d shape xs) : (Value.operand v).Completes m fun o after =>
    m = after ∧ o.Bears d shape xs ∧ o.weak = none ∧ o.dtype = d := by
  have count := bears.count
  have held := bears.held
  cases bears with
  | array _ _ typed shaped shown _ =>
    simp only [Value.operand, exportedView?, exportedBytes?, completes_bind, completes_pure, completes_read,
      true_and]
    exact ⟨⟨shaped, shown, count, rfl, held, .inl ⟨rfl, typed⟩⟩, typed⟩
  | single flat alone _ =>
    subst flat alone
    simp only [Value.operand, exportedView?, exportedBytes?, completes_bind, completes_pure, true_and]
    exact ⟨⟨rfl, rfl, rfl, rfl, held, .inl ⟨rfl, rfl⟩⟩, rfl, rfl⟩

theorem Value.Lends.operand (lends : v.Lends m d shape xs) : (Value.operand v).Completes m fun o after =>
    m = after ∧ o.Bears d shape xs ∧ (v.isNumeric = true → o.weak = none) := by
  cases lends with
  | borne bears =>
    refine bears.operand.imp ?_
    intro o after found
    exact ⟨found.1, found.2.1, fun _ => found.2.2.1⟩
  | plain flat alone held =>
    subst flat alone
    simp only [Value.operand, exportedView?, exportedBytes?, completes_bind, completes_pure, true_and]
    refine ⟨⟨rfl, rfl, rfl, rfl, by simpa using held, .inr ⟨_, rfl, rfl⟩⟩, ?_⟩
    intro wrong
    cases wrong

theorem Operand.Bears.placed (first : Operand.Bears a d s xs) (second : Operand.Bears b d t ys) :
    Operand.textMisplaced a b = false := by
  simp [Operand.textMisplaced, first.textual, second.textual]

theorem spread_eq (shaped : Operand.shape o = shape) (cells : o.cells = xs.map wholeCell) (target : Shape) :
    o.spread target = (stretch shape target xs).map wholeCell := by
  rw [Operand.spread, stretch, shaped, cells]
  cases (Layout.rowMajor shape).broadcastTo? target with
  | none => rfl
  | some layout =>
    simp only [List.map_map]
    refine List.map_congr_left fun place _ => ?_
    rw [Function.comp_apply, Array.getD_eq_getD_getElem?, List.getElem?_toArray, List.getElem?_map,
      List.getD_eq_getElem?_getD]
    cases xs[place.toNat]? <;> rfl

theorem Operand.Bears.spreadOver (bears : Operand.Bears o d s xs) (over? : stretchOver? s target xs = some zs) :
    spreadOver o target = .ok (zs.map wholeCell) := by
  obtain ⟨layout, found, rfl⟩ := Option.map_eq_some_iff.mp over?
  let trimmed := Layout.dropLeadingOnes (s.length - target.length) s
  have shaped : Operand.shape { o with layout := Layout.rowMajor trimmed } = trimmed := Layout.rowMajor_shape _
  simp only [spreadOver, bears.shaped, found, trimmed, spread_eq shaped bears.cells]

theorem Value.Lends.accepted (lends : v.Lends m d shape xs) : v.refusesElementwise = false := by
  rcases lends with ⟨_ | _⟩ | _ <;> rfl

/-- The value is an array or a single number: it is not boxed, not sparse and no sequence. -/
structure Value.Dense (v : Value) : Prop where
  unboxed : v.isBox = false
  full : v.isSparse = false
  whole : v.isSequence = false
  firm (other : Value) : softened v other = pure v

theorem Value.Lends.dense (lends : v.Lends m d shape xs) : v.Dense := by
  rcases lends with ⟨_ | _⟩ | _ <;> exact ⟨rfl, rfl, rfl, fun _ => rfl⟩

theorem binary_dense (op : BinaryOp) (meant : Value.elementwise? op = some f) (first : a.Dense) (second : b.Dense)
    (numeric : a.isNumeric = true ∨ b.isNumeric = true) : Value.binary op a b = binaryUfunc f a b := by
  have arrays : Value.binary op a b = arrayBinary op a b := by
    simp [Value.binary, denseBinary, first.unboxed, second.unboxed, first.full, second.full, numeric]
  have each : arrayBinary.elementwise op a b = binaryUfunc f a b := by
    simp [arrayBinary.elementwise, meant, first.firm]
  have product : op ≠ .matMult := by
    rintro rfl
    cases meant
  rw [arrays, ← each]
  unfold arrayBinary
  rw [if_neg product]
  split <;> simp [first.whole, second.whole]

theorem resultShape_fits (found : resultShape [s, t] target = .ok shape) :
    Layout.FitsReversed s.reverse shape.reverse ∧ Layout.FitsReversed t.reverse shape.reverse := by
  simp only [resultShape, List.foldlM_cons, List.foldlM_nil, Layout.broadcastShapes_nil] at found
  rcases joined : Layout.broadcastShapes s t with _ | common
  · simp [joined, bind, Except.bind] at found
  · obtain ⟨first, second⟩ := Layout.broadcastShapes_fits s t joined
    cases target with
    | none =>
      simp only [joined, bind, Except.bind, pure, Except.pure, Except.ok.injEq] at found
      exact found ▸ ⟨first, second⟩
    | some view =>
      simp only [joined, bind, Except.bind, pure, Except.pure] at found
      split at found
      · rename_i whole further
        cases found
        have wider := (Layout.broadcastShapes_fits _ _ further).1
        exact ⟨first.trans _ _ _ wider, second.trans _ _ _ wider⟩
      · cases found

theorem resultShape_new (found : resultShape [s, t] none = .ok shape) : Layout.broadcastShapes s t = some shape := by
  simp only [resultShape, List.foldlM_cons, List.foldlM_nil, Layout.broadcastShapes_nil] at found
  rcases joined : Layout.broadcastShapes s t with _ | common
  · simp [joined, bind, Except.bind] at found
  · simpa [joined, bind, Except.bind, pure, Except.pure] using found

theorem resultShape_joined (joined : Layout.broadcastShapes s t = some shape) :
    resultShape [s, t] none = .ok shape := by
  simp [resultShape, List.foldlM_cons, joined, bind, Except.bind, pure, Except.pure]

theorem resultShape_onto (shaped : view.shape = s) (joined : Layout.broadcastShapes s t = some s) :
    resultShape [s, t] (some view) = .ok s := by
  simp [resultShape, List.foldlM_cons, joined, shaped, bind, Except.bind, pure, Except.pure]

theorem mapM_computed (zs : List Int) :
    (zs.map fun n => (pure (wholeCell n) : Run Cell)).mapM id = pure (zs.map wholeCell) := by
  induction zs with
  | nil => rfl
  | cons z rest ih => simp [List.mapM_cons, ih]

section
variable (integer : d.kind = .integer)
include integer

theorem Operand.Bears.castTo (bears : Operand.Bears o d s xs) :
    ∃ taken, o.castTo d = pure taken ∧ taken.shape = s ∧ taken.cells = xs.map wholeCell := by
  rcases bears.kind with ⟨firm, _⟩ | ⟨n, weak, alone⟩
  · refine ⟨{ o with dtype := d, cells := xs.map wholeCell }, ?_, bears.shaped, rfl⟩
    simp [Operand.castTo, firm, bears.cells, castCell_words integer xs bears.held]
  · subst alone
    have held : d.holds n = true := bears.held n (by simp)
    have checked : numberFor d (.num (.int n)) = .ok (.int n) := by
      simp only [numberFor, integer]
      change (if d.holds n then Except.ok (Numeral.int n) else _) = _
      rw [if_pos held]
    refine ⟨{ o with dtype := d, cells := [wholeCell n] }, ?_, bears.shaped, rfl⟩
    simp [Operand.castTo, weak, word_ne_object integer, checked, Run.ofExcept, wholeCell]

theorem Operand.Bears.meet (first : Operand.Bears a d s xs) (second : Operand.Bears b d t ys)
    (firm : a.weak = none ∨ b.weak = none) : Operand.meet a b = d := by
  rcases first.kind with ⟨firmA, typedA⟩ | ⟨n, weakA, _⟩
  · rcases second.kind with ⟨firmB, typedB⟩ | ⟨k, weakB, _⟩
    · simp only [Operand.meet, firmA, firmB, typedA, typedB, promote_word integer]
    · simp only [Operand.meet, firmA, weakB, typedA, promoteWeak_word integer]
  · rcases second.kind with ⟨firmB, typedB⟩ | ⟨k, weakB, _⟩
    · simp only [Operand.meet, weakA, firmB, typedB, promoteWeak_word integer]
    · rcases firm with firm | firm
      · rw [weakA] at firm
        cases firm
      · rw [weakB] at firm
        cases firm

/-! ### Plans -/

/-- The steps of the plan give these numbers of the type and do nothing else. -/
structure Plan.Makes (plan : Plan) (d : DType) (zs : List Int) : Prop where
  typed : plan.dtype = d
  fills : plan.layout.Fills
  shaped : plan.layout.shape = plan.shape
  steps : plan.steps = zs.map fun n => pure (wholeCell n)
  count : zs.length = Shape.size plan.shape
  held : ∀ z ∈ zs, d.holds z = true

theorem binaryPlan_words (f : BinaryUfunc) (exact : f ≠ .divide) (first : Operand.Bears a d s xs)
    (second : Operand.Bears b d t ys) (meets : Operand.meet a b = d) (target : Option View)
    (stores : mayStore d target = true) :
    ∃ plan : Shape → Plan, binaryPlan f a b target = (do return plan (← Run.ofExcept (resultShape [s, t] target))) ∧
      ∀ shape, resultShape [s, t] target = .ok shape → (plan shape).shape = shape ∧
        (plan shape).Makes d (List.zipWith (d.onWords f) (stretch s shape xs) (stretch t shape ys)) := by
  have typed : Operand.binaryType f a b = .ok d := by
    rw [Operand.binaryType, first.placed second, meets]
    simp only [Bool.false_eq_true, if_false, integer]
    cases f with
    | divide => exact absurd rfl exact
    | _ => rfl
  obtain ⟨a', castA, shapeA, cellsA⟩ := first.castTo integer
  obtain ⟨b', castB, shapeB, cellsB⟩ := second.castTo integer
  refine ⟨fun shape => ⟨d, shape, Layout.ofOperands shape [a'.stretched shape, b'.stretched shape],
    ((a'.spread shape).zip (b'.spread shape)).map fun pair => binaryStep f d pair.1 pair.2⟩, ?_, fun shape found => ?_⟩
  · simp [binaryPlan, typed, Run.ofExcept, stores, castA, castB, shapeA, shapeB]
  obtain ⟨fitsA, fitsB⟩ := resultShape_fits found
  obtain ⟨_, spreadA⟩ := Layout.broadcastTo?_isSome (Layout.rowMajor s) shape (by rwa [Layout.rowMajor_shape])
  obtain ⟨_, spreadB⟩ := Layout.broadcastTo?_isSome (Layout.rowMajor t) shape (by rwa [Layout.rowMajor_shape])
  refine ⟨rfl, rfl, Layout.ofOperands_fills _ _, Layout.ofOperands_shape _ _, ?_, ?_, ?_⟩
  · simp only [spread_eq shapeA cellsA, spread_eq shapeB cellsB]
    rw [← List.map_uncurry_zip_eq_zipWith, List.zip_map, List.map_map, List.map_map]
    refine List.map_congr_left fun pair _ => ?_
    change (pure (Cell.num (d.binary f (.int pair.1) (.int pair.2))) : Run Cell) = _
    rw [binary_word integer]
    rfl
  · simp [length_stretch spreadA, length_stretch spreadB]
  · exact zipWith_held integer f _ _ (stretch_held integer _ _ first.held) (stretch_held integer _ _ second.held)

theorem binaryPlan_makes (f : BinaryUfunc) (exact : f ≠ .divide) (first : Operand.Bears a d s xs)
    (second : Operand.Bears b d t ys) (firm : a.weak = none ∨ b.weak = none) (target : Option View)
    (stores : mayStore d target = true) (found : resultShape [s, t] target = .ok shape) :
    ∃ plan, binaryPlan f a b target = pure plan ∧ plan.shape = shape ∧
      plan.Makes d (List.zipWith (d.onWords f) (stretch s shape xs) (stretch t shape ys)) := by
  obtain ⟨plan, same, makes⟩ :=
    binaryPlan_words integer f exact first second (first.meet integer second firm) target stores
  refine ⟨plan shape, ?_, makes shape found⟩
  rw [same, found]
  rfl

theorem Plan.Makes.result (makes : plan.Makes d zs) :
    plan.result.Completes m fun v after => m.Grows after ∧ v.Bears after d plan.shape zs ∧
      v.NewSince m ∧ v.Placed after := by
  simp only [Plan.result, makes.steps, mapM_computed, pure_bind]
  split
  · rename_i flat alone
    obtain ⟨n, rest, rfl, rfl, none⟩ := List.map_eq_cons_iff.mp alone
    obtain rfl := List.map_eq_nil_iff.mp none
    rw [makes.typed, completes_pure, flat]
    simp only [wholeCell, element, word_ne_object integer, if_false]
    exact ⟨.refl _ _ _, .single rfl rfl (makes.held n (by simp)), nofun, nofun⟩
  · have count : (zs.map wholeCell).length = plan.layout.size := by
      rw [List.length_map, makes.count, Layout.size, makes.shaped]
    refine (newArray_completes plan.dtype makes.fills count).imp ?_
    rintro v after ⟨number, view, rfl, known, rfl, placed, grows, shown⟩
    refine ⟨grows, .array known placed.buffer makes.typed makes.shaped shown makes.held, ?_, placed.array _⟩
    rintro _ _ ⟨⟩
    exact ⟨Nat.le_refl _, rfl⟩

theorem Plan.Makes.into (makes : plan.Makes e zs) (target : Value.Bears m d plan.shape cs (.array number view))
    (placed : view.Placed m) (writeable : view.writeable = true) :
    (plan.into view).Completes m fun _ after => m.Changes ∅ {spot | spot ∈ view.spots} after ∧
      Value.Bears after d plan.shape (zs.map d.wrap) (.array number view) := by
  cases target with
  | array known stored typed shaped _ _ =>
    have allowed : ¬ (decide (plan.shape ≠ view.shape) || !view.writeable) = true := by simp [shaped, writeable]
    have count : ((zs.map d.wrap).map wholeCell).length = view.size := by
      rw [List.length_map, List.length_map, makes.count, ← shaped, View.size, Layout.size, View.shape]
    have held : ∀ z ∈ zs.map d.wrap, d.holds z = true := by
      intro z member
      obtain ⟨n, _, rfl⟩ := List.mem_map.mp member
      exact holds_wrap integer n
    rw [Plan.into, if_neg allowed, makes.steps, typed, forM_words integer]
    refine (write_completes placed count).imp ?_
    rintro _ after ⟨changes, shown⟩
    exact ⟨changes, .array (known.trans_le changes.objects) (stored.trans_le changes.buffers) typed shaped shown held⟩

/-! ### Elementwise functions -/

theorem binaryUfunc_completes (f : BinaryUfunc) (exact : f ≠ .divide) (first : Lends m d s xs a)
    (second : Lends m d t ys b) (numeric : a.isNumeric = true ∨ b.isNumeric = true)
    (joined : Layout.broadcastShapes s t = some shape) : (binaryUfunc f a b).Completes m fun v after => m.Grows after ∧
      v.Bears after d shape (List.zipWith (d.onWords f) (stretch s shape xs) (stretch t shape ys)) ∧ v.NewSince m ∧ v.Placed after := by
  simp only [binaryUfunc, first.accepted, second.accepted, Bool.or_self, Bool.false_eq_true, if_false,
    completes_bind]
  refine first.operand.imp ?_
  rintro a' _ ⟨rfl, bearsA, firmA⟩
  refine second.operand.imp ?_
  rintro b' _ ⟨rfl, bearsB, firmB⟩
  obtain ⟨plan, planned, rfl, makes⟩ :=
    binaryPlan_makes integer f exact bearsA bearsB (numeric.imp firmA firmB) none rfl (resultShape_joined joined)
  rw [planned, completes_pure]
  exact makes.result integer

theorem binaryUfuncInto_completes (f : BinaryUfunc) (exact : f ≠ .divide)
    (target : Value.Bears m d s xs (.array number view)) (placed : view.Placed m) (writeable : view.writeable = true)
    (operand : Lends m d t ys b) (joined : Layout.broadcastShapes s t = some s) :
    (binaryUfuncInto f (.array number view) b view).Completes m fun _ after =>
      m.Changes ∅ {spot | spot ∈ view.spots} after ∧
        Value.Bears after d s (List.zipWith (d.onWords f) xs (stretch t s ys)) (.array number view) := by
  simp only [binaryUfuncInto, (Lends.borne target).accepted, operand.accepted, Bool.or_self,
    Bool.false_eq_true, if_false, completes_bind]
  refine target.operand.imp ?_
  rintro a' _ ⟨rfl, bearsA, firm, _⟩
  refine operand.operand.imp ?_
  rintro b' _ ⟨rfl, bearsB, _⟩
  obtain ⟨plan, planned, rfl, makes⟩ :=
    binaryPlan_makes integer f exact bearsA bearsB (.inl firm) (some view) (mayStore_own target.typed)
      (resultShape_onto target.shaped joined)
  rw [planned, completes_pure]
  refine (makes.into integer target placed writeable).imp ?_
  rintro _ after ⟨changes, shown⟩
  rw [map_wrap_held makes.held, stretch_self target.count] at shown
  exact ⟨changes, shown⟩

theorem binary_completes (op : BinaryOp) (meant : Value.elementwise? op = some f) (exact : f ≠ .divide)
    (first : Lends m d s xs a) (second : Lends m d t ys b) (numeric : a.isNumeric = true ∨ b.isNumeric = true)
    (joined : Layout.broadcastShapes s t = some shape) :
    (Value.binary op a b).Completes m fun v after => m.Grows after ∧
      v.Bears after d shape (List.zipWith (d.onWords f) (stretch s shape xs) (stretch t shape ys)) ∧ v.NewSince m ∧ v.Placed after := by
  rw [binary_dense op meant first.dense second.dense numeric]
  exact binaryUfunc_completes integer f exact first second numeric joined

theorem times_completes (held : d.holds n = true) (bears : v.Bears m d shape xs) :
    (Value.binary .mult (.num (.int n)) v).Completes m fun w after =>
      m.Grows after ∧ w.Bears after d shape (xs.map (d.onWords .multiply n)) ∧ w.NewSince m ∧ w.Placed after := by
  have lends : Lends m d [] [n] (.num (.int n)) := .plain rfl rfl held
  have each : List.zipWith (d.onWords .multiply) (stretch [] shape [n]) (stretch shape shape xs) =
      xs.map (d.onWords .multiply n) := by
    rw [stretch_self bears.count, stretch_single, ← bears.count, zipWith_replicate_left]
  rw [← each]
  exact binary_completes integer .mult rfl (by simp) lends (.borne bears) (.inr bears.isNumeric)
    (Layout.broadcastShapes_nil shape)

theorem add_completes (first : Value.Bears m d s xs a) (second : Value.Bears m d t ys b)
    (joined : Layout.broadcastShapes s t = some shape) :
    (Value.binary .add a b).Completes m fun v after => m.Grows after ∧
      v.Bears after d shape (List.zipWith (d.onWords .add) (stretch s shape xs) (stretch t shape ys)) ∧ v.NewSince m ∧ v.Placed after :=
  binary_completes integer .add rfl (by simp) (.borne first) (.borne second) (.inl first.isNumeric) joined

/-! ### Assignment -/

theorem assign_completes (bears : v.Bears m d s xs) (placed : view.Placed m) (typed : view.dtype = d)
    (writeable : view.writeable = true) (over? : stretchOver? s view.shape xs = some zs) :
    (Value.assign view v).Completes m fun _ after =>
      m.Changes ∅ {spot | spot ∈ view.spots} after ∧ after.contents view = zs.map wholeCell := by
  have count : (zs.map wholeCell).length = view.size := by
    rw [List.length_map, stretchOver?_count over?]
    rfl
  simp only [Value.assign, writeable, Bool.not_true, Bool.false_eq_true, if_false]
  cases id bears with
  | array _ _ _ _ _ _ =>
    simp only [completes_bind]
    refine bears.operand.imp ?_
    rintro o _ ⟨rfl, borne, _, typed'⟩
    rw [borne.spreadOver over?, Run.ofExcept, completes_pure, if_pos (typed'.trans typed.symm)]
    exact write_completes placed count
  | @single n flat alone held =>
    subst flat alone
    rw [stretchOver?_single, Option.some_inj] at over?
    have cast : cellFor view.dtype (.scalar d (.int n)) = pure (wholeCell n) := by
      simp only [cellFor, typed, word_ne_object integer, if_false, numberOf, pure_bind,
        cast_word integer held, wholeCell]
    have size : view.size = Shape.size view.shape := rfl
    simp only [cast, pure_bind, size, ← List.map_replicate, over?]
    exact write_completes placed count

theorem setItem_completes (target : Value.Bears m d t ys (.array number view)) (placed : view.Placed m)
    (writeable : view.writeable = true) (bears : v.Bears m d s xs) (over? : stretchOver? s t xs = some zs) :
    (setItem (.array number view) .ellipsis v).Completes m fun _ after =>
      m.Changes ∅ {spot | spot ∈ view.spots} after ∧ Value.Bears after d t zs (.array number view) := by
  cases target with
  | array known stored typed shaped _ _ =>
    subst shaped
    rw [bears.setItem]
    refine (assign_completes integer bears placed typed writeable over?).imp ?_
    rintro _ after ⟨changes, shown⟩
    exact ⟨changes, .array (known.trans_le changes.objects) (stored.trans_le changes.buffers) typed rfl shown
      (stretchOver?_held over? integer bears.held)⟩

end

/-! ### Comparison -/

theorem equal_whole (n k : Int) : Numeric.equal (.num (.int n)) (.num (.int k)) = .ok (decide (n = k)) := by
  change Except.ok (some (compare (n * (1 : Nat)) (k * (1 : Nat))) == some Ordering.eq) = _
  congr 1
  rw [Bool.eq_iff_iff]
  simp

theorem plainEq_whole (n k : Int) : plainEq nestingLimit (.num (.int n)) (.num (.int k)) = pure (decide (n = k)) := by
  rw [show nestingLimit = 63 + 1 from rfl, plainEq]
  simp only [bare, Numeric.ofValue?, equal_whole, Run.ofExcept]

theorem compare_whole (op : CompareOp) (meant : op = .eq ∨ op = .notEq) (n k : Int) :
    Value.compare op (.num (.int n)) (.num (.int k)) =
      pure (.bool (decide (op = .eq ↔ n = k))) := by
  rcases meant with rfl | rfl <;>
    · simp only [Value.compare, bare]
      rw [show nestingLimit = 63 + 1 from rfl, compareWithin]
      simp [facingParts?, compareWhole, isBox, isNumeric, plainCompare, plainEq_whole]

theorem truth_bool (b : Bool) : Value.truth (.bool b) = pure b := by
  cases b <;> rfl

theorem equals_whole (n k : Int) : equals (.num (.int n)) k = pure (decide (n = k)) := by
  simp [equals, int, compare_whole, truth_bool]

theorem differs_whole (n k : Int) : differs (.num (.int n)) k = pure (decide (n ≠ k)) := by
  simp [differs, int, compare_whole, truth_bool]

end
end Rebind
