import Rebind.Proofs.Endings
/-!
Functions applied to every element. Arguments are stretched to one shape; the element that corresponds to an index has the
same index without the axes that are stretched. The calls are made in the order of memory, but each result ends up at the
index of its arguments, put into the type that the first result has settled.
-/
namespace Rebind.Strided.Layout

/-- The index in a shape of the element that corresponds to an index in a wider shape. -/
def narrowed (shape : Shape) (index : List Nat) : List Nat :=
  (List.zipWith (fun n i => if n = 1 then 0 else i) shape.reverse index.reverse).reverse

/-! ### Corresponding elements -/

theorem distance_stretched (axes : List Axis) (target : Shape) (found : stretchReversed axes target = some out)
    (inside : List.Forall₂ (· < ·) index target) :
    distance out index = distance axes (List.zipWith (fun n i => if n = 1 then 0 else i) (axes.map Axis.length) index) := by
  induction axes generalizing target out index with
  | nil =>
    cases found
    have still (shape : Shape) (index : List Nat) : distance (shape.map fun n => ⟨n, 0⟩) index = 0 := by
      induction shape generalizing index with
      | nil => rfl
      | cons n rest ih => cases index <;> simp [distance, ih]
    rw [still]
    rfl
  | cons axis rest ih =>
    cases inside with
    | nil => cases found
    | @cons i n index target bound inside =>
      simp only [stretchReversed, Option.bind_eq_bind, Option.bind_eq_some_iff] at found
      obtain ⟨others, stretched, found⟩ := found
      rw [List.map_cons, List.zipWith_cons_cons, distance, ← ih target stretched inside]
      split at found
      · rename_i same
        cases found
        rw [distance, same]
        split
        · simp [show i = 0 by omega]
        · rfl
      · split at found
        · rename_i single
          cases found
          simp [distance, single]
        · cases found

theorem narrowed_mem {narrow wide : Shape} (fits : FitsReversed narrow.reverse wide.reverse)
    (member : index ∈ indices wide) : narrowed narrow index ∈ indices narrow := by
  have inside (narrow wide : Shape) (index : List Nat) (fits : FitsReversed narrow wide)
      (inside : List.Forall₂ (· < ·) index wide) :
      List.Forall₂ (· < ·) (List.zipWith (fun n i => if n = 1 then 0 else i) narrow index) narrow := by
    induction narrow generalizing wide index with
    | nil => simp
    | cons n rest ih =>
      cases inside with
      | nil => cases fits
      | @cons i k _ _ bound inside =>
        refine .cons ?_ (ih _ _ fits.2 inside)
        by_cases single : n = 1
        · simp [single]
        · have same : n = k := fits.1.resolve_right single
          simpa [single] using same ▸ bound
  rw [mem_indices_iff] at member ⊢
  have turned := List.rel_reverse (inside _ _ _ fits (List.rel_reverse member))
  rwa [List.reverse_reverse] at turned

theorem distance_narrowed {layout wide : Layout} (fits : FitsReversed layout.shape.reverse target.reverse)
    (found : layout.broadcastTo? target = some wide) (member : index ∈ indices target) :
    wide.offset + distance wide.axes index = layout.offset + distance layout.axes (narrowed layout.shape index) := by
  have length : (narrowed layout.shape index).length = layout.axes.length := by
    rw [((mem_indices_iff _ _).mp (narrowed_mem fits member)).length_eq, shape, List.length_map]
  rw [mem_indices_iff] at member
  have shaped := broadcastTo?_shape layout target found
  rw [broadcastTo?, Option.map_eq_some_iff] at found
  obtain ⟨axes, stretched, rfl⟩ := found
  have count : index.length = axes.reverse.length := by
    rw [member.length_eq, ← shaped, shape, List.length_map]
  have turned := distance_reverse axes.reverse index count
  rw [List.reverse_reverse] at turned
  rw [← turned, distance_stretched _ _ stretched (List.rel_reverse member), ← distance_reverse _ _ length, narrowed,
    List.reverse_reverse, shape, List.map_reverse]

/-! ### The order of memory -/

theorem Fills.sorted {layout : Layout} (fills : layout.Fills) (rows : List α) (count : rows.length = layout.size) (g : α → β)
    (default : β) :
    layout.addresses.map (fun place => ((((layout.addresses.zip rows).mergeSort fun a b => a.1 ≤ b.1).map
      fun pair => g pair.2).toArray.getD place.toNat default)) = rows.map g := by
  have addresses : layout.addresses.length = rows.length := by rw [length_addresses, count]
  let sorted := (layout.addresses.zip rows).mergeSort fun a b => a.1 ≤ b.1
  have perm : sorted.Perm (layout.addresses.zip rows) := List.mergeSort_perm _ _
  have places : sorted.map Prod.fst = (List.range layout.size).map Int.ofNat := by
    have first : (sorted.map Prod.fst).Perm ((List.range layout.size).map Int.ofNat) := by
      refine (perm.map Prod.fst).trans ?_
      rw [List.map_fst_zip addresses.le]
      exact fills
    have ordered : sorted.Pairwise fun a b => decide (a.1 ≤ b.1) = true := by
      refine List.pairwise_mergeSort ?_ ?_ _
      · simp only [decide_eq_true_eq]
        omega
      · simp only [Bool.or_eq_true, decide_eq_true_eq]
        omega
    refine first.eq_of_pairwise (fun a b _ _ => le_antisymm) (List.pairwise_map.mpr ?_) (List.pairwise_map.mpr ?_)
    · exact ordered.imp fun le => of_decide_eq_true le
    · exact List.pairwise_lt_range.imp fun less => Int.ofNat_le.mpr less.le
  refine List.ext_getElem (by simp [addresses]) fun i inside inside' => ?_
  rw [List.length_map] at inside inside'
  rw [List.getElem_map, List.getElem_map]
  have member : (layout.addresses[i], rows[i]) ∈ sorted := by
    rw [perm.mem_iff, ← List.getElem_zip (h := by simp [addresses, inside'])]
    exact List.getElem_mem _
  obtain ⟨j, bound, found⟩ := List.mem_iff_getElem.mp member
  have here : layout.addresses[i] = (j : Int) := by
    have same := congrArg (fun l => l[j]?) places
    have short : j < layout.size := by
      have counted := congrArg List.length places
      simp only [List.length_map, List.length_range] at counted
      omega
    simpa [List.getElem?_eq_getElem bound, found, List.getElem?_range short] using same
  rw [here, Int.toNat_natCast]
  have there : ((sorted.map fun pair => g pair.2).toArray)[j]? = some (g rows[i]) := by
    simp [List.getElem?_eq_getElem bound, found]
  rw [Array.getD_eq_getD_getElem?, there, Option.getD_some]

end Rebind.Strided.Layout

namespace Rebind

open Number Strided Layout Value

def View.cellAt (view : View) (m : Memory) (index : List Nat) : Cell :=
  m.cell (view.buffer, (view.layout.offset + distance view.layout.axes index).toNat)

inductive Value.IsArgument (m : Memory) : Value → Prop
  | array {view : View} (stored : view.buffer < m.buffers.size) (number : Nat) : IsArgument m (.array number view)
  | single (number : v.IsNumber) : IsArgument m v

def Value.lengths : Value → Strided.Shape
  | .array _ view => view.shape
  | _ => []

/-- The element of an argument that corresponds to an index. -/
def Value.elementAt (m : Memory) (index : List Nat) : Value → Value
  | .array _ view => ofCell (view.cellAt m (narrowed view.shape index))
  | v => v

/-- The first element of an argument, as a number of its type. -/
def Value.firstElement (m : Memory) : Value → Value
  | .array _ view => element view.dtype ((m.contents view).headD default)
  | .scalar d x => element d (.num x)
  | .num x => element (leafType (.num x)) (.num x)
  | v => v

/-- The function gives the value for the arguments, whenever it is called, and only adds to memory. -/
def Value.Answers (call : List Value → Run Value) (m : Memory) (row : List Value) (v : Value) : Prop :=
  ∀ between, m.Extends between → (call row).Completes between fun w after => between.Extends after ∧ w.bare = v

/-- Functions that are given whole arrays. -/
def Value.TakesArrays : Value → Prop
  | .builtin (.unary _) | .builtin (.binary _) => True
  | _ => False

/-- An array of a type and a shape with the given cells. -/
inductive Value.Tabulates (m : Memory) (d : DType) (shape : Shape) (cell : List Nat → Cell) : Value → Prop
  | intro {number : Nat} {view : View} (typed : view.dtype = d) (shaped : view.shape = shape)
      (cells : ∀ index ∈ indices shape, view.cellAt m index = cell index) : Tabulates m d shape cell (.array number view)

section
variable {m between after : Memory} {v : Value} {args : List Value} {s : Strided.Shape} {d : DType}
  {f : List Value → Value} {call : List Value → Run Value}

/-! ### Operands -/

theorem contents_eq_indices (m : Memory) (view : View) : m.contents view = (indices view.shape).map (view.cellAt m) := by
  simp [Memory.contents, View.spots, addresses_eq_indices, View.cellAt, View.shape, Function.comp_def]

theorem length_indices (shape : Strided.Shape) : (indices shape).length = shape.size := by
  have counted := congrArg List.length (addresses_eq_indices (rowMajor shape))
  simpa [Layout.size] using counted.symm

theorem spread_eq_indices {o : Operand} (g : List Nat → Cell) (cells : o.cells = (indices o.shape).map g)
    (fits : FitsReversed o.shape.reverse s.reverse) :
    o.spread s = (indices s).map fun index => g (narrowed o.shape index) := by
  have fits' : FitsReversed (rowMajor o.shape).shape.reverse s.reverse := by rwa [rowMajor_shape]
  obtain ⟨wide, found⟩ := broadcastTo?_isSome (rowMajor o.shape) s fits'
  rw [Operand.spread, found]
  dsimp only
  rw [addresses_eq_indices, broadcastTo?_shape _ _ found, List.map_map]
  refine List.map_congr_left fun index member => ?_
  have place := distance_narrowed fits' found member
  rw [rowMajor_shape] at place
  have inside := narrowed_mem fits member
  simp only [Function.comp_apply, place, cells]
  have start : (rowMajor o.shape).offset = 0 := rfl
  have axes : (rowMajor o.shape).axes = (rowAxes o.shape).1 := rfl
  rw [start, axes, zero_add, Array.getD_eq_getD_getElem?, List.getElem?_toArray, List.getElem?_map,
    getElem?_indices inside]
  rfl

theorem operand_argument (argument : v.IsArgument m) :
    ∃ o, (Value.operand v).Yields m o m ∧ o.shape = v.lengths ∧ o.cells.length = v.lengths.size ∧
      (o.cells.head?.map (element o.dtype) = some (v.firstElement m) ∨ o.cells = []) := by
  cases argument with
  | @array view stored number =>
    refine ⟨⟨view.dtype, view.layout, m.contents view, none, false⟩, ?_, rfl, length_contents m view, ?_⟩
    · simp [Value.operand, exportedView?, exportedBytes?]
    · dsimp only [firstElement]
      cases m.contents view with
      | nil => exact .inr rfl
      | cons c rest => exact .inl rfl
  | single number =>
    cases number with
    | plain x =>
      cases x with
      | bool b => exact ⟨.single .bool (.num (.bool b)), yields_pure.mpr ⟨rfl, rfl⟩, rfl, rfl, .inl rfl⟩
      | _ => exact ⟨_, yields_pure.mpr ⟨rfl, rfl⟩, rfl, rfl, .inl rfl⟩
    | @element d _ x => exact ⟨.single d (.num x), yields_pure.mpr ⟨rfl, rfl⟩, rfl, rfl, .inl rfl⟩

theorem objectOperand_argument (argument : v.IsArgument m) (extends_ : m.Extends between)
    (fits : FitsReversed v.lengths.reverse s.reverse) :
    ∃ o, (objectOperand v).Yields between o between ∧ o.shape = v.lengths ∧
      o.spread s = (indices s).map fun index => .object (v.elementAt m index) := by
  have single (v : Value) : (Operand.single .object (.object v)).spread s = (indices s).map fun _ => .object v :=
    spread_eq_indices (fun _ => .object v) rfl trivial
  cases argument with
  | @array view stored number =>
    have shown : between.contents view = m.contents view := extends_.toChanges.shows stored (by simp)
    let layout := if view.dtype = .object then view.layout else view.layout.copied
    have shaped : layout.shape = view.shape := by
      dsimp only [layout]
      split
      · rfl
      · exact copied_shape view.layout
    let cells := (m.contents view).map fun cell => Cell.object (ofCell cell)
    refine ⟨⟨.object, layout, cells, none, false⟩, ?_, shaped, ?_⟩
    · simp [objectOperand, exportedView?, exportedBytes?, shown, layout, cells]
    · have listed : cells = (indices layout.shape).map fun index => .object (ofCell (view.cellAt m index)) := by
        rw [shaped]
        simp [cells, contents_eq_indices, Function.comp_def]
      have spread := spread_eq_indices (o := ⟨.object, layout, cells, none, false⟩) (s := s) _ listed
        (by rw [Operand.shape, shaped]; exact fits)
      rw [spread]
      simp only [Operand.shape, shaped, elementAt]
  | single number => cases number <;> exact ⟨_, yields_pure.mpr ⟨rfl, rfl⟩, rfl, single _⟩

/-! ### The common shape -/

theorem size_eq_zero_iff (shape : Strided.Shape) : shape.size = 0 ↔ 0 ∈ shape := by
  induction shape with
  | nil => simp
  | cons n rest ih => rw [size_cons, Nat.mul_eq_zero, ih, List.mem_cons, eq_comm]

theorem broadcastReversed_zero (first second : Strided.Shape) (found : broadcastReversed first second = some common)
    (zero : 0 ∈ common) : 0 ∈ first ∨ 0 ∈ second := by
  induction first generalizing second common with
  | nil =>
    cases second <;> cases found
    · cases zero
    · exact .inr zero
  | cons n first ih =>
    cases second with
    | nil =>
      cases found
      exact .inl zero
    | cons k second =>
      simp only [broadcastReversed, Option.bind_eq_bind, Option.bind_eq_some_iff] at found
      obtain ⟨rest, joined, found⟩ := found
      have later := ih second joined
      grind

theorem fits_zero (first second : Strided.Shape) (fits : FitsReversed first second) (zero : 0 ∈ first) : 0 ∈ second := by
  induction first generalizing second with
  | nil => cases zero
  | cons n first ih =>
    cases second with
    | nil => cases fits
    | cons k second =>
      rcases List.mem_cons.mp zero with rfl | later
      · rcases fits.1 with rfl | wrong
        · exact List.mem_cons_self
        · cases wrong
      · exact List.mem_cons_of_mem _ (ih second fits.2 later)

theorem foldlM_fits {join : Strided.Shape → Strided.Shape → Except Fault Strided.Shape} {shapes : List Strided.Shape}
    {start : Strided.Shape} (joins : ∀ a b c, join a b = .ok c → broadcastShapes a b = some c)
    (found : shapes.foldlM join start = .ok s) :
    FitsReversed start.reverse s.reverse ∧ (∀ t ∈ shapes, FitsReversed t.reverse s.reverse) ∧
      (0 ∈ s → 0 ∈ start ∨ ∃ t ∈ shapes, 0 ∈ t) := by
  induction shapes generalizing start with
  | nil =>
    cases found
    exact ⟨.refl _, by simp, fun zero => .inl zero⟩
  | cons t rest ih =>
    rw [List.foldlM_cons] at found
    cases joined : join start t with
    | error fault =>
      rw [joined] at found
      cases found
    | ok common =>
      rw [joined] at found
      obtain ⟨whole, others, zeros⟩ := ih found
      have both := joins _ _ _ joined
      obtain ⟨first, second⟩ := broadcastShapes_fits _ _ both
      refine ⟨first.trans _ _ _ whole, ?_, fun zero => ?_⟩
      · rw [List.forall_mem_cons]
        exact ⟨second.trans _ _ _ whole, others⟩
      · rw [broadcastShapes, Option.map_eq_some_iff] at both
        obtain ⟨turned, agreed, rfl⟩ := both
        have shared := broadcastReversed_zero _ _ agreed
        simp only [List.mem_reverse] at shared zeros
        simp only [List.mem_cons, exists_eq_or_imp]
        rcases zeros zero with here | later
        · rcases shared here with first | second
          · exact .inl first
          · exact .inr (.inl second)
        · exact .inr (.inr later)

theorem commonShape_fits {shapes : List Strided.Shape} (found : resultShape shapes none = .ok s) :
    (∀ t ∈ shapes, FitsReversed t.reverse s.reverse) ∧ (s.size = 0 ↔ ∃ t ∈ shapes, t.size = 0) := by
  rw [resultShape] at found
  simp only [bind_pure] at found
  have fits := foldlM_fits (fun a b c joined => by
    split at joined <;> cases joined
    assumption) found
  refine ⟨fits.2.1, ?_⟩
  simp only [size_eq_zero_iff]
  constructor
  · intro zero
    exact (fits.2.2 zero).resolve_left (by simp)
  · rintro ⟨t, member, zero⟩
    simpa using fits_zero _ _ (fits.2.1 t member) (by simpa using zero)

/-! ### Calls -/

theorem mapM_yields (g : α → Run β) (rel : α → β → Prop) (items : List α)
    (each : ∀ a ∈ items, ∃ b, (g a).Yields m b m ∧ rel a b) :
    ∃ bs, (items.mapM g).Yields m bs m ∧ List.Forall₂ rel items bs := by
  induction items with
  | nil => exact ⟨[], yields_pure.mpr ⟨rfl, rfl⟩, .nil⟩
  | cons a rest ih =>
    obtain ⟨b, first, related⟩ := each a List.mem_cons_self
    obtain ⟨bs, others, all⟩ := ih fun a member => each a (List.mem_cons_of_mem _ member)
    refine ⟨b :: bs, ?_, .cons related all⟩
    rw [List.mapM_cons]
    simp only [yields_bind, yields_pure]
    exact ⟨b, m, first, bs, m, others, rfl, rfl⟩

theorem calls_complete (row : α → List Value) (items : List α) (extends_ : m.Extends between)
    (each : ∀ a ∈ items, Answers call m (row a) (f (row a))) :
    (items.mapM fun a => do return (← call (row a)).bare).Completes between fun results after =>
      between.Extends after ∧ results = items.map fun a => f (row a) := by
  induction items generalizing between with
  | nil => exact completes_pure.mpr ⟨.refl _, rfl⟩
  | cons a rest ih =>
    simp only [List.mapM_cons, completes_bind, completes_pure]
    refine (each a List.mem_cons_self between extends_).imp ?_
    rintro w after ⟨grown, same⟩
    refine (ih (extends_.trans grown) fun b member => each b (List.mem_cons_of_mem _ member)).imp ?_
    rintro results last ⟨further, rfl⟩
    exact ⟨grown.trans further, by rw [same, List.map_cons]⟩

theorem crosswise_eq {operands : List Operand}
    (spreads : List.Forall₂ (fun v o => o.spread s = (indices s).map fun index => .object (elementAt m index v))
      args operands) :
    crosswise s operands = (indices s).map fun index => args.map (elementAt m index) := by
  induction spreads with
  | nil => simp [crosswise, ← length_indices, List.map_const']
  | cons first _ ih =>
    rw [crosswise, List.foldr_cons, ← crosswise, ih, first, List.zip_map', List.map_map]
    rfl

theorem newArray_cells (d : DType) {layout : Layout} (fills : layout.Fills) (cell : List Nat → Cell) :
    (Run.newArray d layout ((indices layout.shape).map cell)).Completes m fun v after =>
      m.Extends after ∧ v.Tabulates after d layout.shape cell := by
  have count : ((indices layout.shape).map cell).length = layout.size := by rw [List.length_map, length_indices, Layout.size]
  obtain ⟨v, after, made, number, view, rfl, _, rfl, _, _, shown⟩ := newArray_completes (m := m) d fills count
  refine made.completes ⟨(Run.newArray_adds _ _ _).yields made, .intro rfl rfl ?_⟩
  rw [contents_eq_indices] at shown
  exact List.map_inj_left.mp shown

theorem mapM_cells {g : α → Value} {cell : α → Cell} (items : List α)
    (stored : ∀ a ∈ items, cellFor d (g a) = pure (cell a)) :
    (items.map g).mapM (cellFor d) = (pure (items.map cell) : Run (List Cell)) := by
  induction items with
  | nil => rfl
  | cons a rest ih =>
    rw [List.map_cons, List.mapM_cons, stored a List.mem_cons_self,
      ih fun b member => stored b (List.mem_cons_of_mem _ member)]
    rfl

theorem gathered_completes {layout : Layout} (fills : layout.Fills) (shaped : layout.shape = s)
    (row : List Nat → List Value) (cell : List Nat → Cell)
    (stored : ∀ index ∈ indices s, cellFor d (f (row index)) = pure (cell index)) :
    (gathered d layout (((layout.addresses.zip ((indices s).map row)).mergeSort fun a b => a.1 ≤ b.1).map
      fun pair => f pair.2)).Completes m fun v after => m.Extends after ∧ v.Tabulates after d s cell := by
  subst shaped
  have sorted := fills.sorted ((indices layout.shape).map row) (by rw [List.length_map, length_indices, Layout.size]) f .null
  rw [gathered, ← Function.comp_def, ← List.mapM_map, sorted, List.map_map, mapM_cells (g := f ∘ row) _ stored,
    pure_bind]
  exact newArray_cells d fills cell

theorem lone_completes (number : v.IsNumber) (cell : List Nat → Cell) (stored : cellFor d v = pure (cell [])) :
    (lone d v).Completes m fun w after => m.Extends after ∧ w.Tabulates after d [] cell := by
  have whole (depth : Nat) : unnest depth v = pure ([], [v]) := by
    cases depth <;> cases number <;> rfl
  have made := newArray_cells (m := m) d (rowMajor_fills []) cell
  rw [lone, whole, pure_bind]
  simpa [stored, indices] using made

theorem resultType_number (number : v.IsNumber) : resultType v.bare = pure v.leafType := by
  cases number with
  | plain x => cases x <;> rfl
  | element => rfl

theorem cellFor_own (x : Numeral) : ∃ cell, cellFor (leafType (.num x)) (.num x) = pure cell ∧
    ofCell cell = .num x := by
  cases x with
  | bool b => exact ⟨.num (.bool b), by cases b <;> rfl, rfl⟩
  | int n =>
    have word (d : DType) (typed : d ≠ .object) (integer : d.kind = .integer) (held : d.holds n = true) :
        cellFor d (.num (.int n)) = pure (.num (.int n)) := by
      simp [cellFor, typed, numberOf, Numeric.ofValue?, numberFor, integer, Numeric.toInt, held,
        Run.ofExcept, bind, Except.bind]
      rfl
    rw [leafType]
    split
    · exact ⟨_, word .int64 (by decide) rfl ‹_›, rfl⟩
    · split
      · exact ⟨_, word .uint64 (by decide) rfl ‹_›, rfl⟩
      · exact ⟨.object (.num (.int n)), rfl, rfl⟩
  | float x => exact ⟨.num (.float x), rfl, rfl⟩
  | complex re im => exact ⟨.num (.complex re im), rfl, rfl⟩

/-! ### Application -/

section
variable (arguments : ∀ v ∈ args, v.IsArgument m)
include arguments

theorem operands_given (sized : ∀ v ∈ args, v.lengths.size ≠ 0) :
    ∃ given, (args.mapM Value.operand).Yields m given m ∧ given.any (·.cells.isEmpty) = false ∧
      (given.filterMap fun o => o.cells.head?.map (element o.dtype)) = args.map (firstElement m) := by
  obtain ⟨given, ran, all⟩ := mapM_yields Value.operand (fun v o => o.cells ≠ [] ∧
    o.cells.head?.map (element o.dtype) = some (v.firstElement m)) args fun v member => by
      obtain ⟨o, ran, _, count, first⟩ := operand_argument (arguments v member)
      have filled : o.cells ≠ [] := fun empty => sized v member (by rw [← count, empty, List.length_nil])
      exact ⟨o, ran, filled, first.resolve_right filled⟩
  refine ⟨given, ran, ?_⟩
  clear ran arguments sized
  induction all with
  | nil => exact ⟨rfl, rfl⟩
  | cons first _ ih => simp [first.1, first.2, ih.1, ih.2]

theorem operands_empty (empty : ∃ v ∈ args, v.lengths.size = 0) :
    ∃ given, (args.mapM Value.operand).Yields m given m ∧ given.any (·.cells.isEmpty) = true := by
  obtain ⟨given, ran, all⟩ := mapM_yields Value.operand (fun v o => o.cells.length = v.lengths.size) args
    fun v member => by
      obtain ⟨o, ran, _, count, _⟩ := operand_argument (arguments v member)
      exact ⟨o, ran, count⟩
  refine ⟨given, ran, ?_⟩
  obtain ⟨v, member, none⟩ := empty
  clear ran arguments
  induction all with
  | nil => cases member
  | cons first _ ih =>
    rw [List.any_cons, Bool.or_eq_true]
    rcases List.mem_cons.mp member with rfl | later
    · rw [none] at first
      exact .inl (List.isEmpty_iff.mpr (List.length_eq_zero_iff.mp first))
    · exact .inr (ih later)

theorem objectOperands_given (extends_ : m.Extends between)
    (fits : ∀ v ∈ args, FitsReversed v.lengths.reverse s.reverse) :
    ∃ operands, (args.mapM objectOperand).Yields between operands between ∧
      operands.map Operand.shape = args.map lengths ∧
      crosswise s operands = (indices s).map fun index => args.map (elementAt m index) := by
  obtain ⟨operands, ran, all⟩ := mapM_yields objectOperand (fun v o => o.shape = v.lengths ∧
    o.spread s = (indices s).map fun index => .object (v.elementAt m index)) args fun v member =>
      objectOperand_argument (arguments v member) extends_ (fits v member)
  refine ⟨operands, ran, ?_, crosswise_eq (all.imp fun _ _ related => related.2)⟩
  clear ran arguments fits
  induction all with
  | nil => rfl
  | cons first _ ih => simp [first.1, ih]

theorem applyEach_empty (empty : ∃ v ∈ args, v.lengths.size = 0) :
    (applyEach call args).Fails m (.ordinary .value) m := by
  obtain ⟨given, ran, found⟩ := operands_empty arguments empty
  rw [applyEach, fails_bind]
  refine .inr ⟨given, m, ran, ?_⟩
  rw [found]
  rfl

theorem applyEach_completes (common : resultShape (args.map lengths) none = .ok s) (sized : s.size ≠ 0)
    (number : v.IsNumber) (first : Answers call m (args.map (firstElement m)) v)
    (each : ∀ index ∈ indices s, Answers call m (args.map (elementAt m index))
      (f (args.map (elementAt m index))) ∧ (f (args.map (elementAt m index))).IsNumber)
    (cell : List Nat → Cell) (stored : ∀ index ∈ indices s,
      cellFor v.leafType (f (args.map (elementAt m index))) = pure (cell index)) :
    (applyEach call args).Completes m fun w after =>
      m.Extends after ∧ w.Tabulates after v.leafType s cell := by
  obtain ⟨fits, empty⟩ := commonShape_fits common
  simp only [List.mem_map, exists_exists_and_eq_and, forall_exists_index, and_imp, forall_apply_eq_imp_iff₂] at fits empty
  have filled : ∀ v ∈ args, v.lengths.size ≠ 0 := fun v member none => sized (empty.mpr ⟨v, member, none⟩)
  obtain ⟨given, ran, full, firsts⟩ := operands_given arguments filled
  rw [applyEach, completes_bind, ran.completes_iff, full, firsts]
  simp only [Bool.false_eq_true, if_false, completes_bind]
  refine (first m (.refl m)).imp ?_
  rintro probe between ⟨grown, same⟩
  rw [same]
  split
  · cases number
  simp only [List.mapM_cons, List.mapM_nil, resultType_number number, pure_bind, completes_pure]
  obtain ⟨operands, listed, shapes, rows⟩ := objectOperands_given arguments grown fits
  rw [listed.completes_iff, shapes, common]
  simp only [Run.ofExcept, completes_pure, rows]
  let layout := Layout.ofOperands s (operands.map (Operand.stretched · s))
  have fills : layout.Fills := ofOperands_fills _ _
  have shaped : layout.shape = s := ofOperands_shape _ _
  let row (index : List Nat) : List Value := args.map (elementAt m index)
  let sorted := (layout.addresses.zip ((indices s).map row)).mergeSort fun a b => a.1 ≤ b.1
  have ofIndex (pair : Int × List Value) (member : pair ∈ sorted) : ∃ index ∈ indices s, row index = pair.2 :=
    List.mem_map.mp (List.of_mem_zip (List.mem_mergeSort.mp member)).2
  refine (calls_complete (f := f) Prod.snd sorted grown fun pair member => ?_).imp ?_
  · obtain ⟨index, inside, same⟩ := ofIndex pair member
    rw [← same]
    exact (each index inside).1
  · rintro results last ⟨further, rfl⟩
    suffices made : (_ : Run Value).Completes last fun w after => last.Extends after ∧ w.Tabulates after v.leafType s cell from
      made.imp fun w after new => ⟨(grown.trans further).trans new.1, new.2⟩
    have gathers := gathered_completes (m := last) fills shaped row cell stored
    split
    · rename_i result typed single
      cases typed
      split
      · rename_i flat
        subst flat
        have here : result ∈ sorted.map fun pair => f pair.2 := by rw [single]; exact List.mem_singleton_self _
        obtain ⟨pair, member, rfl⟩ := List.mem_map.mp here
        obtain ⟨index, inside, same⟩ := ofIndex pair member
        rw [indices, List.mem_singleton] at inside
        subst inside
        rw [← same]
        exact lone_completes (each [] (by simp [indices])).2 cell (stored [] (by simp [indices]))
      · exact gathers
    · rename_i typed _
      cases typed
      exact gathers
    · rename_i other _
      exact absurd rfl (other _)

end

theorem broadcastCall_eq (call : Caller) {function : Value} (single : ¬ function.TakesArrays)
    (array : args.any isArray = true) : broadcastCall call function args [] = isCallable function >>= fun found =>
      if found then applyEach (fun values => call function (values.take args.length) []) args
      else Run.fail .type := by
  unfold broadcastCall
  simp only [List.map_nil, List.append_nil, array, Bool.not_true, Bool.false_eq_true, if_false, List.zip_nil_left]
  split
  · exact absurd trivial single
  · exact absurd trivial single
  · congr 1
    funext found
    cases found <;> rfl

theorem Value.Answers.take (call : Caller) (function : Value) {row : List Value} (count : row.length = args.length)
    (answers : Answers (call function · []) m row v) :
    Answers (fun values => call function (values.take args.length) []) m row v := by
  intro between grown
  dsimp only
  rw [← count, List.take_length]
  exact answers between grown

/-- A function of single elements is applied to corresponding elements, and the type of what it gives for the first ones is
the type of the array: a result that does not have it is cast. It takes first elements: without any the call fails. -/
theorem broadcastCall_pointwise (call : Caller) (function : Value) (m : Memory) (args : List Value) (s : Strided.Shape)
    (single : ¬ function.TakesArrays) (callable : (Value.isCallable function).Yields m true m)
    (arguments : ∀ v ∈ args, v.IsArgument m) (array : args.any Value.isArray = true)
    (common : resultShape (args.map Value.lengths) none = .ok s) :
    (s.size = 0 → (Value.broadcastCall call function args []).Fails m (.ordinary .value) m) ∧
    (s.size ≠ 0 → ∀ (first : Value) (f : List Value → Value),
      first.IsNumber → Value.Answers (call function · []) m (args.map (Value.firstElement m)) first →
      (∀ index ∈ indices s, Value.Answers (call function · []) m (args.map (Value.elementAt m index))
        (f (args.map (Value.elementAt m index))) ∧ (f (args.map (Value.elementAt m index))).IsNumber) →
      (∀ index ∈ indices s, ∃ cell, Value.cellFor first.leafType (f (args.map (Value.elementAt m index))) = pure cell) →
      (Value.broadcastCall call function args []).Completes m fun v after => m.Extends after ∧
        ∃ cell, v.Tabulates after first.leafType s cell ∧ ∀ index ∈ indices s,
          Value.cellFor first.leafType (f (args.map (Value.elementAt m index))) = pure (cell index) ∧
          ∀ x, f (args.map (Value.elementAt m index)) = .num x → Value.leafType (.num x) = first.leafType →
            Value.ofCell (cell index) = .num x) := by
  rw [broadcastCall_eq call single array]
  constructor
  · intro none
    have empty := (commonShape_fits common).2.mp none
    rw [fails_bind]
    refine .inr ⟨true, m, callable, ?_⟩
    rw [if_pos rfl]
    exact applyEach_empty arguments (by simpa using empty)
  · intro sized first f number probe each stored
    choose! cell stored using stored
    rw [completes_bind, callable.completes_iff, if_pos rfl]
    refine (applyEach_completes (f := f) arguments common sized number (probe.take call function (by simp))
      (fun index inside => ⟨(each index inside).1.take call function (by simp), (each index inside).2⟩)
      cell stored).imp ?_
    rintro v after ⟨grown, table⟩
    refine ⟨grown, cell, table, fun index inside => ⟨stored index inside, fun x same typed => ?_⟩⟩
    obtain ⟨own, put, back⟩ := cellFor_own x
    have both : (pure own : Run Cell).Yields m (cell index) m := by
      rw [← put, typed, ← same, stored index inside]
      exact yields_pure.mpr ⟨rfl, rfl⟩
    obtain ⟨rfl, _⟩ := yields_pure.mp both
    exact back

end

theorem forall_mem_indices_two {p : List Nat → Prop} : (∀ index ∈ indices [2], p index) ↔ p [0] ∧ p [1] := by
  have both : indices [2] = [[0], [1]] := rfl
  simp [both]

def twoAndThree : Memory where
  buffers := #[#[.num (.int 2), .num (.int 3)]]
  objects := #[.token]

def sumOfTwo : List Value → Value
  | [.num (.int a), .num (.int b)] => .int (a + b)
  | _ => .null

/-- The sums of an array of two numbers and a number. -/
theorem row_plus_ten :
    (Value.broadcastCall Program.callValue (.builtin .add) [.array 0 ⟨0, rowMajor [2], .int64, true⟩, .int 10] []).Completes
      twoAndThree fun v after => twoAndThree.Extends after ∧ ∃ cell, v.Tabulates after .int64 [2] cell ∧
        Value.ofCell (cell [0]) = .int 12 ∧ Value.ofCell (cell [1]) = .int 13 := by
  have pointwise := (broadcastCall_pointwise Program.callValue (.builtin .add) twoAndThree
    [.array 0 ⟨0, rowMajor [2], .int64, true⟩, .int 10] [2] id (yields_pure.mpr ⟨rfl, rfl⟩)
    (List.forall_mem_cons.mpr ⟨.array (by decide) 0, List.forall_mem_singleton.mpr (.single (.plain _))⟩) rfl rfl).2
    (by decide) (.scalar .int64 (.int 12)) sumOfTwo (.element (by decide) _)
    (fun between grown => completes_pure.mpr ⟨.refl _, rfl⟩)
    (forall_mem_indices_two.mpr ⟨⟨fun between grown => completes_pure.mpr ⟨.refl _, rfl⟩, .plain _⟩,
      fun between grown => completes_pure.mpr ⟨.refl _, rfl⟩, .plain _⟩)
    (forall_mem_indices_two.mpr ⟨⟨_, rfl⟩, _, rfl⟩)
  refine pointwise.imp ?_
  rintro v after ⟨grown, cell, table, cells⟩
  exact ⟨grown, cell, table, (cells [0] (by decide)).2 _ rfl rfl, (cells [1] (by decide)).2 _ rfl rfl⟩

/-- An array without elements, and an array of the objects `True` and `5`. -/
def noneAndObjects : Memory where
  buffers := #[#[], #[.object (.bool true), .object (.int 5)]]
  objects := #[.token, .token]

/-- Without elements the call fails, and a number that comes after a truth value is made one. -/
theorem later_results_cast :
    (Value.broadcastCall Program.callValue (.builtin .ident) [.array 0 ⟨0, rowMajor [0], .int64, true⟩] []).Fails
      noneAndObjects (.ordinary .value) noneAndObjects ∧
    (Program.callValue (.builtin .ident) [.int 5] []).Yields noneAndObjects (.int 5) noneAndObjects ∧
    (Value.broadcastCall Program.callValue (.builtin .ident) [.array 1 ⟨1, rowMajor [2], .object, true⟩] []).Completes
      noneAndObjects fun v after => v.Tabulates after .bool [2] fun _ => .num (.bool true) := by
  refine ⟨rfl, rfl, ?_⟩
  rw [broadcastCall_eq _ id rfl, Value.isCallable, pure_bind, if_pos rfl]
  refine (applyEach_completes (v := .bool true) (s := [2]) (f := fun row => row.headD .null)
    (List.forall_mem_singleton.mpr (.array (by decide) 1)) rfl (by decide) (.plain _) ?_ ?_
    (fun _ => .num (.bool true)) (forall_mem_indices_two.mpr ⟨rfl, rfl⟩)).imp fun v after made => made.2
  · exact fun between grown => completes_pure.mpr ⟨.refl _, rfl⟩
  · exact forall_mem_indices_two.mpr ⟨⟨fun between grown => completes_pure.mpr ⟨.refl _, rfl⟩, .plain _⟩,
      fun between grown => completes_pure.mpr ⟨.refl _, rfl⟩, .plain _⟩

end Rebind
