import Mathlib.Data.List.Forall2
import Mathlib.Data.Multiset.Bind
import Mathlib.Tactic.Ring
import Rebind.Strided.Layout
/-!
Where the elements of a layout lie. Axes that run through evenly spaced places can be joined and cut up
without moving an element, which is all that reshaping does. The order of the axes settles the order of
the elements and nothing else, so every dense layout fills its buffer without a gap.
-/
namespace Rebind.Strided.Layout

variable (first second shape : Shape) (operands : List Layout)

/-! ### Evenly spaced axes -/

/-- The axes run through as many places as given, each a step from the one before. -/
def Runs (axes : List Axis) (count : Nat) (step : Int) : Prop :=
  ∀ rest start, places (axes ++ rest) start =
    (List.range count).flatMap fun (i : Nat) => places rest (start + (i : Int) * step)

section
variable {axes others : List Axis} {axis : Axis} {count : Nat} {step : Int}

theorem range_mul_flatMap (n k : Nat) (f : Nat → List α) : (List.range (n * k)).flatMap f =
    (List.range n).flatMap fun i => (List.range k).flatMap fun j => f (i * k + j) := by
  induction n with
  | zero => simp
  | succ n ih => simp [Nat.succ_mul, List.range_add, List.range_succ, ih, List.flatMap_map]

theorem runs_single (n : Nat) (step : Int) : Runs [⟨n, step⟩] n step :=
  fun _ _ => rfl

theorem runs_nil (step : Int) : Runs [] 1 step := by
  intro rest start
  simp

theorem Runs.snoc (runs : Runs axes count (axis.step * axis.length)) :
    Runs (axes ++ [axis]) (count * axis.length) axis.step := by
  intro rest start
  rw [List.append_assoc, runs, range_mul_flatMap]
  refine List.flatMap_congr fun i _ => ?_
  simp only [List.singleton_append, places]
  refine List.flatMap_congr fun j _ => ?_
  congr 1
  push_cast
  ring

theorem Runs.snoc_one (runs : Runs axes count step) (other : Int) : Runs (axes ++ [⟨1, other⟩]) count step := by
  intro rest start
  rw [List.append_assoc, runs]
  simp [places]

theorem Runs.cons (runs : Runs axes count step) (n : Nat) : Runs (⟨n, count * step⟩ :: axes) (n * count) step := by
  intro rest start
  rw [List.cons_append, places, range_mul_flatMap]
  refine List.flatMap_congr fun i _ => ?_
  rw [runs]
  refine List.flatMap_congr fun j _ => ?_
  congr 1
  push_cast
  ring

theorem Runs.places_eq (first : Runs axes count step) (second : Runs others count step) (rest : List Axis)
    (start : Int) : places (axes ++ rest) start = places (others ++ rest) start := by
  rw [first, second]

theorem Runs.addresses (runs : Runs axes count step) (start : Int) :
    places axes start = (List.range count).map fun (i : Nat) => start + (i : Int) * step := by
  have alone := runs [] start
  rw [List.append_nil] at alone
  rw [alone]
  exact List.map_eq_flatMap.symm

end

theorem length_places (axes : List Axis) (start : Int) :
    (places axes start).length = Shape.size (axes.map Axis.length) := by
  induction axes generalizing start with
  | nil => rfl
  | cons axis rest ih => simp [places, ih, Shape.size, List.length_flatMap]

@[simp] theorem length_addresses (layout : Layout) : layout.addresses.length = layout.size :=
  length_places layout.axes layout.offset

theorem places_append (first second : List Axis) (start : Int) :
    places (first ++ second) start = (places first start).flatMap (places second) := by
  induction first generalizing start with
  | nil => simp [places]
  | cons axis rest ih => simp [places, ih, List.flatMap_assoc]

/-! ### Row by row -/

@[simp] theorem size_nil : Shape.size [] = 1 := rfl

theorem size_cons (n : Nat) (shape : Shape) : Shape.size (n :: shape) = n * Shape.size shape := rfl

theorem size_append : Shape.size (first ++ second) = Shape.size first * Shape.size second := by
  induction first with
  | nil => simp [Shape.size]
  | cons n rest ih => simp [size_cons, ih, Nat.mul_assoc]

theorem rowAxes_size : (rowAxes shape).2 = Shape.size shape := by
  induction shape with
  | nil => rfl
  | cons n rest ih => simp [rowAxes, ih, size_cons]

theorem rowAxes_length : (rowAxes shape).1.map Axis.length = shape := by
  induction shape with
  | nil => rfl
  | cons n rest ih => simp [rowAxes, ih]

@[simp] theorem rowMajor_shape : (rowMajor shape).shape = shape := rowAxes_length shape

theorem rowAxes_runs : Runs (rowAxes shape).1 (Shape.size shape) 1 := by
  induction shape with
  | nil => exact runs_nil 1
  | cons n rest ih =>
    have joined := ih.cons n
    rw [mul_one] at joined
    simpa [rowAxes, rowAxes_size, size_cons] using joined

theorem rowMajor_addresses : (rowMajor shape).addresses = (List.range (Shape.size shape)).map Int.ofNat := by
  rw [addresses, rowMajor, (rowAxes_runs shape).addresses]
  simp

theorem isDense_runs (closestFirst : List Axis) (step : Int) (dense : isDense closestFirst step = true) :
    Runs closestFirst.reverse (Shape.size (closestFirst.map Axis.length)) step := by
  induction closestFirst generalizing step with
  | nil => exact runs_nil step
  | cons axis rest ih =>
    rw [isDense] at dense
    rw [List.reverse_cons, List.map_cons, size_cons]
    split at dense
    · rename_i single
      obtain ⟨length, other⟩ := axis
      subst single
      rw [one_mul]
      exact (ih step dense).snoc_one other
    · simp only [Bool.and_eq_true, beq_iff_eq] at dense
      obtain ⟨rfl, dense⟩ := dense
      rw [Nat.mul_comm]
      exact (ih _ dense).snoc

theorem size_reverse : Shape.size shape.reverse = Shape.size shape := by
  induction shape with
  | nil => rfl
  | cons n rest ih =>
    rw [List.reverse_cons, size_append, ih, size_cons, size_cons, size_nil, Nat.mul_one, Nat.mul_comm]

theorem addresses_of_size_zero (layout : Layout) (empty : layout.size = 0) : layout.addresses = [] := by
  rw [← List.length_eq_zero_iff, length_addresses, empty]

theorem isRowMajor_addresses (layout : Layout) (dense : layout.isRowMajor = true) :
    layout.addresses = (List.range layout.size).map fun (i : Nat) => layout.offset + (i : Int) := by
  rw [isRowMajor, Bool.or_eq_true, decide_eq_true_eq] at dense
  rcases dense with empty | dense
  · rw [addresses_of_size_zero layout empty, empty]
    rfl
  · have runs := isDense_runs _ _ dense
    rw [List.reverse_reverse, List.map_reverse, size_reverse] at runs
    rw [addresses, runs.addresses]
    simp [size, shape]

/-! ### Reshaping -/

theorem groupAxes_eq (step : Int) (lastFirst : List Nat) (done : List Axis) :
    ∃ axes, groupAxes step lastFirst done = axes ++ done ∧ axes.map Axis.length = lastFirst.reverse ∧
      Runs axes (Shape.size lastFirst) step := by
  induction lastFirst generalizing step done with
  | nil => exact ⟨[], rfl, rfl, runs_nil step⟩
  | cons n rest ih =>
    obtain ⟨axes, made, lengths, runs⟩ := ih (step * n) (⟨n, step⟩ :: done)
    refine ⟨axes ++ [⟨n, step⟩], by simp [groupAxes, made], by simp [lengths], ?_⟩
    rw [size_cons, Nat.mul_comm]
    exact runs.snoc

theorem regroup_eq (fuel : Nat) (joined old : List Axis) (oldSize : Nat) (lastStep : Int) (new : Shape) (newSize : Nat)
    (group : List Nat) (runs : Runs joined oldSize lastStep) (counted : newSize = Shape.size group)
    (found : regroup fuel old oldSize lastStep new newSize group = some (done, oldLeft, newLeft)) :
    ∃ more taken, old = more ++ oldLeft ∧ new = taken ++ newLeft ∧
      done.map Axis.length = group.reverse ++ taken ∧
      ∀ rest start, places (joined ++ more ++ rest) start = places (done ++ rest) start := by
  induction fuel generalizing joined old oldSize lastStep new newSize group with
  | zero => cases found
  | succ fuel ih =>
    unfold regroup at found
    split at found
    · rename_i same
      simp only [Option.some.injEq, Prod.mk.injEq] at found
      obtain ⟨rfl, rfl, rfl⟩ := found
      obtain ⟨axes, made, lengths, grouped⟩ := groupAxes_eq lastStep group []
      rw [List.append_nil] at made
      rw [same, counted] at runs
      refine ⟨[], [], rfl, rfl, by simp [made, lengths], fun rest start => ?_⟩
      rw [List.append_nil, made]
      exact runs.places_eq grouped rest start
    · split at found
      · cases new with
        | nil => cases found
        | cons n new =>
          simp only at found
          have counts : newSize * n = Shape.size (n :: group) := by rw [counted, size_cons, Nat.mul_comm]
          obtain ⟨more, taken, rfl, rfl, lengths, same⟩ :=
            ih joined old oldSize lastStep new (newSize * n) (n :: group) runs counts found
          exact ⟨more, n :: taken, rfl, rfl, by simp [lengths], same⟩
      · cases old with
        | nil => cases found
        | cons axis old =>
          simp only at found
          split at found
          · rename_i goesOn
            subst goesOn
            obtain ⟨more, taken, rfl, rfl, lengths, same⟩ :=
              ih (joined ++ [axis]) old (oldSize * axis.length) axis.step new newSize group runs.snoc counted
                found
            refine ⟨axis :: more, taken, rfl, rfl, lengths, fun rest start => ?_⟩
            rw [← same]
            simp
          · cases found

theorem regroupAll_eq (fuel : Nat) (old : List Axis) (new : Shape) (found : regroupAll fuel old new = some made) :
    made.map Axis.length = new ∧ ∀ start, places made start = places old start := by
  induction fuel generalizing old new made with
  | zero => cases found
  | succ fuel ih =>
    cases old with
    | nil =>
      cases new with
      | nil =>
        cases found
        exact ⟨rfl, fun _ => rfl⟩
      | cons n new => cases found
    | cons axis old =>
      cases new with
      | nil => cases found
      | cons n new =>
        simp only [regroupAll, Option.bind_eq_bind, Option.bind_eq_some_iff] at found
        obtain ⟨⟨done, oldLeft, newLeft⟩, first, rest, later, last⟩ := found
        cases last
        obtain ⟨more, taken, rfl, rfl, lengths, same⟩ :=
          regroup_eq _ [axis] old axis.length axis.step new n [n] (runs_single _ _) (by simp [size_cons]) first
        obtain ⟨restLengths, restSame⟩ := ih oldLeft newLeft later
        refine ⟨by simp [lengths, restLengths], fun start => ?_⟩
        calc places (done ++ rest) start = (places done start).flatMap (places rest) := places_append ..
          _ = (places done start).flatMap (places oldLeft) := by simp only [funext restSame]
          _ = places (done ++ oldLeft) start := (places_append ..).symm
          _ = places (axis :: (more ++ oldLeft)) start := by rw [← same]; rfl

theorem places_filter_ones (axes : List Axis) (start : Int) :
    places (axes.filter (·.length ≠ 1)) start = places axes start := by
  induction axes generalizing start with
  | nil => rfl
  | cons axis rest ih =>
    by_cases single : axis.length = 1
    · simp [single, places, ← ih]
    · rw [List.filter_cons_of_pos (by simpa using single), places, places]
      simp only [ih]

theorem restoreOnes_eq (axes : List Axis) (lengths : axes.map Axis.length = shape.filter (· ≠ 1)) :
    (restoreOnes shape axes).map Axis.length = shape ∧
      ∀ start, places (restoreOnes shape axes) start = places axes start := by
  induction shape generalizing axes with
  | nil =>
    have none : axes = [] := by simpa using lengths
    subst none
    exact ⟨rfl, fun _ => rfl⟩
  | cons n rest ih =>
    by_cases single : n = 1
    · subst single
      obtain ⟨same, moved⟩ := ih axes (by simpa using lengths)
      simp [restoreOnes, same, places, moved]
    · cases axes with
      | nil => simp [single] at lengths
      | cons axis axes =>
        have split : axis.length = n ∧ axes.map Axis.length = rest.filter (· ≠ 1) := by
          simpa [single] using lengths
        obtain ⟨same, moved⟩ := ih axes split.2
        simp [restoreOnes, single, same, split.1, places, moved]

theorem reshape?_eq (layout other : Layout) (shape : Shape) (fits : Shape.size shape = layout.size)
    (found : layout.reshape? shape = some other) : other.shape = shape ∧ other.addresses = layout.addresses := by
  rw [reshape?] at found
  split at found
  · rename_i dense
    cases found
    refine ⟨rowMajor_shape shape, ?_⟩
    rw [isRowMajor_addresses layout dense, ← fits, addresses, rowMajor, (rowAxes_runs shape).addresses]
    simp
  · rw [Option.map_eq_some_iff] at found
    obtain ⟨axes, regrouped, rfl⟩ := found
    obtain ⟨lengths, same⟩ := regroupAll_eq _ _ _ regrouped
    obtain ⟨restored, moved⟩ := restoreOnes_eq shape axes lengths
    refine ⟨restored, ?_⟩
    rw [addresses, moved, same, places_filter_ones, addresses]

/-! ### The order of the axes -/

theorem places_perm {axes others : List Axis} (perm : axes.Perm others) (start : Int) :
    (places axes start).Perm (places others start) := by
  induction perm generalizing start with
  | nil => exact .refl _
  | cons axis _ ih => exact List.Perm.flatMap_left _ fun i _ => ih _
  | swap first second rest =>
    simp only [places]
    rw [← Multiset.coe_eq_coe]
    simp only [← Multiset.coe_bind]
    rw [Multiset.bind_bind]
    refine Multiset.bind_congr fun i _ => Multiset.bind_congr fun j _ => ?_
    congr 2
    ring
  | trans _ _ first second => exact (first start).trans (second start)

/-- The elements fill a buffer of their number without a gap. -/
def Fills (layout : Layout) : Prop :=
  layout.addresses.Perm ((List.range layout.size).map Int.ofNat)

theorem Fills.nodup {layout : Layout} (fills : layout.Fills) : layout.addresses.Nodup :=
  fills.nodup_iff.mpr (List.Nodup.map (fun _ _ => Int.ofNat.inj) List.nodup_range)

theorem Fills.bounds {layout : Layout} (fills : layout.Fills) (member : place ∈ layout.addresses) :
    0 ≤ place ∧ place < layout.size := by
  obtain ⟨i, inRange, rfl⟩ := List.mem_map.mp (fills.mem_iff.mp member)
  rw [List.mem_range] at inRange
  exact ⟨Int.natCast_nonneg i, Int.ofNat_lt.mpr inRange⟩

theorem rowMajor_fills : (rowMajor shape).Fills := by
  rw [Fills, rowMajor_addresses, size, rowMajor_shape]

theorem transpose_shape (layout : Layout) : layout.transpose.shape = layout.shape.reverse := by
  simp [transpose, shape]

theorem transpose_size (layout : Layout) : layout.transpose.size = layout.size := by
  rw [size, size, transpose_shape, size_reverse]

@[simp] theorem transpose_transpose (layout : Layout) : layout.transpose.transpose = layout := by
  simp [transpose]

theorem transpose_perm (layout : Layout) : layout.transpose.addresses.Perm layout.addresses :=
  places_perm (List.reverse_perm _) _

theorem columnMajor_eq : columnMajor shape = (rowMajor shape.reverse).transpose := rfl

theorem columnMajor_fills : (columnMajor shape).Fills := by
  rw [columnMajor_eq, Fills, transpose_size]
  exact (transpose_perm _).trans (rowMajor_fills _)

/-- An axis of a ranked layout. -/
def rankedAxis (shape : Shape) (ranking : List Nat) (step axis : Nat) : Axis :=
  ⟨shape.getD axis 1, (((rankedSteps shape ranking step).lookup axis).getD 1 : Nat)⟩

theorem rankedAxis_first (first : Nat) (rest : List Nat) (step : Nat) :
    rankedAxis shape (first :: rest) step first = ⟨shape.getD first 1, step⟩ := by
  simp [rankedAxis, rankedSteps]

theorem rankedAxis_later (first : Nat) (rest : List Nat) (step : Nat) (different : axis ≠ first) :
    rankedAxis shape (first :: rest) step axis = rankedAxis shape rest (step * shape.getD first 1) axis := by
  have apart : (axis == first) = false := beq_eq_false_iff_ne.mpr different
  simp only [rankedAxis, rankedSteps, List.lookup_cons, apart]

theorem rankedAxis_dense (ranking : List Nat) (step : Nat) (nodup : ranking.Nodup) :
    isDense (ranking.map (rankedAxis shape ranking step)) step = true := by
  induction ranking generalizing step with
  | nil => rfl
  | cons first rest ih =>
    rw [List.nodup_cons] at nodup
    have later : rest.map (rankedAxis shape (first :: rest) step) =
        rest.map (rankedAxis shape rest (step * shape.getD first 1)) := by
      refine List.map_congr_left fun axis member => rankedAxis_later shape first rest step ?_
      rintro rfl
      exact nodup.1 member
    have dense := ih (step * shape.getD first 1) nodup.2
    rw [List.map_cons, later, rankedAxis_first, isDense]
    split
    · rename_i single
      simp only at single
      rwa [single, Nat.mul_one] at dense ⊢
    · rw [Nat.cast_mul] at dense
      simpa using dense

theorem ranked_axes (ranking : List Nat) :
    (ranked shape ranking).axes = (List.range shape.length).map (rankedAxis shape ranking 1) := by
  apply List.ext_getElem
  · simp [ranked]
  · intro i _ inRange
    simp only [List.length_map, List.length_range] at inRange
    simp [ranked, rankedAxis, inRange]

@[simp] theorem ranked_shape (ranking : List Nat) : (ranked shape ranking).shape = shape := by
  rw [Layout.shape, ranked_axes]
  apply List.ext_getElem
  · simp
  · intro i _ inRange
    simp [rankedAxis, inRange]

theorem ranked_fills (ranking : List Nat) (perm : ranking.Perm (List.range shape.length)) :
    (ranked shape ranking).Fills := by
  have runs := isDense_runs _ _ (rankedAxis_dense shape ranking 1 (perm.nodup_iff.mpr List.nodup_range))
  have reordered : (ranked shape ranking).axes.Perm (ranking.map (rankedAxis shape ranking 1)).reverse := by
    rw [ranked_axes]
    exact (perm.map _).symm.trans (List.reverse_perm _).symm
  have filled := places_perm reordered 0
  rw [runs.addresses] at filled
  have count := filled.length_eq
  rw [length_places, List.length_map, List.length_range] at count
  simp only [zero_add, Nat.cast_one, mul_one, ← count] at filled
  exact filled

theorem insertByStep_perm (axes : List Axis) (axis : Nat) (done : List Nat) :
    (insertByStep axes axis done).Perm (axis :: done) := by
  induction done with
  | nil => exact .refl _
  | cons other rest ih =>
    rw [insertByStep]
    split
    · exact (ih.cons other).trans (.swap axis other rest)
    · exact .refl _

theorem rankInsert_perm (steps : Nat → List Int) (axis : Nat) (farthestFirst : List Nat) :
    (rankInsert steps axis farthestFirst).Perm (axis :: farthestFirst) := by
  induction farthestFirst with
  | nil => exact .refl _
  | cons other rest ih =>
    rw [rankInsert]
    split
    · exact .refl _
    · split
      · exact (ih.cons other).trans (.swap axis other rest)
      · exact .refl _

theorem foldl_insert_perm (insert : List Nat → Nat → List Nat)
    (inserts : ∀ done axis, (insert done axis).Perm (axis :: done)) (axes done : List Nat) :
    (axes.foldl insert done).Perm (axes ++ done) := by
  induction axes generalizing done with
  | nil => exact .refl _
  | cons axis rest ih =>
    refine (ih (insert done axis)).trans ?_
    exact ((inserts done axis).append_left rest).trans List.perm_middle

theorem ranking_perm (count : Nat) : (ranking operands count).Perm (List.range count) := by
  refine (List.reverse_perm _).trans ((foldl_insert_perm _ ?_ _ []).trans ?_)
  · exact fun done axis => rankInsert_perm _ axis done
  · rw [List.append_nil]
    exact List.reverse_perm _

@[simp] theorem ofOperands_shape : (ofOperands shape operands).shape = shape :=
  ranked_shape shape _

theorem ofOperands_fills : (ofOperands shape operands).Fills :=
  ranked_fills shape _ (ranking_perm operands shape.length)

@[simp] theorem columnMajor_shape : (columnMajor shape).shape = shape := by
  rw [columnMajor_eq, transpose_shape, rowMajor_shape, List.reverse_reverse]

@[simp] theorem copied_shape (layout : Layout) : layout.copied.shape = layout.shape := by
  rw [copied]
  split
  · exact rowMajor_shape _
  · split
    · exact columnMajor_shape _
    · exact ranked_shape _ _

theorem copied_fills (layout : Layout) : layout.copied.Fills := by
  rw [copied]
  split
  · exact rowMajor_fills _
  · split
    · exact columnMajor_fills _
    · refine ranked_fills _ _ ?_
      refine (foldl_insert_perm _ ?_ _ []).trans ?_
      · exact fun done axis => insertByStep_perm _ axis done
      · rw [List.append_nil]
        simp [shape]

/-! ### Elements by index -/

/-- The indices of all elements, in the order in which these are listed. -/
def indices : Shape → List (List Nat)
  | [] => [[]]
  | n :: rest => (List.range n).flatMap fun i => (indices rest).map (i :: ·)

/-- How far from the start the element with an index lies. -/
def distance : List Axis → List Nat → Int
  | axis :: axes, i :: index => (i : Int) * axis.step + distance axes index
  | _, _ => 0

theorem places_eq_indices (axes : List Axis) (start : Int) :
    places axes start = (indices (axes.map Axis.length)).map fun index => start + distance axes index := by
  induction axes generalizing start with
  | nil => simp [places, indices, distance]
  | cons axis rest ih => simp [places, indices, distance, ih, List.map_flatMap, Function.comp_def, add_assoc]

theorem mem_indices_iff (index : List Nat) (shape : Shape) :
    index ∈ indices shape ↔ List.Forall₂ (· < ·) index shape := by
  induction shape generalizing index with
  | nil => simp [indices]
  | cons n rest ih =>
    simp only [indices, List.mem_flatMap, List.mem_range, List.mem_map, ih]
    constructor
    · rintro ⟨i, bound, later, among, rfl⟩
      exact .cons bound among
    · rintro (_ | ⟨bound, among⟩)
      exact ⟨_, bound, _, among, rfl⟩

theorem addresses_eq_indices (layout : Layout) :
    layout.addresses = (indices layout.shape).map fun index => layout.offset + distance layout.axes index :=
  places_eq_indices layout.axes layout.offset

theorem getElem?_indices {shape : Shape} (member : index ∈ indices shape) :
    (indices shape)[(distance (rowAxes shape).1 index).toNat]? = some index := by
  obtain ⟨k, inRange, rfl⟩ := List.mem_iff_getElem.mp member
  have listed := rowMajor_addresses shape
  rw [addresses, rowMajor, places_eq_indices, rowAxes_length] at listed
  have here := congrArg (fun places : List Int => places[k]?) listed
  simp only [zero_add, List.getElem?_map, List.getElem?_eq_getElem inRange, Option.map_some] at here
  have bound : k < Shape.size shape := by
    have count := congrArg List.length listed
    simp only [List.length_map, List.length_range] at count
    omega
  rw [List.getElem?_range bound, Option.map_some, Option.some.injEq] at here
  rw [here]
  simp [inRange]

theorem distance_append (first second : List Axis) (index later : List Nat) (same : index.length = first.length) :
    distance (first ++ second) (index ++ later) = distance first index + distance second later := by
  induction first generalizing index with
  | nil =>
    have none : index = [] := by simpa using same
    subst none
    simp [distance]
  | cons axis rest ih =>
    cases index with
    | nil => simp at same
    | cons i index =>
      simp only [List.length_cons, Nat.add_right_cancel_iff] at same
      simp [distance, ih index same, add_assoc]

theorem distance_reverse (axes : List Axis) (index : List Nat) (same : index.length = axes.length) :
    distance axes.reverse index.reverse = distance axes index := by
  induction axes generalizing index with
  | nil => simp [distance]
  | cons axis rest ih =>
    cases index with
    | nil => simp at same
    | cons i index =>
      simp only [List.length_cons, Nat.add_right_cancel_iff] at same
      rw [List.reverse_cons, List.reverse_cons, distance_append _ _ _ _ (by simp [same]), ih index same]
      simp [distance, add_comm]

/-- The order in which the transposed layout lists the elements. -/
def turnOrder (shape : Shape) : List Nat := (rowMajor shape).transpose.addresses.map Int.toNat

theorem transpose_addresses (layout : Layout) :
    layout.transpose.addresses = (turnOrder layout.shape).map fun i => layout.addresses.getD i 0 := by
  rw [turnOrder, List.map_map, addresses_eq_indices layout.transpose, addresses_eq_indices (transpose _),
    List.map_map, transpose_shape, transpose_shape, rowMajor_shape]
  refine List.map_congr_left fun index member => ?_
  rw [mem_indices_iff, ← List.forall₂_reverse_iff, List.reverse_reverse] at member
  have turned (axes : List Axis) (same : axes.length = layout.shape.length) :
      distance axes.reverse index = distance axes index.reverse := by
    rw [← distance_reverse axes, List.reverse_reverse]
    rw [member.length_eq, same]
  have found := getElem?_indices ((mem_indices_iff _ _).mpr member)
  have rowLength : (rowAxes layout.shape).1.length = layout.shape.length := by
    rw [← List.length_map, rowAxes_length]
  simp only [Function.comp_apply, transpose, rowMajor, zero_add]
  rw [turned layout.axes (by simp [shape]), turned _ rowLength, addresses_eq_indices, List.getD_eq_getElem?_getD,
    List.getElem?_map, found]
  rfl

/-! ### Stretching -/

theorem stretchReversed_self (axes : List Axis) : stretchReversed axes (axes.map Axis.length) = some axes := by
  induction axes with
  | nil => rfl
  | cons axis rest ih => simp [stretchReversed, ih]

theorem stretchReversed_cons {axis : Axis} {axes : List Axis} {shape : Shape}
    (found : stretchReversed (axis :: axes) (n :: shape) = some out) : ∃ rest, stretchReversed axes shape = some rest ∧
      (axis.length = n ∧ out = axis :: rest ∨ axis.length ≠ n ∧ axis.length = 1 ∧ out = ⟨n, 0⟩ :: rest) := by
  simp only [stretchReversed, Option.bind_eq_bind, Option.bind_eq_some_iff] at found
  obtain ⟨rest, stretched, found⟩ := found
  refine ⟨rest, stretched, ?_⟩
  split at found
  · rename_i same
    cases found
    exact .inl ⟨same, rfl⟩
  · rename_i different
    split at found
    · rename_i single
      cases found
      exact .inr ⟨different, single, rfl⟩
    · cases found

theorem stretchReversed_lengths (axes : List Axis) (shape : Shape) (found : stretchReversed axes shape = some out) :
    out.map Axis.length = shape := by
  induction axes generalizing shape out with
  | nil =>
    cases found
    simp [Function.comp_def]
  | cons axis rest ih =>
    cases shape with
    | nil => cases found
    | cons n shape =>
      obtain ⟨later, stretched, ⟨same, rfl⟩ | ⟨_, _, rfl⟩⟩ := stretchReversed_cons found
      · simp [same, ih shape stretched]
      · simp [ih shape stretched]

theorem stretchReversed_size (axes : List Axis) (shape : Shape) (found : stretchReversed axes shape = some out)
    (filled : 0 < Shape.size shape) :
    0 < Shape.size (axes.map Axis.length) ∧ Shape.size (axes.map Axis.length) ≤ Shape.size shape := by
  induction axes generalizing shape out with
  | nil => exact ⟨Nat.one_pos, filled⟩
  | cons axis rest ih =>
    cases shape with
    | nil => cases found
    | cons n shape =>
      rw [size_cons] at filled
      obtain ⟨later, stretched, fits⟩ := stretchReversed_cons found
      obtain ⟨some, most⟩ := ih shape stretched (Nat.pos_of_mul_pos_left filled)
      have long : 0 < axis.length ∧ axis.length ≤ n := by
        have positive := Nat.pos_of_mul_pos_right filled
        rcases fits with ⟨same, _⟩ | ⟨_, single, _⟩ <;> omega
      rw [List.map_cons, size_cons, size_cons]
      exact ⟨Nat.mul_pos long.1 some, Nat.mul_le_mul long.2 most⟩

theorem eq_replicate_of_size_one (single : Shape.size shape = 1) : shape = List.replicate shape.length 1 := by
  induction shape with
  | nil => rfl
  | cons n rest ih =>
    rw [size_cons, mul_eq_one] at single
    rw [List.length_cons, List.replicate_succ, ← ih single.2, single.1]

theorem stretchReversed_same_size (axes : List Axis) (shape : Shape) (found : stretchReversed axes shape = some out)
    (filled : 0 < Shape.size shape) (same : Shape.size (axes.map Axis.length) = Shape.size shape) :
    ∃ k, out = axes ++ List.replicate k ⟨1, 0⟩ := by
  induction axes generalizing shape out with
  | nil =>
    cases found
    refine ⟨shape.length, ?_⟩
    rw [eq_replicate_of_size_one shape same.symm]
    simp
  | cons axis rest ih =>
    cases shape with
    | nil => cases found
    | cons n shape =>
      rw [size_cons] at filled
      rw [List.map_cons, size_cons, size_cons] at same
      obtain ⟨later, stretched, fits⟩ := stretchReversed_cons found
      have positive := Nat.pos_of_mul_pos_right filled
      obtain ⟨some, most⟩ := stretchReversed_size rest shape stretched (Nat.pos_of_mul_pos_left filled)
      -- a stretched axis is longer than before, and no other axis can make up for it
      have kept : axis.length = n := by
        rcases fits with ⟨kept, _⟩ | ⟨different, single, _⟩
        · exact kept
        · rw [single, one_mul] at same
          have double : 2 * Shape.size shape ≤ n * Shape.size shape := Nat.mul_le_mul_right _ (by omega)
          omega
      rw [kept] at same
      obtain ⟨k, rfl⟩ := ih shape stretched (Nat.pos_of_mul_pos_left filled)
        (Nat.eq_of_mul_eq_mul_left positive same)
      rcases fits with ⟨_, rfl⟩ | ⟨different, _, _⟩
      · exact ⟨k, rfl⟩
      · exact absurd kept different

theorem places_ones (k : Nat) (start : Int) : places (List.replicate k ⟨1, 0⟩) start = [start] := by
  induction k with
  | zero => rfl
  | succ k ih => simpa [List.replicate_succ, places] using ih

theorem broadcastTo?_self (layout : Layout) : layout.broadcastTo? layout.shape = some layout := by
  have stretched := stretchReversed_self layout.axes.reverse
  rw [List.map_reverse] at stretched
  simp [broadcastTo?, shape, stretched]

section
variable (layout : Layout) (target : Shape) (found : layout.broadcastTo? target = some other)
include layout target found

theorem broadcastTo?_shape : other.shape = target := by
  rw [broadcastTo?, Option.map_eq_some_iff] at found
  obtain ⟨axes, stretched, rfl⟩ := found
  rw [shape, List.map_reverse, stretchReversed_lengths _ _ stretched, List.reverse_reverse]

theorem broadcastTo?_size (filled : 0 < Shape.size target) : 0 < layout.size ∧ layout.size ≤ Shape.size target := by
  rw [broadcastTo?, Option.map_eq_some_iff] at found
  obtain ⟨axes, stretched, _⟩ := found
  rw [← size_reverse] at filled
  have sizes := stretchReversed_size _ _ stretched filled
  rwa [List.map_reverse, size_reverse, size_reverse] at sizes

theorem broadcastTo?_addresses (same : layout.size = Shape.size target) : other.addresses = layout.addresses := by
  rcases Nat.eq_zero_or_pos (Shape.size target) with empty | filled
  · rw [addresses_of_size_zero layout (same.trans empty), addresses_of_size_zero other]
    rw [size, broadcastTo?_shape layout target found, empty]
  · rw [broadcastTo?, Option.map_eq_some_iff] at found
    obtain ⟨axes, stretched, rfl⟩ := found
    obtain ⟨k, rfl⟩ := stretchReversed_same_size _ _ stretched (by rwa [size_reverse])
      (by rwa [List.map_reverse, size_reverse, size_reverse])
    rw [addresses, List.reverse_append, List.reverse_reverse, List.reverse_replicate, places_append]
    simp [places_ones, addresses]

end

/-- Whether a shape can be stretched to another, both from the last axis. -/
def FitsReversed : Shape → Shape → Prop
  | [], _ => True
  | _ :: _, [] => False
  | n :: first, k :: second => (n = k ∨ n = 1) ∧ FitsReversed first second

theorem FitsReversed.refl : FitsReversed shape shape := by
  induction shape with
  | nil => trivial
  | cons n rest ih => exact ⟨.inl rfl, ih⟩

theorem FitsReversed.trans (first second third : Shape) (fits : FitsReversed first second)
    (further : FitsReversed second third) : FitsReversed first third := by
  induction first generalizing second third with
  | nil => trivial
  | cons n first ih =>
    cases second with
    | nil => cases fits
    | cons k second =>
      cases third with
      | nil => cases further
      | cons l third =>
        refine ⟨?_, ih second third fits.2 further.2⟩
        rcases fits.1 with rfl | single
        · exact further.1
        · exact .inr single

theorem stretchReversed_isSome (axes : List Axis) (target : Shape) (fits : FitsReversed (axes.map Axis.length) target) :
    ∃ out, stretchReversed axes target = some out := by
  induction axes generalizing target with
  | nil => exact ⟨_, rfl⟩
  | cons axis rest ih =>
    cases target with
    | nil => cases fits
    | cons n target =>
      obtain ⟨out, stretched⟩ := ih target fits.2
      rcases fits.1 with same | single
      · exact ⟨axis :: out, by simp [stretchReversed, stretched, same]⟩
      · by_cases same : axis.length = n
        · exact ⟨axis :: out, by simp [stretchReversed, stretched, same]⟩
        · exact ⟨⟨n, 0⟩ :: out, by simp [stretchReversed, stretched, single, single ▸ same]⟩

theorem broadcastTo?_isSome (layout : Layout) (target : Shape)
    (fits : FitsReversed layout.shape.reverse target.reverse) : ∃ other, layout.broadcastTo? target = some other := by
  obtain ⟨out, stretched⟩ := stretchReversed_isSome layout.axes.reverse target.reverse (by rwa [List.map_reverse])
  exact ⟨_, by rw [broadcastTo?, stretched]; rfl⟩

theorem broadcastReversed_fits (found : broadcastReversed first second = some common) :
    FitsReversed first common ∧ FitsReversed second common := by
  induction first generalizing second common with
  | nil =>
    cases second <;> cases found
    · exact ⟨trivial, trivial⟩
    · exact ⟨trivial, .refl _⟩
  | cons n first ih =>
    cases second with
    | nil =>
      cases found
      exact ⟨.refl _, trivial⟩
    | cons k second =>
      simp only [broadcastReversed, Option.bind_eq_bind, Option.bind_eq_some_iff] at found
      obtain ⟨rest, joined, found⟩ := found
      obtain ⟨firstFits, secondFits⟩ := ih second joined
      split at found
      · rename_i same
        cases found
        exact ⟨⟨.inl rfl, firstFits⟩, ⟨.inl same.symm, secondFits⟩⟩
      · split at found
        · rename_i single
          cases found
          exact ⟨⟨.inr single, firstFits⟩, ⟨.inl rfl, secondFits⟩⟩
        · split at found
          · rename_i single
            cases found
            exact ⟨⟨.inl rfl, firstFits⟩, ⟨.inr single, secondFits⟩⟩
          · cases found

theorem broadcastReversed_self : broadcastReversed shape shape = some shape := by
  induction shape with
  | nil => rfl
  | cons n rest ih => simp [broadcastReversed, ih]

@[simp] theorem broadcastShapes_self : broadcastShapes shape shape = some shape := by
  simp [broadcastShapes, broadcastReversed_self]

@[simp] theorem broadcastShapes_nil : broadcastShapes [] shape = some shape := by
  simp [broadcastShapes, broadcastReversed]

theorem broadcastReversed_comm : broadcastReversed first second = broadcastReversed second first := by
  induction first generalizing second with
  | nil => cases second <;> rfl
  | cons n first ih =>
    cases second with
    | nil => rfl
    | cons k second =>
      rw [broadcastReversed, broadcastReversed, ih second]
      refine congrArg _ (funext fun rest => ?_)
      grind

theorem broadcastShapes_comm : broadcastShapes first second = broadcastShapes second first := by
  rw [broadcastShapes, broadcastShapes, broadcastReversed_comm]

theorem broadcastShapes_fits (found : broadcastShapes first second = some common) :
    FitsReversed first.reverse common.reverse ∧ FitsReversed second.reverse common.reverse := by
  rw [broadcastShapes, Option.map_eq_some_iff] at found
  obtain ⟨reversed, joined, rfl⟩ := found
  rw [List.reverse_reverse]
  exact broadcastReversed_fits _ _ joined

end Rebind.Strided.Layout
