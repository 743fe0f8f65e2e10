import Rebind.Proofs.FlatWrites
import Rebind.Proofs.Products
/-!
Flattened arrays of integers. An array can always be flattened and put back into shape: either it is the same cells
that are looked at, or a copy of them. A product with a flattened factor is a row, and as such it goes into a flattened
target of as many elements.
-/
namespace Rebind

open Number Strided Syntax Value Run ProductShape

section
variable {m between after : Memory} {d : DType} {v w : Value} {view other : View} {p : ProductShape}
  {names : Set String} {spots : Set (Nat × Nat)}

/-! ### Rows -/

/-- The shape of a row of so many elements; a single one may stand without an axis. -/
def IsRow (n : Nat) (q : Shape) : Prop := q = [n] ∨ (q = [] ∧ n = 1)

theorem IsRow.size (row : IsRow n q) : Shape.size q = n := by
  rcases row with rfl | ⟨rfl, rfl⟩
  · simp [Layout.size_cons, Layout.size_nil]
  · rfl

theorem IsRow.broadcast (row : IsRow n q) : Layout.broadcastShapes q [n] = some [n] := by
  rcases row with rfl | ⟨rfl, rfl⟩
  · exact Layout.broadcastShapes_self _
  · exact Layout.broadcastShapes_nil _

theorem IsRow.stretch (row : IsRow n q) (count : ps.length = Shape.size q) : Rebind.stretch q [n] ps = ps := by
  rcases row with rfl | ⟨rfl, rfl⟩
  · exact stretch_self count
  · obtain ⟨x, rfl⟩ := List.length_eq_one_iff.mp count
    rw [stretch_single]
    rfl

theorem IsRow.stretchOver (row : IsRow n q) (count : ps.length = Shape.size q) : stretchOver? q [n] ps = some ps := by
  rcases row with rfl | ⟨rfl, rfl⟩
  · exact stretchOver?_self count
  · obtain ⟨x, rfl⟩ := List.length_eq_one_iff.mp count
    rw [stretchOver?_single]
    rfl

theorem isRow_of_vector (told : plainProductShape? s t = some q) (vector : s.length = 1 ∨ t.length = 1) :
    IsRow (Shape.size q) q := by
  unfold plainProductShape? at told
  split at told
  · cases told
    exact .inr ⟨rfl, rfl⟩
  iterate 2
    · cases told
      exact .inl (by simp [Layout.size_cons, Layout.size_nil])
  · simp at vector
  · cases told

/-- What an array holds after as many numbers were put into it, on top of its own when accumulating. -/
def Strided.DType.settle (d : DType) (accumulate : Bool) (cs ps : List Int) : List Int :=
  if accumulate then List.zipWith (d.onWords .add) cs ps else ps

theorem pour?_same_size (poured : d.pour? accumulate target cs shape ps = some zs)
    (same : Shape.size shape = Shape.size target) (count : cs.length = Shape.size target)
    (count' : ps.length = Shape.size shape) : zs = d.settle accumulate cs ps := by
  cases accumulate with
  | false => exact stretchOver?_same_size poured same count'
  | true =>
    obtain ⟨common, joined, over?⟩ := Option.bind_eq_some_iff.mp poured
    rw [combined_of_same_size _ joined over? same count count', zipWith_add_comm]
    rfl

theorem IsRow.pour? (row : IsRow n q) (accumulate : Bool) (count : ps.length = Shape.size q) (count' : cs.length = n) :
    d.pour? accumulate [n] cs q ps = some (d.settle accumulate cs ps) := by
  have whole : cs.length = Shape.size [n] := by simp [count', Layout.size_cons, Layout.size_nil]
  cases accumulate with
  | false => exact row.stretchOver count
  | true =>
    have length : (List.zipWith (d.onWords .add) ps cs).length = Shape.size [n] := by
      rw [List.length_zipWith, count, row.size, count', Nat.min_self]
      simp [Layout.size_cons, Layout.size_nil]
    simp only [DType.pour?, if_true, row.broadcast, Option.bind_some, row.stretch count, stretch_self whole,
      stretchOver?_self length, DType.settle, zipWith_add_comm d cs]

/-! ### Other shapes -/

theorem reshaped_completes (bears : Value.Bears m d s xs (.array number view)) (size : Shape.size shape = Shape.size s) :
    (do Run.arrayOf (← reshapeView view shape) : Run Value).Completes m fun v after => m.Grows after ∧
      ∃ k other, v = .array k other ∧ m.objects.size ≤ k ∧ v.Bears after d shape xs ∧ View.From m view other ∧
        (view.Placed m → other.Placed after) := by
  cases bears with
  | array known stored typed shaped shown held =>
    rw [completes_bind]
    refine (reshapeView_completes stored (size.trans (by rw [← shaped]; rfl))).imp ?_
    rintro other between ⟨grows, shaped', stored', typed', shown', made, placed'⟩
    refine (arrayOf_completes other between).imp ?_
    rintro v after ⟨further, rfl, known'⟩
    refine ⟨grows.trans further, _, other, rfl, grows.objects, ?_, made, fun placed => (placed' placed).later further⟩
    refine .array known' (stored'.trans_le further.buffers) (typed'.trans typed) shaped' ?_ held
    rw [further.shows stored' (by simp), shown', shown]

theorem vec_completes (bears : Value.Bears m d s xs (.array number view)) :
    (vec (.array number view)).Completes m fun v after => m.Grows after ∧
      ∃ k other, v = .array k other ∧ m.objects.size ≤ k ∧ v.Bears after d [Shape.size s] xs ∧
        View.From m view other ∧ (view.Placed m → other.Placed after) := by
  have size : view.size = Shape.size s := by rw [← bears.shaped]; rfl
  simp only [vec, flattenView, size]
  exact reshaped_completes bears (by simp [Layout.size_cons, Layout.size_nil])

theorem asArray_completes (integer : d.kind = .integer) (bears : v.Bears m d s xs) :
    (asArray v).Completes m fun w after =>
      m.Grows after ∧ w.Bears after d s xs ∧ (∃ number view, w = .array number view) ∧
        (v.Placed m → w.Placed after) := by
  cases id bears with
  | array _ _ _ _ _ _ =>
    rw [asArray, completes_pure]
    exact ⟨.refl _ _ _, bears, ⟨_, _, rfl⟩, fun placed => placed⟩
  | single flat alone held =>
    simp only [asArray, ofOperand, completes_bind]
    refine bears.operand.imp ?_
    rintro o _ ⟨rfl, borne, _, typed⟩
    have count : o.cells.length = (Layout.rowMajor o.shape).size := by
      rw [borne.cells, List.length_map, borne.count, Layout.size, Layout.rowMajor_shape, borne.shaped]
    simp only [typed, word_ne_object integer, if_false]
    refine (newArray_completes d (Layout.rowMajor_fills _) count).imp ?_
    rintro w after ⟨number, view, rfl, known, rfl, placed, grows, shown⟩
    refine ⟨grows, .array known placed.buffer rfl ?_ (shown.trans borne.cells) borne.held, ⟨_, _, rfl⟩,
      fun _ => placed.array _⟩
    exact (Layout.rowMajor_shape _).trans borne.shaped

theorem restructure_completes (integer : d.kind = .integer) (reference : Value.Bears m d t cs (.array number view))
    (bears : w.Bears m d q ps) (size : Shape.size q = Shape.size t) :
    (restructure (.array number view) w).Completes m fun v after =>
      m.Grows after ∧ v.Bears after d t ps ∧ v.isMadeAnew = false ∧ (w.Placed m → v.Placed after) := by
  simp only [restructure, completes_bind]
  refine (asArray_completes integer bears).imp ?_
  rintro _ between ⟨grows, taken, ⟨k, given, rfl⟩, placed⟩
  rw [reference.shaped]
  refine Run.Completes.imp (reshaped_completes taken size.symm) ?_
  rintro v after ⟨further, _, _, rfl, _, shaped, _, placed'⟩
  exact ⟨grows.trans further, shaped, rfl, fun before => (placed' (placed before _ _ rfl)).array _⟩

theorem restructure_goesThrough (reference : Value.Bears m d t cs (.array number view))
    (integer : d.kind = .integer) (bears : w.Bears m d s xs)
    (through : (restructure (.array number view) w).GoesThrough m) : Shape.size s = Shape.size t := by
  rw [GoesThrough] at through
  simp only [restructure, completes_bind] at through
  obtain ⟨_, _, _, ⟨_, taken, ⟨k, given, rfl⟩, _⟩, through⟩ := (asArray_completes integer bears).and through
  have size : given.size = Shape.size s := by rw [← taken.shaped]; rfl
  by_contra different
  have refused : Shape.size view.shape ≠ given.size := by
    rw [size, reference.shaped]
    exact Ne.symm different
  simp only [reshapeView, refused, ne_eq, not_false_eq_true, if_true, completes_bind] at through
  exact not_goesThrough_fail through.goesThrough

theorem unflattenInto_completes (target : Value.Bears m d t cs (.array number view))
    (placed : view.Placed m) (writeable : view.writeable = true) (flat : Value.Bears m d q zs (.array k other))
    (size : Shape.size q = Shape.size t) (different : k ≠ number)
    (made : other.spots = view.spots ∨ other.buffer ≠ view.buffer) :
    (unflattenInto (.array number view) (.array k other)).Completes m fun _ after =>
      m.Changes ∅ {spot | spot ∈ view.spots} after ∧ Value.Bears after d t zs (.array number view) := by
  cases target with
  | array known stored typed shaped _ _ =>
    cases flat with
    | array _ stored' typed' shaped' shown held =>
      subst shaped shaped'
      refine (unflattenInto_puts stored' placed writeable size (typed'.trans typed.symm) different made).imp ?_
      rintro _ after ⟨_, changes, arrived⟩
      refine ⟨changes, .array (known.trans_le changes.objects) (stored.trans_le changes.buffers) typed rfl ?_ held⟩
      rw [arrived, shown]

end
end Rebind
