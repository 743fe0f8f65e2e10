import Rebind.Proofs.Words
/-!
What is written to a flattened array arrives. An array of any type, shape and layout is flattened to a view of its own
cells, in their order, or to a copy that shares no memory with it. There is nothing between the two: so where memory is
shared there is nothing to put back, and where it is not, everything is put back.
-/
namespace Rebind

open Number Strided Value Run

/-- A view made from another one: it looks at the same cells in the same order, or at a buffer of its own. -/
def View.From (m : Memory) (view other : View) : Prop :=
  (other.spots = view.spots ∧ other.writeable = view.writeable) ∨
    (m.buffers.size ≤ other.buffer ∧ other.writeable = true)

section
variable {m between after : Memory} {view other : View}

theorem spreadOver_same {o : Operand} (shaped : o.shape = shape) (count : o.cells.length = Shape.size shape) :
    spreadOver o shape = .ok o.cells := by
  have found := Layout.broadcastTo?_self (Layout.rowMajor shape)
  rw [Layout.rowMajor_shape] at found
  rw [spreadOver, shaped, Nat.sub_self, Layout.dropLeadingOnes]
  simp only [found, Operand.spread, Operand.shape, Layout.rowMajor_shape, Layout.rowMajor_addresses, List.map_map,
    Except.ok.injEq]
  refine List.ext_getElem (by simp [count]) fun i _ inside => ?_
  simp [Array.getD_eq_getD_getElem?, inside]

theorem reshapeView_completes (stored : view.buffer < m.buffers.size) (size : Shape.size shape = view.size) :
    (reshapeView view shape).Completes m fun other after =>
      m.Grows after ∧ other.shape = shape ∧ other.buffer < after.buffers.size ∧ other.dtype = view.dtype ∧
        after.contents other = m.contents view ∧ View.From m view other ∧ (view.Placed m → other.Placed after) := by
  have count : (m.contents view).length = (Layout.rowMajor shape).size := by
    rw [length_contents, Layout.size, Layout.rowMajor_shape, size]
  simp only [reshapeView, size, ne_eq, not_true_eq_false, if_false]
  cases found : view.layout.reshape? shape with
  | some layout =>
    obtain ⟨shaped, addresses⟩ := Layout.reshape?_eq _ _ _ size found
    have spots : View.spots { view with layout := layout } = view.spots := by
      simp only [View.spots, addresses]
    rw [completes_pure]
    refine ⟨.refl _ _ _, shaped, stored, rfl, ?_, .inl ⟨spots, rfl⟩, ?_⟩
    · rw [Memory.contents, spots, Memory.contents]
    · intro placed
      exact ⟨placed.buffer, addresses ▸ placed.bounds, addresses ▸ placed.distinct⟩
  | none =>
    simp only [completes_bind, completes_read]
    refine (newView_completes view.dtype (Layout.rowMajor_fills shape) count).imp ?_
    rintro other after ⟨rfl, placed, grows, shown⟩
    exact ⟨grows, Layout.rowMajor_shape shape, placed.buffer, rfl, shown, .inr ⟨Nat.le_refl _, rfl⟩, fun _ => placed⟩

theorem multiply_plain (a b : Int) :
    Value.binary .mult (.num (.int a)) (.num (.int b)) = pure (.num (.int (a * b))) := rfl

theorem foldlM_multiply (ns : List Nat) (start : Int) :
    ∃ n, (ns.map fun (k : Nat) => int k).foldlM (Value.binary .mult) (int start) = pure (int n) := by
  induction ns generalizing start with
  | nil => exact ⟨start, rfl⟩
  | cons k rest ih =>
    obtain ⟨n, found⟩ := ih (start * k)
    refine ⟨n, ?_⟩
    rw [List.map_cons, List.foldlM_cons, int, int, multiply_plain, pure_bind]
    exact found

theorem numel_whole (number : Nat) (view : View) : ∃ n, numel (.array number view) = pure (.num (.int n)) := by
  obtain ⟨n, found⟩ := foldlM_multiply view.shape 1
  refine ⟨n, ?_⟩
  simp only [numel, shape?, pure_bind, iterate, extension?]
  exact found

/-- An array of the same shape and type is copied cell by cell. -/
theorem assignArray_completes (placed : view.Placed m) (writeable : view.writeable = true)
    (shape : other.shape = view.shape) (typed : other.dtype = view.dtype) :
    (Value.assign view (.array i other)).Completes m fun _ after =>
      m.Changes ∅ {spot | spot ∈ view.spots} after ∧ after.contents view = m.contents other := by
  have count : (m.contents other).length = Shape.size view.shape := by
    rw [length_contents, ← shape]
    rfl
  have spread : spreadOver ⟨other.dtype, other.layout, m.contents other, none, false⟩ view.shape = .ok _ :=
    spreadOver_same shape count
  simp only [Value.assign, writeable, Bool.not_true, Bool.false_eq_true, if_false, Value.operand, exportedView?,
    exportedBytes?, completes_bind, completes_pure, completes_read]
  rw [spread, Run.ofExcept, completes_pure, if_pos typed]
  exact write_completes placed count

theorem putBack_completes (number k : Nat) (stored : other.buffer < m.buffers.size) (placed : view.Placed m)
    (writeable : view.writeable = true) (size : other.size = view.size) (typed : other.dtype = view.dtype) : (do
      let shaped ← restructure (.array number view) (.array k other)
      setItem (.array number view) .ellipsis shaped : Run Unit).Completes m fun _ after =>
        m.Changes ∅ {spot | spot ∈ view.spots} after ∧ after.contents view = m.contents other := by
  have fits : Shape.size view.shape = other.size := size.symm
  simp only [restructure, asArray, completes_bind, completes_pure]
  refine (reshapeView_completes stored fits).imp ?_
  rintro third between ⟨grows, shaped, stored', typed', shown, _, _⟩
  refine (arrayOf_completes third between).imp ?_
  rintro _ last ⟨further, rfl, _⟩
  have grown := grows.trans further
  have assigned := assignArray_completes (i := between.objects.size) (placed.later grown) writeable shaped
    (typed'.trans typed)
  refine Completes.imp (by simpa [setItem, select, selectView, isBox] using assigned) ?_
  rintro _ after ⟨changes, written⟩
  refine ⟨(grown.widened _ _).trans changes, ?_⟩
  rw [written, further.shows stored' (by simp), shown]

/-- The test for shared memory does not mistake a copy for the array's own cells: either everything is put back, or
there is nothing to write. -/
theorem unflattenInto_eq (different : k ≠ number) (made : other.spots = view.spots ∨ other.buffer ≠ view.buffer) :
    unflattenInto (.array number view) (.array k other) = (do
      let shaped ← restructure (.array number view) (.array k other)
      setItem (.array number view) .ellipsis shaped
      return .array number view) ∨
    other.spots = view.spots ∧ unflattenInto (.array number view) (.array k other) = pure (.array number view) := by
  obtain ⟨n, counted⟩ := numel_whole number view
  obtain ⟨n', counted'⟩ := numel_whole k other
  simp only [unflattenInto, bare, counted, counted', pure_bind, compare_whole, true_or, truth_bool]
  split
  · rename_i shares
    split
    · refine .inr ⟨?_, rfl⟩
      rcases made with same | apart
      · exact same
      · have distinct : (number == k) = false := by simpa using different.symm
        have elsewhere : (view.buffer == other.buffer) = false := by simpa using Ne.symm apart
        simp [sharesMemory, isSame, identity?, overlap, distinct, elsewhere] at shares
    · exact .inl rfl
  · exact .inl rfl

theorem unflattenInto_puts (stored : other.buffer < m.buffers.size) (placed : view.Placed m)
    (writeable : view.writeable = true) (size : other.size = view.size) (typed : other.dtype = view.dtype)
    (different : k ≠ number) (made : other.spots = view.spots ∨ other.buffer ≠ view.buffer) :
    (unflattenInto (.array number view) (.array k other)).Completes m fun v after => v = .array number view ∧
      m.Changes ∅ {spot | spot ∈ view.spots} after ∧ after.contents view = m.contents other := by
  rcases unflattenInto_eq different made with written | ⟨same, unchanged⟩
  · rw [written]
    simpa only [completes_bind, completes_pure, true_and] using
      putBack_completes number k stored placed writeable size typed
  · rw [unchanged, completes_pure, Memory.contents, ← same, Memory.contents]
    exact ⟨rfl, .refl _ _ _, rfl⟩

theorem View.From.apart (made : View.From m view other) (placed : view.Placed m) :
    other.spots = view.spots ∨ other.buffer ≠ view.buffer := by
  rcases made with ⟨same, _⟩ | ⟨new, _⟩
  · exact .inl same
  · exact .inr (Nat.ne_of_gt (placed.buffer.trans_le new))

theorem disjoint_spots (apart : other.buffer ≠ view.buffer) : other.spots.Disjoint view.spots := by
  intro spot inside within
  exact apart ((View.mem_spots_buffer inside).symm.trans (View.mem_spots_buffer within))

/-- Any array can be flattened, and what that gives looks at its cells or at new ones. -/
theorem vec_from (number : Nat) (placed : view.Placed m) :
    (vec (.array number view)).Completes m fun v after => m.Grows after ∧ ∃ k flat, v = .array k flat ∧
      m.objects.size ≤ k ∧ flat.Placed after ∧ flat.shape = [view.size] ∧ flat.dtype = view.dtype ∧
        after.contents flat = m.contents view ∧ View.From m view flat := by
  have size : Shape.size [view.size] = view.size := by simp [Layout.size_cons, Layout.size_nil]
  simp only [vec, flattenView, completes_bind]
  refine (reshapeView_completes placed.buffer size).imp ?_
  rintro flat between ⟨grows, shaped, stored, typed, shown, made, placed'⟩
  refine (arrayOf_completes flat between).imp ?_
  rintro _ after ⟨further, rfl, _⟩
  refine ⟨grows.trans further, _, flat, rfl, grows.objects, (placed' placed).later further, shaped, typed, ?_, made⟩
  rw [further.shows stored (by simp), shown]

/-- Whatever is written to a flattened array, putting it back leaves exactly that in the array it was made from, and
touches nothing else. This takes no test of how the two share memory. -/
theorem flattened_writes_arrive (m : Memory) (number : Nat) (view : View) (known : number < m.objects.size)
    (placed : view.Placed m) (writeable : view.writeable = true) :
    ∃ k flat after, (vec (.array number view)).Yields m (.array k flat) after ∧ m.Grows after ∧
      flat.shape = [view.size] ∧ flat.dtype = view.dtype ∧ after.contents flat = m.contents view ∧
      (flat.spots = view.spots ∨ flat.spots.Disjoint view.spots) ∧
      ∀ cells : List Cell, cells.length = view.size → ∃ written last, (Run.write flat cells).Yields after ⟨⟩ written ∧
        (unflattenInto (.array number view) (.array k flat)).Yields written (.array number view) last ∧
        last.contents view = cells ∧ m.Changes ∅ {spot | spot ∈ view.spots} last := by
  obtain ⟨_, after, ran, grows, k, flat, rfl, new, placed', shape, typed, shown, made⟩ := vec_from number placed
  refine ⟨k, flat, after, ran, grows, shape, typed, shown, (made.apart placed).imp_right disjoint_spots, ?_⟩
  intro cells count
  have size : flat.size = view.size := by
    have flattened : flat.layout.shape = [view.size] := shape
    simp [View.size, Layout.size, flattened, Layout.size_cons, Layout.size_nil]
  obtain ⟨_, written, wrote, changes, held⟩ := write_completes placed' (count.trans size.symm)
  have grown := (grows.widened _ _).trans changes
  have different : k ≠ number := by omega
  obtain ⟨_, last, putBack, rfl, further, arrived⟩ := unflattenInto_puts (placed'.later changes).buffer
    (placed.later grown) writeable size typed different (made.apart placed)
  refine ⟨written, last, wrote, putBack, arrived.trans held, Memory.Changes.trans (grown.narrow ?_) further⟩
  -- a cell that was there before and is written to is one of the array's own
  intro spot inside old
  rcases made with ⟨same, _⟩ | ⟨fresh, _⟩
  · exact same ▸ inside
  · rw [View.mem_spots_buffer inside] at old
    exact absurd fresh (Nat.not_le.mpr old)

end

/-- An array of objects whose elements are met from the last to the first, with gaps between them. -/
def backward : View := ⟨0, ⟨6, [⟨2, -1⟩, ⟨2, -4⟩]⟩, .object, true⟩

theorem backward_writes_arrive : ∃ (m after written last : Memory) (k : Nat) (flat : View) (cells : List Cell),
    backward.Placed m ∧ cells = [.object .null, .num (.int 1), .object (.int 2), .num (.int 3)] ∧
      (vec (.array 0 backward)).Yields m (.array k flat) after ∧ (Run.write flat cells).Yields after ⟨⟩ written ∧
      (unflattenInto (.array 0 backward) (.array k flat)).Yields written (.array 0 backward) last ∧
      last.contents backward = cells := by
  let m : Memory := { buffers := #[Array.replicate 8 default], objects := #[.token] }
  have placed : backward.Placed m := ⟨by decide, by decide, by decide⟩
  obtain ⟨k, flat, after, flattened, _, _, _, _, _, arrives⟩ :=
    flattened_writes_arrive m 0 backward (by decide) placed rfl
  obtain ⟨written, last, wrote, putBack, arrived, _⟩ :=
    arrives [.object .null, .num (.int 1), .object (.int 2), .num (.int 3)] rfl
  exact ⟨m, after, written, last, k, flat, _, placed, rfl, flattened, wrote, putBack, arrived⟩

end Rebind
