import Rebind.Proofs.Paths
/-!
Flattened targets. Flattening makes an array or a box over the same cells or over a copy of them. To put it back can
only fail if the target may not be written; and a path that was flattened can be followed once more to put it back.
-/
namespace Rebind

open Number Strided Syntax Update Value Run

/-- What flattening makes of a value: an array or a box over the same cells or over a copy, or the value itself. -/
inductive Value.Flattens (m : Memory) : Value → Value → Prop
  | array {view other : View} (shape : other.shape = [view.size]) (typed : other.dtype = view.dtype)
      (made : View.From m view other) (i j : Nat) : Flattens m (.array i view) (.array j other)
  | box {view other : View} (shape : other.shape = [view.size]) (typed : other.dtype = view.dtype)
      (made : View.From m view other) (i j : Nat) (foreign : Bool) : Flattens m (.box i view foreign) (.box j other false)
  | itself (bare : ∀ i view, v ≠ .array i view) (unboxed : v.isBox = false) : Flattens m v v

/-- The run goes through, or the view may not be written and the run has only added to memory. -/
def Run.PutsBack (view : View) (run : Run α) (m : Memory) : Prop :=
  run.Ends m (fun _ _ => True) fun after => m.Extends after ∧ ¬ view.writeable = true

section
variable {m m' between after last : Memory} {v w c : Value} {view other : View} {k : Nat}

/-! ### Flattening -/

theorem reshapeView_made {view : View} (size : Shape.size shape = view.size) (m : Memory) :
    (reshapeView view shape).Completes m fun other after =>
      m.Extends after ∧ other.shape = shape ∧ other.dtype = view.dtype ∧ View.From m view other := by
  have adds := reshapeView_adds view shape
  cases found : view.layout.reshape? shape with
  | some layout =>
    obtain ⟨shaped, addresses⟩ := Layout.reshape?_eq _ _ _ size found
    have ran : (reshapeView view shape).Yields m { view with layout := layout } m := by
      simp [reshapeView, size, found]
    refine ran.completes ⟨adds.yields ran, shaped, rfl, .inl ⟨?_, rfl⟩⟩
    simp only [View.spots, addresses]
  | none =>
    have count : (m.contents view).length = (Layout.rowMajor shape).size := by
      rw [length_contents, Layout.size, Layout.rowMajor_shape, size]
    obtain ⟨other, after, made, same, _⟩ := newView_completes (m := m) view.dtype (Layout.rowMajor_fills shape) count
    have ran : (reshapeView view shape).Yields m other after := by
      simp only [reshapeView, size, found, ne_eq, not_true_eq_false, if_false, yields_bind, yields_read]
      exact ⟨_, _, ⟨rfl, rfl⟩, made⟩
    subst same
    exact ran.completes ⟨adds.yields ran, Layout.rowMajor_shape shape, rfl, .inr ⟨Nat.le_refl _, rfl⟩⟩

theorem flattenView_made (view : View) (m : Memory) : (flattenView view).Completes m fun other after =>
    m.Extends after ∧ other.shape = [view.size] ∧ other.dtype = view.dtype ∧ View.From m view other :=
  reshapeView_made (by simp [Layout.size_cons, Layout.size_nil]) m

theorem vec_made (v : Value) (m : Memory) : (vec v).Completes m fun w after => m.Extends after ∧ Flattens m v w := by
  have adds := vec_adds v
  have made : (vec v).Completes m fun w _ => Flattens m v w := by
    cases v with
    | array i view =>
      refine completes_bind.mpr ((flattenView_made view m).imp ?_)
      rintro other between ⟨_, shape, typed, made⟩
      refine (arrayOf_completes other between).imp ?_
      rintro _ after ⟨_, rfl, _⟩
      exact .array shape typed made _ _
    | box i view foreign =>
      refine completes_bind.mpr ((flattenView_made view m).imp ?_)
      rintro other between ⟨_, shape, typed, made⟩
      obtain ⟨number, after, fresh, _⟩ := allocate_completes .token between
      refine completes_bind.mpr (fresh.completes (completes_pure.mpr ?_))
      exact .box shape typed made _ _ _
    | _ => exact completes_pure.mpr (.itself (by simp) rfl)
  obtain ⟨w, after, ran, flattens⟩ := made
  exact ran.completes ⟨adds.yields ran, flattens⟩

/-! ### How many elements there are -/

theorem numel_completes {shape : Strided.Shape}
    (sized : (shape? v).Yields m (some (.tuple (shape.map fun (n : Nat) => .int n))) m) :
    (numel v).Completes m fun w after => m = after ∧ ∃ n : Int, w = .num (.int n) := by
  obtain ⟨n, found⟩ := foldlM_multiply shape 1
  rw [numel, completes_bind, sized.completes_iff]
  have listed : iterate (.tuple (shape.map fun (n : Nat) => .int n)) = pure (shape.map fun (n : Nat) => .int n) := rfl
  dsimp only
  rw [listed, pure_bind, found]
  exact completes_pure.mpr ⟨rfl, n, rfl⟩

/-! ### Putting it back -/

theorem Run.Completes.putsBack {run : Run β} {next : β → Run α}
    (first : run.Completes m fun b between => m.Extends between ∧ (next b).PutsBack view between) :
    (run >>= next).PutsBack view m := by
  refine ends_bind.mpr (Completes.ends (first.imp ?_))
  rintro b between ⟨extends_, later⟩
  refine later.imp (fun _ _ done => done) ?_
  rintro after ⟨further, closed⟩
  exact ⟨extends_.trans further, closed⟩

theorem assign_putsBack (shape : other.shape = view.shape) (typed : other.dtype = view.dtype) (i : Nat) (m : Memory) :
    (Value.assign view (.array i other)).PutsBack view m := by
  cases writeable : view.writeable with
  | false =>
    simp only [Value.assign, writeable]
    exact ends_bind.mpr (ends_fail.mpr ⟨.refl m, by simp [writeable]⟩)
  | true =>
    obtain ⟨o, reads, shaped, same, count⟩ : ∃ o, (Value.operand (.array i other)).Yields m o m ∧ o.shape = view.shape ∧
        o.dtype = view.dtype ∧ o.cells.length = Shape.size view.shape := by
      refine ⟨⟨other.dtype, other.layout, m.contents other, none, false⟩, ?_, shape, typed, ?_⟩
      · simp [Value.operand, exportedView?, exportedBytes?]
      · rw [length_contents, ← shape]
        rfl
    refine Run.Completes.ends ?_
    simp only [Value.assign, writeable, Bool.not_true, Bool.false_eq_true, if_false, completes_bind, reads.completes_iff,
      spreadOver_same shaped count, Run.ofExcept, completes_pure, same, if_true]
    exact write_goesThrough view o.cells m

theorem arrayOf_made (view : View) (m : Memory) :
    (arrayOf view).Completes m fun v after => m.Extends after ∧ ∃ i, v = .array i view := by
  obtain ⟨_, after, ran, _, rfl, _⟩ := arrayOf_completes view m
  exact ran.completes ⟨(arrayOf_adds view).yields ran, _, rfl⟩

theorem freshId_made (m : Memory) : freshId.Completes m fun _ after => m.Extends after := by
  obtain ⟨i, after, fresh, _⟩ := allocate_completes .token m
  exact fresh.completes (freshId_adds.yields fresh)

section
variable (size : other.size = view.size) (typed : other.dtype = view.dtype) (m : Memory)
include size typed

theorem arranged_putsBack :
    (reshapeView other view.shape >>= fun third => arrayOf third >>= Value.assign view).PutsBack view m := by
  have fits : Shape.size view.shape = other.size := size.symm
  refine Completes.putsBack ((reshapeView_made fits m).imp ?_)
  rintro third between ⟨extends_, shape, kept, _⟩
  refine ⟨extends_, Completes.putsBack ((arrayOf_made third between).imp ?_)⟩
  rintro _ last ⟨further, i, rfl⟩
  exact ⟨further, assign_putsBack shape (kept.trans typed) i last⟩

theorem array_putsBack (i j : Nat) :
    (restructure (.array i view) (.array j other) >>= setItem (.array i view) .ellipsis).PutsBack view m := by
  have same : restructure (.array i view) (.array j other) >>= setItem (.array i view) .ellipsis =
      reshapeView other view.shape >>= fun third => arrayOf third >>= Value.assign view := by
    simp only [restructure, asArray, arrayOf, bind_assoc, pure_bind]
    rfl
  rw [same]
  exact arranged_putsBack size typed m

theorem box_putsBack (i j : Nat) (foreign : Bool) : (restructure (.box i view foreign) (.box j other false) >>=
    setItem (.box i view foreign) .ellipsis).PutsBack view m := by
  have same : restructure (.box i view foreign) (.box j other false) >>=
      setItem (.box i view foreign) .ellipsis = freshId >>= fun _ => reshapeView other view.shape >>=
        fun third => freshId >>= fun _ => arrayOf third >>= Value.assign view := by
    simp only [restructure, unboxed, asArray, arrayOf, boxOf, bind_assoc, pure_bind]
    rfl
  rw [same]
  have fits : Shape.size view.shape = other.size := size.symm
  refine Completes.putsBack ((freshId_made m).imp fun _ s₁ grown => ⟨grown, ?_⟩)
  refine Completes.putsBack ((reshapeView_made fits s₁).imp ?_)
  rintro third s₂ ⟨extends_, shape, kept, _⟩
  refine ⟨extends_, Completes.putsBack ((freshId_made s₂).imp fun _ s₃ further => ⟨further, ?_⟩)⟩
  refine Completes.putsBack ((arrayOf_made third s₃).imp ?_)
  rintro _ last ⟨more, i, rfl⟩
  exact ⟨more, assign_putsBack shape (kept.trans typed) i last⟩

end

/-! ### Matrices -/

@[simp] theorem denseLayout_shape (s : Sparse) : s.denseLayout.shape = s.shape := by
  unfold Sparse.denseLayout
  split <;> simp

section
variable (k : Nat) (m : Memory)

theorem object_goesThrough : (Run.object k).Completes m fun _ after => m = after :=
  completes_bind.mpr (Yields.completes (yields_get.mpr ⟨rfl, rfl⟩) (completes_pure.mpr rfl))

theorem sparseObject_goesThrough : (sparseObject k).GoesThrough m := by
  refine completes_bind.mpr ((object_goesThrough k m).imp fun held _ _ => ?_)
  split <;> exact completes_pure.mpr trivial

theorem entries_goesThrough : (Run.entries k).GoesThrough m := by
  refine completes_bind.mpr ((object_goesThrough k m).imp fun held _ _ => ?_)
  split <;> exact completes_pure.mpr trivial

theorem store_goesThrough (held : Object) : (store k held).GoesThrough m :=
  Yields.completes ((yields_modify (a := ⟨⟩)).mpr rfl) trivial

theorem writeEntries_goesThrough (given : List (Option Cell)) : (writeEntries k given).GoesThrough m := by
  refine completes_bind.mpr ((sparseObject_goesThrough k m).imp fun s _ _ => ?_)
  refine completes_bind.mpr ((entries_goesThrough s.store _).imp fun _ _ _ => ?_)
  exact store_goesThrough _ _ _

theorem replaceEntries_goesThrough (given : List (Option Cell)) : (replaceEntries k given).GoesThrough m := by
  refine completes_bind.mpr ((sparseObject_goesThrough k m).imp fun s between _ => ?_)
  obtain ⟨place, after, stored, _⟩ := allocate_completes (.entries given.toArray) between
  refine completes_bind.mpr (completes_bind.mpr (stored.completes (completes_pure.mpr ?_)))
  exact store_goesThrough _ _ _

theorem sparseContent_goesThrough : (sparseContent k).GoesThrough m := by
  refine completes_bind.mpr ((sparseObject_goesThrough k m).imp fun s _ _ => ?_)
  exact completes_bind.mpr ((entries_goesThrough s.store _).imp fun _ _ _ => completes_pure.mpr trivial)

theorem sparseWrite_goesThrough (given : List (Option Cell)) : (Sparse.write k given).GoesThrough m := by
  refine completes_bind.mpr ((sparseContent_goesThrough k m).imp fun s between _ => ?_)
  have compressed (settled joined : List (Option Cell)) (more : Bool) : (do
      writeEntries k settled
      if more = true then replaceEntries k joined : Run Unit).GoesThrough between := by
    refine completes_bind.mpr ((writeEntries_goesThrough k between settled).imp fun _ _ _ => ?_)
    cases more with
    | false => exact completes_pure.mpr trivial
    | true => exact replaceEntries_goesThrough k _ joined
  split
  · exact compressed _ _ _
  · exact compressed _ _ _
  · exact writeEntries_goesThrough k between _
  · exact writeEntries_goesThrough k between _
  · exact replaceEntries_goesThrough k between _

end

theorem sparse_assign_goesThrough {i j : Nat} {o p : SparseObject} (found : m.objects[j]? = some (.sparse o))
    (found' : m.objects[i]? = some (.sparse p)) (writable : o.format.isWritable = true) (shape : p.shape = o.shape) :
    (Sparse.assign j (.sparse i)).GoesThrough m := by
  refine completes_bind.mpr ((sparseContent_completes found).imp ?_)
  rintro s _ ⟨rfl, format, shaped⟩
  have copied : (do Sparse.write j (← s.entriesFrom (← sparseContent i)) : Run Unit).GoesThrough m := by
    refine completes_bind.mpr ((sparseContent_completes found').imp ?_)
    rintro given _ ⟨rfl, _, shaped'⟩
    have same : s.shape = given.shape := by rw [shaped, shaped', shape]
    have onto : given.operand.layout.broadcastTo? s.shape = some given.operand.layout := by
      rw [same, ← denseLayout_shape given]
      exact Layout.broadcastTo?_self given.denseLayout
    have taken : s.entriesFrom given = pure ((given.stretched s.shape).castTo s.dtype).entries := by
      rw [Sparse.entriesFrom, onto, same]
      simp
    rw [taken, pure_bind]
    exact sparseWrite_goesThrough j m _
  have closed : ∀ f : SparseFormat, f.isWritable = true → f ≠ .dia ∧ f ≠ .bsr := by
    intro f
    cases f <;> decide
  obtain ⟨notDia, notBsr⟩ := closed s.format (format ▸ writable)
  split
  · rename_i is
    exact absurd is notDia
  · rename_i is
    exact absurd is notBsr
  · rename_i same _ _
    cases same
    exact copied
  · rename_i other
    exact absurd rfl (other i)

/-! ### Putting it back as a whole -/

theorem unflattenInto_ends {shape shape' : Strided.Shape} {failed : Memory → Prop}
    (sized : (shape? v.bare).Yields m (some (.tuple (shape.map fun (n : Nat) => .int n))) m)
    (sized' : (shape? w.bare).Yields m (some (.tuple (shape'.map fun (n : Nat) => .int n))) m)
    (written : (restructure v.bare w.bare >>= setItem v.bare .ellipsis).Ends m (fun _ _ => True) failed) :
    (unflattenInto v w).Ends m (fun _ _ => True) failed := by
  have stored : (do
      let shaped ← restructure v.bare w.bare
      setItem v.bare .ellipsis shaped
      return v : Run Value).Ends m (fun _ _ => True) failed := by
    simp only [ends_bind, ends_pure] at written ⊢
    exact written
  obtain ⟨_, _, counted, rfl, n, rfl⟩ := numel_completes sized
  obtain ⟨_, _, counted', rfl, n', rfl⟩ := numel_completes sized'
  rw [unflattenInto]
  split
  · rw [ends_bind, counted.ends_iff, ends_bind, counted'.ends_iff]
    simp only [compare_whole, true_or, pure_bind, truth_bool]
    split
    · exact ends_pure.mpr trivial
    · exact stored
  · exact stored

theorem sparse_sized {o : SparseObject} (found : m.objects[k]? = some (.sparse o)) :
    ∃ shape : Strided.Shape, (shape? (.sparse k)).Yields m (some (.tuple (shape.map fun (n : Nat) => .int n))) m := by
  obtain ⟨s, _, reads, rfl, _⟩ := sparseContent_completes found
  exact ⟨s.shape, yields_bind.mpr ⟨s, m, reads, yields_pure.mpr ⟨rfl, rfl⟩⟩⟩

theorem unflattenInto_sparse {i j : Nat} {o p : SparseObject} {failed : Memory → Prop} (same : v.bare = .sparse j)
    (found : m.objects[j]? = some (.sparse o)) (found' : m.objects[i]? = some (.sparse p))
    (writable : o.format.isWritable = true) (shape : p.shape = o.shape) :
    (unflattenInto v (.sparse i)).Ends m (fun _ _ => True) failed := by
  obtain ⟨_, sized⟩ := sparse_sized found
  obtain ⟨_, sized'⟩ := sparse_sized found'
  rw [← same] at sized
  refine unflattenInto_ends sized sized' ?_
  have passed : restructure (.sparse j) (sparse i).bare = pure (.sparse i) := rfl
  rw [same, passed, pure_bind]
  exact Completes.ends (sparse_assign_goesThrough found found' writable shape)

theorem unflattenInto_array (same : v.bare = .array i view) (size : other.size = view.size)
    (typed : other.dtype = view.dtype) (j : Nat) (m : Memory) : (unflattenInto v (.array j other)).PutsBack view m := by
  have sized : (shape? v.bare).Yields m (some (.tuple (view.shape.map fun (n : Nat) => .int n))) m := by
    rw [same]
    exact yields_pure.mpr ⟨rfl, rfl⟩
  refine unflattenInto_ends sized (yields_pure.mpr ⟨rfl, rfl⟩) ?_
  rw [same]
  exact array_putsBack size typed m i j

theorem unflattenInto_box (same : v.bare = .box i view foreign) (size : other.size = view.size)
    (typed : other.dtype = view.dtype) (j : Nat) (m : Memory) :
    (unflattenInto v (.box j other false)).PutsBack view m := by
  have sized : (shape? v.bare).Yields m (some (.tuple (view.shape.map fun (n : Nat) => .int n))) m := by
    rw [same]
    exact yields_pure.mpr ⟨rfl, rfl⟩
  refine unflattenInto_ends sized (yields_pure.mpr ⟨rfl, rfl⟩) ?_
  rw [same]
  exact box_putsBack size typed m i j foreign

theorem Value.Again.unflattenInto {start : Memory} {parts : Set Part} {flat u : Value} (target : v.IsTarget after)
    (flattens : Flattens start v flat) (later : after.Alters parts last) (again : Again m m' v after w last)
    (same : u.bare = w) :
    (unflattenInto u flat).Ends last (fun _ _ => True) fun ended => last.Extends ended ∧ ¬ v.IsOpen := by
  have row {view other : View} (shape : other.shape = [view.size]) : other.size = view.size := by
    have counted : other.size = Shape.size other.shape := rfl
    rw [counted, shape]
    simp [Layout.size_cons, Layout.size_nil]
  cases target with
  | @array view typed i =>
    cases flattens with
    | @array _ other shape typed' _ _ j =>
      cases again with
      | read | array _ _ _ _ _ => exact unflattenInto_array same (row shape) typed' j _
      | inert plain _ _ => cases plain
    | itself bare _ => exact absurd rfl (bare i view)
  | @box view typed i foreign =>
    cases flattens with
    | @box _ other shape typed' _ _ j _ =>
      cases again with
      | read => exact unflattenInto_box same (row shape) typed' j _
      | inert plain _ _ => cases plain
    | itself _ unboxed => cases unboxed
  | @sparse _ k o matrix writable =>
    cases flattens
    obtain ⟨other, found, format, shape⟩ : ∃ other : SparseObject, last.objects[k]? = some (.sparse other) ∧
        other.format = o.format ∧ other.shape = o.shape := by
      obtain ⟨_, found, altered⟩ := later.held k _ matrix.found
      cases altered with
      | same => exact ⟨o, found, rfl, rfl⟩
      | placement _ _ store slots => exact ⟨_, found, rfl, rfl⟩
    cases again with
    | read => exact unflattenInto_sparse same found found (format ▸ writable) rfl
    | inert plain _ _ => cases plain
    | sparse first there format' shape' =>
      rw [matrix.found] at first
      cases first
      exact unflattenInto_sparse same there found (format' ▸ writable) (shape.trans shape'.symm)

end
end Rebind
