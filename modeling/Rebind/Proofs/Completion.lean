import Rebind.Proofs.Cells
/-!
Runs that are known to go through. Where a run is said to complete, it is not only told what it does if it goes
through, but also that it does. Completion is followed step by step from the start of a run to its end.
-/
namespace Rebind

open Strided Run

/-- The run goes through, and its result and the memory that it leaves behind are as said. -/
def Run.Completes (run : Run α) (m : Memory) (post : α → Memory → Prop) : Prop :=
  ∃ a after, run.Yields m a after ∧ post a after

section
variable {m : Memory} {view : View} {post : α → Memory → Prop}

theorem Run.Yields.completes {run : Run α} (ran : run.Yields m a after) (holds : post a after) :
    run.Completes m post := ⟨a, after, ran, holds⟩

theorem Run.Completes.imp {run : Run α} {weaker : α → Memory → Prop} (completes : run.Completes m post)
    (implies : ∀ a after, post a after → weaker a after) : run.Completes m weaker := by
  obtain ⟨a, after, ran, holds⟩ := completes
  exact ⟨a, after, ran, implies a after holds⟩

theorem Run.Yields.completes_iff {run : Run α} (ran : run.Yields m a after) : run.Completes m post ↔ post a after := by
  constructor
  · rintro ⟨b, last, again, holds⟩
    obtain ⟨rfl, rfl⟩ := ran.eq again
    exact holds
  · exact ran.completes

theorem Run.Completes.and {run : Run α} {other : α → Memory → Prop} (first : run.Completes m post)
    (second : run.Completes m other) : run.Completes m fun a after => post a after ∧ other a after := by
  obtain ⟨a, after, ran, holds⟩ := first
  exact ran.completes ⟨holds, ran.completes_iff.mp second⟩

def Run.GoesThrough (run : Run α) (m : Memory) : Prop := run.Completes m fun _ _ => True

theorem Run.Completes.goesThrough {run : Run α} (completes : run.Completes m post) : run.GoesThrough m :=
  completes.imp fun _ _ _ => trivial

theorem not_goesThrough_fail {kind : ErrorKind} : ¬ (fail kind : Run α).GoesThrough m := by
  rintro ⟨_, _, ran, _⟩
  exact yields_fail ran

@[simp] theorem completes_pure {a : α} : (pure a : Run α).Completes m post ↔ post a m := by
  simp [Completes]

@[simp] theorem completes_bind {run : Run β} {next : β → Run α} :
    (run >>= next).Completes m post ↔ run.Completes m fun b between => (next b).Completes between post := by
  simp only [Completes, yields_bind]
  constructor
  · rintro ⟨a, after, ⟨b, between, ran, later⟩, holds⟩
    exact ⟨b, between, ran, a, after, later, holds⟩
  · rintro ⟨b, between, ran, a, after, later, holds⟩
    exact ⟨a, after, ⟨b, between, ran, later⟩, holds⟩

@[simp] theorem completes_map {run : Run β} {f : β → α} :
    (f <$> run).Completes m post ↔ run.Completes m fun b after => post (f b) after := by
  rw [map_eq_pure_bind, completes_bind]
  simp only [completes_pure]

@[simp] theorem completes_onLine {line : Nat} {run : Run α} :
    (Program.onLine line run).Completes m post ↔ run.Completes m post := by
  simp only [Completes, yields_onLine]

@[simp] theorem completes_discard {run : Run β} {post : PUnit → Memory → Prop} :
    (discard run).Completes m post ↔ run.Completes m fun _ after => post ⟨⟩ after := by
  have same : discard run = (fun _ => PUnit.unit) <$> run := rfl
  rw [same, completes_map]

@[simp] theorem completes_read {post : List Cell → Memory → Prop} :
    (read view).Completes m post ↔ post (m.contents view) m := by
  simp [Completes]

/-! ### Cells -/

theorem writeCells_complete (b : Nat) (pairs : List (Int × Cell)) (m : Memory) :
    ∃ after, (pairs.forM fun (place, cell) => writeCell b place cell).Yields m ⟨⟩ after := by
  induction pairs generalizing m with
  | nil => exact ⟨m, by simp⟩
  | cons pair rest ih =>
    obtain ⟨between, first⟩ : ∃ between, (writeCell b pair.1 pair.2).Yields m ⟨⟩ between :=
      ⟨_, yields_modify.mpr rfl⟩
    obtain ⟨after, later⟩ := ih between
    refine ⟨after, ?_⟩
    simp only [List.forM_eq_forM, List.forM_cons, yields_bind] at later ⊢
    exact ⟨⟨⟩, between, first, later⟩

theorem write_completes (placed : view.Placed m) (count : cells.length = view.size) :
    (Run.write view cells).Completes m fun _ after =>
      m.Changes ∅ {spot | spot ∈ view.spots} after ∧ after.contents view = cells := by
  obtain ⟨after, ran⟩ := writeCells_complete view.buffer (view.layout.addresses.zip cells) m
  exact Yields.completes ran (write_yields placed count ran)

theorem newView_completes (dtype : DType) {layout : Layout} {cells : List Cell} (fills : layout.Fills)
    (count : cells.length = layout.size) : (newView dtype layout cells).Completes m fun view after =>
      view = ⟨m.buffers.size, layout, dtype, true⟩ ∧ view.Placed after ∧ m.Grows after ∧
        after.contents view = cells := by
  have made : ∃ view after, (newView dtype layout cells).Yields m view after := by
    obtain ⟨after, written⟩ := writeCells_complete m.buffers.size (layout.addresses.zip cells)
      { m with buffers := m.buffers.push (Array.replicate layout.size default) }
    refine ⟨⟨m.buffers.size, layout, dtype, true⟩, after, ?_⟩
    simp only [newView, yields_bind, yields_get, yields_set, yields_pure]
    exact ⟨_, _, ⟨rfl, rfl⟩, ⟨⟩, _, rfl, _, _, written, rfl, rfl⟩
  obtain ⟨view, after, ran⟩ := made
  exact ran.completes (newView_yields fills count ran)

/-! ### Objects -/

theorem allocate_completes (object : Object) (m : Memory) : (Run.allocate object).Completes m fun number after =>
    m.Grows after ∧ number = m.objects.size ∧ number < after.objects.size := by
  obtain ⟨number, after, ran⟩ : ∃ number after, (Run.allocate object).Yields m number after := by
    refine ⟨m.objects.size, { m with objects := m.objects.push object }, ?_⟩
    simp only [Run.allocate, yields_bind, yields_get, yields_set, yields_pure]
    exact ⟨_, _, ⟨rfl, rfl⟩, ⟨⟩, _, rfl, rfl, rfl⟩
  exact ran.completes (allocate_yields ran)

theorem arrayOf_completes (view : View) (m : Memory) : (arrayOf view).Completes m fun v after =>
    m.Grows after ∧ v = .array m.objects.size view ∧ m.objects.size < after.objects.size := by
  obtain ⟨number, after, fresh, _⟩ := allocate_completes _ m
  have ran : (arrayOf view).Yields m (.array number view) after := by
    simp only [arrayOf, freshId, yields_bind, yields_pure]
    exact ⟨_, _, fresh, rfl, rfl⟩
  exact ran.completes (arrayOf_yields ran)

theorem newArray_completes (dtype : DType) {layout : Layout} {cells : List Cell} (fills : layout.Fills)
    (count : cells.length = layout.size) : (newArray dtype layout cells).Completes m fun v after =>
      ∃ number view, v = .array number view ∧ number < after.objects.size ∧
        view = ⟨m.buffers.size, layout, dtype, true⟩ ∧ view.Placed after ∧ m.Grows after ∧
        after.contents view = cells := by
  obtain ⟨view, between, made, _⟩ := newView_completes (m := m) dtype fills count
  obtain ⟨number, after, fresh, _⟩ := allocate_completes _ between
  have ran : (newArray dtype layout cells).Yields m (.array number view) after := by
    simp only [newArray, freshId, yields_bind, yields_pure]
    exact ⟨_, _, made, _, _, fresh, rfl, rfl⟩
  exact ran.completes (newArray_yields fills count ran)

end
end Rebind
