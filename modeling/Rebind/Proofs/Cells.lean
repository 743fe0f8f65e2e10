import Mathlib.Data.Set.Insert
import Rebind.Proofs.Places
import Rebind.Proofs.Success
/-!
Cells in memory. A view looks at its spots, each a place in a buffer. What a step may change is said by a
set of spots: all others keep their cells, and new buffers only come after the old ones.
-/
namespace Rebind

open Strided

def Memory.cell (m : Memory) (spot : Nat × Nat) : Cell :=
  (m.buffers.getD spot.1 #[]).getD spot.2 default

/-- Where the cells of a view lie, in order. -/
def View.spots (view : View) : List (Nat × Nat) :=
  view.layout.addresses.map fun place => (view.buffer, place.toNat)

def Memory.contents (m : Memory) (view : View) : List Cell := view.spots.map m.cell

/-- All elements of a view lie inside its buffer, no two of them in one cell. -/
structure View.Placed (view : View) (m : Memory) : Prop where
  buffer : view.buffer < m.buffers.size
  bounds : ∀ place ∈ view.layout.addresses, 0 ≤ place ∧ place.toNat < (m.buffers.getD view.buffer #[]).size
  distinct : view.layout.addresses.Nodup

/-- A step that binds no other variables than the given ones and changes no cell outside the given spots. -/
structure Memory.Changes (names : Set String) (spots : Set (Nat × Nat)) (m after : Memory) : Prop where
  globals : ∀ name ∉ names, after.globals.lookup name = m.globals.lookup name
  prelude : after.prelude = m.prelude
  objects : m.objects.size ≤ after.objects.size
  buffers : m.buffers.size ≤ after.buffers.size
  lengths : ∀ b < m.buffers.size, (after.buffers.getD b #[]).size = (m.buffers.getD b #[]).size
  kept : ∀ spot, spot.1 < m.buffers.size → spot ∉ spots → after.cell spot = m.cell spot

abbrev Memory.Grows (m after : Memory) : Prop := m.Changes ∅ ∅ after

section
variable {m between after : Memory} {view : View} {names others : Set String} {spots more : Set (Nat × Nat)}

theorem Memory.Changes.refl (names : Set String) (spots : Set (Nat × Nat)) (m : Memory) : m.Changes names spots m :=
  ⟨fun _ _ => rfl, rfl, Nat.le_refl _, Nat.le_refl _, fun _ _ => rfl, fun _ _ _ => rfl⟩

theorem Memory.Changes.mono (changes : m.Changes names spots after) (further : names ⊆ others) (wider : spots ⊆ more) :
    m.Changes others more after :=
  { changes with
    globals := fun name outside => changes.globals name fun inside => outside (further inside)
    kept := fun spot old outside => changes.kept spot old fun inside => outside (wider inside) }

theorem Memory.Changes.trans (first : m.Changes names spots between)
    (second : between.Changes names spots after) : m.Changes names spots after where
  globals name outside := (second.globals name outside).trans (first.globals name outside)
  prelude := second.prelude.trans first.prelude
  objects := first.objects.trans second.objects
  buffers := first.buffers.trans second.buffers
  lengths b old := (second.lengths b (old.trans_le first.buffers)).trans (first.lengths b old)
  kept spot old outside :=
    (second.kept spot (old.trans_le first.buffers) outside).trans (first.kept spot old outside)

theorem Memory.Changes.widened (grows : m.Grows after) (names : Set String) (spots : Set (Nat × Nat)) :
    m.Changes names spots after :=
  grows.mono (Set.empty_subset names) (Set.empty_subset spots)

theorem Memory.Changes.narrow (changes : m.Changes names spots after)
    (inside : ∀ spot ∈ spots, spot.1 < m.buffers.size → spot ∈ more) : m.Changes names more after :=
  { changes with
    kept := fun spot old outside => changes.kept spot old fun member => outside (inside spot member old) }

theorem Memory.Changes.grows (changes : m.Changes ∅ spots after) (new : ∀ spot ∈ spots, m.buffers.size ≤ spot.1) :
    m.Grows after :=
  changes.narrow fun spot member old => absurd (new spot member) (Nat.not_le.mpr old)

theorem View.Placed.later (placed : view.Placed m) (changes : m.Changes names spots after) :
    view.Placed after where
  buffer := placed.buffer.trans_le changes.buffers
  bounds place member := by
    rw [changes.lengths _ placed.buffer]
    exact placed.bounds place member
  distinct := placed.distinct

theorem View.Placed.spots_nodup (placed : view.Placed m) : view.spots.Nodup := by
  refine List.Nodup.map_on ?_ placed.distinct
  intro place member other otherMember same
  have first := (placed.bounds place member).1
  have second := (placed.bounds other otherMember).1
  simp only [Prod.mk.injEq, true_and] at same
  omega

theorem View.mem_spots_buffer (member : spot ∈ view.spots) : spot.1 = view.buffer := by
  obtain ⟨place, _, rfl⟩ := List.mem_map.mp member
  rfl

@[simp] theorem View.length_spots (view : View) : view.spots.length = view.size := by
  simp [View.spots, View.size]

@[simp] theorem length_contents (m : Memory) (view : View) : (m.contents view).length = view.size := by
  simp [Memory.contents]

theorem Memory.Changes.shows (changes : m.Changes names spots after) (old : view.buffer < m.buffers.size)
    (outside : ∀ spot ∈ view.spots, spot ∉ spots) : after.contents view = m.contents view := by
  refine List.map_congr_left fun spot member => changes.kept spot ?_ (outside spot member)
  rwa [View.mem_spots_buffer member]

theorem Memory.Changes.contents (changes : m.Changes names spots after) (placed : view.Placed m)
    (outside : ∀ spot ∈ view.spots, spot ∉ spots) : after.contents view = m.contents view :=
  changes.shows placed.buffer outside

@[simp] theorem yields_read : (Run.read view).Yields m cells after ↔ m.contents view = cells ∧ m = after := by
  simp [Run.read, Run.buffer, Memory.contents, View.spots, Memory.cell, Function.comp_def, and_comm]

/-! ### Writing -/

theorem getD_modify_self (buffers : Array (Array Cell)) (f : Array Cell → Array Cell) (old : b < buffers.size) :
    (buffers.modify b f).getD b #[] = f (buffers.getD b #[]) := by
  simp [Array.getD, old, Array.getElem_modify]

theorem getD_modify_of_ne (buffers : Array (Array Cell)) (f : Array Cell → Array Cell) (different : b ≠ other) :
    (buffers.modify b f).getD other #[] = buffers.getD other #[] := by
  simp [Array.getD_eq_getD_getElem?, Array.getElem?_modify, different]

theorem writeCell_changes (ran : (Run.writeCell b place cell).Yields m u after) :
    m.Changes ∅ {(b, place.toNat)} after := by
  simp only [Run.writeCell, yields_modify] at ran
  subst ran
  refine ⟨fun _ _ => rfl, rfl, Nat.le_refl _, by simp, ?_, ?_⟩
  · intro other old
    by_cases same : b = other
    · subst same
      rw [getD_modify_self _ _ old, Array.size_setIfInBounds]
    · rw [getD_modify_of_ne _ _ same]
  · rintro ⟨other, place'⟩ old outside
    rw [Memory.cell, Memory.cell]
    by_cases same : b = other
    · subst same
      have different : place.toNat ≠ place' := fun equal => outside (equal ▸ rfl)
      rw [getD_modify_self _ _ old, Array.getD_eq_getD_getElem?, Array.getElem?_setIfInBounds_ne different,
        ← Array.getD_eq_getD_getElem?]
    · rw [getD_modify_of_ne _ _ same]

theorem writeCell_cell (ran : (Run.writeCell b place cell).Yields m u after) (old : b < m.buffers.size)
    (inside : place.toNat < (m.buffers.getD b #[]).size) : after.cell (b, place.toNat) = cell := by
  simp only [Run.writeCell, yields_modify] at ran
  subst ran
  rw [Memory.cell, getD_modify_self _ _ old, Array.getD_eq_getD_getElem?,
    Array.getElem?_setIfInBounds_self_of_lt inside, Option.getD_some]

theorem writeCells_yield (pairs : List (Int × Cell))
    (ran : (pairs.forM fun (place, cell) => Run.writeCell b place cell).Yields m u after) (old : b < m.buffers.size)
    (inside : ∀ pair ∈ pairs, pair.1.toNat < (m.buffers.getD b #[]).size)
    (distinct : (pairs.map fun pair => (b, pair.1.toNat)).Nodup) :
    m.Changes ∅ {spot | spot ∈ pairs.map fun pair => (b, pair.1.toNat)} after ∧
      ∀ pair ∈ pairs, after.cell (b, pair.1.toNat) = pair.2 := by
  induction pairs generalizing m with
  | nil =>
    simp only [List.forM_eq_forM, List.forM_nil, yields_pure] at ran
    obtain ⟨_, rfl⟩ := ran
    exact ⟨.refl _ _ _, by simp⟩
  | cons pair rest ih =>
    simp only [List.forM_eq_forM, List.forM_cons, yields_bind] at ran ih
    obtain ⟨_, between, first, later⟩ := ran
    rw [List.forall_mem_cons] at inside
    simp only [List.map_cons, List.nodup_cons] at distinct
    have changes := writeCell_changes first
    have written := writeCell_cell first old inside.1
    obtain ⟨restChanges, restWritten⟩ := ih later (old.trans_le changes.buffers)
      (fun other member => by rw [changes.lengths b old]; exact inside.2 other member) distinct.2
    refine ⟨?_, ?_⟩
    · refine (changes.mono subset_rfl ?_).trans (restChanges.mono subset_rfl ?_)
      · simp
      · intro spot member
        exact List.mem_cons_of_mem _ member
    · rw [List.forall_mem_cons]
      refine ⟨?_, restWritten⟩
      rw [restChanges.kept _ (old.trans_le changes.buffers) distinct.1, written]

theorem write_yields (placed : view.Placed m) (count : cells.length = view.size)
    (ran : (Run.write view cells).Yields m u after) :
    m.Changes ∅ {spot | spot ∈ view.spots} after ∧ after.contents view = cells := by
  have even : view.layout.addresses.length = cells.length := by rw [Layout.length_addresses, count, View.size]
  have spots : (view.layout.addresses.zip cells).map (fun pair => (view.buffer, pair.1.toNat)) = view.spots := by
    calc _ = ((view.layout.addresses.zip cells).map Prod.fst).map fun place => (view.buffer, place.toNat) :=
          List.map_map.symm
      _ = view.spots := by rw [List.map_fst_zip even.le, View.spots]
  obtain ⟨changes, written⟩ := writeCells_yield _ ran placed.buffer
    (fun pair member => (placed.bounds pair.1 (List.of_mem_zip member).1).2) (spots ▸ placed.spots_nodup)
  rw [spots] at changes
  refine ⟨changes, ?_⟩
  rw [Memory.contents, ← spots, List.map_map]
  calc _ = (view.layout.addresses.zip cells).map Prod.snd := List.map_congr_left written
    _ = cells := List.map_snd_zip even.ge

/-! ### New buffers -/

theorem allocate_yields (ran : (Run.allocate object).Yields m number after) :
    m.Grows after ∧ number = m.objects.size ∧ number < after.objects.size := by
  simp only [Run.allocate, yields_bind, yields_get, yields_set, yields_pure] at ran
  obtain ⟨_, _, ⟨rfl, rfl⟩, _, _, rfl, rfl, rfl⟩ := ran
  exact ⟨⟨fun _ _ => rfl, rfl, by simp, Nat.le_refl _, fun _ _ => rfl, fun _ _ _ => rfl⟩, rfl, by simp⟩

theorem arrayOf_yields (ran : (Run.arrayOf view).Yields m v after) :
    m.Grows after ∧ v = .array m.objects.size view ∧ m.objects.size < after.objects.size := by
  simp only [Run.arrayOf, Run.freshId, yields_bind, yields_pure] at ran
  obtain ⟨number, _, fresh, rfl, rfl⟩ := ran
  obtain ⟨grows, rfl, known⟩ := allocate_yields fresh
  exact ⟨grows, rfl, known⟩

theorem Value.bare_of_isMadeAnew (v : Value) (anew : v.isMadeAnew = true) : v.bare = v := by
  cases v with
  | held _ _ => cases anew
  | _ => rfl

theorem hold_yields (ran : (Run.hold v).Yields m w after) : m.Grows after ∧ w.bare = v.bare := by
  rw [Run.hold, yields_ite] at ran
  rcases ran with ⟨anew, ran⟩ | ⟨_, ran⟩
  · simp only [Run.freshId, yields_bind, yields_pure] at ran
    obtain ⟨_, _, fresh, rfl, rfl⟩ := ran
    exact ⟨(allocate_yields fresh).1, (Value.bare_of_isMadeAnew v anew).symm⟩
  · simp only [yields_pure] at ran
    obtain ⟨rfl, rfl⟩ := ran
    exact ⟨.refl _ _ _, rfl⟩

theorem push_grows (m : Memory) (cells : Array Cell) : m.Grows { m with buffers := m.buffers.push cells } where
  globals _ _ := rfl
  prelude := rfl
  objects := Nat.le_refl _
  buffers := by simp
  lengths b old := by simp [Array.getD_eq_getD_getElem?, Array.getElem?_push, old.ne]
  kept spot old _ := by simp [Memory.cell, Array.getD_eq_getD_getElem?, Array.getElem?_push, old.ne]

theorem newView_yields (fills : layout.Fills) (count : cells.length = layout.size)
    (ran : (Run.newView dtype layout cells).Yields m view after) :
    view = ⟨m.buffers.size, layout, dtype, true⟩ ∧ view.Placed after ∧ m.Grows after ∧
      after.contents view = cells := by
  simp only [Run.newView, yields_bind, yields_get, yields_set, yields_pure] at ran
  obtain ⟨_, _, ⟨rfl, rfl⟩, _, _, rfl, _, _, written, rfl, rfl⟩ := ran
  have grown := push_grows m (Array.replicate layout.size default)
  have placed : View.Placed ⟨m.buffers.size, layout, dtype, true⟩
      { m with buffers := m.buffers.push (Array.replicate layout.size default) } := by
    refine ⟨by simp, fun place member => ?_, fills.nodup⟩
    have bounds := fills.bounds member
    simp only [Array.getD_eq_getD_getElem?, Array.getElem?_push_size, Option.getD_some, Array.size_replicate]
    omega
  obtain ⟨changes, shown⟩ := write_yields placed count written
  refine ⟨rfl, placed.later changes, ((grown.widened _ _).trans changes).grows fun spot member => ?_, shown⟩
  rw [View.mem_spots_buffer member]

theorem newArray_yields (fills : layout.Fills) (count : cells.length = layout.size)
    (ran : (Run.newArray dtype layout cells).Yields m v after) :
    ∃ number view, v = .array number view ∧ number < after.objects.size ∧
      view = ⟨m.buffers.size, layout, dtype, true⟩ ∧ view.Placed after ∧ m.Grows after ∧
      after.contents view = cells := by
  simp only [Run.newArray, Run.freshId, yields_bind, yields_pure] at ran
  obtain ⟨view, between, made, number, last, fresh, rfl, rfl⟩ := ran
  obtain ⟨same, placed, grows, shown⟩ := newView_yields fills count made
  obtain ⟨later, _, known⟩ := allocate_yields fresh
  refine ⟨number, view, rfl, known, same, placed.later later, grows.trans later, ?_⟩
  rw [later.contents placed (by simp), shown]

end
end Rebind
