import Rebind.Proofs.Cells
/-!
What a run may change. Memory is made of parts: variables, attributes, cells of buffers, entries of stores,
and the contents of lists, byte arrays and matrices. A run alters no other parts than those of a given set,
or it only adds to what is there. Either is said of runs as they come, whether they go through or fail, and
put together from their steps.
-/
namespace Rebind

open Strided

/-- A part of memory that can change by itself. -/
inductive Part where
  /-- A variable of the module. -/
  | global (name : String)
  /-- A variable of a scope or an attribute, by the number of what holds it. -/
  | member (id : Nat) (name : String)
  /-- A place in a buffer. -/
  | cell (buffer place : Nat)
  /-- A place in the store of sparse matrices. -/
  | entry (store place : Nat)
  /-- The items of a list or byte array, or where a matrix keeps its entries. -/
  | content (id : Nat)

/-- Whether the part belongs to something that memory holds already. -/
def Part.In (m : Memory) : Part → Prop
  | .global _ => True
  | .member id _ | .entry id _ | .content id => id < m.objects.size
  | .cell buffer _ => buffer < m.buffers.size

/-- What a function does, apart from how it is described. -/
def Function.code (f : Function) : Function :=
  { f with name := "", qualname := "", defaults := [], keywordDefaults := [], doc := .null, attrs := [] }

/-- An object that differs from what it was in the given parts at most. -/
inductive Object.Alters (parts : Set Part) (id : Nat) : Object → Object → Prop
  | same (o : Object) : Alters parts id o o
  | items (inside : .content id ∈ parts) (items others : List Value) : Alters parts id (.list items) (.list others)
  | bytes (inside : .content id ∈ parts) (content others : List UInt8) :
    Alters parts id (.bytes content) (.bytes others)
  | placement (inside : .content id ∈ parts) (s : SparseObject) (store : Nat) (slots : List Nat) :
    Alters parts id (.sparse s) (.sparse { s with store := store, slots := slots })
  | entries (content others : Array (Option Cell)) (size : others.size = content.size)
    (kept : ∀ place, .entry id place ∉ parts → others[place]? = content[place]?) :
    Alters parts id (.entries content) (.entries others)
  | attributes (type : Option Nat) (attrs others : List (String × Value))
    (kept : ∀ name, .member id name ∉ parts → others.lookup name = attrs.lookup name) :
    Alters parts id (.record type attrs) (.record type others)
  | ofClass (c : Class) (others : List (String × Value))
    (kept : ∀ name, .member id name ∉ parts → others.lookup name = c.attrs.lookup name) :
    Alters parts id (.classType c) (.classType { c with attrs := others })
  | ofScope (s : Scope) (others : List (String × Value))
    (kept : ∀ name, .member id name ∉ parts → others.lookup name = s.vars.lookup name) :
    Alters parts id (.scope s) (.scope { s with vars := others })
  | ofFunction (f g : Function) (code : g.code = f.code)
    (kept : ∀ name, .member id name ∉ parts → g.attr? name = f.attr? name)
    (defaults : .member id "__kwdefaults__" ∉ parts → g.keywordDefaults = f.keywordDefaults) :
    Alters parts id (.function f) (.function g)

/-- A memory that differs from an earlier one in the given parts at most, apart from what is new. -/
structure Memory.Alters (parts : Set Part) (m after : Memory) : Prop extends
    m.Changes {name | .global name ∈ parts} {spot | .cell spot.1 spot.2 ∈ parts} after where
  held : ∀ (id : Nat) (o : Object), m.objects[id]? = some o → ∃ other, after.objects[id]? = some other ∧ o.Alters parts id other

/-- A memory that holds all that an earlier one held, as it was, and maybe more. -/
structure Memory.Extends (m after : Memory) : Prop extends m.Changes ∅ ∅ after where
  held : ∀ (id : Nat) (o : Object), m.objects[id]? = some o → after.objects[id]? = some o

section
variable {parts more : Set Part} {m between after : Memory} {id : Nat} {o other last : Object}

theorem Object.Alters.mono (alters : o.Alters parts id other) (wider : ∀ part ∈ parts, part.In m → part ∈ more)
    (old : id < m.objects.size) : o.Alters more id other := by
  cases alters with
  | same => exact .same o
  | items inside items others => exact .items (wider _ inside old) items others
  | bytes inside content others => exact .bytes (wider _ inside old) content others
  | placement inside s store slots => exact .placement (wider _ inside old) s store slots
  | entries content others size kept =>
    exact .entries content others size fun place outside => kept place fun inside => outside (wider _ inside old)
  | attributes type attrs others kept =>
    exact .attributes type attrs others fun name outside => kept name fun inside => outside (wider _ inside old)
  | ofClass c others kept => exact .ofClass c others fun name outside => kept name fun inside => outside (wider _ inside old)
  | ofScope s others kept => exact .ofScope s others fun name outside => kept name fun inside => outside (wider _ inside old)
  | ofFunction f g code kept defaults =>
    exact .ofFunction f g code (fun name outside => kept name fun inside => outside (wider _ inside old))
      fun outside => defaults fun inside => outside (wider _ inside old)

theorem Object.Alters.trans (first : o.Alters parts id other) (second : other.Alters parts id last) :
    o.Alters parts id last := by
  cases first with
  | same => exact second
  | items inside items others =>
    cases second with
    | same | items _ _ others => exact .items inside items others
  | bytes inside content others =>
    cases second with
    | same | bytes _ _ others => exact .bytes inside content others
  | placement inside s store slots =>
    cases second with
    | same | placement _ _ store slots => exact .placement inside s store slots
  | entries content others size kept =>
    cases second with
    | same => exact .entries content others size kept
    | entries _ others size' kept' =>
      exact .entries content others (size'.trans size) fun place outside =>
        (kept' place outside).trans (kept place outside)
  | attributes type attrs others kept =>
    cases second with
    | same => exact .attributes type attrs others kept
    | attributes _ _ others kept' =>
      exact .attributes type attrs others fun name outside => (kept' name outside).trans (kept name outside)
  | ofClass c others kept =>
    cases second with
    | same => exact .ofClass c others kept
    | ofClass _ others kept' => exact .ofClass c others fun name outside => (kept' name outside).trans (kept name outside)
  | ofScope s others kept =>
    cases second with
    | same => exact .ofScope s others kept
    | ofScope _ others kept' => exact .ofScope s others fun name outside => (kept' name outside).trans (kept name outside)
  | ofFunction f g code kept defaults =>
    cases second with
    | same => exact .ofFunction f g code kept defaults
    | ofFunction _ h code' kept' defaults' =>
      exact .ofFunction f h (code'.trans code) (fun name outside => (kept' name outside).trans (kept name outside))
        fun outside => (defaults' outside).trans (defaults outside)

/-! ### Memories -/

theorem Memory.Extends.refl (m : Memory) : m.Extends m := ⟨.refl _ _ _, fun _ _ found => found⟩

theorem Memory.Extends.trans (first : m.Extends between) (second : between.Extends after) : m.Extends after :=
  ⟨first.toChanges.trans second.toChanges, fun id o found => second.held id o (first.held id o found)⟩

theorem Memory.Extends.alters (extends_ : m.Extends after) (parts : Set Part) : m.Alters parts after :=
  ⟨extends_.toChanges.widened _ _, fun id o found => ⟨o, extends_.held id o found, .same o⟩⟩

theorem Memory.Alters.refl (parts : Set Part) (m : Memory) : m.Alters parts m := (Memory.Extends.refl m).alters parts

theorem Memory.Alters.narrow (alters : m.Alters parts after) (inside : ∀ part ∈ parts, part.In m → part ∈ more) :
    m.Alters more after where
  toChanges := (alters.toChanges.mono (fun _ member => inside _ member trivial) subset_rfl).narrow
    fun _ member old => inside _ member old
  held id o found := by
    obtain ⟨other, there, altered⟩ := alters.held id o found
    exact ⟨other, there, altered.mono inside (Array.getElem?_eq_some_iff.mp found).1⟩

theorem Memory.Alters.mono (alters : m.Alters parts after) (wider : parts ⊆ more) : m.Alters more after :=
  alters.narrow fun _ member _ => wider member

theorem Memory.Alters.trans (first : m.Alters parts between) (second : between.Alters parts after) :
    m.Alters parts after where
  toChanges := first.toChanges.trans second.toChanges
  held id o found := by
    obtain ⟨other, there, altered⟩ := first.held id o found
    obtain ⟨last, later, again⟩ := second.held id other there
    exact ⟨last, later, altered.trans again⟩

end

/-! ### Runs -/

/-- How the memory that a run leaves behind, going through or failing, is related to the one it met. -/
def Run.Leaves (rel : Memory → Memory → Prop) (run : Run α) : Prop := ∀ m, rel m (run.run.run m).run.2

abbrev Run.Adds (run : Run α) : Prop := run.Leaves Memory.Extends

instance : Std.Refl Memory.Extends := ⟨Memory.Extends.refl⟩

instance : Trans Memory.Extends Memory.Extends Memory.Extends := ⟨Memory.Extends.trans⟩

section
variable {rel : Memory → Memory → Prop} {m between after : Memory} {run : Run α}

theorem Run.Leaves.yields (leaves : run.Leaves rel) (ran : run.Yields m a after) : rel m after := by
  have left := leaves m
  rwa [ran] at left

theorem Run.Leaves.imp {other : Memory → Memory → Prop} (leaves : run.Leaves rel)
    (wider : ∀ m after, rel m after → other m after) : run.Leaves other :=
  fun m => wider m _ (leaves m)

section
variable [Std.Refl rel]

@[simp, grind ←] theorem leaves_pure (a : α) : (pure a : Run α).Leaves rel := fun m => Std.Refl.refl m

@[simp, grind ←] theorem leaves_throw (fault : Fault) : (throw fault : Run α).Leaves rel := fun m => Std.Refl.refl m

@[simp, grind ←] theorem leaves_fail (kind : ErrorKind) : (Run.fail kind : Run α).Leaves rel := leaves_throw _

@[simp, grind ←] theorem leaves_ofExcept (result : Except Fault α) : (Run.ofExcept result).Leaves rel := by
  cases result with
  | ok a => exact leaves_pure a
  | error fault => exact leaves_throw fault

@[simp, grind ←] theorem leaves_get : (get : Run Memory).Leaves rel := fun m => Std.Refl.refl m

end

section
variable [Trans rel rel rel]

theorem Run.Leaves.then_ {next : α → Run β} (first : run.Leaves rel)
    (second : ∀ m a between, run.Yields m a between → rel between ((next a).run.run between).run.2) :
    (run >>= next).Leaves rel := by
  intro m
  have left := first m
  have goes := second m
  simp only [Run.Yields] at goes
  simp only [ExceptT.run_bind, StateT.run_bind, Id.run_bind]
  rcases ran : (run.run.run m).run with ⟨_ | a, between⟩
  · simpa [ran] using left
  · rw [ran] at left
    exact Trans.trans left (goes a between ran)

@[grind ←] theorem Run.Leaves.bind {next : α → Run β} (first : run.Leaves rel) (second : ∀ a, (next a).Leaves rel) :
    (run >>= next).Leaves rel :=
  first.then_ fun _ a between _ => second a between

theorem Run.Leaves.given {next : α → Run β} {good : α → Prop} (first : run.Leaves rel)
    (gives : ∀ m a after, run.Yields m a after → good a) (second : ∀ a, good a → (next a).Leaves rel) :
    (run >>= next).Leaves rel :=
  first.then_ fun m a between ran => second a (gives m a between ran) between

theorem Run.Leaves.tryCatch {handle : Fault → Run α} (first : run.Leaves rel)
    (second : ∀ fault, (handle fault).Leaves rel) : (MonadExcept.tryCatch run handle).Leaves rel := by
  intro m
  have left := first m
  change rel m (StateT.run (ExceptT.tryCatch run handle).run m).run.2
  rw [ExceptT.tryCatch, ExceptT.run_mk, StateT.run_bind, Id.run_bind]
  have same : run.run.run m = StateT.run run m := rfl
  rw [same] at left
  rcases ran : (StateT.run run m).run with ⟨fault | a, between⟩
  · rw [ran] at left
    exact Trans.trans left (second fault between)
  · rwa [ran] at left

variable [Std.Refl rel]

@[grind ←] theorem leaves_mapM {f : α → Run β} (items : List α) (each : ∀ item ∈ items, (f item).Leaves rel) :
    (items.mapM f).Leaves rel := by
  induction items with
  | nil => simp
  | cons item rest ih =>
    rw [List.mapM_cons]
    refine (each item (by simp)).bind fun b => ?_
    exact (ih fun other member => each other (by simp [member])).bind fun bs => leaves_pure _

@[grind ←] theorem leaves_allM {p : α → Run Bool} (items : List α) (each : ∀ item ∈ items, (p item).Leaves rel) :
    (items.allM p).Leaves rel := by
  induction items with
  | nil => exact leaves_pure _
  | cons item rest ih =>
    refine (each item (by simp)).bind fun holds => ?_
    cases holds with
    | true => exact ih fun other member => each other (by simp [member])
    | false => exact leaves_pure _

@[grind ←] theorem leaves_forM {f : α → Run PUnit} (items : List α) (each : ∀ item ∈ items, (f item).Leaves rel) :
    (items.forM f).Leaves rel := by
  induction items with
  | nil => simp
  | cons item rest ih =>
    rw [List.forM_eq_forM, List.forM_cons]
    exact (each item (by simp)).bind fun _ => ih fun other member => each other (by simp [member])

@[grind ←] theorem leaves_foldlM {f : β → α → Run β} (items : List α) (start : β)
    (each : ∀ b, ∀ item ∈ items, (f b item).Leaves rel) : (items.foldlM f start).Leaves rel := by
  induction items generalizing start with
  | nil => simp
  | cons item rest ih =>
    rw [List.foldlM_cons]
    exact (each start item (by simp)).bind fun b => ih b fun c other member => each c other (by simp [member])

end

theorem leaves_ite {c : Prop} [Decidable c] {first second : Run α} :
    (if c then first else second).Leaves rel ↔ (c → first.Leaves rel) ∧ (¬ c → second.Leaves rel) := by
  by_cases h : c <;> simp [h]

theorem leaves_guard [Std.Refl rel] [Trans rel rel rel] {refused : Prop} [Decidable refused] {kind : ErrorKind}
    (leaves : run.Leaves rel) : (if refused then Run.fail kind >>= fun (_ : PUnit) => run else run).Leaves rel :=
  leaves_ite.mpr ⟨fun _ => .bind (leaves_fail kind) fun _ => leaves, fun _ => leaves⟩

end

/-! ### Reading memory and adding to it -/

namespace Run

@[grind ←] theorem object_adds (id : Nat) : (object id).Adds := .bind leaves_get fun _ => leaves_pure _

@[grind ←] theorem listItems_adds (id : Nat) : (listItems id).Adds :=
  .bind (object_adds id) fun o => by split <;> exact leaves_pure _

@[grind ←] theorem byteContent_adds (id : Nat) : (byteContent id).Adds :=
  .bind (object_adds id) fun o => by split <;> exact leaves_pure _

@[grind ←] theorem entries_adds (id : Nat) : (entries id).Adds :=
  .bind (object_adds id) fun o => by split <;> exact leaves_pure _

@[grind ←] theorem sparseObject_adds (id : Nat) : (sparseObject id).Adds :=
  .bind (object_adds id) fun o => by split <;> exact leaves_pure _

@[grind ←] theorem sparseContent_adds (id : Nat) : (sparseContent id).Adds :=
  .bind (sparseObject_adds id) fun s => .bind (entries_adds s.store) fun _ => leaves_pure _

@[grind ←] theorem read_adds (view : View) : (read view).Adds :=
  .bind (.bind leaves_get fun _ => leaves_pure _) fun _ => leaves_pure _

@[grind ←] theorem allocate_adds (object : Object) : (allocate object).Adds := by
  intro m
  refine ⟨⟨fun _ _ => rfl, rfl, ?_, Nat.le_refl _, fun _ _ => rfl, fun _ _ _ => rfl⟩, fun id o found => ?_⟩
  · change m.objects.size ≤ (m.objects.push object).size
    simp
  · change (m.objects.push object)[id]? = some o
    have old := (Array.getElem?_eq_some_iff.mp found).1
    rw [Array.getElem?_push, if_neg old.ne, found]

@[grind ←] theorem freshId_adds : freshId.Adds := allocate_adds .token

@[grind ←] theorem hold_adds (v : Value) : (hold v).Adds :=
  leaves_ite.mpr ⟨fun _ => .bind freshId_adds fun _ => leaves_pure _, fun _ => leaves_pure v⟩

@[grind ←] theorem newList_adds (items : List Value) : (newList items).Adds :=
  .bind (allocate_adds _) fun _ => leaves_pure _

@[grind ←] theorem newStore_adds (content : List (Option Cell)) : (newStore content).Adds :=
  .bind (allocate_adds _) fun _ => leaves_pure _

@[grind ←] theorem newSparse_adds (s : Sparse) : (newSparse s).Adds :=
  .bind (newStore_adds _) fun _ => .bind (allocate_adds _) fun _ => leaves_pure _

@[grind ←] theorem arrayOf_adds (view : View) : (arrayOf view).Adds := .bind freshId_adds fun _ => leaves_pure _

@[grind ←] theorem boxOf_adds (view : View) (foreign : Bool) : (boxOf view foreign).Adds :=
  .bind freshId_adds fun _ => leaves_pure _

end Run

/-! ### Writing cells -/

/-- A memory in which cells at the given spots may have been overwritten, and nothing else is different. -/
structure Memory.Writes (spots : Set (Nat × Nat)) (m after : Memory) : Prop extends m.Changes ∅ spots after where
  untouched : after.objects = m.objects

instance (spots : Set (Nat × Nat)) : Std.Refl (Memory.Writes spots) := ⟨fun m => ⟨.refl _ _ m, rfl⟩⟩

instance (spots : Set (Nat × Nat)) : Trans (Memory.Writes spots) (Memory.Writes spots) (Memory.Writes spots) :=
  ⟨fun first second => ⟨first.toChanges.trans second.toChanges, second.untouched.trans first.untouched⟩⟩

instance (parts : Set Part) : Std.Refl (Memory.Alters parts) := ⟨Memory.Alters.refl parts⟩

instance (parts : Set Part) : Trans (Memory.Alters parts) (Memory.Alters parts) (Memory.Alters parts) :=
  ⟨Memory.Alters.trans⟩

def View.parts (view : View) : Set Part := {part | ∃ spot ∈ view.spots, part = .cell spot.1 spot.2}

theorem Memory.Writes.alters {spots : Set (Nat × Nat)} {parts : Set Part} {m after : Memory}
    (writes : m.Writes spots after) (inside : ∀ spot ∈ spots, .cell spot.1 spot.2 ∈ parts) : m.Alters parts after where
  toChanges := writes.toChanges.mono (Set.empty_subset _) inside
  held _ o found := ⟨o, by rw [writes.untouched, found], .same o⟩

namespace Run

theorem Leaves.alters {run : Run α} (adds : run.Adds) (parts : Set Part) : run.Leaves (Memory.Alters parts) :=
  adds.imp fun _ _ extends_ => extends_.alters parts

theorem writeCell_writes (buffer : Nat) (place : Int) (cell : Cell) :
    (writeCell buffer place cell).Leaves (Memory.Writes {(buffer, place.toNat)}) :=
  fun _ => ⟨writeCell_changes rfl, rfl⟩

theorem write_writes (view : View) (cells : List Cell) :
    (write view cells).Leaves (Memory.Writes {spot | spot ∈ view.spots}) := by
  refine leaves_forM _ fun ⟨place, cell⟩ member => (writeCell_writes view.buffer place cell).imp fun m after writes => ?_
  refine ⟨writes.toChanges.mono subset_rfl ?_, writes.untouched⟩
  rintro _ rfl
  exact List.mem_map.mpr ⟨place, (List.of_mem_zip member).1, rfl⟩

@[grind ←] theorem newView_adds (dtype : DType) (layout : Layout) (cells : List Cell) : (newView dtype layout cells).Adds := by
  intro m
  let view : View := ⟨m.buffers.size, layout, dtype, true⟩
  let pushed : Memory := { m with buffers := m.buffers.push (Array.replicate layout.size default) }
  have written : pushed.Writes {spot | spot ∈ view.spots} ((newView dtype layout cells).run.run m).run.2 :=
    (write_writes view cells).bind (fun _ => leaves_pure view) pushed
  refine ⟨Memory.Changes.grows (((push_grows m _).widened ∅ _).trans written.toChanges) ?_, ?_⟩
  · intro spot member
    exact (View.mem_spots_buffer member).ge
  · intro id o found
    rw [written.untouched, found]

@[grind ←] theorem newArray_adds (dtype : DType) (layout : Layout) (cells : List Cell) : (newArray dtype layout cells).Adds :=
  .bind (newView_adds dtype layout cells) fun _ => .bind freshId_adds fun _ => leaves_pure _

end Run
end Rebind
