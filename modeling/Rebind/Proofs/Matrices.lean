import Rebind.Proofs.Computed
import Rebind.Proofs.Endings
/-!
Sparse matrices in memory. A matrix refers to a store and says where in it each of its places is kept. Writing
overwrites entries of the store, which others may have in common, or moves the matrix to a store of its own.
-/
namespace Rebind

open Number Strided Syntax Value Run

/-- The matrix is there, and so is its store. -/
structure Memory.Matrix (m : Memory) (k : Nat) (o : SparseObject) (content : Array (Option Cell)) : Prop where
  found : m.objects[k]? = some (.sparse o)
  stored : m.objects[o.store]? = some (.entries content)

def SparseObject.shown (o : SparseObject) (content : Array (Option Cell)) : Sparse :=
  ⟨o.format, o.isMatrix, o.dtype, o.shape, o.slots.map fun slot => content.getD slot none⟩

/-- Entries put into a store, each in its slot. -/
def filled (content : Array (Option Cell)) (slots : List Nat) (given : List (Option Cell)) : Array (Option Cell) :=
  (slots.zip given).foldl (fun held (slot, entry) => held.setIfInBounds slot entry) content

def Memory.withEntries (m : Memory) (store : Nat) (content : Array (Option Cell)) : Memory :=
  { m with objects := m.objects.setIfInBounds store (.entries content) }

/-- A matrix after it was given a store of its own. -/
def SparseObject.moved (o : SparseObject) (store : Nat) (given : List (Option Cell)) : SparseObject :=
  { o with store := store, slots := List.range given.length }

/-- The memory in which a matrix has a new store. -/
def Memory.withMoved (m : Memory) (k : Nat) (o : SparseObject) (given : List (Option Cell)) : Memory :=
  let objects := m.objects.push (.entries given.toArray)
  { m with objects := objects.setIfInBounds k (.sparse (o.moved m.objects.size given)) }

/-- The contents of arrays, matrices and lists, as against variables and attributes. -/
def Part.IsContent : Part → Prop
  | .global _ | .member _ _ => False
  | _ => True

/-- A matrix spread out, or another value as an array. -/
def Value.spreadOut : Value → Run Value
  | .sparse other => do (← sparseContent other).toArray
  | v => asArray v

/-- Writes an array, brought into shape, over all of a matrix. -/
def Value.writeOver (k : Nat) : Value → Run Value
  | .array _ view => do
    let shape := (← sparseContent k).shape
    let shaped ← reshapeView view shape
    if shape.length ≠ 2 then fail .index
    Sparse.assign k (← arrayOf shaped)
    return .sparse k
  | _ => fail .type

section
variable {m between after : Memory} {k : Nat} {o : SparseObject} {content : Array (Option Cell)}
  {given : List (Option Cell)}

/-! ### Reading -/

theorem object_found {held : Object} (found : m.objects[k]? = some held) : (Run.object k).Yields m held m := by
  simp [Run.object, Array.getD_eq_getD_getElem?, found]

theorem sparseObject_found (found : m.objects[k]? = some (.sparse o)) : (sparseObject k).Yields m o m := by
  rw [sparseObject, yields_bind]
  exact ⟨_, _, object_found found, yields_pure.mpr ⟨rfl, rfl⟩⟩

theorem entries_found (found : m.objects[k]? = some (.entries content)) : (Run.entries k).Yields m content m := by
  rw [Run.entries, yields_bind]
  exact ⟨_, _, object_found found, yields_pure.mpr ⟨rfl, rfl⟩⟩

theorem Memory.Matrix.reads (matrix : m.Matrix k o content) : (sparseContent k).Yields m (o.shown content) m := by
  simp only [sparseContent, yields_bind]
  exact ⟨_, _, sparseObject_found matrix.found, _, _, entries_found matrix.stored, yields_pure.mpr ⟨rfl, rfl⟩⟩

theorem assignSparseProduct_eq (k : Nat) (a b alpha beta : Value) : assignSparseProduct k a b alpha beta = (do
    let product ← scaledProduct a b alpha
    let total ← if ← differs beta 0 then Value.binary .add (← Value.binary .mult beta (.sparse k)) product
      else pure product
    writeOver k (← spreadOut total)) := by
  have same (total : Value) : (do
      let dense ← match total with
        | .sparse other => (← sparseContent other).toArray
        | product => asArray product
      match dense with
      | .array _ view =>
        let shape := (← sparseContent k).shape
        let shaped ← reshapeView view shape
        if shape.length ≠ 2 then fail .index
        Sparse.assign k (← arrayOf shaped)
        return Value.sparse k
      | _ => fail .type : Run Value) = spreadOut total >>= writeOver k := by
    cases total with
    | sparse other =>
      simp only [spreadOut, bind_assoc]
      refine congrArg _ (funext fun s => congrArg _ (funext fun dense => ?_))
      cases dense <;> rfl
    | _ =>
      simp only [spreadOut]
      refine congrArg _ (funext fun dense => ?_)
      cases dense <;> rfl
  rw [assignSparseProduct]
  refine congrArg _ (funext fun product => congrArg _ (funext fun scaled => ?_))
  cases scaled with
  | false => exact same product
  | true =>
    simp only [if_true]
    refine congrArg _ (funext fun kept => congrArg _ (funext fun total => ?_))
    exact same total

/-! ### Writing -/

theorem Memory.Matrix.writeEntries (matrix : m.Matrix k o content) (given : List (Option Cell)) :
    (Run.writeEntries k given).Yields m ⟨⟩ (m.withEntries o.store (filled content o.slots given)) := by
  simp only [Run.writeEntries, yields_bind]
  exact ⟨_, _, sparseObject_found matrix.found, _, _, entries_found matrix.stored, yields_modify.mpr rfl⟩

theorem replaceEntries_yields (found : m.objects[k]? = some (.sparse o)) (given : List (Option Cell)) :
    (replaceEntries k given).Yields m ⟨⟩ (m.withMoved k o given) := by
  simp only [replaceEntries, newStore, Run.allocate, yields_bind, yields_get, yields_set, yields_pure]
  exact ⟨_, _, sparseObject_found found, _, _,
    ⟨_, _, ⟨_, _, ⟨rfl, rfl⟩, ⟨⟩, _, rfl, rfl, rfl⟩, rfl, rfl⟩, yields_modify.mpr rfl⟩

theorem Memory.Matrix.apart (matrix : m.Matrix k o content) : o.store ≠ k := by
  intro same
  have stored := matrix.stored
  rw [same, matrix.found] at stored
  cases stored

theorem Memory.Matrix.overwritten (matrix : m.Matrix k o content) (others : Array (Option Cell)) :
    (m.withEntries o.store others).Matrix k o others where
  found := by
    rw [withEntries, Array.getElem?_setIfInBounds_ne matrix.apart, matrix.found]
  stored := by
    obtain ⟨inside, _⟩ := Array.getElem?_eq_some_iff.mp matrix.stored
    simp [withEntries, inside]

theorem moved_matrix (found : m.objects[k]? = some (.sparse o)) (given : List (Option Cell)) :
    (m.withMoved k o given).Matrix k (o.moved m.objects.size given) given.toArray := by
  obtain ⟨inside, _⟩ := Array.getElem?_eq_some_iff.mp found
  constructor
  · simp [Memory.withMoved, Nat.lt_succ_of_lt inside]
  · rw [Memory.withMoved, SparseObject.moved, Array.getElem?_setIfInBounds_ne inside.ne, Array.getElem?_push_size]

/-! ### What writing alters -/

theorem set_alters {parts : Set Part} {held new : Object} (found : m.objects[k]? = some held)
    (altered : held.Alters parts k new) : m.Alters parts { m with objects := m.objects.setIfInBounds k new } where
  globals _ _ := rfl
  prelude := rfl
  objects := by simp
  buffers := le_rfl
  lengths _ _ := rfl
  kept _ _ _ := rfl
  held i other there := by
    obtain ⟨inside, _⟩ := Array.getElem?_eq_some_iff.mp found
    by_cases same : k = i
    · subst same
      rw [found, Option.some.injEq] at there
      exact ⟨new, by simp [inside], there ▸ altered⟩
    · exact ⟨other, by rw [Array.getElem?_setIfInBounds_ne same, there], .same other⟩

theorem size_filled (content : Array (Option Cell)) (slots : List Nat) (given : List (Option Cell)) :
    (filled content slots given).size = content.size := by
  unfold filled
  induction slots.zip given generalizing content with
  | nil => rfl
  | cons pair rest ih => rw [List.foldl_cons, ih, Array.size_setIfInBounds]

theorem Memory.Matrix.overwritten_alters (matrix : m.Matrix k o content) (given : List (Option Cell)) :
    m.Alters {part | part.IsContent} (m.withEntries o.store (filled content o.slots given)) :=
  set_alters matrix.stored (.entries _ _ (size_filled _ _ _) fun _ outside => absurd trivial outside)

theorem moved_alters (found : m.objects[k]? = some (.sparse o)) (given : List (Option Cell)) :
    m.Alters {part | part.IsContent} (m.withMoved k o given) := by
  have pushed := Run.allocate_adds (.entries given.toArray) m
  have inside : .content k ∈ {part : Part | part.IsContent} := trivial
  exact (pushed.alters _).trans (set_alters (pushed.held k _ found) (.placement inside _ _ _))

theorem Memory.Matrix.write_alters (matrix : m.Matrix k o content) (given : List (Option Cell)) :
    (Sparse.write k given).Completes m fun _ after => m.Alters {part | part.IsContent} after := by
  have overwrites (given : List (Option Cell)) :
      (Run.writeEntries k given).Completes m fun _ after => m.Alters {part | part.IsContent} after :=
    (matrix.writeEntries given).completes (matrix.overwritten_alters given)
  have moves (given : List (Option Cell)) :
      (Run.replaceEntries k given).Completes m fun _ after => m.Alters {part | part.IsContent} after :=
    (replaceEntries_yields matrix.found given).completes (moved_alters matrix.found given)
  have compressed (settled joined : List (Option Cell)) (more : Bool) : (do
      Run.writeEntries k settled
      if more = true then Run.replaceEntries k joined : Run Unit).Completes m
        fun _ after => m.Alters {part | part.IsContent} after := by
    rw [completes_bind, (matrix.writeEntries settled).completes_iff]
    cases more with
    | false => exact completes_pure.mpr (matrix.overwritten_alters settled)
    | true =>
      have again := (matrix.overwritten (filled content o.slots settled)).found
      exact (replaceEntries_yields again joined).completes
        ((matrix.overwritten_alters settled).trans (moved_alters again joined))
  rw [Sparse.write, completes_bind, matrix.reads.completes_iff]
  dsimp only [SparseObject.shown]
  split
  · exact compressed _ _ _
  · exact compressed _ _ _
  · exact overwrites _
  · exact overwrites _
  · exact moves _

end
end Rebind
