import Rebind.Proofs.Targets
/-!
Settling a variable: what a replaced statement does as a whole. It binds no variable but the one it is about,
writes to no cell but that variable's, and leaves the variable with numbers that can be told beforehand.
-/
namespace Rebind

open Number Strided Syntax Program

def Memory.spotsOf (m : Memory) (x : String) : List (Nat × Nat) :=
  match (m.globals.lookup x).map Value.bare with
  | some (.array _ view) => view.spots
  | _ => []

def Memory.takesWrites (m : Memory) (x : String) : Bool :=
  (m.globals.lookup x).any fun v => v.bare.supportsIndexedAssignment

def Memory.Frozen (m : Memory) (names : List String) : Prop :=
  ∃ x ∈ names, ∃ v, m.globals.lookup x = some v ∧ v.bare.supportsIndexedAssignment = false

/-- What a variable is bound to in the end: a new array or what it was bound to before, unless some variable
is frozen. -/
def Value.Follows (m : Memory) (names : List String) (x : String) (v : Value) : Prop :=
  m.Frozen names ∨ v.bare.NewSince m ∨ ∃ old, m.globals.lookup x = some old ∧ old.bare = v.bare

/-- The variable ends up with the numbers, and apart from it only the other given names are bound. -/
structure Memory.Settles (m : Memory) (names : List String) (shape : Shape) (others : Set String) (x : String)
    (xs : List Int) (after : Memory) : Prop where
  changes : m.Changes (insert x others) {spot | spot ∈ m.spotsOf x} after
  bound : ∃ v, after.globals.lookup x = some v ∧ v.Keeps after shape xs ∧ v.Follows m names x

section
variable {m between after : Memory} {v w : Value} {view : View} {names : List String} {others : Set String}
  {numbers : String → List Int}

theorem Memory.spotsOf_bound (found : m.globals.lookup x = some v) (same : v.bare = .array number view) :
    m.spotsOf x = view.spots := by
  simp [Memory.spotsOf, found, same]

theorem Memory.spotsOf_array (found : m.globals.lookup x = some (.array number view)) : m.spotsOf x = view.spots :=
  Memory.spotsOf_bound found rfl

theorem Memory.spotsOf_eq (same : after.globals.lookup x = m.globals.lookup x) : after.spotsOf x = m.spotsOf x := by
  simp only [Memory.spotsOf, same]

theorem Memory.Frozen.earlier (frozen : between.Frozen names) (grows : m.Grows between) : m.Frozen names := by
  obtain ⟨x, member, v, found, cannot⟩ := frozen
  exact ⟨x, member, v, (grows.globals x (by simp)).symm.trans found, cannot⟩

theorem Memory.Settles.earlier (settles : between.Settles names shape others x xs after) (grows : m.Grows between) :
    m.Settles names shape others x xs after := by
  have same := grows.globals x (by simp)
  constructor
  · have changes := settles.changes
    rw [Memory.spotsOf_eq same] at changes
    exact (grows.widened _ _).trans changes
  · obtain ⟨v, found, keeps, follows⟩ := settles.bound
    refine ⟨v, found, keeps, ?_⟩
    rcases follows with frozen | new | ⟨old, before, held⟩
    · exact .inl (frozen.earlier grows)
    · exact .inr (.inl (new.earlier grows))
    · exact .inr (.inr ⟨old, same.symm.trans before, held⟩)

theorem Memory.Settles.mono (settles : m.Settles names shape others x xs after) {more : Set String}
    (further : others ⊆ more) : m.Settles names shape more x xs after :=
  ⟨settles.changes.mono (Set.insert_subset_insert further) subset_rfl, settles.bound⟩

/-! ### Targets of a memory that holds numbers -/

theorem isTarget_member (target : Update.isTarget names e = true) (root : Update.rootName? e = some x) : x ∈ names := by
  obtain ⟨y, member, same⟩ := isTarget_root e target
  rw [root] at same
  cases same
  exact member

theorem Memory.Holds.numeric (holds : m.Holds names shape numbers) (member : x ∈ names) :
    ∃ w, m.globals.lookup x = some w ∧ w.Keeps m shape (numbers x) ∧ w.bare.isNumeric = true := by
  obtain ⟨w, found, keeps⟩ := holds.kept x member
  exact ⟨w, found, keeps, keeps.carries.isNumeric⟩

theorem Memory.Holds.array (holds : m.Holds names shape numbers) (member : x ∈ names)
    (found : m.globals.lookup x = some (.array number view)) :
    number < m.objects.size ∧ view.Placed m ∧ Value.Carries m shape (numbers x) (.array number view) := by
  obtain ⟨w, found', keeps⟩ := holds.kept x member
  rw [found] at found'
  cases found'
  have carries : Value.Carries m shape (numbers x) (.array number view) := keeps.carries
  cases id carries with
  | array known placed _ _ _ _ => exact ⟨known, placed, carries⟩

theorem Value.Keeps.takes (keeps : v.Keeps m shape xs) (takes : v.bare.supportsIndexedAssignment = true) :
    ∃ number view, v = .array number view := by
  have carries := keeps.carries
  generalize same : v.bare = u at carries takes
  cases carries with
  | array _ _ _ _ _ _ => exact ⟨_, _, keeps.array same⟩
  | single _ _ _ => cases takes

theorem eval_face (holds : m.Holds names shape numbers) (e : Expr) (target : Update.isTarget names e = true)
    (root : Update.rootName? e = some x) (ran : (eval fuel none e).Yields m v after) : m.Grows after ∧
      v.Carries after (faceShape (Update.isTurned e) shape) (faceNumbers (Update.isTurned e) shape (numbers x)) ∧
      ∀ number view, m.globals.lookup x = some (.array number view) →
        ∃ k, v = .array k (view.faced (Update.isTurned e)) := by
  obtain ⟨w, found, keeps, numeric⟩ := holds.numeric (isTarget_member target root)
  obtain ⟨grows, seen⟩ := eval_target e target root found numeric ran
  refine ⟨grows, seen.carries (keeps.carries.grown grows), fun number view same => ?_⟩
  rw [found] at same
  cases same
  obtain ⟨k, faced, _⟩ := seen.faced
  exact ⟨k, faced⟩

/-- The value of a target as an argument, with what it tells about the variable of the target. -/
structure Value.Faces (m : Memory) (shape : Shape) (xs : List Int) (e : Expr) (x : String) (after : Memory)
    (v : Value) : Prop where
  grows : m.Grows after
  carries : v.bare.Carries after (faceShape (Update.isTurned e) shape) (faceNumbers (Update.isTurned e) shape xs)
  array : ∀ number view, m.globals.lookup x = some (.array number view) →
    ∃ k, v = .array k (view.faced (Update.isTurned e))
  flag : ∀ w, m.globals.lookup x = some w → v.bare.supportsIndexedAssignment = w.bare.supportsIndexedAssignment
  itself : Update.isName e = true → m.globals.lookup x = some v

theorem evalWhole_face (holds : m.Holds names shape numbers) (e : Expr) (target : Update.isTarget names e = true)
    (root : Update.rootName? e = some x) (ran : (evalWhole fuel none e).Yields m v after) :
    v.Faces m shape (numbers x) e x after := by
  obtain ⟨w, found, keeps, numeric⟩ := holds.numeric (isTarget_member target root)
  obtain ⟨grows, seen, itself, bare⟩ := evalWhole_target e target root found numeric ran
  refine ⟨grows, seen.carries (keeps.carries.grown grows), fun number view same => ?_, fun u same => ?_,
    fun alone => itself alone ▸ found⟩
  · rw [found] at same
    cases same
    obtain ⟨k, faced, _⟩ := seen.faced
    have plain : v.bare = v := by
      cases alone : Update.isName e with
      | false => exact bare alone
      | true => rw [itself alone]; rfl
    exact ⟨k, plain.symm.trans faced⟩
  · rw [found] at same
    cases same
    exact seen.supports

theorem Value.Faces.grown (faces : v.Faces m shape xs e x between) (grows : between.Grows after) :
    v.Faces m shape xs e x after :=
  { faces with grows := faces.grows.trans grows, carries := faces.carries.grown grows }

theorem Value.Faces.earlier (faces : v.Faces between shape xs e x after) (grows : m.Grows between) :
    v.Faces m shape xs e x after := by
  have same := grows.globals x (by simp)
  exact ⟨grows.trans faces.grows, faces.carries, fun number view found => faces.array number view (same.trans found),
    fun w found => faces.flag w (same.trans found), fun alone => same.symm.trans (faces.itself alone)⟩

/-! ### The two ways to settle a variable -/

theorem settles_written (found : m.globals.lookup x = some (.array number view)) (known : number < m.objects.size)
    (outside : x ∉ others) (changes : m.Changes others {spot | spot ∈ (view.faced t).spots} after)
    (carries : Value.Carries after (faceShape t shape) zs (.array k (view.faced t))) :
    m.Settles names shape others x (faceNumbers t (faceShape t shape) zs) after := by
  rw [View.faced_spots] at changes
  refine ⟨?_, .array number view, (changes.globals x outside).trans found, ?_, .inr (.inr ⟨_, found, rfl⟩)⟩
  · rw [Memory.spotsOf_array found]
    exact changes.mono (Set.subset_insert x others) subset_rfl
  · exact .itself (carries.back (known.trans_le changes.objects))

section
variable (holds : m.Holds names shape numbers) (e : Expr) (target : Update.isTarget names e = true)
  (root : Update.rootName? e = some x) (ran : (exec fuel none (Update.assign span e value)).Yields m flow after)
include holds target root ran

/-- An assignment to a target settles its variable with the value, and goes through only if the target is the
variable itself. -/
theorem assign_settles {settled : List Int → Prop} (made : ∀ n v between, (evalWhole n none value).Yields m v between →
      m.Changes ∅ {spot | spot ∈ m.spotsOf x} between ∧
        (Update.isName e = true → ∃ xs, settled xs ∧ v.Keeps between shape xs ∧ v.Follows m names x)) :
    ∃ xs, settled xs ∧ m.Settles names shape ∅ x xs after := by
  obtain ⟨w, found, _, numeric⟩ := holds.numeric (isTarget_member target root)
  rw [Update.assign, exec_assign] at ran
  obtain ⟨n, rfl, v, between, evaluated, u, last, held, ⟨_, assigned⟩, _⟩ := ran
  obtain ⟨changes, made⟩ := made n v between evaluated
  obtain ⟨marked, _⟩ := hold_yields held
  cases e with
  | name l y =>
    cases root
    obtain ⟨xs, given, keeps, follows⟩ := made rfl
    obtain ⟨_, keeps', same⟩ := hold_keeps keeps held
    rw [assign_name] at assigned
    obtain ⟨stored, z, bound, keeps'', same'⟩ := assignName_yields keeps' assigned.2
    refine ⟨xs, given, ?_, z, bound, keeps'', ?_⟩
    · have first : m.Changes {x} {spot | spot ∈ m.spotsOf x} last :=
        (changes.mono (Set.empty_subset _) subset_rfl).trans (marked.widened _ _)
      rw [insert_empty_eq]
      exact first.trans (stored.mono subset_rfl (Set.empty_subset _))
    · rwa [Value.Follows, same', same]
  | _ =>
    have found' : last.globals.lookup x = some w :=
      (marked.globals x (by simp)).trans ((changes.globals x (by simp)).trans found)
    exact absurd assigned (assign_path_fails _ target rfl root found' numeric)

theorem assign_settles_known (made : ∀ n v between, (evalWhole n none value).Yields m v between →
      m.Changes ∅ {spot | spot ∈ m.spotsOf x} between ∧
        (Update.isName e = true → v.Keeps between shape xs ∧ v.Follows m names x)) :
    m.Settles names shape ∅ x xs after := by
  have settled : ∃ ys, ys = xs ∧ m.Settles names shape ∅ x ys after := by
    refine assign_settles holds e target root ran (fun n v between evaluated => ?_)
    obtain ⟨changes, made⟩ := made n v between evaluated
    exact ⟨changes, fun alone => ⟨xs, rfl, made alone⟩⟩
  obtain ⟨_, rfl, settles⟩ := settled
  exact settles

end

/-- A branch on the capability of a target: its variable is an array that takes writes and the first part is
run, or something is frozen and the other part is. -/
theorem branch_cases (holds : m.Holds names shape numbers) (tested : Expr)
    (target : Update.isTarget names tested = true) (root : Update.rootName? tested = some y)
    (ran : (exec fuel none (Update.capabilityBranch span tested body orelse)).Yields m flow after) :
    ∃ between n, m.Grows between ∧
      ((∃ number view, between.globals.lookup y = some (.array number view) ∧
          (execAll n none body).Yields between flow after) ∨
        between.Frozen names ∧ (execAll n none orelse).Yields between flow after) := by
  have member := isTarget_member target root
  obtain ⟨w, found, keeps⟩ := holds.kept y member
  have sound (n v between) (evaluated : (evalWhole n none tested).Yields m v between) :
      m.Grows between ∧ Value.capabilityOf v.bare =
        pure (if v.bare.supportsIndexedAssignment then .canMutate else .cannotMutate) := by
    have faces := evalWhole_face holds tested target root evaluated
    exact ⟨faces.grows, capabilityOf_carries faces.carries⟩
  obtain ⟨n, v, between, k, evaluated, ran⟩ :=
    capabilityBranch_yields holds.ready (isStarred_target tested target) sound ran
  have faces := evalWhole_face holds tested target root evaluated
  have found' : between.globals.lookup y = some w := (faces.grows.globals y (by simp)).trans found
  refine ⟨between, k, faces.grows, ?_⟩
  rw [faces.flag w found] at ran
  cases takes : w.bare.supportsIndexedAssignment with
  | false =>
    rw [takes] at ran
    exact .inr ⟨⟨y, member, w, found', takes⟩, ran⟩
  | true =>
    rw [takes] at ran
    obtain ⟨number, view, rfl⟩ := keeps.takes takes
    exact .inl ⟨number, view, found', ran⟩

end
end Rebind
