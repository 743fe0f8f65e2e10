import Rebind.Proofs.Operands
/-!
Targets of updates: a variable, or an array that is reached from one by turning its axes around. Both look at
the same cells, so what is written through the target is what the variable shows, in another order.
-/
namespace Rebind

open Number Strided Syntax Value Program

namespace Update

/-- A variable, or one whose axes are turned around some number of times. -/
def isTarget (names : List String) : Expr → Bool
  | .name _ x => names.contains x
  | .attribute _ e attr => attr = "T" && isTarget names e
  | _ => false

def rootName? : Expr → Option String
  | .name _ x => some x
  | .attribute _ e _ => rootName? e
  | _ => none

/-- Whether a path turns the axes around an odd number of times. -/
def isTurned : Expr → Bool
  | .attribute _ e _ => !isTurned e
  | _ => false

end Update

def View.turned (view : View) : View := { view with layout := view.layout.transpose }

/-- The numbers of an array in the order in which it shows them with its axes turned around. -/
def turn (shape : Shape) (xs : List Int) : List Int := (Layout.turnOrder shape).map fun i => xs.getD i 0

def faceShape (turned : Bool) (shape : Shape) : Shape := if turned then shape.reverse else shape

/-- The numbers in the order in which a target shows them, or back. -/
def faceNumbers (turned : Bool) (shape : Shape) (xs : List Int) : List Int := if turned then turn shape xs else xs

/-- A value reached from another one by turning its axes around: an array over the same cells that was made
since, or the value itself. -/
inductive Value.SeenFrom (since : Nat) (m : Memory) (w : Value) : Bool → Value → Prop
  | itself : SeenFrom since m w false w
  | straight (start : w = .array number view) (known : k < m.objects.size) (made : since ≤ k) :
      SeenFrom since m w false (.array k view)
  | turned (start : w = .array number view) (known : k < m.objects.size) (made : since ≤ k) :
      SeenFrom since m w true (.array k view.turned)

section
variable {m between after : Memory} {v w : Value} {view : View} {names : List String} {since : Nat}

theorem size_faceShape (turned : Bool) (shape : Shape) : Shape.size (faceShape turned shape) = Shape.size shape := by
  cases turned
  · rfl
  · exact Layout.size_reverse shape

@[simp] theorem faceShape_faceShape (turned : Bool) (shape : Shape) :
    faceShape turned (faceShape turned shape) = shape := by
  cases turned <;> simp [faceShape]

@[simp] theorem View.turned_turned (view : View) : view.turned.turned = view := by
  simp [View.turned]

theorem turnOrder_lt (shape : Shape) (member : i ∈ Layout.turnOrder shape) : i < Shape.size shape := by
  obtain ⟨place, inside, rfl⟩ := List.mem_map.mp member
  have bounds := (Layout.rowMajor_fills shape).bounds ((Layout.transpose_perm _).mem_iff.mp inside)
  rw [Layout.size, Layout.rowMajor_shape] at bounds
  omega

theorem View.turned_spots (view : View) : view.turned.spots.Perm view.spots :=
  (Layout.transpose_perm view.layout).map _

theorem View.Placed.turned (placed : view.Placed m) : view.turned.Placed m where
  buffer := placed.buffer
  bounds place member := placed.bounds place ((Layout.transpose_perm _).mem_iff.mp member)
  distinct := (Layout.transpose_perm _).nodup_iff.mpr placed.distinct

theorem contents_turned (m : Memory) (view : View) (shown : m.contents view = xs.map wholeCell) :
    m.contents view.turned = (turn view.shape xs).map wholeCell := by
  have listed : view.turned.layout.addresses = _ := Layout.transpose_addresses view.layout
  rw [Memory.contents, View.spots, listed, turn, List.map_map, List.map_map, List.map_map]
  refine List.map_congr_left fun i member => ?_
  have inside : i < view.layout.addresses.length := by
    rw [Layout.length_addresses]
    exact turnOrder_lt _ member
  have entry := congrArg (fun cells => cells[i]?) shown
  simp only [Memory.contents, View.spots, List.map_map, List.getElem?_map, List.getElem?_eq_getElem inside,
    Option.map_some] at entry
  obtain ⟨x, found, same⟩ := Option.map_eq_some_iff.mp entry.symm
  simp only [Function.comp_apply, List.getD_eq_getElem?_getD, List.getElem?_eq_getElem inside, found,
    Option.getD_some]
  exact same.symm

theorem turn_wholes (shape : Shape) (wholes : ∀ x ∈ xs, IsWhole x) : ∀ x ∈ turn shape xs, IsWhole x := by
  intro x member
  obtain ⟨i, _, rfl⟩ := List.mem_map.mp member
  rw [List.getD_eq_getElem?_getD]
  rcases inside : xs[i]? with _ | x
  · exact isWhole_zero
  · exact wholes x (List.mem_of_getElem? inside)

theorem Value.Carries.turned (carries : Carries m shape xs (.array number view)) (known : k < m.objects.size) :
    Carries m shape.reverse (turn shape xs) (.array k view.turned) := by
  cases carries with
  | array _ placed typed shaped shown wholes =>
    refine .array known placed.turned typed ?_ ?_ (turn_wholes shape wholes)
    · rw [← shaped]
      exact Layout.transpose_shape _
    · rw [contents_turned m view shown, shaped]

theorem Value.Carries.renumbered (carries : Carries m shape xs (.array number view)) (known : k < m.objects.size) :
    Carries m shape xs (.array k view) := by
  cases carries with
  | array _ placed typed shaped shown wholes => exact .array known placed typed shaped shown wholes

/-! ### Paths -/

theorem Value.SeenFrom.isNumeric (seen : SeenFrom since m w t v) (numeric : w.isNumeric = true) :
    v.isNumeric = true := by
  cases seen with
  | itself => exact numeric
  | _ => rfl

theorem bare_of_isNumeric (numeric : v.isNumeric = true) : v.bare = v := by
  cases v with
  | held _ _ => cases numeric
  | _ => rfl

theorem getAttr_turned (numeric : w.isNumeric = true) (early : since ≤ m.objects.size) (seen : SeenFrom since m w t v)
    (ran : (getAttr v "T").Yields m u after) : m.Grows after ∧ SeenFrom since after w (!t) u := by
  cases seen with
  | itself =>
    cases v with
    | array number view =>
      obtain ⟨grows, rfl, known⟩ := arrayOf_yields ran
      exact ⟨grows, .turned rfl known early⟩
    | scalar d x => exact absurd ran yields_fail
    | _ => cases numeric
  | straight start _ _ =>
    obtain ⟨grows, rfl, known⟩ := arrayOf_yields ran
    exact ⟨grows, .turned start known early⟩
  | @turned number view k start _ _ =>
    obtain ⟨grows, rfl, known⟩ := arrayOf_yields ran
    have back : SeenFrom since after w false (.array m.objects.size view.turned.turned) := by
      rw [View.turned_turned]
      exact .straight start known early
    exact ⟨grows, back⟩

section
variable (e : Expr) (target : Update.isTarget names e = true)
include e target

section
variable (root : Update.rootName? e = some x) (found : m.globals.lookup x = some w) (numeric : w.bare.isNumeric = true)
include root found numeric

theorem eval_target (ran : (eval fuel none e).Yields m v after) :
    m.Grows after ∧ SeenFrom m.objects.size after w.bare (Update.isTurned e) v := by
  fun_induction Update.isTarget names e generalizing m v after fuel with
  | case1 l y =>
    cases root
    rw [eval_name] at ran
    obtain ⟨_, u, loaded, rfl⟩ := ran
    obtain ⟨rfl, rfl⟩ := (loadGlobal_bound found).mp loaded
    exact ⟨.refl _ _ _, .itself⟩
  | case2 l e attr ih =>
    simp only [Bool.and_eq_true, decide_eq_true_eq] at target
    obtain ⟨rfl, target⟩ := target
    rw [eval_attribute] at ran
    obtain ⟨n, rfl, owner, between, reached, u, got, rfl⟩ := ran
    obtain ⟨grows, seen⟩ := ih target root found reached
    obtain ⟨further, seen'⟩ := getAttr_turned numeric grows.objects seen got
    rw [bare_of_isNumeric (seen'.isNumeric numeric)]
    exact ⟨grows.trans further, seen'⟩
  | case3 => cases target

theorem evalWhole_target (ran : (evalWhole fuel none e).Yields m v after) :
    m.Grows after ∧ SeenFrom m.objects.size after w.bare (Update.isTurned e) v.bare ∧
      (Update.isName e = true → v = w) ∧ (Update.isName e = false → v.bare = v) := by
  fun_cases Update.isTarget names e with
  | case1 l y =>
    cases root
    rw [evalWhole_name] at ran
    obtain ⟨rfl, rfl⟩ := (loadGlobal_bound found).mp ran.2
    exact ⟨.refl _ _ _, .itself, fun _ => rfl, nofun⟩
  | case2 l e attr =>
    rw [Update.isTarget, Bool.and_eq_true, decide_eq_true_eq] at target
    obtain ⟨rfl, target⟩ := target
    rw [evalWhole_attribute] at ran
    obtain ⟨n, rfl, owner, between, reached, got⟩ := ran
    obtain ⟨grows, seen⟩ := eval_target e target root found numeric reached
    obtain ⟨further, seen'⟩ := getAttr_turned numeric grows.objects seen got
    have bare := bare_of_isNumeric (seen'.isNumeric numeric)
    refine ⟨grows.trans further, ?_, nofun, fun _ => bare⟩
    rwa [bare]
  | case3 => simp [Update.isTarget] at target

end

theorem isTarget_root : ∃ x ∈ names, Update.rootName? e = some x := by
  fun_induction Update.isTarget names e with
  | case1 l x => exact ⟨x, by simpa using target, rfl⟩
  | case2 l e attr ih =>
    rw [Bool.and_eq_true] at target
    exact ih target.2
  | case3 => cases target

theorem isStarred_target : Update.isStarred e = false := by
  fun_cases Update.isTarget names e with
  | case1 => rfl
  | case2 => rfl
  | case3 => simp [Update.isTarget] at target

theorem assign_path_fails (path : Update.isName e = false) (root : Update.rootName? e = some x)
    (found : m.globals.lookup x = some w) (numeric : w.bare.isNumeric = true) :
    ¬ (Program.assign fuel none e v).Yields m u after := by
  intro ran
  fun_cases Update.isTarget names e with
  | case1 => cases path
  | case2 l e attr =>
    rw [Update.isTarget, Bool.and_eq_true] at target
    rw [assign_attribute] at ran
    obtain ⟨n, rfl, owner, between, reached, set⟩ := ran
    obtain ⟨_, seen⟩ := eval_target e target.2 root found numeric reached
    have owned := seen.isNumeric numeric
    cases owner with
    | array _ _ | scalar _ _ => simp [setAttr] at set
    | _ => cases owned
  | case3 => simp [Update.isTarget] at target

end

/-! ### Writing through a target -/

/-- What a target looks at, if its variable looks at the given cells. -/
def View.faced (t : Bool) (view : View) : View := if t then view.turned else view

theorem View.faced_spots (t : Bool) (view : View) :
    ({spot | spot ∈ (view.faced t).spots} : Set (Nat × Nat)) = {spot | spot ∈ view.spots} := by
  cases t with
  | false => rfl
  | true =>
    ext spot
    exact view.turned_spots.mem_iff

theorem Value.SeenFrom.supports (seen : SeenFrom since m w t v) :
    v.supportsIndexedAssignment = w.supportsIndexedAssignment := by
  cases seen with
  | itself => rfl
  | straight start _ _ | turned start _ _ => rw [start]; rfl

theorem Value.SeenFrom.faced (seen : SeenFrom since m (.array number view) t v) :
    ∃ k, v = .array k (view.faced t) ∧ (k = number ∨ since ≤ k ∧ k < m.objects.size) := by
  cases seen with
  | itself => exact ⟨_, rfl, .inl rfl⟩
  | straight start known made | turned start known made =>
    cases start
    exact ⟨_, rfl, .inr ⟨made, known⟩⟩

theorem Value.SeenFrom.carries (seen : SeenFrom since m w t v) (carries : w.Carries m shape xs) :
    v.Carries m (faceShape t shape) (faceNumbers t shape xs) := by
  cases seen with
  | itself => exact carries
  | straight start known _ =>
    subst start
    exact carries.renumbered known
  | turned start known _ =>
    subst start
    exact carries.turned known

theorem Value.Carries.faced (t : Bool) (carries : Carries m shape xs (.array number view)) :
    Carries m (faceShape t shape) (faceNumbers t shape xs) (.array number (view.faced t)) := by
  cases t with
  | false => exact carries
  | true => exact carries.turned carries.known

theorem Value.Carries.back (known : number < m.objects.size)
    (carries : Carries m (faceShape t shape) zs (.array k (view.faced t))) :
    Carries m shape (faceNumbers t (faceShape t shape) zs) (.array number view) := by
  cases t with
  | false => exact carries.renumbered known
  | true => simpa [View.faced, faceShape, faceNumbers] using carries.turned known

end
end Rebind
