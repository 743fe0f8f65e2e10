import Rebind.Proofs.Settling
/-!
What each form leaves in the variable it is about, told by the numbers of all variables. The statement that
replaces a form settles the variable with exactly these numbers, whichever of its two ways it takes.
-/
namespace Rebind

open Number Strided Syntax Value

namespace Update

def Form.root? : Form → Option String
  | .allocation _ target _ | .operation _ target _ | .axpy _ _ _ target | .broadcast _ target _
  | .elementwise target _ | .product target _ _ _ _ => rootName? target
  | .unsupported _ => none

def isVariable (names : List String) (e : Expr) : Bool := isName e && isTarget names e

/-- Targets are variables of the given names or the same turned around, operands are combinations of variables,
and factors of sums are constants. Nothing is left unset. -/
def Form.isPlain (names : List String) : Form → Bool
  | .allocation kind target source => kind ≠ .similar && isVariable names target && isVariable names source
  | .operation _ target operands => isTarget names target && operands.all (isCombination names)
  | .axpy alpha x beta y =>
    (constant? alpha).isSome && isCombination names x && beta.all (fun b => (constant? b).isSome) && isTarget names y
  | .broadcast _ target value | .elementwise target value => isTarget names target && isCombination names value
  | .product target left right _ _ =>
    isTarget names target && isCombination names left && isCombination names right
  | .unsupported _ => false

/-- A true division, which gives no whole numbers. -/
def Form.divides : Form → Bool
  | .operation .itruediv _ operands => !operands.isEmpty
  | .broadcast (some .div) _ _ => true
  | _ => false

/-- A compound update that names its own target after the first operand. -/
def Form.rereadsTarget : Form → Bool
  | .operation op target operands => op.operator?.isSome && operands.tail.any fun e =>
      match e with
      | .name _ y => rootName? target == some y
      | _ => false
  | _ => false

/-- A compound update reads its operands one by one while it writes. Where the target takes writes, no operand
after the first is a variable that looks at its cells. -/
def Form.Apart (m : Memory) : Form → Prop
  | .operation op target operands => op.operator?.isSome = true → ∀ x, rootName? target = some x →
      m.takesWrites x = true → ∀ l y, .name l y ∈ operands.tail → List.Disjoint (m.spotsOf x) (m.spotsOf y)
  | _ => True

/-- The numbers of the variable behind a target, if those of the target are changed. -/
def onTarget? (shape : Strided.Shape) (numbers : String → List Int) (target : Expr)
    (change : List Int → Option (List Int)) : Option (List Int) :=
  (rootName? target).bind fun x =>
    (change (faceNumbers (isTurned target) shape (numbers x))).map
      (faceNumbers (isTurned target) (faceShape (isTurned target) shape))

def factorShape (flat : Bool) (shape : Strided.Shape) : Strided.Shape := if flat then [shape.size] else shape

/-- The numbers that a form leaves in its variable. -/
def Form.outcome? (shape : Strided.Shape) (numbers : String → List Int) : Form → Option (List Int)
  | .allocation .zero _ _ => some (List.replicate shape.size 0)
  | .allocation _ _ source => some (numbersOf numbers source)
  | .operation op target operands =>
    (rootName? target).bind fun x => op.outcome? (numbers x) (operands.map (numbersOf numbers))
  | .axpy alpha x beta y =>
    (constant? alpha).bind fun a => ((beta.map constant?).getD (some 1)).bind fun b =>
      onTarget? shape numbers y fun ys =>
        some (List.zipWith (BinaryUfunc.onWhole .add) (scaled b ys) (scaled a (numbersOf numbers x)))
  | .broadcast none target value | .elementwise target value =>
    onTarget? shape numbers target fun _ => some (numbersOf numbers value)
  | .broadcast (some op) target value =>
    (Value.elementwise? op.binary).bind fun f =>
      onTarget? shape numbers target fun ys => some (List.zipWith f.onWhole ys (numbersOf numbers value))
  | .product target left right flattened accumulate =>
    let one := flattened == .left || flattened == .right
    (product? (factorShape (flattened == .left) shape) (factorShape (flattened == .right) shape)
      (numbersOf numbers left) (numbersOf numbers right)).bind fun (q, ps) =>
        onTarget? shape numbers target fun cs =>
          landed? accumulate (factorShape one (faceShape (isTurned target) shape)) cs q ps
  | .unsupported _ => none

/-- The statement has done what its form asks for. -/
def Form.Done (names : List String) (shape : Strided.Shape) (numbers : String → List Int) (others : Set String)
    (form : Form) (m after : Memory) : Prop :=
  form.divides = false ∧ ∃ x xs, form.root? = some x ∧ form.outcome? shape numbers = some xs ∧
    m.Settles names shape others x xs after

end Update

open Update Value

section
variable {m between after : Memory} {v w : Value} {view : View} {names : List String} {others : Set String}
  {numbers : String → List Int} {form : Form} {shape : Strided.Shape}

theorem Update.Form.Done.mono (done : form.Done names shape numbers others m after) {more : Set String}
    (further : others ⊆ more) : form.Done names shape numbers more m after := by
  obtain ⟨exact, x, xs, root, outcome, settles⟩ := done
  exact ⟨exact, x, xs, root, outcome, settles.mono further⟩

theorem isVariable_eq (alone : isVariable names e = true) : ∃ l x, e = .name l x ∧ x ∈ names := by
  rw [isVariable, Bool.and_eq_true] at alone
  cases e with
  | name l x => exact ⟨l, x, rfl, by simpa [Update.isTarget] using alone.2⟩
  | _ => cases alone.1

/-! ### Allocations -/

theorem evalWhole_applied (holds : m.Holds names shape numbers) (e : Expr) (combined : isCombination names e = true)
    (named : Module.attr? .helpers attr = some (.builtin f))
    (direct : ∀ n vs, Program.call (n + 1) (.builtin f) vs [] = f.call (Program.call n) vs [])
    (apart : f.tellsApart = false) (ran : (Program.evalWhole fuel none (callLibrary l attr [e])).Yields m v after) :
    ∃ w between caller r, m.Grows between ∧ w.Carries between shape (numbersOf numbers e) ∧
      (Builtin.callOn caller f [w] []).Yields between r after ∧
      (v = r ∨ r.isMadeAnew = true ∧ isSame v.bare r = true) := by
  obtain ⟨n, vs, between, caller, r, evaluated, called, passed⟩ :=
    evalWhole_kernel holds.ready named (by simpa using isStarred_combination combined) ran direct apart
  obtain ⟨w, given, rfl⟩ := (mapM_single _ _).mp evaluated
  obtain ⟨grows, keeps, _⟩ := evalWhole_combination holds e combined given
  exact ⟨w.bare, between, caller, r, grows, keeps.carries, called, passed⟩

theorem bind_settles (holds : m.Holds names shape numbers) (member : x ∈ names)
    (made : ∀ n v between, (Program.evalWhole n none value).Yields m v between →
      m.Grows between ∧ v.Keeps between shape xs ∧ v.Follows m names x)
    (ran : (Program.execAll fuel none [assign span (.name l x) value]).Yields m flow after) :
    m.Settles names shape ∅ x xs after := by
  obtain ⟨n, first, ran⟩ := Program.execAll_single ran
  have target : Update.isTarget names (.name l x) = true := by simpa [Update.isTarget] using member
  refine assign_settles_known holds (.name l x) target rfl ran (fun n v between evaluated => ?_)
  obtain ⟨grows, keeps, follows⟩ := made n v between evaluated
  exact ⟨grows.widened _ _, fun _ => ⟨keeps, follows⟩⟩

/-- A variable is bound to what a kernel gives for the numbers of an operand. -/
theorem applied_settles (holds : m.Holds names shape numbers) (member : x ∈ names) (combined : isCombination names e = true)
    (named : Module.attr? .helpers attr = some (.builtin f))
    (direct : ∀ n vs, Program.call (n + 1) (.builtin f) vs [] = f.call (Program.call n) vs [])
    (apart : f.tellsApart = false) (made : ∀ caller w r between after, w.Carries between shape (numbersOf numbers e) →
      (Builtin.callOn caller f [w] []).Yields between r after →
      between.Grows after ∧ r.Carries after shape xs ∧ (m.Frozen names ∨ r.NewSince between))
    (ran : (Program.execAll fuel none [assign span (.name l x) (callLibrary l' attr [e])]).Yields m flow after) :
    m.Settles names shape ∅ x xs after := by
  refine bind_settles holds member (fun n v last evaluated => ?_) ran
  obtain ⟨w, between, caller, r, grows, given, called, passed⟩ :=
    evalWhole_applied holds e combined named direct apart evaluated
  obtain ⟨further, carries, frozen | new⟩ := made caller w r between last given called
  · exact ⟨grows.trans further, (handedOn carries passed).1, .inl frozen⟩
  · obtain ⟨kept, same⟩ := handedOn carries passed
    exact ⟨grows.trans further, kept, .inr (.inl (same ▸ new.earlier grows))⟩

theorem allocation_done (holds : m.Holds names shape numbers)
    (plain : (Form.allocation kind target source).isPlain names = true)
    (ran : (Program.exec fuel none (allocationReplacement span kind target source)).Yields m flow after) :
    (Form.allocation kind target source).Done names shape numbers ∅ m after := by
  simp only [Form.isPlain, Bool.and_eq_true, decide_eq_true_eq] at plain
  obtain ⟨⟨set, alone⟩, alone'⟩ := plain
  obtain ⟨l, x, rfl, member⟩ := isVariable_eq alone
  obtain ⟨l', y, rfl, member'⟩ := isVariable_eq alone'
  have combined : isCombination names (.name l' y) = true := by simpa [isCombination] using member'
  have tested : Update.isTarget names (.name l' y) = true := by simpa [Update.isTarget] using member'
  refine ⟨rfl, x, ?_⟩
  cases kind with
  | copy =>
    refine ⟨numbersOf numbers (.name l' y), rfl, rfl, ?_⟩
    obtain ⟨between, n, grows, ⟨_, _, _, ran⟩ | ⟨frozen, ran⟩⟩ := branch_cases holds _ tested rfl ran
    · refine (applied_settles (holds.grown grows) member combined rfl (fun _ _ => rfl) rfl ?_ ran).earlier grows
      intro _ _ _ _ _ carries called
      obtain ⟨copied, made, new⟩ := copyOf_yields carries called
      exact ⟨copied, made, .inr new⟩
    · refine (bind_settles (holds.grown grows) member (fun n v last evaluated => ?_) ran).earlier grows
      obtain ⟨further, keeps, _⟩ := evalWhole_combination (holds.grown grows) _ combined evaluated
      exact ⟨further, keeps, .inl frozen⟩
  | zero =>
    refine ⟨List.replicate (Shape.size shape) 0, rfl, rfl, ?_⟩
    obtain ⟨between, n, grows, ⟨_, _, _, ran⟩ | ⟨frozen, ran⟩⟩ := branch_cases holds _ tested rfl ran
    all_goals
      refine (applied_settles (holds.grown grows) member combined rfl (fun _ _ => rfl) rfl ?_ ran).earlier grows
      intro _ _ _ _ _ carries called
    · obtain ⟨zeroed, made, new⟩ := zeroOf_yields carries called
      exact ⟨zeroed, made, .inr new⟩
    · obtain ⟨zeroed, made⟩ := zeroValue_yields carries called
      exact ⟨zeroed, made, .inl frozen⟩
  | similar => exact absurd rfl set

/-! ### Operations of the table -/

theorem divides_operation (op : TableOp) (target : Expr) (operands : List Expr) :
    (Form.operation op target operands).divides = false ↔ (op = .itruediv → operands = []) := by
  cases op <;> simp [Form.divides]

theorem eval_dispatch (ready : m.Ready) (op : TableOp)
    (ran : (Program.eval fuel none (.attribute l (.subscript l (library l "OPERATION_TABLE")
      (.literal l (.str op.name false))) "dispatch")).Yields m v after) :
    m = after ∧ v = .builtin (.dispatch op) := by
  rw [Program.eval_attribute] at ran
  obtain ⟨n, rfl, entry, _, subscripted, u, got, rfl⟩ := ran
  rw [Program.eval_subscript] at subscripted
  obtain ⟨n, rfl, table, _, named, key, _, literal, looked⟩ := subscripted
  obtain ⟨rfl, rfl⟩ := eval_library ready rfl named
  rw [Program.eval_literal] at literal
  obtain ⟨_, rfl, rfl⟩ := literal
  have found : lookupItem (module .table).bare (Program.literal (.str op.name false)) =
      pure (.builtin (.entry op)) := by cases op <;> rfl
  rw [found, yields_pure] at looked
  obtain ⟨rfl, rfl⟩ := looked
  obtain ⟨rfl, rfl⟩ := yields_pure.mp (got : (pure (builtin (.dispatch op)) : Run Value).Yields _ _ _)
  exact ⟨rfl, rfl⟩

theorem evalWhole_operation (holds : m.Holds names shape numbers) (op : TableOp) (target : Expr) (operands : List Expr)
    (reached : Update.isTarget names target = true) (root : rootName? target = some x)
    (combined : ∀ e ∈ operands, isCombination names e = true)
    (ran : (Program.evalWhole fuel none (call l (.attribute l (.subscript l (library l "OPERATION_TABLE")
      (.literal l (.str op.name false))) "dispatch") (callLibrary l "setindex_trait" [target] :: target :: operands))
      ).Yields m v after) :
    ∃ between vs r, ∃ w : Value, w.Faces m shape (numbers x) target x between ∧
      List.Forall₂ (fun v e => v.Keeps between shape (numbersOf numbers e) ∧ v.ComesFrom m e) vs operands ∧
      (op.dispatch (.capability (if w.bare.supportsIndexedAssignment then .canMutate else .cannotMutate)) w.bare
        (vs.map bare)).Yields between r after ∧
      (v = r ∨ r.isMadeAnew = true ∧ isSame v.bare r = true) := by
  rw [call, Program.evalWhole_call] at ran
  obtain ⟨n, rfl, function, _, named, given, between, arguments, called⟩ := ran
  obtain ⟨rfl, rfl⟩ := eval_dispatch holds.ready op named
  have starless := isStarred_target target reached
  have plain : ∀ e ∈ callLibrary l "setindex_trait" [target] :: target :: operands, Update.isStarred e = false := by
    simp only [List.forall_mem_cons]
    exact ⟨rfl, starless, fun e member => isStarred_combination (combined e member)⟩
  obtain ⟨n, rfl, evaluated⟩ := (Program.evalArgs_plain _ plain).mp arguments
  simp only [List.mapM_cons, yields_bind, yields_pure] at evaluated
  obtain ⟨c, first, asked, rest, _, ⟨w, second, reads, vs, _, later, rfl, rfl⟩, rfl, rfl⟩ := evaluated
  obtain ⟨_, tested, middle, capability, evaluated, capable, rfl⟩ := eval_setindexTrait holds.ready starless asked
  have seen := evalWhole_face holds target reached root evaluated
  rw [capabilityOf_carries seen.carries, yields_pure] at capable
  obtain ⟨rfl, rfl⟩ := capable
  have faces := evalWhole_face (holds.grown seen.grows) target reached root reads
  have faces' := faces.earlier seen.grows
  obtain ⟨grows, operated⟩ := mapM_combinations (holds.grown faces'.grows) operands combined later
  obtain ⟨r, made, passed⟩ := builtinCall_yields (f := .dispatch op) rfl called
  refine ⟨_, vs, r, w, faces'.grown grows, operated.imp ?_, ?_, passed⟩
  · rintro u e ⟨keeps, new | ⟨l, y, rfl, found⟩⟩
    · exact ⟨keeps, .inl (new.earlier faces'.grows)⟩
    · exact ⟨keeps, .inr ⟨l, y, rfl, (faces'.grows.globals y (by simp)).symm.trans found⟩⟩
  · obtain ⟨u, found, _⟩ := holds.kept x (isTarget_member reached root)
    rw [seen.flag u found, ← faces'.flag u found] at made
    exact made

theorem isTurned_name (alone : Update.isName e = true) : isTurned e = false := by
  cases e with
  | name _ _ => rfl
  | _ => cases alone

theorem forall₂_member {related : α → β → Prop} (all : List.Forall₂ related as bs) (member : a ∈ as) :
    ∃ b ∈ bs, related a b := by
  induction all with
  | nil => cases member
  | cons first _ ih =>
    rcases List.mem_cons.mp member with rfl | later
    · exact ⟨_, List.mem_cons_self, first⟩
    · obtain ⟨b, inside, both⟩ := ih later
      exact ⟨b, List.mem_cons_of_mem _ inside, both⟩

theorem operands_avoid (found : m.globals.lookup x = some (.array number view)) (placed : view.Placed m)
    (free : ∀ l y, .name l y ∈ es.tail → List.Disjoint (m.spotsOf x) (m.spotsOf y))
    (operated : List.Forall₂ (fun v e => v.Keeps between shape (numbersOf numbers e) ∧ v.ComesFrom m e) vs es) :
    ∀ v ∈ (vs.map bare).tail, v.Avoids {spot | spot ∈ view.spots} := by
  intro v member
  rw [← List.map_tail] at member
  obtain ⟨u, inside, rfl⟩ := List.mem_map.mp member
  have later : ∃ e ∈ es.tail, u.Keeps between shape (numbersOf numbers e) ∧ u.ComesFrom m e := by
    cases operated with
    | nil => cases inside
    | cons _ rest => exact forall₂_member rest inside
  obtain ⟨e, listed, _, new | ⟨l, y, rfl, bound⟩⟩ := later
  · exact new.avoids placed
  · intro k other same spot shown shared
    have apart := free l y listed
    rw [Memory.spotsOf_array found, Memory.spotsOf_bound bound same] at apart
    exact apart shared shown

theorem operation_done (holds : m.Holds names shape numbers)
    (plain : (Form.operation op target operands).isPlain names = true)
    (exact : m.Frozen names → (Form.operation op target operands).divides = false)
    (apart : (Form.operation op target operands).Apart m)
    (ran : (Program.exec fuel none (operationReplacement span op target operands)).Yields m flow after) :
    (Form.operation op target operands).Done names shape numbers ∅ m after := by
  simp only [Form.isPlain, Bool.and_eq_true, List.all_eq_true] at plain
  obtain ⟨reached, combined⟩ := plain
  obtain ⟨x, member, root⟩ := isTarget_root target reached
  have settled : ∃ xs, ((Form.operation op target operands).divides = false ∧
      op.outcome? (numbers x) (operands.map (numbersOf numbers)) = some xs) ∧
        m.Settles names shape ∅ x xs after := by
    refine assign_settles holds target reached root ran (fun n v last evaluated => ?_)
    obtain ⟨between, vs, r, w, faces, operated, asked, passed⟩ :=
      evalWhole_operation holds op target operands reached root combined evaluated
    have carried : List.Forall₂ (fun v ys => Carries between shape ys v) (vs.map bare)
        (operands.map (numbersOf numbers)) := by
      rw [List.forall₂_map_left_iff, List.forall₂_map_right_iff]
      exact operated.imp fun u e both => both.1.carries
    have length := operated.length_eq
    obtain ⟨u, found, keeps⟩ := holds.kept x member
    cases takes : u.bare.supportsIndexedAssignment with
    | false =>
      have frozen : m.Frozen names := ⟨x, member, u, found, takes⟩
      rw [faces.flag u found, takes] at asked
      have never (divides : op = .itruediv) : vs.map bare = [] := by
        rw [List.map_eq_nil_iff, ← List.length_eq_zero_iff, length,
          (divides_operation op target operands).mp (exact frozen) divides, List.length_nil]
      obtain ⟨grows, made⟩ := outOfPlace_yields op _ _ carried never faces.carries asked
      refine ⟨(faces.grows.trans grows).widened _ _, fun alone => ?_⟩
      rw [isTurned_name alone] at made
      obtain ⟨zs, outcome, carries⟩ := made rfl
      exact ⟨zs, ⟨exact frozen, outcome⟩, (handedOn carries passed).1, .inl frozen⟩
    | true =>
      obtain ⟨number, view, rfl⟩ := keeps.takes takes
      obtain ⟨_, placed, _⟩ := holds.array member found
      obtain ⟨k, rfl⟩ := faces.array number view found
      rw [faces.flag _ found, takes] at asked
      have away (compound : op.operator?.isSome = true) : ∀ v ∈ (vs.map bare).tail,
          v.Avoids {spot | spot ∈ (view.faced (isTurned target)).spots} := by
        rw [View.faced_spots]
        exact operands_avoid found placed (apart compound x root (by simp [Memory.takesWrites, found, takes])) operated
      obtain ⟨never, changes, made⟩ := inPlace_yields op _ _ carried faces.carries away asked
      rw [View.faced_spots, ← Memory.spotsOf_array found] at changes
      refine ⟨(faces.grows.widened _ _).trans changes, fun alone => ?_⟩
      rw [isTurned_name alone] at made
      obtain ⟨zs, outcome, carries, came⟩ := made rfl
      obtain ⟨kept, same⟩ := handedOn carries passed
      refine ⟨zs, ⟨?_, outcome⟩, kept, .inr ?_⟩
      · rw [divides_operation]
        intro divides
        rw [← List.length_eq_zero_iff, ← length, List.length_eq_zero_iff]
        exact List.map_eq_nil_iff.mp (never divides)
      · rcases came with rfl | new
        · exact .inr ⟨_, faces.itself alone, by rw [same, isTurned_name alone]; rfl⟩
        · exact .inl (same ▸ new.earlier faces.grows)
  obtain ⟨xs, ⟨never, outcome⟩, settles⟩ := settled
  exact ⟨never, x, xs, root, by simp [Form.outcome?, root, outcome], settles⟩

end
end Rebind
