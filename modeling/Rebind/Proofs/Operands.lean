import Rebind.Proofs.Evaluation
/-!
Operands of updates: combinations of variables that all hold whole numbers under one shape. What a
combination gives is said by the numbers of its variables; a lone variable gives the very value it holds, and
everything else a value of its own.
-/
namespace Rebind

open Number Strided Syntax Program

namespace Update

/-- Variables combined by sums, differences and products. -/
def isCombination (names : List String) : Expr → Bool
  | .name _ x => names.contains x
  | .binary _ op a b => (op = .add || op = .sub || op = .mult) && isCombination names a && isCombination names b
  | _ => false

def numbersOf (numbers : String → List Int) : Expr → List Int
  | .name _ x => numbers x
  | .binary _ op a b =>
    match Value.elementwise? op with
    | some f => List.zipWith f.onWhole (numbersOf numbers a) (numbersOf numbers b)
    | none => []
  | _ => []

def constant? : Expr → Option Int
  | .literal _ (.int n) => some n
  | .unary _ .minus (.literal _ (.int n)) => some (-n)
  | _ => none

end Update

/-- The library is at hand, and each variable holds its numbers under the common shape. -/
structure Memory.Holds (m : Memory) (names : List String) (shape : Shape) (numbers : String → List Int) : Prop where
  ready : m.Ready
  kept : ∀ x ∈ names, ∃ v, m.globals.lookup x = some v ∧ v.Keeps m shape (numbers x)

section
variable {m between after : Memory} {v w : Value} {names : List String} {numbers : String → List Int}

theorem Memory.Holds.bound {others : Set String} (holds : m.Holds names shape numbers)
    (changes : m.Changes others ∅ after) (free : Update.libraryName ∉ others) (apart : ∀ x ∈ names, x ∉ others) :
    after.Holds names shape numbers := by
  refine ⟨holds.ready.later changes free, fun x member => ?_⟩
  obtain ⟨v, found, keeps⟩ := holds.kept x member
  exact ⟨v, (changes.globals x (apart x member)).trans found, keeps.later changes (by simp [Value.Avoids])⟩

theorem Memory.Holds.grown (holds : m.Holds names shape numbers) (grows : m.Grows after) :
    after.Holds names shape numbers :=
  holds.bound grows (by simp) (by simp)

theorem Value.NewSince.earlier (new : v.NewSince between) (changes : m.Changes others spots between) :
    v.NewSince m := by
  intro number view same
  obtain ⟨later, writeable⟩ := new number view same
  exact ⟨changes.buffers.trans later, writeable⟩

/-- Where the value of an operand comes from: it is new, or it is the value of a variable. -/
def Value.ComesFrom (m : Memory) (e : Expr) (v : Value) : Prop :=
  v.bare.NewSince m ∨ ∃ l x, e = .name l x ∧ m.globals.lookup x = some v

theorem elementwise?_exact (op : BinaryOp) (allowed : op = .add ∨ op = .sub ∨ op = .mult) :
    ∃ f, Value.elementwise? op = some f ∧ f ≠ .divide := by
  rcases allowed with rfl | rfl | rfl
  · exact ⟨.add, rfl, by simp⟩
  · exact ⟨.subtract, rfl, by simp⟩
  · exact ⟨.multiply, rfl, by simp⟩

theorem eval_combination (holds : m.Holds names shape numbers) (e : Expr)
    (combined : Update.isCombination names e = true) (ran : (eval fuel none e).Yields m v after) :
    m.Grows after ∧ v.Carries after shape (Update.numbersOf numbers e) ∧
      (v.NewSince m ∨ ∃ l x w, e = .name l x ∧ m.globals.lookup x = some w ∧ w.bare = v) := by
  fun_induction Update.isCombination names e generalizing m v after fuel with
  | case1 l x =>
    rw [eval_name] at ran
    obtain ⟨_, w, loaded, rfl⟩ := ran
    obtain ⟨u, found, keeps⟩ := holds.kept x (by simpa using combined)
    obtain ⟨rfl, rfl⟩ := (loadGlobal_bound found).mp loaded
    exact ⟨.refl _ _ _, keeps.carries, .inr ⟨l, x, u, rfl, found, rfl⟩⟩
  | case2 l op a b ihA ihB =>
    simp only [Bool.and_eq_true, Bool.or_eq_true, decide_eq_true_eq, or_assoc] at combined
    obtain ⟨⟨allowed, combinedA⟩, combinedB⟩ := combined
    obtain ⟨f, meant, exact⟩ := elementwise?_exact op allowed
    rw [eval_binary] at ran
    obtain ⟨n, rfl, first, between, ranA, second, last, ranB, ran⟩ := ran
    obtain ⟨growsA, carriesA, _⟩ := ihA holds combinedA ranA
    obtain ⟨growsB, carriesB, _⟩ := ihB (holds.grown growsA) combinedB ranB
    obtain ⟨grows, carries, new⟩ := binary_same_shape op meant exact (carriesA.grown growsB) carriesB ran
    have numbered : Update.numbersOf numbers (.binary l op a b) =
        List.zipWith f.onWhole (Update.numbersOf numbers a) (Update.numbersOf numbers b) := by
      simp [Update.numbersOf, meant]
    rw [numbered]
    exact ⟨(growsA.trans growsB).trans grows, carries, .inl (new.earlier (growsA.trans growsB))⟩
  | case3 => cases combined

theorem evalWhole_combination (holds : m.Holds names shape numbers) (e : Expr)
    (combined : Update.isCombination names e = true) (ran : (evalWhole fuel none e).Yields m v after) :
    m.Grows after ∧ v.Keeps after shape (Update.numbersOf numbers e) ∧ v.ComesFrom m e := by
  cases e with
  | name l x =>
    rw [evalWhole_name] at ran
    obtain ⟨u, found, keeps⟩ := holds.kept x (by simpa [Update.isCombination] using combined)
    obtain ⟨rfl, rfl⟩ := (loadGlobal_bound found).mp ran.2
    exact ⟨.refl _ _ _, keeps, .inr ⟨l, x, rfl, found⟩⟩
  | binary l op a b =>
    rw [evalWhole_binary] at ran
    obtain ⟨n, rfl, ran⟩ := ran
    obtain ⟨grows, carries, new | ⟨_, _, _, wrong, _⟩⟩ := eval_combination holds _ combined ran
    · exact ⟨grows, .itself carries, .inl (carries.bare.symm ▸ new)⟩
    · cases wrong
  | _ => cases combined

theorem isStarred_combination (combined : Update.isCombination names e = true) : Update.isStarred e = false := by
  cases e with
  | starred _ _ => cases combined
  | _ => rfl

theorem mapM_combinations (holds : m.Holds names shape numbers) (es : List Expr)
    (combined : ∀ e ∈ es, Update.isCombination names e = true)
    (ran : (es.mapM (evalWhole fuel none)).Yields m vs after) :
    m.Grows after ∧ List.Forall₂ (fun v e => v.Keeps after shape (Update.numbersOf numbers e) ∧ v.ComesFrom m e)
      vs es := by
  induction es generalizing m vs with
  | nil =>
    simp only [List.mapM_nil, yields_pure] at ran
    obtain ⟨rfl, rfl⟩ := ran
    exact ⟨.refl _ _ _, .nil⟩
  | cons e es ih =>
    rw [List.forall_mem_cons] at combined
    simp only [List.mapM_cons, yields_bind, yields_pure] at ran
    obtain ⟨v, between, first, vs, _, rest, rfl, rfl⟩ := ran
    obtain ⟨grows, keeps, comes⟩ := evalWhole_combination holds e combined.1 first
    obtain ⟨further, others⟩ := ih (holds.grown grows) combined.2 rest
    refine ⟨grows.trans further, .cons ⟨keeps.grown further, comes⟩ (others.imp ?_)⟩
    rintro u e ⟨keeps', new | ⟨l, x, rfl, found⟩⟩
    · exact ⟨keeps', .inl (new.earlier grows)⟩
    · exact ⟨keeps', .inr ⟨l, x, rfl, (grows.globals x (by simp)).symm.trans found⟩⟩

theorem eval_constant (e : Expr) (given : Update.constant? e = some n) (ran : (eval fuel none e).Yields m v after) :
    m = after ∧ v = .num (.int n) := by
  fun_cases Update.constant? e with
  | case1 l k =>
    cases given
    rw [eval_literal] at ran
    exact ⟨ran.2.2, ran.2.1.symm⟩
  | case2 l l' k =>
    cases given
    simp only [eval_minus, eval_literal] at ran
    obtain ⟨n, rfl, w, between, ⟨_, rfl, rfl⟩, negated⟩ := ran
    change (pure (Value.num (.int (-(k : Int)))) : Run Value).Yields _ _ _ at negated
    rw [yields_pure] at negated
    exact ⟨negated.2, negated.1.symm⟩
  | case3 => simp [Update.constant?] at given

theorem evalWhole_constant (e : Expr) (given : Update.constant? e = some n)
    (ran : (evalWhole fuel none e).Yields m v after) : m = after ∧ v = .num (.int n) := by
  cases fuel with
  | zero => simp [evalWhole] at ran
  | succ fuel =>
    have evaluated : (eval fuel none e).Yields m v after := by
      fun_cases Update.constant? e with
      | case1 => exact ran
      | case2 => exact ran
      | case3 => simp [Update.constant?] at given
    exact eval_constant e given evaluated

theorem isStarred_constant (given : Update.constant? e = some n) : Update.isStarred e = false := by
  cases e with
  | starred _ _ => cases given
  | _ => rfl

end
end Rebind
