import Rebind.Proofs.Grammar
/-!
Special forms that are spelt wrongly. The words `matmul`, `vec` and `elementwise` are kept for products, flattened factors
and elementwise calls, so a statement that uses them in the place of a special form and does not spell one is refused.
`IllFormed` lists these statements without any order of trial, and recognition without expanders refuses exactly them.
-/
namespace Rebind.Update

open Syntax

/-- A call under a bare name that has other arguments than so many plain positionals. -/
def MalformedCall (head : String) (count : Nat) (e : Expr) : Prop :=
  callHead? e = some head ∧ ∀ args, PlainCall head args e → args.length ≠ count

/-- A product that is not assigned to a reference, or of which a factor is no flattening though it says `vec`. -/
def MalformedProduct (target value : Expr) : Prop :=
  ∃ l r, ProductOf l r value ∧ (¬ Reference target ∨ MalformedCall "vec" 1 l ∨ MalformedCall "vec" 1 r)

/-- The statements that are refused, with the form that they fail to spell. What is written to all of an array is looked at
only for the arguments of `matmul`, and only where it is assigned. -/
inductive IllFormed (accumulate : Bool) : String → Stmt → Prop where
  | arguments (malformed : MalformedCall "matmul" 2 value) : IllFormed accumulate "matmul" (.assign span [target] value)
  | product (part : ∀ ref, ¬ Whole ref target) (malformed : MalformedProduct target value) :
      IllFormed accumulate "matmul" (.assign span [target] value)
  | accumulation (allowed : accumulate = true) (part : ∀ ref, ¬ Whole ref target)
      (malformed : MalformedCall "matmul" 2 value ∨ MalformedProduct target value) :
      IllFormed accumulate "matmul" (.augmented span target .add value)
  | elementwise (headed : callHead? value = some "elementwise")
      (malformed : MalformedCall "elementwise" 1 value ∨ ¬ Reference target) :
      IllFormed accumulate "elementwise" (.assign span [target] value)

/-- A recogniser refuses a statement for not being the form. -/
def Refuses (result : Except Malformed α) (form : String) : Prop := ∃ wrong, result = .error wrong ∧ wrong.form = form

section
variable {span : Span} {target value : Expr} {form : String} {accumulate : Bool}

theorem not_refuses_ok {a : α} : ¬ Refuses (.ok a) form := nofun

theorem refuses_error {wrong : Malformed} : Refuses (.error wrong : Except Malformed α) form ↔ form = wrong.form := by
  simp [Refuses, eq_comm]

theorem refuses_bind {result : Except Malformed α} {next : α → Except Malformed β} :
    Refuses (result >>= next) form ↔ Refuses result form ∨ ∃ a, result = .ok a ∧ Refuses (next a) form := by
  cases result with
  | error wrong | ok a => simp [Refuses, bind, Except.bind]

theorem wholeOf?_eq_none_iff (e : Expr) : wholeOf? e = none ↔ ∀ ref, ¬ Whole ref e := by
  simp only [← wholeOf?_eq_some_iff, Option.eq_none_iff_forall_ne_some, ne_eq]

/-! ### Products -/

theorem factors?_refuses_iff : Refuses (factors? value) form ↔ form = "matmul" ∧ MalformedCall "matmul" 2 value := by
  simp only [Refuses, factors?_eq_error_iff, MalformedCall]
  constructor
  · rintro ⟨_, ⟨rfl, headed, unpaired⟩, rfl⟩
    refine ⟨rfl, headed, fun args plain paired => ?_⟩
    match args, paired with
    | [left, right], _ => exact unpaired left right plain
  · rintro ⟨rfl, headed, unpaired⟩
    exact ⟨_, ⟨rfl, headed, fun left right plain => unpaired _ plain rfl⟩, rfl⟩

theorem malformedCall_one_iff (head : String) (e : Expr) :
    MalformedCall head 1 e ↔ callHead? e = some head ∧ ∀ inner, plainArgs? e ≠ some [inner] := by
  refine and_congr_right fun headed => ?_
  simp only [plainCall_iff, headed, true_and]
  constructor
  · exact fun unpaired inner given => unpaired [inner] given rfl
  · intro other args given single
    match args, single with
    | [inner], _ => exact other inner given

theorem factor_refuses_iff (e : Expr) : Refuses (factor e) form ↔ form = "matmul" ∧ MalformedCall "vec" 1 e := by
  rw [factor, malformedCall_one_iff]
  split
  · rename_i headed
    split
    · rename_i inner given
      exact iff_of_false not_refuses_ok fun malformed => malformed.2.2 inner given
    · rename_i other
      simp only [refuses_error, headed, true_and]
      exact (and_iff_left other).symm
  · rename_i headed
    exact iff_of_false not_refuses_ok fun malformed => headed malformed.2.1

theorem product_refuses_iff (l r : Expr) : Refuses (product target (l, r) accumulate) form ↔
    form = "matmul" ∧ (¬ Reference target ∨ MalformedCall "vec" 1 l ∨ MalformedCall "vec" 1 r) := by
  rw [product, ← isReference_iff]
  by_cases ref : isReference target = true
  · simp only [ref, if_true, refuses_bind, factor_refuses_iff, not_true_eq_false, false_or]
    constructor
    · rintro (⟨rfl, malformed⟩ | ⟨_, _, ⟨rfl, malformed⟩ | ⟨_, _, impossible⟩⟩)
      · exact ⟨rfl, .inl malformed⟩
      · exact ⟨rfl, .inr malformed⟩
      · exact absurd impossible not_refuses_ok
    · rintro ⟨rfl, malformed | malformed⟩
      · exact .inl ⟨rfl, malformed⟩
      · cases first : factor l with
        | error wrong =>
          have named := (factor_refuses_iff l).mp ⟨wrong, first, rfl⟩
          exact .inl ⟨rfl, named.2⟩
        | ok part => exact .inr ⟨part, rfl, .inl ⟨rfl, malformed⟩⟩
  · rw [if_neg ref, refuses_error]
    exact (and_iff_left (.inl ref)).symm

theorem factored_refuses_iff {next : Option (Expr × Expr) → Except Malformed (Option Form)}
    (absent : ¬ Refuses (next none) form)
    (found : ∀ pair, next (some pair) = do return some (← product target pair accumulate)) :
    Refuses (factors? value >>= next) form ↔
      form = "matmul" ∧ (MalformedCall "matmul" 2 value ∨ MalformedProduct target value) := by
  have refused (l r : Expr) : Refuses (next (some (l, r))) form ↔
      form = "matmul" ∧ (¬ Reference target ∨ MalformedCall "vec" 1 l ∨ MalformedCall "vec" 1 r) := by
    rw [found, refuses_bind, product_refuses_iff]
    exact or_iff_left fun ⟨_, _, impossible⟩ => not_refuses_ok impossible
  rw [refuses_bind, factors?_refuses_iff, and_or_left]
  refine or_congr_right ⟨?_, ?_⟩
  · rintro ⟨_ | ⟨l, r⟩, multiplied, given⟩
    · exact absurd given absent
    · obtain ⟨rfl, malformed⟩ := (refused l r).mp given
      exact ⟨rfl, l, r, (factors?_eq_some_iff value l r).mp multiplied, malformed⟩
  · rintro ⟨rfl, l, r, multiplied, malformed⟩
    exact ⟨_, (factors?_eq_some_iff value l r).mpr multiplied, (refused l r).mpr ⟨rfl, malformed⟩⟩

/-! ### The single recognisers -/

theorem assignment?_refuses_iff : Refuses (assignment? (.assign span [target] value)) form ↔ form = "matmul" ∧
    (MalformedCall "matmul" 2 value ∨ (∀ ref, ¬ Whole ref target) ∧ MalformedProduct target value) := by
  rw [assignment?, ← wholeOf?_eq_none_iff]
  cases whole : wholeOf? target with
  | some ref =>
    rw [refuses_bind, factors?_refuses_iff]
    simp only [reduceCtorEq, false_and, or_false]
    refine or_iff_left ?_
    rintro ⟨_ | pair, _, impossible⟩ <;> exact not_refuses_ok impossible
  | none =>
    simp only [true_and]
    exact factored_refuses_iff not_refuses_ok fun _ => rfl

theorem accumulation?_refuses_iff :
    Refuses (accumulation? accumulate (.augmented span target .add value)) form ↔ form = "matmul" ∧ accumulate = true ∧
      (∀ ref, ¬ Whole ref target) ∧ (MalformedCall "matmul" 2 value ∨ MalformedProduct target value) := by
  rw [accumulation?, ← wholeOf?_eq_none_iff]
  by_cases allowed : accumulate = true ∧ wholeOf? target = none
  · simp only [allowed, Option.isNone_none, Bool.and_self, if_true, true_and]
    exact factored_refuses_iff not_refuses_ok fun _ => rfl
  · rw [if_neg (by simpa using allowed)]
    exact iff_of_false not_refuses_ok fun refused => allowed ⟨refused.2.1, refused.2.2.1⟩

theorem elementwise?_refuses_iff : Refuses (elementwise? (.assign span [target] value)) form ↔ form = "elementwise" ∧
    callHead? value = some "elementwise" ∧ (MalformedCall "elementwise" 1 value ∨ ¬ Reference target) := by
  rw [elementwise?, malformedCall_one_iff, ← isReference_iff]
  split
  · rename_i headed
    split
    · rename_i inner given
      split
      · rename_i ref
        exact iff_of_false not_refuses_ok fun refused => refused.2.2.elim (·.2 inner given) (· ref)
      · rename_i ref
        rw [refuses_error]
        exact (and_iff_left ⟨headed, .inr ref⟩).symm
    · rename_i other
      rw [refuses_error]
      exact (and_iff_left ⟨headed, .inl ⟨headed, other⟩⟩).symm
  · rename_i headed
    exact iff_of_false not_refuses_ok fun malformed => headed malformed.2.1

/-! ### All recognisers together -/

theorem assignment?_elementwise (headed : callHead? value = some "elementwise") :
    assignment? (.assign span [target] value) = .ok none := by
  have unmultiplied : factors? value = .ok none := by
    refine (factors?_eq_none_iff value).mpr ⟨fun left right multiplied => ?_, by simp [headed]⟩
    cases multiplied with
    | operator => cases headed
    | call plain => simp [plainCall_head plain] at headed
  have unlisted : assignedOperation? target value = none := by
    simp [assignedOperation?, headed, TableOp.ofName?, TableOp.all, TableOp.name]
  simp [assignment?, unmultiplied, unlisted, bind, Except.bind, pure, Except.pure]

theorem IllFormed.unallocated (refused : IllFormed accumulate form (.assign span [target] value)) :
    allocation? (.assign span [target] value) = none := by
  refine allocation?_other_head fun kind => ?_
  cases refused with
  | arguments malformed =>
    rw [malformed.1]
    cases kind <;> decide
  | product part malformed =>
    obtain ⟨l, r, multiplied, _⟩ := malformed
    exact productOf_other_head multiplied kind
  | elementwise headed =>
    rw [headed]
    cases kind <;> decide

theorem special?_assign_refuses_iff : Refuses (special? accumulate (.assign span [target] value)) form ↔
    IllFormed accumulate form (.assign span [target] value) := by
  rw [special?_assign]
  constructor
  · intro refused
    split at refused
    · exact absurd refused not_refuses_ok
    · split at refused
      · rename_i wrong assigned
        rw [← assigned] at refused
        obtain ⟨rfl, malformed | ⟨part, malformed⟩⟩ := assignment?_refuses_iff.mp refused
        · exact .arguments malformed
        · exact .product part malformed
      · exact absurd refused not_refuses_ok
      · obtain ⟨rfl, headed, malformed⟩ := elementwise?_refuses_iff.mp refused
        exact .elementwise headed malformed
  · intro refused
    rw [refused.unallocated]
    cases refused with
    | arguments malformed =>
      obtain ⟨wrong, assigned, named⟩ := assignment?_refuses_iff.mpr ⟨rfl, .inl malformed⟩
      rw [assigned]
      exact ⟨wrong, rfl, named⟩
    | product part malformed =>
      obtain ⟨wrong, assigned, named⟩ := assignment?_refuses_iff.mpr ⟨rfl, .inr ⟨part, malformed⟩⟩
      rw [assigned]
      exact ⟨wrong, rfl, named⟩
    | elementwise headed malformed =>
      rw [assignment?_elementwise headed]
      exact elementwise?_refuses_iff.mpr ⟨rfl, headed, malformed⟩

theorem special?_refuses_iff (s : Stmt) : Refuses (special? accumulate s) form ↔ IllFormed accumulate form s := by
  cases s with
  | expr span value =>
    rw [special?_expr]
    exact iff_of_false not_refuses_ok nofun
  | assign span targets value =>
    match targets with
    | [target] => exact special?_assign_refuses_iff
    | [] | _ :: _ :: _ => exact iff_of_false not_refuses_ok nofun
  | augmented span target op value =>
    rw [special?_augmented]
    cases op with
    | add =>
      rw [accumulation?_refuses_iff]
      constructor
      · rintro ⟨rfl, allowed, part, malformed⟩
        exact .accumulation allowed part malformed
      · intro refused
        cases refused with
        | accumulation allowed part malformed => exact ⟨rfl, allowed, part, malformed⟩
    | _ => exact iff_of_false not_refuses_ok nofun
  | _ => exact iff_of_false not_refuses_ok nofun

/-- Without expanders, a statement is refused as a form exactly if it fails to spell the form. -/
theorem recognise_refuses_iff (policy : Policy) (depth : Int) (s : Stmt) (form : String)
    (noExpanders : policy.expanders = []) :
    (∃ d, (recognise policy depth s).outcome = .error (.diagnostic d) ∧ d.kind = .malformed ∧
      d.data.lookup "form" = some (.text form)) ↔ IllFormed policy.accumulate form s := by
  rw [recognise_plain policy depth s noExpanders, ← special?_refuses_iff]
  cases special? policy.accumulate s with
  | error wrong => simp [Refuses, Diagnostic.malformedForm]
  | ok found => cases found <;> simp [Refuses]

end

/-- `y[...] = matmul(a)` is refused, though `y[...] += matmul(a)` is not. -/
theorem lone_factor_refused :
    let y : Expr := .subscript ⟨1, 1⟩ (.name ⟨1, 1⟩ "y") (.literal ⟨1, 1⟩ .ellipsis)
    let value : Expr := .call ⟨1, 1⟩ (.name ⟨1, 1⟩ "matmul") [.name ⟨1, 1⟩ "a"] []
    (∃ d, (recognise .standard 1 (.assign ⟨1, 0, 1, 18⟩ [y] value)).outcome = .error (.diagnostic d) ∧ d.kind = .malformed ∧
      d.data.lookup "form" = some (.text "matmul")) ∧
    ¬ ∃ form d, (recognise .standard 1 (.augmented ⟨1, 0, 1, 19⟩ y .add value)).outcome = .error (.diagnostic d) ∧
      d.kind = .malformed ∧ d.data.lookup "form" = some (.text form) := by
  intro y value
  have lone : MalformedCall "matmul" 2 value := by
    refine ⟨rfl, ?_⟩
    rintro args ⟨_, _, same, _⟩
    rw [← (Expr.call.inj same).2.2.1]
    decide
  refine ⟨(recognise_refuses_iff .standard 1 _ _ rfl).mpr (.arguments lone), ?_⟩
  rintro ⟨form, refused⟩
  cases (recognise_refuses_iff .standard 1 _ form rfl).mp refused with
  | accumulation _ part => exact part (.name ⟨1, 1⟩ "y") ⟨.name _ _, _, _, rfl⟩

end Rebind.Update
