import Rebind.Expander
import Rebind.Proofs.Grammar
import Rebind.Proofs.Unplaced
/-!
Expansions of one statement after another. A statement that only an expander takes gives way to its successor,
and the successor to its own; how far this goes and what comes of it is said without regard to budgets first.
Recognition follows these stages as far as the depth allows, asks no expander more than that, and ends as the
grammar without expanders does where the stages end.
-/
namespace Rebind.Update

open Syntax

/-- The name, the call and the expander of a statement that no spelling takes but an expander does. -/
def expandable? (policy : Policy) (s : Stmt) : Option (String × Expr × Expander) :=
  match special? policy.accumulate s with
  | .ok none => expansionOf? policy s
  | _ => none

/-- The statement that an expander puts in the place of another one. -/
def successor? (policy : Policy) (s : Stmt) : Option Stmt :=
  (expandable? policy s).bind fun (_, call, expander) => (asStatement s.span (expander call)).toOption

/-- What a statement has become after a number of expansions. -/
def stage? (policy : Policy) (s : Stmt) : Nat → Option Stmt
  | 0 => some s
  | n + 1 => (stage? policy s n).bind (successor? policy)

/-- The statement gives way to itself, at most at another place. -/
def Repeats (policy : Policy) (s : Stmt) : Prop :=
  ∃ next, successor? policy s = some next ∧ next.unplaced = s.unplaced

/-- No expansion before the given number repeats its statement. -/
def Moves (policy : Policy) (s : Stmt) (n : Nat) : Prop :=
  ∀ i < n, ∀ t, stage? policy s i = some t → ¬ Repeats policy t

/-- Why a statement that an expander would take is given up at a depth. The limit is looked at first, and then no
expander is asked. -/
inductive GivenUp (policy : Policy) (depth : Int) (s : Stmt) : Fault → Prop
  | tooDeep (expandable : (expandable? policy s).isSome) (deep : policy.maxDepth ≤ depth) :
    GivenUp policy depth s (.diagnostic (.expansionFailure s.text depth
      ("exceeded max_expansion_depth=" ++ toString policy.maxDepth)))
  | failed (expandable : expandable? policy s = some (name, call, expander)) (within : depth < policy.maxDepth)
    (failed : expander call = .failed fault) : GivenUp policy depth s fault
  | notTree (expandable : expandable? policy s = some (name, call, expander)) (within : depth < policy.maxDepth)
    (notTree : expander call = .notTree) : GivenUp policy depth s (.expansionNotTree name)
  | repeated (within : depth < policy.maxDepth) (repeats : Repeats policy s) :
    GivenUp policy depth s (.diagnostic (.expansionFailure s.text depth "expansion reproduced its input"))

end Rebind.Update

namespace Rebind

open Syntax

/-- The policies differ in their expanders only, and not in what these make of the calls. -/
structure Policy.Alike (policy other : Policy) (calls : List (String × Expr)) : Prop where
  accumulate : other.accumulate = policy.accumulate
  maxDepth : other.maxDepth = policy.maxDepth
  named : ∀ name, (other.expander? name).isSome = (policy.expander? name).isSome
  answers : ∀ name call, (name, call) ∈ calls →
    (other.expander? name).map (· call) = (policy.expander? name).map (· call)

def Expansion.unplaced : Expansion → Expansion
  | .statement s => .statement s.unplaced
  | .expression e => .expression e.unplaced
  | .notTree => .notTree
  | .failed fault => .failed fault

/-- No expander makes a difference between calls that only stand at different places. -/
def Policy.Placeless (policy : Policy) : Prop :=
  ∀ name expander, policy.expander? name = some expander → ∀ a b : Expr, a.unplaced = b.unplaced →
    (expander a).unplaced = (expander b).unplaced

end Rebind

namespace Rebind.Update

open Syntax

section
variable {policy other : Policy} {s t next : Stmt} {name : String} {call : Expr} {expander : Expander}

theorem stage?_add (n k : Nat) : stage? policy s (n + k) = (stage? policy s n).bind fun t => stage? policy t k := by
  induction k with
  | zero => cases stage? policy s n <;> simp [stage?]
  | succ k ih =>
    rw [← Nat.add_assoc, stage?, ih]
    cases stage? policy s n <;> simp [stage?]

theorem stage?_succ (n : Nat) : stage? policy s (n + 1) = (successor? policy s).bind fun next => stage? policy next n := by
  rw [Nat.add_comm, stage?_add]
  simp [stage?]

/-! ### One statement -/

theorem expandable?_eq_some (given : expandable? policy s = some (name, call, expander)) :
    special? policy.accumulate s = .ok none ∧ expansionOf? policy s = some (name, call, expander) := by
  unfold expandable? at given
  split at given
  · exact ⟨by assumption, given⟩
  · cases given

theorem expansionOf?_eq_some (given : expansionOf? policy s = some (name, call, expander)) :
    ∃ span, s = .expr span call ∧ callHead? call = some name ∧ policy.expander? name = some expander := by
  cases s with
  | expr span value =>
    cases head : callHead? value with
    | none => simp [expansionOf?, head] at given
    | some found =>
      cases behind : policy.expander? found with
      | none => simp [expansionOf?, head, behind] at given
      | some taken =>
        simp only [expansionOf?, head, behind, Option.bind_eq_bind, Option.bind_some, Option.pure_def,
          Option.some.injEq, Prod.mk.injEq] at given
        obtain ⟨rfl, rfl, rfl⟩ := given
        exact ⟨span, rfl, head, behind⟩
  | _ => cases given

theorem recogniseWithin_rest (rest : expandable? policy s = none) (left : Nat) (depth elsewhere : Int) :
    recogniseWithin policy left depth s = ⟨[], (recognise { policy with expanders := [] } elsewhere s).outcome⟩ := by
  rw [recognise_plain _ elsewhere s rfl, recogniseWithin]
  unfold expandable? at rest
  cases special : special? policy.accumulate s with
  | error wrong => rfl
  | ok taken =>
    cases taken with
    | some form => rfl
    | none =>
      rw [special] at rest
      simp only [rest]

theorem recogniseWithin_rest_same {other : Policy} (rest : expandable? policy s = none) (rest' : expandable? other s = none)
    (same : other.accumulate = policy.accumulate) (left more : Nat) (depth : Int) :
    recogniseWithin other more depth s = recogniseWithin policy left depth s := by
  rw [recogniseWithin_rest rest left depth 0, recogniseWithin_rest rest' more depth 0, recognise_plain _ 0 s rfl,
    recognise_plain _ 0 s rfl, same]

theorem recogniseWithin_expandable (given : expandable? policy s = some (name, call, expander)) (left : Nat)
    (depth : Int) :
    recogniseWithin policy left depth s =
      match left with
      | 0 => ⟨[], .error (tooDeep policy s.text depth)⟩
      | left + 1 =>
        match expandOnce s name call expander depth with
        | .error fault => ⟨[], .error fault⟩
        | .ok next =>
          ⟨(name, depth) :: (recogniseWithin policy left (depth + 1) next).expanded,
            (recogniseWithin policy left (depth + 1) next).outcome⟩ := by
  obtain ⟨special, expansion⟩ := expandable?_eq_some given
  have unfolded := recogniseWithin.eq_def policy left depth s
  simp only [special, expansion] at unfolded
  exact unfolded

theorem sameStatement_iff (s : Stmt) (span : Span) (e : Expr) :
    sameStatement s (.expr span e) = true ↔ s.unplaced = (Stmt.expr span e).unplaced := by
  cases s <;> simp [sameStatement, Stmt.unplaced, Expr.same_iff]

theorem expandOnce_eq_ok (given : expandable? policy s = some (name, call, expander))
    (expanded : expandOnce s name call expander depth = .ok next) :
    successor? policy s = some next ∧ ¬ Repeats policy s := by
  obtain ⟨span, rfl, -, -⟩ := expansionOf?_eq_some (expandable?_eq_some given).2
  unfold expandOnce at expanded
  split at expanded
  · cases expanded
  · cases expanded
  · rename_i found
    split at expanded
    · cases expanded
    · rename_i different
      cases expanded
      have reached : successor? policy (.expr span call) = some next := by
        simp [successor?, given, found, Except.toOption]
      refine ⟨reached, ?_⟩
      rintro ⟨again, reached', same⟩
      cases reached.symm.trans reached'
      exact different ((sameStatement_iff _ _ _).mpr same)

theorem expandOnce_eq_error {fault : Fault} (given : expandable? policy s = some (name, call, expander)) {depth : Int}
    (within : depth < policy.maxDepth) (failed : expandOnce s name call expander depth = .error fault) :
    GivenUp policy depth s fault := by
  obtain ⟨span, rfl, -, -⟩ := expansionOf?_eq_some (expandable?_eq_some given).2
  unfold expandOnce at failed
  cases made : expander call with
  | notTree =>
    simp only [made, asStatement, Except.error.injEq] at failed
    subst failed
    exact .notTree given within made
  | failed fault =>
    simp only [made, asStatement, Except.error.injEq] at failed
    subst failed
    exact .failed given within made
  | statement _ | expression _ =>
    simp only [made, asStatement] at failed
    split at failed
    · rename_i same
      cases failed
      refine .repeated within ⟨_, ?_, (sameStatement_iff _ _ _).mp same⟩
      simp [successor?, given, made, asStatement, Except.toOption]
    · cases failed

/-! ### Following the stages -/

theorem moves_zero : Moves policy s 0 := fun i below => absurd below (Nat.not_lt_zero i)

theorem moves_succ (reached : successor? policy s = some next) (moved : ¬ Repeats policy s) (moves : Moves policy next n) :
    Moves policy s (n + 1) := by
  intro i below t stage
  cases i with
  | zero =>
    cases stage
    exact moved
  | succ i =>
    rw [stage?_succ, reached] at stage
    exact moves i (by omega) t stage

theorem recogniseWithin_follows (left : Nat) (depth : Int) (s : Stmt) (limit : left = budget policy depth) :
    ∃ n t, stage? policy s n = some t ∧ Moves policy s n ∧ n ≤ left ∧
      ((expandable? policy t = none ∧ ∀ elsewhere, (recogniseWithin policy left depth s).outcome =
          (recognise { policy with expanders := [] } elsewhere t).outcome) ∨
        ∃ fault, GivenUp policy (depth + n) t fault ∧ (recogniseWithin policy left depth s).outcome = .error fault) := by
  induction left generalizing depth s with
  | zero =>
    refine ⟨0, s, rfl, moves_zero, Nat.le_refl 0, ?_⟩
    cases given : expandable? policy s with
    | none => exact .inl ⟨rfl, fun elsewhere => by rw [recogniseWithin_rest given 0 depth elsewhere]⟩
    | some taken =>
      obtain ⟨name, call, expander⟩ := taken
      have deep : policy.maxDepth ≤ depth := by
        unfold budget at limit
        omega
      rw [recogniseWithin_expandable given]
      exact .inr ⟨_, .tooDeep (by simp [given]) (by simpa using deep), by simp [tooDeep]⟩
  | succ left ih =>
    cases given : expandable? policy s with
    | none =>
      refine ⟨0, s, rfl, moves_zero, Nat.zero_le _, .inl ⟨given, fun elsewhere => ?_⟩⟩
      rw [recogniseWithin_rest given (left + 1) depth elsewhere]
    | some taken =>
      obtain ⟨name, call, expander⟩ := taken
      have within : depth < policy.maxDepth := by
        unfold budget at limit
        omega
      rw [recogniseWithin_expandable given]
      cases expanded : expandOnce s name call expander depth with
      | error fault =>
        have givenUp : GivenUp policy (depth + (0 : Nat)) s fault := by
          simpa using expandOnce_eq_error given within expanded
        exact ⟨0, s, rfl, moves_zero, Nat.zero_le _, .inr ⟨fault, givenUp, rfl⟩⟩
      | ok next =>
        obtain ⟨reached, moved⟩ := expandOnce_eq_ok given expanded
        have limit' : left = budget policy (depth + 1) := by
          unfold budget at limit ⊢
          omega
        obtain ⟨n, t, stage, moves, bound, ends⟩ := ih (depth + 1) next limit'
        have deeper : depth + 1 + (n : Int) = depth + ((n + 1 : Nat) : Int) := by omega
        rw [deeper] at ends
        exact ⟨n + 1, t, by simp [stage?_succ, reached, stage], moves_succ reached moved moves, by omega, ends⟩

theorem expandable?_of_successor? (reached : successor? policy s = some next) : (expandable? policy s).isSome := by
  cases given : expandable? policy s with
  | none => simp [successor?, given] at reached
  | some _ => rfl

theorem successor?_of_later (stage : stage? policy s n = some t) (earlier : i < n) :
    ∃ r next, stage? policy s i = some r ∧ successor? policy r = some next := by
  induction n generalizing t with
  | zero => exact absurd earlier (Nat.not_lt_zero i)
  | succ n ih =>
    obtain ⟨r, stage', reached⟩ := Option.bind_eq_some_iff.mp stage
    by_cases last : i = n
    · subst last
      exact ⟨r, t, stage', reached⟩
    · exact ih stage' (by omega)

theorem GivenUp.repeats {fault : Fault} {depth : Int} (givenUp : GivenUp policy depth s fault)
    (within : depth < policy.maxDepth) (reached : successor? policy s = some next) : Repeats policy s := by
  cases givenUp with
  | tooDeep _ deep => omega
  | failed given _ made | notTree given _ made => simp [successor?, given, made, asStatement, Except.toOption] at reached
  | repeated _ repeats => exact repeats

theorem GivenUp.expandable {fault : Fault} {depth : Int} (givenUp : GivenUp policy depth s fault) :
    (expandable? policy s).isSome := by
  cases givenUp with
  | tooDeep expandable _ => exact expandable
  | failed given _ _ | notTree given _ _ => simp [given]
  | repeated _ repeats =>
    obtain ⟨next, reached, _⟩ := repeats
    exact expandable?_of_successor? reached

theorem recognise_rest {depth : Int} (stage : stage? policy s n = some t) (rest : expandable? policy t = none)
    (limit : n = 0 ∨ depth + n ≤ policy.maxDepth) (moves : Moves policy s n) (elsewhere : Int) :
    (recognise policy depth s).outcome = (recognise { policy with expanders := [] } elsewhere t).outcome := by
  obtain ⟨k, r, stage', _, _, ends⟩ := recogniseWithin_follows (budget policy depth) depth s rfl
  rcases Nat.lt_trichotomy k n with before | same | after
  · -- Before the last stage there is a successor, so nothing is given up unless a stage repeats itself.
    obtain ⟨r', next, stage'', reached⟩ := successor?_of_later stage before
    cases stage'.symm.trans stage''
    rcases ends with ⟨rest', _⟩ | ⟨fault, givenUp, _⟩
    · have expandable := expandable?_of_successor? reached
      simp [rest'] at expandable
    · have within : depth + k < policy.maxDepth := by omega
      exact absurd (givenUp.repeats within reached) (moves k before r stage')
  · subst same
    cases stage.symm.trans stage'
    rcases ends with ⟨_, outcome⟩ | ⟨fault, givenUp, _⟩
    · exact outcome elsewhere
    · have expandable := givenUp.expandable
      simp [rest] at expandable
  · obtain ⟨t', next, stage'', reached⟩ := successor?_of_later stage' after
    cases stage.symm.trans stage''
    have expandable := expandable?_of_successor? reached
    simp [rest] at expandable

/-! ### What expanders are asked -/

section
variable {calls : List (String × Expr)} (alike : policy.Alike other calls)
include alike

theorem alike_expander? (found : policy.expander? name = some expander) :
    ∃ behind, other.expander? name = some behind ∧ ∀ call, (name, call) ∈ calls → behind call = expander call := by
  have named := alike.named name
  rw [found, Option.isSome_some, Option.isSome_iff_exists] at named
  obtain ⟨behind, found'⟩ := named
  refine ⟨behind, found', fun call asked => ?_⟩
  simpa [found, found'] using alike.answers name call asked

theorem alike_rest (rest : expandable? policy s = none) : expandable? other s = none := by
  cases given : expandable? other s with
  | none => rfl
  | some taken =>
    obtain ⟨special, expansion⟩ := expandable?_eq_some given
    obtain ⟨span, rfl, head, found⟩ := expansionOf?_eq_some expansion
    have named := alike.named taken.1
    rw [found, Option.isSome_some, eq_comm, Option.isSome_iff_exists] at named
    obtain ⟨expander, found'⟩ := named
    rw [alike.accumulate] at special
    simp [expandable?, special, expansionOf?, head, found'] at rest

theorem recogniseWithin_alike_rest (rest : expandable? policy s = none) (left : Nat) (depth : Int) :
    recogniseWithin other left depth s = recogniseWithin policy left depth s :=
  recogniseWithin_rest_same rest (alike_rest alike rest) alike.accumulate left left depth

theorem alike_expandable (given : expandable? policy s = some (name, call, expander)) :
    ∃ behind, expandable? other s = some (name, call, behind) ∧ ((name, call) ∈ calls → behind call = expander call) := by
  obtain ⟨special, expansion⟩ := expandable?_eq_some given
  obtain ⟨span, rfl, head, found⟩ := expansionOf?_eq_some expansion
  obtain ⟨behind, found', answers⟩ := alike_expander? alike found
  refine ⟨behind, ?_, answers call⟩
  simp [expandable?, alike.accumulate, special, expansionOf?, head, found']

end

theorem expandOnce_answer {behind : Expander} (answer : behind call = expander call) (depth : Int) :
    expandOnce s name call behind depth = expandOnce s name call expander depth := by
  unfold expandOnce
  rw [answer]

/-- The calls that recognition asks an expander about are those of the first stages, no more than the budget, and
nothing else about the expanders matters. -/
theorem recogniseWithin_asks (policy : Policy) (left : Nat) (depth : Int) (s : Stmt) :
    ∃ calls : List (String × Expr), calls.length ≤ left ∧
      (∀ i name call, calls[i]? = some (name, call) → ∃ t expander, stage? policy s i = some t ∧
        expandable? policy t = some (name, call, expander)) ∧
      ∀ other, policy.Alike other calls → recogniseWithin other left depth s = recogniseWithin policy left depth s := by
  induction left generalizing depth s with
  | zero =>
    refine ⟨[], Nat.le_refl 0, by simp, fun other alike => ?_⟩
    cases given : expandable? policy s with
    | none => exact recogniseWithin_alike_rest alike given 0 depth
    | some taken =>
      obtain ⟨behind, given', _⟩ := alike_expandable alike given
      rw [recogniseWithin_expandable given, recogniseWithin_expandable given', tooDeep, tooDeep, alike.maxDepth]
  | succ left ih =>
    cases given : expandable? policy s with
    | none =>
      exact ⟨[], Nat.zero_le _, by simp, fun other alike => recogniseWithin_alike_rest alike given (left + 1) depth⟩
    | some taken =>
      obtain ⟨name, call, expander⟩ := taken
      cases expanded : expandOnce s name call expander depth with
      | error fault =>
        refine ⟨[(name, call)], by simp, ?_, fun other alike => ?_⟩
        · intro i name' call' asked
          cases i with
          | zero =>
            cases asked
            exact ⟨s, expander, rfl, given⟩
          | succ i => cases asked
        · obtain ⟨behind, given', answer⟩ := alike_expandable alike given
          rw [recogniseWithin_expandable given, recogniseWithin_expandable given']
          simp only [expandOnce_answer (answer (by simp)), expanded]
      | ok next =>
        obtain ⟨reached, _⟩ := expandOnce_eq_ok given expanded
        obtain ⟨calls, bound, asked, enough⟩ := ih (depth + 1) next
        refine ⟨(name, call) :: calls, by simpa using bound, ?_, fun other alike => ?_⟩
        · intro i name' call' found
          cases i with
          | zero =>
            cases found
            exact ⟨s, expander, rfl, given⟩
          | succ i =>
            obtain ⟨t, expander', stage, given'⟩ := asked i name' call' found
            exact ⟨t, expander', by simp [stage?_succ, reached, stage], given'⟩
        · obtain ⟨behind, given', answer⟩ := alike_expandable alike given
          have alike' : policy.Alike other calls :=
            ⟨alike.accumulate, alike.maxDepth, alike.named,
              fun name' call' member => alike.answers name' call' (List.mem_cons_of_mem _ member)⟩
          rw [recogniseWithin_expandable given, recogniseWithin_expandable given']
          simp only [expandOnce_answer (answer (by simp)), expanded, enough other alike']

/-! ### Expanders that do not look at positions -/

@[simp] theorem callHead?_unplaced (e : Expr) : callHead? e.unplaced = callHead? e := by
  cases e with
  | call _ f _ _ => cases f <;> rfl
  | _ => rfl

@[simp] theorem isReference_unplaced (e : Expr) : isReference e.unplaced = isReference e := by
  fun_induction isReference e with
  | case1 => rfl
  | case2 _ value _ ih => simpa [Expr.unplaced, isReference] using ih
  | case3 e notName notAttribute => cases e <;> simp_all [Expr.unplaced, isReference]

theorem isStarred_unplaced (e : Expr) : isStarred e.unplaced = isStarred e := by
  cases e <;> rfl

theorem unplacedList_eq_map (es : List Expr) : unplacedList es = es.map Expr.unplaced := by
  induction es with
  | nil => rfl
  | cons e es ih => rw [unplacedList, ih, List.map_cons]

@[simp] theorem plainArgs?_unplaced (e : Expr) : plainArgs? e.unplaced = (plainArgs? e).map (List.map Expr.unplaced) := by
  cases e with
  | call _ f args keywords =>
    cases keywords with
    | nil =>
      have starred : (args.map Expr.unplaced).any isStarred = args.any isStarred := by
        simp [List.any_map, Function.comp_def, isStarred_unplaced]
      simp only [Expr.unplaced, unplacedKeywords, unplacedList_eq_map, plainArgs?, starred]
      split <;> rfl
    | cons _ _ => rfl
  | _ => rfl

theorem axpy?_unplaced (span : Span) (e : Expr) :
    (axpy? (.expr default e.unplaced)).isSome = (axpy? (.expr span e)).isSome := by
  simp only [axpy?, argsOf?, callHead?_unplaced, plainArgs?_unplaced]
  cases plainArgs? e with
  | none => rfl
  | some args =>
    rcases args with _ | ⟨_, _ | ⟨_, _ | ⟨y, _ | ⟨y', _ | _⟩⟩⟩⟩ <;> by_cases first : callHead? e = some "axpy" <;>
      by_cases second : callHead? e = some "axpby" <;> simp [first, second, apply_ite Option.isSome]

theorem operationCall?_unplaced (span : Span) (e : Expr) :
    (operationCall? (.expr default e.unplaced)).isSome = (operationCall? (.expr span e)).isSome := by
  simp only [operationCall?, callHead?_unplaced, plainArgs?_unplaced]
  cases (callHead? e).bind TableOp.ofName? with
  | none => rfl
  | some op =>
    cases plainArgs? e with
    | none => rfl
    | some args => cases args <;> simp [apply_ite Option.isSome]

theorem special?_call (accumulate : Bool) (span : Span) (e : Expr) : special? accumulate (.expr span e) = .ok none ↔
    (axpy? (.expr span e)).isSome = false ∧ (operationCall? (.expr span e)).isSome = false := by
  have others : allocation? (.expr span e) = none := rfl
  unfold special?
  rw [others]
  cases axpy? (.expr span e) with
  | some _ => simp
  | none =>
    cases operationCall? (.expr span e) with
    | some _ => simp
    | none => simp [assignment?, elementwise?, accumulation?, bind, Except.bind]

theorem expandable?_unplaced {a b : Expr} {span : Span}
    (given : expandable? policy (.expr span a) = some (name, call, expander)) (same : b.unplaced = a.unplaced)
    (span' : Span) : expandable? policy (.expr span' b) = some (name, b, expander) := by
  obtain ⟨special, expansion⟩ := expandable?_eq_some given
  obtain ⟨_, here, head, found⟩ := expansionOf?_eq_some expansion
  cases here
  have special' : special? policy.accumulate (.expr span' b) = .ok none := by
    rw [special?_call, ← axpy?_unplaced, ← operationCall?_unplaced] at special ⊢
    rw [same]
    exact special
  have head' : callHead? b = some name := by rw [← callHead?_unplaced, same, callHead?_unplaced, head]
  simp [expandable?, special', expansionOf?, head', found]

theorem asStatement_unplaced {made made' : Expansion} {span : Span} (same : made.unplaced = made'.unplaced)
    (first : asStatement span made = .ok s) (span' : Span) :
    ∃ t, asStatement span' made' = .ok t ∧ t.unplaced = s.unplaced := by
  cases made <;> cases made' <;> simp_all [Expansion.unplaced, asStatement]
  · rw [← first, Stmt.moved_unplaced, Stmt.moved_unplaced, same]
  · rw [← first, Stmt.unplaced, Stmt.unplaced, same]

theorem Repeats.successor (placeless : policy.Placeless) (repeats : Repeats policy s)
    (reached : successor? policy s = some next) : Repeats policy next := by
  obtain ⟨_, reached', same⟩ := repeats
  cases reached.symm.trans reached'
  obtain ⟨⟨name, call, expander⟩, given, made⟩ := Option.bind_eq_some_iff.mp reached
  obtain ⟨span, rfl, _, found⟩ := expansionOf?_eq_some (expandable?_eq_some given).2
  cases next with
  | expr span' e =>
    have same' : e.unplaced = call.unplaced := by simpa [Stmt.unplaced] using same
    have given' := expandable?_unplaced given same' span'
    have made' : asStatement (Stmt.expr span call).span (expander call) = .ok (.expr span' e) := by
      cases h : asStatement (Stmt.expr span call).span (expander call) <;> simp_all [Except.toOption]
    obtain ⟨t, again, same''⟩ := asStatement_unplaced (placeless name expander found call e same'.symm) made' span'
    refine ⟨t, ?_, same''⟩
    simp [successor?, given', Stmt.span, again, Except.toOption]
  | _ => simp [Stmt.unplaced] at same

theorem Repeats.stage? (placeless : policy.Placeless) (repeats : Repeats policy s) (n : Nat) :
    ∃ t, stage? policy s n = some t ∧ Repeats policy t := by
  induction n generalizing s with
  | zero => exact ⟨s, rfl, repeats⟩
  | succ n ih =>
    obtain ⟨next, reached, _⟩ := id repeats
    obtain ⟨t, stage, repeats'⟩ := ih (repeats.successor placeless reached)
    exact ⟨t, by rw [stage?_succ, reached, Option.bind_some, stage], repeats'⟩

theorem moves_of_rest (placeless : policy.Placeless) (stage : stage? policy s n = some t)
    (rest : expandable? policy t = none) : Moves policy s n := by
  intro i below r stage' repeats
  obtain ⟨k, rfl⟩ := Nat.exists_eq_add_of_lt below
  obtain ⟨t', stage'', next, reached, _⟩ := repeats.stage? placeless (k + 1)
  rw [Nat.add_assoc, stage?_add, stage', Option.bind_some, stage''] at stage
  cases stage
  have expandable := expandable?_of_successor? reached
  simp [rest] at expandable

/-! ### The whole of recognition -/

/-- `first(y, x)` stands for `second(y, x)`, and that for `y[...] = x`. -/
def relay : Policy :=
  { Policy.standard with
    maxDepth := 3
    expanders := [("first", Expander.rename "second" false), ("second", fun _ => .statement filling)] }
where
  filling : Stmt :=
    .assign ⟨1, 0, 1, 10⟩ [.subscript ⟨1, 1⟩ (.name ⟨1, 1⟩ "y") (.literal ⟨1, 1⟩ .ellipsis)] (.name ⟨1, 1⟩ "x")

def relayed (head : String) : Stmt :=
  .expr ⟨7, 0, 7, 11⟩ (.call ⟨7, 7⟩ (.name ⟨7, 7⟩ head) [.name ⟨7, 7⟩ "y", .name ⟨7, 7⟩ "x"] [])

theorem relay_moves : Moves relay (relayed "first") 2 := by
  intro i below t stage
  rintro ⟨next, reached, same⟩
  obtain rfl | rfl : i = 0 ∨ i = 1 := by omega
  all_goals
    cases stage
    cases reached
    exact absurd ((sameStatement_iff _ _ _).mpr same) (by decide +kernel)

/-- From one level deeper the second of them is refused, and no expander is asked about it. -/
example : (recognise relay 2 (relayed "first")).outcome = .error (tooDeep relay (relayed "second").text 3) := rfl

end
end Rebind.Update
