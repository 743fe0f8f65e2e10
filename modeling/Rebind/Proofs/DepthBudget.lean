import Rebind.Proofs.Expansion
import Rebind.Proofs.Nesting
/-!
Nesting and expansion draw on one budget. A leaf inside `k` blocks that needs `n` expansions is replaced exactly if
`k + n` stays below the limit, and the first block or leaf that does not keep to this decides the fault. A larger
limit changes nothing about what goes through under a smaller one.
-/
namespace Rebind.Update

open Syntax

/-! ### Blocks and leaves -/

/-- A block or a leaf, with the number of blocks around it. -/
structure Nested where
  around : Nat
  statement : Stmt

mutual

/-- The blocks and the leaves of a statement in the order of the source, each block before what is in it. -/
def nestedIn (policy : Policy) (around : Nat) : Stmt → List Nested
  | .withBlock span isAsync items body =>
    if policy.isBlock (.withBlock span isAsync items body) then
      ⟨around, .withBlock span isAsync items body⟩ :: nestedThrough policy (around + 1) body
    else [⟨around, .withBlock span isAsync items body⟩]
  | s => [⟨around, s⟩]

/-- The blocks and the leaves of a body in the order of the source. -/
def nestedThrough (policy : Policy) (around : Nat) : List Stmt → List Nested
  | [] => []
  | s :: rest => nestedIn policy around s ++ nestedThrough policy around rest

end

/-- By the given number of expansions, none of which repeats its statement, the statement becomes one of the grammar. -/
structure ComesTo (policy : Policy) (s : Stmt) (count : Nat) (last : Stmt) : Prop where
  reached : stage? policy s count = some last
  moves : Moves policy s count
  spelt : ∃ form, Spells policy.accumulate form last

/-- The block or the leaf does not keep to the limit, and this is the fault it is refused with. A block needs room for
one more level, a leaf for its expansions; the fault shows the stage at which the limit is met. -/
inductive Refused (policy : Policy) : Nested → Fault → Prop
  | block (marked : policy.isBlock s = true) (deep : policy.maxDepth ≤ around + 1) :
    Refused policy ⟨around, s⟩ (tooDeep policy (headLine s) (around + 1 : Nat))
  | leaf (unmarked : policy.isBlock s = false) (comes : ComesTo policy s count last)
    (deep : policy.maxDepth ≤ around + count)
    (met : stage? policy s (policy.maxDepth - (around + 1)) = some stage) :
    Refused policy ⟨around, s⟩ (tooDeep policy stage.text policy.maxDepth)

/-! ### One leaf -/

section
variable {policy : Policy} {s last stage : Stmt} {count : Nat}

theorem Spells.rest (spelt : Spells policy.accumulate form s) : expandable? policy s = none := by
  rcases spelt.taken with special | ⟨absent, left⟩
  · simp [expandable?, special]
  · unfold expandable?
    rw [absent]
    cases s with
    | expr span value => cases left
    | _ => rfl

theorem Spells.recognised (policy : Policy) (spelt : Spells policy.accumulate form s)
    (noExpanders : policy.expanders = []) (depth : Int) : (recognise policy depth s).outcome = .ok form := by
  rw [recognise_plain policy depth s noExpanders]
  rcases spelt.taken with special | ⟨absent, left⟩
  · rw [special]
  · simp [absent, general, left]

theorem ComesTo.rest (comes : ComesTo policy s count last) : expandable? policy last = none := by
  obtain ⟨form, spelt⟩ := comes.spelt
  exact spelt.rest

theorem ComesTo.unique (comes : ComesTo policy s count last) (again : ComesTo policy s other end_) : other = count := by
  -- The shorter way would end at a statement that still has a successor.
  have longer {n k : Nat} {t r : Stmt} (first : ComesTo policy s n t) (second : ComesTo policy s k r) : ¬ n < k := by
    intro shorter
    obtain ⟨t', next, stage, reached⟩ := successor?_of_later second.reached shorter
    cases first.reached.symm.trans stage
    have expandable := expandable?_of_successor? reached
    simp [first.rest] at expandable
  have notBefore := longer comes again
  have notAfter := longer again comes
  omega

theorem ComesTo.settles (comes : ComesTo policy s count last) (around : Nat)
    (room : count = 0 ∨ around + count < policy.maxDepth) : ∃ form, settled policy (around + 1 : Nat) s = .ok form := by
  obtain ⟨form, spelt⟩ := comes.spelt
  refine ⟨form, (settled_eq_ok_iff _ _ _ _).mpr ⟨?_, ?_⟩⟩
  · have limit : count = 0 ∨ ((around + 1 : Nat) : Int) + count ≤ policy.maxDepth := by omega
    rw [recognise_rest comes.reached comes.rest limit comes.moves 0]
    exact Spells.recognised { policy with expanders := [] } spelt rfl 0
  · rintro statement rfl
    exact spelt.supported rfl

theorem stage?_of_later (reached : stage? policy s count = some last) (earlier : i ≤ count) :
    ∃ stage, stage? policy s i = some stage := by
  obtain ⟨later, rfl⟩ := Nat.exists_eq_add_of_le earlier
  rw [stage?_add] at reached
  obtain ⟨stage, here, _⟩ := Option.bind_eq_some_iff.mp reached
  exact ⟨stage, here⟩

theorem ComesTo.refused (comes : ComesTo policy s count last) (around : Nat) (inside : around + 1 ≤ policy.maxDepth)
    (tooMany : policy.maxDepth ≤ around + count) (met : stage? policy s (policy.maxDepth - (around + 1)) = some stage) :
    settled policy (around + 1 : Nat) s = .error (tooDeep policy stage.text policy.maxDepth) := by
  obtain ⟨k, t, reached, _, bound, ends⟩ :=
    recogniseWithin_follows (budget policy (around + 1 : Nat)) (around + 1 : Nat) s rfl
  unfold budget at bound
  have early : k < count := by omega
  obtain ⟨t', next, reached', step⟩ := successor?_of_later comes.reached early
  cases reached.symm.trans reached'
  rcases ends with ⟨rest, _⟩ | ⟨fault, givenUp, outcome⟩
  · have expandable := expandable?_of_successor? step
    simp [rest] at expandable
  · -- No stage before the limit is given up, since each has a successor and none repeats itself.
    have deep : ¬ ((around + 1 : Nat) : Int) + k < policy.maxDepth := by
      intro within
      exact comes.moves k early t reached (givenUp.repeats within step)
    have here : k = policy.maxDepth - (around + 1) := by omega
    subst here
    cases reached.symm.trans met
    have outcome' : (recognise policy (around + 1 : Nat) s).outcome = .error fault := outcome
    have place : ((around + 1 : Nat) : Int) + ((policy.maxDepth - (around + 1) : Nat) : Int) = policy.maxDepth := by omega
    rw [place] at givenUp
    unfold settled
    rw [outcome']
    cases givenUp with
    | tooDeep _ _ => rfl
    | failed _ within _ | notTree _ within _ | repeated within _ => omega

end

/-! ### What is met first -/

def Nested.fault? (policy : Policy) (nested : Nested) : Option Fault :=
  if policy.isBlock nested.statement then
    if policy.maxDepth ≤ nested.around + 1 then
      some (tooDeep policy (headLine nested.statement) (nested.around + 1 : Nat))
    else none
  else
    match settled policy (nested.around + 1 : Nat) nested.statement with
    | .error fault => some fault
    | .ok _ => none

section
variable (policy : Policy)

theorem nestedIn_kept (around : Nat) (kept : policy.isBlock s = false) : nestedIn policy around s = [⟨around, s⟩] := by
  cases s <;> simp [nestedIn, kept]

theorem fault?_leaf (around : Nat) (s : Stmt) (leaf : policy.isBlock s = false) :
    List.findSome? (Met.fault? policy) [⟨(around + 1 : Nat), s⟩] =
      List.findSome? (Nested.fault? policy) [⟨around, s⟩] := by
  simp only [List.findSome?_cons, List.findSome?_nil, Met.fault?, Nested.fault?, leaf, Bool.false_eq_true, ↓reduceIte]
  cases verdict : settled policy (around + 1 : Nat) s with
  | error fault => rw [lowerStatement_refused verdict]
  | ok form =>
    obtain ⟨replaced, after, outcome, _⟩ := lowerStatement_taken verdict {}
    rw [outcome]

variable (around : Nat) (body : List Stmt)

theorem metThrough_fault : (metThrough policy (around + 1 : Nat) body).findSome? (Met.fault? policy) =
      (nestedThrough policy around body).findSome? (Nested.fault? policy) := by
  induction body using nested_induction policy generalizing around with
  | nil => rfl
  | leaf s rest kept ih =>
    rw [metThrough, nestedThrough, metIn_kept kept _, nestedIn_kept policy _ kept, List.findSome?_append,
      List.findSome?_append, fault?_leaf policy around s kept, ih]
  | block span isAsync items body rest marked inner ih =>
    rw [metThrough, nestedThrough, List.findSome?_append, List.findSome?_append, ih, metIn, nestedIn]
    congr 1
    by_cases goes : around + 1 < policy.maxDepth
    · have goes' : ((around + 1 : Nat) : Int) < policy.maxDepth := by omega
      have shallow : ¬ policy.maxDepth ≤ around + 1 := by omega
      simp only [marked, goes', decide_true, Bool.and_self, ↓reduceIte, List.findSome?_cons, Nested.fault?, shallow]
      exact inner (around + 1)
    · have stops : ¬ ((around + 1 : Nat) : Int) < policy.maxDepth := by omega
      have deep : policy.maxDepth ≤ around + 1 := by omega
      simp only [marked, stops, decide_false, Bool.and_false, Bool.false_eq_true, ↓reduceIte, List.findSome?_cons,
        Met.fault?, Nested.fault?, deep]

/-! ### The blocks around a leaf -/

theorem nestedThrough_enclosed (before after : List Nested) (nested : Nested)
    (split : nestedThrough policy around body = before ++ nested :: after) (deeper : around < nested.around) :
    ∃ block ∈ before, policy.isBlock block.statement = true ∧ block.around + 1 = nested.around := by
  induction body using nested_induction policy generalizing around before after with
  | nil => simp [nestedThrough] at split
  | leaf s rest kept ih =>
    rw [nestedThrough, nestedIn_kept policy around kept, List.singleton_append, List.cons_eq_append_iff] at split
    rcases split with ⟨rfl, same⟩ | ⟨before, rfl, later⟩
    · cases same
      simp at deeper
    · obtain ⟨block, member, found⟩ := ih around before after later deeper
      exact ⟨block, List.mem_cons_of_mem _ member, found⟩
  | block span isAsync items body rest marked inner ih =>
    rw [nestedThrough, nestedIn, if_pos marked, List.cons_append, List.cons_eq_append_iff] at split
    rcases split with ⟨rfl, same⟩ | ⟨before, rfl, split⟩
    · cases same
      simp at deeper
    · rcases List.append_eq_append_iff.mp split with ⟨between, rfl, later⟩ | ⟨between, first, later⟩
      · obtain ⟨block, member, found⟩ := ih around between after later deeper
        exact ⟨block, by simp [member], found⟩
      · -- One level further in there may be a block right around; if not, the block entered here is the one.
        by_cases further : around + 1 < nested.around
        · cases between with
          | nil =>
            obtain ⟨block, member, _⟩ := ih around [] after (by simpa using later.symm) deeper
            cases member
          | cons head between =>
            cases later
            obtain ⟨block, member, found⟩ := inner (around + 1) before between first further
            exact ⟨block, List.mem_cons_of_mem _ member, found⟩
        · exact ⟨_, List.mem_cons_self, marked, by simp only; omega⟩

theorem nestedThrough_leaf (filled : BlocksFilled policy body) (some : body ≠ []) :
    ∃ leaf ∈ nestedThrough policy around body, policy.isBlock leaf.statement = false ∧ around ≤ leaf.around := by
  induction body using nested_induction policy generalizing around with
  | nil => exact absurd rfl some
  | leaf s rest kept ih => simp [nestedThrough, nestedIn_kept policy around kept, kept]
  | block span isAsync items body rest marked inner ih =>
    obtain ⟨within, full⟩ := filled.1 marked
    obtain ⟨leaf, member, unmarked, deep⟩ := inner (around + 1) full within
    exact ⟨leaf, by simp [nestedThrough, nestedIn, marked, member], unmarked, by omega⟩

theorem nestedThrough_filled (filled : BlocksFilled policy body) (block : Nested)
    (member : block ∈ nestedThrough policy around body) (marked : policy.isBlock block.statement = true) :
    ∃ leaf ∈ nestedThrough policy around body, policy.isBlock leaf.statement = false ∧ block.around < leaf.around := by
  induction body using nested_induction policy generalizing around with
  | nil => simp [nestedThrough] at member
  | leaf s rest kept ih =>
    simp only [nestedThrough, nestedIn_kept policy around kept, List.singleton_append, List.mem_cons] at member ⊢
    rcases member with rfl | later
    · simp [kept] at marked
    · obtain ⟨leaf, found, inside⟩ := ih around filled.2 later
      exact ⟨leaf, .inr found, inside⟩
  | block span isAsync items body rest outer inner ih =>
    obtain ⟨within, full⟩ := filled.1 outer
    simp only [nestedThrough, nestedIn, outer, ↓reduceIte, List.cons_append, List.mem_cons, List.mem_append] at member ⊢
    rcases member with rfl | first | later
    · obtain ⟨leaf, found, unmarked, deep⟩ := nestedThrough_leaf policy (around + 1) body full within
      exact ⟨leaf, .inr (.inl found), unmarked, deep⟩
    · obtain ⟨leaf, found, inside⟩ := inner (around + 1) full first
      exact ⟨leaf, .inr (.inl found), inside⟩
    · obtain ⟨leaf, found, inside⟩ := ih around filled.2 later
      exact ⟨leaf, .inr (.inr found), inside⟩

end

/-! ### Refusals -/

section
variable {policy : Policy} {body : List Stmt} {before after : List Nested} {nested : Nested}

theorem fault?_block (marked : policy.isBlock nested.statement = true) :
    nested.fault? policy = none ↔ nested.around + 1 < policy.maxDepth := by
  unfold Nested.fault?
  by_cases deep : policy.maxDepth ≤ nested.around + 1
  · simp only [marked, deep, ↓reduceIte, reduceCtorEq, false_iff]
    omega
  · simp only [marked, deep, ↓reduceIte, true_iff]
    omega

section
variable (positive : 0 < policy.maxDepth) (split : nestedThrough policy 0 body = before ++ nested :: after)
  (quiet : ∀ earlier ∈ before, earlier.fault? policy = none)
include positive split quiet

theorem nested_inside : nested.around < policy.maxDepth := by
  by_cases outermost : nested.around = 0
  · omega
  · obtain ⟨block, member, marked, below⟩ :=
      nestedThrough_enclosed policy 0 body before after nested split (by omega)
    have goes := (fault?_block marked).mp (quiet block member)
    omega

theorem fault?_eq_some_iff
    (comes : policy.isBlock nested.statement = false → ∃ count last, ComesTo policy nested.statement count last)
    (fault : Fault) : nested.fault? policy = some fault ↔ Refused policy nested fault := by
  have inside := nested_inside positive split quiet
  obtain ⟨around, s⟩ := nested
  simp only at inside comes
  cases marked : policy.isBlock s with
  | true =>
    constructor
    · intro found
      by_cases deep : policy.maxDepth ≤ around + 1
      · simp only [Nested.fault?, marked, deep, ↓reduceIte, Option.some.injEq] at found
        subst found
        exact .block marked deep
      · simp [Nested.fault?, marked, deep] at found
    · intro refused
      cases refused with
      | block _ deep => simp [Nested.fault?, marked, deep]
      | leaf unmarked _ _ _ => simp [unmarked] at marked
  | false =>
    obtain ⟨count, last, comes⟩ := comes marked
    simp only [Nested.fault?, marked, Bool.false_eq_true, ↓reduceIte]
    constructor
    · intro found
      have tooMany : policy.maxDepth ≤ around + count := by
        apply Nat.le_of_not_lt
        intro within
        obtain ⟨form, taken⟩ := comes.settles around (.inr within)
        rw [taken] at found
        cases found
      obtain ⟨stage, met⟩ := stage?_of_later comes.reached
        (show policy.maxDepth - (around + 1) ≤ count by omega)
      rw [comes.refused around inside tooMany met, Option.some.injEq] at found
      subst found
      exact .leaf marked comes tooMany met
    · intro refused
      cases refused with
      | block unmarked _ => simp [marked] at unmarked
      | leaf _ comes tooMany met => rw [comes.refused around inside tooMany met]

end

def LeavesCome (policy : Policy) (body : List Stmt) : Prop :=
  ∀ leaf ∈ nestedThrough policy 0 body, policy.isBlock leaf.statement = false →
    ∃ count last, ComesTo policy leaf.statement count last

theorem lowerBlock_error_iff (policy : Policy) (body : List Stmt) (progress : Progress) (fault : Fault) :
    (lowerBlock policy 1 body progress).1 = .error fault ↔
      (nestedThrough policy 0 body).findSome? (Nested.fault? policy) = some fault := by
  rw [← metThrough_fault policy 0 body, lowerBlock_eq_lowerMet, lowerMet_error_iff]
  rfl

theorem first_refused {fault : Fault} (positive : 0 < policy.maxDepth) (comes : LeavesCome policy body)
    (found : (nestedThrough policy 0 body).findSome? (Nested.fault? policy) = some fault) :
    ∃ before first after, nestedThrough policy 0 body = before ++ first :: after ∧
      (∀ earlier ∈ before, ∀ fault, ¬ Refused policy earlier fault) ∧ Refused policy first fault := by
  obtain ⟨before, first, after, split, here, quiet⟩ := List.findSome?_eq_some_iff.mp found
  refine ⟨before, first, after, split, ?_, ?_⟩
  · intro earlier member other refused
    obtain ⟨start, rest, rfl⟩ := List.append_of_mem member
    rw [List.append_assoc, List.cons_append] at split
    have quiet' : ∀ e ∈ start, e.fault? policy = none := fun e held => quiet e (List.mem_append_left _ held)
    have found := (fault?_eq_some_iff positive split quiet' (comes earlier (by simp [split])) other).mpr refused
    rw [quiet earlier member] at found
    cases found
  · exact (fault?_eq_some_iff positive split quiet (comes first (by simp [split])) fault).mp here

theorem leaf_within (positive : 0 < policy.maxDepth) (quiet : ∀ e ∈ nestedThrough policy 0 body, e.fault? policy = none)
    (member : nested ∈ nestedThrough policy 0 body) (unmarked : policy.isBlock nested.statement = false)
    (comes : ComesTo policy nested.statement count last) : nested.around + count < policy.maxDepth := by
  apply Nat.lt_of_not_le
  intro tooMany
  obtain ⟨before, after, split⟩ := List.append_of_mem member
  have quiet' : ∀ e ∈ before, e.fault? policy = none := fun e held => quiet e (by simp [split, held])
  obtain ⟨stage, met⟩ := stage?_of_later comes.reached
    (show policy.maxDepth - (nested.around + 1) ≤ count by omega)
  have refused : Refused policy nested (tooDeep policy stage.text policy.maxDepth) := .leaf unmarked comes tooMany met
  have found := (fault?_eq_some_iff positive split quiet' (fun _ => ⟨count, last, comes⟩) _).mpr refused
  rw [quiet nested member] at found
  cases found

theorem Refused.leaf_over {fault : Fault} (refused : Refused policy nested fault) (filled : BlocksFilled policy body)
    (comes : LeavesCome policy body) (member : nested ∈ nestedThrough policy 0 body) :
    ∃ leaf ∈ nestedThrough policy 0 body, policy.isBlock leaf.statement = false ∧
      ∃ count last, ComesTo policy leaf.statement count last ∧ policy.maxDepth ≤ leaf.around + count := by
  cases refused with
  | block marked deep =>
    obtain ⟨leaf, found, unmarked, inside⟩ := nestedThrough_filled policy 0 body filled _ member marked
    obtain ⟨count, last, reached⟩ := comes leaf found unmarked
    simp only at inside
    exact ⟨leaf, found, unmarked, count, last, reached, by omega⟩
  | leaf unmarked reached tooMany _ => exact ⟨_, member, unmarked, _, _, reached, tooMany⟩

end

/-! ### Larger limits -/

section
variable {policy : Policy} {larger : Nat}

theorem recogniseWithin_larger (found : (recogniseWithin policy left depth s).outcome = .ok form)
    (enough : left ≤ more) :
    recogniseWithin { policy with maxDepth := larger } more depth s = recogniseWithin policy left depth s := by
  induction left generalizing more depth s with
  | zero =>
    cases given : expandable? policy s with
    | none => exact recogniseWithin_rest_same given (by exact given) (by rfl) 0 more depth
    | some taken => simp [recogniseWithin_expandable given] at found
  | succ left ih =>
    cases given : expandable? policy s with
    | none => exact recogniseWithin_rest_same given (by exact given) (by rfl) _ more depth
    | some taken =>
      obtain ⟨name, call, expander⟩ := taken
      have given' : expandable? { policy with maxDepth := larger } s = some (name, call, expander) := given
      obtain ⟨more, rfl⟩ : ∃ fewer, more = fewer + 1 := ⟨more - 1, by omega⟩
      rw [recogniseWithin_expandable given] at found ⊢
      rw [recogniseWithin_expandable given']
      cases expanded : expandOnce s name call expander depth with
      | error fault => simp [expanded] at found
      | ok next =>
        simp only [expanded] at found ⊢
        rw [ih found (Nat.le_of_succ_le_succ enough)]

theorem lowerLeaf_larger (done : lowerLeaf policy depth s progress = (.ok out, after)) (le : policy.maxDepth ≤ larger) :
    lowerLeaf { policy with maxDepth := larger } depth s progress = (.ok out, after) := by
  have same : recognise { policy with maxDepth := larger } depth s = recognise policy depth s := by
    cases found : (recognise policy depth s).outcome with
    | error fault => simp [lowerLeaf, lowerStatement, found] at done
    | ok form =>
      apply recogniseWithin_larger found
      unfold budget
      simp only
      omega
  rw [← done]
  simp only [lowerLeaf, lowerStatement, same]

mutual

theorem lowerNested_larger (s : Stmt) (done : lowerNested policy depth s progress = (.ok out, after))
    (le : policy.maxDepth ≤ larger) :
    lowerNested { policy with maxDepth := larger } depth s progress = (.ok out, after) := by
  cases s with
  | withBlock span isAsync items body =>
    rw [lowerNested] at done ⊢
    have marks : Policy.isBlock { policy with maxDepth := larger } (.withBlock span isAsync items body) =
        policy.isBlock (.withBlock span isAsync items body) := rfl
    by_cases block : policy.isBlock (.withBlock span isAsync items body) = true
    · by_cases deep : (policy.maxDepth : Int) ≤ depth
      · simp [block, deep] at done
      · have goes : ¬ (larger : Int) ≤ depth := by omega
        simp only [block, deep, ↓reduceIte] at done
        simp only [marks, block, goes, ↓reduceIte]
        exact lowerBlock_larger body done le
    · simp only [block, Bool.false_eq_true, ↓reduceIte] at done
      simp only [marks, block, Bool.false_eq_true, ↓reduceIte]
      exact lowerLeaf_larger done le
  | _ => exact lowerLeaf_larger done le

theorem lowerBlock_larger (body : List Stmt) (done : lowerBlock policy depth body progress = (.ok out, after))
    (le : policy.maxDepth ≤ larger) :
    lowerBlock { policy with maxDepth := larger } depth body progress = (.ok out, after) := by
  cases body with
  | nil => exact done
  | cons s rest =>
    rw [lowerBlock_cons] at done ⊢
    rcases first : lowerNested policy depth s progress with ⟨_ | replaced, between⟩
    · simp [first] at done
    · rw [lowerNested_larger s first le]
      simp only [first, followed_ok] at done ⊢
      rcases later : lowerBlock policy depth rest between with ⟨_ | tail, last⟩
      · simp [later] at done
      · rw [lowerBlock_larger rest later le]
        simpa only [later, followed_ok] using done

end

end

/-! ### Whole bodies -/

/-- Blocks and expansions share the limit of depth, which is positive in every checked policy. If every leaf comes to
a statement of the grammar, a body is replaced exactly if each leaf, inside `k` blocks and with `n` expansions, has
`k + n` below the limit. Otherwise the fault is that of the first block or leaf, in the order of the source, that does
not keep to it. Whatever is replaced under one limit is replaced in the same way under every larger one. -/
theorem lowerBlock_shares_depth (policy : Policy) (body : List Stmt) (progress : Progress)
    (positive : 0 < policy.maxDepth) : (BlocksFilled policy body → LeavesCome policy body →
      ((∃ out, (lowerBlock policy 1 body progress).1 = .ok out) ↔
        ∀ leaf ∈ nestedThrough policy 0 body, policy.isBlock leaf.statement = false →
          ∀ count last, ComesTo policy leaf.statement count last → leaf.around + count < policy.maxDepth) ∧
      ((∃ out, (lowerBlock policy 1 body progress).1 = .ok out) ∨
        ∃ before first after fault, nestedThrough policy 0 body = before ++ first :: after ∧
          (∀ earlier ∈ before, ∀ fault, ¬ Refused policy earlier fault) ∧ Refused policy first fault ∧
          (lowerBlock policy 1 body progress).1 = .error fault)) ∧
    ∀ larger out after, policy.maxDepth ≤ larger → lowerBlock policy 1 body progress = (.ok out, after) →
      lowerBlock { policy with maxDepth := larger } 1 body progress = (.ok out, after) := by
  refine ⟨fun filled comes => ⟨⟨?_, ?_⟩, ?_⟩, fun larger out after le done => lowerBlock_larger body done le⟩
  · rintro ⟨out, done⟩ leaf member unmarked count last reached
    refine leaf_within positive ?_ member unmarked reached
    rw [← List.findSome?_eq_none_iff, Option.eq_none_iff_forall_ne_some]
    intro fault found
    rw [(lowerBlock_error_iff policy body progress fault).mpr found] at done
    cases done
  · intro within
    cases outcome : (lowerBlock policy 1 body progress).1 with
    | ok out => exact ⟨out, rfl⟩
    | error fault =>
      have found := (lowerBlock_error_iff policy body progress fault).mp outcome
      obtain ⟨before, first, after, split, _, refused⟩ := first_refused positive comes found
      obtain ⟨leaf, member, unmarked, count, last, reached, tooMany⟩ :=
        refused.leaf_over filled comes (by simp [split])
      exact absurd (within leaf member unmarked count last reached) (by omega)
  · cases outcome : (lowerBlock policy 1 body progress).1 with
    | ok out => exact .inl ⟨out, rfl⟩
    | error fault =>
      have found := (lowerBlock_error_iff policy body progress fault).mp outcome
      obtain ⟨before, first, after, split, quiet, refused⟩ := first_refused positive comes found
      exact .inr ⟨before, first, after, fault, split, quiet, refused, rfl⟩

/-- `y[...] = x` in a block. -/
def fillingBlock : Stmt :=
  .withBlock ⟨8, 4, 9, 18⟩ false [⟨.name ⟨8, 8⟩ "bangbang", none⟩] [relay.filling]

/-- A block with `second(y, x)`, which one expansion turns into `y[...] = x`, and one level further in `y[...] = x`
itself. Both reach the last level that `relay` has room for. -/
def fullDepth : List Stmt :=
  [.withBlock ⟨6, 0, 9, 18⟩ false [⟨.name ⟨6, 6⟩ "bb", none⟩] [relayed "second", fillingBlock]]

theorem filling_spelt (span : Span) :
    Spells true (.broadcast none (.name ⟨1, 1⟩ "y") (.name ⟨1, 1⟩ "x")) (relay.filling.moved span) := by
  refine .broadcast ⟨.name _ _, _, _, rfl⟩ ?_
  rintro (impossible | ⟨impossible, _⟩) <;> cases impossible

theorem relayed_comes : ComesTo relay (relayed "second") 1 (relay.filling.moved ⟨7, 0, 7, 11⟩) := by
  refine ⟨rfl, ?_, _, filling_spelt _⟩
  intro i below t stage
  rintro ⟨next, reached, same⟩
  obtain rfl : i = 0 := by omega
  cases stage
  cases reached
  exact absurd ((sameStatement_iff _ _ _).mpr same) (by decide +kernel)

theorem filling_comes : ComesTo relay relay.filling 0 relay.filling :=
  ⟨rfl, moves_zero, _, filling_spelt ⟨1, 0, 1, 10⟩⟩

theorem fullDepth_leaves (member : leaf ∈ nestedThrough relay 0 fullDepth)
    (unmarked : relay.isBlock leaf.statement = false) : leaf = ⟨1, relayed "second"⟩ ∨ leaf = ⟨2, relay.filling⟩ := by
  obtain ⟨outer, marked, parts⟩ : ∃ outer, relay.isBlock outer = true ∧ nestedThrough relay 0 fullDepth =
      [⟨0, outer⟩, ⟨1, relayed "second"⟩, ⟨1, fillingBlock⟩, ⟨2, relay.filling⟩] := ⟨_, rfl, rfl⟩
  rw [parts] at member
  simp only [List.mem_cons, List.not_mem_nil, or_false] at member
  rcases member with rfl | rfl | rfl | rfl
  · simp [marked] at unmarked
  · exact .inl rfl
  · cases unmarked
  · exact .inr rfl

/-- At the last level there is room for, everything is replaced, and in the same way under every larger limit. -/
theorem fullDepth_replaced : 0 < relay.maxDepth ∧ BlocksFilled relay fullDepth ∧ LeavesCome relay fullDepth ∧
    ∃ out after, lowerBlock relay 1 fullDepth {} = (.ok out, after) ∧
      ∀ larger, 3 ≤ larger → lowerBlock { relay with maxDepth := larger } 1 fullDepth {} = (.ok out, after) := by
  have filled : BlocksFilled relay fullDepth := by
    simp [fullDepth, fillingBlock, relayed, relay.filling, BlocksFilled, BlockFilled]
  have comes : LeavesCome relay fullDepth := by
    intro leaf member unmarked
    rcases fullDepth_leaves member unmarked with rfl | rfl
    · exact ⟨1, _, relayed_comes⟩
    · exact ⟨0, _, filling_comes⟩
  obtain ⟨shared, kept⟩ := lowerBlock_shares_depth relay fullDepth {} (by decide)
  have replaced : ∃ out, (lowerBlock relay 1 fullDepth {}).1 = .ok out := by
    refine (shared filled comes).1.mpr ?_
    intro leaf member unmarked count last reached
    rcases fullDepth_leaves member unmarked with rfl | rfl
    · rw [relayed_comes.unique reached]
      decide
    · rw [filling_comes.unique reached]
      decide
  obtain ⟨out, done⟩ := replaced
  have whole : lowerBlock relay 1 fullDepth {} = (.ok out, (lowerBlock relay 1 fullDepth {}).2) := by rw [← done]
  exact ⟨by decide, filled, comes, out, _, whole, fun larger le => kept larger out _ le whole⟩

end Rebind.Update
