import Rebind.Proofs.Success
import Rebind.Proofs.UpdatedNames
/-!
The local names of functions whose blocks have been replaced. A target that is a bare name becomes local to the function
in which the block stands, unless the function declares it to be shared; the temporaries become local too. Nothing else
changes, except that markers are gone with what they bind in their midst.
-/
namespace Rebind.Update

open Syntax

/-! ### Updates of a function itself -/

/-- The statements that are replaced in a body, the functions and classes in it apart. -/
def ownUpdates (policy : Policy) (body : List Stmt) : List Stmt :=
  collect (fun _ s => if policy.isBlock s then s.suites.flatMap (leaves policy) else [])
    (fun _ s => if policy.isBlock s || s.isScope then none else some ()) body ()

/-- What a body does to names when the markers are left out, and the functions and classes in it. -/
def openUses (policy : Policy) (body : List Stmt) : List (NameUse × String) :=
  collect (fun _ s => if policy.isBlock s then [] else s.uses) (fun _ s => if s.isScope then none else some ()) body ()

def updatedNames (policy : Policy) (s : Stmt) : List String :=
  match settled policy 1 s with
  | .ok form => form.targetNames
  | .error _ => []

/-- The names that updates bind with temporaries of the numbers. -/
def boundBy (policy : Policy) (updates : List Stmt) (numbers : List Nat) : List String :=
  updates.flatMap (updatedNames policy) ++ numbers.map temporaryName

/-- The numbers of the temporaries that updates take: one for each that needs one, in order. -/
structure Numbered (policy : Policy) (low high : Nat) (updates : List Stmt) (numbers : List Nat) : Prop where
  counted : numbers.length = updates.countP (takesTemporary policy 1)
  ascending : numbers.Pairwise (· < ·)
  within : ∀ k ∈ numbers, low < k ∧ k ≤ high

/-- The updates bind their names, and nothing else changes. -/
def Gained (policy : Policy) (low high : Nat) (updates : List Stmt) (before after : List (NameUse × String)) : Prop :=
  ∃ numbers, Numbered policy low high updates numbers ∧
    ∀ use, use ∈ after ↔ use ∈ before ∨ use ∈ asBound (boundBy policy updates numbers)

section
variable {policy : Policy} {low middle high : Nat} {updates more : List Stmt}
  {before after before' after' : List (NameUse × String)}

theorem Gained.none (same : ∀ use, use ∈ after ↔ use ∈ before) : Gained policy low high [] before after :=
  ⟨[], ⟨rfl, .nil, by simp⟩, by simp [same, boundBy]⟩

theorem Gained.append (first : Gained policy low middle updates before after)
    (second : Gained policy middle high more before' after') (le : low ≤ middle) (le' : middle ≤ high) :
    Gained policy low high (updates ++ more) (before ++ before') (after ++ after') := by
  obtain ⟨numbers, numbered, same⟩ := first
  obtain ⟨numbers', numbered', same'⟩ := second
  refine ⟨numbers ++ numbers', ⟨?_, ?_, ?_⟩, fun use => ?_⟩
  · rw [List.length_append, List.countP_append, numbered.counted, numbered'.counted]
  · refine List.pairwise_append.mpr ⟨numbered.ascending, numbered'.ascending, fun a held b held' => ?_⟩
    have := numbered.within a held
    have := numbered'.within b held'
    omega
  · intro k held
    rcases List.mem_append.mp held with held | held
    · have := numbered.within k held
      omega
    · have := numbered'.within k held
      omega
  · simp only [List.mem_append, same, same', mem_asBound, boundBy, List.flatMap_append, List.map_append]
    tauto

theorem Gained.wider (gained : Gained policy low high updates before after) (below : low' ≤ low) (above : high ≤ high') :
    Gained policy low' high' updates before after := by
  obtain ⟨numbers, numbered, same⟩ := gained
  refine ⟨numbers, { numbered with within := fun k held => ?_ }, same⟩
  have := numbered.within k held
  omega

theorem replaced_gained (plain : policy.expanders = []) (read : settled policy 1 s = .ok form)
    (made : form.replacement? s.span (form.lastTemporary low) = some replaced) :
    Gained policy low (form.lastTemporary low) [s] s.uses (usesIn [replaced]) := by
  have spelt := settled_plain plain read
  have same (use) := spelt.replaced_uses made use
  have names : updatedNames policy s = form.targetNames := by rw [updatedNames, read]
  have takes : takesTemporary policy 1 s = form.needsTemporary := by rw [takesTemporary, read]
  cases needs : form.needsTemporary with
  | true =>
    have number : form.lastTemporary low = low + 1 := by rw [Form.lastTemporary, if_pos needs]
    refine ⟨[low + 1], ⟨by simp [takes, needs], List.pairwise_singleton _ _, by simp [number]⟩, fun use => ?_⟩
    have uses := spelt.uses use
    simp only [boundBy, List.flatMap_cons, List.flatMap_nil, List.append_nil, names, same use, Form.temporaryNames, needs,
      if_true, number, asBound_append, List.mem_append, List.map_cons, List.map_nil] at uses ⊢
    tauto
  | false =>
    refine ⟨[], ⟨by simp [takes, needs], .nil, by simp⟩, fun use => ?_⟩
    have uses := spelt.uses use
    simp only [boundBy, List.flatMap_cons, List.flatMap_nil, List.append_nil, names, same use, Form.temporaryNames, needs,
      Bool.false_eq_true, if_false, asBound_append, List.mem_append, List.map_nil] at uses ⊢
    tauto

theorem ReplacedRow.gained (plain : policy.expanders = []) (row : ReplacedRow policy 1 low ss out high) :
    Gained policy low high ss (ss.flatMap Stmt.uses) (usesIn out) := by
  induction row with
  | nil => exact .none (by simp)
  | @cons s form low replaced ss out high read made rest ih =>
    have first := replaced_gained plain read made
    have joined := first.append ih (le_lastTemporary form low) rest.le
    rwa [← usesIn_append] at joined

/-! ### Blocks and heads -/

theorem isScope_block (s : Stmt) (block : policy.isBlock s = true) : s.isScope = false := by
  cases s <;> first | rfl | cases block

theorem collect_leaves {σ α : Type} {own : σ → Stmt → List α} {enter : σ → Stmt → Option σ} {around : σ}
    (quiet : ∀ s, policy.isBlock s = true → own around s = [])
    (through : ∀ s, policy.isBlock s = true → enter around s = some around) (body : List Stmt) :
    collect own enter body around = (leaves policy body).flatMap fun leaf => collect own enter [leaf] around := by
  induction body using nested_induction policy with
  | nil => rfl
  | leaf s rest kept ih =>
    rw [leaves, leavesOf_kept kept, List.flatMap_append, ← ih]
    simpa using collect_append own enter [s] rest around
  | block span isAsync items body rest marked inner ih =>
    rw [leaves, leavesOf, if_pos marked, List.flatMap_append, ← inner, ← ih, collect_cons, quiet _ marked,
      through _ marked]
    simp [Stmt.suites]

section
variable (s : Stmt) (suites : List (List Stmt))

theorem uses_withSuites (count : suites.length = s.suites.length) : (s.withSuites suites).uses = s.uses := by
  cases s with
  | tryBlock _ _ _ handlers _ _ =>
    cases suites with
    | nil => simp [Stmt.suites] at count
    | cons first rest =>
      have enough : rest.length ≥ handlers.length := by
        simp only [Stmt.suites, List.length_cons, List.length_append, List.length_map] at count
        omega
      simp only [Stmt.withSuites, Stmt.uses]
      rw [heads_withBody handlers rest _ (fun handler _ => by cases handler; rfl) enough]
  | _ => rcases suites with _ | ⟨_, _ | ⟨_, _ | ⟨_, _⟩⟩⟩ <;> rfl

theorem isScope_withSuites : (s.withSuites suites).isScope = s.isScope := by
  cases s <;> first | rfl | (rcases suites with _ | ⟨_, _ | ⟨_, _ | ⟨_, _⟩⟩⟩ <;> rfl)

theorem ownerInside_withSuites (owner : String) : (s.withSuites suites).ownerInside owner = s.ownerInside owner := by
  cases s <;> first | rfl | (rcases suites with _ | ⟨_, _ | ⟨_, _ | ⟨_, _⟩⟩⟩ <;> rfl)

theorem functionText?_withSuites (owner : String) (other : s.functionText? owner = none) :
    (s.withSuites suites).functionText? owner = none := by
  cases s <;> first | rfl | (rcases suites with _ | ⟨_, _ | ⟨_, _ | ⟨_, _⟩⟩⟩ <;> rfl) | cases other

end

/-! ### The names of a body -/

@[simp] theorem ownUpdates_nil : ownUpdates policy [] = [] := rfl

@[simp] theorem openUses_nil : openUses policy [] = [] := rfl

theorem ownUpdates_cons (s : Stmt) (rest : List Stmt) : ownUpdates policy (s :: rest) =
    (if policy.isBlock s then s.suites.flatMap (leaves policy) else []) ++
      (if policy.isBlock s || s.isScope then [] else s.suites.flatMap (ownUpdates policy)) ++
      ownUpdates policy rest := by
  rw [ownUpdates, collect_cons]
  cases policy.isBlock s <;> cases s.isScope <;> rfl

theorem openUses_cons (s : Stmt) (rest : List Stmt) : openUses policy (s :: rest) =
    (if policy.isBlock s then [] else s.uses) ++ (if s.isScope then [] else s.suites.flatMap (openUses policy)) ++
      openUses policy rest := by
  rw [openUses, collect_cons]
  cases s.isScope <;> rfl

theorem ReplacedRow.spelt (plain : policy.expanders = []) (row : ReplacedRow policy depth low ss out high) :
    ∀ s ∈ ss, ∃ form, Spells policy.accumulate form s := by
  induction row with
  | nil => simp
  | cons read _ _ ih => exact List.forall_mem_cons.mpr ⟨⟨_, settled_plain plain read⟩, ih⟩

theorem openUses_leaves (plain : policy.expanders = []) (row : ReplacedRow policy depth low (leaves policy body) out high) :
    openUses policy body = (leaves policy body).flatMap Stmt.uses := by
  have each : openUses policy body = (leaves policy body).flatMap fun leaf => openUses policy [leaf] :=
    collect_leaves (fun s block => by simp [block]) (fun s block => by simp [isScope_block s block]) body
  rw [each]
  refine List.flatMap_congr fun leaf held => ?_
  obtain ⟨form, spelt⟩ := row.spelt plain leaf held
  simp [openUses_cons, leaves_leaf policy body leaf held, spelt.suites]

theorem lowerSuites_uses {tally last : Tally} (suites : List (List Stmt))
    (each : ∀ suite ∈ suites, ∀ {tally last : Tally} {out : List Stmt}, lowerBodies policy suite tally = (.ok out, last) →
      Gained policy tally.progress.counter last.progress.counter (ownUpdates policy suite) (openUses policy suite)
        (usesIn out))
    (lowered : lowerSuites policy suites tally = (.ok outs, last)) :
    Gained policy tally.progress.counter last.progress.counter (suites.flatMap (ownUpdates policy))
      (suites.flatMap (openUses policy)) (outs.flatMap usesIn) := by
  induction suites generalizing tally outs with
  | nil =>
    cases lowered
    exact .none (by simp)
  | cons suite rest ih =>
    rw [List.forall_mem_cons] at each
    obtain ⟨out, middle, later, first, after, rfl⟩ := lowerSuites_cons_ok suite rest lowered
    exact (each.1 first).append (ih each.2 after) (lowerBodies_le suite first)
      (lowerSuites_le rest (fun suite _ => lowerBodies_le suite) after)

theorem lowered_uses (plain : policy.expanders = []) {tally last : Tally} (body : List Stmt)
    (lowered : lowerBodies policy body tally = (.ok out, last)) :
    Gained policy tally.progress.counter last.progress.counter (ownUpdates policy body) (openUses policy body)
      (usesIn out) := by
  induction body using body_induction generalizing tally last out with
  | nil =>
    cases lowered
    exact .none (by simp)
  | cons s rest inner ih =>
    rcases lowerBodies_cons_ok s rest lowered with
      ⟨block, piece, middle, later, marked, alone, row, after, rfl⟩ | ⟨suites, middle, later, kept, inside, after, rfl⟩
    · have first := row.gained plain
      rw [← openUses_leaves plain row] at first
      have joined := first.append (ih after) row.le (lowerBodies_le rest after)
      simpa [ownUpdates_cons, openUses_cons, usesIn_append, marked, isScope_block s marked, alone] using joined
    · have count := lowerSuites_length policy _ inside
      have le := lowerSuites_le s.suites (fun suite _ => lowerBodies_le suite) inside
      rw [ownUpdates_cons, openUses_cons, usesIn_cons, uses_withSuites s suites count, isScope_withSuites,
        Stmt.suites_withSuites s suites count]
      refine Gained.append ?_ (ih after) le (lowerBodies_le rest after)
      simp only [kept, Bool.false_eq_true, if_false, Bool.false_or, List.nil_append]
      cases s.isScope with
      | true => exact (Gained.none fun _ => Iff.rfl).wider le (Nat.le_refl _)
      | false =>
        have heads : Gained policy tally.progress.counter tally.progress.counter [] s.uses s.uses :=
          .none fun _ => Iff.rfl
        exact heads.append (lowerSuites_uses s.suites (fun suite held => inner suite held) inside) (Nat.le_refl _) le

/-! ### The functions of a text -/

/-- The second function is the first one with its blocks replaced. -/
structure LoweredText (policy : Policy) (low high : Nat) (before after : FunctionText) : Prop where
  owner : after.owner = before.owner
  params : after.params = before.params
  gained : Gained policy low high (ownUpdates policy before.body) (openUses policy before.body) (usesIn after.body)

theorem LoweredText.wider {first second : FunctionText} (text : LoweredText policy low high first second)
    (below : low' ≤ low) (above : high ≤ high') : LoweredText policy low' high' first second :=
  { text with gained := text.gained.wider below above }

theorem functionsIn_eq_nil (body : List Stmt) (bare : ∀ t, Within t body → t.identifiers = []) (owner : String) :
    functionsIn body owner = [] := by
  induction body using body_induction generalizing owner with
  | nil => rfl
  | cons s rest inner ih =>
    simp only [within_cons] at bare
    have none : s.functionText? owner = none := by
      have own := bare s (.inl rfl)
      cases s with
      | function _ _ _ _ _ _ _ => simp [Stmt.identifiers] at own
      | _ => rfl
    rw [functionsIn_cons, none, ih (fun t within => bare t (.inr (.inr within)))]
    simp only [Option.toList_none, List.nil_append, List.append_nil, List.flatMap_eq_nil_iff]
    exact fun suite held => inner suite held (fun t within => bare t (.inr (.inl ⟨suite, held, within⟩))) _

theorem ReplacedRow.bare (row : ReplacedRow policy depth low ss out high) (t : Stmt) (within : Within t out) :
    t.identifiers = [] := by
  induction row with
  | nil => simp at within
  | @cons s form low replaced ss out high read made rest ih =>
    rw [← List.singleton_append, within_append] at within
    rcases within with within | within
    · exact (replacement_composed form made t within).1
    · exact ih within

theorem functionsIn_leaves (plain : policy.expanders = [])
    (row : ReplacedRow policy depth low (leaves policy body) out high) (owner : String) : functionsIn body owner = [] := by
  have each : functionsIn body owner = (leaves policy body).flatMap fun leaf => functionsIn [leaf] owner := by
    refine collect_leaves (fun s block => ?_) (fun s block => ?_) body
    all_goals cases s <;> first | rfl | cases block
  rw [each, List.flatMap_eq_nil_iff]
  intro leaf held
  obtain ⟨form, spelt⟩ := row.spelt plain leaf held
  rw [functionsIn_cons, spelt.suites]
  cases spelt <;> rfl

theorem lowerSuites_functions {tally last : Tally} (suites : List (List Stmt)) (owner : String)
    (each : ∀ suite ∈ suites, ∀ {tally last : Tally} {out : List Stmt}, lowerBodies policy suite tally = (.ok out, last) →
      List.Forall₂ (LoweredText policy tally.progress.counter last.progress.counter) (functionsIn suite owner)
        (functionsIn out owner))
    (lowered : lowerSuites policy suites tally = (.ok outs, last)) :
    List.Forall₂ (LoweredText policy tally.progress.counter last.progress.counter)
      (suites.flatMap (functionsIn · owner)) (outs.flatMap (functionsIn · owner)) := by
  induction suites generalizing tally outs with
  | nil =>
    cases lowered
    exact .nil
  | cons suite rest ih =>
    rw [List.forall_mem_cons] at each
    obtain ⟨out, middle, later, first, after, rfl⟩ := lowerSuites_cons_ok suite rest lowered
    have le := lowerBodies_le suite first
    have le' := lowerSuites_le rest (fun suite _ => lowerBodies_le suite) after
    rw [List.flatMap_cons, List.flatMap_cons]
    exact List.rel_append ((each.1 first).imp fun _ _ text => text.wider (Nat.le_refl _) le')
      ((ih each.2 after).imp fun _ _ text => text.wider le (Nat.le_refl _))

theorem lowered_functions (plain : policy.expanders = []) {tally last : Tally} (body : List Stmt) (owner : String)
    (lowered : lowerBodies policy body tally = (.ok out, last)) :
    List.Forall₂ (LoweredText policy tally.progress.counter last.progress.counter) (functionsIn body owner)
      (functionsIn out owner) := by
  induction body using body_induction generalizing owner tally last out with
  | nil =>
    cases lowered
    exact .nil
  | cons s rest inner ih =>
    rcases lowerBodies_cons_ok s rest lowered with
      ⟨block, piece, middle, later, marked, alone, row, after, rfl⟩ | ⟨suites, middle, later, kept, inside, after, rfl⟩
    · have none : s.functionText? owner = none ∧ s.ownerInside owner = owner := by
        cases s <;> first | exact ⟨rfl, rfl⟩ | cases marked
      rw [functionsIn_cons, functionsIn_append, functionsIn_eq_nil piece row.bare, none.1, none.2, alone]
      simpa [functionsIn_leaves plain row] using
        (ih owner after).imp fun _ _ text => text.wider row.le (Nat.le_refl _)
    · have count := lowerSuites_length policy _ inside
      have le := lowerSuites_le s.suites (fun suite _ => lowerBodies_le suite) inside
      have le' := lowerBodies_le rest after
      rw [functionsIn_cons, functionsIn_cons, Stmt.suites_withSuites s suites count, ownerInside_withSuites]
      refine List.rel_append (List.rel_append ?_ ?_) ((ih owner after).imp fun _ _ text => text.wider le (Nat.le_refl _))
      · cases s with
        | function _ _ _ _ body _ _ =>
          obtain ⟨new, rfl⟩ := List.length_eq_one_iff.mp count
          obtain ⟨out, middle', later', first, last', same⟩ := lowerSuites_cons_ok body [] inside
          cases last'
          cases same
          exact .cons ⟨rfl, rfl, (lowered_uses plain body first).wider (Nat.le_refl _) le'⟩ .nil
        | _ =>
          rw [functionText?_withSuites _ suites owner rfl]
          exact .nil
      · exact (lowerSuites_functions s.suites _ (fun suite held => inner suite held _) inside).imp fun _ _ text =>
          text.wider (Nat.le_refl _) le'

/-! ### Lambdas -/

/-- The expression stands in the text of the class. -/
def StandsUnder (owner : String) (e : Expr) (text : List (String × Stmt)) : Prop :=
  ∃ s, (owner, s) ∈ text ∧ ∃ p ∈ s.parts, Inside e p

theorem within_of_standing {around : String} (body : List Stmt) (owner : String)
    (member : (around, t) ∈ standing body owner) : Within t body := by
  induction body using body_induction generalizing owner with
  | nil => simp at member
  | cons s rest inner ih =>
    simp only [standing_cons, List.mem_cons, Prod.mk.injEq, List.mem_append, List.mem_flatMap] at member
    rcases member with ⟨-, rfl⟩ | ⟨suite, held, member⟩ | member
    · exact .here
    · exact .inside held (inner suite held _ member)
    · exact .later (ih owner member)

theorem owner_of_standing {around : String} (body : List Stmt) (owner : String) (bare : ∀ t, Within t body → t.identifiers = [])
    (member : (around, t) ∈ standing body owner) : around = owner := by
  induction body using body_induction generalizing owner with
  | nil => simp at member
  | cons s rest within ih =>
    simp only [within_cons] at bare
    have same : s.ownerInside owner = owner := by
      have own := bare s (.inl rfl)
      cases s with
      | classDef _ _ _ _ _ _ => simp [Stmt.identifiers] at own
      | _ => rfl
    simp only [standing_cons, List.mem_cons, Prod.mk.injEq, List.mem_append, List.mem_flatMap, same] at member
    rcases member with ⟨rfl, -⟩ | ⟨suite, held, member⟩ | member
    · rfl
    · exact within suite held owner (fun t inside => bare t (.inr (.inl ⟨suite, held, inside⟩))) member
    · exact ih owner (fun t inside => bare t (.inr (.inr inside))) member

theorem standing_of_leaf (body : List Stmt) (owner : String) (held : leaf ∈ leaves policy body) :
    (owner, leaf) ∈ standing body owner := by
  induction body using nested_induction policy with
  | nil => simp [leaves] at held
  | leaf s rest kept ih =>
    rw [leaves, leavesOf_kept kept, List.singleton_append, List.mem_cons] at held
    rw [standing_cons]
    rcases held with rfl | later
    · exact List.mem_cons_self
    · exact List.mem_cons_of_mem _ (List.mem_append_right _ (ih later))
  | block span isAsync items body rest marked inner ih =>
    rw [leaves, leavesOf, if_pos marked, List.mem_append] at held
    have same : (Stmt.withBlock span isAsync items body).ownerInside owner = owner := rfl
    rcases held with first | later
    · simp [standing_cons, Stmt.suites, same, inner first]
    · simp [standing_cons, ih later]

theorem Spells.lambda (spelt : Spells accumulate form s) (made : form.replacement? span number = some replaced)
    (within : Within t [replaced]) (held : e ∈ t.parts) (inside : Inside (.lambda l p b) e) :
    ∃ q ∈ s.parts, Inside (.lambda l p b) q := by
  rcases ((replacement_composed form made t within).2 e held).inside inside with
    ⟨part, member, a, inner, same⟩ | ⟨_, other⟩
  · have lambda : a = .lambda l p b := by
      rcases same with same | ⟨_, same⟩
      · exact same.symm
      · exact routed_eq_lambda same.symm
    obtain ⟨q, held', outer⟩ := spelt.inside member
    exact ⟨q, held', lambda ▸ inner.trans outer⟩
  · exact (other l p b rfl).elim

theorem ReplacedRow.lambda (plain : policy.expanders = []) (row : ReplacedRow policy depth low ss out high)
    (within : Within t out) (held : e ∈ t.parts) (inside : Inside (.lambda l p b) e) :
    ∃ s ∈ ss, ∃ q ∈ s.parts, Inside (.lambda l p b) q := by
  induction row with
  | nil => simp at within
  | @cons s form low replaced ss out high read made rest ih =>
    rw [← List.singleton_append, within_append] at within
    rcases within with within | within
    · exact ⟨s, List.mem_cons_self, (settled_plain plain read).lambda made within held inside⟩
    · obtain ⟨s, held, found⟩ := ih within
      exact ⟨s, List.mem_cons_of_mem _ held, found⟩

theorem lowered_lambdas (plain : policy.expanders = []) {tally last : Tally} {around : String} (body : List Stmt)
    (owner : String) (lowered : lowerBodies policy body tally = (.ok out, last))
    (found : StandsUnder around (.lambda l p b) (standing out owner)) :
    StandsUnder around (.lambda l p b) (standing body owner) := by
  induction body using body_induction generalizing owner tally last out with
  | nil =>
    cases lowered
    exact found
  | cons s rest suites_ih ih =>
    obtain ⟨t, member, e, held, inside⟩ := found
    rcases lowerBodies_cons_ok s rest lowered with
      ⟨block, piece, middle, later, marked, alone, row, after, rfl⟩ | ⟨suites, middle, later, kept, lowers, after, rfl⟩
    · rw [standing_append, List.mem_append] at member
      rcases member with member | member
      · have same := owner_of_standing piece owner row.bare member
        obtain ⟨leaf, held', found⟩ := row.lambda plain (within_of_standing piece owner member) held inside
        have stands := standing_of_leaf block owner held'
        refine ⟨leaf, ?_, found⟩
        have marker : s.ownerInside owner = owner := by cases s <;> first | rfl | cases marked
        simp [standing_cons, alone, marker, same, stands]
      · obtain ⟨t, member, found⟩ := ih owner after ⟨t, member, e, held, inside⟩
        exact ⟨t, by simp [standing_cons, member], found⟩
    · have count := lowerSuites_length policy _ lowers
      rw [standing_cons, Stmt.suites_withSuites s suites count, ownerInside_withSuites] at member
      simp only [List.mem_cons, Prod.mk.injEq, List.mem_append, List.mem_flatMap] at member
      rcases member with ⟨rfl, rfl⟩ | ⟨suite, held', member⟩ | member
      · rw [(s.heads_withSuites suites count).1] at held
        exact ⟨s, by simp [standing_cons], e, held, inside⟩
      · obtain ⟨old, member', first, last', done, -, -⟩ := lowerSuites_of_mem s.suites lowers held'
        obtain ⟨t, member, found⟩ := suites_ih old member' _ done ⟨t, member, e, held, inside⟩
        refine ⟨t, ?_, found⟩
        rw [standing_cons, List.mem_cons, List.mem_append, List.mem_flatMap]
        exact .inr (.inl ⟨old, member', member⟩)
      · obtain ⟨t, member, found⟩ := ih owner after ⟨t, member, e, held, inside⟩
        exact ⟨t, by simp [standing_cons, member], found⟩

/-! ### Functions that are made anew -/

theorem localBy_congr (same : ∀ use, use ∈ before ↔ use ∈ after) (owner : String) (params : List String) (x : String) :
    LocalBy owner params before x ↔ LocalBy owner params after x := by
  simp only [LocalBy, same]

/-- What is local to a function whose blocks have been replaced: the rules of binding, without the markers and as though
each update assigned to the name that its target is, and to its temporary. -/
structure LocalsExtended (policy : Policy) (high : Nat) (before after : FunctionText) : Prop where
  owner : after.owner = before.owner
  params : after.params = before.params
  locals : ∃ numbers block, Numbered policy 0 high (ownUpdates policy before.body) numbers ∧ after.block? = some block ∧
    ∀ x, x ∈ block.names.locals ↔
      LocalBy before.owner before.params
        (openUses policy before.body ++ asBound (boundBy policy (ownUpdates policy before.body) numbers)) x

theorem LoweredText.locals {first second : FunctionText} (text : LoweredText policy 0 high first second)
    (made : second.block? = some block) : LocalsExtended policy high first second := by
  obtain ⟨numbers, numbered, same⟩ := text.gained
  refine ⟨text.owner, text.params, numbers, block, numbered, made, fun x => ?_⟩
  rw [second.mem_locals_iff made, FunctionText.IsLocal, text.owner, text.params]
  exact localBy_congr (fun use => by rw [same, List.mem_append]) _ _ x

end
end Rebind.Update

namespace Rebind

open Syntax Update

section
variable {policy : Policy} {f : Function} {id : Nat} {m after : Memory} {lowered : Lowered}

theorem lowerCode_yields (accepted : (Run.lowerCode policy f id).Yields m lowered after) :
    ∃ text between span isAsync name params body decorators returns others out tally,
      (Run.textOf f id).Yields m text between ∧
      readModuleFrom f.firstLine (Text.dedent text) =
        .ok (.function span isAsync name params body decorators returns :: others) ∧
      lowerBodies policy body {} = (.ok out, tally) ∧
      lowered.definition = .function span isAsync name params out [] returns ∧
      moduleFits [lowered.definition] = true := by
  unfold Run.lowerCode at accepted
  split at accepted
  · simp at accepted
  · obtain ⟨text, between, texted, rest⟩ := yields_bind.mp accepted
    split at rest
    · simp at rest
    · simp at rest
    · rename_i definition others read
      obtain ⟨made, last, defined, fits⟩ := yields_bind.mp rest
      cases definition with
      | function span isAsync name params body decorators returns =>
        rw [Run.lowerDefinition] at defined
        simp only [yields_bind, yields_modify, yields_ofExcept, yields_pure] at defined
        obtain ⟨_, _, _, out, _, ⟨replaced, _⟩, rfl, _⟩ := defined
        split at fits
        · rename_i fitting
          obtain ⟨rfl, _⟩ := yields_pure.mp fits
          exact ⟨text, between, span, isAsync, name, params, body, decorators, returns, others, out, _, texted, read,
            Prod.ext replaced rfl, rfl, fitting⟩
        · simp at fits
      | _ => simp [Run.lowerDefinition] at defined

theorem gathered_of_fits {s : Stmt} (fits : moduleFits [s] = true) : Gathered "" [s] := by
  rw [moduleFits, Bool.and_eq_true] at fits
  obtain ⟨names, -⟩ := fits
  unfold namesFit at names
  split at names
  · rename_i made
    rw [moduleBlock, Option.map_eq_some_iff] at made
    obtain ⟨draft, gathered, -⟩ := made
    exact ⟨_, draft, rfl, gathered⟩
  · cases names

end

/-- `g[...] += x` in a block, and then `return g`. -/
def sharedUpdate : List Stmt :=
  [.withBlock ⟨2, 4, 3, 19⟩ false [⟨.name ⟨2, 2⟩ "bb", none⟩]
    [.augmented ⟨3, 8, 3, 19⟩ (.subscript ⟨3, 3⟩ (.name ⟨3, 3⟩ "g") (.literal ⟨3, 3⟩ .ellipsis)) .add (.name ⟨3, 3⟩ "x")],
    .returnValue ⟨4, 4, 4, 12⟩ (some (.name ⟨4, 4⟩ "g"))]

def sharedFunction : Function where
  name := "f"
  qualname := "f"
  codeName := "f"
  path := "f"
  params := .mk [] [.mk "x" none none] none [] none
  body := .statements sharedUpdate
  isAsync := false
  defaults := []
  keywordDefaults := []
  names := { params := ["x"], reads := ["g", "x", "g", "bb"] }
  captured := []
  scope := none
  firstLine := 1

def sharedModule : Memory where
  objects := #[.function sharedFunction]
  text := some "def f(x):\n    with bb:\n        g[...] += x\n    return g\n"

end Rebind
