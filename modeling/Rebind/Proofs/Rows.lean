import Mathlib.Data.List.Forall2
import Rebind.Proofs.Splicing
/-!
Rows of replaced statements. The leaves of a block are replaced one after the other, and each form that needs a
temporary takes the next number; the blocks of a body carry the numbers on from one to the next.
-/
namespace Rebind.Update

open Syntax Counted

/-- The statements of the second list replace those of the first, with temporaries counted on from `low` to `high`. -/
inductive ReplacedRow (policy : Policy) (depth : Int) : Nat → List Stmt → List Stmt → Nat → Prop
  | nil : ReplacedRow policy depth low [] [] low
  | cons (read : settled policy depth s = .ok form)
      (made : form.replacement? s.span (form.lastTemporary low) = some replaced)
      (rest : ReplacedRow policy depth (form.lastTemporary low) ss out high) :
    ReplacedRow policy depth low (s :: ss) (replaced :: out) high

section
variable {policy : Policy} {depth : Int} {ss out : List Stmt} {low high : Nat}

theorem le_lastTemporary (form : Form) (low : Nat) : low ≤ form.lastTemporary low := by
  unfold Form.lastTemporary
  split <;> omega

theorem ReplacedRow.le (row : ReplacedRow policy depth low ss out high) : low ≤ high := by
  induction row with
  | nil => exact Nat.le_refl _
  | cons _ _ _ ih => exact Nat.le_trans (le_lastTemporary _ _) ih

/-- The statement is replaced, with a temporary among those counted in between. -/
def ReplacedWithin (policy : Policy) (depth : Int) (low high : Nat) (s replaced : Stmt) : Prop :=
  ∃ form number, settled policy depth s = .ok form ∧ form.replacement? s.span number = some replaced ∧
    (form.needsTemporary = true → low < number ∧ number ≤ high)

theorem ReplacedWithin.wider (replaced : ReplacedWithin policy depth low high s r) (below : low' ≤ low)
    (above : high ≤ high') : ReplacedWithin policy depth low' high' s r := by
  obtain ⟨form, number, read, made, within⟩ := replaced
  exact ⟨form, number, read, made, fun needs =>
    ⟨Nat.lt_of_le_of_lt below (within needs).1, Nat.le_trans (within needs).2 above⟩⟩

theorem ReplacedRow.within (row : ReplacedRow policy depth low ss out high) :
    List.Forall₂ (ReplacedWithin policy depth low high) ss out := by
  induction row with
  | nil => exact .nil
  | cons read made rest ih =>
    refine .cons ⟨_, _, read, made, fun needs => ?_⟩ (ih.imp ?_)
    · have further := rest.le
      rw [Form.lastTemporary, if_pos needs] at further ⊢
      omega
    · exact fun s' replaced' within => within.wider (le_lastTemporary _ _) (Nat.le_refl _)

theorem of_mem_right {related : α → β → Prop} (pairs : List.Forall₂ related as bs) (member : b ∈ bs) :
    ∃ a ∈ as, related a b := by
  induction pairs with
  | nil => simp at member
  | cons head _ ih =>
    rcases List.mem_cons.mp member with rfl | later
    · exact ⟨_, List.mem_cons_self, head⟩
    · obtain ⟨a, held, pair⟩ := ih later
      exact ⟨a, List.mem_cons_of_mem _ held, pair⟩

theorem lowerMet_row (policy : Policy) (depth : Int) (ss : List Stmt) (progress : Progress)
    (done : lowerMet policy (ss.map fun s => ⟨depth, s⟩) progress = (.ok out, last)) :
    ReplacedRow policy depth progress.counter ss out last.counter := by
  induction ss generalizing progress out with
  | nil =>
    cases done
    exact .nil
  | cons s rest ih =>
    obtain ⟨form, replaced, between, tail, _, read, made, counted, later, rfl⟩ :=
      lowerMet_cons_ok policy _ _ progress done
    have row := ih between later
    rw [counted] at row
    exact .cons read made row

theorem lowerBlock_row (policy : Policy) (depth : Int) (body : List Stmt) (progress : Progress)
    (done : lowerBlock policy depth body progress = (.ok out, last)) :
    ReplacedRow policy depth progress.counter (leaves policy body) out last.counter := by
  obtain ⟨_, last', flat, counted⟩ := lowerBlock_leaves policy body depth progress done
  rw [lowerBlock_eq_lowerMet, metThrough_flat policy _ depth (leaves_leaf policy body)] at flat
  rw [← counted]
  exact lowerMet_row policy depth _ progress flat

/-- A body is replaced statement by statement: a block by a row for its leaves, any other statement by itself with
its suites replaced. -/
theorem lowerBodies_cons_ok {tally last : Tally} (s : Stmt) (rest : List Stmt)
    (done : lowerBodies policy (s :: rest) tally = (.ok out, last)) :
    (∃ block piece middle later, policy.isBlock s = true ∧ s.suites = [block] ∧
      ReplacedRow policy 1 tally.progress.counter (leaves policy block) piece middle.progress.counter ∧
      lowerBodies policy rest middle = (.ok later, last) ∧ out = piece ++ later) ∨
    (∃ suites middle later, policy.isBlock s = false ∧ lowerSuites policy s.suites tally = (.ok suites, middle) ∧
      lowerBodies policy rest middle = (.ok later, last) ∧ out = s.withSuites suites :: later) := by
  rw [lowerBodies] at done
  cases block : policy.isBlock s with
  | true =>
    obtain ⟨body, alone, _, replaced⟩ := isBlock_suites policy s block
    simp only [replaced, andThen_eq_ok_iff] at done
    obtain ⟨piece, middle, first, later, _, second, joined⟩ := done
    cases joined
    rcases outcome : lowerBlock policy 1 body tally.progress with ⟨_ | made, reached⟩
    · simp [lowerWhole, outcome] at first
    · simp only [lowerWhole, outcome, Prod.mk.injEq, Except.ok.injEq] at first
      obtain ⟨rfl, rfl⟩ := first
      exact .inl ⟨body, made, _, later, rfl, alone, lowerBlock_row policy 1 body _ outcome, second, rfl⟩
  | false =>
    simp only [lowerInside_kept policy s block, andThen_andThen, done_andThen, andThen_eq_ok_iff] at done
    obtain ⟨suites, middle, first, later, _, second, joined⟩ := done
    cases joined
    exact .inr ⟨suites, middle, later, rfl, first, second, rfl⟩

theorem lowerSuites_cons_ok {tally last : Tally} (suite : List Stmt) (rest : List (List Stmt))
    (done : lowerSuites policy (suite :: rest) tally = (.ok outs, last)) :
    ∃ out middle later, lowerBodies policy suite tally = (.ok out, middle) ∧
      lowerSuites policy rest middle = (.ok later, last) ∧ outs = out :: later := by
  simp only [lowerSuites, andThen_eq_ok_iff] at done
  obtain ⟨out, middle, first, later, _, second, joined⟩ := done
  cases joined
  exact ⟨out, middle, later, first, second, rfl⟩

theorem lowerSuites_le {tally last : Tally} (suites : List (List Stmt))
    (each : ∀ suite ∈ suites, ∀ {tally last : Tally} {out : List Stmt},
      lowerBodies policy suite tally = (.ok out, last) → tally.progress.counter ≤ last.progress.counter)
    (lowered : lowerSuites policy suites tally = (.ok outs, last)) :
    tally.progress.counter ≤ last.progress.counter := by
  induction suites generalizing tally last outs with
  | nil =>
    cases lowered
    exact Nat.le_refl _
  | cons suite rest ih =>
    rw [List.forall_mem_cons] at each
    obtain ⟨out, middle, later, first, after, rfl⟩ := lowerSuites_cons_ok suite rest lowered
    exact Nat.le_trans (each.1 first) (ih each.2 after)

theorem lowerBodies_le {tally last : Tally} (body : List Stmt)
    (lowered : lowerBodies policy body tally = (.ok out, last)) : tally.progress.counter ≤ last.progress.counter := by
  induction body using body_induction generalizing tally last out with
  | nil =>
    cases lowered
    exact Nat.le_refl _
  | cons s rest inner ih =>
    rcases lowerBodies_cons_ok s rest lowered with
      ⟨block, piece, middle, later, _, _, row, after, rfl⟩ | ⟨suites, middle, later, _, inside, after, rfl⟩
    · exact Nat.le_trans row.le (ih after)
    · exact Nat.le_trans (lowerSuites_le s.suites (fun suite held => inner suite held) inside) (ih after)

theorem lowerSuites_of_mem {tally last : Tally} (suites : List (List Stmt))
    (lowered : lowerSuites policy suites tally = (.ok outs, last)) (member : out ∈ outs) :
    ∃ suite ∈ suites, ∃ first after, lowerBodies policy suite first = (.ok out, after) ∧
      tally.progress.counter ≤ first.progress.counter ∧ after.progress.counter ≤ last.progress.counter := by
  induction suites generalizing tally outs with
  | nil =>
    cases lowered
    simp at member
  | cons suite rest ih =>
    obtain ⟨out', middle, later, first, after, rfl⟩ := lowerSuites_cons_ok suite rest lowered
    rcases List.mem_cons.mp member with rfl | member
    · exact ⟨suite, List.mem_cons_self, tally, middle, first, Nat.le_refl _,
        lowerSuites_le rest (fun suite _ => lowerBodies_le suite) after⟩
    · obtain ⟨suite', held, begins, ends, done, below, above⟩ := ih after member
      exact ⟨suite', List.mem_cons_of_mem _ held, begins, ends, done, Nat.le_trans (lowerBodies_le suite first) below, above⟩

/-- The pieces that stand in place of the blocks of a body are one row for all leaves of all blocks. -/
theorem lowerBodies_row {tally last : Tally} (done : lowerBodies policy body tally = (.ok out, last)) :
    ∃ pieces, Spliced policy body pieces out ∧ ReplacedRow policy 1 tally.progress.counter
      ((outermost policy body).flatMap (leaves policy)) pieces.flatten last.progress.counter := by
  have lowers := lowerBodies_lowers policy body tally
  rcases outcome : lowerEach policy (outermost policy body) tally with ⟨_ | pieces, after⟩
  · rw [outcome] at lowers
    cases lowers.symm.trans done
  · rw [outcome] at lowers
    obtain ⟨out', ran, spliced⟩ := lowers
    cases ran.symm.trans done
    obtain ⟨_, _, _, last', flat, counted⟩ := lowerEach_ok policy _ tally outcome
    have leaf : ∀ s ∈ (outermost policy body).flatMap (leaves policy), policy.isBlock s = false := by
      simp only [List.mem_flatMap, forall_exists_index, and_imp]
      exact fun s block _ held => leaves_leaf policy block s held
    rw [lowerBlock_eq_lowerMet, metThrough_flat policy _ 1 leaf] at flat
    rw [← counted]
    exact ⟨pieces, spliced, lowerMet_row policy 1 _ tally.progress flat⟩

end
end Rebind.Update
