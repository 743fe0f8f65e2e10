import Mathlib.Data.List.Basic
import Rebind.Proofs.Nesting
import Rebind.Update.Everywhere
/-!
Blocks wherever they stand. A statement is a head with suites: the bodies, branches and handlers it holds.
Replacing inside a body lowers its outermost blocks one after the other, with one row of temporaries
through all of them, and splices each result in where the block stood. Heads stay as they are.
-/
namespace Rebind.Syntax

/-! ### Suites -/

def Handler.body : Handler → List Stmt
  | .mk _ _ _ body => body

def Handler.withBody : Handler → List Stmt → Handler
  | .mk line type name _, body => .mk line type name body

@[simp] theorem Handler.body_withBody (handler : Handler) (body : List Stmt) :
    (handler.withBody body).body = body := by
  cases handler
  rfl

@[simp] theorem Handler.withBody_self (handler : Handler) : handler.withBody handler.body = handler := by
  cases handler
  rfl

/-- The lists of statements that a statement holds, in the order of the source. -/
def Stmt.suites : Stmt → List (List Stmt)
  | .branch _ _ body orelse | .forLoop _ _ _ _ body orelse | .whileLoop _ _ body orelse => [body, orelse]
  | .withBlock _ _ _ body | .function _ _ _ _ body _ _ | .classDef _ _ _ _ body _ => [body]
  | .tryBlock _ _ body handlers orelse cleanup => body :: (handlers.map Handler.body ++ [orelse, cleanup])
  | _ => []

/-- The statement with other suites in place of its own. -/
def Stmt.withSuites : Stmt → List (List Stmt) → Stmt
  | .branch s t _ _, [body, orelse] => .branch s t body orelse
  | .forLoop s a t i _ _, [body, orelse] => .forLoop s a t i body orelse
  | .whileLoop s t _ _, [body, orelse] => .whileLoop s t body orelse
  | .withBlock s a items _, [body] => .withBlock s a items body
  | .function s a n p _ ds r, [body] => .function s a n p body ds r
  | .classDef s n bs ks _ ds, [body] => .classDef s n bs ks body ds
  | .tryBlock s g _ handlers _ _, body :: rest =>
    .tryBlock s g body (List.zipWith Handler.withBody handlers rest) (rest.getD handlers.length [])
      (rest.getD (handlers.length + 1) [])
  | s, _ => s

theorem zipWith_withBody_append (handlers : List Handler) (bodies more : List (List Stmt))
    (same : bodies.length = handlers.length) : List.zipWith Handler.withBody handlers (bodies ++ more) =
      List.zipWith Handler.withBody handlers bodies := by
  have joined : List.zipWith Handler.withBody (handlers ++ []) (bodies ++ more) = _ :=
    List.zipWith_append same.symm
  simpa using joined

theorem zipWith_withBody (handlers : List Handler) (bodies : List (List Stmt))
    (same : bodies.length = handlers.length) :
    (List.zipWith Handler.withBody handlers bodies).map Handler.body = bodies := by
  induction handlers generalizing bodies with
  | nil => simpa [eq_comm] using same
  | cons handler rest ih =>
    cases bodies with
    | nil => simp at same
    | cons body bodies =>
      simp only [List.length_cons, Nat.add_right_cancel_iff] at same
      simp [ih bodies same]

theorem zipWith_withBody_self (handlers : List Handler) :
    List.zipWith Handler.withBody handlers (handlers.map Handler.body) = handlers := by
  induction handlers with
  | nil => simp
  | cons handler rest ih => simp [ih]

@[simp] theorem Stmt.withSuites_self (s : Stmt) : s.withSuites s.suites = s := by
  cases s with
  | tryBlock s g body handlers orelse cleanup =>
    simp [Stmt.suites, Stmt.withSuites, zipWith_withBody_append, zipWith_withBody_self]
  | _ => rfl

theorem Stmt.suites_withSuites (s : Stmt) (suites : List (List Stmt)) (same : suites.length = s.suites.length) :
    (s.withSuites suites).suites = suites := by
  cases s with
  | branch _ _ _ _ | forLoop _ _ _ _ _ _ | whileLoop _ _ _ _ =>
    obtain ⟨body, orelse, rfl⟩ := List.length_eq_two.mp same
    rfl
  | withBlock _ _ _ _ | function _ _ _ _ _ _ _ | classDef _ _ _ _ _ _ =>
    obtain ⟨body, rfl⟩ := List.length_eq_one_iff.mp same
    rfl
  | tryBlock s g body handlers orelse cleanup =>
    cases suites with
    | nil => simp [Stmt.suites] at same
    | cons first rest =>
      have count : rest.length = handlers.length + 2 := by simpa [Stmt.suites] using same
      obtain ⟨second, third, last⟩ : ∃ second third, rest.drop handlers.length = [second, third] :=
        List.length_eq_two.mp (by simp [count])
      have parts : rest = rest.take handlers.length ++ [second, third] := by
        rw [← last, List.take_append_drop]
      have taken : (rest.take handlers.length).length = handlers.length := by simp [count]
      rw [parts]
      simp only [Stmt.suites, Stmt.withSuites, zipWith_withBody_append _ _ _ taken, zipWith_withBody _ _ taken]
      simp [taken]
  | _ => exact (List.length_eq_zero_iff.mp same).symm

section
variable {motive : List Stmt → Prop} (nil : motive [])
  (cons : ∀ s rest, (∀ suite ∈ s.suites, motive suite) → motive rest → motive (s :: rest))
include nil cons

-- the theorems use them through each other
set_option linter.unusedSectionVars false

mutual

theorem suites_hold (s : Stmt) : ∀ suite ∈ s.suites, motive suite := by
  cases s with
  | branch _ _ body orelse | forLoop _ _ _ _ body orelse | whileLoop _ _ body orelse =>
    simp only [Stmt.suites, List.forall_mem_singleton, List.forall_mem_cons]
    exact ⟨body_induction body, body_induction orelse⟩
  | withBlock _ _ _ body | function _ _ _ _ body _ _ | classDef _ _ _ _ body _ =>
    simp only [Stmt.suites, List.mem_cons, List.not_mem_nil, or_false, forall_eq]
    exact body_induction body
  | tryBlock _ _ body handlers orelse cleanup =>
    simp only [Stmt.suites, List.mem_cons, List.mem_append, List.not_mem_nil, or_false, or_imp, forall_and, forall_eq]
    exact ⟨body_induction body, handlers_hold handlers, body_induction orelse, body_induction cleanup⟩
  | _ => simp [Stmt.suites]

theorem body_induction (body : List Stmt) : motive body := by
  cases body with
  | nil => exact nil
  | cons s rest => exact cons s rest (suites_hold s) (body_induction rest)

theorem handlers_hold : (handlers : List Handler) → ∀ suite ∈ handlers.map Handler.body, motive suite
  | [] => nofun
  | .mk _ _ _ body :: rest => List.forall_mem_cons.mpr ⟨body_induction body, handlers_hold rest⟩

end

end

end Rebind.Syntax

namespace Rebind.Update

open Syntax Counted

namespace Counted

@[simp] theorem done_andThen (a : α) (next : α → Tally → Counted β) : andThen (done a) next = next a := rfl

@[simp] theorem andThen_done (first : Tally → Counted α) : andThen first done = first := by
  funext tally
  rw [andThen]
  rcases first tally with ⟨_ | _, _⟩ <;> rfl

@[simp] theorem andThen_andThen (first : Tally → Counted α) (second : α → Tally → Counted β)
    (third : β → Tally → Counted γ) :
    andThen (andThen first second) third = andThen first fun a => andThen (second a) third := by
  funext tally
  simp only [andThen]
  rcases first tally with ⟨_ | _, _⟩ <;> rfl

theorem andThen_congr {first : Tally → Counted α} {next other : α → Tally → Counted β}
    (same : ∀ tally a after, first tally = (.ok a, after) → next a = other a) :
    andThen first next = andThen first other := by
  funext tally
  simp only [andThen]
  rcases outcome : first tally with ⟨_ | a, after⟩
  · rfl
  · exact congrFun (same tally a after outcome) after

theorem andThen_eq_ok_iff {first : Tally → Counted α} {next : α → Tally → Counted β} :
    andThen first next tally = (.ok b, last) ↔
      ∃ a after, first tally = (.ok a, after) ∧ next a after = (.ok b, last) := by
  rw [andThen]
  rcases first tally with ⟨_ | a, after⟩ <;> simp

end Counted

/-! ### Heads and suites

Away from blocks nothing is read but the suites, so one equation stands for every kind of statement. -/

section
variable (policy : Policy)

/-- Replaces inside suites, one after the other. -/
def lowerSuites : List (List Stmt) → Tally → Counted (List (List Stmt))
  | [] => done []
  | suite :: rest =>
    andThen (lowerBodies policy suite) fun suite =>
      andThen (lowerSuites rest) fun rest => done (suite :: rest)

theorem lowerSuites_append (first second : List (List Stmt)) : lowerSuites policy (first ++ second) =
    andThen (lowerSuites policy first) fun first =>
      andThen (lowerSuites policy second) fun second => done (first ++ second) := by
  induction first with
  | nil => simp [lowerSuites]
  | cons suite rest ih => simp [lowerSuites, ih]

theorem lowerSuites_length (suites : List (List Stmt)) (replaced : lowerSuites policy suites tally = (.ok out, after)) :
    out.length = suites.length := by
  induction suites generalizing tally out after with
  | nil =>
    cases replaced
    rfl
  | cons suite rest ih =>
    simp only [lowerSuites, andThen_eq_ok_iff] at replaced
    obtain ⟨_, _, _, _, _, later, last⟩ := replaced
    cases last
    simp [ih later]

theorem lowerHandlers_eq_lowerSuites (handlers : List Handler) : lowerHandlers policy handlers =
    andThen (lowerSuites policy (handlers.map Handler.body)) fun bodies =>
      done (List.zipWith Handler.withBody handlers bodies) := by
  induction handlers with
  | nil => simp [lowerHandlers, lowerSuites]
  | cons handler rest ih =>
    cases handler with
    | mk line type name body =>
      simp [lowerHandlers, lowerHandler, lowerSuites, ih, Handler.body, Handler.withBody]

theorem lowerInside_kept (s : Stmt) (kept : policy.isBlock s = false) :
    lowerInside policy s = andThen (lowerSuites policy s.suites) fun suites => done [s.withSuites suites] := by
  cases s with
  | withBlock span isAsync items body =>
    rw [lowerInside]
    simp [kept, Stmt.suites, Stmt.withSuites, lowerSuites]
  | tryBlock span isGroup body handlers orelse cleanup =>
    simp only [lowerInside, Stmt.suites, lowerSuites, lowerSuites_append, lowerHandlers_eq_lowerSuites,
      andThen_andThen, done_andThen]
    refine andThen_congr fun _ first _ _ => andThen_congr fun _ bodies _ replaced => ?_
    have count := lowerSuites_length policy _ replaced
    rw [List.length_map] at count
    simp [Stmt.withSuites, zipWith_withBody_append handlers bodies _ count, ← count]
  | _ => simp [lowerInside, Stmt.suites, Stmt.withSuites, lowerSuites]

end

/-! ### Outermost blocks -/

mutual

/-- The bodies of the outermost blocks of a statement, in the order of the source. -/
def outermostIn (policy : Policy) : Stmt → List (List Stmt)
  | .branch _ _ body orelse | .forLoop _ _ _ _ body orelse | .whileLoop _ _ body orelse =>
    outermost policy body ++ outermost policy orelse
  | .withBlock span isAsync items body =>
    if policy.isBlock (.withBlock span isAsync items body) then [body] else outermost policy body
  | .function _ _ _ _ body _ _ | .classDef _ _ _ _ body _ => outermost policy body
  | .tryBlock _ _ body handlers orelse cleanup =>
    outermost policy body ++ outermostHandled policy handlers ++ outermost policy orelse ++
      outermost policy cleanup
  | _ => []

/-- The bodies of the outermost blocks of a body. -/
def outermost (policy : Policy) : List Stmt → List (List Stmt)
  | [] => []
  | s :: rest => outermostIn policy s ++ outermost policy rest

def outermostCaught (policy : Policy) : Handler → List (List Stmt)
  | .mk _ _ _ body => outermost policy body

def outermostHandled (policy : Policy) : List Handler → List (List Stmt)
  | [] => []
  | handler :: rest => outermostCaught policy handler ++ outermostHandled policy rest

end

section
variable (policy : Policy)

theorem outermostHandled_eq (handlers : List Handler) :
    outermostHandled policy handlers = (handlers.map Handler.body).flatMap (outermost policy) := by
  induction handlers with
  | nil => rfl
  | cons handler rest ih =>
    cases handler
    simp [outermostHandled, outermostCaught, ih, Handler.body]

theorem outermostIn_kept (s : Stmt) (kept : policy.isBlock s = false) :
    outermostIn policy s = s.suites.flatMap (outermost policy) := by
  cases s with
  | withBlock span isAsync items body =>
    rw [outermostIn]
    simp [kept, Stmt.suites]
  | _ => simp [outermostIn, Stmt.suites, outermostHandled_eq]

theorem isBlock_suites (s : Stmt) (block : policy.isBlock s = true) :
    ∃ body, s.suites = [body] ∧ outermostIn policy s = [body] ∧
      lowerInside policy s = lowerWhole policy body := by
  cases s with
  | withBlock span isAsync items body =>
    refine ⟨body, rfl, ?_, ?_⟩
    · rw [outermostIn, if_pos block]
    · funext tally
      rw [lowerInside, if_pos block]
  | _ => cases block

theorem isBlock_any_body (span : Span) (isAsync : Bool) (items : List WithItem) (body other : List Stmt) :
    policy.isBlock (.withBlock span isAsync items body) =
      policy.isBlock (.withBlock span isAsync items other) := by
  cases isAsync with
  | false => rcases items with _ | ⟨⟨_, _ | _⟩, _ | _⟩ <;> rfl
  | true => rfl

theorem isBlock_withSuites (s : Stmt) (suites : List (List Stmt)) (kept : policy.isBlock s = false) :
    policy.isBlock (s.withSuites suites) = false := by
  cases s with
  | withBlock span isAsync items body =>
    rcases suites with _ | ⟨other, _ | _⟩
    · exact kept
    · exact (isBlock_any_body policy span isAsync items other body).trans kept
    · exact kept
  | tryBlock span isGroup body handlers orelse cleanup => cases suites <;> rfl
  | _ => rcases suites with _ | ⟨_, _ | ⟨_, _ | ⟨_, _⟩⟩⟩ <;> rfl

end

/-- A statement of a body, at any position in it. -/
inductive Within (s : Stmt) : List Stmt → Prop
  | here : Within s (s :: rest)
  | inside (held : suite ∈ t.suites) (within : Within s suite) : Within s (t :: rest)
  | later (within : Within s rest) : Within s (t :: rest)

@[simp] theorem within_nil (s : Stmt) : ¬ Within s [] := nofun

@[simp] theorem within_cons (s t : Stmt) (rest : List Stmt) :
    Within s (t :: rest) ↔ s = t ∨ (∃ suite ∈ t.suites, Within s suite) ∨ Within s rest := by
  constructor
  · rintro (_ | ⟨held, within⟩ | within)
    · exact .inl rfl
    · exact .inr (.inl ⟨_, held, within⟩)
    · exact .inr (.inr within)
  · rintro (rfl | ⟨suite, held, within⟩ | within)
    · exact .here
    · exact .inside held within
    · exact .later within

@[simp] theorem within_append (s : Stmt) (first second : List Stmt) :
    Within s (first ++ second) ↔ Within s first ∨ Within s second := by
  induction first with
  | nil => simp
  | cons t rest ih => simp [ih, or_assoc]

mutual

/-- The second body is the first one with the pieces in place of its outermost blocks, in order: every
other statement stands where it stood, with its head. -/
inductive Spliced (policy : Policy) : List Stmt → List (List Stmt) → List Stmt → Prop
  | nil : Spliced policy [] [] []
  | block (block : policy.isBlock s = true) (rest : Spliced policy body pieces out) :
    Spliced policy (s :: body) (piece :: pieces) (piece ++ out)
  | kept (kept : policy.isBlock s = false) (inside : SplicedSuites policy s.suites first suites)
      (rest : Spliced policy body later out) :
    Spliced policy (s :: body) (first ++ later) (s.withSuites suites :: out)

/-- The same for suites. Unless a piece is empty, no suite becomes so. -/
inductive SplicedSuites (policy : Policy) :
    List (List Stmt) → List (List Stmt) → List (List Stmt) → Prop
  | nil : SplicedSuites policy [] [] []
  | cons (first : Spliced policy suite pieces out)
      (filled : (∀ piece ∈ pieces, piece ≠ []) → suite ≠ [] → out ≠ [])
      (rest : SplicedSuites policy suites later outs) :
    SplicedSuites policy (suite :: suites) (pieces ++ later) (out :: outs)

end

theorem Spliced.ne_nil (spliced : Spliced policy body pieces out) (filled : ∀ piece ∈ pieces, piece ≠ [])
    (some : body ≠ []) : out ≠ [] := by
  cases spliced with
  | nil => exact absurd rfl some
  | block _ _ => exact List.append_ne_nil_of_left_ne_nil (filled _ List.mem_cons_self) _
  | kept _ _ _ => exact List.cons_ne_nil _ _

theorem SplicedSuites.length_eq (spliced : SplicedSuites policy suites pieces outs) : outs.length = suites.length := by
  induction suites generalizing pieces outs with
  | nil =>
    cases spliced
    rfl
  | cons suite rest ih =>
    cases spliced with
    | cons _ _ later => simp [ih later]

theorem SplicedSuites.of_mem (spliced : SplicedSuites policy suites pieces outs) (held : out ∈ outs) :
    ∃ suite ∈ suites, ∃ some, (∀ piece ∈ some, piece ∈ pieces) ∧ Spliced policy suite some out := by
  induction suites generalizing pieces outs with
  | nil =>
    cases spliced
    simp at held
  | cons suite rest ih =>
    cases spliced with
    | cons first _ later =>
      rcases List.mem_cons.mp held with rfl | held
      · exact ⟨suite, List.mem_cons_self, _, fun _ => List.mem_append_left _, first⟩
      · obtain ⟨suite, member, some, among, spliced⟩ := ih later held
        exact ⟨suite, List.mem_cons_of_mem _ member, some,
          fun piece member => List.mem_append_right _ (among piece member), spliced⟩

theorem Spliced.no_blocks (spliced : Spliced policy body pieces out)
    (free : ∀ piece ∈ pieces, ∀ s, Within s piece → policy.isBlock s = false) :
    ∀ s, Within s out → policy.isBlock s = false := by
  induction body using body_induction generalizing pieces out with
  | nil =>
    cases spliced
    simp
  | cons s rest inner later_ih =>
    cases spliced with
    | block _ later =>
      rw [List.forall_mem_cons] at free
      intro t within
      rw [within_append] at within
      rcases within with first | last
      · exact free.1 t first
      · exact later_ih later free.2 t last
    | kept kept inside later =>
      simp only [List.mem_append, or_imp, forall_and] at free
      intro t within
      rw [within_cons, Stmt.suites_withSuites s _ inside.length_eq] at within
      rcases within with rfl | ⟨suite, held, within⟩ | last
      · exact isBlock_withSuites policy s _ kept
      · obtain ⟨old, member, some, among, spliced⟩ := inside.of_mem held
        exact inner old member spliced (fun piece member => free.1 piece (among piece member)) t within
      · exact later_ih later free.2 t last

/-! ### One block after the other -/

section
variable (policy : Policy)

/-- Replaces blocks one after the other. -/
def lowerEach : List (List Stmt) → Tally → Counted (List (List Stmt))
  | [] => done []
  | block :: rest =>
    andThen (lowerWhole policy block) fun piece =>
      andThen (lowerEach rest) fun pieces => done (piece :: pieces)

theorem lowerEach_append (first second : List (List Stmt)) : lowerEach policy (first ++ second) =
    andThen (lowerEach policy first) fun pieces =>
      andThen (lowerEach policy second) fun more => done (pieces ++ more) := by
  induction first with
  | nil => simp [lowerEach]
  | cons block rest ih => simp [lowerEach, ih]

/-- A computation that replaces the given blocks one after the other, does nothing else to the tally, and
makes its result of the pieces. -/
def Lowers (blocks : List (List Stmt)) (makes : List (List Stmt) → α → Prop)
    (run : Tally → Counted α) : Prop :=
  ∀ tally,
    match lowerEach policy blocks tally with
    | (.error fault, after) => run tally = (.error fault, after)
    | (.ok pieces, after) => ∃ out, run tally = (.ok out, after) ∧ makes pieces out

variable {policy}

theorem Lowers.done {makes : List (List Stmt) → α → Prop} (made : makes [] a) : Lowers policy [] makes (done a) :=
  fun _ => ⟨a, rfl, made⟩

theorem Lowers.andThen {makes : List (List Stmt) → α → Prop} {makes' : List (List Stmt) → β → Prop}
    (first : Lowers policy blocks makes run) (second : ∀ pieces a, makes pieces a →
      Lowers policy more (fun later => makes' (pieces ++ later)) (next a)) :
    Lowers policy (blocks ++ more) makes' (andThen run next) := by
  intro tally
  have firstRun := first tally
  simp only [lowerEach_append, Counted.andThen]
  rcases outcome : lowerEach policy blocks tally with ⟨fault | pieces, after⟩
  · rw [outcome] at firstRun
    simp only [firstRun]
  · rw [outcome] at firstRun
    obtain ⟨a, ran, made⟩ := firstRun
    have secondRun := second pieces a made after
    simp only [ran]
    rcases laterOutcome : lowerEach policy more after with ⟨fault | later, last⟩
    · rwa [laterOutcome] at secondRun
    · rwa [laterOutcome] at secondRun

theorem lowerWhole_lowers (policy : Policy) (block : List Stmt) :
    Lowers policy [block] (fun pieces out => pieces = [out]) (lowerWhole policy block) := by
  intro tally
  simp only [lowerEach, Counted.andThen, Counted.done]
  rcases lowerWhole policy block tally with ⟨fault | piece, after⟩
  · rfl
  · exact ⟨piece, rfl, rfl⟩

theorem lowerSuites_lowers (suites : List (List Stmt))
    (each : ∀ suite ∈ suites, Lowers policy (outermost policy suite) (Spliced policy suite)
      (lowerBodies policy suite)) :
    Lowers policy (suites.flatMap (outermost policy)) (SplicedSuites policy suites)
      (lowerSuites policy suites) := by
  induction suites with
  | nil => exact .done .nil
  | cons suite rest ih =>
    rw [List.forall_mem_cons] at each
    rw [List.flatMap_cons]
    refine each.1.andThen fun pieces out spliced => ?_
    rw [← List.append_nil (rest.flatMap _)]
    refine (ih each.2).andThen fun later outs rest => .done ?_
    rw [List.append_nil]
    exact .cons spliced spliced.ne_nil rest

theorem lowerBodies_lowers (policy : Policy) (body : List Stmt) :
    Lowers policy (outermost policy body) (Spliced policy body) (lowerBodies policy body) := by
  induction body using body_induction with
  | nil => exact .done .nil
  | cons s rest inner ih =>
    rw [outermost, lowerBodies]
    cases block : policy.isBlock s with
    | true =>
      obtain ⟨body, _, alone, replaced⟩ := isBlock_suites policy s block
      rw [alone, replaced]
      refine (lowerWhole_lowers policy body).andThen fun _ piece only => ?_
      subst only
      rw [← List.append_nil (outermost policy rest)]
      refine ih.andThen fun later out spliced => .done ?_
      rw [List.append_nil]
      exact .block block spliced
    | false =>
      rw [outermostIn_kept policy s block, lowerInside_kept policy s block, andThen_andThen]
      refine (lowerSuites_lowers s.suites inner).andThen fun first suites inside => ?_
      rw [← List.append_nil (outermost policy rest)]
      refine ih.andThen fun later out spliced => .done ?_
      rw [List.append_nil]
      exact .kept block inside spliced

end

theorem lowerBodies_unchanged (policy : Policy) (body : List Stmt)
    (free : ∀ s, Within s body → policy.isBlock s = false) : lowerBodies policy body = done body := by
  induction body using body_induction with
  | nil => rfl
  | cons s rest inner ih =>
    have suites (held : List (List Stmt)) (among : ∀ suite ∈ held, suite ∈ s.suites) :
        lowerSuites policy held = done held := by
      induction held with
      | nil => rfl
      | cons suite held same =>
        rw [List.forall_mem_cons] at among
        have first := inner suite among.1 fun t within => free t (.inside among.1 within)
        simp [lowerSuites, first, same among.2]
    rw [lowerBodies, lowerInside_kept policy s (free s .here), suites s.suites fun _ held => held,
      ih fun t within => free t (.later within)]
    simp

/-! ### What the pieces are -/

section
variable (policy : Policy)

theorem simple_no_blocks (body : List Stmt) (simple : ∀ s ∈ body, s.suites = []) :
    ∀ s, Within s body → policy.isBlock s = false := by
  induction body with
  | nil => simp
  | cons t rest ih =>
    rw [List.forall_mem_cons] at simple
    intro s within
    rw [within_cons, simple.1] at within
    rcases within with rfl | ⟨_, held, _⟩ | later
    · rw [Bool.eq_false_iff]
      intro block
      obtain ⟨body, alone, _⟩ := isBlock_suites policy s block
      simp [simple.1] at alone
    · cases held
    · exact ih simple.2 s later

theorem capabilityBranch_no_blocks (span : Span) (tested : Expr) (body orelse : List Stmt)
    (simple : ∀ s ∈ body ++ orelse, s.suites = []) :
    ∀ s, Within s [capabilityBranch span tested body orelse] → policy.isBlock s = false := by
  have free := simple_no_blocks policy (body ++ orelse) simple
  simp only [within_append, or_imp, forall_and] at free
  intro s within
  simp only [within_cons, capabilityBranch, Stmt.suites, List.mem_cons, List.not_mem_nil, or_false,
    exists_eq_or_imp, exists_eq_left, within_nil] at within
  rcases within with rfl | first | second
  · rfl
  · exact free.1 s first
  · exact free.2 s second

theorem replacement?_no_blocks (form : Form) (made : form.replacement? span number = some replaced) :
    ∀ s, Within s [replaced] → policy.isBlock s = false := by
  cases form with
  | allocation kind target source =>
    cases kind <;> cases made <;> exact capabilityBranch_no_blocks policy _ _ _ _ (by simp [assign, Stmt.suites])
  | broadcast op target value =>
    cases op <;> cases made <;> exact capabilityBranch_no_blocks policy _ _ _ _ (by simp [assign, Stmt.suites])
  | product target left right flattened accumulate =>
    cases flattened <;> cases made <;>
      exact capabilityBranch_no_blocks policy _ _ _ _
        (by simp [assign, productInto, productBound, Stmt.suites])
  | axpy _ _ _ _ | elementwise _ _ =>
    cases made
    exact capabilityBranch_no_blocks policy _ _ _ _ (by simp [assign, Stmt.suites])
  | operation _ _ _ =>
    cases made
    exact simple_no_blocks policy _ (by simp [operationReplacement, assign, Stmt.suites])
  | unsupported _ => cases made

theorem lowerMet_no_blocks (met : List Met) (progress : Progress)
    (replaced : lowerMet policy met progress = (.ok out, after)) : ∀ s, Within s out → policy.isBlock s = false := by
  induction met generalizing progress out with
  | nil =>
    cases replaced
    simp
  | cons met rest ih =>
    obtain ⟨form, first, between, tail, _, _, made, _, later, rfl⟩ :=
      lowerMet_cons_ok policy met rest progress replaced
    intro s within
    rw [← List.singleton_append, within_append] at within
    rcases within with within | within
    · exact replacement?_no_blocks policy form made s within
    · exact ih between later s within

theorem metThrough_eq (depth : Int) (body : List Stmt) :
    metThrough policy depth body = body.flatMap (metIn policy depth) := by
  induction body with
  | nil => rfl
  | cons s rest ih => rw [metThrough, ih, List.flatMap_cons]

theorem metThrough_flatten (depth : Int) (blocks : List (List Stmt)) :
    metThrough policy depth blocks.flatten = blocks.flatMap (metThrough policy depth) := by
  rw [metThrough_eq, List.flatten_eq_flatMap, List.flatMap_assoc, funext (metThrough_eq policy depth)]
  rfl

theorem leaves_eq (body : List Stmt) : leaves policy body = body.flatMap (leavesOf policy) := by
  induction body with
  | nil => rfl
  | cons s rest ih => rw [leaves, ih, List.flatMap_cons]

variable (blocks : List (List Stmt)) (tally : Tally)

/-- Blocks that are replaced one after the other are replaced like the block that they make together. -/
theorem lowerEach_flatten : lowerBlock policy 1 blocks.flatten tally.progress =
    ((lowerEach policy blocks tally).1.map List.flatten, (lowerEach policy blocks tally).2.progress) := by
  induction blocks generalizing tally with
  | nil => rfl
  | cons block rest ih =>
    rw [List.flatten_cons, lowerBlock_eq_lowerMet, metThrough_eq, List.flatMap_append, lowerMet_append]
    simp only [← metThrough_eq, ← lowerBlock_eq_lowerMet, lowerEach, andThen, lowerWhole]
    rcases lowerBlock policy 1 block tally.progress with ⟨_ | out, after⟩
    · rfl
    · simp only [followed_ok, ih ⟨after, tally.blocks + 1⟩]
      rcases lowerEach policy rest ⟨after, tally.blocks + 1⟩ with ⟨_ | pieces, last⟩ <;> rfl

theorem lowerEach_sizes (replaced : lowerEach policy blocks tally = (.ok pieces, after)) :
    after.blocks = tally.blocks + blocks.length ∧
      pieces.map List.length = blocks.map (fun block => (leaves policy block).length) := by
  induction blocks generalizing tally pieces with
  | nil =>
    cases replaced
    exact ⟨rfl, rfl⟩
  | cons block rest ih =>
    simp only [lowerEach, andThen_eq_ok_iff] at replaced
    obtain ⟨piece, between, first, later, _, second, last⟩ := replaced
    cases last
    rcases outcome : lowerBlock policy 1 block tally.progress with ⟨_ | out, reached⟩
    · simp [lowerWhole, outcome] at first
    · simp only [lowerWhole, outcome, Prod.mk.injEq, Except.ok.injEq] at first
      obtain ⟨rfl, rfl⟩ := first
      obtain ⟨counted, lengths⟩ := ih _ second
      have size := congrArg List.length (lowerBlock_leaves policy block 1 tally.progress outcome).1
      rw [List.length_map, List.length_map] at size
      refine ⟨?_, by simp [lengths, size]⟩
      simp only [counted, List.length_cons]
      omega

theorem lowerEach_ok (replaced : lowerEach policy blocks tally = (.ok pieces, after)) :
    after.blocks = tally.blocks + blocks.length ∧
      pieces.map List.length = blocks.map (fun block => (leaves policy block).length) ∧
      (∀ piece ∈ pieces, ∀ s, Within s piece → policy.isBlock s = false) ∧
      ∃ last,
        lowerBlock policy 1 (blocks.flatMap (leaves policy)) tally.progress = (.ok pieces.flatten, last) ∧
        last.counter = after.progress.counter := by
  obtain ⟨counted, lengths⟩ := lowerEach_sizes policy blocks tally replaced
  have flat := lowerEach_flatten policy blocks tally
  rw [replaced] at flat
  refine ⟨counted, lengths, ?_, ?_⟩
  · intro piece member s within
    refine lowerMet_no_blocks policy _ _ ((lowerBlock_eq_lowerMet ..).symm.trans flat) s ?_
    obtain ⟨first, second, rfl⟩ := List.append_of_mem member
    simp [within]
  · have row := (lowerBlock_leaves policy _ 1 _ flat).2
    rw [leaves_eq, List.flatten_eq_flatMap, List.flatMap_assoc] at row
    rwa [funext (leaves_eq policy)]

theorem lowerEach_error_iff (fault : Fault) : (lowerEach policy blocks tally).1 = .error fault ↔
    (blocks.flatMap (metThrough policy 1)).findSome? (Met.fault? policy) = some fault := by
  rw [← metThrough_flatten, ← lowerMet_error_iff policy _ tally.progress, ← lowerBlock_eq_lowerMet, lowerEach_flatten]
  cases (lowerEach policy blocks tally).1 <;> simp [Except.map]

end

/-- Replacing inside a body replaces its outermost blocks and nothing else. Where it succeeds, no block is
left at any position; the pieces stand where the blocks stood, and together they are what all leaves of
all blocks give in one row, cut up by blocks, so that no suite becomes empty; the blocks are counted; and
a second run changes nothing and counts nothing. It fails exactly if a leaf of an outermost block is
refused or a block in one stands too deep, and then with the fault of the first of them. -/
theorem lowerBodies_splices (policy : Policy) (body : List Stmt) (tally : Tally) :
    (∀ out after, lowerBodies policy body tally = (.ok out, after) →
      (∀ s, Within s out → policy.isBlock s = false) ∧
      (∃ pieces last, Spliced policy body pieces out ∧
        lowerBlock policy 1 ((outermost policy body).flatMap (leaves policy)) tally.progress =
          (.ok pieces.flatten, last) ∧
        pieces.map List.length = (outermost policy body).map (fun block => (leaves policy block).length) ∧
        ((∀ block ∈ outermost policy body, block ≠ [] ∧ BlocksFilled policy block) →
          ∀ piece ∈ pieces, piece ≠ [])) ∧
      after.blocks = tally.blocks + (outermost policy body).length ∧
      ∀ fresh, lowerBodies policy out fresh = (.ok out, fresh)) ∧
    ∀ fault, (lowerBodies policy body tally).1 = .error fault ↔
      ((outermost policy body).flatMap (metThrough policy 1)).findSome? (Met.fault? policy) = some fault := by
  have lowers := lowerBodies_lowers policy body tally
  have fails := lowerEach_error_iff policy (outermost policy body) tally
  rcases outcome : lowerEach policy (outermost policy body) tally with ⟨why | pieces, after⟩
  · rw [outcome] at lowers
    simp only [outcome] at fails
    rw [lowers]
    exact ⟨nofun, fun fault => by simpa using fails fault⟩
  · rw [outcome] at lowers
    simp only [outcome] at fails
    obtain ⟨out, ran, spliced⟩ := lowers
    obtain ⟨counted, lengths, free, last, row, _⟩ := lowerEach_ok policy _ tally outcome
    rw [ran]
    refine ⟨?_, fun fault => by simpa using fails fault⟩
    rintro _ _ ⟨⟩
    have clean := spliced.no_blocks free
    refine ⟨clean, ⟨pieces, last, spliced, row, lengths, ?_⟩, counted, ?_⟩
    · rintro filled piece member rfl
      have zero : 0 ∈ pieces.map List.length := List.mem_map.mpr ⟨[], member, rfl⟩
      rw [lengths] at zero
      obtain ⟨block, held, noLeaves⟩ := List.mem_map.mp zero
      exact leaves_ne_nil policy block (filled block held).2 (filled block held).1
        (List.length_eq_zero_iff.mp noLeaves)
    · rw [lowerBodies_unchanged policy out clean]
      exact fun _ => rfl

/-- A `try` with the block `copyto(y, x)` in its body and `axpy(2, x, y)` in its last branch. -/
def guardedBlocks : List Stmt :=
  let on (line : Nat) : Lines := ⟨line, line⟩
  let name (line : Nat) (id : String) : Expr := .name (on line) id
  [.tryBlock ⟨1, 0, 7, 22⟩ false
    [.withBlock ⟨2, 4, 3, 20⟩ false [⟨name 2 "bb", none⟩]
      [.expr ⟨3, 8, 3, 20⟩ (.call (on 3) (name 3 "copyto") [name 3 "y", name 3 "x"] [])]]
    [.mk 4 none none [.pass ⟨5, 4, 5, 8⟩]] []
    [.withBlock ⟨6, 4, 7, 22⟩ false [⟨name 6 "bangbang", none⟩]
      [.expr ⟨7, 8, 7, 22⟩ (.call (on 7) (name 7 "axpy")
        [.literal (on 7) (.int 2), name 7 "x", name 7 "y"] [])]]]

theorem guardedBlocks_splices :
    ∃ out after, lowerBodies .standard guardedBlocks {} = (.ok out, after) ∧ after.blocks = 2 ∧
      lowerBodies .standard out {} = (.ok out, {}) := by
  have succeeds : (lowerBodies .standard guardedBlocks {}).1.isOk = true := by decide
  rcases outcome : lowerBodies .standard guardedBlocks {} with ⟨_ | out, after⟩
  · rw [outcome] at succeeds
    cases succeeds
  · obtain ⟨_, _, counted, again⟩ := (lowerBodies_splices .standard guardedBlocks {}).1 out after outcome
    exact ⟨out, after, rfl, counted, again {}⟩

end Rebind.Update
