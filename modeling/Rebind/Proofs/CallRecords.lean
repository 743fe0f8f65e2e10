import Mathlib.Order.Filter.AtTopBot.Basic
import Rebind.Proofs.Success
/-!
Evaluation with a record of calls. The parts of an expression are evaluated in turn, a call counts as one step, which has
to come to an end once there is enough fuel, and the calls are recorded as they are made. Evaluation by fuel ends in the
same way if there is enough of it.
-/
namespace Rebind

open Syntax Filter Program Value Run

/-- How a run ends, whatever the line of its fault. -/
def Run.ending (run : Run α) (m : Memory) : Except Fault α × Memory :=
  ((run.run.run m).run.1.mapError Fault.bare, (run.run.run m).run.2)

section
variable {m between after : Memory} {run : Run α} {a : α} {fault : Fault}

theorem ending_bind_ok {next : α → Run β} (ran : run.ending m = (.ok a, between)) :
    (run >>= next).ending m = (next a).ending between := by
  simp only [ending, ExceptT.run_bind, StateT.run_bind, Id.run_bind] at ran ⊢
  generalize (run.run.run m).run = found at ran ⊢
  rcases found with ⟨_ | _, _⟩
  · cases ran
  · cases ran
    rfl

theorem ending_bind_error {next : α → Run β} (ran : run.ending m = (.error fault, after)) :
    (run >>= next).ending m = (.error fault, after) := by
  simp only [ending, ExceptT.run_bind, StateT.run_bind, Id.run_bind] at ran ⊢
  generalize (run.run.run m).run = found at ran ⊢
  rcases found with ⟨_ | _, _⟩
  · cases ran
    rfl
  · cases ran

theorem bare_at (line : Nat) (fault : Fault) : (fault.at_ line).bare = fault.bare := by
  cases fault <;> rfl

theorem ending_onLine (line : Nat) : (onLine line run).ending m = run.ending m := by
  rw [ending, ending, run_onLine]
  rcases (run.run.run m).run with ⟨_ | _, _⟩
  · exact congrArg (Except.error ·, _) (bare_at line _)
  · rfl

end

/-- The ending that runs come to with enough fuel, if they do. -/
noncomputable def Run.limit (run : Nat → Run α) (m : Memory) : Option (Except Fault α × Memory) :=
  open Classical in
  if settles : ∃ ending, ∀ᶠ n in atTop, (run n).ending m = ending then some settles.choose else none

theorem limit_eq_some_iff {run : Nat → Run α} {m : Memory} {ending : Except Fault α × Memory} :
    limit run m = some ending ↔ ∀ᶠ n in atTop, (run n).ending m = ending := by
  unfold limit
  split
  · rename_i settles
    rw [Option.some_inj]
    refine ⟨fun same => same ▸ settles.choose_spec, fun comes => ?_⟩
    obtain ⟨n, first, second⟩ := (settles.choose_spec.and comes).exists
    exact first.symm.trans second
  · rename_i wanders
    exact iff_of_false nofun fun comes => wanders ⟨ending, comes⟩

theorem eventually_of_succ {p : Nat → Prop} (later : ∀ᶠ n in atTop, p (n + 1)) : ∀ᶠ n in atTop, p n := by
  obtain ⟨k, from_k⟩ := eventually_atTop.mp later
  refine eventually_atTop.mpr ⟨k + 1, fun n le => ?_⟩
  obtain ⟨i, rfl⟩ := Nat.exists_eq_add_of_le' (Nat.le_of_add_left_le le)
  exact from_k i (by omega)

/-! ### Accounts -/

/-- A value by itself, wherever it was made. -/
def Value.itself : Value → Value
  | .held _ v => v.itself
  | v => v

/-- A call that was made. -/
structure Call where
  function : Value
  args : List Value
  named : Bindings

def Call.of (function : Value) (args : List Value) (named : Bindings) : Call :=
  ⟨function.itself, args.map itself, named.map fun (name, v) => (name, v.itself)⟩

/-- An account of a run: from a memory, how it ends and which calls it makes, as far as it is known. -/
def Account (α : Type) := Memory → Option (Except Fault α × Memory × List Call)

namespace Account

/-- What runs come to with enough fuel, together with the calls that they stand for. -/
noncomputable def ofRuns (run : Nat → Run α) (calls : List Call) : Account α := fun m =>
  (limit run m).map fun (result, after) => (result, after, calls)

noncomputable def once (run : Run α) : Account α := ofRuns (fun _ => run) []

def unknown : Account α := fun _ => none

def provided (holds : Bool) (account : Account α) : Account α := if holds then account else unknown

noncomputable def given (holds : Memory → Prop) : Account Unit := fun m =>
  open Classical in if holds m then some (.ok (), m, []) else none

noncomputable instance : Monad Account where
  pure a := fun m => some (.ok a, m, [])
  bind first next := fun m => (first m).bind fun
    | (.error fault, after, calls) => some (.error fault, after, calls)
    | (.ok a, between, calls) => (next a between).map fun (result, after, more) => (result, after, calls ++ more)

instance : LawfulMonad Account := by
  refine .mk' Account (fun x => ?_) (fun a next => ?_) fun x next last => ?_
  · funext m
    change (x m).bind _ = x m
    rcases x m with _ | ⟨_ | a, after, calls⟩
    · rfl
    · rfl
    · exact congrArg (fun made => some (Except.ok a, after, made)) (List.append_nil calls)
  · funext m
    change (next a m).map _ = next a m
    rcases next a m with _ | ⟨_, _, _⟩ <;> rfl
  · funext m
    change ((x m).bind _).bind _ = (x m).bind _
    rcases x m with _ | ⟨_ | a, between, calls⟩
    · rfl
    · rfl
    · change ((next a between).map _).bind _ = ((next a between).bind _).map _
      rcases next a between with _ | ⟨_ | b, later, more⟩
      · rfl
      · rfl
      · change (last b later).map _ = ((last b later).map _).map _
        simp [Function.comp_def]

section
variable {m after : Memory} {calls : List Call} {first : Account α} {next : α → Account β}

theorem bind_eq_some_iff {result : Except Fault β} : (first >>= next) m = some (result, after, calls) ↔
    (∃ fault, first m = some (.error fault, after, calls) ∧ result = .error fault) ∨
      ∃ a between made more, first m = some (.ok a, between, made) ∧ next a between = some (result, after, more) ∧
        calls = made ++ more := by
  change (first m).bind _ = _ ↔ _
  rcases first m with _ | ⟨_ | a, between, made⟩
  · simp
  · simp [eq_comm, and_comm, and_assoc]
  · simp [eq_comm]

end

end Account

/-! ### Expressions -/

/-- What is wanted of an expression: its value, its value with the place where it was made, or something to compare. -/
inductive Mode where
  | bare
  | whole
  | compared

def Mode.shown : Mode → Value → Value
  | .bare, v => v.bare
  | _, v => v

noncomputable def Mode.show (mode : Mode) (found : Account Value) : Account Value := do return mode.shown (← found)

open Account Value Run

section
variable (frame : Frame)

/-- The helper that calls go through can be found. -/
def Helped (m : Memory) : Prop :=
  (do getAttr (← load frame Update.libraryName).bare (← knownIn frame "broadcast_call")).Yields m
    (.builtin .broadcastCall) m

noncomputable def called (function : Value) (args : List Value) (named : Bindings) : Account Value :=
  ofRuns (fun n => call n function args named) [.of function args named]

mutual

/-- The account of an expression. It is known if every call comes to an end and finds the helper at hand. -/
noncomputable def Syntax.Expr.account (mode : Mode) : Expr → Account Value
  | .name _ id => mode.show (once (load frame id))
  | .literal _ v => return literal v
  | .attribute _ e attr => mode.show do
    let v ← e.account .bare
    let attr ← once (knownIn frame attr)
    once (getAttr v attr)
  | .subscript _ e i => do
    let v ← e.account .bare
    let key ← i.account .bare
    once (lookupItem v key)
  | .slice _ a b c => do return .slice (← accountOption a) (← accountOption b) (← accountOption c)
  | .call _ f args keywords => mode.show do
    given (Helped frame)
    let function ← provided (!Update.isStarred f) (f.account .bare)
    let items ← accountItems .whole args
    let named ← accountKeywords keywords
    called function items.flatten named
  | .binary _ op a b => do
    let v ← a.account .bare
    let w ← b.account .bare
    once (Value.binary op v w)
  | .unary _ op a => do
    let v ← a.account .bare
    match op with
    | .minus => once (negated v)
    | .not => do return .bool !(← once (Value.truth v))
    | .plus => once (Value.binary .add (.int 0) v)
    | .invert => once (fail .type)
  | .boolean _ op values => accountJunction op values
  | .compare _ a rest => do
    let v ← a.account .compared
    accountChain v rest
  | .conditional _ test a b => do
    let v ← test.account .bare
    if ← once (Value.truth v) then a.account .bare else b.account .bare
  | .lambda l params body => ofRuns (fun n => eval n frame (.lambda l params body)) []
  | .tuple _ items =>
    match mode with
    | .compared => do
      let made := tuple (← accountItems .compared items).flatten
      if items.all isLiteral then return made else once (hold made)
    | _ => do return .tuple (← accountItems .bare items).flatten
  | .list _ items =>
    match mode with
    | .compared => do once (newList (← accountItems .compared items).flatten)
    | _ => do once (newList (← accountItems .bare items).flatten)
  | .named _ (.name _ id) e => do
    let v ← e.account .bare
    once (assignName frame id v)
    return v
  | .named _ _ _ => unknown
  | _ => once (fail .runtime)

noncomputable def accountItems (mode : Mode) : List Expr → Account (List (List Value))
  | [] => return []
  | e :: rest => do
    let first ← match e with
      | .starred _ e => e.account .bare >>= fun v => once (iterate v)
      | e => e.account mode >>= fun v => pure [v]
    return first :: (← accountItems mode rest)

noncomputable def accountKeywords : List Keyword → Account Bindings
  | [] => return []
  | .mk (some name) e :: rest => do
    let v ← e.account .whole
    return (name, v) :: (← accountKeywords rest)
  | .mk none _ :: _ => once (fail .type)

noncomputable def accountOption : Option Expr → Account Value
  | none => return .null
  | some e => e.account .bare

noncomputable def accountJunction (op : BoolOp) : List Expr → Account Value
  | [] => return .null
  | [e] => e.account .bare
  | e :: rest => do
    let v ← e.account .bare
    if (← once (Value.truth v)) == (op == .or) then return v else accountJunction op rest

noncomputable def accountChain (a : Value) : List (CompareOp × Expr) → Account Value
  | [] => return a.bare
  | (op, e) :: rest => do
    let b ← e.account .compared
    let verdict ← once (Value.compare op a b)
    if rest.isEmpty then return verdict
    else if ← once (Value.truth verdict) then accountChain b rest
    else return verdict

end
end

/-! ### Evaluation follows the account -/

/-- With enough fuel, runs end as an account says. -/
def Follows (account : Account α) (run : Nat → Run α) : Prop :=
  ∀ m result after calls, account m = some (result, after, calls) →
    ∀ᶠ n in atTop, (run n).ending m = (result, after)

section
variable {account : Account α} {run later : Nat → Run α}

theorem follows_ofRuns (run : Nat → Run α) (calls : List Call) : Follows (ofRuns run calls) run := by
  intro m result after made ran
  obtain ⟨_, comes, same⟩ := Option.map_eq_some_iff.mp ran
  cases same
  exact limit_eq_some_iff.mp comes

theorem follows_once (run : Run α) : Follows (once run) fun _ => run := follows_ofRuns _ _

theorem follows_called (function : Value) (args : List Value) (named : Bindings) :
    Follows (called function args named) fun n => call n function args named :=
  follows_ofRuns _ _

theorem follows_pure (a : α) : Follows (pure a) fun _ => pure a := by
  intro m result after calls ran
  cases ran
  exact .of_forall fun _ => rfl

theorem follows_unknown : Follows unknown run := nofun

theorem Follows.provided (follows : Follows account run) (holds : Bool) : Follows (provided holds account) run := by
  cases holds with
  | false => exact follows_unknown
  | true => exact follows

theorem Follows.bind {next : α → Account β} {rest : Nat → α → Run β} (first : Follows account run)
    (second : ∀ a, Follows (next a) fun n => rest n a) : Follows (account >>= next) fun n => run n >>= rest n := by
  intro m result after calls ran
  obtain ⟨fault, failed, rfl⟩ | ⟨a, between, made, more, went, ended, rfl⟩ := bind_eq_some_iff.mp ran
  · filter_upwards [first _ _ _ _ failed] with n failing
    exact ending_bind_error failing
  · filter_upwards [first _ _ _ _ went, second a _ _ _ _ ended] with n going ending
    rw [ending_bind_ok going, ending]

theorem Follows.ite {c : Prop} [Decidable c] {other : Account α} (first : Follows account run)
    (second : Follows other later) : Follows (if c then account else other) fun n => if c then run n else later n := by
  by_cases h : c
  · simpa only [if_pos h] using first
  · simpa only [if_neg h] using second

theorem Follows.given (holds : Memory → Prop) (follows : Follows account run) :
    Follows (given holds >>= fun _ => account) run := by
  intro m result after calls ran
  obtain ⟨_, failed, _⟩ | ⟨_, _, _, _, went, ended, _⟩ := bind_eq_some_iff.mp ran <;> unfold Account.given at *
  · split at failed <;> cases failed
  · split at went <;> cases went
    exact follows _ _ _ _ ended

theorem Follows.onLine (follows : Follows account run) (line : Nat) : Follows account fun n => onLine line (run n) := by
  intro m result after calls ran
  simpa only [ending_onLine] using follows m result after calls ran

theorem Follows.step (follows : Follows account run) (same : ∀ n, later (n + 1) = run n) : Follows account later := by
  intro m result after calls ran
  refine eventually_of_succ ?_
  simpa only [same] using follows m result after calls ran

end

/-- Evaluation by fuel, as wanted. -/
def Mode.eval : Mode → Nat → Frame → Expr → Run Value
  | .bare => Program.eval
  | .whole => evalWhole
  | .compared => evalCompared

section
variable {frame : Frame} {e : Expr} {account : Account Value}

theorem Follows.inModes (follows : Follows account fun n => eval n frame e)
    (whole : ∀ n, evalWhole (n + 1) frame e = eval n frame e)
    (compared : ∀ n, evalCompared (n + 1) frame e = evalWhole n frame e) (mode : Mode) :
    Follows account fun n => mode.eval n frame e := by
  cases mode with
  | bare => exact follows
  | whole => exact follows.step whole
  | compared => exact (follows.step whole).step compared

theorem Follows.shown {found : Account Value} {before : Nat → Run Value}
    (whole : Follows found fun n => evalWhole n frame e) (comes : Follows found before)
    (bare : ∀ n, eval (n + 1) frame e = before n >>= fun v => pure v.bare)
    (compared : ∀ n, evalCompared (n + 1) frame e = evalWhole n frame e) (mode : Mode) :
    Follows (mode.show found) fun n => mode.eval n frame e := by
  have kept : Follows (found >>= pure) fun n => evalWhole n frame e := by
    simpa only [bind_pure] using whole.bind follows_pure
  cases mode with
  | bare => exact (comes.bind fun v => follows_pure v.bare).step bare
  | whole => exact kept
  | compared => exact kept.step compared

end

/-- The values that an expression contributes to the items of a call or display. -/
noncomputable def accountItem (frame : Frame) (mode : Mode) : Expr → Account (List Value)
  | .starred _ e => do once (iterate (← e.account frame .bare))
  | e => do return [← e.account frame mode]

def Mode.evalItem (mode : Mode) (frame : Frame) (line n : Nat) : Expr → Run (List Value)
  | .starred _ e => do onLine line (iterate (← Program.eval n frame e))
  | e => do return [← mode.eval n frame e]

/-- Evaluation of the expression follows its account, also where it stands among items. -/
structure Followed (frame : Frame) (e : Expr) : Prop where
  value (mode : Mode) : Follows (e.account frame mode) fun n => mode.eval n frame e
  item (mode : Mode) (line : Nat) : Follows (accountItem frame mode e) fun n => mode.evalItem frame line n e

section
variable {frame : Frame} {e : Expr}

theorem accountItem_plain (plain : Update.isStarred e = false) (mode : Mode) :
    accountItem frame mode e = e.account frame mode >>= fun v => pure [v] := by
  cases e with
  | starred => cases plain
  | _ => rfl

theorem accountItems_cons (mode : Mode) (e : Expr) (rest : List Expr) : accountItems frame mode (e :: rest) = (do
    let first ← accountItem frame mode e return first :: (← accountItems frame mode rest)) := by
  cases e <;> rfl

theorem Followed.plain (plain : Update.isStarred e = false)
    (value : ∀ mode, Follows (e.account frame mode) fun n => mode.eval n frame e) : Followed frame e where
  value := value
  item mode line := by
    have single := (value mode).bind fun v => follows_pure [v]
    rw [accountItem_plain plain]
    cases e with
    | starred => cases plain
    | _ => exact single

theorem followed_items {items : List Expr} (followed : ∀ e ∈ items, Followed frame e) (mode : Mode) (line : Nat) :
    Follows (accountItems frame mode items) fun n => items.mapM (mode.evalItem frame line n) := by
  induction items with
  | nil => exact follows_pure []
  | cons e rest ih =>
    rw [List.forall_mem_cons] at followed
    simp only [accountItems_cons, List.mapM_cons]
    exact (followed.1.item mode line).bind fun first => (ih followed.2).bind fun tail => follows_pure (first :: tail)

theorem evalItem_eq (mode : Mode) (line n : Nat) : mode.evalItem frame line n = fun
    | .starred _ e => do
      let v ← eval n frame e
      onLine line (iterate v)
    | e => do return [← mode.eval n frame e] := by
  funext e
  cases e <;> rfl

section
variable {items : List Expr} (followed : ∀ e ∈ items, Followed frame e) (line : Nat)
include followed

theorem followed_flat (mode : Mode) : Follows (List.flatten <$> accountItems frame mode items) fun n =>
      (do return (← items.mapM (mode.evalItem frame line n)).flatten) := by
  rw [← bind_pure_comp]
  exact (followed_items followed mode line).bind fun parts => follows_pure parts.flatten

theorem followed_args :
    Follows (List.flatten <$> accountItems frame .whole items) fun n => evalArgs n frame line items := by
  refine (followed_flat followed line .whole).step fun n => ?_
  rw [evalItem_eq]
  rfl

theorem followed_display :
    Follows (List.flatten <$> accountItems frame .bare items) fun n => evalItems n frame line items := by
  refine (followed_flat followed line .bare).step fun n => ?_
  rw [evalItem_eq]
  rfl

end

theorem Follows.flat {found : Account (List (List Value))} {run : Nat → Run (List Value)}
    {next : List Value → Account Value} {rest : Nat → List Value → Run Value} (items : Follows (List.flatten <$> found) run)
    (second : ∀ values, Follows (next values) fun n => rest n values) :
    Follows (found >>= fun parts => next parts.flatten) fun n => run n >>= rest n := by
  simpa only [bind_map_left] using items.bind second

theorem followed_keywords {keywords : List Keyword} (followed : ∀ k ∈ keywords, Followed frame k.value) :
    Follows (accountKeywords frame keywords) fun n => keywords.mapM fun
      | .mk (some name) v => do return (name, ← evalWhole n frame v)
      | .mk none _ => fail .type := by
  induction keywords with
  | nil => exact follows_pure []
  | cons k rest ih =>
    rw [List.forall_mem_cons] at followed
    simp only [List.mapM_cons]
    match k with
    | .mk none _ => exact follows_once _
    | .mk (some name) e =>
      simp only [bind_assoc]
      exact (followed.1.value .whole).bind fun v => (ih followed.2).bind fun tail => follows_pure ((name, v) :: tail)

theorem followed_junction (op : BoolOp) (line : Nat) {items : List Expr} (followed : ∀ e ∈ items, Followed frame e) :
    Follows (accountJunction frame op items) fun n => evalBoolean n frame line op items := by
  induction items with
  | nil => exact (follows_pure null).step fun _ => rfl
  | cons e rest ih =>
    rw [List.forall_mem_cons] at followed
    have value := followed.1.value .bare
    match rest with
    | [] => exact value.step fun _ => rfl
    | _ :: _ =>
      exact (value.bind fun v => ((follows_once _).onLine line).bind fun _ =>
        .ite (follows_pure v) (ih followed.2)).step fun _ => rfl

theorem followed_chain (line : Nat) {rest : List (CompareOp × Expr)} (followed : ∀ p ∈ rest, Followed frame p.2)
    (a : Value) : Follows (accountChain frame a rest) fun n => evalChain n frame line a rest := by
  induction rest generalizing a with
  | nil => exact (follows_pure a.bare).step fun _ => rfl
  | cons p rest ih =>
    rw [List.forall_mem_cons] at followed
    obtain ⟨op, e⟩ := p
    exact ((followed.1.value .compared).bind fun b => ((follows_once _).onLine line).bind fun verdict =>
      .ite (follows_pure verdict) (((follows_once _).onLine line).bind fun _ =>
        .ite (ih followed.2 b) (follows_pure verdict))).step fun _ => rfl

end

mutual

theorem followed (frame : Frame) : ∀ e : Expr, Followed frame e
  | .name l id => .plain rfl fun mode =>
    .shown (((follows_once _).onLine l.first).step fun _ => rfl) ((follows_once _).onLine l.first) (fun _ => rfl)
      (fun _ => rfl) mode
  | .literal l v => .plain rfl fun mode =>
    .inModes ((follows_pure _).step fun _ => rfl) (fun _ => rfl) (fun _ => rfl) mode
  | .attribute l e attr => .plain rfl fun mode => by
    have found := ((followed frame e).value .bare).bind fun v =>
      (follows_once (knownIn frame attr)).bind fun attr => (follows_once (getAttr v attr)).onLine l.last
    exact .shown (found.step fun _ => rfl) found (fun n => by simp [eval, Mode.eval]) (fun _ => rfl) mode
  | .subscript l e i => .plain rfl fun mode => by
    refine .inModes (.step ?_ fun _ => rfl) (fun _ => rfl) (fun _ => rfl) mode
    exact .bind ((followed frame e).value .bare) fun v => .bind ((followed frame i).value .bare) fun key =>
      .onLine (follows_once _) _
  | .slice l a b c => .plain rfl fun mode => by
    refine .inModes (.step ?_ fun _ => rfl) (fun _ => rfl) (fun _ => rfl) mode
    exact .bind (followedOption frame a) fun _ => .bind (followedOption frame b) fun _ =>
      .bind (followedOption frame c) fun _ => follows_pure _
  | .call l f args keywords => .plain rfl fun mode => by
    have function := ((followed frame f).value .bare).provided !Update.isStarred f
    have given : Follows (do
        let function ← provided (!Update.isStarred f) (f.account frame .bare)
        let items ← accountItems frame .whole args
        let named ← accountKeywords frame keywords
        called function items.flatten named) fun n => evalWhole n frame (.call l f args keywords) :=
      .step (function.bind fun function => .flat (followed_args (followedAll frame args) l.first) fun values =>
        (followed_keywords (followedKeywords frame keywords)).bind fun named =>
          .onLine (follows_called function values named) _) fun _ => rfl
    have whole := Follows.given (Helped frame) given
    exact .shown whole whole (fun _ => rfl) (fun _ => rfl) mode
  | .binary l op a b => .plain rfl fun mode => by
    refine .inModes (.step ?_ fun _ => rfl) (fun _ => rfl) (fun _ => rfl) mode
    exact .bind ((followed frame a).value .bare) fun v => .bind ((followed frame b).value .bare) fun w =>
      .onLine (follows_once _) _
  | .unary l op a => .plain rfl fun mode => by
    refine .inModes (.step (.bind ((followed frame a).value .bare) fun v => ?_) fun _ => rfl) (fun _ => rfl) (fun _ => rfl) mode
    cases op with
    | not => exact .bind (.onLine (follows_once _) _) fun _ => follows_pure _
    | _ => exact .onLine (follows_once _) _
  | .boolean l op items => .plain rfl fun mode =>
    .inModes (.step (followed_junction op l.first (followedAll frame items)) fun _ => rfl) (fun _ => rfl) (fun _ => rfl) mode
  | .compare l a rest => .plain rfl fun mode => by
    refine .inModes (.step ?_ fun _ => rfl) (fun _ => rfl) (fun _ => rfl) mode
    exact .bind ((followed frame a).value .compared) fun v => followed_chain l.first (followedComparisons frame rest) v
  | .conditional l test a b => .plain rfl fun mode => by
    refine .inModes (.step ?_ fun _ => rfl) (fun _ => rfl) (fun _ => rfl) mode
    exact .bind ((followed frame test).value .bare) fun v => .bind (.onLine (follows_once _) _) fun _ =>
      .ite ((followed frame a).value .bare) ((followed frame b).value .bare)
  | .lambda l params body => .plain rfl fun mode => .inModes (follows_ofRuns _ _) (fun _ => rfl) (fun _ => rfl) mode
  | .tuple l items => .plain rfl fun mode => by
    have plain := (followed_display (followedAll frame items) l.first).flat fun values => follows_pure (.tuple values)
    cases mode with
    | bare => exact plain.step fun _ => rfl
    | whole => exact (plain.step fun _ => rfl).step fun _ => rfl
    | compared =>
      have made (values : List Value) : Follows
          (if items.all isLiteral then pure (.tuple values) else once (hold (.tuple values)))
          fun _ => if items.all isLiteral then pure (.tuple values) else hold (.tuple values) :=
        .ite (follows_pure _) (follows_once _)
      refine ((followed_flat (followedAll frame items) l.first .compared).flat made).step fun n => ?_
      rw [evalItem_eq]
      rfl
  | .list l items => .plain rfl fun mode => by
    have plain := (followed_display (followedAll frame items) l.first).flat fun values => follows_once (newList values)
    cases mode with
    | bare => exact plain.step fun _ => rfl
    | whole => exact (plain.step fun _ => rfl).step fun _ => rfl
    | compared =>
      refine ((followed_flat (followedAll frame items) l.first .compared).flat fun values =>
        follows_once (newList values)).step fun n => ?_
      rw [evalItem_eq]
      rfl
  | .named l target e => .plain rfl fun mode => by
    have value := (followed frame e).value .bare
    cases target with
    | name l' id =>
      have stored (v : Value) : Follows (once (assignName frame id v)) fun n => assign n frame (.name l' id) v :=
        ((follows_once _).onLine l'.first).step fun _ => rfl
      exact .inModes (.step (value.bind fun v => (stored v).bind fun _ => follows_pure v) fun _ => rfl) (fun _ => rfl)
        (fun _ => rfl) mode
    | _ => exact follows_unknown
  | .starred l e =>
    ⟨.inModes ((follows_once _).onLine l.first |>.step fun _ => rfl) (fun _ => rfl) (fun _ => rfl), fun mode line =>
      .bind ((followed frame e).value .bare) fun v => .onLine (follows_once _) _⟩
  | .set .. | .dict .. | .listComp .. | .setComp .. | .generator .. | .dictComp .. | .yields .. | .yieldsFrom .. | .await ..
  | .filled .. => .plain rfl
    (.inModes ((follows_once _).onLine _ |>.step fun _ => rfl) (fun _ => rfl) (fun _ => rfl))

theorem followedAll (frame : Frame) : ∀ items : List Expr, ∀ e ∈ items, Followed frame e
  | [] => nofun
  | e :: rest => List.forall_mem_cons.mpr ⟨followed frame e, followedAll frame rest⟩

theorem followedKeywords (frame : Frame) : ∀ keywords : List Keyword, ∀ k ∈ keywords, Followed frame k.value
  | [] => nofun
  | .mk _ e :: rest => List.forall_mem_cons.mpr ⟨followed frame e, followedKeywords frame rest⟩

theorem followedComparisons (frame : Frame) : ∀ rest : List (CompareOp × Expr), ∀ p ∈ rest, Followed frame p.2
  | [] => nofun
  | (_, e) :: rest => List.forall_mem_cons.mpr ⟨followed frame e, followedComparisons frame rest⟩

theorem followedOption (frame : Frame) : ∀ e : Option Expr, Follows (accountOption frame e) fun n =>
    match e with
    | some e => eval n frame e
    | none => pure .null
  | none => follows_pure null
  | some e => (followed frame e).value .bare

end

end Rebind
