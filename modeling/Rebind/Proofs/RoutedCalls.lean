import Rebind.Proofs.CallRecords
import Rebind.Proofs.Unplaced
/-!
Calls that go through the helper for broadcasting. Each call outside of lambdas becomes a call to the helper with the
function as first argument, and nothing else changes. Without arrays among the arguments the helper calls the function as
it would have been called, so that expressions end as before, after the same calls. One step is shown for each kind of
expression, by accounts that say which calls were made.
-/
namespace Rebind.Syntax

open Update

/-! ### Taking the helper out again -/

def isHelper : Expr → Bool
  | .attribute _ (.name _ x) attr => x = libraryName && attr = "broadcast_call"
  | _ => false

mutual

/-- The expression without its lines in which the first argument of each call is its function again. Lambdas stay as they
are; outside of them, all calls have to go through the helper. -/
def unrouted? : Expr → Option Expr
  | .call _ g args keywords => do
    guard (isHelper g)
    match ← unroutedList? args, ← unroutedKeywords? keywords with
    | f :: args, keywords => return .call default f args keywords
    | [], _ => none
  | .lambda l p body => return (Expr.lambda l p body).unplaced
  | .name _ id => return .name default id
  | .literal _ v => return .literal default v
  | .attribute _ v a => return .attribute default (← unrouted? v) a
  | .subscript _ v i => return .subscript default (← unrouted? v) (← unrouted? i)
  | .slice _ a b c => return .slice default (← unroutedOption? a) (← unroutedOption? b) (← unroutedOption? c)
  | .binary _ o a b => return .binary default o (← unrouted? a) (← unrouted? b)
  | .unary _ o a => return .unary default o (← unrouted? a)
  | .boolean _ o as => return .boolean default o (← unroutedList? as)
  | .compare _ a as => return .compare default (← unrouted? a) (← unroutedComparisons? as)
  | .conditional _ a b c => return .conditional default (← unrouted? a) (← unrouted? b) (← unrouted? c)
  | .tuple _ as => return .tuple default (← unroutedList? as)
  | .list _ as => return .list default (← unroutedList? as)
  | .set _ as => return .set default (← unroutedList? as)
  | .dict _ as => return .dict default (← unroutedEntries? as)
  | .starred _ a => return .starred default (← unrouted? a)
  | .listComp _ a cs => return .listComp default (← unrouted? a) (← unroutedClauses? cs)
  | .setComp _ a cs => return .setComp default (← unrouted? a) (← unroutedClauses? cs)
  | .generator _ a cs => return .generator default (← unrouted? a) (← unroutedClauses? cs)
  | .dictComp _ k a cs => return .dictComp default (← unrouted? k) (← unrouted? a) (← unroutedClauses? cs)
  | .named _ t a => return .named default (← unrouted? t) (← unrouted? a)
  | .yields _ a => return .yields default (← unroutedOption? a)
  | .yieldsFrom _ a => return .yieldsFrom default (← unrouted? a)
  | .await _ a => return .await default (← unrouted? a)
  | .filled a => return .filled (← unrouted? a)

def unroutedOption? : Option Expr → Option (Option Expr)
  | none => some none
  | some a => return some (← unrouted? a)

def unroutedList? : List Expr → Option (List Expr)
  | [] => some []
  | a :: as => return (← unrouted? a) :: (← unroutedList? as)

def unroutedComparisons? : List (CompareOp × Expr) → Option (List (CompareOp × Expr))
  | [] => some []
  | (o, a) :: as => return (o, ← unrouted? a) :: (← unroutedComparisons? as)

def unroutedEntries? : List (Option Expr × Expr) → Option (List (Option Expr × Expr))
  | [] => some []
  | (k, a) :: as => return (← unroutedOption? k, ← unrouted? a) :: (← unroutedEntries? as)

def unroutedKeywords? : List Keyword → Option (List Keyword)
  | [] => some []
  | .mk n a :: as => return .mk n (← unrouted? a) :: (← unroutedKeywords? as)

def unroutedClauses? : List Clause → Option (List Clause)
  | [] => some []
  | .mk s t i cs :: as =>
    return .mk s (← unrouted? t) (← unrouted? i) (← unroutedList? cs) :: (← unroutedClauses? as)

end

theorem unrouted_routed : ∀ (l : Lines) (e : Expr), unrouted? (routed l e) = some e.unplaced := by
  have helper (l : Lines) : isHelper (library l "broadcast_call") = true := rfl
  -- One statement for each of the functions that `routed` goes through.
  apply routed.induct (fun l e => unrouted? (routed l e) = some e.unplaced)
    (fun l cs => unroutedClauses? (routedClauses l cs) = some (unplacedClauses cs))
    (fun l c => ∀ cs, unroutedClauses? (routedClause l c :: cs) = (unroutedClauses? cs).bind fun cs => some (c.unplaced :: cs))
    (fun l as => unroutedList? (routedList l as) = some (unplacedList as))
    (fun l as => unroutedEntries? (routedEntries l as) = some (unplacedEntries as))
    (fun l a => unroutedOption? (routedOption l a) = some (unplacedOption a))
    (fun l as => unroutedComparisons? (routedComparisons l as) = some (unplacedComparisons as))
    (fun ks => unroutedKeywords? (routedKeywords ks) = some (unplacedKeywords ks))
    (fun k => ∀ ks, unroutedKeywords? (routedKeyword k :: ks) = (unroutedKeywords? ks).bind fun ks => some (k.unplaced :: ks)) <;>
  intros <;> simp_all [routed, unrouted?, Expr.unplaced, routedClauses, unroutedClauses?, unplacedClauses, routedClause,
    Clause.unplaced, routedList, unroutedList?, unplacedList, routedEntries, unroutedEntries?, unplacedEntries,
    routedOption, unroutedOption?, unplacedOption, routedComparisons, unroutedComparisons?, unplacedComparisons,
    routedKeywords, unroutedKeywords?, unplacedKeywords, routedKeyword, Keyword.unplaced]

end Rebind.Syntax

namespace Rebind

open Syntax Filter Account Update

/-! ### Accounts of routed calls -/

/-- The same call, made through the helper. -/
def Call.routed (call : Call) : Call := ⟨.builtin .broadcastCall, call.function :: call.args, call.named⟩

def Call.takesArray (call : Call) : Bool := (call.args ++ call.named.map (·.2)).any Value.isArray

/-- From a memory on, the second account is as the first with its calls made through the helper, unless an array is among
their arguments. -/
def BecomesAt (m : Memory) (first second : Account α) : Prop :=
  ∀ result after calls, first m = some (result, after, calls) → (∀ call ∈ calls, call.takesArray = false) →
    second m = some (result, after, calls.map Call.routed)

def Becomes (first second : Account α) : Prop := ∀ m, BecomesAt m first second

section
variable {x y : Account α} {m : Memory}

theorem becomes_ofRuns (run : Nat → Run α) : Becomes (ofRuns run []) (ofRuns run []) := by
  intro m result after calls ran _
  obtain ⟨_, _, same⟩ := Option.map_eq_some_iff.mp ran
  cases same
  exact ran

theorem becomes_once (run : Run α) : Becomes (once run) (once run) := becomes_ofRuns _

theorem becomes_pure (a : α) : Becomes (pure a) (pure a) := by
  intro m result after calls ran _
  cases ran
  rfl

theorem becomes_unknown : Becomes unknown y := fun _ => nofun

theorem BecomesAt.bind {next later : α → Account β} (first : BecomesAt m x y) (second : ∀ a, Becomes (next a) (later a)) :
    BecomesAt m (x >>= next) (y >>= later) := by
  intro result after calls ran plain
  rw [bind_eq_some_iff] at ran ⊢
  obtain ⟨fault, failed, rfl⟩ | ⟨a, between, made, more, went, ended, rfl⟩ := ran
  · exact .inl ⟨fault, first _ _ _ failed plain, rfl⟩
  · rw [List.forall_mem_append] at plain
    exact .inr ⟨a, between, _, _, first _ _ _ went plain.1, second a _ _ _ _ ended plain.2, List.map_append⟩

theorem Becomes.bind {next later : α → Account β} (first : Becomes x y) (second : ∀ a, Becomes (next a) (later a)) :
    Becomes (x >>= next) (y >>= later) := fun m => (first m).bind second

theorem Becomes.ite {c : Prop} [Decidable c] {x' y' : Account α} (first : Becomes x y) (second : Becomes x' y') :
    Becomes (if c then x else x') (if c then y else y') := by
  split
  · exact first
  · exact second

theorem becomes_given {holds : Memory → Prop} (rest : ∀ m, holds m → BecomesAt m x y) :
    Becomes (given holds >>= fun _ => x) (given holds >>= fun _ => y) := by
  intro m result after calls ran plain
  rw [bind_eq_some_iff] at ran ⊢
  unfold given at ran ⊢
  by_cases h : holds m
  · simp only [if_pos h] at ran ⊢
    obtain ⟨_, failed, _⟩ | ⟨_, _, _, _, went, ended, rfl⟩ := ran
    · cases failed
    · cases went
      exact .inr ⟨_, _, _, _, rfl, rest _ h _ _ _ ended (by simpa using plain), by simp⟩
  · simp [if_neg h] at ran

theorem Becomes.show {x y : Account Value} (found : Becomes x y) (mode : Mode) : Becomes (mode.show x) (mode.show y) :=
  found.bind fun _ => becomes_pure _

end

/-! ### A call through the helper -/

theorem itself_bare (v : Value) : v.bare.itself = v.itself := by
  cases v <;> rfl

theorem isArray_bare {v : Value} (plain : v.itself.isArray = false) : v.bare.isArray = false := by
  cases v with
  | held id v =>
    cases v with
    | held => rfl
    | _ => exact plain
  | _ => exact plain

section
variable {frame : Frame} {e : Expr} {m : Memory} {function w : Value} {args : List Value} {named : Bindings}

theorem call_helper (plain : (Call.of function args named).takesArray = false) (n : Nat) (w : Value) :
    Program.call (n + 1) (.builtin .broadcastCall) (w :: args) named = Program.call n w.bare args named := by
  have none : ((args ++ named.map (·.2)).any fun v => v.bare.isArray) = false := by
    simp only [Call.takesArray, Call.of, List.any_eq_false, List.map_map, List.mem_append, List.mem_map] at plain ⊢
    rintro v (given | ⟨p, given, rfl⟩) array
    · exact Bool.false_ne_true ((isArray_bare (by simpa using plain _ (.inl ⟨v, given, rfl⟩))).symm.trans array)
    · exact Bool.false_ne_true ((isArray_bare (by simpa using plain _ (.inr ⟨p, given, rfl⟩))).symm.trans array)
  change (if ((args ++ named.map (·.2)).any fun v => v.bare.isArray) = true then _ else _) = _
  rw [none]
  rfl

theorem call_bare {ending : Except Fault Value × Memory}
    (settles : ∀ᶠ n in atTop, (Program.call n w args named).ending m = ending) :
    ∀ᶠ n in atTop, (Program.call n w.bare args named).ending m = ending := by
  cases w with
  | held id v => exact (tendsto_add_atTop_nat 1).eventually settles
  | _ => exact settles

theorem becomes_called {strip : Value → Value} (strips : strip = id ∨ strip = Value.bare) (w : Value) (args : List Value)
    (named : Bindings) :
    Becomes (called (strip w) args named) (called (.builtin .broadcastCall) (w :: args) named) := by
  intro m result after calls ran plain
  obtain ⟨⟨result, after⟩, settles, same⟩ := Option.map_eq_some_iff.mp ran
  cases same
  rw [List.forall_mem_singleton] at plain
  rw [limit_eq_some_iff] at settles
  have bare : ∀ᶠ n in atTop, (Program.call n w.bare args named).ending m = (result, after) := by
    obtain rfl | rfl := strips
    · exact call_bare settles
    · exact settles
  have through : Run.limit (fun n => Program.call n (.builtin .broadcastCall) (w :: args) named) m = some (result, after) := by
    refine limit_eq_some_iff.mpr (eventually_of_succ ?_)
    simpa only [call_helper plain] using bare
  have itself : (strip w).itself = w.itself := by
    obtain rfl | rfl := strips
    · rfl
    · exact itself_bare w
  simp [called, ofRuns, through, Call.routed, Call.of, itself, Value.itself]

theorem bind_known {x : Account α} {next : α → Account β} {a : α} {between : Memory}
    (known : x m = some (.ok a, between, [])) : (x >>= next) m = next a between := by
  change (x m).bind _ = _
  rw [known]
  change (next a between).map _ = next a between
  rcases next a between with _ | ⟨_, _, _⟩ <;> rfl

theorem once_yields {run : Run α} {a : α} {after : Memory} (ran : run.Yields m a after) : once run m = some (.ok a, after, []) := by
  have ending : run.ending m = (.ok a, after) := by
    rw [Run.Yields] at ran
    rw [Run.ending, ran]
    rfl
  simp [once, ofRuns, limit_eq_some_iff.mpr (.of_forall fun _ => ending)]

theorem helper_account (helped : Helped frame m) (l : Lines) :
    (library l "broadcast_call").account frame .bare m = some (.ok (.builtin .broadcastCall), m, []) := by
  rw [Helped] at helped
  simp only [yields_bind] at helped
  obtain ⟨v, between, loaded, attr, last, known, got⟩ := helped
  have name : (Expr.name l libraryName).account frame .bare m = some (.ok v.bare, between, []) :=
    bind_known (once_yields loaded)
  have found : ((Expr.name l libraryName).account frame .bare >>= fun v =>
      once (Run.knownIn frame "broadcast_call") >>= fun attr => once (Value.getAttr v attr)) m =
      some (.ok (.builtin .broadcastCall), m, []) :=
    (bind_known name).trans ((bind_known (once_yields known)).trans (once_yields got))
  exact bind_known found

theorem account_bare (e : Expr) : ∃ strip, (strip = id ∨ strip = Value.bare) ∧
    e.account frame .bare = strip <$> e.account frame .whole := by
  match e with
  | .name .. | .attribute .. | .call .. => exact ⟨_, .inr rfl, by simp [Expr.account, Mode.show, Mode.shown]⟩
  | .literal .. | .subscript .. | .slice .. | .binary .. | .unary .. | .boolean .. | .compare .. | .conditional .. | .lambda ..
  | .tuple .. | .list .. | .set .. | .dict .. | .starred .. | .listComp .. | .setComp .. | .generator .. | .dictComp ..
  | .yields .. | .yieldsFrom .. | .await .. | .filled .. => exact ⟨_, .inl rfl, (id_map _).symm⟩
  | .named _ target _ => cases target <;> exact ⟨_, .inl rfl, (id_map _).symm⟩

theorem isStarred_routed (l : Lines) (e : Expr) : Update.isStarred (routed l e) = Update.isStarred e := by
  cases e <;> rfl

theorem accountItems_first (frame : Frame) (plain : Update.isStarred e = false) (mode : Mode) (rest : List Expr)
    (next : List Value → Account α) : (accountItems frame mode (e :: rest) >>= fun items => next items.flatten) =
      e.account frame mode >>= fun v => accountItems frame mode rest >>= fun items => next (v :: items.flatten) := by
  simp [accountItems_cons, accountItem_plain plain]

theorem isLiteral_routed (l : Lines) (e : Expr) : Program.isLiteral (routed l e) = Program.isLiteral e := by
  cases e <;> rfl

theorem all_isLiteral_routed (l : Lines) (items : List Expr) :
    (routedList l items).all Program.isLiteral = items.all Program.isLiteral := by
  induction items with
  | nil => rfl
  | cons e rest ih => simp only [routedList, List.all_cons, isLiteral_routed, ih]

end

/-! ### Whole expressions -/

/-- With its calls routed, the expression is evaluated as before, also where it stands among items. -/
structure Rerouted (frame : Frame) (e : Expr) : Prop where
  value (l : Lines) (mode : Mode) : Becomes (e.account frame mode) ((routed l e).account frame mode)
  item (l : Lines) (mode : Mode) : Becomes (accountItem frame mode e) (accountItem frame mode (routed l e))

section
variable {frame : Frame} {e : Expr}

theorem Rerouted.plain (plain : Update.isStarred e = false)
    (value : ∀ l mode, Becomes (e.account frame mode) ((routed l e).account frame mode)) : Rerouted frame e where
  value := value
  item l mode := by
    rw [accountItem_plain plain, accountItem_plain ((isStarred_routed l e).trans plain)]
    exact (value l mode).bind fun _ => becomes_pure _

theorem rerouted_items {items : List Expr} (rerouted : ∀ e ∈ items, Rerouted frame e) (l : Lines) (mode : Mode) :
    Becomes (accountItems frame mode items) (accountItems frame mode (routedList l items)) := by
  induction items with
  | nil => exact becomes_pure []
  | cons e rest ih =>
    rw [List.forall_mem_cons] at rerouted
    simp only [routedList, accountItems_cons]
    exact (rerouted.1.item l mode).bind fun _ => (ih rerouted.2).bind fun _ => becomes_pure _

theorem rerouted_keywords {keywords : List Keyword} (rerouted : ∀ k ∈ keywords, Rerouted frame k.value) :
    Becomes (accountKeywords frame keywords) (accountKeywords frame (routedKeywords keywords)) := by
  induction keywords with
  | nil => exact becomes_pure []
  | cons k rest ih =>
    rw [List.forall_mem_cons] at rerouted
    match k with
    | .mk none _ => exact becomes_once _
    | .mk (some name) e => exact (rerouted.1.value e.lines .whole).bind fun _ => (ih rerouted.2).bind fun _ => becomes_pure _

theorem rerouted_junction (op : BoolOp) (l : Lines) {items : List Expr} (rerouted : ∀ e ∈ items, Rerouted frame e) :
    Becomes (accountJunction frame op items) (accountJunction frame op (routedList l items)) := by
  induction items with
  | nil => exact becomes_pure _
  | cons e rest ih =>
    rw [List.forall_mem_cons] at rerouted
    have value := rerouted.1.value l .bare
    match rest with
    | [] => exact value
    | _ :: _ => exact value.bind fun v => (becomes_once _).bind fun _ => .ite (becomes_pure v) (ih rerouted.2)

theorem rerouted_chain (l : Lines) {rest : List (CompareOp × Expr)} (rerouted : ∀ p ∈ rest, Rerouted frame p.2) (a : Value) :
    Becomes (accountChain frame a rest) (accountChain frame a (routedComparisons l rest)) := by
  induction rest generalizing a with
  | nil => exact becomes_pure _
  | cons p rest ih =>
    rw [List.forall_mem_cons] at rerouted
    obtain ⟨op, e⟩ := p
    have same : (routedComparisons l rest).isEmpty = rest.isEmpty := by cases rest <;> rfl
    simp only [routedComparisons, accountChain, same]
    exact (rerouted.1.value l .compared).bind fun b => (becomes_once _).bind fun verdict =>
      .ite (becomes_pure verdict) ((becomes_once _).bind fun _ => .ite (ih rerouted.2 b) (becomes_pure verdict))

end

mutual

theorem rerouted (frame : Frame) : ∀ e : Expr, Rerouted frame e
  | .name l id => .plain rfl fun _ mode => (becomes_once _).show mode
  | .literal l v => .plain rfl fun _ mode => becomes_pure _
  | .attribute l e attr => .plain rfl fun _ mode =>
    (((rerouted frame e).value l .bare).bind fun v => (becomes_once _).bind fun _ => becomes_once _).show mode
  | .subscript l e i => .plain rfl fun _ mode =>
    ((rerouted frame e).value l .bare).bind fun _ => ((rerouted frame i).value l .bare).bind fun _ => becomes_once _
  | .slice l a b c => .plain rfl fun _ mode =>
    (reroutedOption frame a l).bind fun _ => (reroutedOption frame b l).bind fun _ => (reroutedOption frame c l).bind fun _ =>
      becomes_pure _
  | .call _ f args keywords => .plain rfl fun l mode => by
    refine Becomes.show (becomes_given fun m helped result after calls ran plain => ?_) mode
    cases starred : Update.isStarred f with
    | true =>
      rw [starred] at ran
      cases ran
    | false =>
      obtain ⟨strip, strips, bare⟩ := account_bare f
      rw [starred, bare] at ran
      simp only [Bool.not_false, provided, if_true, bind_map_left] at ran
      have first := accountItems_first frame ((isStarred_routed l f).trans starred) .whole (routedList l args)
        fun values => accountKeywords frame (Update.routedKeywords keywords) >>= called (.builtin .broadcastCall) values
      have rest := ((rerouted frame f).value l .whole m).bind fun w =>
        (rerouted_items (reroutedAll frame args) l .whole).bind fun items =>
          (rerouted_keywords (reroutedKeywords frame keywords)).bind fun named => becomes_called strips w items.flatten named
      exact (bind_known (helper_account helped l)).trans ((congrFun first m).trans (rest _ _ _ ran plain))
  | .binary l op a b => .plain rfl fun _ mode =>
    ((rerouted frame a).value l .bare).bind fun _ => ((rerouted frame b).value l .bare).bind fun _ => becomes_once _
  | .unary l op a => .plain rfl fun _ mode => ((rerouted frame a).value l .bare).bind fun v => by
    cases op with
    | not => exact (becomes_once _).bind fun _ => becomes_pure _
    | _ => exact becomes_once _
  | .boolean l op items => .plain rfl fun _ mode => rerouted_junction op l (reroutedAll frame items)
  | .compare l a rest => .plain rfl fun _ mode =>
    ((rerouted frame a).value l .compared).bind fun v => rerouted_chain l (reroutedComparisons frame rest) v
  | .conditional l test a b => .plain rfl fun _ mode =>
    ((rerouted frame test).value l .bare).bind fun _ => (becomes_once _).bind fun _ =>
      .ite ((rerouted frame a).value l .bare) ((rerouted frame b).value l .bare)
  | .lambda l params body => .plain rfl fun _ mode => becomes_ofRuns _
  | .tuple l items => .plain rfl fun _ mode => by
    have parts := rerouted_items (reroutedAll frame items) l
    cases mode with
    | compared =>
      simp only [routed, Expr.account, all_isLiteral_routed]
      exact (parts .compared).bind fun _ => .ite (becomes_pure _) (becomes_once _)
    | _ => exact (parts .bare).bind fun _ => becomes_pure _
  | .list l items => .plain rfl fun _ mode => by
    have parts := rerouted_items (reroutedAll frame items) l
    cases mode with
    | compared => exact (parts .compared).bind fun _ => becomes_once _
    | _ => exact (parts .bare).bind fun _ => becomes_once _
  | .named l target e => .plain rfl fun _ mode => by
    have value := (rerouted frame e).value l .bare
    cases target with
    | name => exact value.bind fun v => (becomes_once _).bind fun _ => becomes_pure v
    | _ => exact becomes_unknown
  | .starred l e => ⟨fun _ mode => becomes_once _, fun _ mode => ((rerouted frame e).value l .bare).bind fun _ => becomes_once _⟩
  | .set .. | .dict .. | .listComp .. | .setComp .. | .generator .. | .dictComp .. | .yields .. | .yieldsFrom .. | .await ..
  | .filled .. => .plain rfl fun _ _ => becomes_once _

theorem reroutedAll (frame : Frame) : ∀ items : List Expr, ∀ e ∈ items, Rerouted frame e
  | [] => nofun
  | e :: rest => List.forall_mem_cons.mpr ⟨rerouted frame e, reroutedAll frame rest⟩

theorem reroutedKeywords (frame : Frame) : ∀ keywords : List Keyword, ∀ k ∈ keywords, Rerouted frame k.value
  | [] => nofun
  | .mk _ e :: rest => List.forall_mem_cons.mpr ⟨rerouted frame e, reroutedKeywords frame rest⟩

theorem reroutedComparisons (frame : Frame) : ∀ rest : List (CompareOp × Expr), ∀ p ∈ rest, Rerouted frame p.2
  | [] => nofun
  | (_, e) :: rest => List.forall_mem_cons.mpr ⟨rerouted frame e, reroutedComparisons frame rest⟩

theorem reroutedOption (frame : Frame) : ∀ (e : Option Expr) (l : Lines),
    Becomes (accountOption frame e) (accountOption frame (routedOption l e))
  | none, _ => becomes_pure _
  | some e, l => (rerouted frame e).value l .bare

end

section
variable {m between after : Memory} {v w : Value} {args : List Value}

theorem called_yields (least : Nat) (ran : ∀ n, (Program.call (n + least) v args []).Yields m w after) :
    called v args [] m = some (.ok w, after, [.of v args []]) := by
  have ends (n : Nat) (le : least ≤ n) : (Program.call n v args []).ending m = (.ok w, after) := by
    obtain ⟨k, rfl⟩ := Nat.exists_eq_add_of_le' le
    rw [Run.ending, ran k]
    rfl
  simp [called, ofRuns, limit_eq_some_iff.mpr (eventually_atTop.mpr ⟨least, ends⟩)]

theorem account_call {name : String} {items : List Expr} {values : List (List Value)} {made calls : List Call} {l l' : Lines}
    {mode : Mode} (helped : Helped none m) (function : (Run.load none name).Yields m v m)
    (found : accountItems none .whole items m = some (.ok values, between, made)) (least : Nat)
    (ran : ∀ n, (Program.call (n + least) v.bare values.flatten []).Yields between w after)
    (all : calls = made ++ [.of v.bare values.flatten []]) :
    (Expr.call l (.name l' name) items []).account none mode m = some (.ok (mode.shown w), after, calls) := by
  subst all
  have found : (do
      given (Helped none)
      let function ← (Expr.name l' name).account none .bare
      let items ← accountItems none .whole items
      let named ← accountKeywords none []
      called function items.flatten named) m = some (.ok w, after, made ++ [.of v.bare values.flatten []]) := by
    rw [bind_known (if_pos helped), bind_known (bind_known (once_yields function)), bind_eq_some_iff]
    exact .inr ⟨_, _, _, _, found, (bind_known rfl).trans (called_yields least ran), rfl⟩
  exact bind_eq_some_iff.mpr (.inr ⟨_, _, _, _, found, rfl, (List.append_nil _).symm⟩)

end

end Rebind
