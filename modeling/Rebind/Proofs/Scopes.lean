import Mathlib.Tactic.Tauto
import Rebind.Proofs.Binding
/-!
The functions of a text and the names that are local to them. A name is local to a function if it is a parameter or is
bound somewhere in the body, nested functions and classes apart, and is not declared to be shared. This is read off the
text, and it is what gathering finds.
-/
namespace Rebind.Syntax

/-! ### Going through a body -/

section
variable {σ α : Type} (own : σ → Stmt → List α) (enter : σ → Stmt → Option σ)

mutual

/-- What is found in the suites of a statement. -/
def collectIn : Stmt → σ → List α
  | .branch _ _ b o, around | .forLoop _ _ _ _ b o, around | .whileLoop _ _ b o, around => collect b around ++ collect o around
  | .withBlock _ _ _ b, around | .function _ _ _ _ b _ _, around | .classDef _ _ _ _ b _, around => collect b around
  | .tryBlock _ _ b hs o c, around => collect b around ++ (collectHandled hs around ++ (collect o around ++ collect c around))
  | _, _ => []

/-- Goes through a body in the order of the text: what the statements have by themselves, and what is found in the
suites of those that are entered. -/
def collect : List Stmt → σ → List α
  | [], _ => []
  | s :: rest, around => own around s ++ ((enter around s).elim [] (collectIn s) ++ collect rest around)

def collectCaught : Handler → σ → List α
  | .mk _ _ _ b, around => collect b around

def collectHandled : List Handler → σ → List α
  | [], _ => []
  | h :: rest, around => collectCaught h around ++ collectHandled rest around

end

theorem collectHandled_eq (handlers : List Handler) (around : σ) :
    collectHandled own enter handlers around = (handlers.map Handler.body).flatMap (collect own enter · around) := by
  induction handlers with
  | nil => rfl
  | cons handler rest ih =>
    cases handler
    simp [collectHandled, collectCaught, ih, Handler.body]

theorem collectIn_eq (s : Stmt) (around : σ) :
    collectIn own enter s around = s.suites.flatMap (collect own enter · around) := by
  cases s <;> simp [collectIn, Stmt.suites, collectHandled_eq]

theorem collect_cons (s : Stmt) (rest : List Stmt) (around : σ) : collect own enter (s :: rest) around =
    own around s ++ ((enter around s).elim [] fun inside => s.suites.flatMap (collect own enter · inside)) ++
      collect own enter rest around := by
  simp [collect, funext (collectIn_eq own enter s)]

theorem collect_append (first second : List Stmt) (around : σ) :
    collect own enter (first ++ second) around = collect own enter first around ++ collect own enter second around := by
  induction first with
  | nil => rfl
  | cons s rest ih => simp [collect, ih]

end

/-! ### What a body does to names -/

/-- The ways in which a function takes or gives up a name. -/
inductive NameUse where
  | bound
  | imported
  | global
  | nonlocal
deriving DecidableEq, Repr

def asBound (names : List String) : List (NameUse × String) := names.map fun name => (.bound, name)

/-- A name with a type is bound if it gets a value, or if it stands without brackets. -/
def Expr.annotatedNames (simple given : Bool) : Expr → List String
  | .name _ id => if simple || given then [id] else []
  | t => t.targetNames

def WithItem.names (item : WithItem) : List String :=
  item.context.assigned ++ item.target.elim [] fun t => t.targetNames ++ t.assignedTarget

def Handler.names : Handler → List String
  | .mk _ t n _ => assignedOption t ++ n.toList

/-- What a statement does to names in the function around it, its suites apart. -/
def Stmt.uses : Stmt → List (NameUse × String)
  | .expr _ v => asBound v.assigned
  | .assign _ ts v => asBound (targetNamesAll ts ++ assignedTargets ts ++ v.assigned)
  | .augmented _ t _ v => asBound (t.targetNames ++ t.assignedTarget ++ v.assigned)
  | .annotated _ t a v simple =>
    asBound (t.annotatedNames simple v.isSome ++ (t.assignedTarget ++ (a.assigned ++ assignedOption v)))
  | .pass _ | .breakLoop _ | .continueLoop _ => []
  | .returnValue _ v => asBound (assignedOption v)
  | .raise _ e c => asBound (assignedOption e ++ assignedOption c)
  | .assertion _ t m => asBound (t.assigned ++ assignedOption m)
  | .delete _ ts => asBound (targetNamesAll ts ++ assignedTargets ts)
  | .globalNames _ names => names.map fun name => (.global, name)
  | .nonlocalNames _ names => names.map fun name => (.nonlocal, name)
  | .importNames _ names => names.map fun a => (.imported, a.bound)
  | .importFrom _ _ names _ => if names.any (·.name == "*") then [] else names.map fun a => (.imported, a.bound)
  | .branch _ t _ _ | .whileLoop _ t _ _ => asBound t.assigned
  | .forLoop _ _ t i _ _ => asBound (t.targetNames ++ t.assignedTarget ++ i.assigned)
  | .withBlock _ _ items _ => asBound (items.flatMap WithItem.names)
  | .tryBlock _ _ _ hs _ _ => asBound (hs.flatMap Handler.names)
  | .function _ _ name p _ ds r => asBound ([name] ++ (p.assigned ++ (assignedOption r ++ assignedList ds)))
  | .classDef _ name bs ks _ ds => asBound ([name] ++ (assignedList bs ++ (assignedKeywords ks ++ assignedList ds)))

/-- The suite of a function or a class is a block of its own. -/
def Stmt.isScope : Stmt → Bool
  | .function .. | .classDef .. => true
  | _ => false

/-- What a body does to names, the functions and classes in it apart. -/
def usesIn (body : List Stmt) : List (NameUse × String) :=
  collect (fun _ s => s.uses) (fun _ s => if s.isScope then none else some ()) body ()

@[simp] theorem usesIn_nil : usesIn [] = [] := rfl

theorem usesIn_cons (s : Stmt) (rest : List Stmt) :
    usesIn (s :: rest) = s.uses ++ (if s.isScope then [] else s.suites.flatMap usesIn) ++ usesIn rest := by
  rw [usesIn, collect_cons]
  cases s.isScope <;> rfl

theorem usesIn_append (first second : List Stmt) : usesIn (first ++ second) = usesIn first ++ usesIn second :=
  collect_append _ _ first second ()

/-! ### Gathering what statements do -/

/-- The names of a block that are used so. -/
def Names.under (names : Names) : NameUse → List String
  | .bound => names.binds
  | .imported => names.imports
  | .global => names.globals
  | .nonlocal => names.nonlocals

open Draft

namespace Draft

/-- The draft has come to know names, as the text calls them, by their uses. -/
structure Learns (d d' : Draft) (uses : List (NameUse × String)) : Prop where
  kind : d'.kind = d.kind
  owner : d'.owner = d.owner
  params : d.kind = .function → d'.names.params = d.names.params
  under : d.kind = .function → ∀ use x,
    x ∈ d'.names.under use ↔ x ∈ d.names.under use ∨ ∃ name, (use, name) ∈ uses ∧ privateName d.owner name = x

/-- In drafts of any kind, the step makes the uses, if it goes through. -/
def Makes (step : Draft → Option Draft) (uses : List (NameUse × String)) : Prop :=
  ∀ d d', step d = some d' → d.Learns d' uses

section
variable {d d' d'' : Draft} {step next : Draft → Option Draft} {uses more : List (NameUse × String)}
  {names : List String}

theorem Learns.refl (d : Draft) : d.Learns d [] := ⟨rfl, rfl, fun _ => rfl, by simp⟩

theorem Learns.trans (first : d.Learns d' uses) (second : d'.Learns d'' more) : d.Learns d'' (uses ++ more) where
  kind := second.kind.trans first.kind
  owner := second.owner.trans first.owner
  params isFunction := (second.params (first.kind.trans isFunction)).trans (first.params isFunction)
  under isFunction use x := by
    rw [second.under (first.kind.trans isFunction), first.under isFunction, first.owner]
    simp only [List.mem_append, or_and_right, exists_or, or_assoc]

theorem Learns.congr (learns : d.Learns d' uses) (same : ∀ use, use ∈ uses ↔ use ∈ more) : d.Learns d' more :=
  { learns with under := fun isFunction use x => by simp only [learns.under isFunction, same] }

theorem Widens.learns (widens : d.Widens d' names) : d.Learns d' (asBound names) where
  kind := widens.kind
  owner := widens.owner
  params isFunction := congrArg (·.1) (widens.given (.inl isFunction))
  under isFunction use x := by
    have given := widens.given (.inl isFunction)
    have outlets := widens.outlets (.inl isFunction) x
    simp only [Names.given, Prod.mk.injEq] at given
    cases use with
    | bound => simpa [Names.under, Draft.outlets, widens.kind, isFunction, asBound] using outlets
    | imported | global | nonlocal => simp [Names.under, asBound, given]

theorem Makes.andThen (first : Makes step uses) (second : Makes next more) :
    Makes (fun d => (step d).bind next) (uses ++ more) := by
  intro d d' done
  obtain ⟨between, ran, later⟩ := Option.bind_eq_some_iff.mp done
  exact (first d between ran).trans (second between d' later)

theorem Makes.congr (made : Makes step uses) (same : ∀ use, use ∈ uses ↔ use ∈ more) : Makes step more :=
  fun d d' done => (made d d' done).congr same

theorem makes_some : Makes some [] := by
  rintro d d' ⟨⟩
  exact .refl d

theorem Makes.of_eq (made : Makes step uses) (same : ∀ d, next d = step d) : Makes next uses :=
  fun d d' done => made d d' (same d ▸ done)

theorem makes_targets {inside : List String} (binds : ∀ kind, Binds kind step (kind.own names ++ inside)) :
    Makes step (asBound (names ++ inside)) := by
  intro d d' done
  have widens := binds d.kind d d' rfl done
  refine { kind := widens.kind, owner := widens.owner, params := ?_, under := ?_ }
  all_goals
    intro isFunction
    rw [isFunction] at widens
  · exact (Widens.learns widens).params isFunction
  · exact (Widens.learns widens).under isFunction

theorem makes_names (binds : ∀ kind, Binds kind step names) : Makes step (asBound names) :=
  fun d d' done => (binds d.kind d d' rfl done).learns

theorem bind_binds (name : String) (kind : BlockKind) : Binds kind (fun d => d.bind name) (kind.own [name]) := by
  rintro d d' rfl done
  exact bind_widens done

theorem importAll_makes (names : List String) :
    Makes (fun d => some (d.importAll names)) (names.map fun name => (.imported, name)) := by
  rintro d d' ⟨⟩
  refine ⟨rfl, rfl, fun _ => rfl, fun _ use x => ?_⟩
  cases use <;> simp [importAll, Names.under, known, or_comm]

theorem declareGlobal_makes (names : List String) :
    Makes (fun d => d.declareGlobal names) (names.map fun name => (.global, name)) := by
  intro d d' done
  simp only [declareGlobal] at done
  split at done
  · cases done
    refine ⟨rfl, rfl, fun _ => rfl, fun _ use x => ?_⟩
    cases use <;> simp [Names.under, known, or_comm]
  · cases done

theorem declareNonlocal_makes (names : List String) :
    Makes (fun d => d.declareNonlocal names) (names.map fun name => (.nonlocal, name)) := by
  intro d d' done
  simp only [declareNonlocal] at done
  split at done
  · cases done
    refine ⟨rfl, rfl, fun _ => rfl, fun _ use x => ?_⟩
    cases use <;> simp [Names.under, known, or_comm]
  · cases done

end
end Draft

@[simp] theorem asBound_nil : asBound [] = [] := rfl

@[simp] theorem asBound_append (names more : List String) : asBound (names ++ more) = asBound names ++ asBound more :=
  List.map_append

theorem annotated_binds (t : Expr) (simple given : Bool) {kind : BlockKind} :
    Binds kind (fun d => match t with
      | .name _ id => if simple then d.annotate id else if given then d.bind id else some d
      | t => t.gatherTarget d) (kind.own (t.annotatedNames simple given) ++ t.assignedTarget) := by
  cases t with
  | name l id =>
    intro d d' isKind done
    subst isKind
    simp only [Expr.annotatedNames, Expr.assignedTarget, List.append_nil]
    cases simple with
    | true =>
      simp only [if_true, annotate] at done
      split at done
      · cases done
      · exact bind_widens done
    | false =>
      cases given with
      | true => exact bind_widens done
      | false => simpa using binds_some d.kind d d' rfl done
  | _ => exact Expr.gatherTarget_binds _

theorem WithItem.gather_makes (item : WithItem) : Makes item.gather (asBound item.names) := by
  obtain ⟨context, target⟩ := item
  cases target with
  | none =>
    refine ((makes_names fun _ => context.gather_binds).andThen makes_some).congr ?_
    simp [WithItem.names]
  | some target =>
    refine ((makes_names fun _ => context.gather_binds).andThen (makes_targets fun _ => target.gatherTarget_binds)).congr ?_
    simp [WithItem.names]

theorem gatherItems_makes (items : List WithItem) : Makes (gatherItems items) (asBound (items.flatMap WithItem.names)) := by
  induction items with
  | nil => exact makes_some
  | cons item rest ih =>
    refine ((item.gather_makes).andThen ih).congr ?_
    simp

theorem Handler.gather_makes (handler : Handler) (inner : Makes (gatherBody handler.body) (usesIn handler.body)) :
    Makes handler.gather (asBound handler.names ++ usesIn handler.body) := by
  obtain ⟨line, type, name, body⟩ := handler
  have caught : Makes (fun d => name.toList.foldlM Draft.bind d) (asBound name.toList) := by
    cases name with
    | none => exact makes_some
    | some name => exact (makes_targets fun kind => (bind_binds name kind).andThen (binds_some kind)).of_eq fun _ => rfl
  refine ((makes_names fun _ => gatherOption_binds type).andThen (caught.andThen inner)).congr ?_
  simp [Handler.names, Handler.body]

theorem gatherHandlers_makes (handlers : List Handler)
    (inner : ∀ body ∈ handlers.map Handler.body, Makes (gatherBody body) (usesIn body)) :
    Makes (gatherHandlers handlers)
      (asBound (handlers.flatMap Handler.names) ++ (handlers.map Handler.body).flatMap usesIn) := by
  induction handlers with
  | nil => exact makes_some
  | cons handler rest ih =>
    simp only [List.map_cons, List.forall_mem_cons] at inner
    refine ((handler.gather_makes inner.1).andThen (ih inner.2)).congr ?_
    simp only [List.flatMap_cons, asBound_append, List.map_cons, List.mem_append]
    tauto

theorem Stmt.gather_makes (s : Stmt) (inner : ∀ suite ∈ s.suites, Makes (gatherBody suite) (usesIn suite)) :
    Makes s.gather (s.uses ++ if s.isScope then [] else s.suites.flatMap usesIn) := by
  have alone {uses} (made : Makes s.gather uses) (same : s.uses = uses)
      (last : s.isScope = true ∨ s.suites = []) :
      Makes s.gather (s.uses ++ if s.isScope then [] else s.suites.flatMap usesIn) := by
    rcases last with scope | none
    · simpa [scope, same] using made
    · simpa [none, same] using made
  cases s with
  | expr _ v => exact alone (makes_names fun _ => v.gather_binds) rfl (.inr rfl)
  | assign _ ts v =>
    refine alone (((makes_targets fun _ => gatherTargets_binds ts).andThen
      (makes_names fun _ => v.gather_binds))) ?_ (.inr rfl)
    simp [Stmt.uses]
  | augmented _ t _ v =>
    refine alone (((makes_targets fun _ => t.gatherTarget_binds).andThen
      (makes_names fun _ => v.gather_binds))) ?_ (.inr rfl)
    simp [Stmt.uses]
  | annotated _ t a v simple =>
    have made := (makes_targets fun _ => annotated_binds t simple v.isSome).andThen
      ((makes_names fun _ => a.gather_binds).andThen (makes_names fun _ => gatherOption_binds v))
    refine alone (made.of_eq fun d => ?_) ?_ (.inr rfl)
    · cases t <;> cases simple <;> cases v <;> rfl
    · simp [Stmt.uses]
  | pass _ | breakLoop _ | continueLoop _ => exact alone makes_some rfl (.inr rfl)
  | returnValue _ v => exact alone (makes_names fun _ => gatherOption_binds v) rfl (.inr rfl)
  | raise _ e c =>
    exact alone (makes_names fun _ => (gatherOption_binds e).andThen (gatherOption_binds c)) rfl (.inr rfl)
  | assertion _ t m => exact alone (makes_names fun _ => t.gather_binds.andThen (gatherOption_binds m)) rfl (.inr rfl)
  | delete _ ts => exact alone (makes_targets fun _ => gatherTargets_binds ts) rfl (.inr rfl)
  | globalNames _ names => exact alone (declareGlobal_makes names) rfl (.inr rfl)
  | nonlocalNames _ names => exact alone (declareNonlocal_makes names) rfl (.inr rfl)
  | importNames _ names =>
    refine alone (importAll_makes (names.map Alias.bound)) ?_ (.inr rfl)
    simp [Stmt.uses]
  | importFrom span module names level =>
    by_cases all : names.any (·.name == "*") = true
    · have nothing : Makes (Stmt.importFrom span module names level).gather [] := by
        intro d d' done
        rw [Stmt.gather, if_pos all] at done
        split at done
        · cases done
          exact .refl d
        · cases done
      exact alone nothing (by rw [Stmt.uses, if_pos all]) (.inr rfl)
    · refine alone ((importAll_makes (names.map Alias.bound)).of_eq fun d => ?_) ?_ (.inr rfl)
      · rw [Stmt.gather, if_neg all]
      · simp [Stmt.uses, all]
  | branch _ t b o | whileLoop _ t b o =>
    simp only [Stmt.suites, List.forall_mem_singleton, List.forall_mem_cons] at inner
    refine ((makes_names fun _ => t.gather_binds).andThen (inner.1.andThen inner.2)).congr ?_
    simp [Stmt.uses, Stmt.isScope, Stmt.suites]
  | forLoop _ _ t i b o =>
    simp only [Stmt.suites, List.forall_mem_singleton, List.forall_mem_cons] at inner
    refine ((makes_targets fun _ => t.gatherTarget_binds).andThen ((makes_names fun _ => i.gather_binds).andThen
      (inner.1.andThen inner.2))).congr ?_
    simp [Stmt.uses, Stmt.isScope, Stmt.suites]
  | withBlock _ _ items b =>
    simp only [Stmt.suites, List.mem_cons, List.not_mem_nil, or_false, forall_eq] at inner
    refine ((gatherItems_makes items).andThen inner).congr ?_
    simp [Stmt.uses, Stmt.isScope, Stmt.suites]
  | tryBlock _ _ b hs o c =>
    simp only [Stmt.suites, List.mem_cons, List.mem_append, List.not_mem_nil, or_false, or_imp, forall_and,
      forall_eq] at inner
    obtain ⟨first, handled, orelse, cleanup⟩ := inner
    refine (first.andThen (orelse.andThen ((gatherHandlers_makes hs handled).andThen cleanup))).congr ?_
    intro use
    simp only [Stmt.uses, Stmt.isScope, Stmt.suites, List.flatMap_cons, List.flatMap_append, List.flatMap_nil,
      List.mem_append, List.append_nil, Bool.false_eq_true, if_false]
    tauto
  | function _ _ name p b ds r =>
    exact alone (makes_targets fun kind => (bind_binds name kind).andThen (p.gather_binds.andThen
      ((gatherOption_binds r).andThen ((gatherList_binds ds).finish (adds_binds
        (fun d => Draft.function d.owner (p.all.map Param.name)) fun _ start => gatherBody b start))))) rfl (.inl rfl)
  | classDef _ name bs ks b ds =>
    exact alone (makes_targets fun kind => (bind_binds name kind).andThen ((gatherList_binds bs).andThen
      ((gatherKeywords_binds ks).andThen ((gatherList_binds ds).finish (adds_binds
        (fun _ => some { kind := .classBody, owner := name }) fun _ start => gatherBody b start))))) rfl (.inl rfl)

theorem gatherBody_makes (body : List Stmt) : Makes (gatherBody body) (usesIn body) := by
  induction body using body_induction with
  | nil => exact makes_some
  | cons s rest inner ih =>
    rw [usesIn_cons]
    exact (s.gather_makes inner).andThen ih

/-! ### Functions -/

/-- The rules of binding: a name is local if it is a parameter, bound or imported, and is not declared to be shared. The
names are those of the text, and `x` is what such a name is known as in the text of the class. -/
def LocalBy (owner : String) (params : List String) (uses : List (NameUse × String)) (x : String) : Prop :=
  (∃ name, (name ∈ params ∨ (.bound, name) ∈ uses ∨ (.imported, name) ∈ uses) ∧ privateName owner name = x) ∧
    ¬ ∃ name, ((.global, name) ∈ uses ∨ (.nonlocal, name) ∈ uses) ∧ privateName owner name = x

/-- A function in a text: the class in whose text it stands, its parameters and its body. -/
structure FunctionText where
  owner : String
  params : List String
  body : List Stmt

namespace FunctionText

def block? (text : FunctionText) : Option Block := functionBlock text.owner text.params text.body

def IsLocal (text : FunctionText) (x : String) : Prop := LocalBy text.owner text.params (usesIn text.body) x

theorem mem_locals_iff (text : FunctionText) {block : Block} (made : text.block? = some block) (x : String) :
    x ∈ block.names.locals ↔ text.IsLocal x := by
  simp only [block?, functionBlock, Option.map_eq_some_iff, Option.bind_eq_some_iff] at made
  obtain ⟨draft, ⟨start, begun, gathered⟩, rfl⟩ := made
  simp only [Draft.function] at begun
  split at begun
  · cases begun
    have learns := gatherBody_makes text.body _ draft gathered
    have under := learns.under rfl
    have params := learns.params rfl
    have bound := under .bound x
    have imported := under .imported x
    have global := under .global x
    have nonlocal := under .nonlocal x
    simp only [Names.under, List.not_mem_nil, false_or] at bound imported global nonlocal
    simp only [Draft.block, Block.names, Names.locals, List.mem_filter, List.mem_append, params, bound, imported,
      Bool.not_eq_true', Bool.or_eq_false_iff, List.contains_eq_mem, decide_eq_false_iff_not, global, nonlocal,
      List.mem_map, IsLocal, LocalBy, or_and_right, exists_or, not_or, or_assoc]
  · cases begun

end FunctionText

/-- The class whose text the suites of a statement are. -/
def Stmt.ownerInside (owner : String) : Stmt → String
  | .classDef _ name _ _ _ _ => name
  | _ => owner

/-- The statements of a text at any position, each with the class in whose text it stands. -/
def standing (body : List Stmt) (owner : String) : List (String × Stmt) :=
  collect (fun owner s => [(owner, s)]) (fun owner s => some (s.ownerInside owner)) body owner

@[simp] theorem standing_nil (owner : String) : standing [] owner = [] := rfl

theorem standing_cons (s : Stmt) (rest : List Stmt) (owner : String) : standing (s :: rest) owner =
    (owner, s) :: (s.suites.flatMap (standing · (s.ownerInside owner)) ++ standing rest owner) :=
  collect_cons _ _ s rest owner

theorem standing_append (first second : List Stmt) (owner : String) :
    standing (first ++ second) owner = standing first owner ++ standing second owner :=
  collect_append _ _ first second owner

def Stmt.functionText? (owner : String) : Stmt → Option FunctionText
  | .function _ _ _ p body _ _ => some ⟨owner, p.all.map Param.name, body⟩
  | _ => none

/-- The functions of a text, at any depth, in the order of their definitions. -/
def functionsIn (body : List Stmt) (owner : String) : List FunctionText :=
  collect (fun owner s => (s.functionText? owner).toList) (fun owner s => some (s.ownerInside owner)) body owner

@[simp] theorem functionsIn_nil (owner : String) : functionsIn [] owner = [] := rfl

theorem functionsIn_cons (s : Stmt) (rest : List Stmt) (owner : String) : functionsIn (s :: rest) owner =
    (s.functionText? owner).toList ++ s.suites.flatMap (functionsIn · (s.ownerInside owner)) ++
      functionsIn rest owner :=
  collect_cons _ _ s rest owner

theorem functionsIn_append (first second : List Stmt) (owner : String) :
    functionsIn (first ++ second) owner = functionsIn first owner ++ functionsIn second owner :=
  collect_append _ _ first second owner

def Gathered (owner : String) (body : List Stmt) : Prop := ∃ d d', d.owner = owner ∧ gatherBody body d = some d'

theorem gatherBody_owner {body : List Stmt} {d d' : Draft} (done : gatherBody body d = some d') : d'.owner = d.owner :=
  (gatherBody_makes body d d' done).owner

theorem gatherHandlers_gathered (handlers : List Handler) {d d' : Draft} (done : gatherHandlers handlers d = some d') :
    d'.owner = d.owner ∧ ∀ body ∈ handlers.map Handler.body, Gathered d.owner body := by
  induction handlers generalizing d with
  | nil =>
    cases done
    simp
  | cons handler rest ih =>
    obtain ⟨d₁, caught, later⟩ := Option.bind_eq_some_iff.mp done
    have owner := (handler.gather_makes (gatherBody_makes _) d d₁ caught).owner
    obtain ⟨last, others⟩ := ih later
    refine ⟨last.trans owner, ?_⟩
    rw [owner] at others
    simp only [List.map_cons, List.forall_mem_cons]
    refine ⟨?_, others⟩
    obtain ⟨line, type, name, body⟩ := handler
    obtain ⟨d₂, typed, rest⟩ := Option.bind_eq_some_iff.mp caught
    obtain ⟨d₃, named, inside⟩ := Option.bind_eq_some_iff.mp rest
    have first := (gatherOption_binds type d d₂ rfl typed).owner
    have second : d₃.owner = d₂.owner := by
      cases name with
      | none =>
        cases named
        rfl
      | some name =>
        have bound : d₂.bind name = some d₃ := by simpa using named
        exact (bind_widens bound).owner
    exact ⟨d₃, d₁, second.trans first, inside⟩

theorem gather_functionText (s : Stmt) {d d' : Draft} (done : s.gather d = some d') {text : FunctionText}
    (defines : s.functionText? d.owner = some text) : ∃ block, text.block? = some block := by
  cases s with
  | function _ _ name p b ds r =>
    cases defines
    obtain ⟨d₁, bound, rest⟩ := Option.bind_eq_some_iff.mp done
    obtain ⟨d₂, params, rest⟩ := Option.bind_eq_some_iff.mp rest
    obtain ⟨d₃, returns, rest⟩ := Option.bind_eq_some_iff.mp rest
    obtain ⟨d₄, decorated, rest⟩ := Option.bind_eq_some_iff.mp rest
    obtain ⟨start, begun, rest⟩ := Option.bind_eq_some_iff.mp rest
    obtain ⟨inside, gathered, -⟩ := Option.bind_eq_some_iff.mp rest
    have owner : d₄.owner = d.owner :=
      calc d₄.owner = d₃.owner := (gatherList_binds ds d₃ d₄ rfl decorated).owner
        _ = d₂.owner := (gatherOption_binds r d₂ d₃ rfl returns).owner
        _ = d₁.owner := (p.gather_binds d₁ d₂ rfl params).owner
        _ = d.owner := (bind_widens bound).owner
    rw [owner] at begun
    exact ⟨inside.block, by simp [FunctionText.block?, functionBlock, begun, gathered]⟩
  | _ => cases defines

theorem FunctionText.gathered (text : FunctionText) {block : Block} (made : text.block? = some block) :
    Gathered text.owner text.body := by
  simp only [block?, functionBlock, Option.map_eq_some_iff, Option.bind_eq_some_iff] at made
  obtain ⟨draft, ⟨start, begun, gathered⟩, -⟩ := made
  refine ⟨start, draft, ?_, gathered⟩
  simp only [Draft.function] at begun
  split at begun <;> cases begun
  rfl

theorem Stmt.gather_suites (s : Stmt) {d d' : Draft} (done : s.gather d = some d') :
    ∀ suite ∈ s.suites, Gathered (s.ownerInside d.owner) suite := by
  cases s with
  | branch _ t b o | whileLoop _ t b o =>
    obtain ⟨d₁, tested, rest⟩ := Option.bind_eq_some_iff.mp done
    obtain ⟨d₂, first, second⟩ := Option.bind_eq_some_iff.mp rest
    have owner := (t.gather_binds d d₁ rfl tested).owner
    simp only [Stmt.suites, List.forall_mem_singleton, List.forall_mem_cons]
    exact ⟨⟨d₁, d₂, owner, first⟩, d₂, d', (gatherBody_owner first).trans owner, second⟩
  | forLoop _ _ t i b o =>
    obtain ⟨d₁, bound, rest⟩ := Option.bind_eq_some_iff.mp done
    obtain ⟨d₂, source, rest⟩ := Option.bind_eq_some_iff.mp rest
    obtain ⟨d₃, first, second⟩ := Option.bind_eq_some_iff.mp rest
    have owner := (i.gather_binds d₁ d₂ rfl source).owner.trans (t.gatherTarget_binds d d₁ rfl bound).owner
    simp only [Stmt.suites, List.forall_mem_singleton, List.forall_mem_cons]
    exact ⟨⟨d₂, d₃, owner, first⟩, d₃, d', (gatherBody_owner first).trans owner, second⟩
  | withBlock _ _ items b =>
    obtain ⟨d₁, entered, inside⟩ := Option.bind_eq_some_iff.mp done
    simp only [Stmt.suites, List.mem_singleton, forall_eq]
    exact ⟨d₁, d', (gatherItems_makes items d d₁ entered).owner, inside⟩
  | tryBlock _ _ b hs o c =>
    obtain ⟨d₁, first, rest⟩ := Option.bind_eq_some_iff.mp done
    obtain ⟨d₂, orelse, rest⟩ := Option.bind_eq_some_iff.mp rest
    obtain ⟨d₃, handled, cleanup⟩ := Option.bind_eq_some_iff.mp rest
    have owner₁ := gatherBody_owner first
    have owner₂ := (gatherBody_owner orelse).trans owner₁
    obtain ⟨same, handlers⟩ := gatherHandlers_gathered hs handled
    rw [owner₂] at handlers
    simp only [Stmt.suites, List.mem_cons, List.mem_append, List.not_mem_nil, or_false, or_imp, forall_and, forall_eq]
    exact ⟨⟨d, d₁, rfl, first⟩, handlers, ⟨d₁, d₂, owner₁, orelse⟩, d₃, d', same.trans owner₂, cleanup⟩
  | function _ _ name p b ds r =>
    obtain ⟨block, made⟩ := gather_functionText _ done rfl
    simp only [Stmt.suites, List.mem_singleton, forall_eq]
    exact FunctionText.gathered _ made
  | classDef _ name bs ks b ds =>
    obtain ⟨_, _, rest⟩ := Option.bind_eq_some_iff.mp done
    obtain ⟨_, _, rest⟩ := Option.bind_eq_some_iff.mp rest
    obtain ⟨_, _, rest⟩ := Option.bind_eq_some_iff.mp rest
    obtain ⟨_, _, rest⟩ := Option.bind_eq_some_iff.mp rest
    obtain ⟨inside, gathered, -⟩ := Option.bind_eq_some_iff.mp rest
    simp only [Stmt.suites, List.mem_singleton, forall_eq]
    exact ⟨_, inside, rfl, gathered⟩
  | _ => simp [Stmt.suites]

theorem Gathered.functions {owner : String} {body : List Stmt} (gathered : Gathered owner body) :
    ∀ text ∈ functionsIn body owner, ∃ block, text.block? = some block := by
  induction body using body_induction generalizing owner with
  | nil => simp
  | cons s rest inner ih =>
    obtain ⟨d, d', rfl, done⟩ := gathered
    obtain ⟨between, first, later⟩ := Option.bind_eq_some_iff.mp done
    have kept := (s.gather_makes (fun suite _ => gatherBody_makes suite) d between first).owner
    intro text member
    simp only [functionsIn_cons, List.mem_append, Option.mem_toList, List.mem_flatMap] at member
    rcases member with (defines | ⟨suite, held, member⟩) | member
    · exact gather_functionText s first defines
    · exact inner suite held (s.gather_suites first suite held) text member
    · exact ih ⟨between, d', kept, later⟩ text member

end Rebind.Syntax
