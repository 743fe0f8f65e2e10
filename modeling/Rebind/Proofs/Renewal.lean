import Rebind.Proofs.Splicing
import Rebind.Proofs.Steps
/-!
Functions made anew. A decorated function is read from its text and defined once more, in a scope apart from
the module, so its defaults and annotations are evaluated a second time. What they give is dropped: the new
function takes over the defaults, the names and the attributes of the old one. Main statement: what comes of
decorating a function that has no blocks, and how it fails.
-/
namespace Rebind

open Syntax Update Program

section
variable {m after : Memory} {f : Function} {id : Nat}

theorem yields_object {object : Object} : (Run.object id).Yields m object after ↔
    m.objects.getD id .token = object ∧ m = after := by
  simp [Run.object, and_comm, eq_comm]

theorem yields_store : (Run.store id object).Yields m u after ↔
    { m with objects := m.objects.setIfInBounds id object } = after := yields_modify

theorem yields_allocate : (Run.allocate object).Yields m number after ↔
    m.objects.size = number ∧ { m with objects := m.objects.push object } = after := by
  simp [Run.allocate, and_comm]

theorem getD_push_old {objects : Array Object} (old : k < objects.size) (object : Object) :
    (objects.push object).getD k .token = objects.getD k .token := by
  simp [Array.getD_eq_getD_getElem?, Array.getElem?_push, Nat.ne_of_lt old]

theorem getD_push_new (objects : Array Object) (object : Object) :
    (objects.push object).getD objects.size .token = object := by
  simp [Array.getD_eq_getD_getElem?]

theorem getD_set_self {objects : Array Object} (old : k < objects.size) (object : Object) :
    (objects.setIfInBounds k object).getD k .token = object := by
  simp [Array.getD_eq_getD_getElem?, old]

theorem getD_set_other {objects : Array Object} (other : j ≠ k) (object : Object) :
    (objects.setIfInBounds j object).getD k .token = objects.getD k .token := by
  simp [Array.getD_eq_getD_getElem?, other]

theorem set_push_set {objects : Array Object} (old : k < objects.size) (first other last : Object) :
    ((objects.push first).setIfInBounds k other).setIfInBounds objects.size last =
      (objects.setIfInBounds k other).push last := by
  apply Array.ext_getElem?
  intro j
  simp only [Array.getElem?_setIfInBounds, Array.getElem?_push, Array.size_setIfInBounds, Array.size_push]
  grind

theorem lt_of_getD {objects : Array Object} (found : objects.getD k .token = object) (told : object ≠ .token) :
    k < objects.size := by
  by_contra beyond
  apply told
  rw [← found, Array.getD_eq_getD_getElem?, Array.getElem?_eq_none (by omega), Option.getD_none]

theorem functionContent?_yields (found : m.objects.getD id .token = .function f) :
    (Run.functionContent? id).Yields m (some f) m := by
  simp [Run.functionContent?, yields_object, found]

theorem scope_yields (found : m.objects.getD id .token = .scope s) : (Run.scope id).Yields m s m := by
  simp [Run.scope, yields_object, found]

end

section
variable {m : Memory} {f : Function} {id : Nat} {policy : Policy}

theorem lowerCode_blockless (closed : f.captured = []) (texted : (Run.textOf f id).Yields m text m)
    (read : readModuleFrom f.firstLine (Text.dedent text) =
      .ok (.function span isAsync name params body decorators returns :: others))
    (blockless : ∀ s, Within s body → policy.isBlock s = false)
    (fits : moduleFits [.function span isAsync name params body [] returns] = true) :
    (Run.lowerCode policy f id).Yields m ⟨name, .function span isAsync name params body [] returns, 0⟩ m := by
  have made : (Run.lowerDefinition policy f (.function span isAsync name params body decorators returns)).Yields m
      ⟨name, .function span isAsync name params body [] returns, 0⟩ m := by
    simp [Run.lowerDefinition, lowerBodies_unchanged policy body blockless, Counted.done, Run.ofExcept]
  unfold Run.lowerCode
  rw [closed]
  simp only [List.isEmpty_nil, Bool.not_true, Bool.false_eq_true, if_false, yields_bind]
  refine ⟨text, m, texted, ?_⟩
  simp only [read, yields_bind]
  exact ⟨_, m, made, by simp [fits]⟩

def Memory.withLibrary (m : Memory) : Memory :=
  if (m.globals.lookup libraryName).isNone then
    { m with globals := Bindings.set m.globals libraryName (.module .helpers) }
  else m

/-- The scope apart from the module in which a definition is run once more. -/
def scopeApart (name : String) (vars : Bindings) : Scope := ⟨.classBody, [name], [], vars, none, "", ""⟩

/-- The memory in which the definition is run once more. -/
def Memory.apart (m : Memory) (name : String) : Memory :=
  { m.withLibrary with objects := m.objects.push (.scope (scopeApart name [])) }

theorem enclosing_apart (found : m.objects.getD id .token = .scope (scopeApart name vars)) (x : String) (fuel : Nat) :
    (Run.enclosing x fuel (some id)).Yields m none m := by
  cases fuel with
  | zero => simp [Run.enclosing]
  | succ fuel =>
    have scope := scope_yields found
    simp only [Run.enclosing, yields_bind]
    refine ⟨_, m, scope, ?_⟩
    cases fuel <;> simp [Run.shows, scopeApart, Run.enclosing]

theorem enclosingOf_apart (found : m.objects.getD id .token = .scope (scopeApart name vars)) (x : String) :
    (Run.enclosingOf x (some id)).Yields m none m := by
  simp only [Run.enclosingOf, yields_bind, yields_get]
  exact ⟨m, m, ⟨rfl, rfl⟩, enclosing_apart found x _⟩

theorem filterAuxM_none {p : α → Run Bool} (items acc : List α) (none_ : ∀ a ∈ items, (p a).Yields m false m) :
    (List.filterAuxM p items acc).Yields m acc m := by
  induction items with
  | nil => simp [List.filterAuxM]
  | cons a rest ih =>
    rw [List.forall_mem_cons] at none_
    simp only [List.filterAuxM, yields_bind]
    exact ⟨false, m, none_.1, ih none_.2⟩

theorem capturedNames_apart (found : m.objects.getD id .token = .scope (scopeApart name vars)) (names : List String) :
    (Run.capturedNames (some id) names).Yields m [] m := by
  have none_ (x : String) : (do return (← Run.enclosingOf x (some id)).isSome : Run Bool).Yields m false m := by
    simp only [yields_bind, yields_pure]
    exact ⟨none, m, enclosingOf_apart found x, rfl, rfl⟩
  simp only [Run.capturedNames, List.filterM, yields_bind, yields_pure]
  exact ⟨[], m, ⟨[], m, filterAuxM_none _ _ fun x _ => none_ x, rfl, rfl⟩, by simp, rfl⟩

/-- A function made apart from the module. -/
def functionApart (id : Nat) (span : Span) (isAsync : Bool) (name : String) (params : Params) (body : List Stmt)
    (defaults : List Value × Bindings) : Function where
  name := name
  qualname := name
  codeName := name
  path := name
  params := params
  body := .statements body
  isAsync := isAsync
  defaults := defaults.1
  keywordDefaults := defaults.2
  names := (blockOf "" params (.statements body)).names
  captured := []
  scope := some id
  doc := ((docOf body).map Value.str).getD .null
  firstLine := span.line

theorem makeFunction_apart (found : m.objects.getD id .token = .scope (scopeApart name vars)) :
    (makeFunction (some id) name params (.statements body) isAsync defaults
      (((docOf body).map Value.str).getD .null) span.line).Yields m (.function m.objects.size)
      { m with objects := m.objects.push (.function (functionApart id span isAsync name params body defaults)) } := by
  have scope := scope_yields found
  have path : (Run.qualified (some id) name).Yields m name m := by
    simp only [Run.qualified, yields_bind]
    exact ⟨_, m, scope, by simp [scopeApart]⟩
  have owner : (Run.ownerOf (some id)).Yields m "" m := by
    simp only [Run.ownerOf, yields_bind, yields_pure]
    exact ⟨_, m, scope, rfl, rfl⟩
  simp only [makeFunction, yields_bind, yields_pure, yields_allocate]
  exact ⟨_, m, path, _, m, owner, _, m, capturedNames_apart found _, _, _, ⟨rfl, rfl⟩, rfl, rfl⟩

theorem assignName_apart {number : Nat} (found : m.objects.getD id .token = .scope (scopeApart name vars)) :
    (Run.assignName (some id) name (.function number)).Yields m ()
      { m with
        objects := m.objects.setIfInBounds id
          (.scope (scopeApart name (Bindings.set vars name (.function number)))) } := by
  have scope := scope_yields found
  have known : (Run.knownIn (some id) name).Yields m name m := by
    simp only [Run.knownIn, Run.ownerOf, yields_bind, yields_pure]
    exact ⟨_, m, ⟨_, m, scope, rfl, rfl⟩, by simp [scopeApart], rfl⟩
  have home : (Run.home (some id) name).Yields m (some id) m := by
    simp only [Run.home, yields_bind]
    exact ⟨_, m, scope, by simp [scopeApart]⟩
  have held : (Run.hold (.function number)).Yields m (.function number) m := yields_pure.mpr ⟨rfl, rfl⟩
  simp only [Run.assignName, yields_bind]
  refine ⟨_, m, known, _, m, held, _, m, home, ?_⟩
  simp only [Run.modifyScope, yields_bind, yields_store]
  exact ⟨_, m, scope, rfl⟩

/-- What a definition evaluates before its function is made: its defaults, and then its annotations. -/
def evalHeader (fuel : Nat) (frame : Frame) (params : Params) (returns : Option Expr) :
    Run (List Value × Bindings) := do
  let defaults ← evalDefaults fuel frame params
  (params.all.filterMap Param.annotated? ++ returns.toList).forM fun e => discard (eval fuel frame e)
  return defaults

theorem exec_definition (fuel : Nat) (frame : Frame) :
    exec (fuel + 1) frame (.function span isAsync name params body [] returns) = do
      let defaults ← evalHeader fuel frame params returns
      let made ← makeFunction frame name params (.statements body) isAsync defaults
        (((docOf body).map Value.str).getD .null) span.line
      onLine span.line (Run.assignName frame name made)
      return .next := by
  simp [exec, evalHeader, startLine, Stmt.span]

theorem exec_definition_apart (evaluated : (evalHeader fuel (some id) params returns).Yields m given after)
    (found : after.objects.getD id .token = .scope (scopeApart name vars)) :
    let made := functionApart id span isAsync name params body given
    (exec (fuel + 1) (some id) (.function span isAsync name params body [] returns)).Yields m .next
      { after with
        objects := (after.objects.push (.function made)).setIfInBounds id
          (.scope (scopeApart name (Bindings.set vars name (.function after.objects.size)))) } := by
  intro made
  have pushed : (after.objects.push (.function made)).getD id .token = .scope (scopeApart name vars) :=
    (getD_push_old (lt_of_getD found (by simp)) _).trans found
  simp only [exec_definition, yields_bind, yields_pure, yields_onLine]
  exact ⟨given, after, evaluated, _, _, makeFunction_apart found, (), _, assignName_apart pushed, trivial, rfl⟩

theorem attr?_function (found : m.objects.getD id .token = .function f) (name : String) (said : f.attr? name = some v) :
    (Value.attr? (.function id) name).Yields m (some v) m := by
  refine yields_tryCatch ?_
  simp only [yields_map, Value.getAttr, yields_bind]
  exact ⟨v, ⟨_, m, functionContent?_yields found, by simp [said, Value.orMissing]⟩, rfl⟩

/-- The attributes of a function that was made anew. -/
def renewedAttrs (f : Function) (id : Nat) (text : String) : Bindings :=
  Bindings.set (Bindings.set (f.attrs.foldl (fun attrs (name, w) => Bindings.set attrs name w) []) Function.wrappedAttr
    (.function id)) Function.loweredAttr (.str text)

theorem renewed_yields (found : m.objects.getD id .token = .function f) (lowered : Lowered) (code : Function)
    (bare : code.attrs = []) :
    (renewed f id lowered code).Yields m
      { code with
        name := f.name, qualname := f.qualname, doc := f.doc.bare, defaults := f.defaults,
        keywordDefaults := f.keywordDefaults, attrs := renewedAttrs f id lowered.text } m := by
  have name := attr?_function found "__name__" rfl
  have qualname := attr?_function found "__qualname__" rfl
  have doc := attr?_function found "__doc__" rfl
  have own : (Value.ownAttrs (.function id)).Yields m f.attrs m := by
    simp only [Value.ownAttrs, yields_bind, yields_pure]
    exact ⟨_, m, functionContent?_yields found, rfl, rfl⟩
  simp only [renewed, Function.standingFor, yields_bind, yields_pure, List.foldlM_cons, List.foldlM_nil]
  -- Both names and the documentation are taken over one after the other, and then the attributes.
  refine ⟨_, m, ⟨_, m, ⟨_, m, ⟨_, m, name, yields_ofExcept.mpr ⟨rfl, rfl⟩⟩,
    _, m, ⟨_, m, qualname, yields_ofExcept.mpr ⟨rfl, rfl⟩⟩,
    _, m, ⟨_, m, doc, yields_ofExcept.mpr ⟨rfl, rfl⟩⟩, rfl, rfl⟩, _, m, own, rfl, rfl⟩, ?_, rfl⟩
  simp [renewedAttrs, bare, Text.Wide.text_ofString]

/-- The function that comes of making a function anew from its text. Its names, its documentation and its defaults
stay, and all else is that of a definition apart from the module. -/
def Function.anew (f : Function) (id apart : Nat) (span : Span) (isAsync : Bool) (name : String) (params : Params)
    (body : List Stmt) (returns : Option Expr) : Function :=
  { functionApart apart span isAsync name params body (f.defaults, f.keywordDefaults) with
    name := f.name
    qualname := f.qualname
    doc := f.doc.bare
    attrs := renewedAttrs f id (Stmt.function span isAsync name params body [] returns).text }

/-- The memory with a new function, bound to its name in the scope apart. -/
def Memory.adopt (m : Memory) (apart : Nat) (name : String) (vars : Bindings) (g : Function) : Memory :=
  { m with
    objects := (m.objects.setIfInBounds apart
      (.scope (scopeApart name (Bindings.set vars name (.function m.objects.size))))).push (.function g)
    log := m.log ++ [.finished 0 g.qualname] }

theorem call_marker (fuel id : Nat) : Program.call (fuel + 1) (.marker policy) [.function id] [] =
    lowerFunction fuel policy (.function id) := by
  simp [Program.call, subjectAndPolicy, policyOf]

theorem run_withLibrary (rest : Run α) : ((if (m.globals.lookup libraryName).isNone then do
      Run.storeGlobal libraryName (.module .helpers)
      rest
    else rest).run.run m).run = (rest.run.run m.withLibrary).run := by
  unfold Memory.withLibrary
  split <;> rfl

theorem allocate_apart (name : String) :
    (Run.allocate (.scope (scopeApart name []))).Yields m.withLibrary m.objects.size (m.apart name) := by
  have same : m.withLibrary.objects = m.objects := by
    unfold Memory.withLibrary
    split <;> rfl
  simp [yields_allocate, Memory.apart, same]

section
variable (content : m.objects.getD id .token = .function f)
  (lowered : (Run.lowerCode policy f id).Yields m ⟨name, definition, n⟩ m)
include content lowered

theorem lowerFunction_fails (failed : (exec fuel (some m.objects.size) definition).Fails (m.apart name) fault after) :
    (lowerFunction (fuel + 1) policy (.function id)).Fails m fault after := by
  simp only [lowerFunction, fails_bind]
  refine .inr ⟨_, m, functionContent?_yields content, ?_⟩
  simp only [fails_bind]
  refine .inr ⟨_, m, lowered, .inr ⟨_, m, yields_get.mpr ⟨rfl, rfl⟩, ?_⟩⟩
  refine (run_withLibrary _).trans ?_
  exact fails_bind.mpr (.inr ⟨_, _, allocate_apart name, fails_bind.mpr (.inl (fails_discard failed))⟩)

/-- Where the new definition goes through and binds its name to a function, that function takes over what is said
about the old one. -/
theorem lowerFunction_yields {code : Function}
    (ran : (exec fuel (some m.objects.size) definition).Yields (m.apart name) flow after)
    (found : after.objects.getD m.objects.size .token = .scope s) (bound : s.vars.lookup name = some (.function new))
    (made : after.objects.getD new .token = .function code)
    (renewed : (renewed f id ⟨name, definition, n⟩ code).Yields after g after) :
    (lowerFunction (fuel + 1) policy (.function id)).Yields m (.function new)
      { after with
        objects := after.objects.setIfInBounds new (.function g), log := after.log ++ [.finished n f.qualname] } := by
  simp only [lowerFunction, yields_bind]
  refine ⟨_, m, functionContent?_yields content, ?_⟩
  simp only [yields_bind]
  refine ⟨_, m, lowered, _, m, yields_get.mpr ⟨rfl, rfl⟩, ?_⟩
  refine (run_withLibrary _).trans ?_
  refine yields_bind.mpr ⟨_, _, allocate_apart name, yields_bind.mpr ⟨(), after, yields_discard.mpr ⟨_, ran⟩, ?_⟩⟩
  refine yields_bind.mpr ⟨_, _, scope_yields found, ?_⟩
  simp only [bound, yields_bind]
  refine ⟨_, after, functionContent?_yields made, ?_⟩
  simp only [yields_bind, yields_store, yields_modify, yields_pure]
  exact ⟨g, after, renewed, (), _, rfl, (), _, rfl, trivial, rfl⟩

end

theorem lowerFunction_renews (content : m.objects.getD id .token = .function f)
    (lowered : (Run.lowerCode policy f id).Yields m ⟨name, .function span isAsync name params body [] returns, 0⟩ m)
    (evaluated : (evalHeader fuel (some m.objects.size) params returns).Yields (m.apart name) given after)
    (found : after.objects.getD m.objects.size .token = .scope (scopeApart name vars))
    (kept : after.objects.getD id .token = .function f) :
    (lowerFunction (fuel + 2) policy (.function id)).Yields m (.function after.objects.size)
      (after.adopt m.objects.size name vars (f.anew id m.objects.size span isAsync name params body returns)) := by
  let apart := m.objects.size
  let new := after.objects.size
  let code := functionApart apart span isAsync name params body given
  let bound := scopeApart name (Bindings.set vars name (.function new))
  let objects := (after.objects.push (.function code)).setIfInBounds apart (.scope bound)
  have here : apart < new := lt_of_getD found (by simp)
  have there : id < new := lt_of_getD kept (by simp)
  have other : apart ≠ id := by
    intro same
    rw [← same, found] at kept
    cases kept
  have ran : (exec (fuel + 1) (some apart) (.function span isAsync name params body [] returns)).Yields
      (m.apart name) .next { after with objects := objects } := exec_definition_apart evaluated found
  -- The objects that the rest asks for: the scope apart, the function just made and the one that is made anew.
  have inScope : objects.getD apart .token = .scope bound := getD_set_self (by rw [Array.size_push]; omega) _
  have made : objects.getD new .token = .function code :=
    (getD_set_other (Nat.ne_of_lt here) _).trans (getD_push_new _ _)
  have old : objects.getD id .token = .function f :=
    (getD_set_other other _).trans ((getD_push_old there _).trans kept)
  have renewed : (renewed f id ⟨name, .function span isAsync name params body [] returns, 0⟩ code).Yields
      { after with objects := objects } (f.anew id apart span isAsync name params body returns)
      { after with objects := objects } := renewed_yields old _ code rfl
  have all := lowerFunction_yields content lowered ran inScope (lookup_set_self vars name _) made renewed
  rw [set_push_set here] at all
  exact all

theorem loadOuter_apart (found : m.objects.getD id .token = .scope (scopeApart name vars)) (x : String) :
    ((Run.loadOuter x (some id)).run.run m).run = ((Run.loadOuter x none).run.run m).run := by
  have at_module : (Run.enclosingOf x none).Yields m none m := by
    simp only [Run.enclosingOf, yields_bind, yields_get]
    refine ⟨m, m, ⟨rfl, rfl⟩, ?_⟩
    cases m.objects.size <;> simp [Run.enclosing]
  unfold Run.loadOuter
  rw [(enclosingOf_apart found x).bind_run, at_module.bind_run]

theorem bindArguments_anew (same : f.params = params) (outside : f.owner = "") :
    (f.anew id apart span isAsync name params body returns).bindArguments = f.bindArguments := by
  cases f
  cases same
  cases outside
  rfl

/-- Decorating a function without blocks evaluates its defaults and annotations once more, apart from the module. If
that goes through, the new function keeps the defaults of the old one and has the code of its text; if it fails, the
decoration fails in the same way. Calls of the new function find the names of the module, and where the function
stands in the module itself they bind their arguments as before. -/
theorem blockless_decoration {policy : Policy} (content : m.objects.getD id .token = .function f)
    (closed : f.captured = []) (texted : (Run.textOf f id).Yields m text m)
    (read : readModuleFrom f.firstLine (Text.dedent text) =
      .ok (.function span isAsync name params body decorators returns :: others))
    (blockless : ∀ s, Within s body → policy.isBlock s = false)
    (fits : moduleFits [.function span isAsync name params body [] returns] = true) (fuel : Nat) :
    let apart := m.objects.size
    let again := evalHeader fuel (some apart) params returns
    let decorated := Program.call (fuel + 3) (.marker policy) [.function id] []
    let g := f.anew id apart span isAsync name params body returns
    (∀ given after vars, again.Yields (m.apart name) given after →
      after.objects.getD apart .token = .scope (scopeApart name vars) → after.objects.getD id .token = .function f →
      decorated.Yields m (.function after.objects.size) (after.adopt apart name vars g)) ∧
    (∀ fault after, again.Fails (m.apart name) fault after → decorated.Fails m fault after) ∧
    (∀ later vars x, later.objects.getD apart .token = .scope (scopeApart name vars) →
      ((Run.loadOuter x (some apart)).run.run later).run = ((Run.loadOuter x none).run.run later).run) ∧
    (f.params = params → f.owner = "" → g.bindArguments = f.bindArguments) := by
  intro apart again decorated g
  have lowered := lowerCode_blockless closed texted read blockless fits
  have marked : decorated = Program.lowerFunction (fuel + 2) policy (.function id) := call_marker _ _
  rw [marked]
  refine ⟨?_, ?_, fun later vars x found => loadOuter_apart found x, bindArguments_anew⟩
  · intro given after vars evaluated found kept
    exact lowerFunction_renews content lowered evaluated found kept
  · intro fault after failed
    apply lowerFunction_fails content lowered
    rw [exec_definition, fails_bind]
    exact .inl failed

end

/-! ### A default that is counted -/

/-- A function whose default counts how often it is evaluated. -/
def countedText : String := "@bb\ndef f(x=tick()):\n    return x\n"

def countedParams : Params := .mk [] [.mk "x" none (some (.call ⟨2, 2⟩ (.name ⟨2, 2⟩ "tick") [] []))] none [] none

def countedBody : List Stmt := [.returnValue ⟨3, 4, 3, 12⟩ (some (.name ⟨3, 3⟩ "x"))]

/-- The function as its definition made it, with the first count for its default. -/
def countedFunction : Function where
  name := "f"
  qualname := "f"
  codeName := "f"
  path := "f"
  params := countedParams
  body := .statements countedBody
  isAsync := false
  defaults := [.int 1]
  keywordDefaults := []
  names := (blockOf "" countedParams (.statements countedBody)).names
  captured := []
  scope := none
  firstLine := 1

def countedMemory : Memory where
  prelude := [("bb", .marker .standard), ("tick", .builtin .tick)]
  text := some countedText
  objects := #[.function countedFunction]
  ticks := 1

/-- Whether the text was read as the counted function, every part in its place. -/
def readsAsCounted : Except ReadError (List Stmt) → Bool
  | .ok [.function s a n (.mk [] [.mk x none (some (.call l (.name k callee) [] []))] none [] none)
      [.returnValue t (some (.name j y))] [.name i marker] none] =>
    decide ((s, a, n, x, l, k, callee) = (⟨2, 0, 3, 12⟩, false, "f", "x", ⟨2, 2⟩, ⟨2, 2⟩, "tick") ∧
      (t, j, y, i, marker) = (⟨3, 4, 3, 12⟩, ⟨3, 3⟩, "x", ⟨1, 1⟩, "bb"))
  | _ => false

theorem countedText_reads : readModuleFrom 1 (Text.dedent countedText) =
    .ok [.function ⟨2, 0, 3, 12⟩ false "f" countedParams countedBody [.name ⟨1, 1⟩ "bb"] none] := by
  have same : readsAsCounted (readModuleFrom 1 (Text.dedent countedText)) = true := by decide +kernel
  unfold readsAsCounted at same
  split at same
  · next read =>
    simp only [decide_eq_true_eq, Prod.mk.injEq] at same
    simp [read, same, countedParams, countedBody]
  · cases same

/-- The decoration of a function with a counted default: the second evaluation counts once more, and the new
function keeps the first count. -/
theorem counted_default_renewed :
    (Program.call 8 (.marker .standard) [.function 0] []).Yields countedMemory (.function 2)
      ({ countedMemory.apart "f" with ticks := 2 }.adopt 1 "f" []
        (countedFunction.anew 0 1 ⟨2, 0, 3, 12⟩ false "f" countedParams countedBody none)) := by
  have blockless : ∀ s, Within s countedBody → Policy.isBlock .standard s = false := by
    intro s within
    simp [countedBody, Stmt.suites] at within
    rw [within]
    rfl
  have fits : moduleFits [.function ⟨2, 0, 3, 12⟩ false "f" countedParams countedBody [] none] = true := by
    decide +kernel
  have again : (evalHeader 5 (some 1) countedParams none).Yields (countedMemory.apart "f") ([.int 2], [])
      { countedMemory.apart "f" with ticks := 2 } := rfl
  have content : countedMemory.objects.getD 0 .token = .function countedFunction := rfl
  have texted : (Run.textOf countedFunction 0).Yields countedMemory countedText countedMemory := rfl
  have decorated := blockless_decoration content rfl texted countedText_reads blockless fits 5
  exact decorated.1 _ _ _ again rfl rfl

/-- Whether the text of a module goes through, and how often it counts. -/
def outcomeOf (text : String) : Bool × Nat :=
  let start : Memory := { prelude := moduleNames .standard, text := some text }
  let (result, after) := ((runText text).run.run start).run
  (result.isOk, after.ticks)

/-- Decorating a function is not without effect, even if it has no blocks. A counted default is evaluated twice, and a
default that a class gives to a method is not found. -/
theorem decoration_not_neutral : outcomeOf "def f(x=tick()):\n    return x\n" = (true, 1) ∧
    outcomeOf "@bb\ndef f(x=tick()):\n    return x\n" = (true, 2) ∧
    outcomeOf "class C:\n    k = 3\n    def f(self, x=k):\n        return x\n" = (true, 0) ∧
    outcomeOf "class C:\n    k = 3\n    @bb\n    def f(self, x=k):\n        return x\n" = (false, 0) := by
  decide +kernel

end Rebind
