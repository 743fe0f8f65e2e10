import Rebind.Program.Argument
import Rebind.Program.Lowering
import Rebind.Program.Shown
/-!
Programs at work. Expressions give values, statements change variables and memory, and a failure is marked
with the line on which it arose. All of it is bounded by fuel, which every nested step uses up.
-/
namespace Rebind

open Number Syntax Run

/-- How a statement ends. -/
inductive Flow where
  | next
  | returned (v : Value)
  | broke
  | continued

namespace Program

def onLine (line : Nat) (run : Run α) : Run α :=
  tryCatch run fun fault => throw (fault.at_ line)

def literal : Literal → Value
  | .none => .null
  | .bool b => .bool b
  | .ellipsis => .ellipsis
  | .int n => .int n
  | .float bits => .float (.ofBits bits)
  | .imaginary bits => .complex 0.0 (.ofBits bits)
  | .str s _ => .str s
  | .bytes b => .bytes b

/-- Whether a value names the kind of a failure, or a more general one. -/
def names (kind : ErrorKind) : Value → Bool
  | .errorType wanted => isA 4 kind wanted
  | .tuple kinds => kinds.any fun
    | .errorType wanted => isA 4 kind wanted
    | _ => false
  | _ => false
where
  isA : (steps : Nat) → ErrorKind → ErrorKind → Bool
    | 0, kind, wanted => kind == wanted
    | steps + 1, kind, wanted =>
      kind == wanted ||
        match kind.parent? with
        | some parent => isA steps parent wanted
        | none => false

def wrapper (v : Value) : Run Function :=
  let own : Function :=
    { name := "wrapper", qualname := "wrap_result.<locals>.wrapper", codeName := "wrapper", path := "",
      params := .mk [] [] none [] none, body := .inList v, isAsync := false, defaults := [], keywordDefaults := [],
      names := {}, captured := ["func"], scope := none, firstLine := 0 }
  own.standingFor v

def renewed (old : Function) (id : Nat) (lowered : Lowered) (new : Function) : Run Function := do
  let new ← new.standingFor (.function id)
  return { new with
    defaults := old.defaults
    keywordDefaults := old.keywordDefaults
    attrs := Bindings.set new.attrs Function.loweredAttr (.str lowered.text) }

def policyOf (otherwise : Policy) : Value → Run Policy
  | .null => return otherwise
  | .policy rules => return rules
  | _ => fail .attribute

def subjectAndPolicy (args : List Value) (named : Bindings) : Run (Option Value × Value) := do
  if named.any fun (name, _) => name != "policy" then fail .type
  match args with
  | [] => return (none, (named.lookup "policy").getD .null)
  | [v] => return (some v, (named.lookup "policy").getD .null)
  | _ => fail .type

def startLine (span : Span) (decorators : List Expr) : Nat :=
  match decorators with
  | [] => span.line
  | first :: _ => first.lines.first

def blockOf (owner : String) (params : Params) : Body → Block
  | .statements body => (functionBlock owner (params.all.map Param.name) body).getD default
  | .expression e => (lambdaBlock owner (params.all.map Param.name) e).getD default
  | .inList _ => default

def makeFunction (frame : Frame) (name : String) (params : Params) (body : Body) (isAsync : Bool)
    (defaults : List Value × Bindings) (doc : Value) (firstLine : Nat) : Run Value := do
  let path ← qualified frame name
  let owner ← ownerOf frame
  let block := blockOf owner params body
  let captured ← capturedNames frame block.openNames
  return .function (← Run.allocate (.function
    { name, qualname := path, codeName := name, path, owner, params, body, isAsync,
      defaults := defaults.1, keywordDefaults := defaults.2, names := block.names, captured,
      scope := frame, doc, firstLine }))

def loweredSource (v : Value) : Run Value := do
  match ← v.attr? Function.loweredAttr with
  | none | some .null => do throw (.notLowered (← Value.shownByName v))
  | some text => return text.bare

def pending? (f : Function) : Option Value :=
  match f.isAsync || f.names.waits, f.names.yields with
  | true, true => some (.pending "async_generator")
  | true, false => some (.pending "coroutine")
  | false, true => some (.pending "generator")
  | false, false => none

def isLiteral : Expr → Bool
  | .literal _ _ => true
  | _ => false

/-- Items shared out among targets: those before a starred target, those it takes, and those after it.
Without a starred target there must be one for each. -/
def shared (targets : List Expr) (items : List Value) :
    Run (Option (List Value × List Value × List Value)) := do
  match targets.findIdx? Update.isStarred with
  | none => if items.length = targets.length then return none else fail .value
  | some before =>
    let after := targets.length - before - 1
    if items.length < before + after then fail .value
    let rest := items.drop before
    return some (items.take before, rest.take (rest.length - after), rest.drop (rest.length - after))

mutual

def eval : (fuel : Nat) → Frame → Expr → Run Value
  | 0, _, _ => fail .runtime
  | fuel + 1, frame, e => do
    match e with
    | .name l id => do return (← onLine l.first (load frame id)).bare
    | .literal _ v => return literal v
    | .attribute l v attr => do
      let v ← eval fuel frame v
      let attr ← knownIn frame attr
      return (← onLine l.last (Value.getAttr v attr)).bare
    | .subscript l v i => do
      let v ← eval fuel frame v
      let key ← eval fuel frame i
      onLine l.first (Value.lookupItem v key)
    | .slice _ a b c => do
      let part (p : Option Expr) : Run Value :=
        match p with
        | some p => eval fuel frame p
        | none => return .null
      return .slice (← part a) (← part b) (← part c)
    | .call _ _ _ _ => do return (← evalWhole fuel frame e).bare
    | .binary l op a b => do
      let a ← eval fuel frame a
      let b ← eval fuel frame b
      onLine l.first (Value.binary op a b)
    | .unary l op a => do
      let v ← eval fuel frame a
      match op with
      | .minus => onLine l.first (Value.negated v)
      | .not => do return .bool !(← onLine l.first (Value.truth v))
      | .plus => onLine l.first (Value.binary .add (.int 0) v)
      | .invert => onLine l.first (fail .type)
    | .boolean l op values => evalBoolean fuel frame l.first op values
    | .compare l a rest => do
      let a ← evalCompared fuel frame a
      evalChain fuel frame l.first a rest
    | .conditional l test a b => do
      let v ← eval fuel frame test
      if ← onLine l.first (Value.truth v) then eval fuel frame a else eval fuel frame b
    | .lambda l params body => do
      let defaults ← evalDefaults fuel frame params
      makeFunction frame "<lambda>" params (.expression body) false defaults .null l.first
    | .tuple l items => do return .tuple (← evalItems fuel frame l.first items)
    | .list l items => do newList (← evalItems fuel frame l.first items)
    | .named _ target v => do
      let v ← eval fuel frame v
      assign fuel frame target v
      return v
    | e => onLine e.lines.first (fail .runtime)
termination_by structural fuel => fuel

/-- The value of an expression, with the place where it was made if that is known. -/
def evalWhole : (fuel : Nat) → Frame → Expr → Run Value
  | 0, _, _ => fail .runtime
  | fuel + 1, frame, e => do
    match e with
    | .name l id => onLine l.first (load frame id)
    | .attribute l v attr => do
      let v ← eval fuel frame v
      let attr ← knownIn frame attr
      onLine l.last (Value.getAttr v attr)
    | .call l f args keywords => do
      let function ← eval fuel frame f
      let given ← evalArgs fuel frame l.first args
      let named ← keywords.mapM fun
        | .mk (some name) v => do return (name, ← evalWhole fuel frame v)
        | .mk none _ => fail .type
      let line := match f with
        | .attribute m _ _ => if args.any Update.isStarred then l.first else m.last
        | _ => l.first
      onLine line (call fuel function given named)
    | e => eval fuel frame e
termination_by structural fuel => fuel

/-- The value of an expression that is compared. The parts of a display keep the places where they were
made, since a part equals itself whatever it is. -/
def evalCompared : (fuel : Nat) → Frame → Expr → Run Value
  | 0, _, _ => fail .runtime
  | fuel + 1, frame, e => do
    let all (line : Nat) (items : List Expr) : Run (List Value) := do
      let parts ← items.mapM fun
        | .starred _ e => do
          let v ← eval fuel frame e
          onLine line (Value.iterate v)
        | e => do return [← evalCompared fuel frame e]
      return parts.flatten
    match e with
    | .tuple l items => do
      let made := Value.tuple (← all l.first items)
      if items.all isLiteral then return made else hold made
    | .list l items => do newList (← all l.first items)
    | e => evalWhole fuel frame e
termination_by structural fuel => fuel

def evalArgs : (fuel : Nat) → Frame → (line : Nat) → List Expr → Run (List Value)
  | 0, _, _, _ => fail .runtime
  | fuel + 1, frame, line, items => do
    let parts ← items.mapM fun
      | .starred _ e => do
        let v ← eval fuel frame e
        onLine line (Value.iterate v)
      | e => do return [← evalWhole fuel frame e]
    return parts.flatten
termination_by structural fuel => fuel

def evalItems : (fuel : Nat) → Frame → (line : Nat) → List Expr → Run (List Value)
  | 0, _, _, _ => fail .runtime
  | fuel + 1, frame, line, items => do
    let parts ← items.mapM fun
      | .starred _ e => do
        let v ← eval fuel frame e
        onLine line (Value.iterate v)
      | e => do return [← eval fuel frame e]
    return parts.flatten
termination_by structural fuel => fuel

def evalBoolean : (fuel : Nat) → Frame → (line : Nat) → BoolOp → List Expr → Run Value
  | 0, _, _, _, _ => fail .runtime
  | _ + 1, _, _, _, [] => return .null
  | fuel + 1, frame, _, _, [e] => eval fuel frame e
  | fuel + 1, frame, line, op, e :: rest => do
    let v ← eval fuel frame e
    let isTrue ← onLine line (Value.truth v)
    if isTrue == (op == .or) then return v else evalBoolean fuel frame line op rest
termination_by structural fuel => fuel

def evalChain : (fuel : Nat) → Frame → (line : Nat) → Value → List (CompareOp × Expr) → Run Value
  | 0, _, _, _, _ => fail .runtime
  | _ + 1, _, _, a, [] => return a.bare
  | fuel + 1, frame, line, a, (op, e) :: rest => do
    let b ← evalCompared fuel frame e
    let verdict ← onLine line (Value.compare op a b)
    if rest.isEmpty then return verdict
    else if ← onLine line (Value.truth verdict) then evalChain fuel frame line b rest
    else return verdict
termination_by structural fuel => fuel

def evalDefaults : (fuel : Nat) → Frame → Params → Run (List Value × Bindings)
  | 0, _, _ => fail .runtime
  | fuel + 1, frame, params => do
    let positional ← (params.positional.filterMap Param.default?).mapM (eval fuel frame)
    let named ← params.keywordOnly.filterMapM fun param =>
      match param.default? with
      | some e => do return some (← knownIn frame param.name, ← eval fuel frame e)
      | none => return none
    return (positional, named)
termination_by structural fuel => fuel

def call : (fuel : Nat) → Value → List Value → Bindings → Run Value
  | 0, _, _, _ => fail .runtime
  | fuel + 1, function, args, named => do
    match function with
    | .builtin .wrapResult =>
      match args, named with
      | [v], [] => do return .function (← Run.allocate (.function (← wrapper v)))
      | _, _ => fail .type
    | .builtin .lowerFunction =>
      match ← subjectAndPolicy args named with
      | (some v, given) => do lowerFunction fuel (← policyOf .standard given) v
      | (none, _) => fail .type
    | .builtin .loweredSource =>
      match args, named with
      | [v], [] => loweredSource v
      | _, _ => fail .type
    | .builtin f => f.call (call fuel) args named
    | .marker rules =>
      match ← subjectAndPolicy args named with
      | (none, given) | (some .null, given) => return .marker (← policyOf rules given)
      | (some v, given) => do lowerFunction fuel (← policyOf rules given) v
    | .function id => callFunction fuel id args named
    | .method self id => callFunction fuel id (self :: args) named
    | .classType id => do
      let made ← Run.allocate (.record (some id) [])
      match (← classContent? id).bind fun c => c.attrs.lookup "__init__" with
      | some (.function init) =>
        match ← callFunction fuel init (.record made :: args) named with
        | .null => return .record made
        | _ => fail .type
      | _ => if args.isEmpty && named.isEmpty then return .record made else fail .type
    | .record id => do
      match ← Run.object id with
      | .record (some type) _ =>
        match (← classContent? type).bind fun c => c.attrs.lookup "__call__" with
        | some f => call fuel (Value.boundTo (.record id) f) args named
        | none => fail .type
      | _ => fail .type
    | .errorType kind => return .errorType kind
    | .held _ v => call fuel v args named
    | _ => fail .type
termination_by structural fuel => fuel

def callFunction : (fuel : Nat) → Nat → List Value → Bindings → Run Value
  | 0, _, _, _ => fail .runtime
  | fuel + 1, id, args, named => do
    match ← functionContent? id with
    | none => fail .type
    | some f =>
      let start : Run Frame := do
        let vars ← f.bindArguments args named
        return some (← Run.allocate (.scope
          ⟨.function, f.names.locals, f.names.globals, vars, f.scope, f.path, f.owner⟩))
      match f.body with
      | .inList callee => do newList [(← call fuel callee args named).bare]
      | .expression e => do
        let frame ← start
        match pending? f with
        | some v => return v
        | none => evalWhole fuel frame e
      | .statements body => do
        let frame ← start
        match pending? f with
        | some v => return v
        | none =>
          match ← execAll fuel frame body with
          | .returned v => return v
          | _ => return .null
termination_by structural fuel => fuel

/-- Gives a function new code with its blocks replaced. The definition runs once more, apart from the
module, but what is known about the function stays as it was. -/
def lowerFunction : (fuel : Nat) → Policy → Value → Run Value
  | 0, _, _ => fail .runtime
  | fuel + 1, rules, v => do
    match v with
    | .function id =>
      match ← functionContent? id with
      | none => fail .type
      | some f =>
        let lowered ← lowerCode rules f id
        if ((← get).globals.lookup Update.libraryName).isNone then
          storeGlobal Update.libraryName (.module .helpers)
        let apart ← Run.allocate (.scope ⟨.classBody, [lowered.name], [], [], none, "", ""⟩)
        discard (exec fuel (some apart) lowered.definition)
        match (← scope apart).vars.lookup lowered.name with
        | some (.function new) =>
          match ← functionContent? new with
          | some code =>
            store new (.function (← renewed f id lowered code))
            modify fun memory =>
              { memory with log := memory.log ++ [.finished lowered.blocks f.qualname] }
            return .function new
          | none => fail .type
        | _ => fail .key
    | v => do throw (.notFunction (← Value.typeNameOf v))
termination_by structural fuel => fuel

/-- Assigns to a name, an attribute, an item, or to several targets at once. -/
def assign : (fuel : Nat) → Frame → Expr → Value → Run Unit
  | 0, _, _, _ => fail .runtime
  | fuel + 1, frame, target, v => do
    match target with
    | .name l id => onLine l.first (assignName frame id v)
    | .attribute l e attr => do
      let owner ← eval fuel frame e
      let attr ← knownIn frame attr
      onLine l.last (Value.setAttr owner attr v)
    | .subscript l e i => do
      let owner ← eval fuel frame e
      let key ← eval fuel frame i
      onLine l.first (Value.setItem owner key v.bare)
    | .tuple l targets | .list l targets => do
      let items ← onLine l.first (Value.iterate v.bare)
      match ← onLine l.first (shared targets items) with
      | some (first, rest, last) => do
        (targets.zip first).forM fun (target, item) => assign fuel frame target item
        let middle ← newList rest
        match targets.drop first.length with
        | .starred _ target :: targets => do
          assign fuel frame target middle
          (targets.zip last).forM fun (target, item) => assign fuel frame target item
        | _ => pure ()
      | none => (targets.zip items).forM fun (target, item) => assign fuel frame target item
    | target => onLine target.lines.first (fail .runtime)
termination_by structural fuel => fuel

def execAll : (fuel : Nat) → Frame → List Stmt → Run Flow
  | 0, _, _ => fail .runtime
  | _ + 1, _, [] => return .next
  | fuel + 1, frame, s :: rest => do
    match ← exec fuel frame s with
    | .next => execAll fuel frame rest
    | flow => return flow
termination_by structural fuel => fuel

def exec : (fuel : Nat) → Frame → Stmt → Run Flow
  | 0, _, _ => Run.fail .runtime
  | fuel + 1, frame, s => do
    let line := s.span.line
    match s with
    | .expr _ e => do
      discard (eval fuel frame e)
      return .next
    | .assign _ targets e => do
      let v ← Run.hold (← evalWhole fuel frame e)
      targets.forM fun target => assign fuel frame target v
      return .next
    | .augmented _ target op e => do
      augment fuel frame target op e
      return .next
    | .annotated _ target type value _ => do
      match value with
      | some e => do assign fuel frame target (← Run.hold (← evalWhole fuel frame e))
      | none => pure ()
      if ← Run.evaluatesAnnotations frame then discard (eval fuel frame type)
      return .next
    | .pass _ | .globalNames _ _ | .nonlocalNames _ _ => return .next
    | .breakLoop _ => return .broke
    | .continueLoop _ => return .continued
    | .returnValue _ value =>
      match value with
      | some e => do return .returned (← evalWhole fuel frame e)
      | none => return .returned .null
    | .raise _ error _ =>
      match error with
      | some e => do
        match ← eval fuel frame e with
        | .errorType kind => onLine line (Run.fail kind)
        | _ => onLine line (Run.fail .type)
      | none => onLine line (Run.fail .runtime)
    | .assertion _ test _ => do
      let v ← eval fuel frame test
      if ← onLine line (Value.truth v) then return .next else onLine line (Run.fail .assertion)
    | .delete _ targets => do
      targets.forM fun
        | .name l id => onLine l.first (Run.deleteName frame id)
        | e => onLine e.lines.first (Run.fail .type)
      return .next
    | .branch _ test body orelse => do
      let v ← eval fuel frame test
      if ← onLine test.lines.first (Value.truth v) then execAll fuel frame body
      else execAll fuel frame orelse
    | .forLoop _ _ target iter body orelse => do
      let v ← eval fuel frame iter
      let items ← onLine line (Value.iterate v)
      forEach fuel frame target items body orelse
    | .whileLoop _ test body orelse => loop fuel frame test body orelse
    | .withBlock _ _ items body => enter fuel frame line items body
    | .tryBlock _ _ body handlers orelse cleanup => do
      let attempt : Run Flow := do
        let flow ← guarded fuel frame body handlers
        match flow with
        | (.next, true) => execAll fuel frame orelse
        | (flow, _) => return flow
      let outcome ← tryCatch (Except.ok <$> attempt) fun fault => return .error fault
      match ← execAll fuel frame cleanup with
      | .next => Run.ofExcept outcome
      | flow => return flow
    | .function span isAsync name params body decorators returns => do
      let applied ← decorators.mapM fun e => do return (e.lines.first, ← eval fuel frame e)
      let defaults ← evalDefaults fuel frame params
      let annotations := params.all.filterMap Param.annotated? ++ returns.toList
      annotations.forM fun e => discard (eval fuel frame e)
      let first := startLine span decorators
      let doc := ((docOf body).map Value.str).getD .null
      let made ← makeFunction frame name params (.statements body) isAsync defaults doc first
      let v ← applied.foldrM (fun (line, decorator) v => onLine line (call fuel decorator [v] [])) made
      onLine line (Run.assignName frame name v)
      return .next
    | .classDef _ name bases _ body decorators => do
      let applied ← decorators.mapM fun e => do return (e.lines.first, ← eval fuel frame e)
      bases.forM fun e => discard (eval fuel frame e)
      let made ← makeClass fuel frame name body
      let v ← applied.foldrM (fun (line, decorator) v => onLine line (call fuel decorator [v] [])) made
      onLine line (Run.assignName frame name v)
      return .next
    | .importNames _ _ | .importFrom _ _ _ _ => onLine line (Run.fail .importing)
termination_by structural fuel => fuel

def augment : (fuel : Nat) → Frame → Expr → BinaryOp → Expr → Run Unit
  | 0, _, _, _, _ => fail .runtime
  | fuel + 1, frame, target, op, e => do
    let line := target.lines.first
    match target with
    | .name _ id => do
      let old ← onLine line (load frame id)
      let old := old.bare
      let operand ← eval fuel frame e
      let v ← onLine line (Value.update op old operand)
      onLine line (assignName frame id v)
    | .attribute l owner attr => do
      let owner ← eval fuel frame owner
      let attr ← knownIn frame attr
      let old ← onLine l.last (Value.getAttr owner attr)
      let operand ← eval fuel frame e
      let v ← onLine line (Value.update op old.bare operand)
      onLine l.last (Value.setAttr owner attr v)
    | .subscript _ owner i => do
      let owner ← eval fuel frame owner
      let key ← eval fuel frame i
      let old ← onLine line (Value.lookupItem owner key)
      let operand ← eval fuel frame e
      let v ← onLine line (Value.update op old operand)
      onLine line (Value.setItem owner key v)
    | _ => onLine line (fail .runtime)
termination_by structural fuel => fuel

def forEach : (fuel : Nat) → Frame → Expr → List Value → (body orelse : List Stmt) → Run Flow
  | 0, _, _, _, _, _ => fail .runtime
  | fuel + 1, frame, _, [], _, orelse => execAll fuel frame orelse
  | fuel + 1, frame, target, item :: items, body, orelse => do
    assign fuel frame target item
    match ← execAll fuel frame body with
    | .next | .continued => forEach fuel frame target items body orelse
    | .broke => return .next
    | flow => return flow
termination_by structural fuel => fuel

def loop : (fuel : Nat) → Frame → Expr → (body orelse : List Stmt) → Run Flow
  | 0, _, _, _, _ => fail .runtime
  | fuel + 1, frame, test, body, orelse => do
    let v ← eval fuel frame test
    if ← onLine test.lines.first (Value.truth v) then
      match ← execAll fuel frame body with
      | .next | .continued => loop fuel frame test body orelse
      | .broke => return .next
      | flow => return flow
    else execAll fuel frame orelse
termination_by structural fuel => fuel

/-- Only a marker can be entered, and entering it means that its block was never replaced. -/
def enter : (fuel : Nat) → Frame → (line : Nat) → List WithItem → List Stmt → Run Flow
  | 0, _, _, _, _ => fail .runtime
  | fuel + 1, frame, _, [], body => execAll fuel frame body
  | fuel + 1, frame, line, item :: _, _ => do
    match ← eval fuel frame item.context with
    | .marker _ => throw (Fault.at_ line (.diagnostic .missingDecorator))
    | _ => onLine line (fail .type)
termination_by structural fuel => fuel

/-- Runs a body under its handlers; the flag tells whether it went through. -/
def guarded : (fuel : Nat) → Frame → List Stmt → List Handler → Run (Flow × Bool)
  | 0, _, _, _ => fail .runtime
  | fuel + 1, frame, body, handlers => do
    let outcome ← tryCatch (Except.ok <$> execAll fuel frame body) fun fault => return .error fault
    match outcome with
    | .ok flow => return (flow, true)
    | .error fault => do return (← handle fuel frame fault handlers, false)
termination_by structural fuel => fuel

def handle : (fuel : Nat) → Frame → Fault → List Handler → Run Flow
  | 0, _, _, _ => Run.fail .runtime
  | _ + 1, _, fault, [] => throw fault
  | fuel + 1, frame, fault, .mk line type name body :: rest => do
    let isMeant ← match type with
      | none => pure true
      | some e => do
        match ← eval fuel frame e with
        | .errorType kind => pure (names fault.kind (.errorType kind))
        | .tuple kinds => pure (names fault.kind (.tuple kinds))
        | _ => onLine line (Run.fail .type)
    if isMeant then
      match name with
      | some id => do
        Run.assignName frame id (.errorType fault.kind)
        let outcome ← tryCatch (Except.ok <$> execAll fuel frame body) fun fault => return .error fault
        tryCatch (Run.deleteName frame id) fun _ => pure ()
        Run.ofExcept outcome
      | none => execAll fuel frame body
    else handle fuel frame fault rest
termination_by structural fuel => fuel

def makeClass : (fuel : Nat) → Frame → String → List Stmt → Run Value
  | 0, _, _, _ => fail .runtime
  | fuel + 1, frame, name, body => do
    let path ← qualified frame name
    let names := ((classBlock name body).getD default).names
    let described := (docOf body).toList.map fun doc => ("__doc__", Value.str doc)
    let scope ← Run.allocate (.scope
      ⟨.classBody, "__doc__" :: names.locals, names.globals, described, frame, path, name⟩)
    discard (execAll fuel (some scope) body)
    let attrs := (← Run.scope scope).vars
    let made := Value.classType (← Run.allocate (.classType ⟨name, path, attrs⟩))
    modifyScope scope fun s => { s with vars := Bindings.set s.vars "__class__" made }
    return made
termination_by structural fuel => fuel

end

end Program
end Rebind
