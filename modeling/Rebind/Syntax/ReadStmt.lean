import Rebind.Syntax.ReadExpr
/-!
Reading statements. A line holds one compound statement or several simple ones; blocks refer back to
lines through one recursion on the number of tokens.
-/
namespace Rebind.Syntax

open Reader

section Rules

variable (rules : ExprRules)

/-! ### Simple statements -/

def augmentedOp? : TokenKind → Option BinaryOp
  | .op "+=" => some .add | .op "-=" => some .sub | .op "*=" => some .mult
  | .op "@=" => some .matMult | .op "/=" => some .div | .op "%=" => some .mod
  | .op "&=" => some .bitAnd | .op "|=" => some .bitOr | .op "^=" => some .bitXor
  | .op "<<=" => some .leftShift | .op ">>=" => some .rightShift | .op "**=" => some .pow
  | .op "//=" => some .floorDiv | _ => none

def assignedValue : Reader Expr := do
  if ← isAtWord "yield" then yieldExpression rules else starExpressions rules

/-- A bracketed name, attribute or subscript, and whether a colon follows it directly. -/
def bracketedTarget : Reader (Option Bool) :=
  orElse
    (do
      expectOp "("
      let e ← rules.expression
      expectOp ")"
      check (isSingleTarget e)
      return some (← isAtOp ":"))
    (return none)

def isNameTarget : Expr → Bool
  | .name _ _ => true
  | _ => false

/-- What an annotation may stand after: a name, an attribute or a subscript. If the statement starts
with one of them in brackets, the annotation stands right after the bracket. -/
def annotatedStatement (start_ : Pos) (bracketed_ : Option Bool) (target : Expr) : Reader Stmt := do
  check (isSingleTarget target && bracketed_ ≠ some false)
  expectOp ":"
  let type ← rules.expression
  let value ← if ← acceptOp "=" then some <$> assignedValue rules else pure none
  return .annotated (← spanFrom start_) target type value (isNameTarget target && bracketed_.isNone)

def expressionStatement : Reader Stmt := do
  let from_ ← start
  let bracketed_ ← ahead (bracketedTarget rules)
  let first ← assignedValue rules
  match augmentedOp? (← peek) with
  | some op =>
    check (isSingleTarget first)
    skip
    let value ← assignedValue rules
    return .augmented (← spanFrom from_) first op value
  | none =>
    if ← isAtOp ":" then annotatedStatement rules from_ bracketed_ first
    else if ← isAtOp "=" then
      -- Every part but the last one is a target.
      let (last, targets) ← loop (first, []) fun (last, targets) => do
        if ← acceptOp "=" then
          check (isTarget last)
          let next ← assignedValue rules
          return ((next, last :: targets), true)
        else return ((last, targets), false)
      return .assign (← spanFrom from_) targets.reverse last
    else return .expr (← spanFrom from_) first

def atLineEnd : Reader Bool := do return (← isAt .newline) || (← isAtOp ";") || (← isAt .endOfInput)

def dottedName : Reader String := do
  let first ← name
  loop first fun path => do
    if ← acceptOp "." then
      let part ← name
      return (path ++ "." ++ part, true)
    else return (path, false)

def readAlias (path : Reader String) : Reader Alias := do
  let id ← path
  if ← acceptWord "as" then return ⟨id, some (← name)⟩ else return ⟨id, none⟩

def relativeLevel : Reader Nat :=
  loop 0 fun level => do
    if ← acceptOp "." then return (level + 1, true)
    else if ← acceptOp "..." then return (level + 3, true)
    else return (level, false)

def importedNames : Reader (List Alias) := do
  if ← acceptOp "*" then return [⟨"*", none⟩]
  else if ← acceptOp "(" then
    let (names, _) ← commaList (readAlias name) (isAtOp ")")
    check !names.isEmpty
    expectOp ")"
    return names
  else
    let (names, trailing) ← commaList (readAlias name) atLineEnd
    check (!names.isEmpty && !trailing)
    return names

def nameList : Reader (List String) := do
  let (names, trailing) ← commaList name atLineEnd
  check (!names.isEmpty && !trailing)
  return names

def deletedTargets : Reader (List Expr) := do
  let (targets, _) ← commaList rules.bitOr atLineEnd
  check (!targets.isEmpty && targets.all isDeletable)
  return targets

def simpleStatement : Reader Stmt := do
  let from_ ← start
  match ← peek with
  | .keyword "pass" =>
    skip
    return .pass (← spanFrom from_)
  | .keyword "break" =>
    skip
    return .breakLoop (← spanFrom from_)
  | .keyword "continue" =>
    skip
    return .continueLoop (← spanFrom from_)
  | .keyword "return" =>
    skip
    let value ← if ← atLineEnd then pure none else some <$> starExpressions rules
    return .returnValue (← spanFrom from_) value
  | .keyword "raise" =>
    skip
    if ← atLineEnd then return .raise (← spanFrom from_) none none
    else
      let error ← rules.expression
      let cause ← if ← acceptWord "from" then some <$> rules.expression else pure none
      return .raise (← spanFrom from_) (some error) cause
  | .keyword "assert" =>
    skip
    let test ← rules.expression
    let message ← if ← acceptOp "," then some <$> rules.expression else pure none
    return .assertion (← spanFrom from_) test message
  | .keyword "del" =>
    skip
    let targets ← deletedTargets rules
    return .delete (← spanFrom from_) targets
  | .keyword "global" =>
    skip
    let names ← nameList
    return .globalNames (← spanFrom from_) names
  | .keyword "nonlocal" =>
    skip
    let names ← nameList
    return .nonlocalNames (← spanFrom from_) names
  | .keyword "import" =>
    skip
    let (names, trailing) ← commaList (readAlias dottedName) atLineEnd
    check (!names.isEmpty && !trailing)
    return .importNames (← spanFrom from_) names
  | .keyword "from" =>
    skip
    let level ← relativeLevel
    let module ← if ← isAtWord "import" then pure none else some <$> dottedName
    check (level ≠ 0 || module.isSome)
    expectWord "import"
    let names ← importedNames
    return .importFrom (← spanFrom from_) module names level
  | _ => expressionStatement rules

def simpleStatements : Reader (List Stmt) := do
  let first ← simpleStatement rules
  let more ← loop [] fun more => do
    if ← acceptOp ";" then
      if ← isAt .newline then return (more, false)
      else
        let next ← simpleStatement rules
        return (next :: more, true)
    else return (more, false)
  expect .newline
  return first :: more.reverse

/-! ### Compound statements -/

variable (line : Reader (List Stmt))

def readLines (atEnd : Reader Bool) : Reader (List Stmt) := do
  let blocks ← loop [] fun blocks => do
    let statements ← line
    return (statements :: blocks, !(← atEnd))
  return blocks.reverse.flatten

def readBlock : Reader (List Stmt) := do
  expectOp ":"
  if ← accept .newline then
    expect .indent
    let body ← readLines line (isAt .dedent)
    expect .dedent
    return body
  else simpleStatements rules

def readElse : Reader (List Stmt) := do
  if ← acceptWord "else" then readBlock rules line else return []

def readBranches (from_ : Pos) : Reader (List (Pos × Expr × List Stmt)) := do
  let first : Reader (Pos × Expr × List Stmt) := do
    let test ← namedExpression rules
    let body ← readBlock rules line
    return (from_, test, body)
  let branches ← loop [← first] fun branches => do
    let next ← start
    if ← acceptWord "elif" then
      let test ← namedExpression rules
      let body ← readBlock rules line
      return ((next, test, body) :: branches, true)
    else return (branches, false)
  return branches

/-- Nests the conditions of a chain, given last first. All of them end where the chain ends. -/
def nestBranches (stop_ : Pos) (orelse : List Stmt) : List (Pos × Expr × List Stmt) → List Stmt
  | [] => orelse
  | (from_, test, body) :: before =>
    nestBranches stop_
      [.branch ⟨from_.line, from_.column, stop_.line, stop_.column⟩ test body orelse] before

def readIf : Reader Stmt := do
  let from_ ← start
  expectWord "if"
  let branches ← readBranches rules line from_
  let orelse ← readElse rules line
  match nestBranches (← stop) orelse branches with
  | [s] => return s
  | _ => fail

def readFor (from_ : Pos) (isAsync : Bool) : Reader Stmt := do
  expectWord "for"
  let target ← loopTargets rules
  expectWord "in"
  let iter ← starExpressions rules
  let body ← readBlock rules line
  let orelse ← readElse rules line
  return .forLoop (← spanFrom from_) isAsync target iter body orelse

def readWhile : Reader Stmt := do
  let from_ ← start
  expectWord "while"
  let test ← namedExpression rules
  let body ← readBlock rules line
  let orelse ← readElse rules line
  return .whileLoop (← spanFrom from_) test body orelse

def readWithItem : Reader WithItem := do
  let context ← rules.expression
  if ← acceptWord "as" then
    let target ← targetItem rules
    check (isTarget target)
    return ⟨context, some target⟩
  else return ⟨context, none⟩

/-- The items of a `with` statement up to the colon; brackets may enclose all of them. -/
def readWithItems : Reader (List WithItem) :=
  orElse
    (do
      expectOp "("
      let (items, _) ← commaList (readWithItem rules) (isAtOp ")")
      check !items.isEmpty
      expectOp ")"
      check (← isAtOp ":")
      return items)
    (do
      let (items, trailing) ← commaList (readWithItem rules) (isAtOp ":")
      check (!items.isEmpty && !trailing)
      return items)

def readWith (from_ : Pos) (isAsync : Bool) : Reader Stmt := do
  expectWord "with"
  let items ← readWithItems rules
  let body ← readBlock rules line
  return .withBlock (← spanFrom from_) isAsync items body

def readHandler : Reader (Bool × Handler) := do
  let from_ ← start
  expectWord "except"
  let isGroup ← acceptOp "*"
  let type ← if ← isAtOp ":" then pure none else some <$> rules.expression
  let id ← if type.isSome then
      if ← acceptWord "as" then some <$> name else pure none
    else pure none
  let body ← readBlock rules line
  return (isGroup, .mk from_.line type id body)

def Handler.isBare : Handler → Bool
  | .mk _ type _ _ => type.isNone

def handlersAgree (handlers : List (Bool × Handler)) : Bool :=
  handlers.all (·.1) && handlers.all (fun h => !h.2.isBare) || handlers.all (fun h => !h.1)

def readTry : Reader Stmt := do
  let from_ ← start
  expectWord "try"
  let body ← readBlock rules line
  let handlers ← loop [] fun handlers => do
    if ← isAtWord "except" then
      let handler ← readHandler rules line
      return (handler :: handlers, true)
    else return (handlers, false)
  let handlers := handlers.reverse
  check (handlersAgree handlers)
  let orelse ← if handlers.isEmpty then pure [] else readElse rules line
  let cleanup ← if ← acceptWord "finally" then readBlock rules line else pure []
  check (!handlers.isEmpty || !cleanup.isEmpty)
  return .tryBlock (← spanFrom from_) (handlers.any (·.1)) body (handlers.map (·.2)) orelse cleanup

def readFunction (from_ : Pos) (isAsync : Bool) (decorators : List Expr) : Reader Stmt := do
  expectWord "def"
  let id ← name
  expectOp "("
  let params ← readParams rules.expression (starExpression rules) true ")"
  expectOp ")"
  let returns ← if ← acceptOp "->" then some <$> rules.expression else pure none
  let body ← readBlock rules line
  return .function (← spanFrom from_) isAsync id params body decorators returns

def readClass (decorators : List Expr) : Reader Stmt := do
  let from_ ← start
  expectWord "class"
  let id ← name
  let (bases, keywords) ← if ← acceptOp "(" then readPlainArgs rules else pure ([], [])
  let body ← readBlock rules line
  return .classDef (← spanFrom from_) id bases keywords body decorators

def readDecorators : Reader (List Expr) := do
  let decorators ← loop [] fun decorators => do
    if ← acceptOp "@" then
      let decorator ← namedExpression rules
      expect .newline
      return (decorator :: decorators, true)
    else return (decorators, false)
  return decorators.reverse

def readLine : Reader (List Stmt) := do
  let single (r : Reader Stmt) : Reader (List Stmt) := do return [← r]
  let decorators ← readDecorators rules
  let from_ ← start
  match ← peek with
  | .keyword "def" => single (readFunction rules line from_ false decorators)
  | .keyword "class" => single (readClass rules line decorators)
  | .keyword "async" =>
    skip
    match ← peek with
    | .keyword "def" => single (readFunction rules line from_ true decorators)
    | .keyword "for" =>
      check decorators.isEmpty
      single (readFor rules line from_ true)
    | .keyword "with" =>
      check decorators.isEmpty
      single (readWith rules line from_ true)
    | _ => fail
  | kind =>
    check decorators.isEmpty
    match kind with
    | .keyword "if" => single (readIf rules line)
    | .keyword "for" => single (readFor rules line from_ false)
    | .keyword "while" => single (readWhile rules line)
    | .keyword "with" => single (readWith rules line from_ false)
    | .keyword "try" => single (readTry rules line)
    | _ => simpleStatements rules

end Rules

def lineRule (rules : ExprRules) : (depth : Nat) → Reader (List Stmt)
  | 0 => fail
  | depth + 1 => readLine rules (lineRule rules depth)

def moduleRule (size : Nat) : Reader (List Stmt) := do
  if ← isAt .endOfInput then return []
  readLines (lineRule (exprRules size) size) (isAt .endOfInput)

def readModuleFrom (firstLine : Nat) (source : String) : Except ReadError (List Stmt) := do
  let tokens ← scan firstLine true source
  let (body, _) ← moduleRule (tokens.length + 1) ⟨tokens, ⟨firstLine, 0⟩⟩
  return body

def readModule (source : String) : Except ReadError (List Stmt) := readModuleFrom 1 source

def readExpressionText (source : String) : Except ReadError Expr := do
  let tokens ← scan 1 false source
  let size := tokens.length + 1
  let rule : Reader Expr := do
    let e ← bareTuple (exprRules size).expression
    let _ ← accept .newline
    expect .endOfInput
    return e
  let (e, _) ← rule ⟨tokens, ⟨1, 0⟩⟩
  return e

end Rebind.Syntax
