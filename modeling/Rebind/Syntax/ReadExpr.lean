import Rebind.Syntax.Cursor
/-!
Reading expressions. The rules refer to each other through a record of readers for shorter texts, so
that one recursion on the number of tokens defines them all: whenever a rule starts over, at least
one token has been taken.
-/
namespace Rebind.Syntax

open Reader

/-- The rules that occur inside others. -/
structure ExprRules where
  expression : Reader Expr
  disjunction : Reader Expr
  inversion : Reader Expr
  bitOr : Reader Expr
  factor : Reader Expr

/-! ### Targets -/

mutual

def isTarget : Expr → Bool
  | .name _ _ | .attribute _ _ _ | .subscript _ _ _ => true
  | .tuple _ items | .list _ items => areTargets items
  | .starred _ value => isPlainTarget value
  | _ => false

def isPlainTarget : Expr → Bool
  | .name _ _ | .attribute _ _ _ | .subscript _ _ _ => true
  | .tuple _ items | .list _ items => areTargets items
  | _ => false

def areTargets : List Expr → Bool
  | [] => true
  | e :: rest => isTarget e && areTargets rest

end

def isSingleTarget : Expr → Bool
  | .name _ _ | .attribute _ _ _ | .subscript _ _ _ => true
  | _ => false

mutual

def isDeletable : Expr → Bool
  | .name _ _ | .attribute _ _ _ | .subscript _ _ _ => true
  | .tuple _ items | .list _ items => areDeletable items
  | _ => false

def areDeletable : List Expr → Bool
  | [] => true
  | e :: rest => isDeletable e && areDeletable rest

end

def check (condition : Bool) : Reader Unit := if condition then return () else fail

/-! ### Parameters -/

/-- Parameters read so far. -/
structure ParamsSoFar where
  positionalOnly : List Param
  regular : List Param
  rest : Option Param
  /-- A star has been read, with or without a name. -/
  starred : Bool
  bareStar : Bool
  keywordOnly : List Param
  keywordRest : Option Param

def Param.hasDefault (p : Param) : Bool := p.default?.isSome

def readType (type : Reader Expr) (typed : Bool) : Reader (Option Expr) := do
  if typed then
    if ← acceptOp ":" then some <$> type else pure none
  else pure none

def readParam (expression : Reader Expr) (typed : Bool) : Reader Param := do
  let id ← name
  let annotated ← readType expression typed
  let value ← if ← acceptOp "=" then some <$> expression else pure none
  return .mk id annotated value

def readRestParam (type : Reader Expr) (typed : Bool) : Reader Param := do
  let id ← name
  return .mk id (← readType type typed) none

/-- Reads one entry of a parameter list, `/`, `*` and `**` included. The type of the starred parameter
may itself be starred. -/
def readParamEntry (expression starred : Reader Expr) (typed : Bool) (p : ParamsSoFar) :
    Reader ParamsSoFar := do
  check p.keywordRest.isNone
  if ← acceptOp "/" then
    check (!p.starred && p.positionalOnly.isEmpty && !p.regular.isEmpty)
    return { p with positionalOnly := p.regular, regular := [] }
  else if ← acceptOp "**" then
    check !p.bareStar
    return { p with keywordRest := some (← readRestParam expression typed) }
  else if ← acceptOp "*" then
    check !p.starred
    match ← peek with
    | .name _ =>
      return { p with rest := some (← readRestParam starred typed), starred := true }
    | _ => return { p with starred := true, bareStar := true }
  else
    let param ← readParam expression typed
    if p.starred then
      return { p with keywordOnly := p.keywordOnly ++ [param], bareStar := false }
    else
      let before := p.positionalOnly ++ p.regular
      -- Once a parameter has a default, the following ones need one.
      check (param.hasDefault || !before.any Param.hasDefault)
      return { p with regular := p.regular ++ [param] }

def readParams (expression starred : Reader Expr) (typed : Bool) (closing : String) :
    Reader Params := do
  let p ← if ← isAtOp closing then pure ⟨[], [], none, false, false, [], none⟩
    else
      loop ⟨[], [], none, false, false, [], none⟩ fun p => do
        let p ← readParamEntry expression starred typed p
        if ← acceptOp "," then return (p, !(← isAtOp closing)) else return (p, false)
  check !p.bareStar
  return .mk p.positionalOnly p.regular p.rest p.keywordOnly p.keywordRest

/-! ### Pieces shared by displays, calls and statements -/

section Rules

variable (rules : ExprRules)

def atBinding : Reader Bool := do
  match ← peek, ← peekSecond with
  | .name _, .op ":=" => return true
  | _, _ => return false

def namedExpression : Reader Expr := do
  let from_ ← start
  match ← peek, ← peekSecond with
  | .name id, .op ":=" =>
    skip
    let at_ ← linesFrom from_
    skip
    let value ← rules.expression
    return .named (← linesFrom from_) (.name at_ id) value
  | _, _ =>
    let e ← rules.expression
    if ← isAtOp ":=" then fail else return e

def starNamedExpression : Reader Expr := do
  let from_ ← start
  if ← acceptOp "*" then
    let value ← rules.bitOr
    return .starred (← linesFrom from_) value
  else namedExpression rules

def starExpression : Reader Expr := do
  let from_ ← start
  if ← acceptOp "*" then
    let value ← rules.bitOr
    return .starred (← linesFrom from_) value
  else rules.expression

def atTupleEnd : Reader Bool := do
  match ← peek with
  | .newline | .endOfInput | .indent | .dedent => return true
  | .op symbol => return !(["(", "[", "\x7b", "+", "-", "~", "*", "..."].contains symbol)
  | .keyword word =>
    return !(["None", "True", "False", "not", "lambda", "await"].contains word)
  | _ => return false

def bareTuple (item : Reader Expr) : Reader Expr := do
  let from_ ← start
  let first ← item
  if ← acceptOp "," then
    let (items, _) ← commaList item atTupleEnd
    return .tuple (← linesFrom from_) (first :: items)
  else return first

def starExpressions : Reader Expr := bareTuple (starExpression rules)

def yieldExpression : Reader Expr := do
  let from_ ← start
  expectWord "yield"
  if ← acceptWord "from" then
    let value ← rules.expression
    return .yieldsFrom (← linesFrom from_) value
  else if ← atTupleEnd then return .yields (← linesFrom from_) none
  else
    let value ← starExpressions rules
    return .yields (← linesFrom from_) (some value)

def targetItem : Reader Expr := do
  let from_ ← start
  if ← acceptOp "*" then
    let value ← rules.bitOr
    return .starred (← linesFrom from_) value
  else rules.bitOr

def loopTargets : Reader Expr := do
  let target ← bareTuple (targetItem rules)
  check (isTarget target)
  return target

def atClause : Reader Bool := do return (← isAtWord "for") || (← isAtWord "async")

def readClause : Reader Clause := do
  let isAsync ← acceptWord "async"
  expectWord "for"
  let target ← loopTargets rules
  expectWord "in"
  let iter ← rules.disjunction
  let conditions ← loop [] fun conditions => do
    if ← acceptWord "if" then
      let condition ← rules.disjunction
      return (condition :: conditions, true)
    else return (conditions, false)
  return .mk isAsync target iter conditions.reverse

def readClauses : Reader (List Clause) := do
  let clauses ← loop [] fun clauses => do
    let clause ← readClause rules
    return (clause :: clauses, ← atClause)
  return clauses.reverse

def isStarred : Expr → Bool
  | .starred _ _ => true
  | _ => false

/-! ### Calls -/

/-- Arguments read so far; after a keyword no plain argument may follow, after an unpacked mapping no
unpacked sequence either. -/
structure ArgsSoFar where
  args : List Expr
  keywords : List Keyword
  unpackedMapping : Bool

def readArg (a : ArgsSoFar) : Reader ArgsSoFar := do
  let from_ ← start
  if ← acceptOp "**" then
    let value ← rules.expression
    return { a with keywords := .mk none value :: a.keywords, unpackedMapping := true }
  else if ← acceptOp "*" then
    check !a.unpackedMapping
    let value ← rules.expression
    return { a with args := .starred (← linesFrom from_) value :: a.args }
  else
    match ← peek, ← peekSecond with
    | .name id, .op "=" =>
      skip
      skip
      let value ← rules.expression
      return { a with keywords := .mk (some id) value :: a.keywords }
    | _, _ =>
      check a.keywords.isEmpty
      let value ← namedExpression rules
      check !(← isAtOp "=")
      return { a with args := value :: a.args }

def readMoreArgs (a : ArgsSoFar) : Reader (List Expr × List Keyword) := do
  let a ← loop a fun a => do
    if ← acceptOp "," then
      if ← isAtOp ")" then return (a, false)
      else
        let a ← readArg rules a
        check !(← atClause)
        return (a, true)
    else return (a, false)
  expectOp ")"
  return (a.args.reverse, a.keywords.reverse)

def readPlainArgs : Reader (List Expr × List Keyword) := do
  if ← acceptOp ")" then return ([], [])
  let a ← readArg rules ⟨[], [], false⟩
  check !(← atClause)
  readMoreArgs rules a

/-- The arguments of a call, the opening bracket already taken. A lone generator needs no brackets of
its own; it covers the brackets of the call. -/
def readArgs (opening : Pos) : Reader (List Expr × List Keyword) := do
  if ← acceptOp ")" then return ([], [])
  let a ← readArg rules ⟨[], [], false⟩
  if ← atClause then
    match a.args with
    | [item] =>
      check !(isStarred item)
      let clauses ← readClauses rules
      expectOp ")"
      return ([.generator (← linesFrom opening) item clauses], [])
    | _ => fail
  readMoreArgs rules a

/-! ### Subscripts -/

def readSlice : Reader Expr := do
  let from_ ← start
  let part : Reader (Option Expr) := do
    if (← isAtOp ":") || (← isAtOp ",") || (← isAtOp "]") then return none
    else some <$> rules.expression
  if ← acceptOp "*" then
    let value ← rules.expression
    return .starred (← linesFrom from_) value
  if ← atBinding then return ← namedExpression rules
  let lower ← if ← isAtOp ":" then pure none else some <$> rules.expression
  if ← acceptOp ":" then
    let upper ← part
    let step ← if ← acceptOp ":" then part else pure none
    return .slice (← linesFrom from_) lower upper step
  else
    match lower with
    | some e => return e
    | none => fail

def readSlices : Reader Expr := do
  let from_ ← start
  let (items, trailing) ← commaList (readSlice rules) (isAtOp "]")
  match items, trailing with
  | [], _ => fail
  | [item], false =>
    if isStarred item then return .tuple (← linesFrom from_) [item] else return item
  | items, _ => return .tuple (← linesFrom from_) items

/-! ### Displays -/

/-- After an opening bracket: nothing, a bracketed expression, a tuple or a generator. -/
def readParenthesis (opening : Pos) : Reader Expr := do
  if ← acceptOp ")" then return .tuple (← linesFrom opening) []
  if ← isAtWord "yield" then
    let e ← yieldExpression rules
    expectOp ")"
    return e
  let first ← starNamedExpression rules
  if ← atClause then
    check !(isStarred first)
    let clauses ← readClauses rules
    expectOp ")"
    return .generator (← linesFrom opening) first clauses
  if ← acceptOp "," then
    let (items, _) ← commaList (starNamedExpression rules) (isAtOp ")")
    expectOp ")"
    return .tuple (← linesFrom opening) (first :: items)
  check !(isStarred first)
  expectOp ")"
  return first

def readBracket (opening : Pos) : Reader Expr := do
  if ← acceptOp "]" then return .list (← linesFrom opening) []
  let first ← starNamedExpression rules
  if ← atClause then
    check !(isStarred first)
    let clauses ← readClauses rules
    expectOp "]"
    return .listComp (← linesFrom opening) first clauses
  let items ← if ← acceptOp "," then
      (·.1) <$> commaList (starNamedExpression rules) (isAtOp "]")
    else pure []
  expectOp "]"
  return .list (← linesFrom opening) (first :: items)

def readEntry : Reader (Option Expr × Expr) := do
  if ← acceptOp "**" then return (none, ← rules.bitOr)
  else
    let key ← rules.expression
    expectOp ":"
    let value ← rules.expression
    return (some key, value)

def readMapping (opening : Pos) (first : Option Expr × Expr) : Reader Expr := do
  if ← atClause then
    match first with
    | (some key, value) =>
      let clauses ← readClauses rules
      expectOp "\x7d"
      return .dictComp (← linesFrom opening) key value clauses
    | (none, _) => fail
  let entries ← if ← acceptOp "," then
      (·.1) <$> commaList (readEntry rules) (isAtOp "\x7d")
    else pure []
  expectOp "\x7d"
  return .dict (← linesFrom opening) (first :: entries)

def readBrace (opening : Pos) : Reader Expr := do
  if ← acceptOp "\x7d" then return .dict (← linesFrom opening) []
  if ← isAtOp "**" then readMapping rules opening (← readEntry rules)
  else
    let isKey := !((← isAtOp "*") || (← atBinding))
    let first ← starNamedExpression rules
    if isKey && (← acceptOp ":") then readMapping rules opening (some first, ← rules.expression)
    else if ← atClause then
      check !(isStarred first)
      let clauses ← readClauses rules
      expectOp "\x7d"
      return .setComp (← linesFrom opening) first clauses
    else
      let items ← if ← acceptOp "," then
          (·.1) <$> commaList (starNamedExpression rules) (isAtOp "\x7d")
        else pure []
      expectOp "\x7d"
      return .set (← linesFrom opening) (first :: items)

/-! ### Atoms and operators -/

def joinPieces : Literal → Literal → Option Literal
  | .str a marked, .str b _ => some (.str (a ++ b) marked)
  | .bytes a, .bytes b => some (.bytes (a ++ b))
  | _, _ => none

def isPiece : Literal → Bool
  | .str _ _ | .bytes _ => true
  | _ => false

def readPieces (first : Literal) : Reader Literal :=
  loop first fun joined => do
    match ← peek with
    | .literal value =>
      if isPiece value then
        skip
        match joinPieces joined value with
        | some joined => return (joined, true)
        | none => fail
      else return (joined, false)
    | _ => return (joined, false)

def readAtom : Reader Expr := do
  let from_ ← start
  match ← peek with
  | .name id =>
    skip
    return .name (← linesFrom from_) id
  | .literal value =>
    skip
    let value ← if isPiece value then readPieces value else pure value
    return .literal (← linesFrom from_) value
  | .keyword word =>
    let value ← match word with
      | "None" => pure Literal.none
      | "True" => pure (Literal.bool true)
      | "False" => pure (Literal.bool false)
      | _ => fail
    skip
    return .literal (← linesFrom from_) value
  | .op symbol =>
    skip
    match symbol with
    | "..." => return .literal (← linesFrom from_) .ellipsis
    | "(" => readParenthesis rules from_
    | "[" => readBracket rules from_
    | "\x7b" => readBrace rules from_
    | _ => fail
  | _ => fail

def readPrimary : Reader Expr := do
  let from_ ← start
  let first ← readAtom rules
  loop first fun e => do
    let opening ← start
    if ← acceptOp "." then
      let attr ← name
      return (.attribute (← linesFrom from_) e attr, true)
    else if ← acceptOp "(" then
      let (args, keywords) ← readArgs rules opening
      return (.call (← linesFrom from_) e args keywords, true)
    else if ← acceptOp "[" then
      let index ← readSlices rules
      expectOp "]"
      return (.subscript (← linesFrom from_) e index, true)
    else return (e, false)

def readAwait : Reader Expr := do
  let from_ ← start
  if ← acceptWord "await" then
    let value ← readPrimary rules
    return .await (← linesFrom from_) value
  else readPrimary rules

def readPower : Reader Expr := do
  let from_ ← start
  let base ← readAwait rules
  if ← acceptOp "**" then
    let exponent ← rules.factor
    return .binary (← linesFrom from_) .pow base exponent
  else return base

def unarySign? : TokenKind → Option UnaryOp
  | .op "+" => some .plus
  | .op "-" => some .minus
  | .op "~" => some .invert
  | _ => none

def readFactor : Reader Expr := do
  let from_ ← start
  match unarySign? (← peek) with
  | some op =>
    skip
    let operand ← rules.factor
    return .unary (← linesFrom from_) op operand
  | none => readPower rules

def readChain (operand : Reader Expr) (operator? : TokenKind → Option BinaryOp) : Reader Expr := do
  let from_ ← start
  let first ← operand
  loop first fun left => do
    match operator? (← peek) with
    | some op =>
      skip
      let right ← operand
      return (.binary (← linesFrom from_) op left right, true)
    | none => return (left, false)

def termOp? : TokenKind → Option BinaryOp
  | .op "*" => some .mult
  | .op "/" => some .div
  | .op "//" => some .floorDiv
  | .op "%" => some .mod
  | .op "@" => some .matMult
  | _ => none

def sumOp? : TokenKind → Option BinaryOp
  | .op "+" => some .add
  | .op "-" => some .sub
  | _ => none

def shiftOp? : TokenKind → Option BinaryOp
  | .op "<<" => some .leftShift
  | .op ">>" => some .rightShift
  | _ => none

def bitAndOp? : TokenKind → Option BinaryOp
  | .op "&" => some .bitAnd
  | _ => none

def bitXorOp? : TokenKind → Option BinaryOp
  | .op "^" => some .bitXor
  | _ => none

def bitOrOp? : TokenKind → Option BinaryOp
  | .op "|" => some .bitOr
  | _ => none

def readTerm : Reader Expr := readChain (readFactor rules) termOp?

def readSum : Reader Expr := readChain (readTerm rules) sumOp?

def readShift : Reader Expr := readChain (readSum rules) shiftOp?

def readBitAnd : Reader Expr := readChain (readShift rules) bitAndOp?

def readBitXor : Reader Expr := readChain (readBitAnd rules) bitXorOp?

def readBitOr : Reader Expr := readChain (readBitXor rules) bitOrOp?

def compareOp? : Reader (Option CompareOp) := do
  match ← peek, ← peekSecond with
  | .op "==", _ =>
    skip
    return some .eq
  | .op "!=", _ =>
    skip
    return some .notEq
  | .op "<", _ =>
    skip
    return some .less
  | .op "<=", _ =>
    skip
    return some .lessEq
  | .op ">", _ =>
    skip
    return some .greater
  | .op ">=", _ =>
    skip
    return some .greaterEq
  | .keyword "in", _ =>
    skip
    return some CompareOp.in
  | .keyword "not", .keyword "in" =>
    skip
    skip
    return some .notIn
  | .keyword "is", .keyword "not" =>
    skip
    skip
    return some .isNot
  | .keyword "is", _ =>
    skip
    return some .is
  | _, _ => return none

def readComparison : Reader Expr := do
  let from_ ← start
  let first ← readBitOr rules
  let rest ← loop [] fun rest => do
    match ← compareOp? with
    | some op =>
      let operand ← readBitOr rules
      return ((op, operand) :: rest, true)
    | none => return (rest, false)
  if rest.isEmpty then return first else return .compare (← linesFrom from_) first rest.reverse

def readInversion : Reader Expr := do
  let from_ ← start
  if ← acceptWord "not" then
    let operand ← rules.inversion
    return .unary (← linesFrom from_) .not operand
  else readComparison rules

def readBoolean (operand : Reader Expr) (word : String) (op : BoolOp) : Reader Expr := do
  let from_ ← start
  let first ← operand
  let more ← loop [] fun more => do
    if ← acceptWord word then
      let next ← operand
      return (next :: more, true)
    else return (more, false)
  if more.isEmpty then return first
  else return .boolean (← linesFrom from_) op (first :: more.reverse)

def readDisjunction : Reader Expr :=
  readBoolean (readBoolean (readInversion rules) "and" .and) "or" .or

def readExpression : Reader Expr := do
  let from_ ← start
  if ← acceptWord "lambda" then
    let params ← readParams rules.expression rules.expression false ":"
    expectOp ":"
    let body ← rules.expression
    return .lambda (← linesFrom from_) params body
  else
    let body ← readDisjunction rules
    if ← acceptWord "if" then
      let test ← rules.disjunction
      expectWord "else"
      let orelse ← rules.expression
      return .conditional (← linesFrom from_) test body orelse
    else return body

end Rules

def exprRules : (depth : Nat) → ExprRules
  | 0 => ⟨fail, fail, fail, fail, fail⟩
  | depth + 1 =>
    let inner := exprRules depth
    { expression := readExpression inner
      disjunction := readDisjunction inner
      inversion := readInversion inner
      bitOr := readBitOr inner
      factor := readFactor inner }

end Rebind.Syntax
