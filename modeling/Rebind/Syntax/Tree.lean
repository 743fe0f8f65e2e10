import Rebind.Text.Wide
/-!
Trees of the statement language: expressions carry the lines they cover, statements the exact span.
Positions never decide how a tree is treated; `Expr.same` compares trees without them.
-/
namespace Rebind.Syntax

/-- The first and the last line an expression covers. -/
structure Lines where
  first : Nat
  last : Nat
deriving DecidableEq, Repr, Inhabited

/-- Where a statement starts and ends; columns count bytes of the encoded line. -/
structure Span where
  line : Nat
  column : Nat
  endLine : Nat
  endColumn : Nat
deriving DecidableEq, Repr, Inhabited

def Span.lines (span : Span) : Lines := ⟨span.line, span.endLine⟩

/-- A literal; floating point numbers are held by their bits. -/
inductive Literal where
  | none
  | bool (value : Bool)
  | ellipsis
  | int (value : Nat)
  | float (bits : UInt64)
  | imaginary (bits : UInt64)
  /-- `marked` records a `u` in front of the first piece. -/
  | str (value : Text.Wide) (marked : Bool)
  | bytes (value : List UInt8)
deriving DecidableEq, Repr

inductive BinaryOp where
  | add | sub | mult | matMult | div | mod | pow | leftShift | rightShift | bitOr | bitXor | bitAnd
  | floorDiv
deriving DecidableEq, Repr

inductive UnaryOp where
  | invert | not | plus | minus
deriving DecidableEq, Repr

inductive BoolOp where
  | and | or
deriving DecidableEq, Repr

inductive CompareOp where
  | eq | notEq | less | lessEq | greater | greaterEq | is | isNot | in | notIn
deriving DecidableEq, Repr

mutual

inductive Expr where
  | name (lines : Lines) (id : String)
  | literal (lines : Lines) (value : Literal)
  | attribute (lines : Lines) (value : Expr) (attr : String)
  | subscript (lines : Lines) (value : Expr) (index : Expr)
  | slice (lines : Lines) (lower upper step : Option Expr)
  | call (lines : Lines) (func : Expr) (args : List Expr) (keywords : List Keyword)
  | binary (lines : Lines) (op : BinaryOp) (left right : Expr)
  | unary (lines : Lines) (op : UnaryOp) (operand : Expr)
  | boolean (lines : Lines) (op : BoolOp) (values : List Expr)
  | compare (lines : Lines) (left : Expr) (rest : List (CompareOp × Expr))
  | conditional (lines : Lines) (test body orelse : Expr)
  | lambda (lines : Lines) (params : Params) (body : Expr)
  | tuple (lines : Lines) (items : List Expr)
  | list (lines : Lines) (items : List Expr)
  | set (lines : Lines) (items : List Expr)
  /-- An entry without a key unpacks its value. -/
  | dict (lines : Lines) (entries : List (Option Expr × Expr))
  | starred (lines : Lines) (value : Expr)
  | listComp (lines : Lines) (item : Expr) (clauses : List Clause)
  | setComp (lines : Lines) (item : Expr) (clauses : List Clause)
  | generator (lines : Lines) (item : Expr) (clauses : List Clause)
  | dictComp (lines : Lines) (key value : Expr) (clauses : List Clause)
  | named (lines : Lines) (target value : Expr)
  | yields (lines : Lines) (value : Option Expr)
  | yieldsFrom (lines : Lines) (value : Expr)
  | await (lines : Lines) (value : Expr)
  /-- An argument of a template, where the template binds a name. It reads like the argument, but nothing
  can be bound to it. -/
  | filled (value : Expr)

/-- A keyword argument; one without a name unpacks its value. -/
inductive Keyword where
  | mk (name : Option String) (value : Expr)

/-- One `for` clause of a comprehension with its conditions. -/
inductive Clause where
  | mk (isAsync : Bool) (target iter : Expr) (conditions : List Expr)

inductive Param where
  | mk (name : String) (annotated : Option Expr) (default : Option Expr)

inductive Params where
  | mk (positionalOnly regular : List Param) (rest : Option Param) (keywordOnly : List Param)
      (keywordRest : Option Param)

end

instance : Inhabited Expr := ⟨.literal default .none⟩

def Keyword.name? : Keyword → Option String
  | .mk name _ => name

def Keyword.value : Keyword → Expr
  | .mk _ value => value

def Param.name : Param → String
  | .mk name _ _ => name

def Param.default? : Param → Option Expr
  | .mk _ _ value => value

def Param.annotated? : Param → Option Expr
  | .mk _ annotated _ => annotated

def Params.positionalOnly : Params → List Param
  | .mk only _ _ _ _ => only

def Params.regular : Params → List Param
  | .mk _ regular _ _ _ => regular

def Params.positional (params : Params) : List Param := params.positionalOnly ++ params.regular

def Params.rest? : Params → Option Param
  | .mk _ _ rest _ _ => rest

def Params.keywordOnly : Params → List Param
  | .mk _ _ _ only _ => only

def Params.keywordRest? : Params → Option Param
  | .mk _ _ _ _ rest => rest

/-- All parameters, in the order in which a function declares its locals. -/
def Params.all (params : Params) : List Param :=
  params.positional ++ params.keywordOnly ++ params.rest?.toList ++ params.keywordRest?.toList

def Expr.lines : Expr → Lines
  | .name l _ | .literal l _ | .attribute l _ _ | .subscript l _ _ | .slice l _ _ _ | .call l _ _ _
  | .binary l _ _ _ | .unary l _ _ | .boolean l _ _ | .compare l _ _ | .conditional l _ _ _
  | .lambda l _ _ | .tuple l _ | .list l _ | .set l _ | .dict l _ | .starred l _ | .listComp l _ _
  | .setComp l _ _ | .generator l _ _ | .dictComp l _ _ _ | .named l _ _ | .yields l _
  | .yieldsFrom l _ | .await l _ => l
  | .filled value => value.lines

structure Alias where
  name : String
  asName : Option String
deriving DecidableEq, Repr

structure WithItem where
  context : Expr
  target : Option Expr

mutual

inductive Stmt where
  | expr (span : Span) (value : Expr)
  | assign (span : Span) (targets : List Expr) (value : Expr)
  | augmented (span : Span) (target : Expr) (op : BinaryOp) (value : Expr)
  /-- `simple` tells a bare name from a bracketed one. -/
  | annotated (span : Span) (target type : Expr) (value : Option Expr) (simple : Bool)
  | pass (span : Span)
  | breakLoop (span : Span)
  | continueLoop (span : Span)
  | returnValue (span : Span) (value : Option Expr)
  | raise (span : Span) (error cause : Option Expr)
  | assertion (span : Span) (test : Expr) (message : Option Expr)
  | delete (span : Span) (targets : List Expr)
  | globalNames (span : Span) (names : List String)
  | nonlocalNames (span : Span) (names : List String)
  | importNames (span : Span) (names : List Alias)
  | importFrom (span : Span) (module : Option String) (names : List Alias) (level : Nat)
  | branch (span : Span) (test : Expr) (body orelse : List Stmt)
  | forLoop (span : Span) (isAsync : Bool) (target iter : Expr) (body orelse : List Stmt)
  | whileLoop (span : Span) (test : Expr) (body orelse : List Stmt)
  | withBlock (span : Span) (isAsync : Bool) (items : List WithItem) (body : List Stmt)
  | tryBlock (span : Span) (isGroup : Bool) (body : List Stmt) (handlers : List Handler)
      (orelse cleanup : List Stmt)
  | function (span : Span) (isAsync : Bool) (name : String) (params : Params) (body : List Stmt)
      (decorators : List Expr) (returns : Option Expr)
  | classDef (span : Span) (name : String) (bases : List Expr) (keywords : List Keyword)
      (body : List Stmt) (decorators : List Expr)

inductive Handler where
  | mk (line : Nat) (type : Option Expr) (name : Option String) (body : List Stmt)

end

instance : Inhabited Stmt := ⟨.pass default⟩

def Stmt.span : Stmt → Span
  | .expr s _ | .assign s _ _ | .augmented s _ _ _ | .annotated s _ _ _ _ | .pass s | .breakLoop s
  | .continueLoop s | .returnValue s _ | .raise s _ _ | .assertion s _ _ | .delete s _
  | .globalNames s _ | .nonlocalNames s _ | .importNames s _ | .importFrom s _ _ _
  | .branch s _ _ _ | .forLoop s _ _ _ _ _ | .whileLoop s _ _ _ | .withBlock s _ _ _
  | .tryBlock s _ _ _ _ _ | .function s _ _ _ _ _ _ | .classDef s _ _ _ _ _ => s

end Rebind.Syntax
