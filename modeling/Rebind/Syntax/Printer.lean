import Rebind.Syntax.Tree
import Rebind.Number.FloatText
import Rebind.Text.Quoted
/-!
The canonical spelling of trees: one blank around operators, four blanks of indentation, brackets
only where the binding strength of the surroundings asks for them.
-/
namespace Rebind.Syntax

/-- Binding strengths, weakest first. An expression is bracketed when its surroundings bind tighter
than it does. -/
abbrev Level := Nat

namespace Level

def named : Level := 1
def tuple : Level := 2
def yields : Level := 3
def test : Level := 4
def or : Level := 5
def and : Level := 6
def not : Level := 7
def comparison : Level := 8
def bitOr : Level := 9
def bitXor : Level := 10
def bitAnd : Level := 11
def shift : Level := 12
def sum : Level := 13
def term : Level := 14
def factor : Level := 15
def power : Level := 16
def await : Level := 17
def atom : Level := 18

def next (level : Level) : Level := min (level + 1) atom

end Level

namespace BinaryOp

def symbol : BinaryOp → String
  | add => "+" | sub => "-" | mult => "*" | matMult => "@" | div => "/" | mod => "%" | pow => "**"
  | leftShift => "<<" | rightShift => ">>" | bitOr => "|" | bitXor => "^" | bitAnd => "&"
  | floorDiv => "//"

def level : BinaryOp → Level
  | add | sub => Level.sum
  | mult | matMult | div | mod | floorDiv => Level.term
  | pow => Level.power
  | leftShift | rightShift => Level.shift
  | bitOr => Level.bitOr
  | bitXor => Level.bitXor
  | bitAnd => Level.bitAnd

def leftLevel (op : BinaryOp) : Level := if op = pow then op.level.next else op.level

def rightLevel (op : BinaryOp) : Level := if op = pow then op.level else op.level.next

end BinaryOp

def UnaryOp.symbol : UnaryOp → String
  | invert => "~" | not => "not " | plus => "+" | minus => "-"

def UnaryOp.level : UnaryOp → Level
  | not => Level.not
  | invert | plus | minus => Level.factor

def BoolOp.symbol : BoolOp → String
  | and => "and" | or => "or"

def BoolOp.level : BoolOp → Level
  | and => Level.and
  | or => Level.or

def CompareOp.symbol : CompareOp → String
  | eq => "==" | notEq => "!=" | less => "<" | lessEq => "<=" | greater => ">" | greaterEq => ">="
  | is => "is" | isNot => "is not" | CompareOp.in => "in" | notIn => "not in"

def floatLiteral (bits : UInt64) (layout : Number.FloatLayout) : String :=
  match Number.floatTextOfBits layout bits with
  | "inf" => "1e309"
  | text => text

def Literal.render : Literal → String
  | .none => "None"
  | .bool true => "True"
  | .bool false => "False"
  | .ellipsis => "..."
  | .int n => toString n
  | .float bits => floatLiteral bits Number.plainLayout
  | .imaginary bits => floatLiteral bits Number.partLayout ++ "j"
  | .str s marked => (if marked then "u" else "") ++ s.quoted
  | .bytes b => Text.quotedBytes b

def needsGap : Expr → Bool
  | .literal _ (.int _) | .literal _ (.bool _) => true
  | _ => false

def bracketed (condition : Bool) (text : String) : String :=
  if condition then "(" ++ text ++ ")" else text

def commaItems : List String → String
  | [item] => item ++ ","
  | items => ", ".intercalate items

mutual

def Expr.render (level : Level) : Expr → String
  | .name _ id => id
  | .literal _ value => value.render
  | .attribute _ value attr =>
    value.render Level.atom ++ (if needsGap value then " ." else ".") ++ attr
  | .subscript _ value (.tuple _ (item :: items)) =>
    value.render Level.atom ++ "[" ++ commaItems (renderAll (item :: items)) ++ "]"
  | .subscript _ value index => value.render Level.atom ++ "[" ++ index.render Level.test ++ "]"
  | .slice _ lower upper step =>
    renderOption "" lower ++ ":" ++ renderOption "" upper ++ renderOption ":" step
  | .call _ func args keywords =>
    func.render Level.atom ++ "(" ++
      ", ".intercalate (renderAll args ++ renderKeywords keywords) ++ ")"
  | .binary _ op left right =>
    bracketed (op.level < level)
      (left.render op.leftLevel ++ " " ++ op.symbol ++ " " ++ right.render op.rightLevel)
  | .unary _ op operand =>
    bracketed (op.level < level) (op.symbol ++ operand.render op.level)
  | .boolean _ op values =>
    bracketed (op.level < level)
      ((" " ++ op.symbol ++ " ").intercalate (renderRising op.level.next values))
  | .compare _ left rest =>
    bracketed (Level.comparison < level)
      (left.render Level.comparison.next ++ renderComparisons rest)
  | .conditional _ test body orelse =>
    bracketed (Level.test < level)
      (body.render Level.test.next ++ " if " ++ test.render Level.test.next ++ " else " ++
        orelse.render Level.test)
  | .lambda _ params body =>
    let names := params.render
    bracketed (Level.test < level)
      ((if names.isEmpty then "lambda: " else "lambda " ++ names ++ ": ") ++ body.render Level.test)
  | .tuple _ items =>
    bracketed (items.isEmpty || Level.tuple < level) (commaItems (renderAll items))
  | .list _ items => "[" ++ ", ".intercalate (renderAll items) ++ "]"
  | .set _ [] => "\x7b*()\x7d"
  | .set _ (item :: items) => "\x7b" ++ ", ".intercalate (renderAll (item :: items)) ++ "\x7d"
  | .dict _ entries => "\x7b" ++ ", ".intercalate (renderEntries entries) ++ "\x7d"
  | .starred _ value => "*" ++ value.render Level.bitOr
  | .listComp _ item clauses => "[" ++ item.render Level.test ++ renderClauses clauses ++ "]"
  | .setComp _ item clauses => "\x7b" ++ item.render Level.test ++ renderClauses clauses ++ "\x7d"
  | .generator _ item clauses => "(" ++ item.render Level.test ++ renderClauses clauses ++ ")"
  | .dictComp _ key value clauses =>
    "\x7b" ++ key.render Level.test ++ ": " ++ value.render Level.test ++ renderClauses clauses ++
      "\x7d"
  | .named _ target value =>
    bracketed (Level.named < level) (target.render Level.atom ++ " := " ++ value.render Level.atom)
  | .yields _ none => bracketed (Level.yields < level) "yield"
  | .yields _ (some value) =>
    bracketed (Level.yields < level) ("yield " ++ value.render Level.atom)
  | .yieldsFrom _ value =>
    bracketed (Level.yields < level) ("yield from " ++ value.render Level.atom)
  | .await _ value => bracketed (Level.await < level) ("await " ++ value.render Level.atom)
  | .filled value => value.render level

def renderOption (lead : String) : Option Expr → String
  | none => ""
  | some value => lead ++ value.render Level.test

def renderAll : List Expr → List String
  | [] => []
  | e :: rest => e.render Level.test :: renderAll rest

def renderRising (level : Level) : List Expr → List String
  | [] => []
  | e :: rest => e.render level :: renderRising level.next rest

def renderComparisons : List (CompareOp × Expr) → String
  | [] => ""
  | (op, e) :: rest =>
    " " ++ op.symbol ++ " " ++ e.render Level.comparison.next ++ renderComparisons rest

def renderEntries : List (Option Expr × Expr) → List String
  | [] => []
  | (none, value) :: rest => ("**" ++ value.render Level.bitOr) :: renderEntries rest
  | (some key, value) :: rest =>
    (key.render Level.test ++ ": " ++ value.render Level.test) :: renderEntries rest

def Keyword.render : Keyword → String
  | .mk none value => "**" ++ value.render Level.test
  | .mk (some name) value => name ++ "=" ++ value.render Level.test

def renderKeywords : List Keyword → List String
  | [] => []
  | k :: rest => k.render :: renderKeywords rest

def renderConditions : List Expr → String
  | [] => ""
  | e :: rest => " if " ++ e.render Level.test.next ++ renderConditions rest

def Clause.render : Clause → String
  | .mk isAsync target iter conditions =>
    (if isAsync then " async for " else " for ") ++ target.render Level.tuple ++ " in " ++
      iter.render Level.test.next ++ renderConditions conditions

def renderClauses : List Clause → String
  | [] => ""
  | c :: rest => c.render ++ renderClauses rest

def Param.render : Param → String
  | .mk name annotated value => name ++ renderOption ": " annotated ++ renderOption "=" value

def renderParams : List Param → List String
  | [] => []
  | p :: rest => p.render :: renderParams rest

def renderParamOption (lead : String) : Option Param → List String
  | none => []
  | some p => [lead ++ p.render]

def Params.render : Params → String
  | .mk only regular rest keywordOnly keywordRest =>
    ", ".intercalate (renderParams only ++ (if only.isEmpty then [] else ["/"]) ++
      renderParams regular ++ renderParamOption "*" rest ++
      (if rest.isNone && !keywordOnly.isEmpty then ["*"] else []) ++ renderParams keywordOnly ++
      renderParamOption "**" keywordRest)

end

def Expr.text (e : Expr) : String := e.render Level.test

/-! Documentation strings keep their line breaks and stand in triple quotes. -/

def escapeDocPoint (code : Nat) : List Char :=
  let c := Char.ofNat code
  if code = '\n'.toNat ∨ code = '\t'.toNat then [c]
  else if code = '\\'.toNat then ['\\', '\\']
  else if code = '\r'.toNat then ['\\', 'r']
  else if Text.isPrintable code then [c]
  else Text.escapeCode code

def tripled (quote : Char) : List Char := [quote, quote, quote]

def hasTripled (quote : Char) : List Char → Bool
  | [] => false
  | c :: rest => (tripled quote).isPrefixOf (c :: rest) || hasTripled quote rest

def docText (s : Text.Wide) : String :=
  let escaped := s.codes.flatMap escapeDocPoint
  let usable := ['"', '\''].filter fun quote => !hasTripled quote escaped
  -- A mark that the text does not end in is preferred.
  match usable.filter (fun quote => escaped.getLast? ≠ some quote) ++
      usable.filter (fun quote => escaped.getLast? = some quote) with
  | quote :: _ =>
    let body :=
      if escaped.getLast? = some quote then escaped.dropLast ++ ['\\', quote] else escaped
    String.ofList (tripled quote ++ body ++ tripled quote)
  | [] =>
    let plain := s.quotedChars
    let quote := Text.quoteFor s.codes
    String.ofList (tripled quote ++ plain.tail.dropLast ++ tripled quote)

def indented (depth : Nat) (text : String) : String :=
  String.ofList (List.replicate (4 * depth) ' ') ++ text

def Alias.render (a : Alias) : String :=
  match a.asName with
  | none => a.name
  | some asName => a.name ++ " as " ++ asName

def WithItem.render (item : WithItem) : String :=
  item.context.render Level.test ++
    match item.target with
    | none => ""
    | some target => " as " ++ target.render Level.test

def renderTargets : List Expr → String
  | [] => ""
  | t :: rest => t.render Level.tuple ++ " = " ++ renderTargets rest

def isName : Expr → Bool
  | .name _ _ => true
  | _ => false

mutual

def Stmt.printed (depth : Nat) : Stmt → List String
  | .expr _ value => [indented depth (value.render Level.yields)]
  | .assign _ targets value =>
    [indented depth (renderTargets targets ++ value.render Level.test)]
  | .augmented _ target op value =>
    [indented depth (target.render Level.test ++ " " ++ op.symbol ++ "= " ++
      value.render Level.test)]
  | .annotated _ target type value simple =>
    [indented depth (bracketed (!simple && isName target) (target.render Level.test) ++ ": " ++
      type.render Level.test ++ renderOption " = " value)]
  | .pass _ => [indented depth "pass"]
  | .breakLoop _ => [indented depth "break"]
  | .continueLoop _ => [indented depth "continue"]
  | .returnValue _ value => [indented depth ("return" ++ renderOption " " value)]
  | .raise _ error cause =>
    [indented depth ("raise" ++ renderOption " " error ++ renderOption " from " cause)]
  | .assertion _ test message =>
    [indented depth ("assert " ++ test.render Level.test ++ renderOption ", " message)]
  | .delete _ targets => [indented depth ("del " ++ ", ".intercalate (renderAll targets))]
  | .globalNames _ names => [indented depth ("global " ++ ", ".intercalate names)]
  | .nonlocalNames _ names => [indented depth ("nonlocal " ++ ", ".intercalate names)]
  | .importNames _ names =>
    [indented depth ("import " ++ ", ".intercalate (names.map Alias.render))]
  | .importFrom _ module names level =>
    [indented depth ("from " ++ String.ofList (List.replicate level '.') ++ module.getD "" ++
      " import " ++ ", ".intercalate (names.map Alias.render))]
  | .branch _ test body orelse =>
    indented depth ("if " ++ test.render Level.test ++ ":") :: printAll (depth + 1) body ++
      printElse depth orelse
  | .forLoop _ isAsync target iter body orelse =>
    indented depth ((if isAsync then "async for " else "for ") ++ target.render Level.tuple ++
      " in " ++ iter.render Level.test ++ ":") :: printAll (depth + 1) body ++
      printPart depth "else:" orelse
  | .whileLoop _ test body orelse =>
    indented depth ("while " ++ test.render Level.test ++ ":") :: printAll (depth + 1) body ++
      printPart depth "else:" orelse
  | .withBlock _ isAsync items body =>
    indented depth ((if isAsync then "async with " else "with ") ++
      ", ".intercalate (items.map WithItem.render) ++ ":") :: printAll (depth + 1) body
  | .tryBlock _ isGroup body handlers orelse cleanup =>
    indented depth "try:" :: printAll (depth + 1) body ++
      printHandlers depth (if isGroup then "except*" else "except") handlers ++
      printPart depth "else:" orelse ++ printPart depth "finally:" cleanup
  | .function _ isAsync name params body decorators returns =>
    "" :: decorators.map (fun d => indented depth ("@" ++ d.render Level.test)) ++
      indented depth ((if isAsync then "async def " else "def ") ++ name ++ "(" ++ params.render ++
        ")" ++ renderOption " -> " returns ++ ":") :: printBody (depth + 1) body
  | .classDef _ name bases keywords body decorators =>
    let arguments := renderAll bases ++ renderKeywords keywords
    "" :: decorators.map (fun d => indented depth ("@" ++ d.render Level.test)) ++
      indented depth ("class " ++ name ++
        bracketed (!arguments.isEmpty) (", ".intercalate arguments) ++ ":") ::
      printBody (depth + 1) body

def printAll (depth : Nat) : List Stmt → List String
  | [] => []
  | s :: rest => s.printed depth ++ printAll depth rest

def printBody (depth : Nat) : List Stmt → List String
  | .expr _ (.literal _ (.str s marked)) :: rest =>
    indented depth ((if marked then "u" else "") ++ docText s) :: printAll depth rest
  | [] => []
  | s :: rest => s.printed depth ++ printAll depth rest

def printPart (depth : Nat) (head : String) : List Stmt → List String
  | [] => []
  | s :: rest => indented depth head :: (s.printed (depth + 1) ++ printAll (depth + 1) rest)

def printElse (depth : Nat) : List Stmt → List String
  | [] => []
  | [.branch _ test body orelse] =>
    indented depth ("elif " ++ test.render Level.test ++ ":") :: printAll (depth + 1) body ++
      printElse depth orelse
  | s :: rest => indented depth "else:" :: (s.printed (depth + 1) ++ printAll (depth + 1) rest)

def Handler.printed (depth : Nat) (head : String) : Handler → List String
  | .mk _ type name body =>
    indented depth (head ++ renderOption " " type ++
      (match name with
        | none => ""
        | some name => " as " ++ name) ++ ":") :: printAll (depth + 1) body

def printHandlers (depth : Nat) (head : String) : List Handler → List String
  | [] => []
  | h :: rest => h.printed depth head ++ printHandlers depth head rest

end

def joinPrinted : List String → String
  | "" :: rest => "\n".intercalate rest
  | lines => "\n".intercalate lines

def Stmt.text (s : Stmt) : String := joinPrinted (s.printed 0)

def moduleText (body : List Stmt) : String := joinPrinted (printBody 0 body)

end Rebind.Syntax
