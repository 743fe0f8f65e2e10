import Rebind.Plain
import Rebind.Text.Alphabet
import Rebind.Text.Blank
import Rebind.Text.Casing
/-!
Diagnostics: an error with a code, a message, help, notes and data. Codes have one canonical form, in
small letters; the external form is in capitals.
-/
namespace Rebind

/-- What stage a diagnostic belongs to, and what it is about. -/
inductive DiagnosticKind where
  | lowering
  | unsupported
  | malformed
  | expansion
  | execution
deriving DecidableEq, Repr

/-- The known codes. -/
inductive ErrorCode where
  | unsupportedShape
  | malformedSpecialForm
  | endlessExpansion
  | sourceUnavailable
  | closureUnsupported
  | missingDecorator
deriving DecidableEq, Repr

def ErrorCode.text : ErrorCode → String
  | unsupportedShape => "unsupported_shape"
  | malformedSpecialForm => "malformed_special_form"
  | endlessExpansion => "macro_expansion_non_termination"
  | sourceUnavailable => "source_unavailable"
  | closureUnsupported => "closure_unsupported"
  | missingDecorator => "missing_decorator"

def ErrorCode.all : List ErrorCode :=
  [.unsupportedShape, .malformedSpecialForm, .endlessExpansion, .sourceUnavailable,
    .closureUnsupported, .missingDecorator]

def ErrorCode.ofExternal? (name : String) : Option ErrorCode :=
  all.find? fun code => Text.toUpper code.text == name

/-- A value in a diagnostic's data. -/
inductive Datum where
  | text (value : String)
  | number (value : Int)
  | flag (value : Bool)
deriving DecidableEq, Repr

structure Diagnostic where
  kind : DiagnosticKind
  code : String
  message : String
  help : Plain
  related : List String
  data : List (String × Datum)

instance : Inhabited Diagnostic := ⟨⟨.lowering, "", "", .none, [], []⟩⟩

namespace Diagnostic

def externalCode (d : Diagnostic) : String := Text.toUpper d.code

def channel (d : Diagnostic) : String :=
  if d.kind = .execution then "execution_error" else "rewrite_error"

def severity : String := "error"

/-! ### Codes -/

/-- What is wrong with the fields of a diagnostic. -/
inductive FieldError where
  | codeNotText
  | codeStart
  | codeCharacters
  | codeCase
  | blankMessage
  | blankNote
  | dataKind
  /-- A field that cannot be used at all: no parts to go through, no key, no such field. -/
  | unusable
  /-- A help of which it cannot be said whether it is empty. -/
  | ambiguous
deriving DecidableEq, Repr

namespace FieldError

def message? : FieldError → Option String
  | codeNotText => some "diagnostic code must be a string or ErrorCode"
  | codeStart => some "diagnostic code must start with a letter"
  | codeCharacters => some "diagnostic code must be snake_case or UPPER_SNAKE"
  | codeCase => some "diagnostic code cannot mix letter cases"
  | blankMessage => some "diagnostic message must be a non-empty string"
  | blankNote => some "related diagnostic notes must be non-empty strings"
  | dataKind => some "diagnostic data must map str keys to str, int or bool"
  | unusable | ambiguous => none

def isTypeError : FieldError → Bool
  | codeNotText | dataKind | unusable => true
  | _ => false

end FieldError

def startsWithLetter (s : String) : Bool :=
  match s.toList with
  | [] => false
  | c :: _ => Text.isLetter c

def isCodeChar (c : Char) : Bool := Text.isAlphanumeric c || c = '_'

def normalizeCode (code : String) : Except FieldError String :=
  if !startsWithLetter code then .error .codeStart
  else if !code.toList.all isCodeChar then .error .codeCharacters
  else if Text.isUpper code || Text.isLower code then .ok (Text.toLower code)
  else .error .codeCase

/-! ### Diagnostics from unchecked fields -/

/-- A code as it is given: a known one or any value. -/
inductive CodeField where
  | known (code : ErrorCode)
  | given (value : Plain)

def CodeField.normalize : CodeField → Except FieldError String
  | .known code => .ok code.text
  | .given (.str s) => normalizeCode s
  | .given _ => .error .codeNotText

def textOf : Plain → Option String
  | .str s => some s
  | _ => none

def checkMessage (message : Plain) : Except FieldError String :=
  match message with
  | .str s => if Text.isBlank s then .error .blankMessage else .ok s
  | _ => .error .blankMessage

def checkNotes (related : Plain) : Except FieldError (List String) :=
  match related.parts? with
  | none => .error .unusable
  | some notes => notes.mapM checkNote
where
  checkNote : Plain → Except FieldError String
    | .str s => if Text.isBlank s then .error .blankNote else .ok s
    | _ => .error .blankNote

def checkDatum : Plain × Plain → Except FieldError (String × Datum)
  | (.str key, .str s) => .ok (key, .text s)
  | (.str key, .int n) => .ok (key, .number n)
  | (.str key, .bool b) => .ok (key, .flag b)
  | _ => .error .dataKind

def make (kind : DiagnosticKind) (code : CodeField) (message help related : Plain)
    (data : List (Plain × Plain)) : Except FieldError Diagnostic := do
  let code ← code.normalize
  let message ← checkMessage message
  let related ← checkNotes related
  let data ← data.mapM checkDatum
  return ⟨kind, code, message, help, related, data⟩

/-! ### The diagnostics of this library -/

def unsupportedMessage (statement : String) : String :=
  "`" ++ statement ++ "` cannot be handled: statement shape is not in the supported grammar"

def unsupportedHelp : String :=
  "use copyto/copy/zero/similar, iadd/isub/imul/itruediv, axpy/axpby, `a = b @ c`, " ++
    "`a = elementwise(...)` or `a[...] (op)= value`"

def malformedMessage (form statement reason : String) : String :=
  "malformed " ++ form ++ " special form `" ++ statement ++ "`: " ++ reason

def malformedHelp? (form : String) : Option String :=
  match form with
  | "matmul" => some "write the product as `a = b @ c`, optionally wrapping b or c in vec(...)"
  | "elementwise" => some "write the apply as `a = elementwise(expression)` with a name target"
  | _ => none

def expansionMessage (statement depth reason : String) : String :=
  "macro expansion did not terminate for `" ++ statement ++ "` at depth " ++ depth ++ ": " ++ reason

def expansionHelp : String := "make the macro expand to a supported statement shape"

def helpOr (help : Plain) (default_ : Option String) : Plain :=
  if help.truthy then help
  else
    match default_ with
    | some s => .str s
    | none => .none

def makeUnsupported (statement help : Plain) : Except FieldError Diagnostic :=
  if help.isAmbiguous then .error .ambiguous
  else make .unsupported (.known .unsupportedShape) (.str (unsupportedMessage statement.text))
    (helpOr help (some unsupportedHelp)) (.tuple [.str "rewrite grammar"])
    [(.str "statement", statement)]

def makeMalformed (form statement reason help : Plain) : Except FieldError Diagnostic :=
  if help.isAmbiguous then .error .ambiguous
  else if !help.truthy && !form.hashable then .error .unusable
  else
    let own := (textOf form).bind malformedHelp?
    make .malformed (.known .malformedSpecialForm)
      (.str (malformedMessage form.text statement.text reason.text)) (helpOr help own)
      (.tuple [.str (form.text ++ " special form")])
      [(.str "form", form), (.str "statement", statement)]

def makeExpansion (statement depth reason : Plain) : Except FieldError Diagnostic :=
  make .expansion (.known .endlessExpansion)
    (.str (expansionMessage statement.text depth.text reason.text)) (.str expansionHelp)
    (.tuple [.str "macro expansion"]) [(.str "statement", statement), (.str "depth", depth)]

/-- The fields that each kind of diagnostic is made from: those it needs and those it may have. -/
def fieldNames : DiagnosticKind → List String × List String
  | .lowering | .execution => (["code", "message"], ["help", "related"])
  | .unsupported => (["statement"], ["help"])
  | .malformed => (["form", "statement", "reason"], ["help"])
  | .expansion => (["statement", "depth", "reason"], [])

/-- A diagnostic from named fields. A known code stands for the field of that name, and only the general
kinds take data of their own. -/
def ofFields (kind : DiagnosticKind) (fields : List (String × Plain)) (known : Option ErrorCode)
    (data : Option (List (Plain × Plain))) : Except FieldError Diagnostic := do
  let general := kind = .lowering || kind = .execution
  let names := fieldNames kind
  let present := fields.map (·.1) ++ if known.isSome then ["code"] else []
  if !(present.all fun name => (names.1 ++ names.2).contains name) then throw .unusable
  if !(names.1.all fun name => present.contains name) then throw .unusable
  if !general && data.isSome then throw .unusable
  let entries ← match Plain.keyed (data.getD []) with
    | some entries => pure entries
    | none => throw .unusable
  let field (name : String) : Plain := (fields.lookup name).getD .none
  match kind with
  | .lowering | .execution =>
    let code : CodeField :=
      match known with
      | some code => .known code
      | none => .given (field "code")
    make kind code (field "message") (field "help")
      ((fields.lookup "related").getD (.tuple [])) entries
  | .unsupported => makeUnsupported (field "statement") (field "help")
  | .malformed => makeMalformed (field "form") (field "statement") (field "reason") (field "help")
  | .expansion => makeExpansion (field "statement") (field "depth") (field "reason")

def unsupportedShape (statement : String) : Diagnostic :=
  ⟨.unsupported, ErrorCode.unsupportedShape.text, unsupportedMessage statement,
    .str unsupportedHelp, ["rewrite grammar"], [("statement", .text statement)]⟩

def malformedForm (form statement reason : String) : Diagnostic :=
  ⟨.malformed, ErrorCode.malformedSpecialForm.text, malformedMessage form statement reason,
    helpOr .none (malformedHelp? form), [form ++ " special form"],
    [("form", .text form), ("statement", .text statement)]⟩

def expansionFailure (statement : String) (depth : Int) (reason : String) : Diagnostic :=
  ⟨.expansion, ErrorCode.endlessExpansion.text,
    expansionMessage statement (toString depth) reason, .str expansionHelp, ["macro expansion"],
    [("statement", .text statement), ("depth", .number depth)]⟩

def unusableFunction (code : ErrorCode) (qualname message help : String) : Diagnostic :=
  ⟨.lowering, code.text, message, .str help, ["decorator"], [("function", .text qualname)]⟩

def closureUnsupported (qualname : String) (captured : List String) : Diagnostic :=
  unusableFunction .closureUnsupported qualname
    (Text.quoted qualname ++ " closes over " ++ ", ".intercalate captured ++
      " and cannot be recompiled")
    "define the function at module level or pass captured values as arguments"

def sourceUnavailable (qualname : String) : Diagnostic :=
  unusableFunction .sourceUnavailable qualname
    ("source of " ++ Text.quoted qualname ++ " is unavailable for rewriting")
    "define the function in a file-backed module"

def notDefinedByDef (qualname : String) : Diagnostic :=
  unusableFunction .sourceUnavailable qualname
    (Text.quoted qualname ++ " is not defined by a def statement")
    "apply the decorator to a def, not to a lambda or an alias"

def missingDecorator : Diagnostic :=
  ⟨.execution, ErrorCode.missingDecorator.text,
    "`with bb:` block executed in a function that was not rewritten",
    .str "decorate the enclosing function with @bb", ["decorator"], []⟩

end Diagnostic
end Rebind
