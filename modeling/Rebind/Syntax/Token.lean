import Rebind.Syntax.Tree
import Rebind.Number.FloatText
import Rebind.Text.CharName
import Rebind.Text.Identifier
import Rebind.Text.Lines
import Rebind.Text.Normal
/-!
Tokens of the statement language. Indentation becomes opening and closing tokens, blank lines and
comments vanish, and inside brackets line ends vanish too.
-/
namespace Rebind.Syntax

/-- The text is not in the language; `line` is where reading stopped. -/
structure ReadError where
  line : Nat
deriving DecidableEq, Repr

/-- A place in the source; columns count bytes. -/
structure Pos where
  line : Nat
  column : Nat
deriving DecidableEq, Repr, Inhabited

def Pos.advance (pos : Pos) (c : Char) : Pos :=
  if c = '\n' then ⟨pos.line + 1, 0⟩ else ⟨pos.line, pos.column + c.utf8Size⟩

def Pos.after (pos : Pos) (cs : List Char) : Pos := cs.foldl Pos.advance pos

inductive TokenKind where
  | name (id : String)
  | keyword (word : String)
  | literal (value : Literal)
  | op (symbol : String)
  | newline
  | indent
  | dedent
  | endOfInput
deriving DecidableEq, Repr

structure Token where
  kind : TokenKind
  start : Pos
  stop : Pos
deriving DecidableEq, Repr

def keywords : List String :=
  ["False", "None", "True", "and", "as", "assert", "async", "await", "break", "class", "continue",
    "def", "del", "elif", "else", "except", "finally", "for", "from", "global", "if", "import", "in",
    "is", "lambda", "nonlocal", "not", "or", "pass", "raise", "return", "try", "while", "with",
    "yield"]

def symbols : List String :=
  ["**=", "//=", ">>=", "<<=", "...", "**", "//", ">>", "<<", "<=", ">=", "==", "!=", "->", "+=",
    "-=", "*=", "/=", "%=", "&=", "|=", "^=", "@=", ":=", "+", "-", "*", "/", "%", "@", "&", "|",
    "^", "~", "<", ">", "(", ")", "[", "]", "\x7b", "\x7d", ",", ":", ".", ";", "="]

/-! ### Numbers -/

def isHexDigit (c : Char) : Bool := c.isDigit || ('a' ≤ c && c ≤ 'f') || ('A' ≤ c && c ≤ 'F')

def hexValue (c : Char) : Nat :=
  if c.isDigit then c.toNat - '0'.toNat
  else if 'a' ≤ c && c ≤ 'f' then c.toNat - 'a'.toNat + 10
  else c.toNat - 'A'.toNat + 10

def natOfBase (base : Nat) (digits : List Char) : Nat :=
  digits.foldl (fun n c => base * n + hexValue c) 0

/-- The digits that go on a run, with the rest; an underscore counts only before a digit. -/
def digitTail (isDigit : Char → Bool) : List Char → List Char × List Char
  | [] => ([], [])
  | '_' :: d :: rest =>
    if isDigit d then
      let (digits, rest) := digitTail isDigit rest
      (d :: digits, rest)
    else ([], '_' :: d :: rest)
  | d :: rest =>
    if isDigit d then
      let (digits, rest) := digitTail isDigit rest
      (d :: digits, rest)
    else ([], d :: rest)

/-- A run of digits in which single underscores may separate digits: the digits and the rest. -/
def digitRun (isDigit : Char → Bool) : List Char → List Char × List Char
  | [] => ([], [])
  | d :: rest =>
    if isDigit d then
      let (digits, rest) := digitTail isDigit rest
      (d :: digits, rest)
    else ([], d :: rest)

def wordsAfterNumber : List (List Char) :=
  ["and", "else", "for", "if", "in", "is", "or", "not"].map String.toList

def isWordChar (c : Char) : Bool := c.isAlphanum || c = '_' || 0x80 ≤ c.toNat

def endsNumber (rest : List Char) : Bool :=
  match rest with
  | [] => true
  | c :: _ => !isWordChar c || wordsAfterNumber.any (·.isPrefixOf rest)

def exponentRun (cs : List Char) : Option (Bool × List Char × List Char) :=
  match cs with
  | mark :: rest =>
    if mark = 'e' ∨ mark = 'E' then
      let (negative, rest) :=
        match rest with
        | '-' :: rest => (true, rest)
        | '+' :: rest => (false, rest)
        | rest => (false, rest)
      match digitRun Char.isDigit rest with
      | ([], _) => none
      | (digits, rest) => some (negative, digits, rest)
    else none
  | [] => none

def basedNumber (base : Nat) (isDigit : Char → Bool) (cs : List Char) :
    Option (Literal × List Char) :=
  let cs :=
    match cs with
    | '_' :: rest => rest
    | rest => rest
  match digitRun isDigit cs with
  | ([], _) => none
  | (digits, rest) => if endsNumber rest then some (.int (natOfBase base digits), rest) else none

def decimalNumber (cs : List Char) : Option (Literal × List Char) :=
  let (whole, rest) := digitRun Char.isDigit cs
  let (pointed, fraction, rest) :=
    match rest with
    | '.' :: rest =>
      let (fraction, rest) := digitRun Char.isDigit rest
      (true, fraction, rest)
    | rest => (false, [], rest)
  let (exponent, rest) :=
    match exponentRun rest with
    | some (negative, digits, rest) =>
      let e : Int := Number.natOfDigits digits
      (some (if negative then -e else e), rest)
    | none => (none, rest)
  let bits :=
    Number.bitsOfDecimal false (Number.natOfDigits (whole ++ fraction))
      (exponent.getD 0 - (fraction.length : Int))
  match rest with
  | 'j' :: rest | 'J' :: rest => if endsNumber rest then some (.imaginary bits, rest) else none
  | rest =>
    if !endsNumber rest then none
    else if pointed || exponent.isSome then some (.float bits, rest)
    else
      match whole with
      -- A leading zero is for zero alone.
      | '0' :: more => if more.all (· = '0') then some (.int 0, rest) else none
      | digits => some (.int (Number.natOfDigits digits), rest)

/-- A number at the front of the text, which starts with a digit or a point before a digit. -/
def number? (cs : List Char) : Option (Literal × List Char) :=
  match cs with
  | '0' :: 'x' :: rest | '0' :: 'X' :: rest => basedNumber 16 isHexDigit rest
  | '0' :: 'o' :: rest | '0' :: 'O' :: rest => basedNumber 8 (fun c => '0' ≤ c && c ≤ '7') rest
  | '0' :: 'b' :: rest | '0' :: 'B' :: rest => basedNumber 2 (fun c => c = '0' || c = '1') rest
  | cs => decimalNumber cs

/-! ### Quoted text -/

/-- How a quoted piece is marked in front: its letters say bytes, no escapes, or plain text. -/
structure QuoteMark where
  isBytes : Bool
  isRaw : Bool
  marked : Bool

def quoteMark? (letters : List Char) : Option QuoteMark :=
  match letters.map Char.toLower with
  | [] => some ⟨false, false, false⟩
  | ['u'] => some ⟨false, false, letters = ['u']⟩
  | ['r'] => some ⟨false, true, false⟩
  | ['b'] => some ⟨true, false, false⟩
  | ['b', 'r'] | ['r', 'b'] => some ⟨true, true, false⟩
  | _ => none

def hexRun (count : Nat) (cs : List Char) : Option (Nat × List Char) :=
  let digits := cs.take count
  if digits.length = count ∧ digits.all isHexDigit then some (natOfBase 16 digits, cs.drop count)
  else none

def simpleEscape? : Char → Option Char
  | '\\' => some '\\' | '\'' => some '\'' | '"' => some '"' | 'a' => some '\x07'
  | 'b' => some '\x08' | 'f' => some '\x0c' | 'n' => some '\n' | 'r' => some '\r' | 't' => some '\t'
  | 'v' => some '\x0b' | _ => none

def isOctal (c : Char) : Bool := '0' ≤ c && c ≤ '7'

/-- What an escape after a backslash stands for, and the text after it. -/
inductive Escape where
  | points (codes : List Nat) (rest : List Char)
  /-- The escape stands for itself. -/
  | unknown
  | malformed

def namedEscape (cs : List Char) : Escape :=
  match cs with
  | '\x7b' :: rest =>
    let name := rest.takeWhile (· ≠ '\x7d')
    if name.length < rest.length then
      match Text.charNamed? name with
      | some c => .points [c.toNat] (rest.drop (name.length + 1))
      | none => .malformed
    else .malformed
  | _ => .malformed

def codedEscape (count : Nat) (cs : List Char) : Escape :=
  match hexRun count cs with
  | some (code, rest) => if code < 0x110000 then .points [code] rest else .malformed
  | none => .malformed

/-- The escape that a text after a backslash starts with. In bytes only the escapes for single bytes
count. -/
def escape (isBytes : Bool) : List Char → Escape
  | [] => .unknown
  | '\n' :: rest => .points [] rest
  | c :: rest =>
    match simpleEscape? c with
    | some d => .points [d.toNat] rest
    | none =>
      if isOctal c then
        let digits := (c :: rest).take 3 |>.takeWhile isOctal
        let code := natOfBase 8 digits
        .points [if isBytes then code % 256 else code] ((c :: rest).drop digits.length)
      else if c = 'x' then codedEscape 2 rest
      else if isBytes then .unknown
      else if c = 'u' then codedEscape 4 rest
      else if c = 'U' then codedEscape 8 rest
      else if c = 'N' then namedEscape rest
      else .unknown

def unescape (isBytes : Bool) : (fuel : Nat) → List Char → Option (List Nat)
  | 0, _ => none
  | _ + 1, [] => some []
  | fuel + 1, '\\' :: rest =>
    match escape isBytes rest with
    | .points codes rest => (unescape isBytes fuel rest).map (codes ++ ·)
    | .unknown => (unescape isBytes fuel rest).map ('\\'.toNat :: ·)
    | .malformed => none
  | fuel + 1, c :: rest => (unescape isBytes fuel rest).map (c.toNat :: ·)

def quotedRun (mark : List Char) (multiline : Bool) : List Char → Option (List Char × List Char)
  | [] => none
  | '\\' :: c :: rest => (quotedRun mark multiline rest).map fun (body, rest) => ('\\' :: c :: body, rest)
  | c :: rest =>
    if mark.isPrefixOf (c :: rest) then some ([], (c :: rest).drop mark.length)
    else if c = '\n' && !multiline then none
    else (quotedRun mark multiline rest).map fun (body, rest) => (c :: body, rest)

def pieceLiteral (mark : QuoteMark) (body : List Char) : Option Literal :=
  let content :=
    if mark.isRaw then some (body.map Char.toNat) else unescape mark.isBytes (body.length + 1) body
  match content with
  | none => none
  | some content =>
    if mark.isBytes then
      if body.all (·.toNat < 0x80) then some (.bytes (content.map UInt8.ofNat)) else none
    else some (.str ⟨content⟩ mark.marked)

/-- A quoted piece whose opening quote is at the front of the text: the value, the characters it
takes up, and the rest. -/
def quotedPiece? (mark : QuoteMark) (cs : List Char) : Option (Literal × List Char × List Char) :=
  match cs with
  | quote :: rest =>
    let triple := [quote, quote, quote]
    let (closing, multiline, inner) :=
      if triple.isPrefixOf cs then (triple, true, cs.drop 3) else ([quote], false, rest)
    match quotedRun closing multiline inner with
    | none => none
    | some (body, rest) =>
      (pieceLiteral mark body).map fun value => (value, closing ++ body ++ closing, rest)
  | [] => none

/-! ### The scan -/

/-- Where the scan stands. The measure of an indentation is taken twice, with tabs to every eighth
column and with tabs of one column: both must tell the same story. -/
structure Scan where
  rest : List Char
  pos : Pos
  indents : List (Nat × Nat)
  brackets : List Char
  /-- Nothing but the line's indentation lies before the current place. -/
  atLineStart : Bool
  /-- The current line already has a token on it. -/
  inLine : Bool

/-- The blanks at the front of a line: their widths, and the width that counts when the line is
continued before its text starts. -/
structure Margin where
  wide : Nat
  narrow : Nat
  continued : Nat

/-- Measures the blanks at the front of a line, with what follows them. A form feed starts over; of a
line that is continued before its text starts, the first blanks count. Nothing after such a line is no
line at all. -/
def measureMargin : Margin → List Char → Option (Margin × List Char)
  | m, ' ' :: rest => measureMargin { m with wide := m.wide + 1, narrow := m.narrow + 1 } rest
  | m, '\t' :: rest =>
    measureMargin { m with wide := (m.wide / 8 + 1) * 8, narrow := m.narrow + 1 } rest
  | m, '\x0c' :: rest => measureMargin { m with wide := 0, narrow := 0 } rest
  | _, ['\\', '\n'] => none
  | m, '\\' :: '\n' :: rest =>
    measureMargin { m with continued := if m.continued = 0 then m.wide else m.continued } rest
  | m, rest => some (m, rest)

/-- The closing tokens of a line that is indented less, and the indentations that stay open. -/
def closeIndents (pos : Pos) (wide narrow : Nat) :
    List (Nat × Nat) → Option (List Token × List (Nat × Nat))
  | [] => if wide = 0 ∧ narrow = 0 then some ([], []) else none
  | (w, n) :: rest =>
    if w = wide then if n = narrow then some ([], (w, n) :: rest) else none
    else if wide < w then
      (closeIndents pos wide narrow rest).map fun (tokens, kept) => (⟨.dedent, pos, pos⟩ :: tokens, kept)
    else none

def lineIndents (pos : Pos) (wide narrow : Nat) (open_ : List (Nat × Nat)) :
    Option (List Token × List (Nat × Nat)) :=
  let (w, n) := open_.headD (0, 0)
  if wide = w then if narrow = n then some ([], open_) else none
  else if w < wide then
    if narrow ≤ n then none else some ([⟨.indent, pos, pos⟩], (wide, narrow) :: open_)
  else closeIndents pos wide narrow open_

def closerOf? : Char → Option Char
  | '(' => some ')' | '[' => some ']' | '\x7b' => some '\x7d' | _ => none

def updateBrackets (c : Char) (brackets : List Char) : Option (List Char) :=
  match closerOf? c with
  | some closer => some (closer :: brackets)
  | none =>
    if c = ')' ∨ c = ']' ∨ c = '\x7d' then
      match brackets with
      | top :: below => if top = c then some below else none
      | [] => none
    else some brackets

def nextToken? (cs : List Char) : Option (TokenKind × List Char × List Char) :=
  match cs with
  | [] => none
  | c :: after =>
    let word := cs.takeWhile isWordChar
    let rest := cs.drop word.length
    let quote := rest.headD ' '
    if c = '"' ∨ c = '\'' then
      (quotedPiece? ⟨false, false, false⟩ cs).map fun (v, used, rest) => (.literal v, used, rest)
    else if c.isDigit ∨ (c = '.' ∧ (after.headD ' ').isDigit) then
      (number? cs).map fun (v, rest) => (.literal v, cs.take (cs.length - rest.length), rest)
    else if isWordChar c then
      match (if quote = '"' ∨ quote = '\'' then quoteMark? word else none) with
      | some mark =>
        (quotedPiece? mark rest).map fun (v, used, rest) => (.literal v, word ++ used, rest)
      | none =>
        let id := String.ofList word
        if keywords.contains id then some (.keyword id, word, rest)
        else if Text.isIdentifier id then some (.name (Text.normalWord id), word, rest)
        else none
    else
      match symbols.find? (fun s => s.toList.isPrefixOf cs) with
      | some s => some (.op s, s.toList, cs.drop s.length)
      | none => none

def scanFrom : (fuel : Nat) → Scan → Except ReadError (List Token)
  | 0, s => .error ⟨s.pos.line⟩
  | fuel + 1, s =>
    if s.atLineStart then
      match measureMargin ⟨0, 0, 0⟩ s.rest with
      | none => .error ⟨s.pos.line⟩
      | some (margin, rest) =>
        let pos := s.pos.after (s.rest.take (s.rest.length - rest.length))
        match rest with
        | '\n' :: after => scanFrom fuel { s with rest := after, pos := pos.advance '\n' }
        | '#' :: _ =>
          let comment := rest.takeWhile (· ≠ '\n')
          scanFrom fuel { s with rest := rest.drop comment.length, pos := pos.after comment }
        | _ =>
          let (wide, narrow) :=
            if margin.continued = 0 then (margin.wide, margin.narrow)
            else (margin.continued, margin.continued)
          match lineIndents pos wide narrow s.indents with
          | none => .error ⟨pos.line⟩
          | some (tokens, indents) =>
            if rest.isEmpty then
              let closing := indents.map fun _ => (⟨.dedent, pos, pos⟩ : Token)
              .ok (tokens ++ closing ++ [⟨.endOfInput, pos, pos⟩])
            else match scanFrom fuel { s with rest, pos, indents, atLineStart := false } with
            | .error e => .error e
            | .ok more => .ok (tokens ++ more)
    else
      match s.rest with
      | [] =>
        if s.brackets.isEmpty then
          match scanFrom fuel { s with atLineStart := true, inLine := false } with
          | .error e => .error e
          | .ok more => .ok (if s.inLine then ⟨.newline, s.pos, s.pos⟩ :: more else more)
        else .error ⟨s.pos.line⟩
      | '\n' :: rest =>
        let next := { s with rest, pos := s.pos.advance '\n' }
        if s.brackets.isEmpty then
          match scanFrom fuel { next with atLineStart := true, inLine := false } with
          | .error e => .error e
          | .ok more => .ok (if s.inLine then ⟨.newline, s.pos, s.pos⟩ :: more else more)
        else scanFrom fuel next
      | '\\' :: '\n' :: rest =>
        -- A line that is continued must go on.
        if rest.isEmpty then .error ⟨s.pos.line⟩
        else scanFrom fuel { s with rest, pos := (s.pos.advance '\\').advance '\n' }
      | '#' :: _ =>
        let comment := s.rest.takeWhile (· ≠ '\n')
        scanFrom fuel { s with rest := s.rest.drop comment.length, pos := s.pos.after comment }
      | c :: rest =>
        if c = ' ' ∨ c = '\t' ∨ c = '\x0c' then
          scanFrom fuel { s with rest, pos := s.pos.advance c }
        else
          match nextToken? s.rest with
          | none => .error ⟨s.pos.line⟩
          | some (kind, used, rest) =>
            match (match kind with
              | .op _ => updateBrackets c s.brackets
              | _ => some s.brackets) with
            | none => .error ⟨s.pos.line⟩
            | some brackets =>
              let stop := s.pos.after used
              match scanFrom fuel { s with rest, pos := stop, brackets, inLine := true } with
              | .error e => .error e
              | .ok more => .ok (⟨kind, s.pos, stop⟩ :: more)

def unifyLineEnds : List Char → List Char
  | '\r' :: '\n' :: rest => '\n' :: unifyLineEnds rest
  | '\r' :: rest => '\n' :: unifyLineEnds rest
  | c :: rest => c :: unifyLineEnds rest
  | [] => []

/-- The last line of a whole source is ended if it is not. A source that ends in both signs of a line
end has an empty line more. -/
def closeLastLine (source : List Char) : List Char :=
  match source.reverse with
  | '\n' :: '\r' :: _ => ['\n']
  | '\n' :: _ | '\r' :: _ => []
  | _ => ['\n']

/-- The tokens of a text whose first line has the given number; `whole` texts consist of lines. -/
def scan (firstLine : Nat) (whole : Bool) (source : String) : Except ReadError (List Token) :=
  let cs := source.toList
  let lines := unifyLineEnds cs ++ if whole then closeLastLine cs else []
  if cs.contains '\x00' then .error ⟨firstLine⟩
  else scanFrom (2 * lines.length + 3) ⟨lines, ⟨firstLine, 0⟩, [], [], true, false⟩

end Rebind.Syntax
