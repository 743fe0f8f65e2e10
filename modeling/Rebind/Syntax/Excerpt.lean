import Rebind.Text.Alphabet
import Rebind.Text.Blank
import Rebind.Text.Lines
/-!
The text of a function within the text of its module. Its first line is searched for upwards from the line
on which its code starts, and its last one is where the outline of the lines that follow says that the
block ends: a definition ends before the next line that is not deeper, and a lambda with its statement.
The outline knows words, brackets, quotes and indentation, and nothing of what they mean.
-/
namespace Rebind.Syntax

/-- A piece of a line, as far as an outline cares. -/
inductive Mark where
  | newline
  | blank
  | comment
  | indent
  | dedent
  | word (text : String)
  | other
deriving DecidableEq, Repr

/-- A piece with its line, and the column at which it starts; an indent has the one at which it ends. -/
structure Piece where
  mark : Mark
  row : Nat
  column : Nat
deriving Repr

/-- How an outline comes to its end. -/
inductive Ending where
  | complete
  /-- A line is indented like none of those around it. -/
  | misaligned
  /-- A bracket or a quotation is still open. -/
  | unfinished
deriving DecidableEq, Repr

/-- A quotation that goes on over lines. -/
structure Quotation where
  quote : Char
  triple : Bool

structure Outline where
  depth : Int := 0
  continued : Bool := false
  quotation : Option Quotation := none
  /-- The columns of the blocks around, the innermost first; the last one is always zero. -/
  columns : List Nat := [0]

namespace Outline

/-- What follows the end of a quotation in the rest of a line. An escaped line end hides it. -/
def afterQuotation? (q : Quotation) : List Char → Option (List Char)
  | [] => none
  | '\\' :: c :: rest => if c = '\n' then none else afterQuotation? q rest
  | c :: rest =>
    if c = q.quote then
      if !q.triple then some rest
      else if rest.take 2 == [c, c] then some (rest.drop 2)
      else afterQuotation? q rest
    else if c = '\\' then none
    else afterQuotation? q rest
termination_by structural s => s

/-- What a quotation on one line leaves of the line: the rest after it, or nothing if the line ends in a
backslash, so that it goes on. -/
def shortQuotation? (quote : Char) : List Char → Option (Option (List Char))
  | [] => none
  | '\\' :: '\n' :: _ => some none
  | ['\\', '\r', '\n'] => some none
  | '\\' :: _ :: rest => shortQuotation? quote rest
  | c :: rest =>
    if c = quote then some (some rest)
    else if c = '\n' || c = '\\' then none
    else shortQuotation? quote rest
termination_by structural s => s

def quotationLetters : List String := ["", "b", "r", "u", "f", "br", "rb", "fr", "rf"]

/-- The quote that a text starts with, after letters that belong to it, and what follows the quote. -/
def opening? (s : List Char) : Option (Char × List Char) :=
  let letters := (s.takeWhile Char.isAlpha).map Char.toLower
  match s.drop letters.length with
  | c :: rest =>
    if (c = '\'' || c = '"') && quotationLetters.contains (String.ofList letters) then some (c, rest)
    else none
  | [] => none

def isWordChar (c : Char) : Bool := c = '_' || Text.isAlphanumeric c

def isGap (c : Char) : Bool := c = ' ' || c = '\t' || c = '\x0c'

def pieces (row : Nat) : (fuel : Nat) → (column : Nat) → List Char → Outline → List Piece × Outline
  | 0, _, _, o => ([], o)
  | fuel + 1, start, line, o =>
    let gap := (line.takeWhile isGap).length
    let column := start + gap
    let rest := line.drop gap
    let piece (mark : Mark) (length : Nat) (o : Outline) : List Piece × Outline :=
      let (more, o) := pieces row fuel (column + length) (rest.drop length) o
      (⟨mark, row, column⟩ :: more, o)
    let upTo (after : List Char) : Nat := rest.length - after.length
    let plain : List Piece × Outline :=
      match rest with
      | [] => ([], o)
      | '\\' :: '\n' :: after | '\\' :: '\r' :: '\n' :: after =>
        pieces row fuel (column + upTo after) after { o with continued := true }
      | '\n' :: _ => piece (if 0 < o.depth then .blank else .newline) 1 o
      | '\r' :: '\n' :: _ => piece (if 0 < o.depth then .blank else .newline) 2 o
      | '#' :: _ => piece .comment (rest.takeWhile fun c => c ≠ '\r' && c ≠ '\n').length o
      | '@' :: '=' :: _ => piece .other 2 o
      | c :: _ =>
        if isWordChar c then
          let word := rest.takeWhile isWordChar
          piece (if c.isDigit then .other else .word (String.ofList word)) word.length o
        else if c = '(' || c = '[' || c = '\x7b' then piece .other 1 { o with depth := o.depth + 1 }
        else if c = ')' || c = ']' || c = '\x7d' then piece .other 1 { o with depth := o.depth - 1 }
        else if c = '@' then piece (.word "@") 1 o
        else piece .other 1 o
    match opening? rest with
    | none => plain
    | some (quote, inside) =>
      if inside.take 2 == [quote, quote] then
        let inside := inside.drop 2
        match afterQuotation? ⟨quote, true⟩ inside with
        | some after => piece .other (upTo after) o
        | none => ([], { o with quotation := some ⟨quote, true⟩ })
      else
        match shortQuotation? quote inside with
        | some (some after) => piece .other (upTo after) o
        | some none => ([], { o with quotation := some ⟨quote, false⟩ })
        | none => plain

def margin : (column place : Nat) → List Char → Nat × Nat
  | column, place, ' ' :: rest => margin (column + 1) (place + 1) rest
  | column, place, '\t' :: rest => margin ((column / 8 + 1) * 8) (place + 1) rest
  | _, place, '\x0c' :: rest => margin 0 (place + 1) rest
  | column, place, _ => (column, place)

def leave (row place column : Nat) : (columns : List Nat) → Except (List Piece) (List Piece × List Nat)
  | [] => .ok ([], [])
  | top :: rest =>
    if top ≤ column then .ok ([], top :: rest)
    else if (top :: rest).contains column then
      match leave row place column rest with
      | .ok (pieces, columns) => .ok (⟨.dedent, row, place⟩ :: pieces, columns)
      | .error pieces => .error (⟨.dedent, row, place⟩ :: pieces)
    else .error []

def isContinued (line : List Char) : Bool :=
  match line.reverse with
  | '\n' :: '\\' :: _ | '\n' :: '\r' :: '\\' :: _ => true
  | _ => false

def readLine (row : Nat) (line : List Char) (o : Outline) : List Piece × Except Ending Outline :=
  let from_ (place : Nat) (rest : List Char) (o : Outline) : List Piece × Except Ending Outline :=
    let (found, o) := pieces row (line.length + 1) place rest o
    (found, .ok o)
  match o.quotation with
  | some q =>
    match afterQuotation? q line with
    | some after =>
      let (found, o) := from_ (line.length - after.length) after { o with quotation := none }
      (⟨.other, row, 0⟩ :: found, o)
    | none =>
      if !q.triple && !isContinued line then ([⟨.other, row, 0⟩], .ok { o with quotation := none })
      else ([], .ok o)
  | none =>
    if o.depth ≠ 0 || o.continued then from_ 0 line { o with continued := false }
    else
      let (column, place) := margin 0 0 line
      match line.drop place with
      | [] => ([], .error .complete)
      | c :: _ =>
        if c = '#' then ([⟨.comment, row, place⟩, ⟨.blank, row, place⟩], .ok o)
        else if c = '\r' || c = '\n' then ([⟨.blank, row, place⟩], .ok o)
        else if o.columns.all (· < column) then
          let (found, o) := from_ place (line.drop place) { o with columns := column :: o.columns }
          (⟨.indent, row, place⟩ :: found, o)
        else
          match leave row place column o.columns with
          | .ok (left, columns) =>
            let (found, o) := from_ place (line.drop place) { o with columns }
            (left ++ found, o)
          | .error left => (left, .error .misaligned)

/-- The pieces at the end of the lines: a line without an end of its own gets one, and all blocks end. -/
def close (row : Nat) (last : List Char) (o : Outline) : List Piece :=
  let ended := match last.getLast? with
    | none => true
    | some c => c = '\r' || c = '\n' || (last.dropWhile Text.isBlankChar).head? == some '#'
  (if ended then [] else [⟨.newline, row, last.length⟩]) ++
    o.columns.dropLast.map (fun _ => ⟨.dedent, row + 1, 0⟩) ++ [⟨.other, row + 1, 0⟩]

/-- The outline of lines; `row` and `last` are the number and the text of the line before. -/
def ofLines : (row : Nat) → (last : List Char) → List (List Char) → Outline → List Piece × Ending
  | row, last, [], o =>
    if o.quotation.isSome || o.depth ≠ 0 || o.continued then ([], .unfinished)
    else (o.close row last, .complete)
  | row, last, line :: rest, o =>
    match o.readLine (row + 1) line with
    | (found, .ok o) =>
      let (more, ending) := ofLines (row + 1) line rest o
      (found ++ more, ending)
    | (found, .error .complete) => (found ++ o.close row last, .complete)
    | (found, .error ending) => (found, ending)

end Outline

/-- The search for the end of a block. -/
structure BlockSearch where
  indent : Int := 0
  isLambda : Bool := false
  started : Bool := false
  passing : Bool := false
  decorating : Bool := false
  last : Nat := 1
  bodyColumn : Option Nat := none

namespace BlockSearch

def step (b : BlockSearch) (p : Piece) : BlockSearch × Bool :=
  if !b.started && !b.decorating then
    match p.mark with
    | .word "@" => ({ b with decorating := true, passing := true }, false)
    | .word "lambda" => ({ b with isLambda := true, started := true, passing := true }, false)
    | .word "def" | .word "class" => ({ b with started := true, passing := true }, false)
    | _ => ({ b with passing := true }, false)
  else if p.mark = .newline then
    ({ b with passing := false, last := p.row, decorating := false }, b.isLambda)
  else if b.passing then (b, false)
  else
    match p.mark with
    | .indent =>
      let column := if b.bodyColumn.isNone && b.started then some p.column else b.bodyColumn
      ({ b with indent := b.indent + 1, passing := true, bodyColumn := column }, false)
    | .dedent => ({ b with indent := b.indent - 1 }, b.indent - 1 ≤ 0)
    | .comment =>
      if b.bodyColumn.any (· ≤ p.column) then ({ b with last := p.row }, false) else (b, false)
    | .blank => (b, false)
    | _ => (b, b.indent == 0)

/-- The last line of the block, and whether it was found before the pieces ran out. -/
def run : BlockSearch → List Piece → Nat × Bool
  | b, [] => (b.last, false)
  | b, p :: rest =>
    match b.step p with
    | (b, true) => (b.last, true)
    | (b, false) => run b rest

end BlockSearch

/-- The lines of the block at the start of the lines; nothing if a bracket or quotation stays open. -/
def leadingBlock? (lines : List (List Char)) : Option (List (List Char)) :=
  let (pieces, ending) := Outline.ofLines 0 [] lines {}
  match BlockSearch.run {} pieces with
  | (last, true) => some (lines.take last)
  | (last, false) => if ending = .unfinished then none else some (lines.take last)

/-- Whether a line may be the first one of a function: it defines or decorates one, or holds a lambda. -/
def startsFunction (line : List Char) : Bool :=
  let rest := line.dropWhile Text.isBlankChar
  let blankAt (s : List Char) : Bool := s.head?.any Text.isBlankChar
  let definesAt (s : List Char) : Bool := "def".toList.isPrefixOf s && blankAt (s.drop 3)
  let afterAsync := rest.drop 5
  definesAt rest || rest.head? == some '@' ||
    ("async".toList.isPrefixOf rest && blankAt afterAsync &&
      definesAt (afterAsync.dropWhile Text.isBlankChar)) ||
    holdsLambda false line
where
  /-- `inWord` tells whether a character of a word stands before. -/
  holdsLambda (inWord : Bool) : List Char → Bool
    | [] => false
    | c :: rest =>
      (!inWord && "lambda".toList.isPrefixOf (c :: rest) &&
        (rest.drop 5).head?.any fun c => c = ':' || Text.isBlankChar c) ||
        (c ≠ '\n' && holdsLambda (Outline.isWordChar c) rest)

def startIndex (lines : List (List Char)) : (from_ : Nat) → Nat
  | 0 => 0
  | n + 1 => if (lines[n + 1]?).any startsFunction then n + 1 else startIndex lines n

inductive Excerpt where
  /-- The line is not in the text. -/
  | missing
  /-- The block has no end. -/
  | unfinished
  | found (text : String)

def excerpt (text : String) (firstLine : Nat) : Excerpt :=
  let lines := Text.wholeLines text.toList
  if lines.isEmpty || lines.length < firstLine then .missing
  else
    match leadingBlock? (lines.drop (startIndex lines (firstLine - 1))) with
    | none => .unfinished
    | some block => .found (String.ofList block.flatten)

end Rebind.Syntax
