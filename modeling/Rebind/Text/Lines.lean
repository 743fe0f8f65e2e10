/-!
Lines of a text, and the margin its lines have in common.
-/
namespace Rebind.Text

def splitLines : List Char → List (List Char)
  | [] => [[]]
  | c :: rest =>
    if c = '\n' then [] :: splitLines rest
    else
      match splitLines rest with
      | [] => [[c]]
      | line :: lines => (c :: line) :: lines

def joinLines : List (List Char) → List Char
  | [] => []
  | [line] => line
  | line :: lines => line ++ '\n' :: joinLines lines

def isLineEnd (c : Char) : Bool :=
  let code := c.toNat
  (10 ≤ code && code ≤ 13) || (28 ≤ code && code ≤ 30) || code == 0x85 || code == 0x2028 || code == 0x2029

/-- The lines of a text in the widest sense, each with its end; a return and a feed are one end. -/
def wholeLines : List Char → List (List Char)
  | [] => []
  | '\r' :: '\n' :: rest => ['\r', '\n'] :: wholeLines rest
  | c :: rest =>
    if isLineEnd c then [c] :: wholeLines rest
    else
      match rest, wholeLines rest with
      | [], _ => [[c]]
      | _, [] => [[c]]
      | _, line :: lines => (c :: line) :: lines

def isIndent (c : Char) : Bool := c = ' ' || c = '\t'

/-- A line of blanks and tabs alone is emptied; an inner blank line carries no margin. -/
def emptyBlankLine (line : List Char) : List Char := if line.all isIndent then [] else line

def indentOf? (line : List Char) : Option (List Char) :=
  if line.all isIndent then none else some (line.takeWhile isIndent)

def commonStart : List Char → List Char → List Char
  | a :: as, b :: bs => if a = b then a :: commonStart as bs else []
  | _, _ => []

def margin (lines : List (List Char)) : List Char :=
  match lines.filterMap indentOf? with
  | [] => []
  | first :: rest => rest.foldl commonStart first

def dropLead (lead line : List Char) : List Char :=
  if lead.isPrefixOf line then line.drop lead.length else line

/-- Takes the common margin off every line. Lines of blanks become empty, in quoted text too. -/
def dedent (s : String) : String :=
  let lines := (splitLines s.toList).map emptyBlankLine
  String.ofList (joinLines (lines.map (dropLead (margin lines))))

end Rebind.Text
