import Rebind.Syntax.Token
/-!
Reading from a list of tokens: a reader takes the cursor forward or fails. Failures are plain values,
so an alternative can be tried from the same place.
-/
namespace Rebind.Syntax

/-- The tokens ahead, and the end of the last token that is more than layout. -/
structure Cursor where
  ahead : List Token
  passed : Pos

def Reader (α : Type) := Cursor → Except ReadError (α × Cursor)

namespace Reader

@[inline] def succeed (a : α) : Reader α := fun c => .ok (a, c)

@[inline] def andThen (r : Reader α) (f : α → Reader β) : Reader β := fun c =>
  match r c with
  | .ok (a, c) => f a c
  | .error e => .error e

instance : Monad Reader where
  pure := succeed
  bind := andThen

instance : Inhabited (Reader α) := ⟨fun _ => .error ⟨0⟩⟩

def here (c : Cursor) : Pos :=
  match c.ahead with
  | token :: _ => token.start
  | [] => c.passed

def fail : Reader α := fun c => .error ⟨(here c).line⟩

def orElse (first second : Reader α) : Reader α := fun c =>
  match first c with
  | .ok r => .ok r
  | .error _ => second c

def ahead (r : Reader α) : Reader α := fun c =>
  match r c with
  | .ok (a, _) => .ok (a, c)
  | .error e => .error e

def start : Reader Pos := fun c => .ok (here c, c)

def stop : Reader Pos := fun c => .ok (c.passed, c)

def bound : Reader Nat := fun c => .ok (c.ahead.length + 1, c)

def linesFrom (start : Pos) : Reader Lines := fun c => .ok (⟨start.line, c.passed.line⟩, c)

def spanFrom (start : Pos) : Reader Span := fun c =>
  .ok (⟨start.line, start.column, c.passed.line, c.passed.column⟩, c)

def peek : Reader TokenKind := fun c =>
  match c.ahead with
  | token :: _ => .ok (token.kind, c)
  | [] => .ok (.endOfInput, c)

def peekSecond : Reader TokenKind := fun c =>
  match c.ahead with
  | _ :: token :: _ => .ok (token.kind, c)
  | _ => .ok (.endOfInput, c)

def isLayout : TokenKind → Bool
  | .newline | .indent | .dedent | .endOfInput => true
  | _ => false

def skip : Reader Unit := fun c =>
  match c.ahead with
  | token :: rest => .ok ((), ⟨rest, if isLayout token.kind then c.passed else token.stop⟩)
  | [] => .ok ((), c)

def accept (kind : TokenKind) : Reader Bool := do
  if (← peek) = kind then
    skip
    return true
  else return false

def expect (kind : TokenKind) : Reader Unit := do
  unless ← accept kind do fail

def acceptOp (symbol : String) : Reader Bool := accept (.op symbol)

def acceptWord (word : String) : Reader Bool := accept (.keyword word)

def expectOp (symbol : String) : Reader Unit := expect (.op symbol)

def expectWord (word : String) : Reader Unit := expect (.keyword word)

def isAt (kind : TokenKind) : Reader Bool := do return (← peek) = kind

def isAtOp (symbol : String) : Reader Bool := isAt (.op symbol)

def isAtWord (word : String) : Reader Bool := isAt (.keyword word)

def name : Reader String := do
  match ← peek with
  | .name id =>
    skip
    return id
  | _ => fail

def repeatUntil (step : α → Reader (α × Bool)) : (bound : Nat) → α → Reader α
  | 0, _ => fail
  | bound + 1, a => do
    let (a, more) ← step a
    if more then repeatUntil step bound a else return a

def loop (init : α) (step : α → Reader (α × Bool)) : Reader α := do
  repeatUntil step (← bound) init

/-- Items up to a closing token that is not taken, with commas between them: the items, and whether a
comma stood after the last one. -/
def commaList (item : Reader α) (atEnd : Reader Bool) : Reader (List α × Bool) := do
  if ← atEnd then return ([], false)
  let first ← item
  let (items, trailing) ← loop ([first], false) fun (items, _) => do
    if ← acceptOp "," then
      if ← atEnd then return ((items, true), false)
      else
        let next ← item
        return ((next :: items, false), true)
    else return ((items, false), false)
  return (items.reverse, trailing)

end Reader
end Rebind.Syntax
