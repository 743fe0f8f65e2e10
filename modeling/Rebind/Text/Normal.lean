import Rebind.Text.Packed
import Rebind.Text.Tables
/-!
The normal form of words. Characters that are variants of others are spelt out, marks are put in
order, and what can be written as one character is put together again, so that words which look the
same are the same. Syllables of the Korean script follow a rule.
-/
namespace Rebind.Text.Normal

/-- Letters, digits and marks that are spelt out: the code of each, then the codes it is spelt with. -/
def spellings : Thunk (List (List Nat)) := .mk fun _ => Packed.rows (Tables.rows 0)

def marks : Thunk (List (List Nat)) := .mk fun _ => Packed.rows (Tables.rows 1)

def pairs : Thunk (List (List Nat)) := .mk fun _ => Packed.rows (Tables.rows 2)

def spelling? (code : Nat) : Option (List Nat) :=
  spellings.get.findSome? fun
    | c :: codes => if c = code then some codes else none
    | [] => none

def markClass (code : Nat) : Nat :=
  (marks.get.findSome? fun
    | [first, last, k] => if first ≤ code ∧ code ≤ last then some k else none
    | _ => none).getD 0

def pair? (first second : Nat) : Option Nat :=
  pairs.get.findSome? fun
    | [a, b, both] => if a = first ∧ b = second then some both else none
    | _ => none

/-! ### Syllables -/

def syllables : Nat := 0xac00
def initials : Nat := 0x1100
def vowels : Nat := 0x1161
def finals : Nat := 0x11a7

def letters? (code : Nat) : Option (List Nat) :=
  if syllables ≤ code ∧ code < syllables + 11172 then
    let n := code - syllables
    let opened := [initials + n / 588, vowels + n % 588 / 28]
    some (if n % 28 = 0 then opened else opened ++ [finals + n % 28])
  else none

def syllable? (first second : Nat) : Option Nat :=
  if initials ≤ first ∧ first < initials + 19 ∧ vowels ≤ second ∧ second < vowels + 21 then
    some (syllables + (first - initials) * 588 + (second - vowels) * 28)
  else if syllables ≤ first ∧ first < syllables + 11172 ∧ (first - syllables) % 28 = 0 ∧
      finals < second ∧ second < finals + 28 then
    some (first + (second - finals))
  else none

/-! ### The three steps -/

def spellOut (code : Nat) : List Nat :=
  if code < 0x80 then [code] else ((letters? code).or (spelling? code)).getD [code]

def placeMark (class_ code : Nat) : List (Nat × Nat) → List (Nat × Nat)
  | [] => [(class_, code)]
  | (k, d) :: rest =>
    if k ≠ 0 ∧ k < class_ then (k, d) :: placeMark class_ code rest
    else (class_, code) :: (k, d) :: rest

def orderMarks : List Nat → List (Nat × Nat)
  | [] => []
  | code :: rest =>
    let class_ := if code < 0x80 then 0 else markClass code
    if class_ = 0 then (0, code) :: orderMarks rest else placeMark class_ code (orderMarks rest)

/-- Joins what follows to the last letter. A mark is cut off from it by a mark of its own class or of a
higher one, and another letter by any mark that stays. -/
def joinFrom (letter : Nat) (kept : List Nat) (last : Nat) : List (Nat × Nat) → List Nat
  | [] => letter :: kept.reverse
  | (class_, code) :: rest =>
    let joined :=
      if kept.isEmpty ∨ last < class_ then (syllable? letter code).or (pair? letter code) else none
    match joined with
    | some both => joinFrom both kept last rest
    | none =>
      if class_ = 0 then letter :: kept.reverse ++ joinFrom code [] 0 rest
      else joinFrom letter (code :: kept) class_ rest

def join : List (Nat × Nat) → List Nat
  | [] => []
  | (0, code) :: rest => joinFrom code [] 0 rest
  | (_, code) :: rest => code :: join rest

end Normal

def normalWord (s : String) : String :=
  if s.toList.all (·.toNat < 0x80) then s
  else
    let codes := s.toList.flatMap fun c => Normal.spellOut c.toNat
    String.ofList ((Normal.join (Normal.orderMarks codes)).map Char.ofNat)

end Rebind.Text
