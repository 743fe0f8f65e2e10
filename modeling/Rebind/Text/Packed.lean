/-!
Tables of numbers as text. A number ends with a sign from `#` to `[`, its last digit, of 57; the signs
from `]` to `z` before it are higher digits, of 30. All other signs are of no account.
-/
namespace Rebind.Text.Packed

/-- The numbers that signs spell, after digits worth `high`. -/
def numbersFrom (high : Nat) : List Char → List Nat
  | [] => []
  | c :: rest =>
    if '#' ≤ c ∧ c ≤ '[' then (57 * high + (c.toNat - '#'.toNat)) :: numbersFrom 0 rest
    else if ']' ≤ c ∧ c ≤ 'z' then numbersFrom (30 * high + (c.toNat - ']'.toNat)) rest
    else numbersFrom high rest

def numbers (table : String) : List Nat := numbersFrom 0 table.toList

def repeated : (last : Nat) → List Nat → List Nat
  | last, 0 :: count :: rest => List.replicate count last ++ repeated last rest
  | _, n :: rest => n :: repeated n rest
  | _, [] => []

def risingFrom (last : Nat) : (gaps : List Nat) → List Nat
  | [] => []
  | gap :: rest => (last + gap) :: risingFrom (last + gap) rest

/-- Rising numbers after `last`, by how far each is from the one before. A zero and a count stand for a gap that comes
again. -/
def rising (last : Nat) (gaps : List Nat) : List Nat := risingFrom last (repeated 0 gaps)

/-- A number of either sign: the odd ones stand for those below zero. -/
def signed (n : Nat) : Int := if n % 2 = 0 then n / 2 else -(n / 2 + 1)

/-! ### Rows -/

def step (differences row : List Nat) : List Nat :=
  differences.zipIdx.map fun (n, i) => (row.getD i 0 + signed n).toNat

def steps (differences : List Nat) : (count : Nat) → (row : List Nat) → List (List Nat)
  | 0, _ => []
  | count + 1, row => step differences row :: steps differences count (step differences row)

/-- Goes on after a length, of whose numbers so many are missing and the others are in `chunk`, from their end. -/
def chunksFrom : Option (Nat × List Nat) → List Nat → List (List Nat)
  | none, [] => []
  | some (_, chunk), [] => [chunk.reverse]
  | none, 0 :: rest => chunksFrom (some (1, [0])) rest
  | none, n :: rest => chunksFrom (some (n, [])) rest
  | some (missing, chunk), n :: rest =>
    if missing ≤ 1 then (n :: chunk).reverse :: chunksFrom none rest
    else chunksFrom (some (missing - 1, n :: chunk)) rest

/-- A length and as many numbers, over and over. A length of zero comes with a single number, and stays before it. -/
def chunks (numbers : List Nat) : List (List Nat) := chunksFrom none numbers

def rowsFrom (row differences : List Nat) : List (List Nat) → List (List Nat)
  | [] => []
  | [0, count] :: rest =>
    let more := steps differences count row
    more ++ rowsFrom (more.getLastD row) differences rest
  | given :: rest => step given row :: rowsFrom (step given row) given rest

/-- The rows of a table. Each is given by its differences from the row before; a zero and a count stand for that many
rows with the differences of the last one. -/
def rows (given : List (List Nat)) : List (List Nat) := rowsFrom [] [] given

def table (numerals : String) : List (List Nat) := rows (chunks (numbers numerals))

end Rebind.Text.Packed
