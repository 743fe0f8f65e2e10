/-!
Condensed text. Each letter is found by six choices, and a choice takes the less room the better it was foreseen. The
text is in rows of words, and what comes next is foreseen from the last letters, from the word so far, from the rows
before, and from what has followed the last letters where they stood before.
-/
namespace Rebind.Text.Condensed

/-- The letters of a text. The first of them ends a row and the second ends a word. -/
def letters : Array Char := "\n ABCDEFGHIJKLMNOPQRSTUVWXYZ0123456789-:".toList.toArray

def digits : String := "0123456789ABCDEFGHIJKLMNOPQRSTUVWXYZabcdefghijklmnopqrstuvwxyz!$%&()*+,.:;<=>?[]^_|~"

def digitValues : Array Nat :=
  digits.toList.zipIdx.foldl (fun values (c, n) => values.setIfInBounds c.toNat n) (Array.replicate 128 0)

/-- The chances, of 65536, that go with the logarithms of odds from -2048 on, in steps of 128. -/
def curve : Array Nat :=
  #[22, 36, 60, 98, 162, 267, 439, 720, 1179, 1921, 3108, 4971, 7812, 11955, 17625, 24743, 32768, 40793, 47911, 53581,
    57724, 60565, 62428, 63615, 64357, 64816, 65097, 65269, 65374, 65438, 65476, 65500, 65514]

def chance (odds : Int) : Nat :=
  let place := (min 2047 (max (-2047) odds) + 2048).toNat
  (curve.getD (place / 128) 0 * (128 - place % 128) + curve.getD (place / 128 + 1) 0 * (place % 128) + 64) / 128

/-- The odds that go with a chance of 4096. -/
def oddsOf : Array Int :=
  (List.range 4095).foldl (fun table (n : Nat) =>
    let odds : Int := (n : Int) - 2047
    table ++ Array.replicate (chance odds / 16 + 1 - table.size) odds) #[]

/-- A text is one long number, whose digits are taken up as they are needed: `range` is what the choices so far have left
of it, and `offset` is where the number lies in that. -/
structure Source where
  range : Nat
  offset : Nat
  rest : List Char

def base : Nat := 84

def Source.refill (range offset : Nat) : List Char → Source
  | c :: rest =>
    if range < base ^ 4 then refill (range * base) (offset * base + digitValues.getD c.toNat 0) rest
    else ⟨range, offset, c :: rest⟩
  | [] => ⟨range, offset, []⟩

/-- What has been seen so far: for each situation the chance of a choice, of 65536, and how often it was met, as one
number; and how much each kind of situation is worth. -/
structure Experience where
  seen : Array Nat
  worth : Array Int

namespace Experience

def size : Nat := 16777213

def place (situation node : Nat) : Nat := (situation * 64 + node) % size

def weight (situation side node : Nat) : Nat := (node * 8 + side) * 8 + situation % 8

def odds (e : Experience) (situation node : Nat) : Int := oddsOf.getD (e.seen.getD (place situation node) 0 / 256) 2047

/-- The chance of the first choice, from all that is known. -/
def expected (e : Experience) (situations : List Nat) (side node : Nat) : Nat :=
  chance (situations.foldl (fun sum s => sum + e.worth.getD (weight s side node) 0 * e.odds s node) 0 / 65536)

/-- A situation after one more choice. The more often it was met, the less the chance changes. -/
def updated (first : Bool) (held : Nat) : Nat :=
  let (p, met) := (held / 16, held % 16)
  let p := if first then p + (65535 - p) * 10 / (10 * met + 11) else p - p * 10 / (10 * met + 11)
  p * 16 + min 6 (met + 1)

/-- Learns from a choice. What has foreseen it is worth more. -/
def learn (e : Experience) (situations : List Nat) (side node : Nat) (first : Bool) (surprise : Int) : Experience :=
  situations.foldl (fun e s =>
    let odds := e.odds s node
    ⟨e.seen.modify (place s node) (updated first), e.worth.modify (weight s side node) (· + odds * surprise / 49152)⟩) e

end Experience

def letter (situations : List Nat) (side : Nat) :
    (choices : Nat) → (node : Nat) → Source → Experience → Nat × Source × Experience
  | 0, node, source, e => (node - 64, source, e)
  | choices + 1, node, source, e =>
    let p := e.expected situations side node
    let bound := source.range * p / 65536
    if source.offset < bound then
      letter situations side choices (2 * node + 1) (Source.refill bound source.offset source.rest)
        (e.learn situations side node true (65536 - p))
    else
      letter situations side choices (2 * node)
        (Source.refill (source.range - bound) (source.offset - bound) source.rest)
        (e.learn situations side node false (-p))

/-- Where the last letters stood before, if they did, and for how long the text has gone on as it did there. -/
structure Echo where
  shown : Array Nat := #[]
  /-- What comes after six letters that were seen, by the number they make. -/
  places : Array Nat
  trace : Nat := 0
  spot : Nat := 0
  length : Nat := 0

namespace Echo

def size : Nat := 1048573

def next (echo : Echo) : Nat := if echo.spot = 0 then 0 else echo.shown.getD echo.spot 0

def push : Echo → Nat → Echo
  | ⟨shown, places, trace, spot, length⟩, c =>
    let trace := (trace * 41 + c) % 4750104241
    let goesOn := spot ≠ 0 && shown.getD spot 0 = c
    let found := places.getD (trace % size) 0
    let places := places.setIfInBounds (trace % size) (shown.size + 1)
    let shown := shown.push c
    if goesOn then ⟨shown, places, trace, spot + 1, length + 1⟩
    else ⟨shown, places, trace, found, min found 1⟩

end Echo

/-- The letters before the next one, each as its number and one. -/
structure Past where
  /-- The row so far, from its end. -/
  row : List Nat := []
  /-- The row before. -/
  before : List Nat := []
  /-- What the row before has next, word by word. -/
  next : List Nat := []
  /-- What the row before that has next. -/
  further : List Nat := []
  /-- Whether the word is the same as in the row before, so far. -/
  same : Bool := true
  recent : Nat := 0
  word : Nat := 0
  /-- How far the word has come. -/
  passed : Nat := 0
  /-- The word before. -/
  last : Nat := 0

namespace Past

def side (past : Past) : Nat := if past.same then 1 else 0

def situations (past : Past) (echo : Echo) : List Nat :=
  let first := past.next.headD 0
  let ahead := (first * 41 + past.next.getD 1 0) * 41
  let pair := past.recent % 1681
  let found := [pair, past.recent, past.word, (echo.next * 41 + past.recent % 41) * 16 + min echo.length 15,
    (ahead + past.further.headD 0) * 1681 + pair, ((ahead + past.next.getD 2 0) * 2 + past.side) * 8 + min past.passed 7,
    past.last * 41 + first, echo.next * 16 + min echo.length 15]
  found.zipIdx.map fun (s, kind) => s * 8 + kind

/-- Goes on in a row along with another one: a word ends in both together. -/
def along (c : Nat) (row : List Nat) : List Nat :=
  if c = 2 then (row.dropWhile (· ≠ 2)).tail else if 2 < row.headD 0 then row.tail else row

def push (past : Past) (c : Nat) : Past :=
  let recent := (past.recent * 41 + c) % 2825761
  if c = 1 then
    let row := (c :: past.row).reverse
    { before := row, next := row, further := past.before, recent }
  else
    { row := c :: past.row
      before := past.before
      next := along c past.next
      further := along c past.further
      same := if c = 2 then past.next.headD 0 = 2 else past.same && c = past.next.headD 0
      recent
      word := if c = 2 then 0 else (past.word * 41 + c) % 2147483647
      passed := if c = 2 then 0 else past.passed + 1
      last := if c = 2 then past.word else past.last }

end Past

/-- A condensed text as far as it has been read. -/
structure Reader where
  past : Past
  echo : Echo
  source : Source
  experience : Experience

namespace Reader

/-- At the start of a text. Its lines are of no account. -/
def start (text : String) : Reader :=
  ⟨{}, { places := Array.replicate Echo.size 0 }, Source.refill 1 0 (text.toList.filter (· ≠ '\n')),
    ⟨Array.replicate Experience.size (32768 * 16), Array.replicate 4096 12000⟩⟩

/-- The number of the next letter. -/
def next : Reader → Nat × Reader
  | ⟨past, echo, source, experience⟩ =>
    let (c, source, experience) :=
      letter (past.situations echo) (4 * past.side + min past.passed 3) 6 1 source experience
    (c, ⟨past.push (c + 1), echo.push (c + 1), source, experience⟩)

/-- The next letters, each before those in `read`. -/
def letters : (count : Nat) → Reader → (read : List Nat) → List Nat
  | 0, _, read => read
  | count + 1, reader, read =>
    let (c, reader) := reader.next
    letters count reader (c :: read)

end Reader

/-- The text of so many letters. -/
def text (count : Nat) (condensed : String) : String :=
  String.ofList (((Reader.start condensed).letters count []).reverse.map (letters.getD · ' '))

end Rebind.Text.Condensed
