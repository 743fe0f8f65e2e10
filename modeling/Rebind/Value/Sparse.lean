import Rebind.Value.Dense
/-!
Sparse matrices. Functions of single numbers see only what is stored, which may be zero too. The storage
scheme says how results are stored, which matrices can be written to, and whether a write shows in other
matrices with the same store.
-/
namespace Rebind

open Number Strided Syntax Run Layout

namespace SparseFormat

def name : SparseFormat → String
  | bsr => "bsr"
  | coo => "coo"
  | csc => "csc"
  | csr => "csr"
  | dia => "dia"
  | dok => "dok"
  | lil => "lil"

def all : List SparseFormat := [bsr, coo, csc, csr, dia, dok, lil]

def ofName? (name : String) : Option SparseFormat := all.find? (·.name == name)

def isWritable : SparseFormat → Bool
  | csr | csc | lil | dok => true
  | _ => false

def computed : SparseFormat → SparseFormat
  | csc => csc
  | bsr => bsr
  | _ => csr

/-- Whether the stored numbers stand in one array, so that functions of single numbers keep the scheme. -/
def isFlat : SparseFormat → Bool
  | dok | lil => false
  | _ => true

def mapped (format : SparseFormat) : SparseFormat := if format.isFlat then format else csr

def transposed : SparseFormat → SparseFormat
  | csr => csc
  | csc => csr
  | format => format

end SparseFormat

namespace Value

def isScalarLike : Value → Bool
  | .num _ | .scalar _ _ | .decimal _ | .fraction _ | .str _ | .bytes _ | .memoryview _ _ _ => true
  | .array _ view => view.shape = []
  | _ => false

def isNothing (v : Value) : Run Bool := do
  match v with
  | .num x | .scalar _ x => return x.isZero
  | .array _ view =>
    match ← read view with
    | [.num x] => return x.isZero
    | [.object v] => return ((Numeric.ofValue? v).map (·.isZero)).getD false
    | _ => return false
  | v => return ((Numeric.ofValue? v).map (·.isZero)).getD false

/-- A value as an array to combine with a sparse matrix. What is no array and has no parts is refused. -/
def denseOperand (v : Value) : Run Operand := do
  if v.refusesElementwise then fail .type
  let given ← operand v
  if given.shape = [] && given.dtype = .object then fail .type
  return given

end Value

namespace Sparse

open Value Run Layout

/-! ### Contents -/

def isNonzero : Cell → Bool
  | .num x => !x.isZero
  | .object _ => true

def unsignedZero : Numeral → Numeral
  | .float x => .float (x + 0.0)
  | .complex re im => .complex (re + 0.0) (im + 0.0)
  | x => x

/-- The number at a place. Rows of lists show a stored zero with its sign; elsewhere all that is stored at a
place is summed up. -/
def cellAt (s : Sparse) : Option Cell → Cell
  | some cell =>
    let x := s.dtype.cast (numOf cell)
    .num (if s.format = .lil then x else unsignedZero x)
  | none => .num s.dtype.zero

def cells (s : Sparse) : List Cell := s.entries.map s.cellAt

/-- The diagonals, by their distance from the main one, that hold something. -/
def diagonals (columns : Nat) (cells : List Cell) : List Int :=
  cells.zipIdx.filterMap fun (cell, place) =>
    if isNonzero cell then some ((place % columns : Nat) - (place / columns : Nat) : Int) else none

/-- A matrix of given contents. What is not zero is stored, and with it, by diagonals, all of its
diagonal. -/
def ofCells (format : SparseFormat) (isMatrix : Bool) (d : DType) (shape : Shape) (cells : List Cell) :
    Sparse :=
  let columns := shape.getLastD 1
  let stored : List Int := if format = .dia then diagonals columns cells else []
  let isKept (cell : Cell) (place : Nat) : Bool :=
    isNonzero cell || stored.contains ((place % columns : Nat) - (place / columns : Nat) : Int)
  ⟨format, isMatrix, d, shape, cells.zipIdx.map fun (cell, place) =>
    if isKept cell place then some cell else none⟩

def denseLayout (s : Sparse) : Layout :=
  if s.format = .csc then columnMajor s.shape else rowMajor s.shape

def operand (s : Sparse) : Operand :=
  { dtype := s.dtype, layout := s.denseLayout, cells := s.cells }

def data (s : Sparse) : Operand :=
  let cells := (s.entries.filterMap id).map fun cell => Cell.num (s.dtype.cast (numOf cell))
  { dtype := s.dtype, layout := rowMajor [cells.length], cells }

def scatter : (pattern : List (Option Cell)) → (data : List Cell) → List (Option Cell)
  | [], _ => []
  | none :: pattern, data => none :: scatter pattern data
  | some _ :: pattern, [] => none :: scatter pattern []
  | some _ :: pattern, cell :: data => some cell :: scatter pattern data

def withData (s : Sparse) (d : DType) (data : List Cell) : Sparse :=
  { s with dtype := d, entries := scatter s.entries data }

def stretched (s : Sparse) (shape : Shape) : Sparse :=
  let entries := s.entries.toArray
  match (rowMajor s.shape).broadcastTo? shape with
  | some layout =>
    { s with
      shape := shape
      entries := layout.addresses.map fun place => entries.getD place.toNat none }
  | none => { s with shape := shape, entries := [] }

def inFormat (s : Sparse) (format : SparseFormat) : Sparse := { s with format := format }

def castTo (s : Sparse) (d : DType) : Sparse :=
  { s with dtype := d, entries := s.entries.map (·.map fun cell => .num (d.cast (numOf cell))) }

/-- A new matrix. Objects and numbers of half width cannot be stored. -/
def allocate (s : Sparse) : Run Value :=
  if s.dtype = .object || s.dtype = .float16 then fail .value else newSparse s

def toArray (s : Sparse) : Run Value :=
  newArray s.dtype s.denseLayout s.cells

def turned (shape : Shape) (content : List α) (default : α) : List α :=
  let content := content.toArray
  (rowMajor shape).transpose.addresses.map fun place => content.getD place.toNat default

/-- A matrix with rows and columns exchanged. Where the stored numbers stand in one array, both have it in
common. -/
def transposed (id : Nat) : Run Value := do
  let s ← sparseObject id
  let shape := s.shape.reverse
  let format := s.format.transposed
  match s.format with
  | .csr | .csc | .coo =>
    return .sparse (← Run.allocate (.sparse
      { s with format := format, shape := shape, slots := turned s.shape s.slots 0 }))
  | _ =>
    let s ← sparseContent id
    newSparse { s with format := format, shape := shape, entries := turned s.shape s.entries none }

def sharing (id : Nat) : Run Value := do
  return .sparse (← Run.allocate (.sparse (← sparseObject id)))

def typeName (s : Sparse) : String := s.format.name ++ (if s.isMatrix then "_matrix" else "_array")

def truth (s : Sparse) : Run Bool :=
  if s.shape = [1, 1] then return s.entries.any (·.isSome) else fail .value

/-! ### Writing -/

def entriesFrom (s given : Sparse) : Run (List (Option Cell)) := do
  if given.shape.length ≠ s.shape.length then fail .value
  match given.operand.layout.broadcastTo? s.shape with
  | some _ => return ((given.stretched s.shape).castTo s.dtype).entries
  | none => fail .value

def converted (d : DType) (v : Value) : Run Operand := do
  match v with
  | .box _ _ _ => fail .value
  | .array _ _ | .bytearray _ | .memoryview _ _ _ =>
    let given ← Value.operand v
    return { given with dtype := d, cells := ← given.cells.mapM (castCell d) }
  | v =>
    let (shape, leaves) ← unnest nestingLimit v
    return { dtype := d, layout := rowMajor shape, cells := ← leaves.mapM (cellFor d) }

/-- The cells that a value gives to all places. Axes of length one are of no account if the others agree. -/
def cellsOf (s : Sparse) (v : Value) : Run (List Cell) := do
  let given ← converted s.dtype v
  let squeezed (shape : Shape) : Shape := shape.filter (· ≠ 1)
  if squeezed given.shape = squeezed s.shape then return given.cells
  match given.layout.broadcastTo? s.shape with
  | some _ => return given.spread s.shape
  | none => fail .value

def nonzero (entries : List (Option Cell)) : List (Option Cell) := entries.map (·.filter isNonzero)

/-- Writes into all places. In compressed rows or columns the numbers that are stored already are
overwritten where they are, with zero if nothing else is given, and only for new ones a store is needed. -/
def write (id : Nat) (given : List (Option Cell)) : Run Unit := do
  let s ← sparseContent id
  match s.format with
  | .csr | .csc =>
    let settled := List.zipWith (fun (old new : Option Cell) => old.map fun _ => new.getD (.num s.dtype.zero))
      s.entries given
    writeEntries id settled
    if (s.entries.zip given).any fun (old, new) => old.isNone && new.isSome then
      replaceEntries id (List.zipWith (fun (old new : Option Cell) => old.or new) settled given)
  | .lil | .dok => writeEntries id (nonzero given)
  | _ => replaceEntries id (nonzero given)

def assign (id : Nat) (v : Value) : Run Unit := do
  let s ← sparseContent id
  match s.format, v with
  | .dia, _ => fail .type
  | .bsr, _ => fail .notImplemented
  | _, .sparse other => do write id (← s.entriesFrom (← sparseContent other))
  | _, v => do write id ((← s.cellsOf v).map some)

end Sparse
end Rebind
