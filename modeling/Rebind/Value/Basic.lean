import Rebind.Syntax.Scope
import Rebind.Update.Block
/-!
Values and the memory behind them. Numbers, texts and tuples are what they are. An array is a view of a
buffer: the buffer holds the cells, the view says where they lie, of what type they are and whether they
may be written. Whatever else can change is held in memory and known by its number.
-/
namespace Rebind

open Number Strided

/-- A window on a buffer. -/
structure View where
  buffer : Nat
  layout : Layout
  dtype : DType
  writeable : Bool
deriving DecidableEq, Repr, Inhabited

def View.shape (view : View) : Shape := view.layout.shape

def View.size (view : View) : Nat := view.layout.size

/-- Whether a value takes indexed writes. -/
inductive Capability where
  | canMutate
  | cannotMutate
deriving DecidableEq, Repr

def Capability.text : Capability → String
  | canMutate => "can_mutate"
  | cannotMutate => "cannot_mutate"

/-- Functions that work on every element of an array. -/
inductive UnaryUfunc where
  | negative | absolute | sqrt
deriving DecidableEq, Repr

inductive BinaryUfunc where
  | add | subtract | multiply | divide | maximum
deriving DecidableEq, Repr

/-- The functions that programs find under a name. -/
inductive Builtin where
  | abs | round | int | float | bool | max | min
  | square | add | half | step | clamp | positive | ident | seven | fail
  | mathSqrt | mathFloor | mathFabs
  | unary (function : UnaryUfunc)
  | binary (function : BinaryUfunc)
  | tick
  /-- Makes a function that puts its result into a list. -/
  | wrapResult
  /-- Gives a function new code, with its blocks replaced. -/
  | lowerFunction
  | loweredSource
  | vec | restructure | unflattenInto | copyOf | zeroOf | zeroValue | similarOf | broadcastCall
  | sharesMemory | arrayNumel | isArray | setindexTrait | supportsIndexedAssignment
  | matmulInto | axpyInto | scaledAddInto | ensureExtension | loadExtension | namespace_
  /-- One operation of the table, as a whole. -/
  | entry (op : Update.TableOp)
  /-- The choice between its two sides. -/
  | dispatch (op : Update.TableOp)
  | lookup
deriving DecidableEq, Repr

/-- Collections of names that programs find under one name. -/
inductive Module where
  | library
  | helpers
  | table
  | math
  | arrays
deriving DecidableEq, Repr

inductive Value where
  | null
  | ellipsis
  | num (value : Numeral)
  | decimal (value : Decimal)
  | fraction (value : Fraction)
  | str (value : Text.Wide)
  | bytes (value : List UInt8)
  | tuple (items : List Value)
  /-- A number of a fixed element type. -/
  | scalar (dtype : DType) (value : Numeral)
  | array (id : Nat) (view : View)
  /-- An array of another library; `foreign` ones claim to belong to a package with an extension. -/
  | box (id : Nat) (view : View) (foreign : Bool)
  | sparse (id : Nat)
  | list (id : Nat)
  | bytearray (id : Nat)
  | record (id : Nat)
  | memoryview (id : Nat) (of : Value) (readonly : Bool)
  /-- A registered view type; without a lock it has no say of its own. -/
  | wrapper (id : Nat) (of : Value) (locked : Option Bool)
  | capability (value : Capability)
  | builtin (function : Builtin)
  | module (name : Module)
  | function (id : Nat)
  | method (self : Value) (function : Nat)
  | classType (id : Nat)
  | errorType (kind : ErrorKind)
  | marker (policy : Policy)
  | policy (value : Policy)
  | slice (start stop step : Value)
  /-- A call that has not run yet. -/
  | pending (type : String)
  /-- A value without a number of its own, known by the place where it was made. -/
  | held (id : Nat) (value : Value)

instance : Inhabited Value := ⟨.null⟩

namespace Value

def bool (b : Bool) : Value := .num (.bool b)

def int (n : Int) : Value := .num (.int n)

def float (x : Float) : Value := .num (.float x)

def complex (re im : Float) : Value := .num (.complex re im)

/-- The value itself, wherever it was made. -/
def bare : Value → Value
  | .held _ v => v
  | v => v

/-- Whether equal values are made anew each time. Small numbers, short texts and the like are not. -/
def isMadeAnew : Value → Bool
  | .num (.bool _) => false
  | .num (.int n) => n < -5 || 256 < n
  | .num _ | .decimal _ | .fraction _ => true
  | .scalar d _ => d ≠ .bool
  | .str s =>
    match s.codes with
    | [] => false
    | [code] => 255 < code
    | _ => true
  | .bytes b => 1 < b.length
  | .tuple items => !items.isEmpty
  | _ => false

end Value

/-- One element of a buffer. -/
inductive Cell where
  | num (value : Numeral)
  | object (value : Value)

instance : Inhabited Cell := ⟨.num (.int 0)⟩

/-- The storage schemes of sparse matrices. -/
inductive SparseFormat where
  | bsr | coo | csc | csr | dia | dok | lil
deriving DecidableEq, Repr

/-- A sparse matrix by the contents it stands for: for each place, row by row, what is stored there. -/
structure Sparse where
  format : SparseFormat
  isMatrix : Bool
  dtype : DType
  shape : Shape
  entries : List (Option Cell)

/-- A sparse matrix as it lies in memory: the number of its store, and where in it each place is kept.
Matrices can have a store in common. -/
structure SparseObject where
  format : SparseFormat
  isMatrix : Bool
  dtype : DType
  shape : Shape
  store : Nat
  slots : List Nat

/-- What a function does: statements, the expression of a lambda, or another value that it calls, whose
result goes into a list. -/
inductive Body where
  | statements (body : List Syntax.Stmt)
  | expression (value : Syntax.Expr)
  | inList (callee : Value)

/-- A function as it was made. -/
structure Function where
  /-- Its names, which can be changed. -/
  name : String
  qualname : String
  /-- The name in its definition, and the names under which functions inside it are known. -/
  codeName : String
  path : String
  /-- The class in whose text it stands. -/
  owner : String := ""
  params : Syntax.Params
  body : Body
  isAsync : Bool
  defaults : List Value
  keywordDefaults : List (String × Value)
  /-- What its block does with names, and the names it takes from the functions around it. -/
  names : Syntax.Names
  captured : List String
  /-- The scope in which it was made. -/
  scope : Option Nat
  doc : Value := .null
  /-- The line on which its code starts. -/
  firstLine : Nat
  attrs : List (String × Value) := []

structure Class where
  name : String
  qualname : String
  attrs : List (String × Value)

/-- A class body shows its names only to itself; what runs apart from its module does the same. -/
inductive ScopeKind where
  | function
  | classBody
deriving DecidableEq, Repr

/-- The variables of one call or class body. -/
structure Scope where
  kind : ScopeKind
  /-- The names that can be bound here. -/
  names : List String
  /-- The names that are looked up in the module, whatever is around. -/
  globals : List String
  vars : List (String × Value)
  outer : Option Nat
  path : String
  /-- The class in whose text it stands. -/
  owner : String := ""

/-- What memory holds under a number. -/
inductive Object where
  /-- A number that only tells two values apart. -/
  | token
  | list (items : List Value)
  | bytes (content : List UInt8)
  | record (of : Option Nat) (attrs : List (String × Value))
  | sparse (content : SparseObject)
  | entries (content : Array (Option Cell))
  | function (content : Function)
  | classType (content : Class)
  | scope (content : Scope)

instance : Inhabited Object := ⟨.token⟩

structure Memory where
  buffers : Array (Array Cell) := #[]
  objects : Array Object := #[]
  /-- The byte arrays that others look into, which keep their length. -/
  watched : List Nat := []
  /-- The variables of the module, and the names that are there before it starts. -/
  globals : List (String × Value) := []
  prelude : List (String × Value) := []
  /-- The text of the module, if it can be had. -/
  text : Option String := none
  ticks : Nat := 0
  log : List Update.Event := []

/-- A computation that works on memory and may fail; what it did to memory stays done. -/
abbrev Run := ExceptT Fault (StateM Memory)

namespace Run

def fail (kind : ErrorKind) : Run α := throw (.ordinary kind)

def ofExcept : Except Fault α → Run α
  | .ok a => pure a
  | .error fault => throw fault

def allocate (object : Object) : Run Nat := do
  let memory ← get
  set { memory with objects := memory.objects.push object }
  return memory.objects.size

def freshId : Run Nat := allocate .token

/-- Marks a value with the place where it was made, if that tells it from others. -/
def hold (v : Value) : Run Value := do
  if v.isMadeAnew then return .held (← freshId) v else return v

def object (id : Nat) : Run Object := do return (← get).objects.getD id .token

def store (id : Nat) (object : Object) : Run Unit :=
  modify fun memory => { memory with objects := memory.objects.setIfInBounds id object }

def listItems (id : Nat) : Run (List Value) := do
  match ← object id with
  | .list items => return items
  | _ => return []

def newList (items : List Value) : Run Value := do return .list (← allocate (.list items))

def byteContent (id : Nat) : Run (List UInt8) := do
  match ← object id with
  | .bytes content => return content
  | _ => return []

def watch (id : Nat) : Run Unit :=
  modify fun memory => { memory with watched := id :: memory.watched }

/-- Gives a byte array new content, of the same length if others look into it. -/
def resize (id : Nat) (content : List UInt8) : Run Unit := do
  if content.length ≠ (← byteContent id).length && (← get).watched.contains id then fail .buffer
  store id (.bytes content)

def entries (id : Nat) : Run (Array (Option Cell)) := do
  match ← object id with
  | .entries content => return content
  | _ => return #[]

def sparseObject (id : Nat) : Run SparseObject := do
  match ← object id with
  | .sparse content => return content
  | _ => return ⟨.csr, false, .float64, [], 0, []⟩

def sparseContent (id : Nat) : Run Sparse := do
  let s ← sparseObject id
  let held ← entries s.store
  return ⟨s.format, s.isMatrix, s.dtype, s.shape, s.slots.map fun slot => held.getD slot none⟩

/-- A store for entries, and where they are in it. -/
def newStore (content : List (Option Cell)) : Run (Nat × List Nat) := do
  return (← allocate (.entries content.toArray), List.range content.length)

def newSparse (s : Sparse) : Run Value := do
  let (place, slots) ← newStore s.entries
  return .sparse (← allocate (.sparse ⟨s.format, s.isMatrix, s.dtype, s.shape, place, slots⟩))

/-- Changes the entries of a matrix in its store, where others see it. -/
def writeEntries (id : Nat) (content : List (Option Cell)) : Run Unit := do
  let s ← sparseObject id
  let held := (s.slots.zip content).foldl (fun held (slot, entry) => held.setIfInBounds slot entry)
    (← entries s.store)
  store s.store (.entries held)

def replaceEntries (id : Nat) (content : List (Option Cell)) : Run Unit := do
  let s ← sparseObject id
  let (place, slots) ← newStore content
  store id (.sparse { s with store := place, slots := slots })

/-! ### Buffers -/

def buffer (id : Nat) : Run (Array Cell) := do return (← get).buffers.getD id #[]

/-- The cells of a view, in order. -/
def read (view : View) : Run (List Cell) := do
  let cells ← buffer view.buffer
  return view.layout.addresses.map fun place => cells.getD place.toNat default

def writeCell (buffer : Nat) (place : Int) (cell : Cell) : Run Unit :=
  modify fun memory =>
    { memory with buffers := memory.buffers.modify buffer fun cells => cells.setIfInBounds place.toNat cell }

/-- Puts cells at the places of a view, in order. -/
def write (view : View) (cells : List Cell) : Run Unit :=
  (view.layout.addresses.zip cells).forM fun (place, cell) => writeCell view.buffer place cell

def newView (dtype : DType) (layout : Layout) (cells : List Cell) : Run View := do
  let memory ← get
  let filled := Array.replicate layout.size (default : Cell)
  set { memory with buffers := memory.buffers.push filled }
  let view : View := ⟨memory.buffers.size, layout, dtype, true⟩
  write view cells
  return view

def newArray (dtype : DType) (layout : Layout) (cells : List Cell) : Run Value := do
  let view ← newView dtype layout cells
  return .array (← freshId) view

def arrayOf (view : View) : Run Value := do return .array (← freshId) view

def boxOf (view : View) (foreign : Bool) : Run Value := do return .box (← freshId) view foreign

end Run
end Rebind
