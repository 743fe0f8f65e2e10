import Rebind.Number.Decimal
import Rebind.Strided.Printed
import Rebind.Text.Quoted
/-!
Plain data: what settings and diagnostic fields are filled with before they are checked.
-/
namespace Rebind

inductive Plain where
  | none
  | ellipsis
  | bool (value : Bool)
  | int (value : Int)
  | float (value : Float)
  | complex (re im : Float)
  | decimal (value : Number.Decimal)
  | fraction (value : Number.Fraction)
  | str (value : String)
  | bytes (value : List UInt8)
  /-- Bytes that can change. -/
  | byteArray (value : List UInt8)
  | list (items : List Plain)
  | tuple (items : List Plain)
  /-- A number of a fixed machine type, named by the type. -/
  | machine (type : String) (value : Plain)
  /-- Elements of one type, in a shape. -/
  | array (type : Strided.DType) (shape : Strided.Shape) (cells : List Plain) (writeable : Bool)
  /-- Something that is known by its text only, and the kind of thing it is. -/
  | named (shown kind : String)
deriving Inhabited

namespace Plain

def unbracketed (text : String) : String :=
  match text.toList with
  | '(' :: rest => String.ofList rest.dropLast
  | _ => text

def numeral : Plain → Number.Numeral
  | .bool b => .bool b
  | .int n => .int n
  | .float x => .float x
  | .complex re im => .complex re im
  | _ => .int 0

def isList : Plain → Bool
  | .list _ => true
  | _ => false

/-- The elements of an array as they stand in its text; objects are given by their own texts, and lists
marked as such. -/
def words (type : Strided.DType) (shape : Strided.Shape) (cells : List Plain) (texts : List String) :
    List String :=
  if type = .object then
    List.zipWith (fun cell text => if cell.isList then "list(" ++ text ++ ")" else text) cells texts
  else Strided.Printed.words type shape.isEmpty (cells.map numeral)

mutual

def render : Plain → String
  | .none => "None"
  | .ellipsis => "Ellipsis"
  | .bool b => if b then "True" else "False"
  | .int n => toString n
  | .float x => Number.floatText x
  | .complex re im => Number.complexText re im
  | .decimal d => "Decimal('" ++ d.text ++ "')"
  | .fraction q => "Fraction(" ++ toString q.num ++ ", " ++ toString q.den ++ ")"
  | .str s => Text.quoted s
  | .bytes b => Text.quotedBytes b
  | .byteArray b => Text.quotedByteArray b
  | .list items => "[" ++ ", ".intercalate (renderItems items) ++ "]"
  | .tuple [item] => "(" ++ item.render ++ ",)"
  | .tuple items => "(" ++ ", ".intercalate (renderItems items) ++ ")"
  | .machine _ (.bool b) => "np." ++ (if b then "True_" else "False_")
  | .machine "float32" (.float x) => "np.float32(" ++ Number.singleText x ++ ")"
  | .machine type value => "np." ++ type ++ "(" ++ unbracketed value.render ++ ")"
  | .array type shape cells _ =>
    Strided.Printed.full type shape (words type shape cells (renderItems cells))
  | .named shown _ => shown

def renderItems : List Plain → List String
  | [] => []
  | item :: rest => item.render :: renderItems rest

end

def text : Plain → String
  | .str s => s
  | .decimal d => d.text
  | .fraction q => if q.den = 1 then toString q.num else toString q.num ++ "/" ++ toString q.den
  | .machine _ value => value.render
  | .array type shape cells _ =>
    match shape, cells with
    | [], [.str s] => s
    | [], [.decimal d] => d.text
    | [], [cell] => cell.render
    | shape, cells => Strided.Printed.contents shape (words type shape cells (renderItems cells))
  | value => value.render

def isAmbiguous : Plain → Bool
  | .array _ shape _ _ => Strided.Shape.size shape ≠ 1
  | _ => false

def truthy : Plain → Bool
  | .none => false
  | .ellipsis => true
  | .bool b => b
  | .int n => n ≠ 0
  | .float x => x != 0
  | .complex re im => re != 0 || im != 0
  | .decimal d => !d.isZero
  | .fraction q => q.num ≠ 0
  | .str s => !s.isEmpty
  | .bytes b | .byteArray b => !b.isEmpty
  | .list items => !items.isEmpty
  | .tuple items => !items.isEmpty
  | .machine _ (.bool b) => b
  | .machine _ (.int n) => n ≠ 0
  | .machine _ (.float x) => x != 0
  | .machine _ (.complex re im) => re != 0 || im != 0
  | .machine _ _ => true
  | .array _ _ cells _ => go cells
  | .named _ _ => true
where
  go : List Plain → Bool
    | [cell] => cell.truthy
    | _ => false

def isOne : Plain → Bool
  | .bool b => b
  | .int n => n = 1
  | .float x => x == 1
  | .complex re im => re == 1 && im == 0
  | .decimal d =>
    match d.ratio? with
    | some (n, d) => n = d
    | Option.none => false
  | .fraction q => q.num = 1 && q.den = 1
  | .machine _ (.bool b) => b
  | .machine _ (.int n) => n = 1
  | .machine _ (.float x) => x == 1
  | .machine _ (.complex re im) => re == 1 && im == 0
  | .array _ _ cells _ => go cells
  | _ => false
where
  go : List Plain → Bool
    | [cell] => cell.isOne
    | _ => false

def ratio? : Plain → Option (Int × Nat)
  | .bool b => some (if b then 1 else 0, 1)
  | .int n => some (n, 1)
  | .float x | .machine _ (.float x) => floatRatio x
  | .complex re im | .machine _ (.complex re im) => if im == 0 then floatRatio re else Option.none
  | .decimal d => d.ratio?
  | .fraction q => some (q.num, q.den)
  | .machine _ (.bool b) => some (if b then 1 else 0, 1)
  | .machine _ (.int n) => some (n, 1)
  | _ => Option.none
where
  floatRatio (x : Float) : Option (Int × Nat) :=
    (Number.Binary64.ofBits? x.toBits).map fun b =>
      let (n, d) := b.ratio
      (if b.negative then -(n : Int) else n, d)

mutual

def sameKey : Plain → Plain → Bool
  | .none, .none => true
  | .ellipsis, .ellipsis => true
  | .str a, .str b => a == b
  | .bytes a, .bytes b => a == b
  | .tuple as, .tuple bs => sameKeys as bs
  | .named a _, .named b _ => a == b
  | a, b =>
    match a.ratio?, b.ratio? with
    | some (n, d), some (m, e) => n * e == m * d
    | _, _ => false
termination_by structural x => x

def sameKeys : List Plain → List Plain → Bool
  | [], [] => true
  | a :: as, b :: bs => sameKey a b && sameKeys as bs
  | _, _ => false
termination_by structural x => x

end

def hashable : Plain → Bool
  | .list _ | .byteArray _ | .array _ _ _ _ => false
  | .tuple items => go items
  | _ => true
where
  go : List Plain → Bool
    | [] => true
    | item :: rest => item.hashable && go rest

/-- Entries by key: a later entry takes the place of an earlier one. Nothing comes of a bad key. -/
def keyed (entries : List (Plain × α)) : Option (List (Plain × α)) :=
  if entries.all (·.1.hashable) then some (entries.foldl place []) else Option.none
where
  place (kept : List (Plain × α)) (entry : Plain × α) : List (Plain × α) :=
    if kept.any (fun other => sameKey other.1 entry.1) then
      kept.map fun other => if sameKey other.1 entry.1 then (other.1, entry.2) else other
    else kept ++ [entry]

def parts? : Plain → Option (List Plain)
  | .list items | .tuple items => some items
  | .str s => some (s.toList.map fun c => .str (String.singleton c))
  | .bytes b | .byteArray b => some (b.map fun x => .int x.toNat)
  | .array type (n :: shape) cells writeable =>
    some ((Strided.Printed.chunks (Strided.Shape.size shape) n cells).map fun part =>
      match shape, part with
      | [], [cell] => if type = .object then cell else .machine type.name cell
      | shape, part => .array type shape part writeable)
  | _ => Option.none

end Plain
end Rebind
