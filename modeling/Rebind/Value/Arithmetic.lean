import Rebind.Strided.Cast
import Rebind.Value.Basic
/-!
Arithmetic and comparison of values that are no arrays: numbers of all kinds with each other, texts and
sequences joined and repeated. This is also what an array of objects does with each element.
-/
namespace Rebind

open Number Strided Syntax Run

attribute [local instance (high)] instPowNat

namespace Fault

def ofNum : NumError → Fault
  | .overflow => .ordinary .overflow
  | .zeroDivision => .ordinary .zeroDivision
  | .unsupported => .ordinary .type

def ofDecimal : DecimalError → Fault
  | .divisionByZero => .ordinary .zeroDivision
  | .invalid | .overflow => .ordinary .arithmetic

end Fault

/-- The numbers of all kinds that are no array elements. -/
inductive Numeric where
  | num (value : Numeral)
  | decimal (value : Decimal)
  | fraction (value : Fraction)

namespace Numeric

def ofValue? : Value → Option Numeric
  | .num x => some (.num x)
  | .decimal d => some (.decimal d)
  | .fraction q => some (.fraction q)
  | _ => none

def value : Numeric → Value
  | num x => .num x
  | decimal d => .decimal d
  | fraction q => .fraction q

def typeFault : Fault := .ordinary .type

def numOp (op : BinaryOp) (x y : Numeral) : Except Fault Numeric :=
  let result :=
    match op with
    | .add => some (x.add y)
    | .sub => some (x.sub y)
    | .mult => some (x.mul y)
    | .div => some (x.div y)
    | _ => none
  match result with
  | some (.ok z) => .ok (.num z)
  | some (.error e) => .error (.ofNum e)
  | none => .error typeFault

def decimalOp (op : BinaryOp) (x y : Decimal) : Except Fault Numeric :=
  let result :=
    match op with
    | .add => some (x.add y)
    | .sub => some (x.sub y)
    | .mult => some (x.mul y)
    | .div => some (x.div y)
    | _ => none
  match result with
  | some (.ok z) => .ok (.decimal z)
  | some (.error e) => .error (.ofDecimal e)
  | none => .error typeFault

def fractionOp (op : BinaryOp) (x y : Fraction) : Except Fault Numeric :=
  match op with
  | .add => .ok (.fraction (x.add y))
  | .sub => .ok (.fraction (x.sub y))
  | .mult => .ok (.fraction (x.mul y))
  | .div =>
    match x.div? y with
    | some z => .ok (.fraction z)
    | none => .error (.ordinary .zeroDivision)
  | _ => .error typeFault

def fractionFloat (q : Fraction) : Except Fault Numeral :=
  let x := q.toFloat
  if x.isInf then .error (.ordinary .overflow) else .ok (.float x)

/-- Decimals meet only integers and each other; a fraction meets a double as a double. -/
def binary (op : BinaryOp) (x y : Numeric) : Except Fault Numeric :=
  match x, y with
  | .num a, .num b => numOp op a b
  | .decimal a, .decimal b => decimalOp op a b
  | .fraction a, .fraction b => fractionOp op a b
  | .decimal a, .num b =>
    match b.toInt? with
    | some n => decimalOp op a (.ofInt n)
    | none => .error typeFault
  | .num a, .decimal b =>
    match a.toInt? with
    | some n => decimalOp op (.ofInt n) b
    | none => .error typeFault
  | .fraction a, .num b =>
    match b.toInt? with
    | some n => fractionOp op a (.ofInt n)
    | none => do numOp op (← fractionFloat a) b
  | .num a, .fraction b =>
    match a.toInt? with
    | some n => fractionOp op (.ofInt n) b
    | none => do numOp op a (← fractionFloat b)
  | .decimal _, .fraction _ | .fraction _, .decimal _ => .error typeFault

def neg : Numeric → Except Fault Numeric
  | num x => .ok (.num x.neg)
  | decimal d =>
    match d.neg with
    | .ok d => .ok (.decimal d)
    | .error e => .error (.ofDecimal e)
  | fraction q => .ok (.fraction q.neg)

def abs : Numeric → Except Fault Numeric
  | num x =>
    match x.abs with
    | .ok x => .ok (.num x)
    | .error e => .error (.ofNum e)
  | decimal d =>
    match d.abs with
    | .ok d => .ok (.decimal d)
    | .error e => .error (.ofDecimal e)
  | fraction q => .ok (.fraction q.abs)

def isZero : Numeric → Bool
  | num x => x.isZero
  | decimal d => d.isZero
  | fraction q => q.num = 0

def ratio? : Numeric → Option (Int × Nat)
  | num x => x.ratio?
  | decimal d => d.ratio?
  | fraction q => some (q.num, q.den)

def isNaN : Numeric → Bool
  | num (.float x) => x.isNaN
  | decimal d => d.isNaN
  | _ => false

def isSignalling : Numeric → Bool
  | decimal (.nan _ signals _) => signals
  | _ => false

def isDecimal : Numeric → Bool
  | decimal _ => true
  | _ => false

def side : Numeric → Int
  | num (.float x) => if x.isInf then (if x < 0 then -1 else 1) else 0
  | decimal (.infinite negative) => if negative then -1 else 1
  | _ => 0

/-- Real numbers compare by their exact values. Nothing compares with what is no number. -/
def compare? (x y : Numeric) : Option Ordering :=
  match x.ratio?, y.ratio? with
  | some (a, b), some (c, d) => some (compare (a * d) (c * b))
  | _, _ => if x.isNaN || y.isNaN then none else some (compare x.side y.side)

def isComplex : Numeric → Bool
  | num x => x.isComplex
  | _ => false

def eq (x y : Numeric) : Bool :=
  match x, y with
  | .num (.complex a b), .num (.complex c d) => a == c && b == d
  | .num (.complex a b), y => b == 0 && compare? (.num (.float a)) y == some .eq
  | x, .num (.complex c d) => d == 0 && compare? x (.num (.float c)) == some .eq
  | x, y => compare? x y == some .eq

def equal (x y : Numeric) : Except Fault Bool :=
  let isApart := match x, y with
    | .num (.complex _ im), _ | _, .num (.complex _ im) => im != 0
    | _, _ => false
  if (x.isSignalling || y.isSignalling) && !isApart then .error (.ordinary .arithmetic) else .ok (x.eq y)

def holds (op : CompareOp) (found : Option Ordering) : Bool :=
  match op with
  | .eq => found == some .eq
  | .notEq => found != some .eq
  | .less => found == some .lt
  | .lessEq => found == some .lt || found == some .eq
  | .greater => found == some .gt
  | .greaterEq => found == some .gt || found == some .eq
  | _ => false

/-- The four orders; complex numbers have none, and decimals refuse what is no number. -/
def order (op : CompareOp) (x y : Numeric) : Except Fault Bool :=
  if x.isComplex || y.isComplex then .error typeFault
  else if (x.isDecimal || y.isDecimal) && (x.isNaN || y.isNaN) then .error (.ordinary .arithmetic)
  else .ok (holds op (compare? x y))

def toInt : Numeric → Except Fault Int
  | num (.bool b) => .ok (Numeral.boolInt b)
  | num (.int n) => .ok n
  | num (.float x) =>
    match Numeral.floatRatio? x with
    | some (n, d) => .ok (n.tdiv d)
    | none => .error (.ordinary (if x.isNaN then .value else .overflow))
  | num (.complex _ _) => .error typeFault
  | decimal d =>
    match d with
    | .nan _ _ _ => .error (.ordinary .value)
    | .infinite _ => .error (.ordinary .overflow)
    | d =>
      match d.ratio? with
      | some (n, m) => .ok (n.tdiv m)
      | none => .error (.ordinary .value)
  | fraction q => .ok q.trunc

def toFloat : Numeric → Except Fault Float
  | num x =>
    match x.toFloat with
    | .ok x => .ok x
    | .error e => .error (.ofNum e)
  | decimal (.nan _ true _) => .error (.ordinary .value)
  | decimal d => .ok d.toFloat
  | fraction q =>
    let x := q.toFloat
    if x.isInf then .error (.ordinary .overflow) else .ok x

def toComplex : Numeric → Except Fault (Float × Float)
  | num (.complex re im) => .ok (re, im)
  | x => x.toFloat.map fun re => (re, 0.0)

end Numeric

namespace Value

/-! ### Sequences -/

def repeatList (n : Int) (items : List α) : List α := (List.replicate n.toNat items).flatten

def times? : Value → Option Int
  | .num x => x.toInt?
  | .scalar dtype (.int n) => if dtype.kind = .integer then some n else none
  | _ => none

def lowBytes (count : Nat) (n : Int) : List UInt8 :=
  (List.range count).map fun i => UInt8.ofNat ((n / (256 ^ i : Nat)) % 256).toNat

def realBytes (bits : Nat) (x : Float) : List UInt8 :=
  if bits ≤ 32 then lowBytes 4 x.toFloat32.toBits.toNat else lowBytes 8 x.toBits.toNat

def numberBytes (d : DType) : Numeral → List UInt8
  | .bool b => [if b then 1 else 0]
  | .int n => lowBytes (d.bits / 8) n
  | .float x => realBytes d.bits x
  | .complex re im => realBytes d.bits re ++ realBytes d.bits im

def rawBytes? (v : Value) : Run (Option (List UInt8)) := do
  match v with
  | .bytes b | .memoryview _ (.bytes b) _ => return some b
  | .bytearray id | .memoryview _ (.bytearray id) _ => return some (← byteContent id)
  | .memoryview _ (.array _ view) _ =>
    if view.dtype = .object || !view.layout.isRowMajor then return none
    else
      return some ((← read view).flatMap fun
        | .num x => numberBytes view.dtype x
        | .object _ => [])
  | _ => return none

/-- Joins two sequences of one kind. To bytes, all that shows bytes can be added. -/
def concat (a b : Value) : Run Value := do
  match a, b with
  | .str s, .str t => return .str (s ++ t)
  | .bytes s, b =>
    match ← rawBytes? b with
    | some t => return .bytes (s ++ t)
    | none => fail .type
  | .bytearray s, b =>
    match ← rawBytes? b with
    | some t => return .bytearray (← Run.allocate (.bytes ((← byteContent s) ++ t)))
    | none => fail .type
  | .tuple s, .tuple t => return .tuple (s ++ t)
  | .list s, .list t => newList ((← listItems s) ++ (← listItems t))
  | _, _ => fail .type

def repeated (n : Int) : Value → Run Value
  | .str s => return .str ⟨repeatList n s.codes⟩
  | .bytes s => return .bytes (repeatList n s)
  | .bytearray s => do return .bytearray (← Run.allocate (.bytes (repeatList n (← byteContent s))))
  | .tuple s => return .tuple (repeatList n s)
  | .list s => do newList (repeatList n (← listItems s))
  | _ => fail .type

def isSequence : Value → Bool
  | .str _ | .bytes _ | .bytearray _ | .tuple _ | .list _ => true
  | _ => false

def plainBinary (op : BinaryOp) (a b : Value) : Run Value := do
  match Numeric.ofValue? a, Numeric.ofValue? b with
  | some x, some y => return (← Run.ofExcept (Numeric.binary op x y)).value
  | _, _ =>
    match op with
    | .add => concat a b
    | .mult =>
      if a.isSequence then
        match b.times? with
        | some n => repeated n a
        | none => Run.fail .type
      else if b.isSequence then
        match a.times? with
        | some n => repeated n b
        | none => Run.fail .type
      else Run.fail .type
    | _ => Run.fail .type

def plainNeg (a : Value) : Run Value := do
  match Numeric.ofValue? a with
  | some x => return (← Run.ofExcept x.neg).value
  | none => Run.fail .type

def plainAbs (a : Value) : Run Value := do
  match Numeric.ofValue? a with
  | some x => return (← Run.ofExcept x.abs).value
  | none => Run.fail .type

/-! ### Identity and equality -/

def identity? : Value → Option Nat
  | .array id _ | .box id _ _ | .sparse id | .list id | .bytearray id | .record id
  | .memoryview id _ _ | .wrapper id _ _ | .function id | .classType id => some id
  | _ => none

mutual

/-- Whether two values are one and the same. Values without a number of their own are the same if they
are equal in every part. -/
def isSame : Value → Value → Bool
  | .null, .null => true
  | .ellipsis, .ellipsis => true
  | .num a, .num b => sameNum a b
  | .decimal a, .decimal b => a.text == b.text
  | .fraction a, .fraction b => a == b
  | .str a, .str b => a == b
  | .bytes a, .bytes b => a == b
  | .tuple as, .tuple bs => areSame as bs
  | .scalar d a, .scalar e b => d == e && sameNum a b
  | .capability a, .capability b => a == b
  | .builtin a, .builtin b => a == b
  | .module a, .module b => a == b
  | .errorType a, .errorType b => a == b
  | .held i _, .held j _ => i == j
  | a, b =>
    match a.identity?, b.identity? with
    | some i, some j => i == j
    | _, _ => false
termination_by structural x => x

def areSame : List Value → List Value → Bool
  | [], [] => true
  | a :: as, b :: bs => isSame a b && areSame as bs
  | _, _ => false
termination_by structural x => x

def sameNum : Numeral → Numeral → Bool
  | .bool a, .bool b => a == b
  | .int a, .int b => a == b
  | .float a, .float b => a.toBits == b.toBits
  | .complex a b, .complex c d => a.toBits == c.toBits && b.toBits == d.toBits
  | _, _ => false

end

/-- A number with its element type, if the value is one or a plain number. -/
def typed? : Value → Option Typed
  | .num (.bool b) => some ⟨.bool b, some .bool⟩
  | .num x => some ⟨x, none⟩
  | .scalar d x => some ⟨x, some d⟩
  | _ => none

def isElement : Value → Bool
  | .scalar _ _ => true
  | _ => false

/-- How two numbers compare of which at least one has an element type. -/
def elementCompare? (a b : Value) : Option (Except Fault (Option Ordering)) :=
  match a.typed?, b.typed? with
  | some x, some y =>
    if a.isElement || b.isElement then
      some (match x.compare? y with
        | .ok found => .ok found
        | .error e => .error (.ofNum e))
    else none
  | _, _ => none

/-- The parts by which a value is compared with others of its kind. -/
inductive Parts where
  | text (codes : List Nat)
  | bytes (content : List UInt8)
  | list (items : List Value)
  | tuple (items : List Value)

def comparedParts? (v : Value) : Run (Option Parts) := do
  match v with
  | .str s => return some (.text s.codes)
  | .bytes b => return some (.bytes b)
  | .bytearray id => return some (.bytes (← byteContent id))
  | .list id => return some (.list (← listItems id))
  | .tuple items => return some (.tuple items)
  | _ => return none

def ofCell : Cell → Value
  | .num x => .num x
  | .object v => v

def element (d : DType) : Cell → Value
  | .num x => if d = .object then .num x else .scalar d x
  | .object v => v

def isIdentical : Value → Value → Bool
  | .held i _, .held j _ => i == j
  | a, b => a.identity?.isSome && isSame a b

mutual

/-- Equality of values; sequences are compared to the given depth. What is no number differs from itself.
Of an array only its single element can be equal or not. -/
def plainEq : (depth : Nat) → Value → Value → Run Bool
  | 0, a, b => return isSame a b
  | depth + 1, a, b => do
    let a := a.bare
    let b := b.bare
    match Numeric.ofValue? a, Numeric.ofValue? b with
    | some x, some y => Run.ofExcept (x.equal y)
    | _, _ =>
      match elementCompare? a b with
      | some found => return (← Run.ofExcept found) == some .eq
      | none =>
        match a, b with
        | .array i view, b =>
          if b.identity? = some i then return true
          match ← Run.read view with
          | [cell] => plainEq depth (element view.dtype cell) b
          | _ => Run.fail .value
        | a, .array _ view =>
          match ← Run.read view with
          | [cell] => plainEq depth a (element view.dtype cell)
          | _ => Run.fail .value
        | a, b =>
          match ← comparedParts? a, ← comparedParts? b with
          | some (.text s), some (.text t) => return s == t
          | some (.bytes s), some (.bytes t) => return s == t
          | some (.list s), some (.list t) => allEq depth s t
          | some (.tuple s), some (.tuple t) => allEq depth s t
          | _, _ => return isSame a b
termination_by structural depth => depth

/-- Whether sequences agree part by part; a part agrees with itself, whatever it is. -/
def allEq : (depth : Nat) → List Value → List Value → Run Bool
  | 0, as, bs => return areSame as bs
  | depth + 1, as, bs => do
    if as.length ≠ bs.length then return false
    (as.zip bs).allM fun (a, b) => do
      if isIdentical a b then return true else plainEq depth a b
termination_by structural depth => depth

end

def nestingLimit : Nat := 64

def firstDifference? : List (Value × Value) → Run (Option (Value × Value))
  | [] => return none
  | (a, b) :: rest => do
    if isIdentical a b then firstDifference? rest
    else if ← plainEq nestingLimit a b then firstDifference? rest
    else return some (a, b)

/-- Order of numbers, of texts and bytes, and of sequences by the first parts that differ. -/
def plainOrder (op : CompareOp) : (depth : Nat) → Value → Value → Run Bool
  | 0, _, _ => Run.fail .type
  | depth + 1, a, b => do
    let a := a.bare
    let b := b.bare
    match Numeric.ofValue? a, Numeric.ofValue? b with
    | some x, some y => Run.ofExcept (Numeric.order op x y)
    | _, _ =>
      match elementCompare? a b with
      | some found => return Numeric.holds op (← Run.ofExcept found)
      | none =>
        let byParts (as bs : List Value) : Run Bool := do
          match ← firstDifference? (as.zip bs) with
          | some (x, y) => plainOrder op depth x y
          | none => return Numeric.holds op (some (Ord.compare as.length bs.length))
        match ← comparedParts? a, ← comparedParts? b with
        | some (.text s), some (.text t) => return Numeric.holds op (some (Ord.compare s t))
        | some (.bytes s), some (.bytes t) =>
          return Numeric.holds op (some (Ord.compare (s.map UInt8.toNat) (t.map UInt8.toNat)))
        | some (.list s), some (.list t) => byParts s t
        | some (.tuple s), some (.tuple t) => byParts s t
        | _, _ => Run.fail .type
termination_by structural depth => depth

def plainCompare (op : CompareOp) (a b : Value) : Run Bool := do
  match op with
  | .eq => plainEq nestingLimit a b
  | .notEq => return !(← plainEq nestingLimit a b)
  | .is => return isSame a b
  | .isNot => return !isSame a b
  | .less | .lessEq | .greater | .greaterEq => plainOrder op nestingLimit a b
  | _ => fail .type

end Value
end Rebind
