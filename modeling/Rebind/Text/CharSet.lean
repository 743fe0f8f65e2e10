import Rebind.Text.Packed
import Rebind.Text.Tables
/-!
Sets of characters as the standard's tables give them: the rising list of code points at which
membership changes. A list of ranges is the same list read in pairs.
-/
namespace Rebind.Text

/-- A set of characters, by the code points at which membership flips, in rising order: the first of them, and those
that are worked out when they are needed. -/
structure CharSet where
  flips : List Nat
  further : Thunk (List Nat) := .pure []

namespace CharSet

/-- A set by its first flips and by how far each later one is from the one before. -/
def packed (first : List Nat) (gaps : String) : CharSet :=
  ⟨first, .mk fun _ => Packed.rising (first.getLastD 0) (Packed.numbers gaps)⟩

def listed (first : List Nat) (table : Nat) : CharSet :=
  ⟨first, .mk fun _ => Packed.rising (first.getLastD 0) (Tables.row table)⟩

/-- Walks the flips up to `code`, starting outside or inside, and goes on where they end. -/
def insideAt (code : Nat) (beyond : Bool → Bool) : Bool → List Nat → Bool
  | inside, [] => beyond inside
  | inside, flip :: rest => if code < flip then inside else insideAt code beyond (!inside) rest

def containsCode (set : CharSet) (code : Nat) : Bool :=
  insideAt code (insideAt code id · set.further.get) false set.flips

def contains (set : CharSet) (c : Char) : Bool := set.containsCode c.toNat

end CharSet
end Rebind.Text
