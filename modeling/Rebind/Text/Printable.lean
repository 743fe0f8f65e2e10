import Rebind.Text.CharSet
/-!
Characters that stand for themselves in quoted text: everything but controls, formats, surrogates,
private and unassigned code points, and separators other than the blank.
-/
namespace Rebind.Text

def printables : CharSet := .listed [32, 127, 161, 173, 174] 6

def isPrintable (code : Nat) : Bool := printables.containsCode code

end Rebind.Text
