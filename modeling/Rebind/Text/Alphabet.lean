import Rebind.Text.CharSet
/-!
Letters and numerals over the whole character set.
-/
namespace Rebind.Text

def letters : CharSet := .listed [65, 91, 97, 123, 170, 171, 181, 182, 186, 187, 192, 215, 216, 247, 248] 4

/-- Decimal digits, other digits and numerals, none of which is a letter. -/
def numerals : CharSet := .listed [48, 58, 178, 180, 185, 186, 188, 191] 7

def isLetter (c : Char) : Bool := letters.contains c

def isAlphanumeric (c : Char) : Bool := letters.contains c || numerals.contains c

end Rebind.Text
