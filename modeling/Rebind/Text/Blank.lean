import Rebind.Text.CharSet
/-!
Blank characters, and texts that hold nothing else.
-/
namespace Rebind.Text

def blanks : CharSet where
  flips := [9, 14, 28, 33, 133, 134, 160, 161, 5760, 5761, 8192, 8203, 8232, 8234, 8239, 8240, 8287,
    8288, 12288, 12289]

def isBlankChar (c : Char) : Bool := blanks.contains c

def isBlank (s : String) : Bool := s.toList.all isBlankChar

end Rebind.Text
