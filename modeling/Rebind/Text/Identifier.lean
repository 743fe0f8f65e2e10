import Rebind.Text.CharSet
/-!
Identifiers: a start character followed by continuing ones.
-/
namespace Rebind.Text

def identifierStarts : CharSet := .listed
  [65, 91, 95, 96, 97, 123, 170, 171, 181, 182, 186, 187, 192, 215, 216, 247, 248] 3

def identifierParts : CharSet := .listed
  [48, 58, 65, 91, 95, 96, 97, 123, 170, 171, 181, 182, 183, 184, 186, 187, 192, 215, 216, 247, 248] 5

def isIdentifierStart (c : Char) : Bool := identifierStarts.contains c

def isIdentifierPart (c : Char) : Bool := identifierParts.contains c

def isIdentifier (s : String) : Bool :=
  match s.toList with
  | [] => false
  | c :: rest => isIdentifierStart c && rest.all isIdentifierPart

end Rebind.Text
