import Rebind.Text.Printable
import Rebind.Text.Wide
/-!
Quoted spellings of texts and byte strings. Single quotes are used unless the text holds one and no
double quote; what does not print is escaped by its code.
-/
namespace Rebind.Text

def hexDigits : (width : Nat) → Nat → List Char
  | 0, _ => []
  | width + 1, n => hexDigits width (n / 16) ++ [Nat.digitChar (n % 16)]

def quoteFor (codes : List Nat) : Char :=
  if codes.contains '\''.toNat && !codes.contains '"'.toNat then '"' else '\''

def escapeCode (code : Nat) : List Char :=
  if code < 0x100 then '\\' :: 'x' :: hexDigits 2 code
  else if code < 0x10000 then '\\' :: 'u' :: hexDigits 4 code
  else '\\' :: 'U' :: hexDigits 8 code

def escapePoint (quote : Char) (code : Nat) : List Char :=
  let c := Char.ofNat code
  if code = quote.toNat ∨ code = '\\'.toNat then ['\\', c]
  else if code = '\n'.toNat then ['\\', 'n']
  else if code = '\t'.toNat then ['\\', 't']
  else if code = '\r'.toNat then ['\\', 'r']
  else if isPrintable code then [c]
  else escapeCode code

def Wide.quotedChars (s : Wide) : List Char :=
  let quote := quoteFor s.codes
  quote :: s.codes.flatMap (escapePoint quote) ++ [quote]

def Wide.quoted (s : Wide) : String := String.ofList s.quotedChars

def quoted (s : String) : String := (Wide.ofString s).quoted

def escapeByte (quote : Char) (b : UInt8) : List Char :=
  if 0x80 ≤ b.toNat then escapeCode b.toNat else escapePoint quote b.toNat

def quotedBytes (bytes : List UInt8) : String :=
  let quote := quoteFor (bytes.map UInt8.toNat)
  String.ofList ('b' :: quote :: bytes.flatMap (escapeByte quote) ++ [quote])

def quotedByteArray (bytes : List UInt8) : String :=
  let quote := quoteFor (bytes.map UInt8.toNat)
  let escape (b : UInt8) : List Char := if b.toNat = '\''.toNat then ['\\', '\''] else escapeByte quote b
  "bytearray(" ++ String.ofList ('b' :: quote :: bytes.flatMap escape ++ [quote]) ++ ")"

end Rebind.Text
