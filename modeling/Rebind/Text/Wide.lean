/-!
Texts as sequences of code points. An escape may name one half of a surrogate pair alone, which is a
code point but no character; texts that literals spell are therefore wider than `String`.
-/
namespace Rebind.Text

/-- A text that may hold lone halves of surrogate pairs. -/
structure Wide where
  codes : List Nat
deriving DecidableEq, Repr, Inhabited

namespace Wide

def ofChars (cs : List Char) : Wide := ⟨cs.map Char.toNat⟩

def ofString (s : String) : Wide := ofChars s.toList

instance : Coe String Wide := ⟨ofString⟩

instance : Append Wide := ⟨fun a b => ⟨a.codes ++ b.codes⟩⟩

def isEmpty (s : Wide) : Bool := s.codes.isEmpty

def pieces (s : Wide) : List Wide := s.codes.map fun code => ⟨[code]⟩

def chars (s : Wide) : List Char :=
  s.codes.map fun code => if code.isValidChar then Char.ofNat code else '�'

def text (s : Wide) : String := String.ofList s.chars

end Wide

theorem Wide.text_ofString (s : String) : (Wide.ofString s).text = s := by
  have valid : ∀ c : Char, c.toNat.isValidChar := fun c => c.valid
  simp [Wide.text, Wide.chars, Wide.ofString, Wide.ofChars, Function.comp_def, valid]

end Rebind.Text
