import Rebind.Update.Block
/-!
Texts that are read as they stand. Before a text is read its lines lose their common margin, and every line of
blanks is emptied. A text that has neither is replaced as the statements it reads as; but a line of blanks
inside quotes is part of a value, and the value changes with it.
-/
namespace Rebind.Text

/-- No line is made of blanks and tabs alone, and the lines have no margin in common. -/
def Flush (s : String) : Prop :=
  (∀ line ∈ splitLines s.toList, line.all isIndent = true → line = []) ∧ margin (splitLines s.toList) = []

instance (s : String) : Decidable (Flush s) := inferInstanceAs (Decidable (_ ∧ _))

theorem splitLines_ne_nil (cs : List Char) : splitLines cs ≠ [] := by
  fun_cases splitLines cs <;> simp_all

theorem joinLines_splitLines (cs : List Char) : joinLines (splitLines cs) = cs := by
  fun_induction splitLines cs with
  | case1 => rfl
  | case2 rest ih =>
    obtain ⟨line, lines, split⟩ := List.exists_cons_of_ne_nil (splitLines_ne_nil rest)
    rw [split] at ih ⊢
    rw [joinLines, List.nil_append, ih]
    simp
  | case3 c rest notEnd split => exact absurd split (splitLines_ne_nil rest)
  | case4 c rest notEnd line lines split ih => cases lines <;> simp_all [joinLines]

theorem dedent_flush (s : String) (flush : Flush s) : dedent s = s := by
  have emptied : (splitLines s.toList).map emptyBlankLine = splitLines s.toList := by
    refine (List.map_congr_left fun line member => ?_).trans (List.map_id _)
    unfold emptyBlankLine
    split
    · exact (flush.1 line member ‹_›).symm
    · rfl
  have kept : dropLead [] = id := by
    funext line
    simp [dropLead]
  simp [dedent, emptied, flush.2, kept, joinLines_splitLines]

end Rebind.Text

namespace Rebind.Update

open Syntax Text

/-- The text replaced as the statements it reads as where it stands. -/
def lowerAsRead (policy : Policy) (source : String) : Except Fault (List Stmt × List Event) :=
  match readModule source with
  | .error _ => .error .unreadable
  | .ok body =>
    match lowerBlock policy 1 body {} with
    | (.error fault, _) => .error fault
    | (.ok lowered, progress) => .ok (lowered, progress.log)

/-- A text without a margin and without lines of blanks is replaced as it stands. -/
theorem lowerText_flush (policy : Policy) (source : String) (flush : Flush source) :
    lowerText policy source = lowerAsRead policy source := by
  unfold lowerText readDedented lowerAsRead
  rw [dedent_flush source flush]
  cases readModule source <;> rfl

theorem quoted_break_kept :
    let source := "y[...] = '''a\n\nb'''"
    Flush source ∧ lowerText .standard source = lowerAsRead .standard source :=
  ⟨by decide, lowerText_flush .standard _ (by decide)⟩

/-- The blanks between the quotes are lost before the text is read. -/
theorem quoted_blanks_emptied :
    let source := "y[...] = '''a\n   \nb'''"
    (lowerText .standard source).toOption.map (·.1.map Stmt.text) ≠
      (lowerAsRead .standard source).toOption.map (·.1.map Stmt.text) := by
  decide +kernel

end Rebind.Update
