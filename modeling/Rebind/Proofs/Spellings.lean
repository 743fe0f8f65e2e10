import Rebind.Proofs.Nesting
import Rebind.Proofs.Refusals
import Rebind.Proofs.Unplaced
/-!
Two spellings of one update. A table operation can be called on its target or assigned to it, and a product can be
written with the operator or as a call. Both spellings are taken as one form and have one replacement, or both are
refused in the same way.
-/
namespace Rebind.Update

open Syntax

section
variable (policy : Policy) (depth : Int) (a b : Stmt)

/-- Both statements are one form, and their replacements agree up to positions. -/
def TakenAlike : Prop :=
  ∃ form, settled policy depth a = .ok form ∧ settled policy depth b = .ok form ∧
    ∀ number, (form.replacement? a.span number).map Stmt.unplaced = (form.replacement? b.span number).map Stmt.unplaced

def BothUnsupported : Prop :=
  (recognise policy depth a).outcome = .ok (.unsupported a) ∧ (recognise policy depth b).outcome = .ok (.unsupported b)

/-- Both statements are one form, or both are refused in the same way. -/
def Interchangeable : Prop :=
  TakenAlike policy depth a b ∨
    ∃ fault fault', settled policy depth a = .error fault ∧ settled policy depth b = .error fault' ∧ SameKind fault fault'

end

section
variable {policy : Policy} {depth : Int} {a b : Stmt} (noExpanders : policy.expanders = [])
include noExpanders

theorem settled_special (found : special? policy.accumulate a = .ok (some form)) : settled policy depth a = .ok form := by
  rw [settled_eq_ok_iff, recognise_plain _ _ _ noExpanders, found]
  refine ⟨rfl, ?_⟩
  rintro statement rfl
  exact (special?_sound found).supported rfl

theorem unsupported_general (free : special? policy.accumulate a = .ok none) (partly : broadcast? a = none) :
    (recognise policy depth a).outcome = .ok (.unsupported a) := by
  rw [recognise_plain _ _ _ noExpanders, free]
  simp [general, partly]

theorem product_alike (accumulate : Bool)
    (first : special? policy.accumulate a = (product t (l, r) accumulate).map some)
    (second : special? policy.accumulate b = (product t (l, r) accumulate).map some) :
    Interchangeable policy depth a b := by
  cases made : product t (l, r) accumulate with
  | error wrong =>
    refine .inr ⟨_, _, ?_, ?_, .malformed wrong.form a.text b.text wrong.reason⟩
    · simp [settled, recognise_plain _ _ _ noExpanders, first, made, Except.map]
    · simp [settled, recognise_plain _ _ _ noExpanders, second, made, Except.map]
  | ok form =>
    rw [made] at first second
    refine .inl ⟨form, settled_special noExpanders first, settled_special noExpanders second, fun number => ?_⟩
    obtain ⟨-, left, flatLeft, right, flatRight, -, -, rfl⟩ := (product_eq_ok_iff t l r accumulate form).mp made
    cases flatLeft <;> cases flatRight <;> cases accumulate <;> rfl

end

/-- Without expanders, the two spellings of a table operation are one form if the operation takes that many operands
and unsupported otherwise; the two spellings of a product are one form, or both are refused for the same reason. -/
theorem spellings_interchange (policy : Policy) (depth : Int) (noExpanders : policy.expanders = [])
    (span span' : Span) (t : Expr) :
    (∀ op xs value value', Reference t → PlainCall (TableOp.name op) (t :: xs) value → PlainCall op.name xs value' →
      ¬ IsNameCopy op t xs →
      if op.accepts xs.length then TakenAlike policy depth (.expr span value) (.assign span' [t] value')
      else BothUnsupported policy depth (.expr span value) (.assign span' [t] value')) ∧
    ∀ lines l r value, (∀ ref, ¬ Whole ref t) → PlainCall "matmul" [l, r] value →
      let written := .binary lines .matMult l r
      Interchangeable policy depth (.assign span [t] written) (.assign span' [t] value) ∧
        Interchangeable policy depth (.augmented span t .add written) (.augmented span' t .add value) := by
  constructor
  · intro op xs value value' ref called assigned other
    have first : special? policy.accumulate (.expr span value) = _ := special?_called called ref
    have second : special? policy.accumulate (.assign span' [t] value') = _ := special?_assigned assigned ref other
    split
    · rename_i fits
      rw [if_pos fits] at first second
      exact ⟨_, settled_special noExpanders first, settled_special noExpanders second, fun _ => rfl⟩
    · rename_i fits
      rw [if_neg fits] at first second
      exact ⟨unsupported_general noExpanders first rfl,
        unsupported_general noExpanders second (by simp [broadcast?, wholeOf?_reference ref])⟩
  · intro lines l r value part plain written
    have part := (wholeOf?_eq_none_iff t).mpr part
    have first : ProductOf l r written := .operator lines l r
    have second : ProductOf l r value := .call plain
    refine ⟨product_alike noExpanders false (special?_product first part) (special?_product second part), ?_⟩
    cases allowed : policy.accumulate with
    | true =>
      exact product_alike noExpanders true (special?_accumulated allowed first part)
        (special?_accumulated allowed second part)
    | false =>
      have free {value span} : (recognise policy depth (.augmented span t .add value)).outcome =
          .ok (.unsupported (.augmented span t .add value)) :=
        unsupported_general noExpanders (by simp [special?_augmented, accumulation?, allowed])
          (by simp [broadcast?, part, InPlaceOp.ofBinary?])
      exact .inr ⟨_, _, by simp [settled, free]; rfl, by simp [settled, free]; rfl, .unsupported _ _⟩

/-- `y.a += b @ c` and `y.a += matmul(b, c)`, and `imul(y.a, b, c)` and `y.a = imul(b, c)`. -/
theorem attribute_spellings :
    let y : Expr := .attribute default (.name default "y") "a"
    let b : Expr := .name default "b"
    let c : Expr := .name default "c"
    let called (head : String) (args : List Expr) : Expr := .call default (.name default head) args []
    TakenAlike .standard 1 (.expr ⟨1, 0, 1, 15⟩ (called "imul" [y, b, c]))
        (.assign ⟨2, 0, 2, 16⟩ [y] (called "imul" [b, c])) ∧
      Interchangeable .standard 1 (.augmented ⟨1, 0, 1, 12⟩ y .add (.binary default .matMult b c))
        (.augmented ⟨2, 0, 2, 19⟩ y .add (called "matmul" [b, c])) := by
  intro y b c called
  have plain (head : String) (args : List Expr) (unstarred : ∀ arg ∈ args, isStarred arg = false) :
      PlainCall head args (called head args) := ⟨_, _, rfl, unstarred⟩
  have alike := spellings_interchange .standard 1 rfl
  exact ⟨(alike _ _ y).1 .imul [b, c] _ _ (.dotted _ _ (.name _ _)) (plain _ _ (by simp [y, b, c, isStarred]))
      (plain _ _ (by simp [b, c, isStarred])) (by simp [IsNameCopy]),
    ((alike _ _ y).2 _ b c _ (by simp [Whole, y]) (plain _ _ (by simp [b, c, isStarred]))).2⟩

end Rebind.Update
