import Rebind.Proofs.Words
/-!
Shapes that can be stretched over all of another one. They are compared from the last axis on: an axis has the length of
the one that it is stretched over, or length one, and so have the axes in excess. This is what assignment asks for,
and an operand that meets the target before it is assigned changes nothing about it.
-/
namespace Rebind.Strided.Layout

/-- Whether a shape can be stretched over another, both from the last axis; what it has in excess must have length
one. -/
def coversReversed : Shape → Shape → Bool
  | [], _ => true
  | n :: first, [] => n == 1 && coversReversed first []
  | n :: first, k :: second => (n == k || n == 1) && coversReversed first second

def covers (shape target : Shape) : Bool := coversReversed shape.reverse target.reverse

theorem coversReversed_self (shape : Shape) : coversReversed shape shape = true := by
  induction shape with
  | nil => rfl
  | cons n rest ih => simp [coversReversed, ih]

theorem coversReversed_snoc (first second : Shape) (n : Nat) (long : second.length ≤ first.length) :
    coversReversed (first ++ [n]) second = (n == 1 && coversReversed first second) := by
  induction first generalizing second with
  | nil =>
    obtain rfl : second = [] := List.length_eq_zero_iff.mp (Nat.le_zero.mp long)
    rfl
  | cons k first ih =>
    cases second with
    | nil => grind [coversReversed, List.length_nil]
    | cons l second =>
      have shorter := ih second (by simpa using long)
      grind [coversReversed]

theorem coversReversed_iff_fits (first second : Shape) (short : first.length ≤ second.length) :
    coversReversed first second = true ↔ FitsReversed first second := by
  induction first generalizing second with
  | nil => simp [coversReversed, FitsReversed]
  | cons n first ih =>
    cases second with
    | nil => simp at short
    | cons k second => simp [coversReversed, FitsReversed, ih second (by simpa using short)]

theorem FitsReversed.length_le (first second : Shape) (fits : FitsReversed first second) :
    first.length ≤ second.length := by
  induction first generalizing second with
  | nil => exact Nat.zero_le _
  | cons n first ih =>
    cases second with
    | nil => cases fits
    | cons k second => exact Nat.succ_le_succ (ih second fits.2)

theorem stretchReversed_fits (axes : List Axis) (target : Shape) (found : stretchReversed axes target = some out) :
    FitsReversed (axes.map Axis.length) target := by
  induction axes generalizing target out with
  | nil => trivial
  | cons axis rest ih =>
    cases target with
    | nil => cases found
    | cons n target =>
      simp only [stretchReversed, Option.bind_eq_bind, Option.bind_eq_some_iff] at found
      obtain ⟨_, stretched, found⟩ := found
      refine ⟨?_, ih target stretched⟩
      grind

theorem broadcastTo?_isSome_iff (shape target : Shape) :
    ((rowMajor shape).broadcastTo? target).isSome ↔ FitsReversed shape.reverse target.reverse := by
  constructor
  · intro found
    obtain ⟨other, found⟩ := Option.isSome_iff_exists.mp found
    obtain ⟨axes, stretched, _⟩ := Option.map_eq_some_iff.mp found
    have fits := stretchReversed_fits _ _ stretched
    rwa [List.map_reverse, show (rowMajor shape).axes.map Axis.length = shape from rowMajor_shape shape] at fits
  · intro fits
    exact Option.isSome_iff_exists.mpr (broadcastTo?_isSome _ _ (by rwa [rowMajor_shape]))

theorem covers_iff_trimmed (shape target : Shape) : covers shape target = true ↔
    FitsReversed (dropLeadingOnes (shape.length - target.length) shape).reverse target.reverse := by
  generalize given : shape.length - target.length = excess
  induction excess generalizing shape with
  | zero =>
    rw [dropLeadingOnes]
    exact coversReversed_iff_fits _ _ (by simp; omega)
  | succ excess ih =>
    cases shape with
    | nil => simp at given
    | cons n shape =>
      rw [List.length_cons] at given
      rw [covers, List.reverse_cons, coversReversed_snoc _ _ _ (by simp; omega)]
      by_cases single : n = 1
      · subst single
        simpa [dropLeadingOnes, covers] using ih shape (by omega)
      · have kept : dropLeadingOnes (excess + 1) (n :: shape) = n :: shape := by
          simp [dropLeadingOnes, single]
        rw [kept]
        constructor
        · intro wrong
          simp [single] at wrong
        · intro fits
          have short := fits.length_le
          simp at short
          omega

theorem covers_common_iff (shape target : Shape) :
    (∃ common, broadcastShapes shape target = some common ∧ covers common target = true) ↔
      covers shape target = true := by
  have reversed (a b : Shape) : (∃ c, broadcastReversed a b = some c ∧ coversReversed c b = true) ↔
      coversReversed a b = true := by
    induction a generalizing b with
    | nil => cases b <;> simp [broadcastReversed, coversReversed, coversReversed_self]
    | cons n a ih =>
      cases b with
      | nil => simp [broadcastReversed]
      | cons k b =>
        have rest := ih b
        simp only [broadcastReversed, coversReversed, Option.bind_eq_bind]
        cases joined : broadcastReversed a b with
        | none => simp_all
        | some c =>
          rw [joined] at rest
          grind [coversReversed]
  rw [covers, ← reversed]
  simp [broadcastShapes, covers]

end Rebind.Strided.Layout

namespace Rebind

open Number Strided Syntax Value Run Layout

section
variable {m : Memory} {d : DType} {v w : Value} {view : View}

theorem stretchOver?_isSome_iff (shape target : Shape) (xs : List Int) :
    (stretchOver? shape target xs).isSome = true ↔ covers shape target = true := by
  rw [stretchOver?, Option.isSome_map, broadcastTo?_isSome_iff, covers_iff_trimmed]

/-! ### What goes through -/

theorem setItem_goesThrough (target : Value.Bears m d t ys (.array number view)) (bears : v.Bears m d s xs)
    (through : (setItem (.array number view) .ellipsis v).GoesThrough m) :
    view.writeable = true ∧ covers s t = true := by
  rw [bears.setItem, GoesThrough, Value.assign] at through
  cases writeable : view.writeable with
  | false =>
    rw [writeable] at through
    exact absurd (completes_bind.mp through).goesThrough not_goesThrough_fail
  | true =>
    refine ⟨rfl, ?_⟩
    cases id bears with
    | single flat _ _ =>
      subst flat
      rfl
    | array _ _ _ _ _ _ =>
      simp only [writeable, Bool.not_true, Bool.false_eq_true, if_false, completes_bind] at through
      obtain ⟨o, _, _, ⟨rfl, borne, _⟩, through⟩ := bears.operand.and through
      rw [covers_iff_trimmed, ← broadcastTo?_isSome_iff]
      simp only [spreadOver, borne.shaped, target.shaped] at through
      split at through
      · rename_i found
        simp [found]
      · obtain ⟨_, _, ran, _⟩ := through
        simp at ran

theorem add_goesThrough (integer : d.kind = .integer) (first : Value.Bears m d s xs v) (second : Value.Bears m d t ys w)
    (through : (Value.binary .add v w).GoesThrough m) : ∃ common, broadcastShapes s t = some common := by
  have lends : v.Lends m d s xs := .borne first
  have lends' : w.Lends m d t ys := .borne second
  rw [GoesThrough, binary_dense .add rfl lends.dense lends'.dense (.inl first.isNumeric)] at through
  simp only [binaryUfunc, lends.accepted, lends'.accepted, Bool.or_self, Bool.false_eq_true, if_false,
    completes_bind] at through
  obtain ⟨a, _, _, ⟨rfl, bearsA, firm, _⟩, through⟩ := first.operand.and through
  obtain ⟨b, _, _, ⟨rfl, bearsB, _⟩, plan, between, planned, _⟩ := second.operand.and through
  obtain ⟨_, same, _⟩ :=
    binaryPlan_words integer .add (by simp) bearsA bearsB (bearsA.meet integer bearsB (.inl firm)) none rfl
  simp only [same, yields_bind, yields_ofExcept] at planned
  obtain ⟨shape, _, ⟨found, _⟩, _⟩ := planned
  exact ⟨shape, resultShape_new found⟩

end
end Rebind
