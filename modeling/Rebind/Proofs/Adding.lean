import Rebind.Proofs.Footprints
/-!
Computations that only add to memory. Whatever arithmetic, comparison and conversion make of their operands
is new; the operands themselves, and all that others hold, stay as they are.
-/
namespace Rebind

open Number Strided Syntax

variable (op : BinaryOp) {plan : Plan} (d : DType) (a b : Value)

/-! ### Values that are no arrays -/

namespace Value

variable (depth : Nat) (v : Value)

@[grind ←] theorem rawBytes?_adds : (rawBytes? v).Adds := by
  unfold rawBytes?
  grind

@[grind ←] theorem concat_adds : (concat a b).Adds := by
  unfold concat
  grind

@[grind ←] theorem repeated_adds (n : Int) (v : Value) : (repeated n v).Adds := by
  unfold repeated
  grind

@[grind ←] theorem plainBinary_adds : (plainBinary op a b).Adds := by
  unfold plainBinary
  grind

@[grind ←] theorem plainNeg_adds (a : Value) : (plainNeg a).Adds := by
  unfold plainNeg
  grind

@[grind ←] theorem plainAbs_adds (a : Value) : (plainAbs a).Adds := by
  unfold plainAbs
  grind

@[grind ←] theorem comparedParts?_adds : (comparedParts? v).Adds := by
  unfold comparedParts?
  grind

theorem equality_adds : (∀ a b, (plainEq depth a b).Adds) ∧ ∀ as bs, (allEq depth as bs).Adds := by
  induction depth with
  | zero => exact ⟨fun _ _ => leaves_pure _, fun _ _ => leaves_pure _⟩
  | succ depth ih =>
    obtain ⟨single, all⟩ := ih
    constructor
    · intro a b
      unfold plainEq
      grind
    · intro as bs
      unfold allEq
      grind

@[grind ←] theorem plainEq_adds (a b : Value) : (plainEq depth a b).Adds := (equality_adds depth).1 a b

@[grind ←] theorem firstDifference?_adds (pairs : List (Value × Value)) : (firstDifference? pairs).Adds := by
  induction pairs with
  | nil => exact leaves_pure _
  | cons pair rest ih =>
    unfold firstDifference?
    grind

@[grind ←] theorem plainOrder_adds (op : CompareOp) (depth : Nat) (a b : Value) : (plainOrder op depth a b).Adds := by
  induction depth generalizing a b with
  | zero => exact leaves_fail _
  | succ depth ih =>
    unfold plainOrder
    dsimp only
    split
    · exact leaves_ofExcept _
    · split
      · exact .bind (leaves_ofExcept _) fun _ => leaves_pure _
      · refine .bind (comparedParts?_adds _) fun left => .bind (comparedParts?_adds _) fun right => ?_
        split
        · exact leaves_pure _
        · exact leaves_pure _
        iterate 2
          · refine .bind (firstDifference?_adds _) fun found => ?_
            rcases found with _ | ⟨x, y⟩
            · exact leaves_pure _
            · exact ih x y
        · exact leaves_fail _

@[grind ←] theorem plainCompare_adds (op : CompareOp) (a b : Value) : (plainCompare op a b).Adds := by
  unfold plainCompare
  grind

/-! ### Cells and operands -/

@[grind ←] theorem plainTruth_adds : (plainTruth v).Adds := by
  unfold plainTruth
  grind

@[grind ←] theorem numberOf_adds : (numberOf d v).Adds := by
  unfold numberOf
  grind

@[grind ←] theorem cellFor_adds : (cellFor d v).Adds := by
  unfold cellFor
  grind

@[grind ←] theorem castCell_adds (cell : Cell) : (castCell d cell).Adds := by
  unfold castCell
  grind

@[grind ←] theorem parts?_adds : (parts? v).Adds := by
  unfold parts?
  grind

@[grind ←] theorem exportedBytes?_adds : (exportedBytes? v).Adds := by
  unfold exportedBytes?
  grind

@[grind ←] theorem unnest_adds : (unnest depth v).Adds := by
  induction depth generalizing v with
  | zero => exact leaves_pure _
  | succ depth ih =>
    unfold unnest
    refine .bind (exportedBytes?_adds v) fun bytes => .bind (parts?_adds v) fun parts => ?_
    split
    · exact .bind (Run.read_adds _) fun _ => leaves_pure _
    · exact leaves_pure _
    · exact leaves_pure _
    · exact leaves_pure _
    · refine .bind (ih _) fun _ => .bind (leaves_mapM _ fun item _ => ih item) fun _ => ?_
      grind

@[grind ←] theorem sequenceOperand_adds : (sequenceOperand v).Adds := by
  unfold sequenceOperand
  grind

@[grind ←] theorem operand_adds : (operand v).Adds := by
  unfold operand
  grind

@[grind ←] theorem ofOperand_adds (given : Operand) : (ofOperand given).Adds := by
  unfold ofOperand
  grind

@[grind ←] theorem asArray_adds : (asArray v).Adds := by
  unfold asArray
  grind

end Value

/-! ### Elementwise functions -/

def Plan.Adds (plan : Plan) : Prop := ∀ step ∈ plan.steps, step.Adds

@[grind ←] theorem Operand.castTo_adds (operand : Operand) : (operand.castTo d).Adds := by
  unfold Operand.castTo
  grind

namespace Plan

@[grind ←] theorem steps_adds (adds : plan.Adds) : (plan.steps.mapM id).Adds := leaves_mapM _ adds

@[grind ←] theorem result_adds (adds : plan.Adds) : plan.result.Adds := by
  unfold result
  grind

@[grind ←] theorem arrayResult_adds (adds : plan.Adds) : plan.arrayResult.Adds := by
  unfold arrayResult
  grind

end Plan

namespace Value

variable {m after : Memory} (f : BinaryUfunc)

@[grind ←] theorem objectBinary_adds (x y : Value) : (objectBinary f x y).Adds := by
  unfold objectBinary
  grind

@[grind ←] theorem objectUnary_adds (f : UnaryUfunc) (x : Value) : (objectUnary f x).Adds := by
  unfold objectUnary
  grind

@[grind ←] theorem binaryStep_adds (d : DType) (x y : Cell) : (binaryStep f d x y).Adds := by
  unfold binaryStep
  grind

@[grind ←] theorem unaryStep_adds (f : UnaryUfunc) (d : DType) (x : Cell) : (unaryStep f d x).Adds := by
  unfold unaryStep
  grind

section
variable (target : Option View)

theorem binaryPlan_adds (a b : Operand) : (binaryPlan f a b target).Adds := by
  unfold binaryPlan
  grind

theorem unaryPlan_adds (f : UnaryUfunc) (a : Operand) : (unaryPlan f a target).Adds := by
  unfold unaryPlan
  grind

theorem binaryPlan_plans (a b : Operand) (ran : (binaryPlan f a b target).Yields m plan after) : plan.Adds := by
  simp only [binaryPlan, yields_bind] at ran
  obtain ⟨d, _, _, ran⟩ := ran
  split at ran
  · simp at ran
  · simp only [yields_bind, yields_pure, yields_ofExcept] at ran
    obtain ⟨_, _, _, _, _, _, _, _, _, rfl, _⟩ := ran
    intro step member
    obtain ⟨pair, _, rfl⟩ := List.mem_map.mp member
    exact binaryStep_adds _ _ _ _

theorem unaryPlan_plans (f : UnaryUfunc) (a : Operand) (ran : (unaryPlan f a target).Yields m plan after) :
    plan.Adds := by
  simp only [unaryPlan, yields_bind] at ran
  obtain ⟨d, _, _, ran⟩ := ran
  split at ran
  · simp at ran
  · simp only [yields_bind, yields_pure, yields_ofExcept] at ran
    obtain ⟨_, _, _, _, _, _, rfl, _⟩ := ran
    intro step member
    obtain ⟨cell, _, rfl⟩ := List.mem_map.mp member
    exact unaryStep_adds _ _ _

@[grind ←] theorem binaryPlan_then (a b : Operand) (next : Plan → Run β)
    (rest : ∀ plan, plan.Adds → (next plan).Adds) : (binaryPlan f a b target >>= next).Adds :=
  (binaryPlan_adds f target a b).given (fun _ _ _ ran => binaryPlan_plans f target a b ran) rest

@[grind ←] theorem unaryPlan_then (f : UnaryUfunc) (a : Operand) (next : Plan → Run β)
    (rest : ∀ plan, plan.Adds → (next plan).Adds) : (unaryPlan f a target >>= next).Adds :=
  (unaryPlan_adds target f a).given (fun _ _ _ ran => unaryPlan_plans target f a ran) rest

end

@[grind ←] theorem binaryUfunc_adds (a b : Value) : (binaryUfunc f a b).Adds := by
  unfold binaryUfunc
  grind

@[grind ←] theorem compareArrays_adds (op : CompareOp) (a b : Value) : (compareArrays op a b).Adds := by
  unfold compareArrays
  refine .bind (operand_adds a) fun a => .bind (operand_adds b) fun b => ?_
  refine leaves_guard (.bind (leaves_ofExcept _) fun shape => Plan.result_adds fun step member => ?_)
  obtain ⟨⟨x, y⟩, _, rfl⟩ := List.mem_map.mp member
  dsimp only
  split
  · split
    · exact leaves_pure _
    · exact leaves_throw _
  · exact .bind (plainCompare_adds _ _ _) fun _ => leaves_pure _

/-! ### Products -/

@[grind ←] theorem dotObjects_adds (pairs : List (Value × Value)) : (dotObjects pairs).Adds := by
  unfold dotObjects
  grind

@[grind ←] theorem dotStep_adds (xs ys : List Cell) : (dotStep d xs ys).Adds := by
  unfold dotStep
  grind

theorem productPlan_adds (a b : Operand) (target : Option View) : (productPlan a b target).Adds := by
  unfold productPlan
  grind

theorem productPlan_plans (a b : Operand) (target : Option View) (ran : (productPlan a b target).Yields m plan after) :
    plan.Adds := by
  unfold productPlan at ran
  dsimp only at ran
  split at ran
  · simp at ran
  · split at ran
    · simp at ran
    · simp only [yields_bind] at ran
      obtain ⟨_, _, _, _, _, _, ran⟩ := ran
      split at ran
      · simp at ran
      · obtain ⟨rfl, _⟩ := yields_pure.mp ran
        intro step member
        simp only [List.mem_flatMap, List.mem_map] at member
        obtain ⟨starts, _, row, _, column, _, rfl⟩ := member
        exact dotStep_adds _ _ _

@[grind ←] theorem productPlan_then (a b : Operand) (target : Option View) (next : Plan → Run β)
    (rest : ∀ plan, plan.Adds → (next plan).Adds) : (productPlan a b target >>= next).Adds :=
  (productPlan_adds a b target).given (fun _ _ _ ran => productPlan_plans a b target ran) rest

@[grind ←] theorem matmul_adds : (matmul a b).Adds := by
  unfold matmul
  grind

/-! ### Views of the same cells, and copies -/

@[grind ←] theorem reshapeView_adds (view : View) (shape : Shape) : (reshapeView view shape).Adds := by
  unfold reshapeView
  grind

@[grind ←] theorem flattenView_adds (view : View) : (flattenView view).Adds := reshapeView_adds _ _

/-! ### Arithmetic of arrays and plain values -/

@[grind ←] theorem softened_adds : (softened a b).Adds := by
  unfold softened
  grind

@[grind ←] theorem repeatBy_adds (items count : Value) : (arrayBinary.repeatBy items count).Adds := by
  unfold arrayBinary.repeatBy
  grind

@[grind ←] theorem elementwise_adds : (arrayBinary.elementwise op a b).Adds := by
  unfold arrayBinary.elementwise
  grind

@[grind ←] theorem arrayBinary_adds : (arrayBinary op a b).Adds := by
  unfold arrayBinary
  grind

@[grind ←] theorem denseBinary_adds : (denseBinary op a b).Adds := by
  unfold denseBinary
  grind

end Value
end Rebind
