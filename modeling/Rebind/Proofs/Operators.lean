import Rebind.Proofs.Adding
/-!
Operators on boxes and sparse matrices only add to memory as well. So arithmetic adds to memory and does nothing else,
whatever values it is asked for and whether it goes through or not; and so does reading an attribute.
-/
namespace Rebind

open Number Strided Syntax

variable (id : Nat) (op : BinaryOp) (v : Value)

/-! ### Boxes -/

namespace Value

@[grind ←] theorem unboxed_adds : (unboxed v).Adds := by
  unfold unboxed
  grind

@[grind ←] theorem boxed_adds (foreign : Bool) (v : Value) : (boxed foreign v).Adds := by
  unfold boxed
  grind

@[grind ←] theorem boxBinary_adds (a b : Value) : (boxBinary op a b).Adds := by
  unfold boxBinary
  grind

@[grind ←] theorem isNothing_adds : (isNothing v).Adds := by
  unfold isNothing
  grind

@[grind ←] theorem denseOperand_adds : (denseOperand v).Adds := by
  unfold denseOperand
  grind

end Value

/-! ### Sparse matrices -/

namespace Sparse

variable (s : Sparse) (dense : Operand)

@[grind ←] theorem allocate_adds : (allocate s).Adds := by
  unfold allocate
  grind

@[grind ←] theorem toArray_adds : (toArray s).Adds := Run.newArray_adds _ _ _

@[grind ←] theorem truth_adds : (truth s).Adds := by
  unfold truth
  grind

@[grind ←] theorem ofPlan_adds {plan : Plan} (adds : plan.Adds) : (s.ofPlan plan).Adds := by
  unfold ofPlan
  grind

@[grind ←] theorem scale_adds (factor : Value) : (s.scale factor).Adds := by
  unfold scale
  grind

@[grind ←] theorem combine_adds (f : BinaryUfunc) (s t : Sparse) (shape : Shape) (format : SparseFormat) (b : Bool) :
    (combine f s t shape format b).Adds := allocate_adds _

@[grind ←] theorem sumSparse_adds (f : BinaryUfunc) (s t : Sparse) : (sumSparse f s t).Adds := by
  unfold sumSparse
  grind

@[grind ←] theorem fitted_adds : (s.fitted dense).Adds := by
  unfold fitted
  grind

@[grind ←] theorem plusDense_adds : (s.plusDense dense).Adds := by
  unfold plusDense
  refine leaves_ite.mpr ⟨fun _ => ?_, fun _ => .bind (fitted_adds _ _) fun fitting => leaves_guard ?_⟩
  · exact Value.binaryPlan_then _ _ _ _ _ fun plan adds => plan.arrayResult_adds adds
  · refine Value.binaryPlan_then _ _ _ _ _ fun sum adds => Plan.arrayResult_adds fun step member => ?_
    rw [← List.map_uncurry_zip_eq_zipWith] at member
    obtain ⟨⟨entry, cell, step⟩, given, rfl⟩ := List.mem_map.mp member
    have planned := adds step (List.of_mem_zip (List.of_mem_zip given).2).2
    exact leaves_ite.mpr ⟨fun _ => planned, fun _ => Value.castCell_adds _ _⟩
@[grind ←] theorem plusEach_adds (v : Value) : (s.plusEach v).Adds := by
  unfold plusEach
  refine .bind (Value.operand_adds _) fun o => Value.binaryPlan_then _ _ _ _ _ fun plan adds => ?_
  grind


@[grind ←] theorem plus_adds (v : Value) : (s.plus v).Adds := by
  unfold plus
  grind

@[grind ←] theorem unary_adds (f : UnaryUfunc) (s : Sparse) : (unary f s).Adds := by
  unfold unary
  grind

@[grind ←] theorem minus_adds (v : Value) : (s.minus v).Adds := by
  unfold minus
  grind

@[grind ←] theorem minusFrom_adds (v : Value) : (s.minusFrom v).Adds := by
  unfold minusFrom
  grind

@[grind ←] theorem timesSparse_adds (s t : Sparse) : (s.timesSparse t).Adds := by
  unfold timesSparse
  grind

@[grind ←] theorem timesStored_adds (shape : Shape) (format : SparseFormat) :
    (s.timesStored dense shape format).Adds := by
  unfold timesStored
  grind

@[grind ←] theorem timesDense_adds : (s.timesDense dense).Adds := by
  unfold timesDense
  grind

@[grind ←] theorem times_adds (v : Value) : (s.times v).Adds := by
  unfold times
  grind

@[grind ←] theorem product_adds (x y : Bool) (a b : Operand) : (product x y a b).Adds := by
  unfold product
  grind

@[grind ←] theorem matmulSparse_adds (s t : Sparse) : (s.matmulSparse t).Adds := by
  unfold matmulSparse
  grind

@[grind ←] theorem productValue_adds (dense result : Operand) (layout : Layout) :
    (s.productValue dense result layout).Adds := by
  unfold productValue
  grind

@[grind ←] theorem matmul_adds (v : Value) : (s.matmul v).Adds := by
  unfold matmul
  grind

@[grind ←] theorem matmulFrom_adds (v : Value) : (s.matmulFrom v).Adds := by
  unfold matmulFrom
  grind

@[grind ←] theorem quotientEach_adds (v : Value) : (s.quotientEach v).Adds := by
  unfold quotientEach
  grind

@[grind ←] theorem quotient_adds (v : Value) : (s.quotient v).Adds := by
  unfold quotient
  grind

@[grind ←] theorem ratio_adds (s t : Sparse) : (s.ratio t).Adds := by
  unfold ratio
  grind

@[grind ←] theorem dividedBy_adds (v : Value) : (s.dividedBy v).Adds := by
  unfold dividedBy
  grind

@[grind ←] theorem transposed_adds : (transposed id).Adds := by
  unfold transposed
  grind

end Sparse

/-! ### Values of every kind -/

namespace Value

@[grind ←] theorem sparseBinary_adds (a b : Value) : (sparseBinary op a b).Adds := by
  unfold sparseBinary
  grind

@[grind ←] theorem binary_adds (a b : Value) : (binary op a b).Adds := by
  unfold binary
  grind

@[grind ←] theorem vec_adds : (vec v).Adds := by
  unfold vec
  grind

@[grind ←] theorem restructure_adds (a b : Value) : (restructure a b).Adds := by
  unfold restructure
  grind

@[grind ←] theorem capabilityOf_adds : (capabilityOf v).Adds := by
  fun_induction capabilityOf v with
  | case1 id => exact .bind (Run.sparseContent_adds id) fun _ => leaves_pure _
  | _ => grind

/-! ### Attributes -/

@[grind ←] theorem functionContent?_adds : (Run.functionContent? id).Adds := by
  unfold Run.functionContent?
  grind

@[grind ←] theorem classContent?_adds : (Run.classContent? id).Adds := by
  unfold Run.classContent?
  grind

@[grind ←] theorem orMissing_adds (found : Option Value) : (orMissing found).Adds := by
  unfold orMissing
  grind

@[grind ←] theorem instanceAttr_adds (type : Option Nat) (attrs : List (String × Value)) (name : String) :
    (instanceAttr id type attrs name).Adds := by
  unfold instanceAttr
  grind

@[grind ←] theorem getAttr_adds (name : String) : (getAttr v name).Adds := by
  unfold getAttr
  split <;> grind

end Value
end Rebind
