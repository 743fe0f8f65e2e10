import Rebind.Proofs.Kernels
/-!
Compound updates of an array of integers by several operands. Either side of the table folds its operands from the
left: the one in the cells of the target, the other through new arrays. The first operand is read before anything is
written and may be any view of the target; a later operand is read when the earlier ones have been taken in, so the
two sides agree where it has no cell of the target.
-/
namespace Rebind

open Strided Syntax Value

/-- The numbers of a target that has taken in operands one after the other, each stretched to its shape. -/
def Strided.DType.folded (d : DType) (f : BinaryUfunc) (shape : Shape) (cs : List Int)
    (rows : List (Shape × List Int)) : List Int :=
  rows.foldl (fun total row => List.zipWith (d.onWords f) total (stretch row.1 shape row.2)) cs

/-- The elementwise function that an operation of the table applies for each of its operands. -/
def Update.TableOp.function? (op : Update.TableOp) : Option BinaryUfunc := op.operator?.bind Value.elementwise?

/-- The value lends numbers that can be stretched to the shape. -/
def Value.LendsTo (m : Memory) (d : DType) (shape : Shape) (v : Value) (row : Shape × List Int) : Prop :=
  v.Lends m d row.1 row.2 ∧ Layout.broadcastShapes shape row.1 = some shape

section
variable {m : Memory} {d : DType} {view : View} {f : BinaryUfunc} {op : BinaryOp} {rows : List (Shape × List Int)}
  {operands : List Value}

theorem lendsTo_later {spots : Set (Nat × Nat)} {names : Set String}
    (lent : List.Forall₂ (LendsTo m d shape) operands rows) (changes : m.Changes names spots after)
    (apart : ∀ v ∈ operands, v.Avoids spots) : List.Forall₂ (LendsTo after d shape) operands rows :=
  ((List.forall₂_and_left _ _).mpr ⟨apart, lent⟩).imp fun _ _ given => ⟨given.2.1.later changes given.1, given.2.2⟩

/-! ### In place -/

section
variable (integer : d.kind = .integer) (meant : Value.elementwise? op = some f) (exact : f ≠ .divide)
  (target : Value.Bears m d shape cs (.array number view)) (placed : view.Placed m) (writeable : view.writeable = true)
include integer meant exact target placed writeable

theorem updateOnce_completes (operand : LendsTo m d shape v row) :
    (Update.TableOp.updateOnce op (.array number view) v).Completes m fun _ after =>
      m.Changes ∅ {spot | spot ∈ view.spots} after ∧
        Value.Bears after d shape (List.zipWith (d.onWords f) cs (stretch row.1 shape row.2)) (.array number view) := by
  have itself : isUpdated (.array number view) (.array number view) = true := by
    simp [isUpdated, identity?, isSame]
  simp only [Update.TableOp.updateOnce, update, meant, operand.1.dense.full, Bool.false_eq_true, if_false,
    completes_bind, completes_pure, itself, Bool.not_true]
  exact binaryUfuncInto_completes integer f exact target placed writeable operand.1 operand.2

/-- Updates one after the other. The first operand may be any view of the target, for it is read before anything is
written. -/
theorem compound_inPlace_completes (lent : List.Forall₂ (LendsTo m d shape) operands rows)
    (apart : ∀ v ∈ operands.tail, v.Avoids {spot | spot ∈ view.spots}) :
    (operands.forM (Update.TableOp.updateOnce op (.array number view))).Completes m fun _ after =>
      m.Changes ∅ {spot | spot ∈ view.spots} after ∧
        Value.Bears after d shape (d.folded f shape cs rows) (.array number view) := by
  -- the target always bears what the operands so far have made of its numbers
  induction operands generalizing m cs rows with
  | nil =>
    cases lent
    rw [List.forM_eq_forM, List.forM_nil, completes_pure]
    exact ⟨.refl _ _ _, target⟩
  | cons v operands ih =>
    cases lent with
    | cons first rest =>
      rw [List.forM_eq_forM, List.forM_cons, completes_bind]
      refine (updateOnce_completes integer meant exact target placed writeable first).imp ?_
      rintro _ between ⟨changes, updated⟩
      refine (ih updated (placed.later changes) (lendsTo_later rest changes apart)
        fun w member => apart w (List.mem_of_mem_tail member)).imp ?_
      rintro _ after ⟨further, total⟩
      exact ⟨changes.trans further, total⟩

end

/-! ### Out of place -/

theorem compound_outOfPlace_completes (integer : d.kind = .integer) (meant : Value.elementwise? op = some f)
    (exact : f ≠ .divide) (target : Value.Bears m d shape cs a)
    (lent : List.Forall₂ (LendsTo m d shape) operands rows) :
    (operands.foldlM (Value.binary op) a).Completes m fun v after =>
      m.Grows after ∧ v.Bears after d shape (d.folded f shape cs rows) := by
  induction operands generalizing m cs rows a with
  | nil =>
    cases lent
    rw [List.foldlM_nil, completes_pure]
    exact ⟨.refl _ _ _, target⟩
  | cons v operands ih =>
    cases lent with
    | cons first rest =>
      rw [List.foldlM_cons, completes_bind]
      refine (binary_completes integer op meant exact (.borne target) first.1 (.inl target.isNumeric) first.2).imp ?_
      rintro sum between ⟨grows, made, _⟩
      rw [stretch_self target.count] at made
      refine (ih made (lendsTo_later rest grows fun _ _ => by simp [Avoids])).imp ?_
      rintro w after ⟨further, total⟩
      exact ⟨grows.trans further, total⟩

/-! ### The table -/

theorem compound_cases (op : Update.TableOp) (compound : op ∈ [.iadd, .isub, .imul]) :
    ∃ operator f, op.function? = some f ∧ Value.elementwise? operator = some f ∧ f ≠ .divide ∧
      (∀ target operands, op.inPlace target operands = do
        operands.forM (Update.TableOp.updateOnce operator target)
        return target) ∧
      ∀ target operands, op.outOfPlace target operands = operands.foldlM (Value.binary operator) target := by
  rcases tableOp_cases op with rfl | rfl | ⟨operator, f, named, meant, divides, body, body', _⟩
  · simp at compound
  · simp at compound
  · have exact : f ≠ .divide := by
      rw [ne_eq, ← divides]
      rintro rfl
      simp at compound
    exact ⟨operator, f, by rw [Update.TableOp.function?, named, Option.bind_some, meant], meant, exact, body, body'⟩

/-- Either side of a compound update goes through and leaves the same numbers: the one in the target, which it gives
back and beyond which it writes nothing, the other in a value that it gives back instead. The operands are numbers and
arrays that can be stretched to the target; the first may share any cells with the target, the others none. -/
theorem compoundUpdate_inPlace_agrees (op : Update.TableOp) (compound : op ∈ [.iadd, .isub, .imul]) (d : DType)
    (integer : d.kind = .integer) (m : Memory) (shape : Shape) (cs : List Int) (number : Nat) (view : View)
    (target : Value.Bears m d shape cs (.array number view)) (placed : view.Placed m)
    (writeable : view.writeable = true) (operands : List Value) (rows : List (Shape × List Int))
    (lent : List.Forall₂ (Value.LendsTo m d shape) operands rows)
    (apart : ∀ v ∈ operands.tail, v.Avoids {spot | spot ∈ view.spots}) : ∃ f after after' w, op.function? = some f ∧
      (op.dispatch (.capability .canMutate) (.array number view) operands).Yields m (.array number view) after ∧
      (op.dispatch (.capability .cannotMutate) (.array number view) operands).Yields m w after' ∧
      m.Changes ∅ {spot | spot ∈ view.spots} after ∧ m.Grows after' ∧
      Value.Bears after d shape (d.folded f shape cs rows) (.array number view) ∧
      w.Bears after' d shape (d.folded f shape cs rows) := by
  obtain ⟨operator, f, function, meant, exact, body, body'⟩ := compound_cases op compound
  obtain ⟨_, after, updated, changes, written⟩ :=
    compound_inPlace_completes integer meant exact target placed writeable lent apart
  obtain ⟨w, after', folded, grows, made⟩ := compound_outOfPlace_completes integer meant exact target lent
  refine ⟨f, after, after', w, function, ?_, ?_, changes, grows, written, made⟩
  · rw [Update.TableOp.dispatch, body]
    exact yields_bind.mpr ⟨_, after, updated, yields_pure.mpr ⟨rfl, rfl⟩⟩
  · change (op.outOfPlace _ _).Yields m w after'
    rw [body']
    exact folded

def squareAndRow : Memory where
  buffers := #[#[wholeCell 1, wholeCell 2, wholeCell 3, wholeCell 9223372036854775807], #[wholeCell 5, wholeCell (-5)]]
  objects := #[.token, .token, .token]

def square : View := ⟨0, Layout.rowMajor [2, 2], .int64, true⟩

def turnedSquare : View := ⟨0, Layout.columnMajor [2, 2], .int64, true⟩

def plainRow : View := ⟨1, Layout.rowMajor [2], .int64, true⟩

/-- A square is added to its mirror image, to a number and to a row: a sum too large for the type starts over. -/
theorem square_mirrored_agrees : ∃ f after after' w, Update.TableOp.iadd.function? = some f ∧
    (Update.TableOp.iadd.dispatch (.capability .canMutate) (.array 0 square)
      [.array 1 turnedSquare, .num (.int 10), .array 2 plainRow]).Yields squareAndRow (.array 0 square) after ∧
    (Update.TableOp.iadd.dispatch (.capability .cannotMutate) (.array 0 square)
      [.array 1 turnedSquare, .num (.int 10), .array 2 plainRow]).Yields squareAndRow w after' ∧
    squareAndRow.Changes ∅ {spot | spot ∈ square.spots} after ∧ squareAndRow.Grows after' ∧
    Value.Bears after .int64 [2, 2] [17, 10, 20, 3] (.array 0 square) ∧
    w.Bears after' .int64 [2, 2] [17, 10, 20, 3] := by
  have numbers : DType.int64.folded .add [2, 2] [1, 2, 3, 9223372036854775807]
      [([2, 2], [1, 3, 2, 9223372036854775807]), ([], [10]), ([2], [5, -5])] = [17, 10, 20, 3] := by decide +kernel
  have bears : Value.Bears squareAndRow .int64 [2, 2] [1, 2, 3, 9223372036854775807] (.array 0 square) :=
    .array (by decide) (by decide) rfl rfl rfl (by decide)
  have mirrored : Value.LendsTo squareAndRow .int64 [2, 2] (.array 1 turnedSquare)
      ([2, 2], [1, 3, 2, 9223372036854775807]) :=
    ⟨.borne (.array (by decide) (by decide) rfl rfl rfl (by decide)), by decide⟩
  have ten : Value.LendsTo squareAndRow .int64 [2, 2] (.num (.int 10)) ([], [10]) :=
    ⟨.plain rfl rfl (by decide), by decide⟩
  have row : Value.LendsTo squareAndRow .int64 [2, 2] (.array 2 plainRow) ([2], [5, -5]) :=
    ⟨.borne (.array (by decide) (by decide) rfl rfl rfl (by decide)), by decide⟩
  have apart : ∀ v ∈ [Value.num (.int 10), .array 2 plainRow], v.Avoids {spot | spot ∈ square.spots} := by
    simp only [List.forall_mem_singleton, List.forall_mem_cons]
    refine ⟨by simp [Value.Avoids], ?_⟩
    rintro _ _ ⟨⟩
    decide
  obtain ⟨f, after, after', w, function, rest⟩ := compoundUpdate_inPlace_agrees .iadd (by decide) .int64 rfl squareAndRow
    [2, 2] _ 0 square bears ⟨by decide, by decide, by decide⟩ rfl _ _ (.cons mirrored (.cons ten (.cons row .nil))) apart
  cases function
  rw [numbers] at rest
  exact ⟨_, after, after', w, rfl, rest⟩

/-- An operand after the first that is the target itself is read when it has changed: `iadd` of an array with itself
and once more with itself makes four times the numbers in place, and three times the numbers out of place. -/
theorem target_given_twice_differs : ∃ after after' w,
    (Update.TableOp.iadd.dispatch (.capability .canMutate) (.array 2 plainRow)
      [.array 2 plainRow, .array 2 plainRow]).Yields squareAndRow (.array 2 plainRow) after ∧
    (Update.TableOp.iadd.dispatch (.capability .cannotMutate) (.array 2 plainRow)
      [.array 2 plainRow, .array 2 plainRow]).Yields squareAndRow w after' ∧
    Value.Bears after .int64 [2] [20, -20] (.array 2 plainRow) ∧ w.Bears after' .int64 [2] [15, -15] := by
  have bears : Value.Bears squareAndRow .int64 [2] [5, -5] (.array 2 plainRow) :=
    .array (by decide) (by decide) rfl rfl rfl (by decide)
  have placed : plainRow.Placed squareAndRow := ⟨by decide, by decide, by decide⟩
  have lends {m : Memory} {ys : List Int} (bears : Value.Bears m .int64 [2] ys (.array 2 plainRow)) :
      Value.LendsTo m .int64 [2] (.array 2 plainRow) ([2], ys) :=
    ⟨.borne bears, Layout.broadcastShapes_self [2]⟩
  have meant : Value.elementwise? .add = some .add := rfl
  obtain ⟨_, between, once, changes, doubled⟩ :=
    updateOnce_completes rfl meant (by decide) bears placed rfl (lends bears)
  have doubled : Value.Bears between .int64 [2] [10, -10] (.array 2 plainRow) := doubled
  obtain ⟨_, after, twice, _, written⟩ :=
    updateOnce_completes rfl meant (by decide) doubled (placed.later changes) rfl (lends doubled)
  obtain ⟨w, after', folded, _, made⟩ :=
    compound_outOfPlace_completes rfl meant (by decide) bears (.cons (lends bears) (.cons (lends bears) .nil))
  refine ⟨after, after', w, ?_, folded, written, made⟩
  simp only [Update.TableOp.dispatch, Update.TableOp.inPlace, Update.TableOp.operator?, List.forM_eq_forM,
    List.forM_cons, List.forM_nil, yields_bind, yields_pure]
  exact ⟨⟨⟩, after, ⟨_, _, once, _, _, twice, trivial, rfl⟩, trivial, rfl⟩

end
end Rebind
