import Mathlib.Data.Fintype.Defs
import Rebind.Proofs.Adding
import Rebind.Proofs.Words
/-!
Elementwise functions that compute with numbers of any type. The operands are put into the type of the computation
first, and what can go wrong with a single element goes wrong there. From then on there are only numbers, on which the
function cannot fail; so a result is certain before the first cell of it is written.
-/
namespace Rebind

open Number Strided Syntax Value Run

/-! ### Types -/

instance : Fintype DType := ⟨⟨DType.all, by decide⟩, fun d => by cases d <;> decide⟩

theorem promote_comm : ∀ d e : DType, d.promote e = e.promote d := by decide

theorem promote_ne_object : ∀ d e : DType, d ≠ .object → e ≠ .object → d.promote e ≠ .object := by decide

theorem promoteWeak_ne_object (n : Numeral) (typed : d ≠ .object) : DType.promoteWeak d n ≠ .object := by
  cases n <;> cases d <;>
    simp_all [DType.promoteWeak, DType.kind, DType.promote, DType.complexOfBits, DType.bits]

theorem rank_promote : ∀ d e : DType, d.rank ≤ (d.promote e).rank := by decide

theorem rank_promoteWeak (d : DType) (n : Numeral) : d.rank ≤ (d.promoteWeak n).rank := by
  cases n <;> cases d <;>
    simp [DType.promoteWeak, DType.kind, DType.rank, DType.promote, DType.complexOfBits, DType.bits, DType.isSigned]

theorem sameKind_ne_object : ∀ d e : DType, e ≠ .object → d.sameKind e = true → d ≠ .object := by decide

/-! ### Cells -/

def Cell.IsNumber (cell : Cell) : Prop := ∃ n, cell = .num n

/-- Where there was a number there is one, maybe another. -/
structure Memory.KeepsNumbers (m after : Memory) : Prop where
  buffers : m.buffers.size ≤ after.buffers.size
  numbers : ∀ spot, spot.1 < m.buffers.size → (m.cell spot).IsNumber → (after.cell spot).IsNumber

instance : Std.Refl Memory.KeepsNumbers := ⟨fun _ => ⟨Nat.le_refl _, fun _ _ held => held⟩⟩

instance : Trans Memory.KeepsNumbers Memory.KeepsNumbers Memory.KeepsNumbers :=
  ⟨fun first second => ⟨first.buffers.trans second.buffers, fun spot old held =>
    second.numbers spot (old.trans_le first.buffers) (first.numbers spot old held)⟩⟩

theorem Memory.Extends.keepsNumbers {m after : Memory} (extends_ : m.Extends after) : m.KeepsNumbers after := by
  refine ⟨extends_.buffers, fun spot old held => ?_⟩
  rwa [extends_.kept spot old (by simp)]

/-! ### Values -/

/-- The value is an array of the type that holds numbers, or a single number of the type. -/
inductive Value.Counts (m : Memory) (d : DType) (shape : Shape) : Value → Prop
  | array (stored : view.buffer < m.buffers.size) (typed : view.dtype = d) (shaped : view.shape = shape)
      (numbers : ∀ spot ∈ view.spots, (m.cell spot).IsNumber) : Counts m d shape (.array number view)
  | single (flat : shape = []) : Counts m d shape (.scalar d n)

/-- A number of the language, or of an element type that is not for objects. -/
inductive Value.IsNumber : Value → Prop
  | plain (n : Numeral) : IsNumber (.num n)
  | element (typed : d ≠ .object) (n : Numeral) : IsNumber (.scalar d n)

section
variable {m between after : Memory} {d e : DType} {v w : Value} {view : View} {plan : Plan}

/-! ### Writing numbers -/

theorem isNumber_default : (default : Cell).IsNumber := ⟨_, rfl⟩

theorem Memory.cell_eq (m : Memory) (spot : Nat × Nat) :
    m.cell spot = ((m.buffers[spot.1]?.getD #[])[spot.2]?).getD default := by
  rw [Memory.cell, Array.getD_eq_getD_getElem?, Array.getD_eq_getD_getElem?]

theorem writeCell_keepsNumbers (b : Nat) (place : Int) {cell : Cell} (number : cell.IsNumber) :
    (writeCell b place cell).Leaves Memory.KeepsNumbers := by
  intro m
  refine ⟨Nat.le_of_eq (Array.size_modify ..).symm, fun spot _ held => ?_⟩
  change (Memory.cell { m with buffers := m.buffers.modify b fun cells => cells.setIfInBounds place.toNat cell }
    spot).IsNumber
  rw [Memory.cell_eq] at held ⊢
  rw [Array.getElem?_modify]
  split
  · cases found : m.buffers[spot.1]? with
    | none => exact isNumber_default
    | some cells =>
      rw [Option.map_some, Option.getD_some, Array.getElem?_setIfInBounds]
      split
      · split
        · exact number
        · exact isNumber_default
      · rwa [found, Option.getD_some] at held
  · exact held

theorem write_keepsNumbers (view : View) {cells : List Cell} (numbers : ∀ cell ∈ cells, cell.IsNumber) :
    (Run.write view cells).Leaves Memory.KeepsNumbers :=
  leaves_forM _ fun (place, _) member => writeCell_keepsNumbers view.buffer place (numbers _ (List.of_mem_zip member).2)

theorem newView_numbers {cells : List Cell} (numbers : ∀ cell ∈ cells, cell.IsNumber)
    (ran : (newView d layout cells).Yields m view after) :
    view = ⟨m.buffers.size, layout, d, true⟩ ∧ view.buffer < after.buffers.size ∧
      ∀ spot ∈ view.spots, (after.cell spot).IsNumber := by
  let filled : Array Cell := Array.replicate layout.size default
  simp only [newView, yields_bind, yields_get, yields_set, yields_pure] at ran
  obtain ⟨_, _, ⟨rfl, rfl⟩, _, pushed, rfl, _, _, written, rfl, rfl⟩ := ran
  have keeps := (write_keepsNumbers _ numbers).yields written
  have inside : m.buffers.size < (m.buffers.push filled).size := by simp
  refine ⟨rfl, inside.trans_le keeps.buffers, fun spot member => keeps.numbers spot ?_ ?_⟩
  · rw [View.mem_spots_buffer member]
    exact inside
  · rw [Memory.cell_eq, View.mem_spots_buffer member]
    change ((((m.buffers.push filled)[m.buffers.size]?.getD #[])[spot.2]?).getD default).IsNumber
    rw [Array.getElem?_push_size, Option.getD_some, Array.getElem?_replicate]
    split <;> exact isNumber_default

/-! ### Runs that cannot fail -/

theorem Run.GoesThrough.not_fails {run : Run α} (through : run.GoesThrough m) : ¬ run.Fails m fault after := by
  obtain ⟨a, last, ran, _⟩ := through
  intro failed
  rw [Yields] at ran
  rw [Fails, ran] at failed
  simp at failed

theorem Run.Leaves.fails {rel : Memory → Memory → Prop} {run : Run α} (leaves : run.Leaves rel)
    (failed : run.Fails m fault after) : rel m after := by
  have left := leaves m
  rwa [failed] at left

theorem Run.Yields.bind_fails {run : Run α} {next : α → Run β} (ran : run.Yields m a between) :
    (run >>= next).Fails m fault after ↔ (next a).Fails between fault after := by
  rw [Fails, ran.bind_run, Fails]

theorem fails_fail {kind : ErrorKind} (failed : (fail kind : Run α).Fails m fault after) : m = after :=
  (Prod.mk.inj failed).2

theorem forM_goesThrough {f : α → Run PUnit} (items : List α) (each : ∀ item ∈ items, ∀ m, (f item).GoesThrough m)
    (m : Memory) : (items.forM f).GoesThrough m := by
  induction items generalizing m with
  | nil => exact completes_pure.mpr trivial
  | cons item rest ih =>
    rw [GoesThrough, List.forM_eq_forM, List.forM_cons, completes_bind]
    refine (each item (by simp) m).imp fun _ between _ => ?_
    exact ih (fun other member => each other (by simp [member])) between

theorem write_goesThrough (view : View) (cells : List Cell) (m : Memory) : (Run.write view cells).GoesThrough m := by
  obtain ⟨after, ran⟩ := writeCells_complete view.buffer (view.layout.addresses.zip cells) m
  exact ran.completes trivial

theorem cellFor_isNumber (typed : d ≠ .object) (ran : (cellFor d v).Yields m c after) : c.IsNumber := by
  simp only [cellFor, typed, if_false] at ran
  split at ran
  · split at ran
    · simp only [yields_bind] at ran
      obtain ⟨cells, _, _, ran⟩ := ran
      split at ran
      · exact ⟨_, (yields_pure.mp ran).1.symm⟩
      · simp only [yields_bind, yields_pure] at ran
        obtain ⟨n, _, _, rfl, _⟩ := ran
        exact ⟨n, rfl⟩
      · exact absurd ran yields_fail
    · split at ran
      · simp only [yields_bind] at ran
        obtain ⟨cells, _, _, ran⟩ := ran
        split at ran
        · exact ⟨_, (yields_pure.mp ran).1.symm⟩
        · simp only [yields_bind, yields_pure] at ran
          obtain ⟨n, _, _, rfl, _⟩ := ran
          exact ⟨_, rfl⟩
        · exact absurd ran yields_fail
      · exact absurd ran yields_fail
  · simp only [yields_bind, yields_pure] at ran
    obtain ⟨n, _, _, rfl, _⟩ := ran
    exact ⟨n, rfl⟩

theorem castCell_isNumber (typed : d ≠ .object) (ran : (castCell d cell).Yields m c after) : c.IsNumber := by
  cases cell with
  | num x =>
    simp only [castCell, typed, if_false, yields_pure] at ran
    exact ⟨_, ran.1.symm⟩
  | object v => exact cellFor_isNumber typed ran

/-! ### Plans -/

def Plan.IsNumeric (plan : Plan) : Prop := ∀ step ∈ plan.steps, ∃ n, step = pure (.num n)

theorem mapM_gives {f : α → Run β} {good : β → Prop} (items : List α)
    (each : ∀ item ∈ items, ∀ m b after, (f item).Yields m b after → good b) (ran : (items.mapM f).Yields m bs after) :
    ∀ b ∈ bs, good b := by
  induction items generalizing m bs after with
  | nil =>
    obtain ⟨rfl, _⟩ := yields_pure.mp ran
    simp
  | cons item rest ih =>
    simp only [List.mapM_cons, yields_bind, yields_pure] at ran
    obtain ⟨b, _, one, others, _, all, rfl, _⟩ := ran
    rw [List.forall_mem_cons]
    exact ⟨each item (by simp) _ _ _ one, ih (fun other member => each other (by simp [member])) all⟩

theorem castTo_numbers {o : Operand} (ran : (o.castTo d).Yields m taken after) :
    taken.shape = o.shape ∧ (d ≠ .object → ∀ cell ∈ taken.cells, cell.IsNumber) := by
  simp only [Operand.castTo] at ran
  cases weak : o.weak with
  | none =>
    simp only [weak, yields_bind, yields_pure] at ran
    obtain ⟨cells, _, casts, rfl, _⟩ := ran
    exact ⟨rfl, fun typed => mapM_gives _ (fun _ _ _ _ _ cast => castCell_isNumber typed cast) casts⟩
  | some x =>
    simp only [weak, yields_ite, yields_bind, yields_pure] at ran
    rcases ran with ⟨object, rfl, _⟩ | ⟨_, n, _, _, rfl, _⟩
    · exact ⟨rfl, fun typed => absurd object typed⟩
    · exact ⟨rfl, fun _ => by simp [Cell.IsNumber]⟩

theorem spread_numbers {o : Operand} (numbers : ∀ cell ∈ o.cells, cell.IsNumber) (shape : Shape) :
    ∀ cell ∈ o.spread shape, cell.IsNumber := by
  intro cell member
  rw [Operand.spread] at member
  split at member
  · obtain ⟨place, _, rfl⟩ := List.mem_map.mp member
    rw [Array.getD_eq_getD_getElem?, List.getElem?_toArray]
    cases found : o.cells[place.toNat]? with
    | none => exact isNumber_default
    | some cell => exact numbers cell (List.mem_of_getElem? found)
  · cases member

theorem binarySteps_numeric (f : BinaryUfunc) {first second : List Cell} (numbers : ∀ cell ∈ first, cell.IsNumber)
    (numbers' : ∀ cell ∈ second, cell.IsNumber) :
    ∀ step ∈ (first.zip second).map (fun (x, y) => binaryStep f d x y), ∃ n, step = pure (.num n) := by
  intro step member
  obtain ⟨⟨x, y⟩, pair, rfl⟩ := List.mem_map.mp member
  obtain ⟨a, rfl⟩ := numbers x (List.of_mem_zip pair).1
  obtain ⟨b, rfl⟩ := numbers' y (List.of_mem_zip pair).2
  exact ⟨_, rfl⟩

theorem binaryPlan_planned (f : BinaryUfunc) (ran : (binaryPlan f a b target).Yields m plan after) :
    Operand.binaryType f a b = .ok plan.dtype ∧ mayStore plan.dtype target = true ∧
      resultShape [a.shape, b.shape] target = .ok plan.shape ∧ plan.layout.shape = plan.shape ∧
      (plan.dtype ≠ .object → plan.IsNumeric) := by
  simp only [binaryPlan, yields_bind, yields_ofExcept] at ran
  obtain ⟨d, _, ⟨typed, _⟩, ran⟩ := ran
  split at ran
  · simp at ran
  · rename_i stores
    simp only [yields_bind, yields_pure, yields_ofExcept] at ran
    obtain ⟨a', _, castA, b', _, castB, shape, _, ⟨found, _⟩, rfl, _⟩ := ran
    obtain ⟨shapeA, numbersA⟩ := castTo_numbers castA
    obtain ⟨shapeB, numbersB⟩ := castTo_numbers castB
    rw [shapeA, shapeB] at found
    refine ⟨typed, by simpa using stores, found, Layout.ofOperands_shape _ _, fun numeric => ?_⟩
    exact binarySteps_numeric f (spread_numbers (numbersA numeric) _) (spread_numbers (numbersB numeric) _)

/-! ### Writing results -/

section
variable (numeric : plan.IsNumeric)
include numeric

theorem Plan.IsNumeric.cells : ∃ cells, plan.steps.mapM id = pure cells ∧ ∀ cell ∈ cells, cell.IsNumber := by
  rw [Plan.IsNumeric] at numeric
  generalize plan.steps = steps at numeric
  induction steps with
  | nil => exact ⟨[], rfl, by simp⟩
  | cons step rest ih =>
    rw [List.forall_mem_cons] at numeric
    obtain ⟨n, rfl⟩ := numeric.1
    obtain ⟨cells, computed, numbers⟩ := ih numeric.2
    refine ⟨.num n :: cells, by simp [List.mapM_cons, computed], ?_⟩
    rw [List.forall_mem_cons]
    exact ⟨⟨n, rfl⟩, numbers⟩

theorem Plan.IsNumeric.step_written (typed : d ≠ .object) {step : Run Cell} (member : step ∈ plan.steps) (b : Nat)
    (place : Int) : ∃ cell : Cell, cell.IsNumber ∧
      (do writeCell b place (← castCell d (← step)) : Run Unit) = writeCell b place cell := by
  obtain ⟨n, rfl⟩ := numeric step member
  refine ⟨.num (d.cast n), ⟨_, rfl⟩, ?_⟩
  simp [castCell, typed]

theorem Plan.IsNumeric.into_goesThrough (typed : view.dtype ≠ .object) (shaped : plan.shape = view.shape)
    (writeable : view.writeable = true) (m : Memory) : (plan.into view).GoesThrough m := by
  have allowed : ¬ (decide (plan.shape ≠ view.shape) || !view.writeable) = true := by simp [shaped, writeable]
  rw [Plan.into, if_neg allowed]
  refine forM_goesThrough _ ?_ m
  rintro ⟨place, step⟩ member m
  obtain ⟨cell, _, same⟩ := numeric.step_written typed (List.of_mem_zip member).2 view.buffer place
  dsimp only
  rw [same]
  exact ⟨⟨⟩, _, yields_modify.mpr rfl, trivial⟩

theorem Plan.IsNumeric.into_fails (typed : view.dtype ≠ .object) (failed : (plan.into view).Fails m fault after) :
    m = after := by
  by_cases refused : (decide (plan.shape ≠ view.shape) || !view.writeable) = true
  · rw [Plan.into, if_pos refused, fails_bind] at failed
    rcases failed with failed | ⟨_, _, ran, _⟩
    · exact fails_fail failed
    · exact absurd ran yields_fail
  · simp only [Bool.or_eq_true, decide_eq_true_eq, Bool.not_eq_true', not_or, not_not, Bool.not_eq_false] at refused
    exact absurd failed (numeric.into_goesThrough typed refused.1 refused.2 m).not_fails

theorem Plan.IsNumeric.into_keepsNumbers (typed : view.dtype ≠ .object) :
    (plan.into view).Leaves Memory.KeepsNumbers := by
  rw [Plan.into]
  refine leaves_guard (leaves_forM _ ?_)
  rintro ⟨place, step⟩ member
  obtain ⟨cell, number, same⟩ := numeric.step_written typed (List.of_mem_zip member).2 view.buffer place
  dsimp only
  rw [same]
  exact writeCell_keepsNumbers _ _ number

end

/-! ### Operands -/

/-- What an elementwise function takes such values for. -/
structure Operand.Counts (o : Operand) (shape : Shape) : Prop where
  shaped : o.shape = shape
  textual : o.textual = false
  numbers : ∀ cell ∈ o.cells, cell.IsNumber
  kind : (o.weak = none ∧ o.dtype ≠ .object) ∨ ∃ n, o.weak = some n

theorem Value.Counts.kept (counts : v.Counts m d shape) (keeps : m.KeepsNumbers after) : v.Counts after d shape := by
  cases counts with
  | single flat => exact .single flat
  | array stored typed shaped numbers =>
    refine .array (stored.trans_le keeps.buffers) typed shaped fun spot member => ?_
    exact keeps.numbers spot (by rwa [View.mem_spots_buffer member]) (numbers spot member)

theorem Value.Counts.accepted (counts : v.Counts m d shape) : v.refusesElementwise = false := by
  cases counts <;> rfl

theorem Value.Counts.operand (counts : v.Counts m d shape) (typed : d ≠ .object) :
    (Value.operand v).Completes m fun o after => m = after ∧ o.Counts shape ∧ o.weak = none ∧ o.dtype = d := by
  cases counts with
  | array _ typed' shaped numbers =>
    simp only [Value.operand, exportedView?, exportedBytes?, completes_bind, completes_pure, completes_read,
      true_and]
    refine ⟨⟨shaped, rfl, ?_, .inl ⟨rfl, typed'.trans_ne typed⟩⟩, typed'⟩
    intro cell member
    obtain ⟨spot, inside, rfl⟩ := List.mem_map.mp member
    exact numbers spot inside
  | single flat =>
    subst flat
    simp only [Value.operand, exportedView?, exportedBytes?, completes_bind, completes_pure, true_and]
    refine ⟨⟨rfl, rfl, ?_, .inl ⟨rfl, typed⟩⟩, rfl, rfl⟩
    simp [Operand.single, Cell.IsNumber]

theorem Value.IsNumber.operand (number : v.IsNumber) (m : Memory) :
    (Value.operand v).Completes m fun o after => m = after ∧ o.Counts [] := by
  cases number with
  | element typed n =>
    refine ((Value.Counts.single rfl : Value.Counts m _ [] (.scalar _ n)).operand typed).imp ?_
    rintro o after ⟨rfl, counts, _⟩
    exact ⟨rfl, counts⟩
  | plain n =>
    cases n with
    | bool b =>
      simp only [Value.operand, exportedView?, exportedBytes?, completes_bind, completes_pure, true_and]
      exact ⟨rfl, rfl, by simp [Operand.single, Cell.IsNumber], .inl ⟨rfl, by simp [Operand.single]⟩⟩
    | int _ | float _ | complex _ _ =>
      simp only [Value.operand, exportedView?, exportedBytes?, completes_bind, completes_pure, true_and]
      exact ⟨rfl, rfl, by simp [Operand.single, Cell.IsNumber], .inr ⟨_, rfl⟩⟩

theorem Operand.Counts.meet (first : Operand.Counts a s) (second : Operand.Counts b t) :
    Operand.meet a b ≠ .object := by
  have plain (n : Numeral) : DType.ofNum n ≠ .object := by cases n <;> simp [DType.ofNum]
  rcases first.kind with ⟨firm, typed⟩ | ⟨n, weak⟩
  · rcases second.kind with ⟨firm', typed'⟩ | ⟨k, weak'⟩
    · simpa only [Operand.meet, firm, firm'] using promote_ne_object _ _ typed typed'
    · simpa only [Operand.meet, firm, weak'] using promoteWeak_ne_object k typed
  · rcases second.kind with ⟨firm', typed'⟩ | ⟨k, weak'⟩
    · simpa only [Operand.meet, weak, firm'] using promoteWeak_ne_object n typed'
    · simpa only [Operand.meet, weak, weak'] using promote_ne_object _ _ (plain n) (plain k)

theorem Operand.Counts.binaryType (f : BinaryUfunc) (first : Operand.Counts a s) (second : Operand.Counts b t)
    (typed : Operand.binaryType f a b = .ok d) : d ≠ .object := by
  have met := first.meet second
  simp only [Operand.binaryType, Operand.textMisplaced, first.textual, second.textual, Bool.false_and, Bool.or_self,
    Bool.false_eq_true, if_false] at typed
  split at typed
  · cases typed
  · cases typed
    simp
  · cases typed
    simp
  · cases typed
    exact met

/-! ### Elementwise functions -/

theorem Plan.IsNumeric.result (numeric : plan.IsNumeric) (typed : plan.dtype ≠ .object)
    (shaped : plan.layout.shape = plan.shape) (ran : plan.result.Yields m v after) :
    v.Counts after plan.dtype plan.shape := by
  obtain ⟨cells, computed, numbers⟩ := numeric.cells
  simp only [Plan.result, computed, pure_bind] at ran
  split at ran
  · rename_i cell flat
    obtain ⟨rfl, _⟩ := yields_pure.mp ran
    obtain ⟨n, rfl⟩ := numbers cell (by simp)
    simp only [element, typed, if_false]
    exact .single flat
  · simp only [newArray, freshId, yields_bind, yields_pure] at ran
    obtain ⟨view, between, made, number, _, fresh, rfl, rfl⟩ := ran
    obtain ⟨rfl, stored, numbers⟩ := newView_numbers numbers made
    have counts : Value.Counts between plan.dtype plan.shape (.array number _) := .array stored rfl shaped numbers
    exact counts.kept ((Run.allocate_adds _).yields fresh).keepsNumbers

theorem binaryUfunc_counts (f : BinaryUfunc)
    (first : (Value.operand a).Completes m fun o after => m = after ∧ o.Counts s)
    (second : (Value.operand b).Completes m fun o after => m = after ∧ o.Counts t)
    (ran : (binaryUfunc f a b).Yields m v after) :
    ∃ d shape, d ≠ .object ∧ v.Counts after d shape ∧ resultShape [s, t] none = .ok shape := by
  simp only [binaryUfunc] at ran
  split at ran
  · simp at ran
  · simp only [yields_bind] at ran
    obtain ⟨o, _, reads, o', _, reads', plan, between, planned, ran⟩ := ran
    obtain ⟨rfl, counts⟩ := reads.completes_iff.mp first
    obtain ⟨rfl, counts'⟩ := reads'.completes_iff.mp second
    obtain ⟨typed, _, shape, shaped, numeric⟩ := binaryPlan_planned f planned
    have typed := counts.binaryType f counts' typed
    rw [counts.shaped, counts'.shaped] at shape
    exact ⟨plan.dtype, plan.shape, typed, (numeric typed).result typed shaped ran, shape⟩

/-- The part of an elementwise function for an array that comes before writing. -/
def Value.planInto (f : BinaryUfunc) (a b : Value) (view : View) : Run Plan := do
  if a.refusesElementwise || b.refusesElementwise then fail .type
  binaryPlan f (← operand a) (← operand b) (some view)

section
variable (f : BinaryUfunc) (a b : Value)

theorem binaryUfuncInto_eq (view : View) : binaryUfuncInto f a b view = planInto f a b view >>= (·.into view) := by
  simp only [binaryUfuncInto, planInto]
  split <;> simp [bind_assoc]

theorem planInto_adds (view : View) : (planInto f a b view).Adds :=
  leaves_guard (.bind (operand_adds a) fun _ => .bind (operand_adds b) fun _ => binaryPlan_adds _ _ _ _)

theorem planInto_numeric (typed : view.dtype ≠ .object) (planned : (planInto f a b view).Yields m plan after) :
    plan.IsNumeric := by
  simp only [planInto] at planned
  split at planned
  · simp at planned
  · simp only [yields_bind] at planned
    obtain ⟨_, _, _, _, _, _, planned⟩ := planned
    obtain ⟨_, stores, _, _, numeric⟩ := binaryPlan_planned f planned
    exact numeric (sameKind_ne_object _ _ typed stores)

theorem binaryUfuncInto_fails (typed : view.dtype ≠ .object)
    (failed : (binaryUfuncInto f a b view).Fails m fault after) : m.Extends after := by
  rw [binaryUfuncInto_eq] at failed
  rcases fails_bind.mp failed with failed | ⟨plan, between, planned, failed⟩
  · exact (planInto_adds f a b view).fails failed
  · obtain rfl := (planInto_numeric f a b typed planned).into_fails typed failed
    exact (planInto_adds f a b view).yields planned

theorem binaryUfuncInto_keepsNumbers (typed : view.dtype ≠ .object) :
    (binaryUfuncInto f a b view).Leaves Memory.KeepsNumbers := by
  rw [binaryUfuncInto_eq]
  exact ((planInto_adds f a b view).imp fun _ _ => Memory.Extends.keepsNumbers).given
    (fun _ _ _ planned => planInto_numeric f a b typed planned) fun _ numeric => numeric.into_keepsNumbers typed

end

theorem Operand.Counts.castTo (counts : Operand.Counts o s) (firm : o.weak = none) (typed : d ≠ .object) :
    ∃ taken, o.castTo d = pure taken ∧ taken.shape = s := by
  have casts (cells : List Cell) (numbers : ∀ cell ∈ cells, cell.IsNumber) :
      ∃ taken, cells.mapM (castCell d) = pure taken := by
    induction cells with
    | nil => exact ⟨[], rfl⟩
    | cons cell rest ih =>
      rw [List.forall_mem_cons] at numbers
      obtain ⟨n, rfl⟩ := numbers.1
      obtain ⟨taken, cast⟩ := ih numbers.2
      exact ⟨.num (d.cast n) :: taken, by simp [List.mapM_cons, castCell, typed, cast]⟩
  obtain ⟨taken, cast⟩ := casts o.cells counts.numbers
  exact ⟨{ o with dtype := d, cells := taken }, by simp [Operand.castTo, firm, cast], counts.shaped⟩

theorem addInto_goesThrough (typed : d ≠ .object) (typed' : e ≠ .object) (writeable : view.writeable = true)
    (target : Value.Counts m d s (.array number view)) (operand : Value.Counts m e t v)
    (stores : (d.promote e).sameKind d = true) (joined : Layout.broadcastShapes s t = some s) :
    (binaryUfuncInto .add (.array number view) v view).GoesThrough m := by
  have shaped : view.shape = s := by cases target; assumption
  have same : view.dtype = d := by cases target; assumption
  simp only [Run.GoesThrough, binaryUfuncInto, target.accepted, operand.accepted, Bool.or_self, Bool.false_eq_true,
    if_false, completes_bind]
  refine (target.operand typed).imp ?_
  rintro o _ ⟨rfl, counts, firm, typedO⟩
  refine (operand.operand typed').imp ?_
  rintro o' _ ⟨rfl, counts', firm', typedO'⟩
  have met := promote_ne_object d e typed typed'
  have found : Operand.binaryType .add o o' = .ok (d.promote e) := by
    simp [Operand.binaryType, Operand.textMisplaced, counts.textual, counts'.textual, Operand.meet, firm, firm', typedO,
      typedO']
  obtain ⟨a, castA, shapeA⟩ := counts.castTo firm met
  obtain ⟨b, castB, shapeB⟩ := counts'.castTo firm' met
  have onto := resultShape_onto shaped joined
  have planned : (binaryPlan .add o o' (some view)).GoesThrough m := by
    simp [Run.GoesThrough, binaryPlan, found, mayStore, same, stores, castA, castB, shapeA, shapeB, Run.ofExcept, onto]
  obtain ⟨plan, between, planned, _⟩ := planned
  obtain ⟨_, stored, shape, _, numeric⟩ := binaryPlan_planned .add planned
  rw [counts.shaped, counts'.shaped, onto, Except.ok.injEq] at shape
  rw [← same] at typed
  exact planned.completes ((numeric (sameKind_ne_object _ _ typed stored)).into_goesThrough typed
    (shape.symm.trans shaped.symm) writeable between)

end
end Rebind
