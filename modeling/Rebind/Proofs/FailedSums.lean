import Rebind.Proofs.Numerals
import Rebind.Proofs.ScaledSums
/-!
Scaled sums that fail. The target is scaled in its own cells before the summand is added, and only its type is checked
in advance. So a summand whose shape does not go into the target is noticed too late: the target has been scaled by
then. Apart from that, a summand of numbers leaves its target alone when the sum fails. Objects can refuse to become
numbers at any element, so that a part of the target may have been written.
-/
namespace Rebind

open Number Strided Syntax Value Run

section
variable {m between after : Memory} {d e : DType} {v w alpha beta scaled : Value} {view other : View}

/-! ### Objects -/

theorem repeated_accepted (ran : (repeated n v).Yields m w after) : w.refusesElementwise = false := by
  cases v with
  | str | bytes | tuple =>
    obtain ⟨rfl, _⟩ := yields_pure.mp ran
    rfl
  | bytearray | list =>
    simp only [repeated, newList, yields_bind, yields_pure] at ran
    obtain ⟨_, _, _, _, _, _, rfl, _⟩ := ran
    rfl
  | _ => exact absurd ran yields_fail

theorem concat_accepted (ran : (concat a b).Yields m w after) : w.refusesElementwise = false := by
  unfold concat at ran
  split at ran
  · obtain ⟨rfl, _⟩ := yields_pure.mp ran
    rfl
  · simp only [yields_bind] at ran
    obtain ⟨raw, _, _, ran⟩ := ran
    split at ran
    · obtain ⟨rfl, _⟩ := yields_pure.mp ran
      rfl
    · exact absurd ran yields_fail
  · simp only [yields_bind] at ran
    obtain ⟨raw, _, _, ran⟩ := ran
    split at ran
    · simp only [yields_bind, yields_pure] at ran
      obtain ⟨_, _, _, _, _, _, rfl, _⟩ := ran
      rfl
    · exact absurd ran yields_fail
  · obtain ⟨rfl, _⟩ := yields_pure.mp ran
    rfl
  · simp only [newList, yields_bind, yields_pure] at ran
    obtain ⟨_, _, _, _, _, _, _, _, _, rfl, _⟩ := ran
    rfl
  · exact absurd ran yields_fail

theorem plainBinary_accepted (ran : (plainBinary op a b).Yields m w after) : w.refusesElementwise = false := by
  unfold plainBinary at ran
  split at ran
  · simp only [yields_bind, yields_pure] at ran
    obtain ⟨result, _, _, rfl, _⟩ := ran
    cases result <;> rfl
  · split at ran
    · exact concat_accepted ran
    · split at ran
      · split at ran
        · exact repeated_accepted ran
        · exact absurd ran yields_fail
      · split at ran
        · split at ran
          · exact repeated_accepted ran
          · exact absurd ran yields_fail
        · exact absurd ran yields_fail
    · exact absurd ran yields_fail

theorem elementBinary?_accepted (found : elementBinary? f a b = some (.ok w)) : w.refusesElementwise = false := by
  unfold elementBinary? at found
  split at found
  · split at found
    · simp only [Option.some.injEq, bind, Except.bind, pure, Except.pure] at found
      split at found
      · cases found
      · split at found
        · cases found
        · split at found
          · cases found
          · cases found
            rfl
    · cases found
  · cases found

theorem objectBinary_accepted (f : BinaryUfunc) (exact : f ≠ .maximum) (ran : (objectBinary f a b).Yields m w after) :
    w.refusesElementwise = false := by
  cases f with
  | maximum => exact absurd rfl exact
  | _ =>
    rw [objectBinary] at ran
    split at ran
    · rename_i found
      rw [yields_ofExcept] at ran
      rw [ran.1] at found
      exact elementBinary?_accepted found
    · exact plainBinary_accepted ran

theorem binaryStep_accepted (f : BinaryUfunc) (exact : f ≠ .maximum) (ran : (binaryStep f d x y).Yields m cell after) :
    (element e cell).refusesElementwise = false := by
  unfold binaryStep at ran
  split at ran
  · obtain ⟨rfl, _⟩ := yields_pure.mp ran
    rw [element]
    split <;> rfl
  · simp only [yields_bind, yields_pure] at ran
    obtain ⟨result, _, made, rfl, _⟩ := ran
    exact objectBinary_accepted f exact made

theorem binaryUfunc_accepted (f : BinaryUfunc) (exact : f ≠ .maximum) (ran : (binaryUfunc f a b).Yields m w after) :
    w.refusesElementwise = false := by
  simp only [binaryUfunc] at ran
  split at ran
  · simp at ran
  · simp only [yields_bind] at ran
    obtain ⟨o, _, _, o', _, _, plan, _, planned, ran⟩ := ran
    have steps : ∀ step ∈ plan.steps, ∀ m cell after, step.Yields m cell after →
        (element plan.dtype cell).refusesElementwise = false := by
      simp only [binaryPlan, yields_bind] at planned
      obtain ⟨d, _, _, planned⟩ := planned
      split at planned
      · simp at planned
      · simp only [yields_bind, yields_pure] at planned
        obtain ⟨_, _, _, _, _, _, _, _, _, rfl, _⟩ := planned
        intro step member m cell after computed
        obtain ⟨pair, _, rfl⟩ := List.mem_map.mp member
        exact binaryStep_accepted f exact computed
    simp only [Plan.result, yields_bind] at ran
    obtain ⟨cells, _, computed, ran⟩ := ran
    have accepted := mapM_gives plan.steps steps computed
    split at ran
    · obtain ⟨rfl, _⟩ := yields_pure.mp ran
      exact accepted _ (by simp)
    · simp only [newArray, yields_bind, yields_pure] at ran
      obtain ⟨_, _, _, _, _, _, rfl, _⟩ := ran
      rfl

/-! ### Assignment -/

theorem View.cell_mem_parts {place : Int} (there : place ∈ view.layout.addresses) :
    .cell view.buffer place.toNat ∈ view.parts :=
  ⟨(view.buffer, place.toNat), List.mem_map.mpr ⟨place, there, rfl⟩, rfl⟩

theorem writeCell_alters {place : Int} (there : place ∈ view.layout.addresses) (cell : Cell) :
    (writeCell view.buffer place cell).Leaves (Memory.Alters view.parts) := by
  refine (writeCell_writes view.buffer place cell).imp fun m after writes => writes.alters ?_
  rintro _ rfl
  exact View.cell_mem_parts there

theorem writeEach_alters (view : View) (steps : List (Run Cell)) (adds : ∀ step ∈ steps, step.Adds) :
    (writeEach view steps).Leaves (Memory.Alters view.parts) := by
  refine leaves_forM _ ?_
  rintro ⟨place, step⟩ member
  obtain ⟨there, given⟩ := List.of_mem_zip member
  exact .bind ((adds step given).alters _) fun cell => writeCell_alters there cell

theorem write_alters (view : View) (cells : List Cell) : (Run.write view cells).Leaves (Memory.Alters view.parts) :=
  (write_writes view cells).imp fun _ _ writes => writes.alters fun spot member => ⟨spot, member, rfl⟩

theorem write_changes (view : View) (cells : List Cell) :
    (Run.write view cells).Leaves (Memory.Changes ∅ {spot | spot ∈ view.spots}) :=
  (write_writes view cells).imp fun _ _ writes => writes.toChanges

theorem assign_alters (view : View) (v : Value) : (Value.assign view v).Leaves (Memory.Alters view.parts) := by
  have copied : (do
      let source ← Value.operand v
      let cells ← Run.ofExcept (spreadOver source view.shape)
      if source.dtype = view.dtype then Run.write view cells
      else writeEach view (cells.map (castCell view.dtype)) : Run Unit).Leaves
        (Memory.Alters view.parts) := by
    refine .bind ((operand_adds v).alters _) fun source => .bind (leaves_ofExcept _) fun cells => ?_
    refine leaves_ite.mpr ⟨fun _ => write_alters view cells, fun _ => writeEach_alters view _ ?_⟩
    intro step member
    obtain ⟨cell, _, rfl⟩ := List.mem_map.mp member
    exact castCell_adds _ _
  have taken : (do
      let found ← partsFor view v
      let given : Operand := ⟨.object, Layout.rowMajor found.1, found.2.map Cell.object, none, false⟩
      let cells ← Run.ofExcept (spreadOver given view.shape)
      let steps := cells.map fun cell => cellFor view.dtype (ofCell cell)
      if found.1 = view.shape then writeEach view steps
      else Run.write view (← steps.mapM id) : Run Unit).Leaves (Memory.Alters view.parts) := by
    refine .bind ((unnest_adds _ v).alters _) fun found => .bind (leaves_ofExcept _) fun cells => ?_
    have adds : ∀ step ∈ cells.map fun cell => cellFor view.dtype (ofCell cell), step.Adds := by
      intro step member
      obtain ⟨cell, _, rfl⟩ := List.mem_map.mp member
      exact cellFor_adds _ _
    exact leaves_ite.mpr ⟨fun _ => writeEach_alters view _ adds, fun _ =>
      .bind (Run.Leaves.alters (leaves_mapM _ adds) _) fun cells => write_alters view cells⟩
  have single : (do
      let cell ← cellFor view.dtype v
      Run.write view (List.replicate view.size cell) : Run Unit).Leaves (Memory.Alters view.parts) :=
    .bind ((cellFor_adds _ v).alters _) fun cell => write_alters view _
  simp only [Value.assign]
  refine leaves_guard ?_
  cases v with
  | array | bytearray | memoryview => exact copied
  | list | tuple => exact taken
  | _ => exact single

theorem Memory.Alters.changes (alters : m.Alters view.parts after) : m.Changes ∅ {spot | spot ∈ view.spots} after := by
  refine alters.toChanges.mono ?_ ?_
  · rintro name ⟨_, _, wrong⟩
    cases wrong
  · rintro spot ⟨other, member, same⟩
    obtain ⟨buffer, place⟩ := Part.cell.inj same
    rwa [Prod.ext buffer place]

theorem spreadOver_numbers {o : Operand} (numbers : ∀ cell ∈ o.cells, cell.IsNumber)
    (spread : spreadOver o shape = .ok cells) : ∀ cell ∈ cells, cell.IsNumber := by
  simp only [spreadOver] at spread
  split at spread
  · cases spread
    exact spread_numbers (by exact numbers) shape
  · cases spread

theorem assign_fails (typed : view.dtype ≠ .object) (typed' : d ≠ .object) (counts : v.Counts m d s)
    (failed : (Value.assign view v).Fails m fault after) : m = after := by
  have written (cells : List Cell) (numbers : ∀ cell ∈ cells, cell.IsNumber) (m : Memory) :
      (writeEach view (cells.map (castCell view.dtype))).GoesThrough m := by
    refine forM_goesThrough _ ?_ m
    rintro ⟨place, step⟩ member m
    obtain ⟨cell, given, rfl⟩ := List.mem_map.mp (List.of_mem_zip member).2
    obtain ⟨n, rfl⟩ := numbers cell given
    simp only [castCell, typed, if_false, pure_bind]
    exact ⟨⟨⟩, _, yields_modify.mpr rfl, trivial⟩
  simp only [Value.assign] at failed
  split at failed
  · rcases fails_bind.mp failed with failed | ⟨_, _, ran, _⟩
    · exact fails_fail failed
    · exact absurd ran yields_fail
  · cases id counts with
    | single flat =>
      simp only [cellFor, typed, if_false, numberOf, pure_bind] at failed
      exact absurd failed (write_goesThrough view _ m).not_fails
    | array _ _ _ _ =>
      obtain ⟨o, _, reads, rfl, taken, _⟩ := counts.operand typed'
      rw [reads.bind_fails] at failed
      cases spread : spreadOver o view.shape with
      | error _ =>
        simp only [spread, Run.ofExcept] at failed
        exact (Prod.mk.inj failed).2
      | ok cells =>
        have numbers := spreadOver_numbers taken.numbers spread
        simp only [spread, Run.ofExcept, pure_bind] at failed
        split at failed
        · exact absurd failed (write_goesThrough view cells m).not_fails
        · exact absurd failed (written cells numbers m).not_fails

/-! ### Parts of a scaled sum -/

theorem truth_adds (v : Value) : (Value.truth v).Adds := by
  unfold Value.truth
  cases v with
  | array => exact .bind (read_adds _) fun _ => by grind
  | sparse => exact .bind (sparseContent_adds _) fun _ => leaves_ite.mpr ⟨fun _ => leaves_pure _, fun _ => leaves_fail _⟩
  | memoryview id of readonly =>
    unfold windowLength windowOn
    grind
  | _ => exact plainTruth_adds _

theorem differs_adds (number : beta.IsNumber) (n : Int) : (differs beta n).Adds := by
  have whole : (compareWhole .notEq beta (.int n)).Adds := by
    cases number with
    | plain x => exact .bind (plainCompare_adds _ _ _) fun _ => leaves_pure _
    | element typed x =>
      simp only [compareWhole, isBox, Bool.or_self, Bool.false_eq_true, if_false, isNumeric,
        Bool.true_or, if_true, exactCompare?, pure_bind, int]
      exact compareArrays_adds _ _ _
  have same : Value.compare .notEq beta (.int n) = compareWhole .notEq beta (.int n) := by
    cases number <;> rfl
  rw [differs, same]
  exact .bind whole fun _ => truth_adds _

theorem sumType_adds (a b c : Value) : (Value.sumType a b c).Adds := by
  unfold Value.sumType
  refine .bind (leaves_mapM _ fun v _ => ?_) fun _ => leaves_pure _
  grind

theorem Value.Counts.isSummand (counts : v.Counts m d s) : v.IsSummand := by
  cases counts <;> constructor

theorem Value.IsNumber.isSummand (number : v.IsNumber) : v.IsSummand := by
  cases number <;> constructor

theorem Value.IsSummand.dense (summand : v.IsSummand) : v.Dense := by
  cases summand <;> exact ⟨rfl, rfl, rfl, fun _ => rfl⟩

theorem isSummand_of_sumType (accepted : scaled.refusesElementwise = false)
    (ran : (Value.sumType scaled w beta).Yields m found after) : scaled.IsSummand := by
  simp only [Value.sumType, List.mapM_cons, yields_bind] at ran
  obtain ⟨_, _, ⟨_, _, typed, _⟩, _⟩ := ran
  split at typed
  · constructor
  · constructor
  · constructor
  · cases accepted
  · exact absurd typed yields_fail

theorem sumType_sameKind (first : Value.Counts m e s scaled) (second : Value.Counts m d t w) (typed : e ≠ .object)
    (typed' : d ≠ .object) (number : beta.IsNumber) (ran : (Value.sumType scaled w beta).Yields m found after)
    (stores : found.sameKind d = true) : (d.promote e).sameKind d = true := by
  obtain ⟨a, _, readsA, rfl, _, firmA, typedA⟩ := first.operand typed
  obtain ⟨b, _, readsB, rfl, _, firmB, typedB⟩ := second.operand typed'
  obtain ⟨c, _, readsC, rfl, _⟩ := number.operand m
  obtain ⟨rfl, _⟩ := (sumType_reads first.isSummand second.isSummand number.isSummand readsA readsB readsC).eq ran
  rw [promote_comm]
  simp only [DType.sameKind, decide_eq_true_eq] at stores ⊢
  refine le_trans ?_ stores
  cases weak : c.weak with
  | none => simpa [Operand.sumType, firmA, firmB, weak, typedA, typedB] using rank_promote _ _
  | some n => simpa [Operand.sumType, firmA, firmB, weak, typedA, typedB] using rank_promoteWeak _ _

/-! ### Failed sums -/

/-- An array that is not for objects holds numbers. -/
structure View.HoldsNumbers (view : View) (m : Memory) : Prop where
  stored : view.buffer < m.buffers.size
  numbers : view.dtype ≠ .object → ∀ spot ∈ view.spots, (m.cell spot).IsNumber

theorem View.HoldsNumbers.counts (holds : view.HoldsNumbers m) (typed : view.dtype ≠ .object) (number : Nat) :
    Value.Counts m view.dtype view.shape (.array number view) :=
  .array holds.stored rfl rfl (holds.numbers typed)

/-- The target was scaled by a factor other than one, and nothing else was written. -/
def View.OnlyScaled (view : View) (number : Nat) (beta : Value) (m after : Memory) : Prop :=
  ∃ before between last, m.Grows before ∧ (differs beta 1).Yields before true between ∧ before.Grows between ∧
    (binaryUfuncInto .multiply (.array number view) beta view).Yields between () last ∧ last.Grows after

/-- The sum added to the target in its own cells. -/
def Value.addScaled (number : Nat) (view : View) (scaled beta : Value) : Run Unit := do
  if ← differs beta 1 then binaryUfuncInto .multiply (.array number view) beta view
  binaryUfuncInto .add (.array number view) scaled view

/-- The sum made anew and assigned to the target. -/
def Value.assignScaled (number : Nat) (view : View) (scaled beta : Value) : Run Unit := do
  setItem (.array number view) .ellipsis (← binary .add scaled (← binary .mult beta (.array number view)))

theorem scaledAddInto_eq (number : Nat) (view : View) (alpha x beta : Value) :
    scaledAddInto (.array number view) alpha x beta = do
      let scaled ← applyBinary .multiply alpha x
      let d ← Value.sumType scaled (.array number view) beta
      if d.sameKind view.dtype then addScaled number view scaled beta
      else assignScaled number view scaled beta
      return .array number view := by
  simp only [scaledAddInto, addScaled, assignScaled]
  refine congrArg _ (funext fun scaled => congrArg _ (funext fun d => ?_))
  split
  · simp only [bind_assoc]
    refine congrArg _ (funext fun b => ?_)
    cases b <;> simp
  · simp

theorem addScaled_fails (typed : view.dtype ≠ .object) (writeable : view.writeable = true) (holds : view.HoldsNumbers m)
    (number : beta.IsNumber) (failed : (addScaled i view scaled beta).Fails m fault after) :
    m.Grows after ∨ (view.OnlyScaled i beta m after ∧ ∀ e s, e ≠ .object → scaled.Counts m e s →
      (view.dtype.promote e).sameKind view.dtype = true → Layout.broadcastShapes view.shape s ≠ some view.shape) := by
  rcases fails_bind.mp failed with failed | ⟨b, between, compared, failed⟩
  · exact .inl ((differs_adds number 1).fails failed).toChanges
  have grows := (differs_adds number 1).yields compared
  cases b with
  | false => exact .inl (grows.trans (binaryUfuncInto_fails _ _ _ typed failed)).toChanges
  | true =>
    rcases fails_bind.mp failed with failed | ⟨_, last, multiplied, failed⟩
    · exact .inl (grows.trans (binaryUfuncInto_fails _ _ _ typed failed)).toChanges
    · have added := (binaryUfuncInto_fails _ _ _ typed failed).toChanges
      refine .inr ⟨⟨m, between, last, .refl _ _ _, compared, grows.toChanges, multiplied, added⟩, ?_⟩
      intro e s typed' counts stores joined
      -- scaling has left numbers where there were numbers, so the sum would have gone through
      have keeps : m.KeepsNumbers last :=
        Trans.trans grows.keepsNumbers ((binaryUfuncInto_keepsNumbers .multiply _ _ typed).yields multiplied)
      exact (addInto_goesThrough typed typed' writeable ((holds.counts typed i).kept keeps) (counts.kept keeps) stores
        joined).not_fails failed

theorem assignScaled_fails (typed : view.dtype ≠ .object) (holds : view.HoldsNumbers m) (number : beta.IsNumber)
    (summand : scaled.IsSummand) (failed : (assignScaled i view scaled beta).Fails m fault after) :
    m.Changes ∅ {spot | spot ∈ view.spots} after ∧ ∀ e s, e ≠ .object → scaled.Counts m e s → m.Grows after := by
  have target := holds.counts typed i
  have times : Value.binary .mult beta (.array i view) = binaryUfunc .multiply beta (.array i view) :=
    binary_dense .mult rfl number.isSummand.dense target.isSummand.dense (.inr rfl)
  rw [assignScaled, times] at failed
  rcases fails_bind.mp failed with failed | ⟨kept, between, multiplied, failed⟩
  · have grows := ((binaryUfunc_adds _ _ _).fails failed).toChanges
    exact ⟨grows.widened _ _, fun _ _ _ _ => grows⟩
  have first := (binaryUfunc_adds _ _ _).yields multiplied
  obtain ⟨d, q, typed', counts, _⟩ := binaryUfunc_counts .multiply (number.operand m)
    ((target.operand typed).imp fun _ _ found => ⟨found.1, found.2.1⟩) multiplied
  have plus : Value.binary .add scaled kept = binaryUfunc .add scaled kept :=
    binary_dense .add rfl summand.dense counts.isSummand.dense (.inr (by cases counts <;> rfl))
  rw [plus] at failed
  rcases fails_bind.mp failed with failed | ⟨total, last, added, failed⟩
  · have grows := (first.trans ((binaryUfunc_adds _ _ _).fails failed)).toChanges
    exact ⟨grows.widened _ _, fun _ _ _ _ => grows⟩
  have grows := first.trans ((binaryUfunc_adds _ _ _).yields added)
  have assigned : setItem (.array i view) .ellipsis total = Value.assign view total := by
    have accepted := binaryUfunc_accepted .add (by simp) added
    cases total with
    | box | sparse => cases accepted
    | _ => simp [setItem, select, selectView, isBox]
  rw [assigned] at failed
  refine ⟨(grows.toChanges.widened _ _).trans ((assign_alters view total).fails failed).changes, ?_⟩
  intro e s typedE countsE
  obtain ⟨d', q', typedTotal, countsTotal, _⟩ := binaryUfunc_counts .add
    (((countsE.kept first.keepsNumbers).operand typedE).imp fun _ _ found => ⟨found.1, found.2.1⟩)
    ((counts.operand typed').imp fun _ _ found => ⟨found.1, found.2.1⟩) added
  obtain rfl := assign_fails typed typedTotal countsTotal failed
  exact grows.toChanges

theorem fails_bind_pure {run : Run α} {b : β} :
    (run >>= fun _ => pure b).Fails m fault after ↔ run.Fails m fault after := by
  refine fails_bind.trans (or_iff_left ?_)
  rintro ⟨_, between, _, failed⟩
  have through : (pure b : Run β).GoesThrough between := completes_pure.mpr trivial
  exact through.not_fails failed

theorem scaledSummand_counts (scalar : alpha.IsNumber) (typed : other.dtype ≠ .object) (holds : other.HoldsNumbers m)
    (ran : (binaryUfunc .multiply alpha (.array i other)).Yields m scaled after) :
    ∃ e, e ≠ .object ∧ scaled.Counts after e other.shape := by
  obtain ⟨e, q, typed', counts, shaped⟩ := binaryUfunc_counts .multiply (scalar.operand m)
    (((holds.counts typed i).operand typed).imp fun _ _ found => ⟨found.1, found.2.1⟩) ran
  rw [resultShape_joined (Layout.broadcastShapes_nil other.shape), Except.ok.injEq] at shaped
  exact ⟨e, typed', shaped ▸ counts⟩

/-- What a failed scaled sum leaves in its target: what was there before; or that scaled, if the summand cannot be
stretched to the target or is of objects; or, for a summand of objects only, anything, with nothing written elsewhere. -/
theorem failedSum_target (number i : Nat) (view other : View) (alpha beta : Value) (scalar : alpha.IsNumber)
    (scalar' : beta.IsNumber) (m after : Memory) (fault : Fault) (typed : view.dtype ≠ .object)
    (writeable : view.writeable = true) (holds : view.HoldsNumbers m) (holds' : other.HoldsNumbers m)
    (failed : (Value.scaledAddInto (.array number view) alpha (.array i other) beta).Fails m fault after) :
    (m.Grows after ∧ after.contents view = m.contents view) ∨
      (view.OnlyScaled number beta m after ∧
        (other.dtype ≠ .object → Layout.broadcastShapes view.shape other.shape ≠ some view.shape)) ∨
      (other.dtype = .object ∧ m.Changes ∅ {spot | spot ∈ view.spots} after) := by
  have untouched (grows : m.Grows after) : m.Grows after ∧ after.contents view = m.contents view :=
    ⟨grows, grows.shows holds.stored (by simp)⟩
  have multiplied : Value.applyBinary .multiply alpha (.array i other) =
      Value.binaryUfunc .multiply alpha (.array i other) := by
    cases scalar <;> rfl
  rw [scaledAddInto_eq, multiplied] at failed
  rcases fails_bind.mp failed with failed | ⟨scaled, between, scaling, failed⟩
  · exact .inl (untouched ((Value.binaryUfunc_adds _ _ _).fails failed).toChanges)
  have first := (Value.binaryUfunc_adds _ _ _).yields scaling
  rcases fails_bind.mp failed with failed | ⟨d, last, found, failed⟩
  · exact .inl (untouched (first.trans ((sumType_adds _ _ _).fails failed)).toChanges)
  have second := (sumType_adds _ _ _).yields found
  have extends_ := first.trans second
  have kept : view.HoldsNumbers last := by
    refine ⟨holds.stored.trans_le extends_.buffers, fun _ spot member => ?_⟩
    exact extends_.keepsNumbers.numbers spot (by rw [View.mem_spots_buffer member]; exact holds.stored)
      (holds.numbers typed spot member)
  split at failed
  · rename_i stores
    rcases addScaled_fails typed writeable kept scalar' (fails_bind_pure.mp failed) with grows | ⟨scaledOnly, misfit⟩
    · exact .inl (untouched (extends_.toChanges.trans grows))
    · obtain ⟨before, between', last', grows, rest⟩ := scaledOnly
      refine .inr (.inl ⟨⟨before, between', last', extends_.toChanges.trans grows, rest⟩, fun numeric => ?_⟩)
      obtain ⟨e, typed', counts⟩ := scaledSummand_counts scalar numeric holds' scaling
      have target := (holds.counts typed number).kept first.keepsNumbers
      exact misfit e _ typed' (counts.kept second.keepsNumbers)
        (sumType_sameKind counts target typed' typed scalar' found stores)
  · have summand := isSummand_of_sumType (binaryUfunc_accepted .multiply (by simp) scaling) found
    obtain ⟨changes, grows⟩ := assignScaled_fails typed kept scalar' summand (fails_bind_pure.mp failed)
    by_cases objects : other.dtype = .object
    · exact .inr (.inr ⟨objects, (extends_.toChanges.widened _ _).trans changes⟩)
    · obtain ⟨e, typed', counts⟩ := scaledSummand_counts scalar objects holds' scaling
      exact .inl (untouched (extends_.toChanges.trans (grows e _ typed' (counts.kept second.keepsNumbers))))

def shortAndLong : Memory where
  buffers := #[#[wholeCell 1, wholeCell 2], #[wholeCell 1, wholeCell 1, wholeCell 1]]
  objects := #[.token, .token]

def shortRow : View := ⟨0, Layout.rowMajor [2], .int64, true⟩

def longRow : View := ⟨1, Layout.rowMajor [3], .int64, true⟩

/-- The same rows and the long one scaled by one, after the short one was doubled. -/
def doubledAndLong : Memory where
  buffers := #[#[wholeCell 2, wholeCell 4], #[wholeCell 1, wholeCell 1, wholeCell 1],
    #[wholeCell 1, wholeCell 1, wholeCell 1]]
  objects := #[.token, .token, .token]

theorem longSummand_fails :
    (scaledAddInto (.array 0 shortRow) (.num (.int 1)) (.array 1 longRow) (.num (.int 2))).Fails shortAndLong
      (.ordinary .value) doubledAndLong := rfl

/-- A row that was doubled for a summand of another length. -/
theorem longSummand_only_scaled : shortRow.OnlyScaled 0 (.num (.int 2)) shortAndLong doubledAndLong ∧
    Layout.broadcastShapes shortRow.shape longRow.shape ≠ some shortRow.shape := by
  have short : shortRow.HoldsNumbers shortAndLong := by
    refine ⟨by decide, fun _ spot member => ?_⟩
    replace member : spot ∈ [(0, 0), (0, 1)] := member
    simp only [List.mem_cons, List.not_mem_nil, or_false] at member
    rcases member with rfl | rfl <;> exact ⟨_, rfl⟩
  have long : longRow.HoldsNumbers shortAndLong := by
    refine ⟨by decide, fun _ spot member => ?_⟩
    replace member : spot ∈ [(1, 0), (1, 1), (1, 2)] := member
    simp only [List.mem_cons, List.not_mem_nil, or_false] at member
    rcases member with rfl | rfl | rfl <;> exact ⟨_, rfl⟩
  rcases failedSum_target 0 1 shortRow longRow _ _ (.plain _) (.plain _) _ _ _ (by decide) rfl short long longSummand_fails
    with ⟨_, same⟩ | ⟨scaled, misfit⟩ | ⟨objects, _⟩
  · have equal : [wholeCell 2, wholeCell 4] = [wholeCell 1, wholeCell 2] := same
    simp [wholeCell] at equal
  · exact ⟨scaled, misfit (by decide)⟩
  · cases objects

/-- Three numbers cannot be added to two, but the two have been doubled when that is noticed. -/
theorem long_summand_doubles_target :
    ∃ after, (Value.scaledAddInto (.array 0 shortRow) (.num (.int 1)) (.array 1 longRow) (.num (.int 2))).Fails
      shortAndLong (.ordinary .value) after ∧
      shortAndLong.contents shortRow = [1, 2].map wholeCell ∧ after.contents shortRow = [2, 4].map wholeCell :=
  ⟨doubledAndLong, longSummand_fails, rfl, rfl⟩

end
end Rebind
