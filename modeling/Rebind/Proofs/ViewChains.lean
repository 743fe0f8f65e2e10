import Rebind.Proofs.FlatTargets
/-!
Views in front of a value: windows on memory and views of registered types, one behind the other. A chain of views is open
to writing if none of them is read-only and what is behind the last one is open. The views themselves do not pass writes
on: of values that count as open, only those take a number for all places that are no views, and windows without axes.
-/
namespace Rebind

open Number Strided Value

/-- A view that stands in front of a value: a window on its memory, or a view of a registered type. -/
inductive Layer where
  | window (id : Nat) (readonly : Bool)
  | wrapper (id : Nat) (locked : Option Bool)

def Layer.around : Layer → Value → Value
  | .window id readonly, v => .memoryview id v readonly
  | .wrapper id locked, v => .wrapper id v locked

/-- A type of views that says nothing about its views being locked never is what closes a chain. -/
def Layer.isReadOnly : Layer → Bool
  | .window _ readonly => readonly
  | .wrapper _ locked => locked == some true

def Value.isView : Value → Bool
  | .memoryview _ _ _ | .wrapper _ _ _ => true
  | _ => false

/-- Arrays that say so, boxes of either kind, and sparse matrices in a scheme that can be written are open to writing. -/
inductive Value.IsMutable (m : Memory) : Value → Prop
  | array {number : Nat} {view : View} (writeable : view.writeable = true) : IsMutable m (.array number view)
  | box {number : Nat} {view : View} {foreign : Bool} : IsMutable m (.box number view foreign)
  | sparse {k : Nat} {o : SparseObject} (found : m.objects[k]? = some (.sparse o))
      (writable : o.format ∈ [.csr, .csc, .lil, .dok]) : IsMutable m (.sparse k)

/-- The type of the elements of what is behind all views. -/
def Value.elementType? (m : Memory) : Value → Option DType
  | .array _ view | .box _ view _ => some view.dtype
  | .sparse k =>
    match m.objects[k]? with
    | some (.sparse o) => some o.dtype
    | _ => none
  | .memoryview _ of _ | .wrapper _ of _ => of.elementType? m
  | _ => none

/-- The numbers of an element type; an array of objects holds any. -/
inductive Strided.DType.Has (d : DType) : Numeral → Prop
  | truth (kind : d.kind = .truth) (b : Bool) : Has d (.bool b)
  | integer (kind : d.kind = .integer) {n : Int} (held : d.holds n = true) : Has d (.int n)
  | real (kind : d.kind = .real) (x : Float) : Has d (.float x)
  | complex (kind : d.kind = .complex) (re im : Float) : Has d (.complex re im)
  | object (any : d = .object) (x : Numeral) : Has d x

/-- A number of the type, by itself or as a value of the type. -/
def Value.IsNumberOf (d : DType) (w : Value) : Prop := ∃ x, d.Has x ∧ (w = .num x ∨ w = .scalar d x)

/-- What takes a number for all of its places, if it counts as open to writing. -/
inductive Value.TakesWhole : Value → Prop
  | array {number : Nat} {view : View} : TakesWhole (.array number view)
  | box {number : Nat} {view : View} {foreign : Bool} (writeable : view.writeable = true) :
      TakesWhole (.box number view foreign)
  | sparse {k : Nat} : TakesWhole (.sparse k)
  | window {id number : Nat} {view : View} {readonly : Bool} (flat : view.shape = [])
      (exported : view.dtype.isExportable = true) : TakesWhole (.memoryview id (.array number view) readonly)

section
variable {m : Memory} {v w root : Value} {d : DType} {view : View}

/-! ### Capabilities along a chain -/

theorem isWritable_iff (f : SparseFormat) : f.isWritable = true ↔ f ∈ [SparseFormat.csr, .csc, .lil, .dok] := by
  cases f <;> decide

theorem capabilityOf_around (layer : Layer) (v : Value) : capabilityOf (layer.around v) =
    if layer.isReadOnly = true then pure .cannotMutate else capabilityOf v := by
  cases layer with
  | window id readonly => rfl
  | wrapper id locked => cases locked <;> simp [Layer.around, Layer.isReadOnly, capabilityOf]

theorem capabilityOf_sparse {k : Nat} {o : SparseObject} (found : m.objects[k]? = some (.sparse o)) :
    (capabilityOf (.sparse k)).Yields m (if o.format.isWritable then .canMutate else .cannotMutate) m := by
  obtain ⟨content, reads⟩ := sparseContent_found found
  rw [capabilityOf, yields_bind]
  exact ⟨_, _, reads, yields_pure.mpr ⟨rfl, rfl⟩⟩

theorem capabilityOf_root (plain : root.isView = false)
    (known : ∀ k, root = .sparse k → ∃ o, m.objects[k]? = some (.sparse o)) :
    ∃ c, (capabilityOf root).Yields m c m ∧ (c = .canMutate ↔ root.IsMutable m) := by
  cases root with
  | sparse k =>
    obtain ⟨o, found⟩ := known k rfl
    refine ⟨_, capabilityOf_sparse found, ?_⟩
    by_cases writable : o.format.isWritable = true
    · simp only [writable, if_true, true_iff]
      exact .sparse found ((isWritable_iff _).mp writable)
    · simp only [writable, if_false, reduceCtorEq, false_iff]
      intro mutable
      cases mutable with
      | sparse found' listed =>
        rw [found] at found'
        cases found'
        exact writable ((isWritable_iff _).mpr listed)
  | array number view =>
    refine ⟨_, yields_pure.mpr ⟨rfl, rfl⟩, ?_⟩
    by_cases writeable : view.writeable = true
    · simp only [supportsIndexedAssignment, writeable, if_true, true_iff]
      exact .array writeable
    · simp only [supportsIndexedAssignment, writeable, if_false, reduceCtorEq, false_iff]
      rintro ⟨open_⟩
      exact writeable open_
  | box number view foreign => exact ⟨_, yields_pure.mpr ⟨rfl, rfl⟩, fun _ => .box, fun _ => rfl⟩
  | memoryview | wrapper => cases plain
  | _ => exact ⟨_, yields_pure.mpr ⟨rfl, rfl⟩, nofun, nofun⟩

theorem cellFor_number (number : w.IsNumberOf d) : ∃ cell, cellFor d w = pure cell := by
  by_cases object : d = .object
  · exact ⟨.object w, if_pos object⟩
  obtain ⟨x, has, rfl | rfl⟩ := number
  · have put (y : Numeral) (given : numberFor d (.num x) = .ok y) : cellFor d (.num x) = pure (.num y) := by
      simp [cellFor, object, numberOf, Numeric.ofValue?, given, Run.ofExcept]
    cases has with
    | truth kind b => exact ⟨_, put (.bool b) (by cases b <;> simp [numberFor, kind, Numeric.isZero, Numeral.isZero])⟩
    | @integer kind n held =>
      refine ⟨_, put (.int n) ?_⟩
      rw [numberFor, kind]
      exact if_pos held
    | real kind x => exact ⟨_, put (.float (d.round x)) (by rw [numberFor, kind]; rfl)⟩
    | complex kind re im => exact ⟨_, put (.complex (d.round re) (d.round im)) (by rw [numberFor, kind]; rfl)⟩
    | object any => exact absurd any object
  · exact ⟨.num (d.cast x), by simp [cellFor, object, numberOf]⟩

theorem packed_number (number : w.IsNumberOf d) (exported : d.isExportable = true) : ∃ x, packed d w = pure x := by
  obtain ⟨x, has, given⟩ := number
  cases has with
  | truth kind b =>
    refine ⟨.bool b, ?_⟩
    rcases given with rfl | rfl <;>
      cases b <;> simp [packed, kind, plainTruth, Numeric.ofValue?, Numeric.isZero, Numeral.isZero]
  | @integer kind n held =>
    refine ⟨.int n, ?_⟩
    rcases given with rfl | rfl <;> simp [packed, kind, Value.index?, Numeral.toInt?, held]
  | real kind x =>
    refine ⟨.float (d.round x), ?_⟩
    rcases given with rfl | rfl
    · simp [packed, kind, Numeric.ofValue?, Numeric.toFloat, Numeral.toFloat]
    · simp [packed, kind, Numeric.ofValue?, DType.realPart]
  | complex kind => cases d <;> simp_all [DType.kind, DType.isExportable]
  | object any => simp [any, DType.isExportable] at exported

theorem assign_number_iff (number : w.IsNumberOf view.dtype) :
    (Value.assign view w).GoesThrough m ↔ view.writeable = true := by
  obtain ⟨cell, put⟩ := cellFor_number number
  have plain : Value.assign view w = (do
      if !view.writeable then Run.fail .value
      Run.write view (List.replicate view.size (← cellFor view.dtype w)) : Run Unit) := by
    obtain ⟨x, _, rfl | rfl⟩ := number <;> rfl
  rw [plain, put]
  cases view.writeable with
  | false => exact iff_of_false (fun through => not_goesThrough_fail (completes_bind.mp through).goesThrough) nofun
  | true =>
    obtain ⟨after, ran⟩ := writeCells_complete view.buffer (view.layout.addresses.zip (List.replicate view.size cell)) m
    exact iff_of_true ⟨_, _, ran, trivial⟩ rfl

theorem unnest_number (number : w.IsNumberOf d) (m : Memory) : (unnest nestingLimit w).Yields m ([], [w]) m := by
  obtain ⟨x, _, rfl | rfl⟩ := number <;> rfl

theorem cellsOf_number (s : Sparse) (number : w.IsNumberOf s.dtype) (m : Memory) : (s.cellsOf w).GoesThrough m := by
  obtain ⟨cell, put⟩ := cellFor_number number
  have made : (Sparse.converted s.dtype w).Yields m ⟨s.dtype, Layout.rowMajor [], [cell], none, false⟩ m := by
    have same : Sparse.converted s.dtype w = (do
        let found ← unnest nestingLimit w
        return ⟨s.dtype, Layout.rowMajor found.1, ← found.2.mapM (cellFor s.dtype), none, false⟩ : Run Operand) := by
      obtain ⟨x, _, rfl | rfl⟩ := number <;> rfl
    rw [same, yields_bind]
    refine ⟨_, _, unnest_number number m, ?_⟩
    simp [put]
  obtain ⟨other, stretched⟩ := Layout.broadcastTo?_isSome (Layout.rowMajor []) s.shape trivial
  refine completes_bind.mpr (made.completes ?_)
  simp only [stretched]
  split <;> exact completes_pure.mpr trivial

theorem sparseAssign_number {k : Nat} {o : SparseObject} (found : m.objects[k]? = some (.sparse o))
    (writable : o.format.isWritable = true) (number : w.IsNumberOf o.dtype) : (Sparse.assign k w).GoesThrough m := by
  obtain ⟨content, reads⟩ := sparseContent_found found
  refine completes_bind.mpr (reads.completes ?_)
  have written : (do Sparse.write k ((← (o.shown content).cellsOf w).map some) : Run Unit).GoesThrough m :=
    completes_bind.mpr ((cellsOf_number (o.shown content) number m).imp fun _ _ _ => sparseWrite_goesThrough k _ _)
  obtain ⟨format, isMatrix, dtype, shape, store, slots⟩ := o
  obtain ⟨x, _, rfl | rfl⟩ := number <;> cases format <;> first | exact written | cases writable

theorem not_goesThrough_of_failing {run : Run β} {next : β → Run α} (failing : ¬ run.GoesThrough m) :
    ¬ (run >>= next).GoesThrough m :=
  fun through => failing (completes_bind.mp through).goesThrough

theorem setWindowItem_iff {number : Nat} (given : w.IsNumberOf view.dtype) :
    (setWindowItem (.array number view) false .ellipsis w).GoesThrough m ↔
      view.shape = [] ∧ view.dtype.isExportable = true := by
  rw [setWindowItem, windowOn, pure_bind]
  by_cases exported : view.dtype.isExportable = true
  · obtain ⟨x, put⟩ := packed_number given exported
    simp only [cellWindow, exported, Bool.not_true, Bool.false_eq_true, if_false, and_true]
    cases flat : view.shape with
    | nil =>
      have single : view.layout.addresses = [view.layout.offset] := by
        rw [Layout.addresses, List.map_eq_nil_iff.mp flat]
        rfl
      simp only [put, single]
      exact iff_of_true ⟨⟨⟩, _, yields_modify.mpr rfl, trivial⟩ trivial
    | cons n rest => exact iff_of_false not_goesThrough_fail (by simp)
  · refine iff_of_false ?_ fun fits => exported fits.2
    simp only [cellWindow, exported]
    exact not_goesThrough_of_failing not_goesThrough_fail

/-- Of what counts as open to writing, views other than windows without axes take no number. -/
theorem write_whole_iff (m : Memory) (v w : Value) (d : DType) (can : (Value.capabilityOf v).Yields m .canMutate m)
    (typed : v.elementType? m = some d) (number : w.IsNumberOf d) :
    (Value.setItem v .ellipsis w).GoesThrough m ↔ v.TakesWhole := by
  cases v with
  | array id view =>
    cases typed
    have same : Value.setItem (.array id view) .ellipsis w = Value.assign view w := by
      obtain ⟨x, _, rfl | rfl⟩ := number <;> rfl
    have writeable : view.writeable = true := by
      by_contra closed
      simp [Value.capabilityOf, Value.supportsIndexedAssignment, closed] at can
    rw [same, assign_number_iff number]
    exact iff_of_true writeable .array
  | box id view foreign =>
    cases typed
    have same : Value.setItem (.box id view foreign) .ellipsis w = Value.assign view w := by
      obtain ⟨x, _, rfl | rfl⟩ := number <;> rfl
    rw [same, assign_number_iff number]
    exact ⟨.box, fun | .box writeable => writeable⟩
  | sparse k =>
    rw [Value.elementType?] at typed
    split at typed
    · rename_i o found
      cases typed
      have writable : o.format.isWritable = true := by
        by_contra closed
        have answer := ((capabilityOf_sparse found).eq can).1
        rw [if_neg closed] at answer
        cases answer
      exact iff_of_true (sparseAssign_number found writable number) .sparse
    · cases typed
  | memoryview id of readonly =>
    cases readonly with
    | true => cases (yields_pure.mp can).1
    | false =>
      cases of with
      | array number view =>
        cases typed
        exact (setWindowItem_iff number).trans
          ⟨fun ⟨flat, exported⟩ => .window flat exported, fun | .window flat exported => ⟨flat, exported⟩⟩
      | box | sparse | memoryview | wrapper =>
        exact iff_of_false (not_goesThrough_of_failing not_goesThrough_fail) nofun
      | _ => cases typed
  | wrapper id of locked => exact iff_of_false not_goesThrough_fail nofun
  | _ => cases typed

end

def pairAndSingle : Memory where
  buffers := #[#[wholeCell 1, wholeCell 2], #[wholeCell 3]]
  objects := #[.token, .token, .token]

/-- A number goes through a window without axes. -/
theorem window_takes_number :
    (Value.setItem (.memoryview 2 (.array 1 ⟨1, Layout.rowMajor [], .int64, true⟩) false) .ellipsis (.int 5)).GoesThrough
      pairAndSingle :=
  (write_whole_iff pairAndSingle (.memoryview 2 (.array 1 ⟨1, Layout.rowMajor [], .int64, true⟩) false) (.int 5) .int64
    (yields_pure.mpr ⟨rfl, rfl⟩) rfl ⟨.int 5, .integer rfl (by decide), .inl rfl⟩).mpr (.window rfl rfl)

/-- A window and a registered view of an array count as open to writing, and refuse a number. -/
theorem views_refuse_number :
    let pair : Value := .array 0 ⟨0, Layout.rowMajor [2], .int64, true⟩
    ((Value.capabilityOf (.memoryview 2 pair false)).Yields pairAndSingle .canMutate pairAndSingle ∧
      (Value.setItem (.memoryview 2 pair false) .ellipsis (.int 5)).Fails pairAndSingle (.ordinary .type) pairAndSingle) ∧
    (Value.capabilityOf (.wrapper 2 pair none)).Yields pairAndSingle .canMutate pairAndSingle ∧
      (Value.setItem (.wrapper 2 pair none) .ellipsis (.int 5)).Fails pairAndSingle (.ordinary .type) pairAndSingle :=
  ⟨⟨rfl, rfl⟩, rfl, rfl⟩

end Rebind
