import Rebind.Proofs.Grammar
import Rebind.Proofs.PlainProducts
/-!
New arrays after others. `a = copy(b)`, `a = zero(b)` and `a = similar(b)` keep the shape, the type and the capability of
an array of any type and layout. An array that takes writes is never shared; one that is read-only may be.
-/
namespace Rebind

open Number Strided Syntax Value Run Program Update

/-- What is left behind when the variable has been bound to an array made after another one. -/
structure Allocated (kind : Allocation) (m : Memory) (number : Nat) (view : View) (target : String) (after : Memory)
    (k : Nat) (made : View) : Prop where
  changes : m.Changes {target} ∅ after
  bound : after.globals.lookup target = some (.array k made)
  shape : made.shape = view.shape
  dtype : made.dtype = view.dtype
  capability : capabilityOf (.array k made) = capabilityOf (.array number view)
  itself : view.writeable = false → kind ≠ .zero → k = number ∧ made = view
  fresh : view.writeable = true ∨ kind = .zero → made.Placed after ∧ m.objects.size ≤ k ∧
    ∀ i < m.objects.size, ∀ other : View, other.buffer < m.buffers.size →
      sharesMemory (.array k made) (.array i other) = false
  copied : kind = .copy → after.contents made = m.contents view
  zeros : kind = .zero → after.contents made = List.replicate view.size (zeroElement view.dtype (m.contents view))
  similar : kind = .similar → view.writeable = true → ∀ zero, elementZero view.dtype (m.contents view) = some zero →
    after.contents made = List.replicate view.size (.object zero)

/-! ### The statement and its replacement -/

def allocationOf (span : Span) (kind : Allocation) (target source : String) : Stmt :=
  .assign span [.name span.lines target]
    (.call span.lines (.name span.lines kind.head) [.name span.lines source] [])

def allocationReplaced (span : Span) (kind : Allocation) (target source : String) : Stmt :=
  allocationReplacement span kind (.name span.lines target) (.name span.lines source)

theorem allocationReplaced_plain (span : Span) (kind : Allocation) (target source : String)
    (free : canBind target = true) : (allocationReplaced span kind target source).Plain := by
  have made (attr : String) : (assign span (.name span.lines target)
      (callLibrary span.lines attr [.name span.lines source])).Plain :=
    .assign free (plain_callLibrary _ _ (by simpa using .name))
  have same : (assign span (.name span.lines target) (.name span.lines source)).Plain := .assign free .name
  cases kind with
  | copy | similar => exact plain_capabilityBranch (by simpa using made _) (by simpa using same)
  | zero => exact plain_capabilityBranch (by simpa using made _) (by simpa using made _)

section
variable {m : Memory} {view : View} (ready : m.Ready) (given : m.globals.lookup source = some (.array number view))
include ready given

/-- A kernel that makes a new array is called on the source, and the target is bound to what it gives. -/
theorem anew_allocated {f : Builtin} {cells : List Cell} (found : Module.attr? .helpers attr = some (.builtin f))
    (direct : ∀ n vs, Program.call (n + 1) (.builtin f) vs [] = f.call (Program.call n) vs [])
    (apart : f.tellsApart = false)
    (called : ∀ caller, (Builtin.callOn caller f [.array number view] []).Completes m fun v between =>
      v.LikeNew m between view view.writeable cells)
    (fresh : view.writeable = true ∨ kind = .zero) (copied : kind = .copy → cells = m.contents view)
    (zeros : kind = .zero → cells = List.replicate view.size (zeroElement view.dtype (m.contents view)))
    (similar : kind = .similar → ∀ zero, elementZero view.dtype (m.contents view) = some zero →
      cells = List.replicate view.size (.object zero)) :
    (execAll (n + 5) none [assign span (.name l target) (callLibrary l attr [.name l source])]).Completes m
      fun _ after => ∃ k made, Allocated kind m number view target after k made := by
  refine execAll_cons_completes (exec_assign_completes (kernel_completes ready found (by simp [Update.isStarred]) direct
    apart ?_))
  simp only [List.mapM_cons, List.mapM_nil, completes_bind, completes_pure, completes_evalWhole_name,
    loadGlobal_completes given]
  intro caller
  refine (called caller).imp ?_
  rintro _ between ⟨grows, k, made, rfl, later, written, anew, _⟩
  refine ⟨rfl, fun w after changes bound _ same => ⟨trivial, completes_execAll_nil.mpr ?_⟩⟩
  obtain rfl := same rfl
  have shown : after.contents made = cells := (changes.contents anew.placed (by simp)).trans anew.shown
  refine ⟨k, made, (grows.widened _ _).trans changes, bound, anew.shape, anew.dtype, ?_, ?_, ?_, fun same =>
    shown.trans (copied same), fun same => shown.trans (zeros same), fun same _ zero found =>
    shown.trans (similar same zero found)⟩
  · exact congrArg (fun b : Bool => (pure (if b then .canMutate else .cannotMutate) : Run Capability)) written
  · intro readOnly other
    simp [readOnly, other] at fresh
  · refine fun _ => ⟨anew.placed.later changes, later, fun i known other stored => ?_⟩
    have different : k ≠ i := by omega
    have elsewhere : made.buffer ≠ other.buffer := Nat.ne_of_gt (stored.trans_le anew.new)
    simp [sharesMemory, isSame, identity?, overlap, different, elsewhere]

omit ready in
theorem itself_allocated (readOnly : view.writeable = false) (other : kind ≠ .zero)
    (stored : view.buffer < m.buffers.size) :
    (execAll (n + 4) none [assign span (.name l target) (.name l source)]).Completes m fun _ after =>
      ∃ k made, Allocated kind m number view target after k made := by
  refine execAll_cons_completes (exec_assign_completes
    ((completes_evalWhole_name.trans (loadGlobal_completes given)).mpr ?_))
  intro w after changes bound _ same
  obtain rfl := same rfl
  refine ⟨rfl, completes_execAll_nil.mpr ⟨number, view, changes, bound, rfl, rfl, rfl, fun _ _ => ⟨rfl, rfl⟩, ?_, ?_,
    fun zero => absurd zero other, ?_⟩⟩
  · simp [readOnly, other]
  · exact fun _ => changes.shows stored (by simp)
  · simp [readOnly]

theorem allocation_completes (kind : Allocation) (free : canBind target = true)
    (stored : view.buffer < m.buffers.size) :
    (runStatement (allocationReplaced span kind target source)).Completes m fun _ after =>
      ∃ k made, Allocated kind m number view target after k made := by
  rw [runStatement_completes (allocationReplaced_plain span kind target source free)]
  cases kind <;> refine (capabilityBranch_completes (n := 9994) ready given).mpr ?_ <;>
    cases writeable : view.writeable
  case copy.true =>
    exact anew_allocated ready given rfl (fun _ _ => rfl) rfl (fun _ => writeable ▸ copyOf_completes number view m)
      (.inl writeable) (fun _ => rfl) nofun nofun
  case zero.true =>
    exact anew_allocated ready given rfl (fun _ _ => rfl) rfl (fun _ => writeable ▸ likeArray_completes number zeroCell)
      (.inr rfl) nofun (fun _ => rfl) nofun
  case zero.false =>
    exact anew_allocated ready given rfl (fun _ _ => rfl) rfl (fun _ => zeroValue_completes number view m)
      (.inr rfl) nofun (fun _ => rfl) nofun
  case similar.true =>
    exact anew_allocated ready given rfl (fun _ _ => rfl) rfl (fun _ => writeable ▸ likeArray_completes number emptyCell)
      (.inl writeable) nofun nofun fun _ zero found => by rw [found]; rfl
  all_goals exact itself_allocated given writeable nofun stored

end

/-- Whatever an array holds and however it is laid out, the three allocations go through and bind the target to an
array of its shape and type that takes writes exactly if it does. No cell changes. -/
theorem allocation_keeps_representation (policy : Policy) (depth : Int) (progress : Progress) (span : Span)
    (kind : Allocation) (target source : String) (free : canBind target = true) (m : Memory) (ready : m.Ready)
    (number : Nat) (view : View) (given : m.globals.lookup source = some (.array number view))
    (stored : view.buffer < m.buffers.size) : ∃ replaced last after k made,
      lowerStatement policy depth (allocationOf span kind target source) progress = (.ok replaced, last) ∧
      (runStatement replaced).Yields m () after ∧ Allocated kind m number view target after k made := by
  have taken : special? policy.accumulate (allocationOf span kind target source) =
      .ok (some (.allocation kind (.name span.lines target) (.name span.lines source))) := by
    cases kind <;> rfl
  have lowered : ∃ last, lowerStatement policy depth (allocationOf span kind target source) progress =
      (.ok (allocationReplaced span kind target source), last) := by
    simp only [lowerStatement, recognise_special taken]
    exact ⟨_, rfl⟩
  obtain ⟨last, lowered⟩ := lowered
  obtain ⟨_, after, ran, k, made, allocated⟩ := allocation_completes ready given kind free stored
  exact ⟨_, last, after, k, made, lowered, ran, allocated⟩

/-- A read-only row of objects, met from its end: a fraction, then a text. -/
def mixedRow : Memory where
  buffers := #[#[.object (.str "x"), .object (.fraction (.ofInt 3))]]
  objects := #[.token]
  globals := [("b", .array 0 ⟨0, ⟨1, [⟨2, -1⟩]⟩, .object, false⟩)]
  prelude := replacedNames

/-- The first element decides: the zeros are fractions, and a text is replaced by one too. -/
theorem mixedRow_zeroed : ∃ replaced last after k made,
    lowerStatement .standard 1 (allocationOf ⟨1, 0, 1, 11⟩ .zero "a" "b") {} = (.ok replaced, last) ∧
      (runStatement replaced).Yields mixedRow () after ∧ after.globals.lookup "a" = some (.array k made) ∧
      made.shape = [2] ∧ after.contents made = [.object (.fraction (.ofInt 0)), .object (.fraction (.ofInt 0))] := by
  obtain ⟨replaced, last, after, k, made, lowered, ran, allocated⟩ := allocation_keeps_representation .standard 1 {}
    ⟨1, 0, 1, 11⟩ .zero "a" "b" rfl mixedRow ⟨rfl, rfl⟩ 0 _ rfl (by decide)
  exact ⟨replaced, last, after, k, made, lowered, ran, allocated.bound, allocated.shape, allocated.zeros rfl⟩

end Rebind
