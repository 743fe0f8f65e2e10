import Rebind.Proofs.ProductUpdates
import Rebind.Proofs.Rows
/-!
Two runs of a replaced block: one in which every variable has an array of its own that takes writes, and one in
which any of them may be frozen. A frozen variable is bound to new values where the other run writes, and it may
come to share its cells with an operand. As long as shared cells are left alone, no one can tell the runs apart.
-/
namespace Rebind

open Number Strided Syntax Update Program Form

def Memory.Quiet (names : List String) (m after : Memory) : Prop :=
  ∀ x ∈ names, ∀ y ∈ names, x ≠ y → ∀ spot ∈ m.spotsOf x, spot ∈ m.spotsOf y → after.cell spot = m.cell spot

/-- Each statement of a row, run where the ones before it have left off, leaves shared cells alone and has no
operand that it changes while it still has to be read. -/
def CarefulAlong (names : List String) : List (Form × Stmt) → Memory → Prop
  | [], _ => True
  | (form, s) :: rest, m => ∀ after, (runStatement s).Yields m () after →
      m.Quiet names after ∧ form.Apart m ∧ CarefulAlong names rest after

/-- Every variable has an array of its own that takes writes. -/
structure Memory.Owns (m : Memory) (names : List String) : Prop where
  arrays : ∀ x ∈ names, ∃ number view, m.globals.lookup x = some (.array number view) ∧ view.writeable = true
  apart : ∀ x ∈ names, ∀ y ∈ names, x ≠ y → List.Disjoint (m.spotsOf x) (m.spotsOf y)

/-- What a variable shows: its shape and its cells. -/
def Memory.shown (m : Memory) (x : String) : Option (Strided.Shape × List Cell) :=
  match (m.globals.lookup x).map Value.bare with
  | some (.array _ view) => some (view.shape, m.contents view)
  | some (.scalar _ n) => some ([], [.num n])
  | _ => none

section
variable {m after : Memory} {v : Value} {view : View} {names : List String} {others : Set String}
  {numbers : String → List Int} {shape : Strided.Shape} {form : Form}

theorem shown_of_keeps (found : m.globals.lookup x = some v) (keeps : v.Keeps m shape xs) :
    m.shown x = some (shape, xs.map wholeCell) := by
  have carries := keeps.carries
  rw [Memory.shown, found, Option.map_some]
  generalize v.bare = u at carries
  cases carries with
  | array _ _ _ shaped shown _ => simp [shaped, shown]
  | single flat alone _ => simp [flat, alone, wholeCell]

/-! ### One statement -/

theorem Memory.Holds.settled (holds : m.Holds names shape numbers) (member : x ∈ names)
    (settles : m.Settles names shape others x xs after) (quiet : m.Quiet names after) (own : libraryName ∉ others)
    (apart : ∀ y ∈ names, y ∉ others) : after.Holds names shape (Function.update numbers x xs) := by
  have library : libraryName ∉ insert x others := by
    rintro (rfl | inside)
    · obtain ⟨v, found, _⟩ := holds.kept _ member
      rw [holds.ready.free] at found
      cases found
    · exact own inside
  refine ⟨holds.ready.later settles.changes library, fun y listed => ?_⟩
  by_cases same : y = x
  · subst same
    obtain ⟨v, found, keeps, _⟩ := settles.bound
    exact ⟨v, found, by simpa using keeps⟩
  · obtain ⟨v, found, keeps⟩ := holds.kept y listed
    have outside : y ∉ insert x others := by
      rintro (equal | inside)
      · exact same equal
      · exact apart y listed inside
    -- of the cells of `x`, those that `y` looks at too are left alone
    have changes : m.Changes (insert x others) {spot | spot ∈ m.spotsOf x ∧ spot ∉ m.spotsOf y} after :=
      { settles.changes with
        kept := fun spot old avoided => by
          by_cases shared : spot ∈ m.spotsOf x ∧ spot ∈ m.spotsOf y
          · exact quiet x member y listed (Ne.symm same) spot shared.1 shared.2
          · exact settles.changes.kept spot old fun inside => avoided ⟨inside, fun both => shared ⟨inside, both⟩⟩ }
    have avoids : v.bare.Avoids {spot | spot ∈ m.spotsOf x ∧ spot ∉ m.spotsOf y} := by
      intro number view array spot inside changed
      rw [← Memory.spotsOf_bound found array] at inside
      exact changed.2 inside
    refine ⟨v, (settles.changes.globals y outside).trans found, ?_⟩
    rw [Function.update_of_ne same]
    exact keeps.later changes avoids

theorem Memory.Owns.quiet (owns : m.Owns names) (after : Memory) : m.Quiet names after := by
  intro x member y member' different spot inside inside'
  exact absurd inside' (owns.apart x member y member' different inside)

theorem Memory.Owns.not_frozen (owns : m.Owns names) : ¬ m.Frozen names := by
  rintro ⟨x, member, v, found, cannot⟩
  obtain ⟨number, view, bound, writeable⟩ := owns.arrays x member
  rw [bound] at found
  cases found
  exact absurd writeable (by simpa [Value.bare, Value.supportsIndexedAssignment] using cannot)

theorem Value.Keeps.axes (keeps : v.Keeps m shape xs) (axes : shape ≠ []) : ∃ number view, v = .array number view := by
  have carries := keeps.carries
  generalize same : v.bare = u at carries
  cases carries with
  | array _ _ _ _ _ _ => exact ⟨_, _, keeps.array same⟩
  | single flat _ _ => exact absurd flat axes

theorem Memory.Owns.settled (owns : m.Owns names) (holds : m.Holds names shape numbers) (axes : shape ≠ [])
    (member : x ∈ names) (settles : m.Settles names shape others x xs after) (apart : ∀ y ∈ names, y ∉ others) :
    after.Owns names := by
  obtain ⟨v, found, keeps, follows⟩ := settles.bound
  obtain ⟨number, view, rfl⟩ := keeps.axes axes
  have kept (y) (listed : y ∈ names) (different : y ≠ x) : after.globals.lookup y = m.globals.lookup y := by
    apply settles.changes.globals
    rintro (equal | inside)
    · exact different equal
    · exact apart y listed inside
  -- the array is new, or it is the one from before
  have origin : view.writeable = true ∧ ∀ y ∈ names, y ≠ x → List.Disjoint view.spots (m.spotsOf y) := by
    rcases follows with frozen | new | ⟨old, before, same⟩
    · exact absurd frozen owns.not_frozen
    · obtain ⟨later, writeable⟩ := new number view rfl
      refine ⟨writeable, fun y listed _ spot inside inside' => ?_⟩
      obtain ⟨k, other, bound, _⟩ := owns.arrays y listed
      obtain ⟨_, placed, _⟩ := holds.array listed bound
      rw [Memory.spotsOf_array bound] at inside'
      rw [← View.mem_spots_buffer inside, View.mem_spots_buffer inside'] at later
      exact absurd placed.buffer (Nat.not_lt.mpr later)
    · obtain ⟨k, other, bound, writeable⟩ := owns.arrays x member
      rw [bound] at before
      cases before
      cases same
      refine ⟨writeable, fun y listed different => ?_⟩
      rw [← Memory.spotsOf_array bound]
      exact owns.apart x member y listed (Ne.symm different)
  constructor
  · intro y listed
    by_cases same : y = x
    · subst same
      exact ⟨number, view, found, origin.1⟩
    · rw [kept y listed same]
      exact owns.arrays y listed
  · intro y listed z listed' different
    by_cases first : y = x
    · subst first
      rw [Memory.spotsOf_array found, Memory.spotsOf_eq (kept z listed' (Ne.symm different))]
      exact origin.2 z listed' (Ne.symm different)
    · by_cases second : z = x
      · subst second
        rw [Memory.spotsOf_array found, Memory.spotsOf_eq (kept y listed first)]
        exact (origin.2 y listed first).symm
      · rw [Memory.spotsOf_eq (kept y listed first), Memory.spotsOf_eq (kept z listed' second)]
        exact owns.apart y listed z listed' different

theorem root_member (plain : form.isPlain names = true) (root : form.root? = some x) : x ∈ names := by
  cases form with
  | allocation kind target source =>
    simp only [isPlain, isVariable, Bool.and_eq_true] at plain
    exact isTarget_member plain.1.2.2 root
  | operation op target operands =>
    simp only [isPlain, Bool.and_eq_true] at plain
    exact isTarget_member plain.1 root
  | axpy alpha x beta y =>
    simp only [isPlain, Bool.and_eq_true] at plain
    exact isTarget_member plain.2 root
  | broadcast op target value | elementwise target value =>
    simp only [isPlain, Bool.and_eq_true] at plain
    exact isTarget_member plain.1 root
  | product target left right flattened accumulate =>
    simp only [isPlain, Bool.and_eq_true] at plain
    exact isTarget_member plain.1.1 root
  | unsupported _ => cases plain

theorem Memory.Owns.operands_apart (owns : m.Owns names) (plain : form.isPlain names = true)
    (once : form.rereadsTarget = false) : form.Apart m := by
  cases form with
  | operation op target operands =>
    simp only [isPlain, Bool.and_eq_true, List.all_eq_true] at plain
    intro compound x root _ l y listed
    have member' : y ∈ names := by simpa [isCombination] using plain.2 _ (List.mem_of_mem_tail listed)
    refine owns.apart x (isTarget_member plain.1 root) y member' ?_
    rintro rfl
    simp only [rereadsTarget, compound, Bool.true_and, List.any_eq_false] at once
    exact once _ listed (by simp [root])
  | _ => trivial

/-! ### Whole runs -/

theorem runStatement_yields (ran : (runStatement s).Yields m u after) :
    ∃ flow, (exec nesting none s).Yields m flow after := by
  simp only [runStatement, runBody, yields_bind, yields_ite, yields_throw, false_and, exists_false,
    and_false, false_or, List.forM_eq_forM, List.forM_cons, List.forM_nil, yields_pure, yields_discard] at ran
  obtain ⟨_, _, _, ⟨flow, executed⟩, _, rfl⟩ := ran
  exact ⟨flow, executed⟩

/-- The statement replaces the form, and none of the names stands for its temporary. -/
def Replaces (names : List String) (form : Form) (s : Stmt) : Prop :=
  ∃ span number, form.replacement? span number = some s ∧ ∀ x ∈ names, x ∉ form.temporaries number

/-- The induction is on the statements. Both runs hold the same numbers after each of them, because what a form
leaves in its variable is told by the numbers alone. -/
theorem runs_agree (steps : List (Form × Stmt)) (replaced : ∀ step ∈ steps, Replaces names step.1 step.2)
    (plain : ∀ step ∈ steps, step.1.isPlain names = true) (once : ∀ step ∈ steps, step.1.rereadsTarget = false)
    {first second first' second' : Memory} (holds : first.Holds names shape numbers)
    (owns : shape ≠ [] → first.Owns names)
    (single : shape = [] → CarefulAlong names steps first ∧ ∀ step ∈ steps, step.1.divides = false)
    (holds' : second.Holds names shape numbers) (careful : CarefulAlong names steps second)
    (ran : ((steps.map Prod.snd).forM runStatement).Yields first () first')
    (ran' : ((steps.map Prod.snd).forM runStatement).Yields second () second') :
    ∃ numbers', first'.Holds names shape numbers' ∧ second'.Holds names shape numbers' := by
  induction steps generalizing first second numbers with
  | nil =>
    simp only [List.map_nil, List.forM_eq_forM, List.forM_nil, yields_pure] at ran ran'
    obtain ⟨_, rfl⟩ := ran
    obtain ⟨_, rfl⟩ := ran'
    exact ⟨numbers, holds, holds'⟩
  | cons step rest ih =>
    obtain ⟨form, s⟩ := step
    rw [List.forall_mem_cons] at replaced plain once single
    obtain ⟨⟨span, number, replaced, outside⟩, replacedRest⟩ := replaced
    simp only [List.map_cons, List.forM_eq_forM, List.forM_cons, yields_bind] at ran ran' ih
    obtain ⟨_, between, once₁, ran⟩ := ran
    obtain ⟨_, between', once₂, ran'⟩ := ran'
    obtain ⟨flow, executed⟩ := runStatement_yields once₁
    obtain ⟨flow', executed'⟩ := runStatement_yields once₂
    obtain ⟨quiet', apart', later'⟩ := careful between' once₂
    -- the first run is careful by itself as soon as there are axes
    have cautious : (first.Frozen names → form.divides = false) ∧ form.Apart first ∧ first.Quiet names between := by
      by_cases flat : shape = []
      · obtain ⟨carefulFirst, never⟩ := single flat
        obtain ⟨quiet, apart, _⟩ := carefulFirst between once₁
        exact ⟨fun _ => never.1, apart, quiet⟩
      · exact ⟨fun frozen => absurd frozen (owns flat).not_frozen, (owns flat).operands_apart plain.1 once.1,
          (owns flat).quiet between⟩
    obtain ⟨exact, apart, quiet⟩ := cautious
    obtain ⟨never, x, xs, root, outcome, settles⟩ :=
      replacement_done holds plain.1 exact apart outside replaced executed
    obtain ⟨_, y, ys, root', outcome', settles'⟩ :=
      replacement_done holds' plain.1 (fun _ => never) apart' outside replaced executed'
    obtain rfl : x = y := Option.some_inj.mp (root.symm.trans root')
    obtain rfl : xs = ys := Option.some_inj.mp (outcome.symm.trans outcome')
    have member := root_member plain.1 root
    have own : libraryName ∉ form.temporaries number :=
      fun taken => temporaryName_ne_libraryName number taken.2.symm
    refine ih replacedRest plain.2 once.2 (holds.settled member settles quiet own outside)
      (fun axes => (owns axes).settled holds axes member settles outside) (fun flat => ?_)
      (holds'.settled member settles' quiet' own outside) later' ran ran'
    obtain ⟨carefulFirst, never⟩ := single flat
    exact ⟨(carefulFirst between once₁).2.2, never.2⟩

/-! ### Whole blocks -/

theorem steps_replace {policy : Policy} {forms : List Form}
    (made : List.Forall₂ (ReplacedWithin policy depth low high) ss out)
    (read : ss.map (settled policy depth) = forms.map .ok)
    (unused : ∀ n, low < n → n ≤ high → temporaryName n ∉ names) : (forms.zip out).map Prod.snd = out ∧
      ∀ step ∈ forms.zip out, step.1 ∈ forms ∧ Replaces names step.1 step.2 := by
  induction made generalizing forms with
  | nil => simp
  | cons first _ ih =>
    obtain ⟨form, number, taken, replaced, within⟩ := first
    cases forms with
    | nil => cases read
    | cons form' rest =>
      simp only [List.map_cons, List.cons.injEq, taken, Except.ok.injEq] at read
      obtain ⟨rfl, read⟩ := read
      obtain ⟨same, each⟩ := ih read
      have free : ∀ x ∈ names, x ∉ form.temporaries number := by
        rintro x member ⟨needs, rfl⟩
        exact unused number (within needs).1 (within needs).2 member
      refine ⟨by simp [same], ?_⟩
      rw [List.zip_cons_cons, List.forall_mem_cons]
      refine ⟨⟨.head _, _, number, replaced, free⟩, fun step member => ?_⟩
      exact ⟨.tail _ (each step member).1, (each step member).2⟩

/-! ### Checks by running -/

def Cell.whole? : Cell → Option Int
  | .num (.int n) => some n
  | _ => none

theorem eq_wholeCell (c : Cell) (given : c.whole? = some n) : c = wholeCell n := by
  fun_cases Cell.whole? c with
  | case1 k =>
    cases given
    rfl
  | case2 => simp_all [Cell.whole?]

theorem cells_eq {xs : List Int} (cells : List Cell) (given : cells.map Cell.whole? = xs.map some) : cells = xs.map wholeCell := by
  induction cells generalizing xs with
  | nil =>
    cases xs with
    | nil => rfl
    | cons _ _ => cases given
  | cons c cells ih =>
    cases xs with
    | nil => cases given
    | cons x xs =>
      simp only [List.map_cons, List.cons.injEq] at given
      rw [List.map_cons, eq_wholeCell c given.1, ih given.2]

/-- Shared cells hold the whole numbers that they held before. -/
def Memory.isQuiet (names : List String) (m after : Memory) : Bool :=
  names.all fun x => names.all fun y => x == y || (m.spotsOf x).all fun spot =>
    !(m.spotsOf y).contains spot || ((m.cell spot).whole?.isSome && (after.cell spot).whole? == (m.cell spot).whole?)

theorem Memory.quiet_of_isQuiet (given : m.isQuiet names after = true) : m.Quiet names after := by
  intro x member y member' different spot inside inside'
  simp only [Memory.isQuiet, List.all_eq_true, Bool.or_eq_true, Bool.and_eq_true, Bool.not_eq_true', beq_iff_eq] at given
  rcases given x member y member' with same | shared
  · exact absurd same different
  · rcases shared spot inside with apart | ⟨whole, kept⟩
    · rw [List.contains_eq_mem, decide_eq_false_iff_not] at apart
      exact absurd inside' apart
    · obtain ⟨n, held⟩ := Option.isSome_iff_exists.mp whole
      rw [eq_wholeCell _ held, eq_wholeCell _ (kept.trans held)]

def Update.Form.isApart (m : Memory) : Form → Bool
  | .operation op target operands => op.operator?.isNone || (rootName? target).all fun x =>
      !m.takesWrites x || operands.tail.all fun e =>
        match e with
        | .name _ y => (m.spotsOf x).all fun spot => !(m.spotsOf y).contains spot
        | _ => true
  | _ => true

theorem Update.Form.apart_of_isApart (given : form.isApart m = true) : form.Apart m := by
  cases form with
  | operation op target operands =>
    intro compound x root takes l y listed spot inside inside'
    simp only [isApart, Bool.or_eq_true, root, Option.all_some, takes, Bool.not_true, Bool.false_or,
      List.all_eq_true] at given
    rcases given with simple | given
    · rw [Option.isNone_iff_eq_none] at simple
      rw [simple] at compound
      cases compound
    · have apart := List.all_eq_true.mp (given _ listed) spot inside
      rw [Bool.not_eq_true', List.contains_eq_mem, decide_eq_false_iff_not] at apart
      exact apart inside'
  | _ => trivial

def isCarefulAlong (names : List String) : List (Form × Stmt) → Memory → Bool
  | [], _ => true
  | (form, s) :: rest, m =>
    match ((runStatement s).run.run m).run with
    | (.ok _, after) => m.isQuiet names after && form.isApart m && isCarefulAlong names rest after
    | (.error _, _) => true

theorem carefulAlong_of_isCarefulAlong (steps : List (Form × Stmt)) (given : isCarefulAlong names steps m = true) :
    CarefulAlong names steps m := by
  induction steps generalizing m with
  | nil => trivial
  | cons step rest ih =>
    intro after ran
    rw [Run.Yields] at ran
    simp only [isCarefulAlong, ran, Bool.and_eq_true] at given
    exact ⟨Memory.quiet_of_isQuiet given.1.1, apart_of_isApart given.1.2, ih given.2⟩

def memoryAfter (ss : List Stmt) (m : Memory) : Option Memory :=
  match ((ss.forM runStatement).run.run m).run with
  | (.ok _, after) => some after
  | (.error _, _) => none

theorem memoryAfter_yields {ss : List Stmt} (given : memoryAfter ss m = some after) :
    (ss.forM runStatement).Yields m () after := by
  rw [memoryAfter] at given
  split at given
  · rename_i outcome
    cases given
    exact outcome
  · cases given

theorem shown_memoryAfter {ss : List Stmt} {xs : List Int} (ran : memoryAfter ss m = some after)
    (given : (memoryAfter ss m).bind (fun last => (last.shown x).map fun (shape, cells) => (shape, cells.map Cell.whole?)) =
      some (shape, xs.map some)) : after.shown x = some (shape, xs.map wholeCell) := by
  rw [ran, Option.bind_some] at given
  obtain ⟨⟨_, cells⟩, shown, held⟩ := Option.map_eq_some_iff.mp given
  simp only [Prod.mk.injEq] at held
  rw [shown, held.1, cells_eq cells held.2]

/-- Every variable is an array of its numbers. -/
def Memory.isHolding (m : Memory) (names : List String) (shape : Strided.Shape) (numbers : String → List Int) : Bool :=
  (m.globals.lookup libraryName).isNone && names.all fun x =>
    match m.globals.lookup x with
    | some (.array number view) =>
      number < m.objects.size && view.buffer < m.buffers.size &&
        view.layout.addresses.all
          (fun place => 0 ≤ place && place.toNat < (m.buffers.getD view.buffer #[]).size) &&
        decide view.layout.addresses.Nodup && view.dtype = .int64 && view.shape = shape &&
        (m.contents view).map Cell.whole? = (numbers x).map some && (numbers x).all (DType.int64.holds ·)
    | _ => false

theorem Memory.holds_of_isHolding (prelude : m.prelude = replacedNames)
    (given : m.isHolding names shape numbers = true) : m.Holds names shape numbers := by
  simp only [Memory.isHolding, Bool.and_eq_true, Option.isNone_iff_eq_none, List.all_eq_true] at given
  refine ⟨⟨given.1, prelude⟩, fun x member => ?_⟩
  have checked := given.2 x member
  split at checked
  · rename_i number view found
    simp only [Bool.and_eq_true, decide_eq_true_eq, List.all_eq_true] at checked
    obtain ⟨⟨⟨⟨⟨⟨⟨known, buffer⟩, bounds⟩, distinct⟩, typed⟩, shaped⟩, shown⟩, wholes⟩ := checked
    exact ⟨_, found, .itself (.array known ⟨buffer, bounds, distinct⟩ typed shaped (cells_eq _ shown) wholes)⟩
  · cases checked

def Memory.isOwning (m : Memory) (names : List String) : Bool :=
  names.all fun x =>
    (match m.globals.lookup x with
      | some (.array _ view) => view.writeable
      | _ => false) &&
    names.all fun y => x == y || (m.spotsOf x).all fun spot => !(m.spotsOf y).contains spot

theorem Memory.owns_of_isOwning (given : m.isOwning names = true) : m.Owns names := by
  simp only [Memory.isOwning, Bool.and_eq_true, List.all_eq_true, Bool.or_eq_true, beq_iff_eq, Bool.not_eq_true',
    List.contains_eq_mem, decide_eq_false_iff_not] at given
  constructor
  · intro x member
    have checked := (given x member).1
    split at checked
    · exact ⟨_, _, by assumption, checked⟩
    · cases checked
  · intro x member y member' different spot inside
    rcases (given x member).2 y member' with same | apart
    · exact absurd same different
    · exact apart spot inside

/-- Each variable has its numbers in a buffer of its own; some variables are frozen. -/
def arraysOf (shape : Strided.Shape) (rows : List (String × List Int)) (frozen : List String) : Memory where
  buffers := (rows.map fun (_, xs) => (xs.map wholeCell).toArray).toArray
  objects := (rows.map fun _ => Object.token).toArray
  globals := rows.zipIdx.map fun ((x, _), i) =>
    (x, .array i ⟨i, Layout.rowMajor shape, .int64, !frozen.contains x⟩)
  prelude := replacedNames

def rowOf (rows : List (String × List Int)) (x : String) : List Int := (rows.lookup x).getD []

def nameOn (line : Nat) (id : String) : Expr := .name ⟨line, line⟩ id

def callOn (line : Nat) (head : String) (args : List Expr) : Stmt :=
  .expr ⟨line, 0, line, 16⟩ (.call ⟨line, line⟩ (nameOn line head) args [])

def copyThenAdd (target operand : String) : List Stmt :=
  [callOn 1 "copyto" [nameOn 1 "a", nameOn 1 "b"],
    .augmented ⟨2, 0, 2, 11⟩ (whole ⟨2, 2⟩ (nameOn 2 target)) .add (nameOn 2 operand)]

def copyThenAddForms (target operand : String) : List Form :=
  [.operation .copyto (nameOn 1 "a") [nameOn 1 "b"], .broadcast (some .add) (nameOn 2 target) (nameOn 2 operand)]

def copyThenAddReplaced (target operand : String) : List Stmt :=
  [operationReplacement ⟨1, 0, 1, 16⟩ .copyto (nameOn 1 "a") [nameOn 1 "b"],
    broadcastReplacement ⟨2, 0, 2, 11⟩ (some .add) (nameOn 2 target) (nameOn 2 operand)]

def threeRows : List (String × List Int) := [("a", [0, 0]), ("b", [1, 2]), ("c", [10, 20])]

/-! ### Two runs of one block -/

/-- A replaced block is run from two memories that hold the same numbers: in the first every variable has an array
of its own that takes writes, in the second any of them may be frozen. If both runs go through, and if the second
never changes a cell that two variables share or an operand that a compound update has yet to read, then every
variable shows the same shape and the same cells at the end. Arrays without axes can turn into plain numbers,
which are never written to: there the first run has to be careful too, and there must be no true division. -/
theorem lowered_runs_agree (policy : Policy) (depth : Int) (body out : List Stmt) (progress last : Progress)
    (lowered : lowerBlock policy depth body progress = (.ok out, last)) (forms : List Form)
    (read : (leaves policy body).map (settled policy depth) = forms.map .ok) (names : List String)
    (plain : ∀ form ∈ forms, form.isPlain names = true) (once : ∀ form ∈ forms, form.rereadsTarget = false)
    (unused : ∀ n, progress.counter < n → n ≤ last.counter → temporaryName n ∉ names) (shape : Strided.Shape)
    (numbers : String → List Int) (first second first' second' : Memory) (holds : first.Holds names shape numbers)
    (owns : first.Owns names) (holds' : second.Holds names shape numbers)
    (careful : CarefulAlong names (forms.zip out) second)
    (single : shape = [] → CarefulAlong names (forms.zip out) first ∧ ∀ form ∈ forms, form.divides = false)
    (ran : (out.forM Program.runStatement).Yields first () first')
    (ran' : (out.forM Program.runStatement).Yields second () second') :
    ∀ x ∈ names, ∃ cells, first'.shown x = some (shape, cells) ∧ second'.shown x = some (shape, cells) := by
  obtain ⟨same, steps⟩ := steps_replace (lowerBlock_row policy depth body progress lowered).within read unused
  rw [← same] at ran ran'
  obtain ⟨numbers', after, after'⟩ := runs_agree (forms.zip out) (fun step member => (steps step member).2)
    (fun step member => plain _ (steps step member).1) (fun step member => once _ (steps step member).1) holds
    (fun _ => owns) (fun flat => ⟨(single flat).1, fun step member => (single flat).2 _ (steps step member).1⟩)
    holds' careful ran ran'
  intro x member
  obtain ⟨v, found, keeps⟩ := after.kept x member
  obtain ⟨v', found', keeps'⟩ := after'.kept x member
  exact ⟨(numbers' x).map wholeCell, shown_of_keeps found keeps, shown_of_keeps found' keeps'⟩

/-- The frozen variable comes to share the array of `b`, which is then only read. -/
theorem frozen_copy_read_agrees :
    CarefulAlong ["a", "b", "c"] ((copyThenAddForms "c" "a").zip (copyThenAddReplaced "c" "a"))
      (arraysOf [2] threeRows ["a"]) ∧
    ∃ last first second, lowerBlock .standard 1 (copyThenAdd "c" "a") {} = (.ok (copyThenAddReplaced "c" "a"), last) ∧
      ((copyThenAddReplaced "c" "a").forM Program.runStatement).Yields (arraysOf [2] threeRows []) () first ∧
      ((copyThenAddReplaced "c" "a").forM Program.runStatement).Yields (arraysOf [2] threeRows ["a"]) () second ∧
      ∀ x ∈ ["a", "b", "c"], ∃ cells, first.shown x = some ([2], cells) ∧ second.shown x = some ([2], cells) := by
  have holds : (arraysOf [2] threeRows []).Holds ["a", "b", "c"] [2] (rowOf threeRows) :=
    Memory.holds_of_isHolding rfl (by decide +kernel)
  have owns : (arraysOf [2] threeRows []).Owns ["a", "b", "c"] := Memory.owns_of_isOwning (by decide +kernel)
  have holds' : (arraysOf [2] threeRows ["a"]).Holds ["a", "b", "c"] [2] (rowOf threeRows) :=
    Memory.holds_of_isHolding rfl (by decide +kernel)
  have careful : CarefulAlong ["a", "b", "c"] ((copyThenAddForms "c" "a").zip (copyThenAddReplaced "c" "a"))
      (arraysOf [2] threeRows ["a"]) := carefulAlong_of_isCarefulAlong _ (by decide +kernel)
  obtain ⟨first, ran⟩ : ∃ m, memoryAfter (copyThenAddReplaced "c" "a") (arraysOf [2] threeRows []) = some m :=
    Option.isSome_iff_exists.mp (by decide +kernel)
  obtain ⟨second, ran'⟩ : ∃ m, memoryAfter (copyThenAddReplaced "c" "a") (arraysOf [2] threeRows ["a"]) = some m :=
    Option.isSome_iff_exists.mp (by decide +kernel)
  refine ⟨careful, _, first, second, rfl, memoryAfter_yields ran, memoryAfter_yields ran', ?_⟩
  exact lowered_runs_agree .standard 1 (copyThenAdd "c" "a") (copyThenAddReplaced "c" "a") {} _ rfl
    (copyThenAddForms "c" "a") rfl ["a", "b", "c"] (by decide) (by decide) (fun n above below => absurd below
      (Nat.not_le.mpr above)) [2] (rowOf threeRows) _ _ first second holds owns holds' careful
    (fun flat => absurd flat (by decide)) (memoryAfter_yields ran) (memoryAfter_yields ran')

/-- The frozen variable comes to share the array of `b`, which is then written to: its cells follow those of `b`,
while an array that takes writes keeps the copy. -/
theorem frozen_copy_written_differs : (arraysOf [2] threeRows []).Owns ["a", "b", "c"] ∧
    (arraysOf [2] threeRows []).Holds ["a", "b", "c"] [2] (rowOf threeRows) ∧
    (arraysOf [2] threeRows ["a"]).Holds ["a", "b", "c"] [2] (rowOf threeRows) ∧
    ∃ last first second, lowerBlock .standard 1 (copyThenAdd "b" "c") {} = (.ok (copyThenAddReplaced "b" "c"), last) ∧
      ((copyThenAddReplaced "b" "c").forM Program.runStatement).Yields (arraysOf [2] threeRows []) () first ∧
      ((copyThenAddReplaced "b" "c").forM Program.runStatement).Yields (arraysOf [2] threeRows ["a"]) () second ∧
      first.shown "a" = some ([2], [1, 2].map wholeCell) ∧ second.shown "a" = some ([2], [11, 22].map wholeCell) := by
  obtain ⟨first, ran⟩ : ∃ m, memoryAfter (copyThenAddReplaced "b" "c") (arraysOf [2] threeRows []) = some m :=
    Option.isSome_iff_exists.mp (by decide +kernel)
  obtain ⟨second, ran'⟩ : ∃ m, memoryAfter (copyThenAddReplaced "b" "c") (arraysOf [2] threeRows ["a"]) = some m :=
    Option.isSome_iff_exists.mp (by decide +kernel)
  refine ⟨Memory.owns_of_isOwning (by decide +kernel), Memory.holds_of_isHolding rfl (by decide +kernel),
    Memory.holds_of_isHolding rfl (by decide +kernel), _, first, second, rfl, memoryAfter_yields ran,
    memoryAfter_yields ran', ?_, ?_⟩
  · exact shown_memoryAfter ran (by decide +kernel)
  · exact shown_memoryAfter ran' (by decide +kernel)

end
end Rebind
