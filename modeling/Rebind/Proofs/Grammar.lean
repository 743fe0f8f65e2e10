import Rebind.Update.Recognise
/-!
The grammar of update statements, said once without any order of trial: `Spells` lists how each form may
be written. Recognition without expanders accepts exactly these spellings and keeps exactly the parts
that stand in them. Lines never matter, and whatever is in no spelling is left over as unsupported.
-/
namespace Rebind.Update

open Syntax

/-- The words by which the forms are told. -/
def headWords : List String :=
  ["copy", "zero", "similar", "axpy", "axpby", "copyto", "iadd", "isub", "imul", "itruediv", "matmul", "vec",
    "elementwise"]

/-- A name or a dotted path of names. -/
inductive Reference : Expr → Prop where
  | name (lines : Lines) (id : String) : Reference (.name lines id)
  | dotted (lines : Lines) (attr : String) (inner : Reference value) :
      Reference (.attribute lines value attr)

/-- A call under a bare name whose arguments are all plain positionals. -/
def PlainCall (head : String) (args : List Expr) (e : Expr) : Prop :=
  ∃ lines nameLines, e = .call lines (.name nameLines head) args [] ∧
    ∀ arg ∈ args, isStarred arg = false

/-- `ref[...]`. -/
def Whole (ref : Expr) (e : Expr) : Prop :=
  Reference ref ∧ ∃ lines dots, e = .subscript lines ref (.literal dots .ellipsis)

/-- `left @ right` or `matmul(left, right)`. -/
inductive ProductOf : Expr → Expr → Expr → Prop where
  | operator (lines : Lines) (left right : Expr) : ProductOf left right (.binary lines .matMult left right)
  | call (plain : PlainCall "matmul" [left, right] value) : ProductOf left right value

/-- A factor as it is written: `vec(flat)` asks for flattening, anything that is no call of `vec` is the
factor itself. -/
inductive Factor : Expr → Bool → Expr → Prop where
  | flattened (plain : PlainCall "vec" [flat] e) : Factor flat true e
  | plain (bare : callHead? e ≠ some "vec") : Factor e false e

/-- A right side that an earlier form takes or refuses, whatever it is assigned to. -/
def TakenEarlier (value : Expr) : Prop :=
  callHead? value = some "elementwise" ∨
    callHead? value = some "matmul" ∧ ∀ left right, ¬ PlainCall "matmul" [left, right] value

def Allocation.head : Allocation → String
  | copy => "copy"
  | zero => "zero"
  | similar => "similar"

/-- `target = copy(source)` between two bare names, which is an allocation and no table operation. -/
def IsNameCopy (op : TableOp) (target : Expr) (operands : List Expr) : Prop :=
  op = .copy ∧ isName target = true ∧ ∃ source, operands = [source] ∧ isName source = true

/-- The spellings of each form; products accumulate only where that is allowed. -/
inductive Spells (accumulate : Bool) : Form → Stmt → Prop where
  | allocation (kind : Allocation) (plain : PlainCall kind.head [source] value)
      (bareTarget : isName target = true) (bareSource : isName source = true) :
      Spells accumulate (.allocation kind target source) (.assign span [target] value)
  | axpy (plain : PlainCall "axpy" [alpha, x, y] value) (ref : Reference y) :
      Spells accumulate (.axpy alpha x none y) (.expr span value)
  | axpby (plain : PlainCall "axpby" [alpha, x, beta, y] value) (ref : Reference y) :
      Spells accumulate (.axpy alpha x (some beta) y) (.expr span value)
  | operationCall (op : TableOp) (plain : PlainCall op.name (target :: operands) value)
      (ref : Reference target) (counted : op.accepts operands.length = true) :
      Spells accumulate (.operation op target operands) (.expr span value)
  | operationAssigned (op : TableOp) (plain : PlainCall op.name operands value)
      (ref : Reference target) (counted : op.accepts operands.length = true)
      (other : ¬ IsNameCopy op target operands) :
      Spells accumulate (.operation op target operands) (.assign span [target] value)
  | product (multiplied : ProductOf l r value) (ref : Reference target)
      (leftFactor : Factor left flatLeft l) (rightFactor : Factor right flatRight r) :
      Spells accumulate (.product target left right (.ofSides flatLeft flatRight) false)
        (.assign span [target] value)
  | accumulation (allowed : accumulate = true) (multiplied : ProductOf l r value)
      (ref : Reference target) (leftFactor : Factor left flatLeft l)
      (rightFactor : Factor right flatRight r) :
      Spells accumulate (.product target left right (.ofSides flatLeft flatRight) true)
        (.augmented span target .add value)
  | elementwise (plain : PlainCall "elementwise" [element] value) (ref : Reference target) :
      Spells accumulate (.elementwise target element) (.assign span [target] value)
  | broadcast (whole : Whole ref target) (free : ¬ TakenEarlier value) :
      Spells accumulate (.broadcast none ref value) (.assign span [target] value)
  | update (op : InPlaceOp) (whole : Whole ref target) :
      Spells accumulate (.broadcast (some op) ref value) (.augmented span target op.binary value)

/-! ### The parts of a statement -/

theorem isReference_iff (e : Expr) : isReference e = true ↔ Reference e := by
  fun_induction isReference e with
  | case1 lines id => exact ⟨fun _ => .name lines id, fun _ => rfl⟩
  | case2 lines value attr ih =>
    rw [ih]
    exact ⟨fun inner => .dotted lines attr inner, fun | .dotted _ _ inner => inner⟩
  | case3 e notName notAttribute =>
    constructor
    · intro impossible
      cases impossible
    · intro ref
      cases ref with
      | name lines id => exact absurd rfl (notName lines id)
      | dotted lines attr inner => exact absurd rfl (notAttribute lines _ attr)

theorem plainCall_iff (head : String) (args : List Expr) (e : Expr) :
    PlainCall head args e ↔ callHead? e = some head ∧ plainArgs? e = some args := by
  constructor
  · rintro ⟨lines, nameLines, rfl, unstarred⟩
    have none_starred : args.any isStarred = false := by
      simpa only [List.any_eq_false, Bool.not_eq_true] using unstarred
    simp [callHead?, plainArgs?, none_starred]
  · rintro ⟨headed, given⟩
    unfold callHead? at headed
    split at headed
    · rename_i lines nameLines id found keywords
      cases headed
      cases keywords with
      | nil =>
        by_cases starred : found.any isStarred = true
        · simp [plainArgs?, starred] at given
        · simp only [plainArgs?, starred, Bool.false_eq_true, ↓reduceIte, Option.some.injEq] at given
          subst given
          exact ⟨lines, nameLines, rfl, by simpa using starred⟩
      | cons _ _ => simp [plainArgs?] at given
    · cases headed

theorem wholeOf?_eq_some_iff (e ref : Expr) : wholeOf? e = some ref ↔ Whole ref e := by
  unfold wholeOf? Whole
  split
  · rename_i lines value dots
    rw [← isReference_iff]
    by_cases named : isReference value = true
    · simp only [named, ↓reduceIte, Option.some.injEq, Expr.subscript.injEq]
      constructor
      · rintro rfl
        exact ⟨named, lines, dots, rfl, rfl, rfl⟩
      · rintro ⟨_, _, _, _, same, _⟩
        exact same
    · simp only [named, Bool.false_eq_true, ↓reduceIte, reduceCtorEq, false_iff]
      rintro ⟨ref_named, lines', dots', same⟩
      cases same
      exact named ref_named
  · rename_i other
    simp only [reduceCtorEq, false_iff]
    rintro ⟨_, lines, dots, same⟩
    exact other lines ref dots same

theorem ofHead?_eq_some_iff (head : String) (kind : Allocation) :
    Allocation.ofHead? head = some kind ↔ head = kind.head := by
  unfold Allocation.ofHead?
  split
  iterate 3 · cases kind <;> simp [Allocation.head]
  · rename_i notCopy notZero notSimilar
    cases kind <;> simp_all [Allocation.head]

theorem ofName?_eq_some_iff (name : String) (op : TableOp) : TableOp.ofName? name = some op ↔ name = op.name := by
  constructor
  · intro found
    have same : (op.name == name) = true :=
      List.find?_some (p := fun listed : TableOp => listed.name == name) found
    exact (eq_of_beq same).symm
  · rintro rfl
    cases op <;> rfl

/-! ### Products -/

theorem factors?_eq_some_iff (value left right : Expr) :
    factors? value = .ok (some (left, right)) ↔ ProductOf left right value := by
  unfold factors?
  split
  · rename_i lines l r
    constructor
    · rintro same
      cases same
      exact .operator lines left right
    · intro multiplied
      cases multiplied with
      | operator _ _ _ => rfl
      | call plain =>
        obtain ⟨_, _, same, _⟩ := plain
        cases same
  · rename_i noOperator
    have called : ProductOf left right value ↔ PlainCall "matmul" [left, right] value := by
      constructor
      · intro multiplied
        cases multiplied with
        | operator lines _ _ => exact absurd rfl (noOperator lines left right)
        | call plain => exact plain
      · exact .call
    rw [called, plainCall_iff]
    split
    · rename_i headed
      split
      · rename_i l r given
        simp [headed, given]
      · rename_i other
        simp only [reduceCtorEq, headed, true_and, false_iff]
        exact other left right
    · rename_i headed
      simp [headed]

theorem factors?_eq_none_iff (value : Expr) : factors? value = .ok none ↔
    (∀ left right, ¬ ProductOf left right value) ∧ callHead? value ≠ some "matmul" := by
  constructor
  · intro absent
    constructor
    · intro left right multiplied
      rw [(factors?_eq_some_iff value left right).mpr multiplied] at absent
      cases absent
    · intro headed
      unfold factors? at absent
      split at absent
      · cases absent
      · simp only [headed, ↓reduceIte] at absent
        split at absent <;> cases absent
  · rintro ⟨unmultiplied, headed⟩
    unfold factors?
    split
    · rename_i lines left right
      exact absurd (.operator lines left right) (unmultiplied left right)
    · simp [headed]

theorem factors?_eq_error_iff (value : Expr) (wrong : Malformed) :
    factors? value = .error wrong ↔ wrong = .productArguments ∧ callHead? value = some "matmul" ∧
      ∀ left right, ¬ PlainCall "matmul" [left, right] value := by
  unfold factors?
  split
  · simp [callHead?]
  · by_cases headed : callHead? value = some "matmul"
    · simp only [headed, ↓reduceIte, true_and, plainCall_iff]
      split
      · rename_i left right given
        simp only [reduceCtorEq, given, false_iff, not_and]
        exact fun _ other => other left right rfl
      · rename_i other
        simpa [eq_comm] using fun _ => other
    · simp [headed]

theorem factor_eq_ok_iff (e inner : Expr) (flat : Bool) : factor e = .ok (inner, flat) ↔ Factor inner flat e := by
  unfold factor
  constructor
  · intro found
    split at found
    · rename_i headed
      split at found
      · rename_i given
        cases found
        exact .flattened ((plainCall_iff "vec" [inner] e).mpr ⟨headed, given⟩)
      · cases found
    · rename_i headed
      cases found
      exact .plain headed
  · intro written
    cases written with
    | flattened plain =>
      obtain ⟨headed, given⟩ := (plainCall_iff "vec" [inner] e).mp plain
      simp [headed, given]
    | plain bare => simp [bare]

theorem product_eq_ok_iff (target l r : Expr) (accumulate : Bool) (form : Form) :
    product target (l, r) accumulate = .ok form ↔
      Reference target ∧ ∃ left flatLeft right flatRight, Factor left flatLeft l ∧
        Factor right flatRight r ∧
        form = .product target left right (.ofSides flatLeft flatRight) accumulate := by
  unfold product
  rw [← isReference_iff]
  by_cases ref : isReference target = true
  · simp only [ref, ↓reduceIte, true_and]
    constructor
    · intro found
      cases leftFound : factor l with
      | error wrong => simp [leftFound, bind, Except.bind] at found
      | ok leftPart =>
        cases rightFound : factor r with
        | error wrong => simp [leftFound, rightFound, bind, Except.bind] at found
        | ok rightPart =>
          simp only [leftFound, rightFound, bind, Except.bind, pure, Except.pure,
            Except.ok.injEq] at found
          exact ⟨leftPart.1, leftPart.2, rightPart.1, rightPart.2,
            (factor_eq_ok_iff l _ _).mp leftFound, (factor_eq_ok_iff r _ _).mp rightFound, found.symm⟩
    · rintro ⟨left, flatLeft, right, flatRight, leftFactor, rightFactor, rfl⟩
      rw [(factor_eq_ok_iff l left flatLeft).mpr leftFactor,
        (factor_eq_ok_iff r right flatRight).mpr rightFactor]
      rfl
  · simp [ref]

/-! ### The single recognisers -/

theorem allocationCall_iff (kind : Allocation) (args : List Expr) (value : Expr) :
    (callHead? value).bind Allocation.ofHead? = some kind ∧ plainArgs? value = some args ↔
      PlainCall kind.head args value := by
  rw [plainCall_iff, Option.bind_eq_some_iff]
  simp only [ofHead?_eq_some_iff, exists_eq_right]

theorem tableCall_iff (op : TableOp) (args : List Expr) (value : Expr) :
    (callHead? value).bind TableOp.ofName? = some op ∧ plainArgs? value = some args ↔
      PlainCall op.name args value := by
  rw [plainCall_iff, Option.bind_eq_some_iff]
  simp only [ofName?_eq_some_iff, exists_eq_right]

theorem allocation?_eq_some_iff (span : Span) (target value : Expr) (form : Form) :
    allocation? (.assign span [target] value) = some form ↔
      ∃ kind source, PlainCall (Allocation.head kind) [source] value ∧ isName target = true ∧
        isName source = true ∧ form = .allocation kind target source := by
  simp only [allocation?]
  constructor
  · intro found
    split at found
    · rename_i kind source headed given
      split at found
      · rename_i bare
        rw [Bool.and_eq_true] at bare
        cases found
        exact ⟨kind, source, (allocationCall_iff kind _ value).mp ⟨headed, given⟩, bare.1, bare.2, rfl⟩
      · cases found
    · cases found
  · rintro ⟨kind, source, plain, bareTarget, bareSource, rfl⟩
    obtain ⟨headed, given⟩ := (allocationCall_iff kind _ value).mpr plain
    simp [headed, given, bareTarget, bareSource]

theorem axpy?_eq_some_iff (span : Span) (value : Expr) (form : Form) : axpy? (.expr span value) = some form ↔
    (∃ alpha x y, PlainCall "axpy" [alpha, x, y] value ∧ Reference y ∧
      form = .axpy alpha x none y) ∨
    ∃ alpha x beta y, PlainCall "axpby" [alpha, x, beta, y] value ∧ Reference y ∧
      form = .axpy alpha x (some beta) y := by
  have called (head : String) (args : List Expr) :
      argsOf? head value = some args ↔ PlainCall head args value := by
    simp [argsOf?, plainCall_iff]
  simp only [axpy?, ← isReference_iff]
  constructor
  · intro found
    split at found
    · rename_i alpha x y given
      split at found
      · rename_i ref
        cases found
        exact .inl ⟨alpha, x, y, (called _ _).mp given, ref, rfl⟩
      · cases found
    · rename_i alpha x beta y given _
      split at found
      · rename_i ref
        cases found
        exact .inr ⟨alpha, x, beta, y, (called _ _).mp given, ref, rfl⟩
      · cases found
    · cases found
  · rintro (⟨alpha, x, y, plain, ref, rfl⟩ | ⟨alpha, x, beta, y, plain, ref, rfl⟩)
    · simp [(called _ _).mpr plain, ref]
    · have notShort : argsOf? "axpy" value = none := by
        simp [argsOf?, ((plainCall_iff _ _ _).mp plain).1]
      simp [notShort, (called _ _).mpr plain, ref]

theorem operationCall?_sound (found : operationCall? (.expr span value) = some form) :
    ∃ op target operands, PlainCall (TableOp.name op) (target :: operands) value ∧
      Reference target ∧ op.accepts operands.length = true ∧ form = .operation op target operands := by
  simp only [operationCall?] at found
  split at found
  · rename_i op target operands headed given
    split at found
    · rename_i fits
      rw [Bool.and_eq_true, isReference_iff] at fits
      cases found
      exact ⟨op, target, operands, (tableCall_iff op _ value).mp ⟨headed, given⟩, fits.1, fits.2, rfl⟩
    · cases found
  · cases found

theorem assignedOperation?_sound (found : assignedOperation? target value = some form) :
    ∃ op operands, PlainCall (TableOp.name op) operands value ∧ Reference target ∧
      op.accepts operands.length = true ∧ form = .operation op target operands := by
  simp only [assignedOperation?] at found
  split at found
  · rename_i op operands headed given
    split at found
    · rename_i fits
      rw [Bool.and_eq_true, isReference_iff] at fits
      cases found
      exact ⟨op, operands, (tableCall_iff op _ value).mp ⟨headed, given⟩, fits.1, fits.2, rfl⟩
    · cases found
  · cases found

theorem wholeOf?_reference (ref : Reference target) : wholeOf? target = none := by
  cases ref <;> rfl

theorem tableCall_no_factors (op : TableOp) (plain : PlainCall op.name operands value) : factors? value = .ok none := by
  rw [factors?_eq_none_iff]
  obtain ⟨lines, nameLines, rfl, _⟩ := plain
  have unnamed : op.name ≠ "matmul" := by cases op <;> decide
  constructor
  · intro left right multiplied
    cases multiplied with
    | call called =>
      obtain ⟨_, _, same, _⟩ := called
      simp only [Expr.call.injEq, Expr.name.injEq] at same
      exact unnamed same.2.1.2
  · simpa [callHead?] using unnamed

theorem assignment?_sound (found : assignment? (.assign span [target] value) = .ok (some form)) :
    (∃ l r, ProductOf l r value ∧ product target (l, r) false = .ok form) ∨
      assignedOperation? target value = some form := by
  cases parts : factors? value with
  | error wrong => simp [assignment?, parts, bind, Except.bind] at found
  | ok pair =>
    cases pair with
    | none =>
      right
      simpa [assignment?, parts, bind, Except.bind, pure, Except.pure] using found
    | some pair =>
      left
      refine ⟨pair.1, pair.2, (factors?_eq_some_iff value _ _).mp parts, ?_⟩
      simp only [assignment?, parts, bind, Except.bind, pure, Except.pure] at found
      split at found
      · cases found
      · split at found
        · cases found
        · rename_i made
          cases found
          exact made

theorem elementwise?_eq_some_iff (span : Span) (target value : Expr) (form : Form) :
    elementwise? (.assign span [target] value) = .ok (some form) ↔
      ∃ inner, PlainCall "elementwise" [inner] value ∧ Reference target ∧
        form = .elementwise target inner := by
  simp only [elementwise?, plainCall_iff, ← isReference_iff]
  constructor
  · intro found
    split at found
    · rename_i headed
      split at found
      · rename_i inner given
        split at found
        · rename_i ref
          cases found
          exact ⟨inner, ⟨headed, given⟩, ref, rfl⟩
        · cases found
      · cases found
    · cases found
  · rintro ⟨inner, ⟨headed, given⟩, ref, rfl⟩
    simp [headed, given, ref]

theorem elementwise?_eq_none_iff (span : Span) (target value : Expr) :
    elementwise? (.assign span [target] value) = .ok none ↔ callHead? value ≠ some "elementwise" := by
  simp only [elementwise?]
  constructor
  · intro absent headed
    simp only [headed, ↓reduceIte] at absent
    split at absent
    · split at absent <;> cases absent
    · cases absent
  · intro headed
    simp [headed]

theorem accumulation?_sound (found : accumulation? accumulate (.augmented span target .add value) = .ok (some form)) :
    accumulate = true ∧ ∃ l r, ProductOf l r value ∧ product target (l, r) true = .ok form := by
  simp only [accumulation?] at found
  split at found
  · rename_i allowed
    refine ⟨(Bool.and_eq_true _ _ ▸ allowed).1, ?_⟩
    cases parts : factors? value with
    | error wrong => simp [parts, bind, Except.bind] at found
    | ok pair =>
      cases pair with
      | none => simp [parts, bind, Except.bind, pure, Except.pure] at found
      | some pair =>
        refine ⟨pair.1, pair.2, (factors?_eq_some_iff value _ _).mp parts, ?_⟩
        simp only [parts, bind, Except.bind, pure, Except.pure] at found
        split at found
        · cases found
        · rename_i made
          cases found
          exact made
  · cases found

/-! ### All recognisers together -/

theorem special?_expr (accumulate : Bool) (span : Span) (value : Expr) : special? accumulate (.expr span value) =
    .ok ((axpy? (.expr span value)).or (operationCall? (.expr span value))) := by
  simp only [special?, allocation?]
  cases axpy? (.expr span value) with
  | some form => rfl
  | none => cases operationCall? (.expr span value) <;> rfl

theorem special?_augmented (accumulate : Bool) (span : Span) (target value : Expr) (op : BinaryOp) :
    special? accumulate (.augmented span target op value) =
      accumulation? accumulate (.augmented span target op value) := rfl

theorem special?_assign (accumulate : Bool) (span : Span) (target value : Expr) :
    special? accumulate (.assign span [target] value) =
      match allocation? (.assign span [target] value) with
      | some form => .ok (some form)
      | none =>
        match assignment? (.assign span [target] value) with
        | .error wrong => .error wrong
        | .ok (some form) => .ok (some form)
        | .ok none => elementwise? (.assign span [target] value) := by
  simp only [special?, axpy?, operationCall?, accumulation?, bind, Except.bind, pure, Except.pure]
  cases allocation? (.assign span [target] value) with
  | some form => rfl
  | none =>
    cases assignment? (.assign span [target] value) with
    | error wrong => rfl
    | ok assigned =>
      cases assigned with
      | some form => rfl
      | none =>
        cases elementwise? (.assign span [target] value) with
        | error wrong => rfl
        | ok applied => cases applied <;> rfl

theorem special?_assign_sound (found : special? accumulate (.assign span [target] value) = .ok (some form)) :
    Spells accumulate form (.assign span [target] value) := by
  rw [special?_assign] at found
  split at found
  · rename_i made allocated
    cases found
    obtain ⟨kind, source, plain, bareTarget, bareSource, rfl⟩ :=
      (allocation?_eq_some_iff span target value form).mp allocated
    exact .allocation kind plain bareTarget bareSource
  · rename_i unallocated
    split at found
    · cases found
    · rename_i made assigned
      cases found
      rcases assignment?_sound assigned with
        ⟨l, r, multiplied, produced⟩ | listed
      · obtain ⟨ref, left, flatLeft, right, flatRight, leftFactor, rightFactor, rfl⟩ :=
          (product_eq_ok_iff target l r false form).mp produced
        exact .product multiplied ref leftFactor rightFactor
      · obtain ⟨op, operands, plain, ref, counted, rfl⟩ :=
          assignedOperation?_sound listed
        refine .operationAssigned op plain ref counted ?_
        -- between two names a copy would have been taken as an allocation
        rintro ⟨rfl, bareTarget, source, rfl, bareSource⟩
        have allocated := (allocation?_eq_some_iff span target value (.allocation .copy target source)).mpr
          ⟨.copy, source, plain, bareTarget, bareSource, rfl⟩
        rw [unallocated] at allocated
        cases allocated
    · obtain ⟨inner, plain, ref, rfl⟩ := (elementwise?_eq_some_iff span target value form).mp found
      exact .elementwise plain ref

theorem special?_assign_free (absent : special? accumulate (.assign span [target] value) = .ok none) :
    ¬ TakenEarlier value := by
  rw [special?_assign] at absent
  split at absent
  · cases absent
  · split at absent
    · cases absent
    · cases absent
    · rename_i unassigned
      rintro (headed | ⟨headed, malformed⟩)
      · exact (elementwise?_eq_none_iff span target value).mp absent headed
      · have refused := (factors?_eq_error_iff value .productArguments).mpr ⟨rfl, headed, malformed⟩
        simp [assignment?, refused, bind, Except.bind] at unassigned

theorem special?_whole (whole : Whole ref target) (free : ¬ TakenEarlier value) :
    special? accumulate (.assign span [target] value) = .ok none := by
  have whole' := (wholeOf?_eq_some_iff target ref).mpr whole
  have unnamed : isName target = false ∧ isReference target = false := by
    obtain ⟨_, _, _, rfl⟩ := whole
    exact ⟨rfl, rfl⟩
  have unallocated : allocation? (.assign span [target] value) = none := by
    cases allocated : allocation? (.assign span [target] value) with
    | none => rfl
    | some form =>
      obtain ⟨_, _, _, bareTarget, _⟩ := (allocation?_eq_some_iff span target value form).mp allocated
      rw [unnamed.1] at bareTarget
      cases bareTarget
  have unassigned : assignment? (.assign span [target] value) = .ok none := by
    cases parts : factors? value with
    | error wrong => exact absurd (.inr ((factors?_eq_error_iff value wrong).mp parts).2) free
    | ok pair =>
      cases pair with
      | some pair => simp [assignment?, parts, whole', bind, Except.bind, pure, Except.pure]
      | none =>
        have unlisted : assignedOperation? target value = none := by
          simp only [assignedOperation?, unnamed.2, Bool.false_and, Bool.false_eq_true, ↓reduceIte]
          split <;> rfl
        simp [assignment?, parts, unlisted, bind, Except.bind, pure, Except.pure]
  rw [special?_assign, unallocated, unassigned]
  exact (elementwise?_eq_none_iff span target value).mpr fun headed => free (.inl headed)

theorem plainCall_head (plain : PlainCall head args e) : callHead? e = some head :=
  ((plainCall_iff head args e).mp plain).1

theorem allocation?_other_head (other : ∀ kind : Allocation, callHead? value ≠ some kind.head) :
    allocation? (.assign span [target] value) = none := by
  cases allocated : allocation? (.assign span [target] value) with
  | none => rfl
  | some form =>
    obtain ⟨kind, source, plain, _⟩ := (allocation?_eq_some_iff span target value form).mp allocated
    exact absurd (plainCall_head plain) (other kind)

theorem productOf_other_head (multiplied : ProductOf l r value) (kind : Allocation) :
    callHead? value ≠ some kind.head := by
  cases multiplied with
  | operator lines _ _ => simp [callHead?]
  | call plain =>
    rw [plainCall_head plain]
    cases kind <;> decide

theorem ofName?_name (op : TableOp) : TableOp.ofName? op.name = some op := (ofName?_eq_some_iff op.name op).mpr rfl

/-- What becomes of a table operation that is called on its target. -/
theorem special?_called (plain : PlainCall op.name (target :: operands) value) (ref : Reference target) :
    special? accumulate (.expr span value) =
      .ok (if op.accepts operands.length then some (.operation op target operands) else none) := by
  obtain ⟨named, given⟩ := (plainCall_iff _ _ _).mp plain
  have other : op.name ≠ "axpy" ∧ op.name ≠ "axpby" := by cases op <;> decide
  simp [special?_expr, axpy?, argsOf?, operationCall?, named, given, ofName?_name, other, (isReference_iff target).mpr ref]

theorem allocation?_tableCall (plain : PlainCall op.name operands value) (other : ¬ IsNameCopy op target operands) :
    allocation? (.assign span [target] value) = none := by
  cases allocated : allocation? (.assign span [target] value) with
  | none => rfl
  | some made =>
    obtain ⟨kind, source, called, bareTarget, bareSource, _⟩ :=
      (allocation?_eq_some_iff span target value made).mp allocated
    obtain ⟨named, given⟩ := (plainCall_iff _ _ _).mp plain
    obtain ⟨named', given'⟩ := (plainCall_iff _ _ _).mp called
    rw [named, Option.some.injEq] at named'
    rw [given, Option.some.injEq] at given'
    have copied : op = .copy := by cases op <;> cases kind <;> simp_all [TableOp.name, Allocation.head]
    exact absurd ⟨copied, bareTarget, source, given', bareSource⟩ other

/-- What becomes of a table operation that is assigned to its target. -/
theorem special?_assigned (plain : PlainCall op.name operands value) (ref : Reference target)
    (other : ¬ IsNameCopy op target operands) : special? accumulate (.assign span [target] value) =
      .ok (if op.accepts operands.length then some (.operation op target operands) else none) := by
  obtain ⟨named, given⟩ := (plainCall_iff _ _ _).mp plain
  have unapplied : op.name ≠ "elementwise" := by cases op <;> decide
  rw [special?_assign, allocation?_tableCall plain other]
  simp only [assignment?, tableCall_no_factors op plain, assignedOperation?, named, given, Option.bind_some, ofName?_name,
    (isReference_iff target).mpr ref, Bool.true_and, bind, Except.bind, pure, Except.pure]
  cases op.accepts operands.length <;> simp [elementwise?, named, unapplied]

/-- What becomes of a product that is assigned to something other than the whole of an array. -/
theorem special?_product (multiplied : ProductOf l r value) (part : wholeOf? target = none) :
    special? accumulate (.assign span [target] value) = (product target (l, r) false).map some := by
  rw [special?_assign, allocation?_other_head (productOf_other_head multiplied)]
  simp only [assignment?, (factors?_eq_some_iff value l r).mpr multiplied, part, bind, Except.bind, pure, Except.pure]
  cases product target (l, r) false <;> rfl

theorem special?_accumulated (allowed : accumulate = true) (multiplied : ProductOf l r value)
    (part : wholeOf? target = none) :
    special? accumulate (.augmented span target .add value) = (product target (l, r) true).map some := by
  simp only [allowed, special?_augmented, accumulation?, part, Option.isNone_none, Bool.and_self, ↓reduceIte,
    (factors?_eq_some_iff value l r).mpr multiplied, bind, Except.bind, pure, Except.pure]
  cases product target (l, r) true <;> rfl

theorem Spells.taken (spelt : Spells accumulate form s) : special? accumulate s = .ok (some form) ∨
    special? accumulate s = .ok none ∧ broadcast? s = some form := by
  cases spelt with
  | @allocation source value target span kind plain bareTarget bareSource =>
    left
    rw [special?_assign, (allocation?_eq_some_iff span target value _).mpr
      ⟨kind, source, plain, bareTarget, bareSource, rfl⟩]
  | @axpy alpha x y value span plain ref =>
    left
    rw [special?_expr, (axpy?_eq_some_iff span value _).mpr (.inl ⟨alpha, x, y, plain, ref, rfl⟩)]
    rfl
  | @axpby alpha x beta y value span plain ref =>
    left
    rw [special?_expr, (axpy?_eq_some_iff span value _).mpr (.inr ⟨alpha, x, beta, y, plain, ref, rfl⟩)]
    rfl
  | @operationCall target operands value span op plain ref counted =>
    left
    rw [special?_called plain ref, counted]
    rfl
  | @operationAssigned operands value target span op plain ref counted other =>
    left
    rw [special?_assigned plain ref other, counted]
    rfl
  | @product l r value target left flatLeft right flatRight span multiplied ref leftFactor rightFactor =>
    left
    rw [special?_product multiplied (wholeOf?_reference ref), (product_eq_ok_iff target l r false _).mpr
      ⟨ref, left, flatLeft, right, flatRight, leftFactor, rightFactor, rfl⟩]
    rfl
  | @accumulation l r value target left flatLeft right flatRight span allowed multiplied ref leftFactor
      rightFactor =>
    left
    rw [special?_accumulated allowed multiplied (wholeOf?_reference ref), (product_eq_ok_iff target l r true _).mpr
      ⟨ref, left, flatLeft, right, flatRight, leftFactor, rightFactor, rfl⟩]
    rfl
  | @elementwise inner value target span plain ref =>
    left
    have named := plainCall_head plain
    have unallocated : allocation? (.assign span [target] value) = none :=
      allocation?_other_head fun kind => by rw [named]; cases kind <;> decide
    have unassigned : assignment? (.assign span [target] value) = .ok none := by
      have unmultiplied : factors? value = .ok none := by
        obtain ⟨_, _, rfl, _⟩ := plain
        rfl
      have unlisted : assignedOperation? target value = none := by
        simp [assignedOperation?, named, TableOp.ofName?, TableOp.all, TableOp.name]
      simp [assignment?, unmultiplied, unlisted, bind, Except.bind, pure, Except.pure]
    rw [special?_assign, unallocated, unassigned]
    exact (elementwise?_eq_some_iff span target value _).mpr ⟨inner, plain, ref, rfl⟩
  | @broadcast ref target value span whole free =>
    right
    exact ⟨special?_whole whole free, by simp [broadcast?, (wholeOf?_eq_some_iff target ref).mpr whole]⟩
  | @update ref target value span op whole =>
    right
    have found := (wholeOf?_eq_some_iff target ref).mpr whole
    constructor
    · rw [special?_augmented]
      cases op <;> simp [accumulation?, InPlaceOp.binary, found]
    · cases op <;> simp [broadcast?, InPlaceOp.binary, InPlaceOp.ofBinary?, found]

theorem special?_sound (found : special? accumulate s = .ok (some form)) : Spells accumulate form s := by
  cases s with
  | expr span value =>
    rw [special?_expr, Except.ok.injEq, Option.or_eq_some_iff] at found
    rcases found with found | ⟨_, found⟩
    · rcases (axpy?_eq_some_iff span value form).mp found with
        ⟨alpha, x, y, plain, ref, rfl⟩ | ⟨alpha, x, beta, y, plain, ref, rfl⟩
      · exact .axpy plain ref
      · exact .axpby plain ref
    · obtain ⟨op, target, operands, plain, ref, counted, rfl⟩ :=
        operationCall?_sound found
      exact .operationCall op plain ref counted
  | assign span targets value =>
    match targets, found with
    | [], found => cases found
    | [target], found => exact special?_assign_sound found
    | _ :: _ :: _, found => cases found
  | augmented span target op value =>
    rw [special?_augmented] at found
    cases op with
    | add =>
      obtain ⟨allowed, l, r, multiplied, produced⟩ :=
        accumulation?_sound found
      obtain ⟨ref, left, flatLeft, right, flatRight, leftFactor, rightFactor, rfl⟩ :=
        (product_eq_ok_iff target l r true form).mp produced
      exact .accumulation allowed multiplied ref leftFactor rightFactor
    | _ => cases found
  | _ => cases found

theorem broadcast?_sound (absent : special? accumulate s = .ok none) (found : broadcast? s = some form) :
    Spells accumulate form s := by
  cases s with
  | assign span targets value =>
    match targets, absent, found with
    | [], _, found => cases found
    | [target], absent, found =>
      obtain ⟨ref, whole, rfl⟩ := Option.map_eq_some_iff.mp found
      exact .broadcast ((wholeOf?_eq_some_iff target ref).mp whole) (special?_assign_free absent)
    | _ :: _ :: _, _, found => cases found
  | augmented span target op value =>
    simp only [broadcast?] at found
    split at found
    · rename_i inPlace ref known whole
      cases found
      have same : op = inPlace.binary := by cases op <;> cases known <;> rfl
      subst same
      exact .update inPlace ((wholeOf?_eq_some_iff target ref).mp whole)
    · cases found
  | _ => cases found

theorem Spells.supported (spelt : Spells accumulate form s) : form.shape ≠ .unsupported := by
  cases spelt with
  | allocation kind => cases kind <;> simp [Form.shape, Allocation.shape]
  | operationCall op | operationAssigned op => cases op <;> simp [Form.shape, TableOp.shape]
  | _ => simp [Form.shape]

theorem recognise_plain (policy : Policy) (depth : Int) (s : Stmt) (noExpanders : policy.expanders = []) :
    (recognise policy depth s).outcome =
      match special? policy.accumulate s with
      | .error wrong => .error (.diagnostic (.malformedForm wrong.form s.text wrong.reason))
      | .ok (some form) => .ok form
      | .ok none => .ok (general s) := by
  have notExpanded : expansionOf? policy s = none := by
    unfold expansionOf?
    split
    · rename_i value
      cases callHead? value <;> simp [Policy.expander?, noExpanders]
    · rfl
  unfold recognise
  rw [recogniseWithin]
  cases special? policy.accumulate s with
  | error wrong => rfl
  | ok found =>
    cases found with
    | some form => rfl
    | none => simp [notExpanded]

theorem recognise_spells {policy : Policy} (noExpanders : policy.expanders = [])
    (found : (recognise policy depth s).outcome = .ok form) (supported : ∀ t, form ≠ .unsupported t) :
    Spells policy.accumulate form s := by
  rw [recognise_plain policy depth s noExpanders] at found
  split at found
  · cases found
  · rename_i special
    cases found
    exact special?_sound special
  · rename_i absent
    cases left : broadcast? s with
    | none =>
      simp only [general, left, Option.getD_none, Except.ok.injEq] at found
      exact absurd found.symm (supported s)
    | some made =>
      simp only [general, left, Option.getD_some, Except.ok.injEq] at found
      subst found
      exact broadcast?_sound absent left

/-- Without expanders, a statement is recognised as a form inside the grammar exactly if it is one of the
spellings of that form. -/
theorem recognise_iff_spells (policy : Policy) (depth : Int) (s : Stmt) (form : Form)
    (noExpanders : policy.expanders = []) : (recognise policy depth s).outcome = .ok form ∧ form.shape ≠ .unsupported ↔
      Spells policy.accumulate form s := by
  constructor
  · rintro ⟨found, supported⟩
    exact recognise_spells noExpanders found fun t same => supported (same ▸ rfl)
  · intro spelt
    refine ⟨?_, spelt.supported⟩
    rw [recognise_plain policy depth s noExpanders]
    rcases spelt.taken with special | ⟨absent, left⟩
    · rw [special]
    · simp [absent, general, left]

/-- `y += vec(a) @ x`, on any lines. -/
theorem recognise_accumulated_product : Policy.standard.expanders = [] ∧
    (recognise .standard 1 (.augmented ⟨3, 4, 3, 19⟩ (.name ⟨3, 3⟩ "y") .add
      (.binary ⟨3, 3⟩ .matMult
        (.call ⟨3, 3⟩ (.name ⟨3, 3⟩ "vec") [.name ⟨3, 3⟩ "a"] []) (.name ⟨3, 3⟩ "x")))).outcome =
      .ok (.product (.name ⟨3, 3⟩ "y") (.name ⟨3, 3⟩ "a") (.name ⟨3, 3⟩ "x") .left true) := by
  refine ⟨rfl, ((recognise_iff_spells _ _ _ _ rfl).mpr ?_).1⟩
  exact .accumulation rfl (.operator _ _ _) (.name _ _) (.flattened ⟨_, _, rfl, by simp [isStarred]⟩)
    (.plain (by simp [callHead?]))

end Rebind.Update
