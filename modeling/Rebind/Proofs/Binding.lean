import Rebind.Proofs.Splicing
import Rebind.Syntax.Scope
/-!
What code binds. The names that an expression or a statement binds in the function around it are read off the text,
in no order and without the checks that go along with gathering; where gathering goes through, it comes to the same.
-/
namespace Rebind.Syntax

/-! ### Expressions -/

def Expr.bareName : Expr → List String
  | .name _ id => [id]
  | _ => []

mutual

/-- The names that an expression binds in its midst, in the function around it. A lambda keeps those of its body. -/
def Expr.assigned : Expr → List String
  | .name _ _ | .literal _ _ => []
  | .attribute _ v _ => v.assigned
  | .subscript _ v i => v.assigned ++ i.assigned
  | .slice _ a b c => assignedOption a ++ (assignedOption b ++ assignedOption c)
  | .call _ f as ks => f.assigned ++ (assignedList as ++ assignedKeywords ks)
  | .binary _ _ a b => a.assigned ++ b.assigned
  | .unary _ _ a => a.assigned
  | .boolean _ _ as => assignedList as
  | .compare _ a as => a.assigned ++ assignedComparisons as
  | .conditional _ a b c => a.assigned ++ (b.assigned ++ c.assigned)
  | .lambda _ p _ => p.assigned
  | .tuple _ as | .list _ as | .set _ as => assignedList as
  | .dict _ as => assignedEntries as
  | .starred _ a => a.assigned
  | .listComp _ a cs | .setComp _ a cs | .generator _ a cs => assignedSource cs ++ (assignedClauses cs ++ a.assigned)
  | .dictComp _ k a cs => assignedSource cs ++ (assignedClauses cs ++ (a.assigned ++ k.assigned))
  | .named _ t a => t.bareName ++ a.assigned
  | .yields _ a => assignedOption a
  | .yieldsFrom _ a => a.assigned
  | .await _ a => a.assigned
  | .filled a => a.assigned

/-- The names that a target binds in its midst. -/
def Expr.assignedTarget : Expr → List String
  | .attribute _ v _ => v.assigned
  | .subscript _ v i => v.assigned ++ i.assigned
  | .tuple _ as | .list _ as => assignedTargets as
  | .starred _ a => a.assignedTarget
  | .filled a => a.assigned
  | _ => []

@[simp] def assignedTargets : List Expr → List String
  | [] => []
  | a :: as => a.assignedTarget ++ assignedTargets as

def assignedOption : Option Expr → List String
  | none => []
  | some a => a.assigned

@[simp] def assignedList : List Expr → List String
  | [] => []
  | a :: as => a.assigned ++ assignedList as

def assignedComparisons : List (CompareOp × Expr) → List String
  | [] => []
  | (_, a) :: as => a.assigned ++ assignedComparisons as

def assignedEntries : List (Option Expr × Expr) → List String
  | [] => []
  | (k, a) :: as => assignedOption k ++ (a.assigned ++ assignedEntries as)

def Keyword.assigned : Keyword → List String
  | .mk _ a => a.assigned

@[simp] def assignedKeywords : List Keyword → List String
  | [] => []
  | a :: as => a.assigned ++ assignedKeywords as

def Clause.assignedSource : Clause → List String
  | .mk _ _ i _ => i.assigned

def Clause.assignedTarget : Clause → List String
  | .mk _ t _ _ => t.assignedTarget

def Clause.assignedConditions : Clause → List String
  | .mk _ _ _ cs => assignedList cs

def assignedSource : List Clause → List String
  | [] => []
  | a :: _ => a.assignedSource

def assignedClauses : List Clause → List String
  | [] => []
  | a :: as => a.assignedTarget ++ (a.assignedConditions ++ assignedLater as)

def assignedLater : List Clause → List String
  | [] => []
  | a :: as => a.assignedTarget ++ (a.assignedSource ++ (a.assignedConditions ++ assignedLater as))

def Param.assigned : Param → List String
  | .mk _ a v => assignedOption a ++ assignedOption v

def assignedParams : List Param → List String
  | [] => []
  | a :: as => a.assigned ++ assignedParams as

def assignedParam : Option Param → List String
  | none => []
  | some a => a.assigned

def Params.assigned : Params → List String
  | .mk a b c e f =>
    assignedParams a ++ (assignedParams b ++ (assignedParam c ++ (assignedParams e ++ assignedParam f)))

end

mutual

def Expr.targetNames : Expr → List String
  | .name _ id => [id]
  | .tuple _ as | .list _ as => targetNamesAll as
  | .starred _ a => a.targetNames
  | _ => []

@[simp] def targetNamesAll : List Expr → List String
  | [] => []
  | a :: as => a.targetNames ++ targetNamesAll as

end

/-! ### Gathering -/

/-- Functions and comprehensions, whose names end up in a function. -/
def BlockKind.Inner (kind : BlockKind) : Prop := kind = .function ∨ kind = .comprehension

/-- The targets that a block binds for itself: those of a comprehension stay inside. -/
def BlockKind.own : BlockKind → List String → List String
  | .comprehension, _ => []
  | _, names => names

@[simp] theorem BlockKind.own_nil (kind : BlockKind) : kind.own [] = [] := by cases kind <;> rfl

theorem BlockKind.own_append (kind : BlockKind) (names more : List String) :
    kind.own (names ++ more) = kind.own names ++ kind.own more := by cases kind <;> rfl

/-- The names that no expression adds to. -/
def Names.given (names : Names) : List String × List String × List String × List String :=
  (names.params, names.imports, names.globals, names.nonlocals)

namespace Draft

/-- The names that the draft has bound for the function around it, or as that function. -/
def outlets (d : Draft) : List String :=
  match d.kind with
  | .comprehension => d.names.exports
  | _ => d.names.binds

/-- The draft has gained outlets. -/
structure Gains (d d' : Draft) (names : List String) : Prop where
  kind : d'.kind = d.kind
  owner : d'.owner = d.owner
  given : d.kind.Inner → d'.names.given = d.names.given
  outlets : d.kind.Inner → ∀ x, x ∈ d'.outlets ↔ x ∈ d.outlets ∨ x ∈ names

def Widens (d d' : Draft) (names : List String) : Prop := d.Gains d' (names.map (privateName d.owner))

section
variable {d d' d'' : Draft} {name : String} {names more : List String}

theorem Gains.refl (d : Draft) : d.Gains d [] := ⟨rfl, rfl, fun _ => rfl, by simp⟩

theorem Gains.trans (first : d.Gains d' names) (second : d'.Gains d'' more) : d.Gains d'' (names ++ more) where
  kind := second.kind.trans first.kind
  owner := second.owner.trans first.owner
  given inner := (second.given (first.kind ▸ inner)).trans (first.given inner)
  outlets inner x := by rw [second.outlets (first.kind ▸ inner), first.outlets inner, List.mem_append, or_assoc]

theorem Gains.congr (gains : d.Gains d' names) (same : ∀ x, x ∈ names ↔ x ∈ more) : d.Gains d' more :=
  { gains with outlets := fun inner x => by rw [gains.outlets inner, same] }

theorem Widens.refl (d : Draft) : d.Widens d [] := Gains.refl d

theorem Widens.trans (first : d.Widens d' names) (second : d'.Widens d'' more) : d.Widens d'' (names ++ more) := by
  unfold Widens at second ⊢
  rw [first.owner] at second
  rw [List.map_append]
  exact Gains.trans first second

theorem Widens.then (first : d.Widens d' names) (second : d'.Widens d'' []) : d.Widens d'' names := by
  simpa using first.trans second

theorem Widens.congr (widens : d.Widens d' names) (same : ∀ x, x ∈ names ↔ x ∈ more) : d.Widens d' more :=
  Gains.congr widens (by simp [same])

theorem note_widens (done : d.note name = some d') : d.Widens d' [] := by
  unfold note at done
  split at done
  · cases done
    exact .refl d
  · split at done
    · cases done
    · cases done
      exact ⟨rfl, rfl, fun _ => rfl, fun _ x => by simp [Draft.outlets]⟩

theorem read_widens (done : d.read name = some d') : d.Widens d' [] := by
  have noted := note_widens done
  have added : d.Widens { d with names := { d.names with reads := d.known name :: d.names.reads } } [] :=
    ⟨rfl, rfl, fun _ => rfl, fun _ x => by simp [Draft.outlets]⟩
  exact added.then noted

theorem readName_widens (done : d.readName name = some d') : d.Widens d' [] := by
  unfold readName at done
  split at done
  · cases done
    exact .refl d
  · simp only [Option.bind_eq_bind, Option.bind_eq_some_iff] at done
    obtain ⟨between, first, rest⟩ := done
    split at rest
    · exact (read_widens first).then (read_widens rest)
    · cases rest
      exact read_widens first

theorem bind_widens (done : d.bind name = some d') : d.Widens d' (d.kind.own [name]) := by
  have noted := note_widens done
  have added : d.Widens { d with names := { d.names with binds := d.known name :: d.names.binds } }
      (d.kind.own [name]) := by
    refine ⟨rfl, rfl, fun _ => rfl, fun inner x => ?_⟩
    rcases inner with kind | kind <;> simp [Draft.outlets, BlockKind.own, kind, known, or_comm]
  exact added.then noted

theorem bindWithin_widens (done : d.bindWithin name = some d') : d.Widens d' [name] := by
  unfold bindWithin at done
  split at done
  · split at done
    · cases done
    · rename_i kind _
      cases done
      exact ⟨rfl, rfl, fun _ => rfl, fun _ x => by simp [Draft.outlets, kind, known, or_comm]⟩
  · rename_i kind
    have widens := bind_widens done
    cases own : d.kind with
    | comprehension => exact (kind own).elim
    | _ => simpa [own, BlockKind.own] using widens

theorem take_gains (done : d.take name = some d') : d.Gains d' [name] := by
  unfold take at done
  split at done
  · split at done
    · cases done
    · rename_i kind _
      cases done
      exact ⟨rfl, rfl, fun _ => rfl, fun _ x => by simp [Draft.outlets, kind, or_comm]⟩
  · rename_i kind
    cases done
    exact ⟨rfl, rfl, fun _ => rfl, fun _ x => by simp [Draft.outlets, kind, or_comm]⟩
  · rename_i kind
    cases done
    exact ⟨rfl, rfl, by simp [BlockKind.Inner, kind], by simp [BlockKind.Inner, kind]⟩
  · cases done

theorem takeAll_gains (done : names.foldlM take d = some d') : d.Gains d' names := by
  induction names generalizing d with
  | nil =>
    cases done
    exact .refl _
  | cons name rest ih =>
    simp only [List.foldlM_cons, Option.bind_eq_bind, Option.bind_eq_some_iff] at done
    obtain ⟨between, first, later⟩ := done
    exact (take_gains first).trans (ih later)

theorem setYields_widens (done : d.setYields = some d') : d.Widens d' [] := by
  unfold setYields at done
  split at done
  · cases done
  · cases done
    exact ⟨rfl, rfl, fun _ => rfl, fun _ x => by simp [Draft.outlets]⟩

theorem setWaits_widens (d : Draft) (waits : Bool) : d.Widens (d.setWaits waits) [] :=
  ⟨rfl, rfl, fun _ => rfl, fun _ x => by simp [Draft.outlets, setWaits]⟩

theorem add_widens (d inside : Draft) : d.Widens (d.add inside) [] :=
  ⟨rfl, rfl, fun _ => rfl, fun _ x => by simp [Draft.outlets, add]⟩

theorem comprehension_widens {inside : Draft} {lazy : Bool} (gathered : d.comprehension.Widens inside names)
    (done : d.addComprehension lazy inside = some d') : d.Widens d' names := by
  have added := (add_widens d inside).then (setWaits_widens (d.add inside) (inside.names.waits && !lazy))
  refine (Gains.trans added (takeAll_gains done)).congr fun x => ?_
  have exported := gathered.outlets (.inr rfl) x
  have kind : inside.kind = .comprehension := gathered.kind
  simpa [Draft.outlets, kind, comprehension] using exported

theorem Widens.marked {iterating targeting : Bool}
    (widens : { d with iterating := iterating, targeting := targeting }.Widens d' names) (iterating' targeting' : Bool) :
    d.Widens { d' with iterating := iterating', targeting := targeting' } names := { widens with }

end

/-- In drafts of the kind, the step binds the names, if it goes through. -/
def Binds (kind : BlockKind) (step : Draft → Option Draft) (names : List String) : Prop :=
  ∀ d d', d.kind = kind → step d = some d' → d.Widens d' names

section
variable {kind : BlockKind} {step next : Draft → Option Draft} {names more : List String}

theorem Binds.andThen (first : Binds kind step names) (second : Binds kind next more) :
    Binds kind (fun d => (step d).bind next) (names ++ more) := by
  intro d d' isKind done
  obtain ⟨between, ran, later⟩ := Option.bind_eq_some_iff.mp done
  have widens := first d between isKind ran
  exact widens.trans (second between d' (widens.kind.trans isKind) later)

theorem Binds.finish (first : Binds kind step names) (second : Binds kind next []) :
    Binds kind (fun d => (step d).bind next) names := by
  simpa using first.andThen second

theorem binds_some (kind : BlockKind) : Binds kind some [] := by
  rintro d d' - ⟨⟩
  exact .refl d

theorem Binds.noTargets (first : Binds kind step names) : Binds kind step (kind.own [] ++ names) := by
  simpa using first

theorem Binds.of_eq (first : Binds kind step names) (same : ∀ d, next d = step d) : Binds kind next names :=
  fun d d' isKind done => first d d' isKind (same d ▸ done)

theorem adds_binds (start : Draft → Option Draft) (inside : Draft → Draft → Option Draft) :
    Binds kind (fun d => (start d).bind fun begun => (inside d begun).bind fun inner => some (d.add inner)) [] := by
  intro d d' _ done
  obtain ⟨begun, -, rest⟩ := Option.bind_eq_some_iff.mp done
  obtain ⟨inner, -, ⟨⟩⟩ := Option.bind_eq_some_iff.mp rest
  exact add_widens d inner

theorem comprehension_binds (lazy : Bool) (first : Binds kind step names) (second : Binds .comprehension next more) :
    Binds kind (fun d => (step d).bind fun d => (next d.comprehension).bind (d.addComprehension lazy))
      (names ++ more) := by
  refine first.andThen fun d d' _ done => ?_
  obtain ⟨draft, gathered, added⟩ := Option.bind_eq_some_iff.mp done
  exact comprehension_widens (second _ draft rfl gathered) added

end
end Draft

open Draft

mutual

theorem Expr.gather_binds : ∀ (e : Expr) {kind : BlockKind}, Binds kind e.gather e.assigned
  | .name _ id, kind => fun d d' _ done => readName_widens done
  | .literal _ _, kind => binds_some kind
  | .attribute _ v _, _ => v.gather_binds
  | .subscript _ v i, _ => v.gather_binds.andThen i.gather_binds
  | .slice _ a b c, _ =>
    (gatherOption_binds a).andThen ((gatherOption_binds b).andThen (gatherOption_binds c))
  | .call _ f as ks, _ =>
    f.gather_binds.andThen ((gatherList_binds as).andThen (gatherKeywords_binds ks))
  | .binary _ _ a b, _ => a.gather_binds.andThen b.gather_binds
  | .unary _ _ a, _ => a.gather_binds
  | .boolean _ _ as, _ => gatherList_binds as
  | .compare _ a as, _ => a.gather_binds.andThen (gatherComparisons_binds as)
  | .conditional _ a b c, _ =>
    a.gather_binds.andThen (b.gather_binds.andThen c.gather_binds)
  | .lambda _ p a, _ =>
    p.gather_binds.finish (adds_binds (fun d => Draft.function d.owner (p.all.map Param.name))
      fun d begun => a.gather { begun with iterating := d.iterating })
  | .tuple _ as, _ | .list _ as, _ | .set _ as, _ => gatherList_binds as
  | .dict _ as, _ => gatherEntries_binds as
  | .starred _ a, _ => a.gather_binds
  | .listComp _ a cs, _ | .setComp _ a cs, _ =>
    (comprehension_binds false (gatherSource_binds cs)
      ((gatherClauses_binds cs).andThen a.gather_binds)).of_eq
        fun d => by simp [Expr.gather, Option.bind_assoc]
  | .generator _ a cs, _ =>
    (comprehension_binds true (gatherSource_binds cs)
      ((gatherClauses_binds cs).andThen a.gather_binds)).of_eq
        fun d => by simp [Expr.gather, Option.bind_assoc]
  | .dictComp _ k a cs, _ =>
    (comprehension_binds false (gatherSource_binds cs)
      ((gatherClauses_binds cs).andThen (a.gather_binds.andThen k.gather_binds))).of_eq
        fun d => by simp [Expr.gather, Option.bind_assoc]
  | .named _ t a, _ => by
    intro d d' isKind done
    rw [Expr.gather.eq_def] at done
    dsimp only at done
    split at done
    · cases done
    · split at done
      · obtain ⟨between, bound, rest⟩ := Option.bind_eq_some_iff.mp done
        have widens := bindWithin_widens bound
        exact widens.trans (a.gather_binds between d' (widens.kind.trans isKind) rest)
      next other =>
        have widens := a.gather_binds d d' isKind done
        cases t <;> first | exact widens | exact (other _ _ rfl).elim
  | .yields _ a, _ => (gatherOption_binds a).finish fun _ _ _ done => setYields_widens done
  | .yieldsFrom _ a, _ => a.gather_binds.finish fun _ _ _ done => setYields_widens done
  | .await _ a, _ => a.gather_binds.finish fun d _ _ done => by
    cases done
    exact setWaits_widens d true
  | .filled a, _ => a.gather_binds

theorem Expr.gatherTarget_binds : ∀ (t : Expr) {kind : BlockKind},
    Binds kind t.gatherTarget (kind.own t.targetNames ++ t.assignedTarget)
  | .name _ id, kind => fun d d' isKind done => by
    subst isKind
    simpa [Expr.targetNames, Expr.assignedTarget] using bind_widens done
  | .attribute _ v _, _ => v.gather_binds.noTargets
  | .subscript _ v i, _ => (v.gather_binds.andThen i.gather_binds).noTargets
  | .tuple _ as, _ | .list _ as, _ => gatherTargets_binds as
  | .starred _ a, _ => a.gatherTarget_binds
  | .filled a, _ => a.gather_binds.noTargets
  | .literal .., kind | .slice .., kind | .call .., kind | .binary .., kind | .unary .., kind
  | .boolean .., kind | .compare .., kind | .conditional .., kind | .lambda .., kind | .set .., kind
  | .dict .., kind | .listComp .., kind | .setComp .., kind | .generator .., kind
  | .dictComp .., kind | .named .., kind | .yields .., kind | .yieldsFrom .., kind
  | .await .., kind => (binds_some kind).noTargets

theorem gatherTargets_binds : ∀ (ts : List Expr) {kind : BlockKind},
    Binds kind (gatherTargets ts) (kind.own (targetNamesAll ts) ++ assignedTargets ts)
  | [], kind => (binds_some kind).noTargets
  | t :: ts, kind => fun d d' isKind done => by
    refine (t.gatherTarget_binds.andThen (gatherTargets_binds ts) d d' isKind done).congr fun x => ?_
    grind [targetNamesAll, assignedTargets, BlockKind.own_append]

theorem Clause.gatherSource_binds : ∀ (c : Clause) {kind : BlockKind},
    Binds kind c.gatherSource c.assignedSource
  | .mk _ _ i _, _ => fun d d' isKind done => by
    obtain ⟨between, ran, ⟨⟩⟩ := Option.bind_eq_some_iff.mp done
    exact (i.gather_binds { d with iterating := true } between isKind ran).marked d.iterating between.targeting

theorem Clause.gatherTarget_binds : ∀ c : Clause, Binds .comprehension c.gatherTarget c.assignedTarget
  | .mk isAsync t _ _ => fun d d' isKind done => by
    obtain ⟨between, ran, ⟨⟩⟩ := Option.bind_eq_some_iff.mp done
    have waits := setWaits_widens d isAsync
    have gathered := t.gatherTarget_binds { d.setWaits isAsync with targeting := true } between isKind ran
    exact waits.trans (gathered.marked between.iterating d.targeting)

theorem Clause.gatherConditions_binds : ∀ (c : Clause) {kind : BlockKind},
    Binds kind c.gatherConditions c.assignedConditions
  | .mk _ _ _ cs, _ => gatherList_binds cs

theorem gatherSource_binds : ∀ (cs : List Clause) {kind : BlockKind},
    Binds kind (gatherSource cs) (assignedSource cs)
  | [], kind => binds_some kind
  | c :: _, _ => c.gatherSource_binds

theorem gatherClauses_binds : ∀ cs : List Clause, Binds .comprehension (gatherClauses cs) (assignedClauses cs)
  | [] => binds_some _
  | c :: cs =>
    c.gatherTarget_binds.andThen (c.gatherConditions_binds.andThen (gatherLater_binds cs))

theorem gatherLater_binds : ∀ cs : List Clause, Binds .comprehension (gatherLater cs) (assignedLater cs)
  | [] => binds_some _
  | c :: cs =>
    c.gatherTarget_binds.andThen (c.gatherSource_binds.andThen
      (c.gatherConditions_binds.andThen (gatherLater_binds cs)))

theorem gatherOption_binds : ∀ (a : Option Expr) {kind : BlockKind},
    Binds kind (gatherOption a) (assignedOption a)
  | none, kind => binds_some kind
  | some a, _ => a.gather_binds

theorem gatherList_binds : ∀ (as : List Expr) {kind : BlockKind},
    Binds kind (gatherList as) (assignedList as)
  | [], kind => binds_some kind
  | a :: as, _ => a.gather_binds.andThen (gatherList_binds as)

theorem gatherComparisons_binds : ∀ (as : List (CompareOp × Expr)) {kind : BlockKind},
    Binds kind (gatherComparisons as) (assignedComparisons as)
  | [], kind => binds_some kind
  | (_, a) :: as, _ => a.gather_binds.andThen (gatherComparisons_binds as)

theorem gatherEntries_binds : ∀ (as : List (Option Expr × Expr)) {kind : BlockKind},
    Binds kind (gatherEntries as) (assignedEntries as)
  | [], kind => binds_some kind
  | (k, a) :: as, _ =>
    (gatherOption_binds k).andThen (a.gather_binds.andThen (gatherEntries_binds as))

theorem Keyword.gather_binds : ∀ (k : Keyword) {kind : BlockKind}, Binds kind k.gather k.assigned
  | .mk _ a, _ => a.gather_binds

theorem gatherKeywords_binds : ∀ (ks : List Keyword) {kind : BlockKind},
    Binds kind (gatherKeywords ks) (assignedKeywords ks)
  | [], kind => binds_some kind
  | k :: ks, _ => k.gather_binds.andThen (gatherKeywords_binds ks)

theorem Param.gather_binds : ∀ (p : Param) {kind : BlockKind}, Binds kind p.gather p.assigned
  | .mk _ a v, _ => (gatherOption_binds a).andThen (gatherOption_binds v)

theorem gatherParams_binds : ∀ (ps : List Param) {kind : BlockKind},
    Binds kind (gatherParams ps) (assignedParams ps)
  | [], kind => binds_some kind
  | p :: ps, _ => p.gather_binds.andThen (gatherParams_binds ps)

theorem gatherParam_binds : ∀ (p : Option Param) {kind : BlockKind},
    Binds kind (gatherParam p) (assignedParam p)
  | none, kind => binds_some kind
  | some p, _ => p.gather_binds

theorem Params.gather_binds : ∀ (p : Params) {kind : BlockKind}, Binds kind p.gather p.assigned
  | .mk a b c e f, _ =>
    (gatherParams_binds a).andThen ((gatherParams_binds b).andThen ((gatherParam_binds c).andThen
      ((gatherParams_binds e).andThen (gatherParam_binds f))))

end
end Rebind.Syntax
