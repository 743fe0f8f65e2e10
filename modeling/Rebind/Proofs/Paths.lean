import Rebind.Proofs.FailedProducts
import Rebind.Proofs.Grammar
import Rebind.Proofs.Targets
/-!
Dotted paths. Evaluating a path reads variables and attributes and at most makes new arrays and matrices over old cells
and entries. So when nothing but contents has changed in between, a path that led somewhere leads there again: to the
same value, or to an array or a matrix that was made in the same way.
-/
namespace Rebind

open Number Strided Syntax Update Value Run Program

/-- The path itself and the paths that it goes on from. -/
def Update.stages : Expr → List Expr
  | .attribute l e attr => .attribute l e attr :: stages e
  | e => [e]

def Value.isInert : Value → Bool
  | .num _ | .str _ | .tuple _ => true
  | _ => false

/-- Where a path leads to in a memory, and where it leads to again in another one: to the same value, as long as nothing
was made on the way, or to one that was made alike. -/
inductive Value.Again (m m' : Memory) : Value → Memory → Value → Memory → Prop
  | read (v : Value) : Again m m' v m v m'
  | inert (plain : v.isInert = true) (after last : Memory) : Again m m' v after v last
  | array (i j : Nat) (view : View) (after last : Memory) : Again m m' (.array i view) after (.array j view) last
  | sparse {i j : Nat} {o o' : SparseObject} (found : after.objects[i]? = some (.sparse o))
      (found' : last.objects[j]? = some (.sparse o')) (format : o'.format = o.format) (shape : o'.shape = o.shape) :
      Again m m' (.sparse i) after (.sparse j) last

def Run.IsIdle (run : Run α) : Prop :=
  ∀ m a after, run.Yields m a after → m = after ∧ ∀ other, run.Yields other a other

section
variable {m m' between between' after last : Memory} {parts : Set Part} {v w u : Value} {e : Expr}

/-! ### Paths only add to memory -/

theorem leaves_onLine {run : Run α} {rel : Memory → Memory → Prop} [Std.Refl rel] [Trans rel rel rel] (line : Nat)
    (leaves : run.Leaves rel) : (onLine line run).Leaves rel :=
  leaves.tryCatch fun _ => leaves_throw _

theorem loadGlobal_adds (x : String) : (loadGlobal x).Adds := by
  unfold loadGlobal
  grind

theorem Update.Reference.eval_adds (path : Reference e) (fuel : Nat) : (eval fuel none e).Adds := by
  induction path generalizing fuel with
  | name l x =>
    cases fuel with
    | zero => exact leaves_fail _
    | succ n => exact .bind (leaves_onLine _ (loadGlobal_adds x)) fun _ => leaves_pure _
  | dotted l attr _ ih =>
    cases fuel with
    | zero => exact leaves_fail _
    | succ n =>
      refine .bind (ih n) fun owner => ?_
      rw [knownIn_module, pure_bind]
      exact .bind (leaves_onLine _ (getAttr_adds owner attr)) fun _ => leaves_pure _

theorem Update.Reference.evalWhole_adds (path : Reference e) (fuel : Nat) : (evalWhole fuel none e).Adds := by
  cases fuel with
  | zero => exact leaves_fail _
  | succ n =>
    cases path with
    | name l x => exact leaves_onLine _ (loadGlobal_adds x)
    | dotted l attr path =>
      refine .bind (path.eval_adds n) fun owner => ?_
      rw [knownIn_module, pure_bind]
      exact leaves_onLine _ (getAttr_adds owner attr)

/-! ### Attributes once more -/

theorem Run.Yields.idle {run : Run α} (ran : run.Yields m a after) (idle : run.IsIdle) (other : Memory) :
    m = after ∧ run.Yields other a other :=
  (idle m a after ran).imp_right fun again => again other

@[grind ←] theorem isIdle_pure (a : α) : (pure a : Run α).IsIdle := by
  intro m b after ran
  obtain ⟨rfl, rfl⟩ := yields_pure.mp ran
  exact ⟨rfl, fun other => yields_pure.mpr ⟨rfl, rfl⟩⟩

@[grind ←] theorem isIdle_fail (kind : ErrorKind) : (fail kind : Run α).IsIdle :=
  fun _ _ _ ran => absurd ran yields_fail

@[grind ←] theorem Run.IsIdle.map {run : Run α} (idle : run.IsIdle) (f : α → β) : (f <$> run).IsIdle := by
  intro m b after ran
  simp only [map_eq_pure_bind, yields_bind, yields_pure] at ran ⊢
  obtain ⟨a, _, ran, rfl, rfl⟩ := ran
  obtain ⟨rfl, again⟩ := idle _ _ _ ran
  exact ⟨rfl, fun other => ⟨a, other, again other, rfl, rfl⟩⟩

@[grind ←] theorem orMissing_isIdle (found : Option Value) : (orMissing found).IsIdle := by
  unfold orMissing
  grind

theorem object_again {held : Object} (alters : m.Alters parts m') (there : held ≠ .token)
    (ran : (Run.object k).Yields m held after) :
    m = after ∧ ∃ other, (Run.object k).Yields m' other m' ∧ held.Alters parts k other := by
  simp only [Run.object, yields_bind, yields_get, yields_pure] at ran
  obtain ⟨_, _, ⟨rfl, rfl⟩, same, rfl⟩ := ran
  rw [Array.getD_eq_getD_getElem?] at same
  rcases found : m.objects[k]? with _ | o
  · rw [found] at same
    exact absurd same.symm there
  · rw [found, Option.getD_some] at same
    subst same
    obtain ⟨other, found', altered⟩ := alters.held k o found
    exact ⟨rfl, other, object_found found', altered⟩

theorem functionContent_again {f : Function} (alters : m.Alters parts m') (quiet : ∀ k name, .member k name ∉ parts)
    (ran : (functionContent? k).Yields m (some f) after) :
    m = after ∧ ∃ g, (functionContent? k).Yields m' (some g) m' ∧ ∀ name, g.attr? name = f.attr? name := by
  simp only [functionContent?, yields_bind] at ran ⊢
  obtain ⟨held, _, reads, ran⟩ := ran
  cases held with
  | function f' =>
    obtain ⟨same, rfl⟩ := yields_pure.mp ran
    cases same
    obtain ⟨rfl, other, reads', altered⟩ := object_again alters (by simp) reads
    refine ⟨rfl, ?_⟩
    cases altered with
    | same => exact ⟨f, ⟨_, _, reads', yields_pure.mpr ⟨rfl, rfl⟩⟩, fun _ => rfl⟩
    | ofFunction _ g _ kept _ => exact ⟨g, ⟨_, _, reads', yields_pure.mpr ⟨rfl, rfl⟩⟩, fun name => kept name (quiet k name)⟩
  | _ =>
    obtain ⟨same, _⟩ := yields_pure.mp ran
    cases same

theorem classContent_again {c : Class} (alters : m.Alters parts m') (quiet : ∀ k name, .member k name ∉ parts)
    (ran : (classContent? k).Yields m (some c) after) :
    m = after ∧ ∃ attrs, (classContent? k).Yields m' (some { c with attrs := attrs }) m' ∧
      ∀ name, attrs.lookup name = c.attrs.lookup name := by
  simp only [classContent?, yields_bind] at ran ⊢
  obtain ⟨held, _, reads, ran⟩ := ran
  cases held with
  | classType c' =>
    obtain ⟨same, rfl⟩ := yields_pure.mp ran
    cases same
    obtain ⟨rfl, other, reads', altered⟩ := object_again alters (by simp) reads
    refine ⟨rfl, ?_⟩
    cases altered with
    | same => exact ⟨c.attrs, ⟨_, _, reads', yields_pure.mpr ⟨rfl, rfl⟩⟩, fun _ => rfl⟩
    | ofClass _ others kept =>
      exact ⟨others, ⟨_, _, reads', yields_pure.mpr ⟨rfl, rfl⟩⟩, fun name => kept name (quiet k name)⟩
  | _ =>
    obtain ⟨same, _⟩ := yields_pure.mp ran
    cases same

/-- An attribute that an instance has from its class. -/
def Value.inherited (k : Nat) (type : Nat) (found : Option Value) (name : String) : Run Value :=
  match name with
  | "__class__" => return .classType type
  | name =>
    match found, name with
    | none, "__doc__" => return .null
    | found, _ => boundTo (.record k) <$> orMissing found

theorem inherited_isIdle (k type : Nat) (found : Option Value) (name : String) :
    (inherited k type found name).IsIdle := by
  unfold inherited
  grind

theorem instanceAttr_eq (k type : Nat) (missing : attrs.lookup name = none) :
    instanceAttr k (some type) attrs name = (do
      match ← classContent? type with
      | some c => inherited k type (c.attrs.lookup name) name
      | none => fail .attribute) := by
  simp only [instanceAttr, missing]
  refine congrArg _ (funext fun content => ?_)
  cases content with
  | none => rfl
  | some c =>
    by_cases isClass : name = "__class__"
    · subst isClass
      rfl
    · cases found : c.attrs.lookup name with
      | none =>
        by_cases isDoc : name = "__doc__"
        · subst isDoc
          simp [inherited, found]
        · simp [inherited, found, isDoc]
      | some own => simp [inherited, found]

theorem instanceAttr_again {type : Option Nat} (alters : m.Alters parts m') (quiet : ∀ k name, .member k name ∉ parts)
    (kept : others.lookup name = attrs.lookup name) (ran : (instanceAttr k type attrs name).Yields m u after) :
    m = after ∧ (instanceAttr k type others name).Yields m' u m' := by
  rcases own : attrs.lookup name with _ | w
  · cases type with
    | none =>
      simp only [instanceAttr, own] at ran
      exact absurd ran yields_fail
    | some type =>
      rw [instanceAttr_eq k type own, yields_bind] at ran
      obtain ⟨content, _, reads, ran⟩ := ran
      cases content with
      | none => exact absurd ran yields_fail
      | some c =>
        obtain ⟨rfl, inherited, reads', same⟩ := classContent_again alters quiet reads
        obtain ⟨rfl, again⟩ := ran.idle (inherited_isIdle _ _ _ _) m'
        rw [instanceAttr_eq k type (kept.trans own), yields_bind]
        refine ⟨rfl, _, _, reads', ?_⟩
        dsimp only
        rw [same]
        exact again
  · simp only [instanceAttr, own, kept, yields_pure] at ran ⊢
    exact ⟨ran.2, ran.1, trivial⟩

theorem getAttr_read (alters : m.Alters parts m') (quiet : ∀ k name, .member k name ∉ parts)
    (dense : v.isSparse = false) (single : ∀ i view, v ≠ .array i view) (ran : (getAttr v name).Yields m u after) :
    m = after ∧ (getAttr v name).Yields m' u m' := by
  cases v with
  | record k =>
    simp only [getAttr, yields_bind] at ran ⊢
    obtain ⟨held, _, reads, ran⟩ := ran
    cases held with
    | record type attrs =>
      obtain ⟨rfl, other, reads', altered⟩ := object_again alters (by simp) reads
      cases altered with
      | same =>
        obtain ⟨rfl, again⟩ := instanceAttr_again alters quiet rfl ran
        exact ⟨rfl, _, _, reads', again⟩
      | attributes _ _ others kept =>
        obtain ⟨rfl, again⟩ := instanceAttr_again alters quiet (kept name (quiet k name)) ran
        exact ⟨rfl, _, _, reads', again⟩
    | _ => exact absurd ran yields_fail
  | function k =>
    simp only [getAttr, yields_bind] at ran ⊢
    obtain ⟨content, _, reads, ran⟩ := ran
    cases content with
    | none => exact absurd ran yields_fail
    | some f =>
      obtain ⟨rfl, g, reads', same⟩ := functionContent_again alters quiet reads
      obtain ⟨rfl, again⟩ := ran.idle (orMissing_isIdle _) m'
      refine ⟨rfl, _, _, reads', ?_⟩
      dsimp only
      rw [same]
      exact again
  | method self k =>
    simp only [getAttr, yields_bind] at ran ⊢
    obtain ⟨content, _, reads, ran⟩ := ran
    cases content with
    | none => exact absurd ran yields_fail
    | some f =>
      obtain ⟨rfl, g, reads', same⟩ := functionContent_again alters quiet reads
      by_cases isSelf : name = "__self__"
      · subst isSelf
        obtain ⟨rfl, again⟩ := ran.idle (isIdle_pure _) m'
        exact ⟨rfl, _, _, reads', again⟩
      by_cases isFunction : name = "__func__"
      · subst isFunction
        obtain ⟨rfl, again⟩ := ran.idle (isIdle_pure _) m'
        exact ⟨rfl, _, _, reads', again⟩
      simp only at ran
      obtain ⟨rfl, again⟩ := ran.idle (orMissing_isIdle _) m'
      refine ⟨rfl, _, _, reads', ?_⟩
      simp only
      rw [same]
      exact again
  | classType k =>
    simp only [getAttr, yields_bind] at ran ⊢
    obtain ⟨content, _, reads, ran⟩ := ran
    cases content with
    | none => exact absurd ran yields_fail
    | some c =>
      obtain ⟨rfl, attrs, reads', same⟩ := classContent_again alters quiet reads
      obtain ⟨rfl, again⟩ := ran.idle (by grind) m'
      refine ⟨rfl, _, _, reads', ?_⟩
      dsimp only
      rw [same]
      exact again
  | array i view => exact absurd rfl (single i view)
  | sparse k => cases dense
  | _ =>
    refine ran.idle ?_ m'
    unfold getAttr
    grind

theorem getAttr_array (name : String) (i j : Nat) (view : View)
    (ran : (getAttr (.array i view) name).Yields between u after) :
    (getAttr (.array j view) name).Completes between' fun u' last => Again m m' u.bare after u'.bare last := by
  unfold getAttr at ran
  dsimp only at ran
  split at ran
  · obtain ⟨_, rfl, _⟩ := arrayOf_yields ran
    refine Completes.imp (arrayOf_completes _ between') ?_
    rintro _ last ⟨_, rfl, _⟩
    exact .array _ _ _ _ _
  iterate 3
    · obtain ⟨rfl, rfl⟩ := yields_pure.mp ran
      exact completes_pure.mpr (.inert rfl _ _)
  · exact absurd ran yields_fail

theorem allocateSparse_completes (new : SparseObject) (m : Memory) :
    (do return sparse (← Run.allocate (.sparse new)) : Run Value).Completes m fun v after =>
      ∃ i, v = .sparse i ∧ after.objects[i]? = some (.sparse new) := by
  have ran : (Run.allocate (.sparse new)).Yields m m.objects.size { m with objects := m.objects.push (.sparse new) } := by
    simp only [Run.allocate, yields_bind, yields_get, yields_set, yields_pure]
    exact ⟨_, _, ⟨rfl, rfl⟩, ⟨⟩, _, rfl, rfl, rfl⟩
  rw [completes_bind, ran.completes_iff]
  exact completes_pure.mpr ⟨_, rfl, Array.getElem?_push_size⟩

theorem newSparse_completes (s : Sparse) (m : Memory) :
    (newSparse s).Completes m fun v after => ∃ i o, v = .sparse i ∧ after.objects[i]? = some (.sparse o) ∧
      o.format = s.format ∧ o.shape = s.shape := by
  obtain ⟨place, between, stored, _⟩ := allocate_completes (.entries s.entries.toArray) m
  have kept : (newStore s.entries).Yields m (place, List.range s.entries.length) between := by
    rw [newStore, yields_bind]
    exact ⟨_, _, stored, yields_pure.mpr ⟨rfl, rfl⟩⟩
  rw [newSparse, completes_bind, kept.completes_iff]
  refine (allocateSparse_completes _ between).imp ?_
  rintro v after ⟨i, rfl, found⟩
  exact ⟨i, _, rfl, found, rfl, rfl⟩

theorem sparseContent_found {o : SparseObject} (found : m.objects[k]? = some (.sparse o)) :
    ∃ content, (sparseContent k).Yields m (o.shown content) m := by
  have reads : (Run.entries o.store).Completes m fun _ after => m = after := by
    simp only [Run.entries, Run.object, completes_bind, completes_pure]
    refine Yields.completes (yields_get.mpr ⟨rfl, rfl⟩) ?_
    split <;> exact completes_pure.mpr rfl
  obtain ⟨content, _, reads, rfl⟩ := reads
  simp only [sparseContent, yields_bind]
  exact ⟨content, _, _, sparseObject_found found, _, _, reads, yields_pure.mpr ⟨rfl, rfl⟩⟩

theorem sparseContent_completes {o : SparseObject} (found : m.objects[k]? = some (.sparse o)) :
    (sparseContent k).Completes m fun s after => m = after ∧ s.format = o.format ∧ s.shape = o.shape := by
  obtain ⟨content, reads⟩ := sparseContent_found found
  exact reads.completes ⟨rfl, rfl, rfl⟩

theorem transposed_completes {o : SparseObject} (found : m.objects[k]? = some (.sparse o)) :
    (Sparse.transposed k).Completes m fun v after => ∃ i o', v = .sparse i ∧ after.objects[i]? = some (.sparse o') ∧
      o'.format = o.format.transposed ∧ o'.shape = o.shape.reverse := by
  have shared : (do return sparse (← Run.allocate (.sparse { o with
      format := o.format.transposed, shape := o.shape.reverse, slots := Sparse.turned o.shape o.slots 0 })) :
      Run Value).Completes m fun v after => ∃ i o', v = .sparse i ∧ after.objects[i]? = some (.sparse o') ∧
        o'.format = o.format.transposed ∧ o'.shape = o.shape.reverse := by
    refine (allocateSparse_completes _ m).imp ?_
    rintro v after ⟨i, rfl, there⟩
    exact ⟨i, _, rfl, there, rfl, rfl⟩
  rw [Sparse.transposed, completes_bind, (sparseObject_found found).completes_iff]
  dsimp only
  split
  · exact shared
  · exact shared
  · exact shared
  · rw [completes_bind]
    refine (sparseContent_completes found).imp ?_
    rintro s between ⟨rfl, _, _⟩
    refine Completes.imp (newSparse_completes _ m) ?_
    rintro v after ⟨i, o', rfl, there, format, shape⟩
    exact ⟨i, o', rfl, there, format, shape⟩

theorem getAttr_sparse {i j : Nat} {o o' : SparseObject} (name : String)
    (found : between.objects[i]? = some (.sparse o)) (found' : between'.objects[j]? = some (.sparse o'))
    (format : o'.format = o.format) (shape : o'.shape = o.shape)
    (ran : (getAttr (.sparse i) name).Yields between u after) :
    (getAttr (.sparse j) name).Completes between' fun u' last => Again m m' u.bare after u'.bare last := by
  obtain ⟨s, _, reads, rfl, sameFormat, sameShape⟩ := sparseContent_completes found
  simp only [getAttr, yields_bind] at ran
  obtain ⟨_, _, again, ran⟩ := ran
  obtain ⟨rfl, rfl⟩ := reads.eq again
  rw [getAttr, completes_bind]
  refine (sparseContent_completes found').imp ?_
  rintro s' _ ⟨rfl, sameFormat', sameShape'⟩
  split at ran
  · obtain ⟨_, _, turned, k, p, rfl, there, first, second⟩ := transposed_completes found
    obtain ⟨rfl, rfl⟩ := turned.eq ran
    refine Completes.imp (transposed_completes found') ?_
    rintro _ last ⟨k', p', rfl, there', first', second'⟩
    exact .sparse there there' (by rw [first', first, format]) (by rw [second', second, shape])
  iterate 2
    · obtain ⟨rfl, rfl⟩ := yields_pure.mp ran
      rw [completes_pure, sameShape', shape, ← sameShape]
      exact .inert rfl _ _
  · obtain ⟨rfl, rfl⟩ := yields_pure.mp ran
    rw [completes_pure, sameFormat', format, ← sameFormat]
    exact .inert rfl _ _
  · exact absurd ran yields_fail

theorem getAttr_inert (plain : v.isInert = true) (name : String) (ran : (getAttr v name).Yields between u after) :
    (getAttr v name).Completes between' fun u' last => Again m m' u.bare after u'.bare last := by
  cases v with
  | num x =>
    have gives : u.bare.isInert = true := by
      unfold getAttr at ran
      dsimp only at ran
      split at ran <;> simp only [yields_pure, yields_fail] at ran <;> obtain ⟨rfl, _⟩ := ran <;> rfl
    obtain ⟨rfl, again⟩ := ran.idle (by unfold getAttr; grind) between'
    exact again.completes (.inert gives _ _)
  | str _ | tuple _ => exact absurd ran yields_fail
  | _ => cases plain

theorem Value.Again.getAttr (alters : m.Alters parts m') (quiet : ∀ k name, .member k name ∉ parts)
    (again : Again m m' v between w between') (known : ∀ k, v = .sparse k → ∃ o, between.objects[k]? = some (.sparse o))
    (name : String) (ran : (getAttr v name).Yields between u after) :
    (getAttr w name).Completes between' fun u' last => Again m m' u.bare after u'.bare last := by
  cases again with
  | read =>
    cases v with
    | array i view => exact getAttr_array name i i view ran
    | sparse k =>
      obtain ⟨o, found⟩ := known k rfl
      obtain ⟨other, found', altered⟩ := alters.held k _ found
      cases altered with
      | same | placement _ _ store slots => exact getAttr_sparse name found found' rfl rfl ran
    | _ =>
      obtain ⟨rfl, again⟩ := getAttr_read alters quiet rfl (by simp) ran
      exact again.completes (.read _)
  | inert plain _ _ => exact getAttr_inert plain name ran
  | array i j view _ _ => exact getAttr_array name i j view ran
  | sparse found found' format shape => exact getAttr_sparse name found found' format shape ran

theorem loadGlobal_again (alters : m.Alters parts m') (apart : .global x ∉ parts)
    (ran : (loadGlobal x).Yields m v after) : m = after ∧ (loadGlobal x).Yields m' v m' := by
  have bound := alters.globals x apart
  have prelude := alters.prelude
  simp only [loadGlobal, yields_bind, yields_get] at ran ⊢
  obtain ⟨_, _, ⟨rfl, rfl⟩, ran⟩ := ran
  obtain ⟨rfl, again⟩ := ran.idle (by grind) m'
  refine ⟨rfl, m', m', ⟨rfl, rfl⟩, ?_⟩
  rw [bound, prelude]
  exact again

theorem self_mem_stages (e : Expr) : e ∈ stages e := by
  cases e <;> simp [stages]

theorem Update.Reference.again (path : Reference e) (alters : m.Alters parts m')
    (quiet : ∀ k name, .member k name ∉ parts) (apart : ∀ x, rootName? e = some x → .global x ∉ parts)
    (known : ∀ stage ∈ stages e, ∀ fuel k after, (eval fuel none stage).Yields m (.sparse k) after →
      ∃ o, after.objects[k]? = some (.sparse o))
    (ran : (eval fuel none e).Yields m v after) (enough : (stages e).length ≤ n) :
    (eval n none e).Completes m' fun w last => Again m m' v after w last := by
  induction path generalizing fuel v after n with
  | name l x =>
    obtain ⟨n, rfl⟩ : ∃ k, n = k + 1 := ⟨n - 1, by simp only [stages, List.length_singleton] at enough; omega⟩
    rw [completes_eval_name]
    obtain ⟨_, w, loaded, rfl⟩ := eval_name.mp ran
    obtain ⟨rfl, again⟩ := loadGlobal_again alters (apart x rfl) loaded
    exact again.completes (.read _)
  | dotted l attr path ih =>
    obtain ⟨n, rfl⟩ : ∃ k, n = k + 1 := ⟨n - 1, by simp only [stages, List.length_cons] at enough; omega⟩
    rw [completes_eval_attribute]
    obtain ⟨fuel, rfl, owner, between, evaluated, w, found, rfl⟩ := eval_attribute.mp ran
    have here := known _ (List.mem_cons_of_mem _ (self_mem_stages _)) fuel
    refine (ih apart (fun stage member => known stage (List.mem_cons_of_mem _ member)) evaluated
      (by simp only [stages, List.length_cons] at enough; omega)).imp ?_
    intro owner' between' same
    exact same.getAttr alters quiet (fun k is => here k between (is ▸ evaluated)) attr found

theorem Update.Reference.eval_eq (path : Reference e) (n : Nat) : eval n none e = bare <$> evalWhole n none e := by
  cases n with
  | zero => rfl
  | succ n => cases path <;> simp [eval, evalWhole]

end
end Rebind
