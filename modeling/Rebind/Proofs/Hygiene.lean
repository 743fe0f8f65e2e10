import Rebind.Proofs.Expansion
import Rebind.Proofs.Occurrence
/-!
The identifiers of replaced code. Whatever stands in it was in the source or in what expanders made of it, names the
library, or is a temporary; and the temporaries are the names of the numbers in a row, whether the source knows these
names or not.
-/
namespace Rebind.Update

open Syntax

/-! ### Forms and their spellings -/

theorem PlainCall.inside (plain : PlainCall head args e) (member : a ∈ args) : Inside a e := by
  obtain ⟨_, _, rfl, _⟩ := plain
  exact .part (by simp [Expr.parts, member]) .self

theorem ProductOf.inside (multiplied : ProductOf l r value) : Inside l value ∧ Inside r value := by
  cases multiplied with
  | operator lines _ _ => exact ⟨.part (by simp [Expr.parts]) .self, .part (by simp [Expr.parts]) .self⟩
  | call plain => exact ⟨plain.inside (by simp), plain.inside (by simp)⟩

theorem Factor.inside (factor : Factor e flat given) : Inside e given := by
  cases factor with
  | flattened plain => exact plain.inside (by simp)
  | plain _ => exact .self

theorem Whole.inside (whole : Whole ref e) : Inside ref e := by
  obtain ⟨_, _, _, rfl⟩ := whole
  exact .part (by simp [Expr.parts]) .self

theorem Spells.inside (spelt : Spells accumulate form s) (member : p ∈ form.parts) : ∃ q ∈ s.parts, Inside p q := by
  have assigned {span target value} (inner : p = target ∨ Inside p value) :
      ∃ q ∈ (Stmt.assign span [target] value).parts, Inside p q := by
    rcases inner with rfl | inner
    · exact ⟨p, by simp [Stmt.parts], .self⟩
    · exact ⟨value, by simp [Stmt.parts], inner⟩
  have called {span head value} {args : List Expr} (plain : PlainCall head args value) (inner : p ∈ args) :
      ∃ q ∈ (Stmt.expr span value).parts, Inside p q :=
    ⟨value, by simp [Stmt.parts], plain.inside inner⟩
  have updated {span target op value} (inner : Inside p target ∨ Inside p value) :
      ∃ q ∈ (Stmt.augmented span target op value).parts, Inside p q := by
    rcases inner with inner | inner
    · exact ⟨target, by simp [Stmt.parts], inner⟩
    · exact ⟨value, by simp [Stmt.parts], inner⟩
  cases spelt with
  | allocation kind plain =>
    simp only [Form.parts, List.mem_cons, List.not_mem_nil, or_false] at member
    exact assigned (member.imp_right fun same => plain.inside (by simp [same]))
  | axpy plain => exact called plain (by simpa [Form.parts] using member)
  | axpby plain =>
    refine called plain ?_
    simp only [Form.parts, Option.toList_some, List.mem_cons, List.not_mem_nil, or_false] at member ⊢
    tauto
  | operationCall op plain => exact called plain member
  | operationAssigned op plain => exact assigned ((List.mem_cons.mp member).imp_right plain.inside)
  | product multiplied _ left right =>
    simp only [Form.parts, List.mem_cons, List.not_mem_nil, or_false] at member
    rcases member with rfl | rfl | rfl
    · exact assigned (.inl rfl)
    · exact assigned (.inr (left.inside.trans multiplied.inside.1))
    · exact assigned (.inr (right.inside.trans multiplied.inside.2))
  | accumulation _ multiplied _ left right =>
    simp only [Form.parts, List.mem_cons, List.not_mem_nil, or_false] at member
    rcases member with rfl | rfl | rfl
    · exact updated (.inl .self)
    · exact updated (.inr (left.inside.trans multiplied.inside.1))
    · exact updated (.inr (right.inside.trans multiplied.inside.2))
  | elementwise plain =>
    simp only [Form.parts, List.mem_cons, List.not_mem_nil, or_false] at member
    exact assigned (member.imp_right fun same => plain.inside (by simp [same]))
  | broadcast whole _ =>
    simp only [Form.parts, List.mem_cons, List.not_mem_nil, or_false] at member
    rcases member with rfl | rfl
    · exact ⟨_, by simp [Stmt.parts], whole.inside⟩
    · exact assigned (.inr .self)
  | update op whole =>
    simp only [Form.parts, List.mem_cons, List.not_mem_nil, or_false] at member
    rcases member with rfl | rfl
    · exact updated (.inl whole.inside)
    · exact updated (.inr .self)

theorem settled_spelt {policy : Policy} (read : settled policy depth s = .ok form) :
    ∃ n t, stage? policy s n = some t ∧ Spells policy.accumulate form t := by
  obtain ⟨found, supported⟩ := (settled_eq_ok_iff policy depth s form).mp read
  obtain ⟨n, t, stage, _, _, ends⟩ := recogniseWithin_follows (budget policy depth) depth s rfl
  rcases ends with ⟨_, same⟩ | ⟨fault, _, failed⟩
  · have spelt := recognise_spells (by rfl) ((same 0).symm.trans found) supported
    exact ⟨n, t, stage, spelt⟩
  · cases failed.symm.trans found

/-! ### Identifiers -/

section
variable {policy : Policy} {x : String}

/-- The identifier stands in the statement, or in what expanders make of it. -/
def StandsIn (policy : Policy) (x : String) (s : Stmt) : Prop := ∃ n t, stage? policy s n = some t ∧ t.Mentions x

theorem Spells.mentions (spelt : Spells accumulate form s) (made : form.replacement? span number = some replaced)
    (mentioned : Mentioned x [replaced]) :
    s.Mentions x ∨ x ∈ libraryIdentifiers ∨ form.needsTemporary = true ∧ x = temporaryName number := by
  obtain ⟨t, within, own | ⟨e, held, a, inside, own⟩⟩ := mentioned
  · rw [(replacement_composed form made t within).1] at own
    cases own
  · rcases ((replacement_composed form made t within).2 e held).inside inside with
      ⟨p, member, b, inner, same⟩ | ⟨named, _⟩
    · obtain ⟨q, held', outer⟩ := spelt.inside member
      have own' : x ∈ b.identifiers := by
        rcases same with rfl | ⟨l, rfl⟩
        · exact own
        · rwa [identifiers_routed] at own
      exact .inl (.inr ⟨q, held', b, inner.trans outer, own'⟩)
    · exact .inr (named x own)

theorem ReplacedWithin.mentions (replaced : ReplacedWithin policy depth low high s r) (mentioned : Mentioned x [r]) :
    StandsIn policy x s ∨ x ∈ libraryIdentifiers ∨ ∃ k, low < k ∧ k ≤ high ∧ x = temporaryName k := by
  obtain ⟨form, number, read, made, within⟩ := replaced
  obtain ⟨n, t, stage, spelt⟩ := settled_spelt read
  rcases spelt.mentions made mentioned with inner | named | ⟨needs, rfl⟩
  · exact .inl ⟨n, t, stage, inner⟩
  · exact .inr (.inl named)
  · exact .inr (.inr ⟨number, (within needs).1, (within needs).2, rfl⟩)

theorem mentions_withSuites (s : Stmt) (suites : List (List Stmt)) (count : suites.length = s.suites.length)
    (mentioned : (s.withSuites suites).Mentions x) : s.Mentions x := by
  obtain ⟨parts, identifiers⟩ := s.heads_withSuites suites count
  rwa [Stmt.Mentions, parts, identifiers] at mentioned

/-! ### Temporaries -/

/-- The statement is replaced by way of a temporary. -/
def takesTemporary (policy : Policy) (depth : Int) (s : Stmt) : Bool :=
  match settled policy depth s with
  | .ok form => form.needsTemporary
  | .error _ => false

theorem temporary_mentioned {form : Form} (needs : form.needsTemporary = true) (made : form.replacement? span number = some replaced) :
    Mentioned (temporaryName number) [replaced] := by
  cases form with
  | product target left right flattened accumulate =>
    cases flattened <;> cases needs <;> cases made <;>
    · refine ⟨assign span (.name span.lines (temporaryName number)) (callLibrary span.lines "vec" [target]),
        .inside List.mem_cons_self .here, .inr ⟨_, List.mem_cons_self, _, .self, ?_⟩⟩
      simp [Expr.identifiers]
  | _ => cases needs

theorem ReplacedRow.temporaries (row : ReplacedRow policy depth low ss out high) :
    high = low + ss.countP (takesTemporary policy depth) ∧
      ∀ k, low < k → k ≤ high → Mentioned (temporaryName k) out := by
  induction row with
  | nil => exact ⟨rfl, fun k above below => by omega⟩
  | @cons s form low replaced ss out high read made rest ih =>
    have same : takesTemporary policy depth s = form.needsTemporary := by rw [takesTemporary, read]
    rw [List.countP_cons, same]
    obtain ⟨counted, each⟩ := ih
    cases needs : form.needsTemporary with
    | false =>
      simp only [Form.lastTemporary, needs, Bool.false_eq_true, if_false, Nat.add_zero] at counted each ⊢
      exact ⟨counted, fun k above below => (somewhere_append [replaced] out).mpr (.inr (each k above below))⟩
    | true =>
      simp only [Form.lastTemporary, needs, if_true] at counted each made ⊢
      refine ⟨by omega, fun k above below => (somewhere_append [replaced] out).mpr ?_⟩
      by_cases own : k = low + 1
      · subst own
        exact .inl (temporary_mentioned needs made)
      · exact .inr (each k (by omega) below)

/-! ### Pieces in their places -/

theorem SplicedSuites.somewhere {holds : Stmt → Prop} (spliced : SplicedSuites policy suites pieces outs)
    (each : ∀ suite ∈ suites, ∀ {pieces out}, Spliced policy suite pieces out → Somewhere holds pieces.flatten →
      Somewhere holds out)
    (found : Somewhere holds pieces.flatten) : ∃ out ∈ outs, Somewhere holds out := by
  induction suites generalizing pieces outs with
  | nil =>
    cases spliced
    simp at found
  | cons suite rest ih =>
    rw [List.forall_mem_cons] at each
    cases spliced with
    | cons first _ later =>
      rw [List.flatten_append, somewhere_append] at found
      rcases found with found | found
      · exact ⟨_, List.mem_cons_self, each.1 first found⟩
      · obtain ⟨out, member, found⟩ := ih later each.2 found
        exact ⟨out, List.mem_cons_of_mem _ member, found⟩

theorem Spliced.somewhere {holds : Stmt → Prop} (spliced : Spliced policy body pieces out)
    (found : Somewhere holds pieces.flatten) : Somewhere holds out := by
  induction body using body_induction generalizing pieces out with
  | nil =>
    cases spliced
    exact found
  | cons s rest inner ih =>
    cases spliced with
    | block _ later =>
      rw [List.flatten_cons, somewhere_append] at found
      rw [somewhere_append]
      exact found.imp_right (ih later)
    | kept _ inside later =>
      rw [List.flatten_append, somewhere_append] at found
      rw [somewhere_cons, Stmt.suites_withSuites s _ inside.length_eq]
      rcases found with found | found
      · exact .inr (.inl (inside.somewhere (fun suite held => inner suite held) found))
      · exact .inr (.inr (ih later found))

/-! ### The whole account -/

/-- Where the identifiers of replaced code come from. The temporaries have the numbers from `low` on, one for each
statement that needs one, and all of them are used; every other identifier was known before or is the library's. -/
structure Accounted (policy : Policy) (replaced : List Stmt) (known : String → Prop) (out : List Stmt) (low high : Nat) :
    Prop where
  counted : high = low + replaced.countP (takesTemporary policy 1)
  used : ∀ k, low < k → k ≤ high → Mentioned (temporaryName k) out
  others : ∀ x, Mentioned x out → known x ∨ (∃ s ∈ replaced, StandsIn policy x s) ∨ x ∈ libraryIdentifiers ∨
    ∃ k, low < k ∧ k ≤ high ∧ x = temporaryName k

/-- The temporaries of replaced code are named by their numbers alone, in a block as in a body with blocks inside. So
they keep clear of the identifiers of the source exactly if none of these is the name of one of the numbers. -/
theorem lowered_identifiers (policy : Policy) :
    (∀ body progress out last, lowerBlock policy 1 body progress = (.ok out, last) →
      Accounted policy (leaves policy body) (fun _ => False) out progress.counter last.counter) ∧
    ∀ body tally out last, lowerBodies policy body tally = (.ok out, last) →
      Accounted policy ((outermost policy body).flatMap (leaves policy)) (Mentioned · body) out
        tally.progress.counter last.progress.counter := by
  constructor
  · intro body progress out last done
    have row := lowerBlock_row policy 1 body progress done
    refine ⟨row.temporaries.1, row.temporaries.2, fun x mentioned => .inr ?_⟩
    obtain ⟨r, member, mentioned⟩ := (somewhere_iff out).mp mentioned
    obtain ⟨s, held, replaced⟩ := of_mem_right row.within member
    exact (replaced.mentions mentioned).imp_left fun inner => ⟨s, held, inner⟩
  · intro body tally out last done
    obtain ⟨pieces, spliced, row⟩ := lowerBodies_row done
    refine ⟨row.temporaries.1, fun k above below => spliced.somewhere (row.temporaries.2 k above below), ?_⟩
    intro x mentioned
    rcases somewhere_lowered body mentions_withSuites done mentioned with before | ⟨s, held, r, replaced, mentioned⟩
    · exact .inl before
    · exact .inr ((replaced.mentions mentioned).imp_left fun inner => ⟨s, held, inner⟩)

end

def knownProduct : Stmt :=
  .assign ⟨1, 0, 1, 20⟩ [.name ⟨1, 1⟩ "y"] (.binary ⟨1, 1⟩ .matMult
    (.call ⟨1, 1⟩ (.name ⟨1, 1⟩ "vec") [.name ⟨1, 1⟩ "x"] []) (.name ⟨1, 1⟩ "__bb_a1"))

/-- The right factor of the product is a variable of the source, and the temporary takes its place before it is read. -/
theorem knownProduct_overwritten : knownProduct.Mentions (temporaryName 1) ∧
    (lowerBlock .standard 1 [knownProduct] {}).1 = .ok [flatProductReplacement knownProduct.span (temporaryName 1)
      (.name ⟨1, 1⟩ "y") (callLibrary ⟨1, 1⟩ "vec" [.name ⟨1, 1⟩ "x"]) (.name ⟨1, 1⟩ (temporaryName 1)) false] := by
  refine ⟨.inr ⟨_, .tail _ (.head _), .name ⟨1, 1⟩ "__bb_a1", .part (by simp [Expr.parts]) .self, ?_⟩, rfl⟩
  exact List.mem_singleton.mpr rfl

end Rebind.Update
