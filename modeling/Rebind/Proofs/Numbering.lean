import Rebind.Proofs.Hygiene
/-!
The numbers of temporaries. In the order of the source, each leaf that is replaced by way of a temporary takes the next
number, at any depth and across the blocks of a body; no other leaf takes one. So no two of them share a temporary.
-/
namespace Rebind.Update

open Syntax

/-- A product written through the flattened target that the temporary holds. -/
def WrittenThrough (temporary : String) (s : Stmt) : Prop :=
  ∃ span target left right accumulate, s = flatProductReplacement span temporary target left right accumulate

theorem temporaryName_injective (same : temporaryName a = temporaryName b) : a = b := by
  have digits : Nat.toDigits 10 a = Nat.toDigits 10 b := by
    simpa [Nat.repr_eq_ofList_toDigits, String.ofList_inj] using (String.append_right_inj "__bb_a").mp same
  simpa only [Nat.ofDigitChars_ten_toDigits] using congrArg (Nat.ofDigitChars 10 · 0) digits

section
variable {policy : Policy} {depth : Int} {ss out : List Stmt} {low high : Nat}

/-- Only the number decides the temporary, and only forms that need one have it. -/
theorem writtenThrough_iff (form : Form) (made : form.replacement? span number = some replaced) :
    WrittenThrough x replaced ↔ form.needsTemporary = true ∧ x = temporaryName number := by
  have single {tested s t} (same : replaced = capabilityBranch span tested [s] [t]) : ¬ WrittenThrough x replaced := by
    rintro ⟨_, _, _, _, _, other⟩
    cases same.symm.trans other
  cases form with
  | allocation kind target source => cases kind <;> cases made <;> simp [single rfl, Form.needsTemporary]
  | operation op target operands =>
    cases made
    simp [WrittenThrough, operationReplacement, flatProductReplacement, capabilityBranch, assign, Form.needsTemporary]
  | broadcast op target value => cases op <;> cases made <;> simp [single rfl, Form.needsTemporary]
  | product target left right flattened accumulate =>
    cases flattened with
    | neither | both => cases made; simp [single rfl, Form.needsTemporary]
    | left | right =>
      cases made
      simp only [Form.needsTemporary, true_and]
      constructor
      · rintro ⟨_, _, _, _, _, same⟩
        simp_all [flatProductReplacement, capabilityBranch, assign]
      · rintro rfl
        exact ⟨_, _, _, _, _, rfl⟩
  | unsupported _ => cases made
  | _ => cases made; simp [single rfl, Form.needsTemporary]

/-- How the statements of a row came by their temporaries: those that need one have the numbers after `low` up to
`high`, in their order, and what replaces any other statement names nothing but the source and the library. -/
structure NumberedRow (policy : Policy) (depth : Int) (low high : Nat) (ss out : List Stmt) : Prop where
  length : out.length = ss.length
  last : high = low + ss.countP (takesTemporary policy depth)
  taken : List.Forall₂ (fun k pair => WrittenThrough (temporaryName k) pair.2)
    (List.range' (low + 1) (ss.countP (takesTemporary policy depth)))
    ((ss.zip out).filter fun pair => takesTemporary policy depth pair.1)
  others : ∀ pair ∈ ss.zip out, takesTemporary policy depth pair.1 = false →
    ∀ x, Mentioned x [pair.2] → StandsIn policy x pair.1 ∨ x ∈ libraryIdentifiers
  distinct : out.Pairwise fun r r' => ∀ x, WrittenThrough x r → ¬ WrittenThrough x r'

theorem ReplacedRow.later_number (row : ReplacedRow policy depth low ss out high) (member : r ∈ out)
    (through : WrittenThrough x r) : ∃ k, low < k ∧ x = temporaryName k := by
  obtain ⟨s, _, form, number, _, made, within⟩ := of_mem_right row.within member
  obtain ⟨needs, rfl⟩ := (writtenThrough_iff form made).mp through
  exact ⟨number, (within needs).1, rfl⟩

theorem ReplacedRow.numbered (row : ReplacedRow policy depth low ss out high) :
    NumberedRow policy depth low high ss out := by
  induction row with
  | nil => exact ⟨rfl, rfl, .nil, nofun, .nil⟩
  | @cons s form low replaced ss out high read made rest ih =>
    have same : takesTemporary policy depth s = form.needsTemporary := by rw [takesTemporary, read]
    have apart : ∀ r ∈ out, ∀ x, WrittenThrough x replaced → ¬ WrittenThrough x r := by
      intro r member x through again
      obtain ⟨_, rfl⟩ := (writtenThrough_iff form made).mp through
      obtain ⟨k, above, equal⟩ := rest.later_number member again
      exact Nat.ne_of_lt above (temporaryName_injective equal)
    refine ⟨congrArg Nat.succ ih.length, ?_, ?_, ?_, .cons apart ih.distinct⟩
    · have last := ih.last
      rw [List.countP_cons, same]
      cases needs : form.needsTemporary <;> simp only [Form.lastTemporary, needs] at last ⊢ <;> grind
    · have taken := ih.taken
      cases needs : form.needsTemporary with
      | false => simpa [List.countP_cons, same, needs, Form.lastTemporary] using taken
      | true =>
        simp only [Form.lastTemporary, needs, if_true] at taken made
        simp only [List.zip_cons_cons, List.filter_cons, List.countP_cons, same, needs, if_true, List.range'_succ]
        exact .cons ((writtenThrough_iff form made).mpr ⟨needs, rfl⟩) taken
    · rw [List.zip_cons_cons, List.forall_mem_cons]
      refine ⟨fun free x mentioned => ?_, ih.others⟩
      have alone : ReplacedWithin policy depth 0 0 s replaced :=
        ⟨form, _, read, made, fun needs => by rw [same, needs] at free; cases free⟩
      rcases alone.mentions mentioned with inner | named | ⟨k, above, below, _⟩
      · exact .inl inner
      · exact .inr named
      · omega

end

/-- Temporaries are numbered without gaps and without repetition: in a block from any count on, in a whole text from
the first number on, and in a body through all of its blocks. -/
theorem lowered_temporaries (policy : Policy) :
    (∀ depth body progress out last, lowerBlock policy depth body progress = (.ok out, last) →
      NumberedRow policy depth progress.counter last.counter (leaves policy body) out) ∧
    (∀ source out log, lowerText policy source = .ok (out, log) → ∃ body high, readDedented source = .ok body ∧
      NumberedRow policy 1 0 high (leaves policy body) out) ∧
    ∀ body tally out last, lowerBodies policy body tally = (.ok out, last) → ∃ pieces, Spliced policy body pieces out ∧
      NumberedRow policy 1 tally.progress.counter last.progress.counter ((outermost policy body).flatMap (leaves policy))
        pieces.flatten := by
  refine ⟨fun depth body progress out last done => (lowerBlock_row policy depth body progress done).numbered, ?_, ?_⟩
  · intro source out log done
    rcases found : readDedented source with _ | body
    · simp [lowerText, found, bind, Except.bind] at done
    · rcases outcome : lowerBlock policy 1 body {} with ⟨_ | lowered, last⟩
      · simp [lowerText, found, outcome, bind, Except.bind] at done
      · simp only [lowerText, found, outcome, bind, Except.bind, Except.ok.injEq, Prod.mk.injEq] at done
        obtain ⟨rfl, _⟩ := done
        exact ⟨body, _, rfl, (lowerBlock_row policy 1 body {} outcome).numbered⟩
  · intro body tally out last done
    obtain ⟨pieces, spliced, row⟩ := lowerBodies_row done
    exact ⟨pieces, spliced, row.numbered⟩

/-- After eight temporaries the product inside two blocks takes the ninth and the one after them the tenth. -/
theorem twoLevels_numbered : ∃ first second third last,
    lowerBlock .standard 1 (twoLevels ++ [knownProduct]) ⟨8, []⟩ = (.ok [first, second, third], last) ∧
      last.counter = 10 ∧ WrittenThrough "__bb_a9" second ∧ WrittenThrough "__bb_a10" third := by
  rcases outcome : lowerBlock .standard 1 (twoLevels ++ [knownProduct]) ⟨8, []⟩ with ⟨_ | out, last⟩
  · have succeeds : (lowerBlock .standard 1 (twoLevels ++ [knownProduct]) ⟨8, []⟩).1.isOk = true := by decide
    rw [outcome] at succeeds
    cases succeeds
  · have numbered := (lowered_temporaries .standard).1 1 _ _ out last outcome
    have length : out.length = 3 := numbered.length
    obtain ⟨first, second, third, rfl⟩ := List.length_eq_three.mp length
    have taken : List.Forall₂ (fun k (pair : Stmt × Stmt) => WrittenThrough (temporaryName k) pair.2) [9, 10]
      [(_, second), (_, third)] := numbered.taken
    simp only [List.forall₂_cons, List.forall₂_nil_left_iff, and_true] at taken
    exact ⟨first, second, third, last, rfl, numbered.last, taken.1, taken.2⟩

end Rebind.Update
