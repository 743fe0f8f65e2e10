import Mathlib.Data.List.Basic
import Mathlib.Tactic.Choose
import Rebind.Diagnostic
/-!
The one form of a diagnostic's code. Where every character has a case pair, or no case, a code is kept in small letters,
and both that form and the one in capitals lead back to it. Other letters of the character set break this: some have no
partner, and some are spelt with two letters in the other case.
-/
namespace Rebind.Text

open Diagnostic

def small : Char → List Char := mapCase lowerRuns lowerExpansions

def capital : Char → List Char := mapCase upperRuns upperExpansions

/-- A small letter and its capital, which lead to each other; what has no case is both. A sigma has two small letters. -/
def CasePair (l u : Char) : Prop :=
  (small l = [l] ∧ small u = [l] ∧ capital l = [u]) ∧ (l ≠ 'Σ' ∧ u ≠ 'Σ') ∧
    (isLetter l = isLetter u ∧ isCodeChar l = isCodeChar u) ∧
    (uppercase.contains l || titlecase.contains l) = false ∧ (lowercase.contains u || titlecase.contains u) = false ∧
    lowercase.contains l = uppercase.contains u

def IsPaired (c : Char) : Prop := ∃ l u, CasePair l u ∧ (c = l ∨ c = u)

set_option maxRecDepth 10000 in
theorem casePair_ascii : ∀ n < 128, isCodeChar (Char.ofNat n) = true →
    CasePair (Char.ofNat n).toLower (Char.ofNat n).toUpper ∧
      (Char.ofNat n = (Char.ofNat n).toLower ∨ Char.ofNat n = (Char.ofNat n).toUpper) := by
  unfold CasePair small capital upperRuns lowerRuns upperExpansions caseRuns titlecase CharSet.packed Packed.table
    Packed.numbers
  -- a table is a literal: as a list of characters it can be gone through
  iterate 3 rw [String.toList_ofList]
  decide +kernel

theorem isPaired_ascii (c : Char) (ascii : c.toNat < 128) (allowed : isCodeChar c = true) : IsPaired c := by
  rw [← Char.ofNat_toNat c] at allowed ⊢
  exact ⟨_, _, casePair_ascii c.toNat ascii allowed⟩

theorem lowerChars_eq (before cs : List Char) (plain : ∀ c ∈ cs, c ≠ 'Σ') : lowerChars before cs = cs.flatMap small := by
  induction cs generalizing before with
  | nil => rfl
  | cons c rest ih =>
    rw [List.forall_mem_cons] at plain
    rw [lowerChars, if_neg plain.1, ih _ plain.2, List.flatMap_cons, small]

theorem normalizeCode_eq_ok_iff {given stored : String} : normalizeCode given = .ok stored ↔
    (startsWithLetter given = true ∧ given.toList.all isCodeChar = true ∧
      (isUpper given || isLower given) = true) ∧ toLower given = stored := by
  unfold normalizeCode
  cases startsWithLetter given <;> cases given.toList.all isCodeChar <;> cases isUpper given || isLower given <;> simp

theorem isCased_map {cs : List Char} {own other : CharSet} {side : Char → Char}
    (clear : ∀ c ∈ cs, (other.contains (side c) || titlecase.contains (side c)) = false) (member : c ∈ cs)
    (held : own.contains (side c) = true) : isCased own other (String.ofList (cs.map side)) = true := by
  rw [isCased, String.toList_ofList, List.all_map, List.any_map, Bool.and_eq_true, List.all_eq_true, List.any_eq_true]
  exact ⟨fun c member => by simpa using clear c member, c, member, held⟩

section
variable {cs : List Char} {l u : Char → Char} (pairs : ∀ c ∈ cs, CasePair (l c) (u c) ∧ (c = l c ∨ c = u c))
include pairs

/-- The code with a letter of the same pair in the place of each. -/
theorem toLower_side {side : Char → Char} (sides : ∀ c ∈ cs, side c = l c ∨ side c = u c) :
    toLower (String.ofList (cs.map side)) = String.ofList (cs.map l) := by
  have each : ∀ c ∈ cs, side c ≠ 'Σ' ∧ small (side c) = [l c] := by
    intro c member
    obtain ⟨⟨spelt, plain, _⟩, _⟩ := pairs c member
    rcases sides c member with same | same <;> rw [same] <;> grind
  rw [toLower, String.toList_ofList, lowerChars_eq, List.flatMap_map, List.map_eq_flatMap]
  · exact congrArg _ (List.flatMap_congr fun c member => (each c member).2)
  · simpa using fun c member => (each c member).1

theorem normalizeCode_side (accepted : normalizeCode (String.ofList cs) = .ok stored) {side : Char → Char}
    (sides : ∀ c ∈ cs, side c = l c ∨ side c = u c)
    (cased : (isUpper (String.ofList (cs.map side)) || isLower (String.ofList (cs.map side))) = true) :
    normalizeCode (String.ofList (cs.map side)) = .ok (String.ofList (cs.map l)) := by
  obtain ⟨⟨start, word, _⟩, _⟩ := normalizeCode_eq_ok_iff.mp accepted
  have alike : ∀ c ∈ cs, isLetter (side c) = isLetter c ∧ isCodeChar (side c) = isCodeChar c := by
    intro c member
    obtain ⟨⟨_, _, same, _⟩, own⟩ := pairs c member
    rcases sides c member with here | here <;> rcases own with own | own <;> rw [here] <;> grind
  refine normalizeCode_eq_ok_iff.mpr ⟨⟨?_, ?_, cased⟩, toLower_side pairs sides⟩
  · rw [startsWithLetter, String.toList_ofList] at start ⊢
    cases cs with
    | nil => exact start
    | cons c rest => exact (alike c List.mem_cons_self).1.trans start
  · rw [String.toList_ofList, List.all_map]
    rw [String.toList_ofList, List.all_eq_true] at word
    exact List.all_eq_true.mpr fun c member => (alike c member).2.trans (word c member)

theorem exists_cased (accepted : normalizeCode (String.ofList cs) = .ok stored) :
    ∃ c ∈ cs, lowercase.contains (l c) = true ∧ uppercase.contains (u c) = true := by
  obtain ⟨⟨_, _, cased⟩, _⟩ := normalizeCode_eq_ok_iff.mp accepted
  simp only [isUpper, isLower, isCased, String.toList_ofList, Bool.or_eq_true, Bool.and_eq_true, List.any_eq_true] at cased
  rcases cased with ⟨_, c, member, held⟩ | ⟨_, c, member, held⟩ <;>
  · obtain ⟨⟨_, _, _, low, high, same⟩, own⟩ := pairs c member
    refine ⟨c, member, ?_⟩
    grind

end

theorem toLower_paired {given : String} (paired : ∀ c ∈ given.toList, IsPaired c) :
    toLower given = String.ofList (given.toList.map small).flatten := by
  rw [toLower, lowerChars_eq, List.flatMap_def]
  rintro _ member rfl
  obtain ⟨l, u, ⟨_, plain, _⟩, same⟩ := paired _ member
  grind

/-- Both sides of the pairs of an accepted code are accepted, and stand for the small letters. -/
theorem normalizeCode_pairs {given : String} (paired : ∀ c ∈ given.toList, IsPaired c)
    (accepted : normalizeCode given = .ok stored) :
    normalizeCode stored = .ok stored ∧ normalizeCode (toUpper stored) = .ok stored := by
  choose! l u pairs using paired
  rw [← String.ofList_toList (s := given)] at accepted
  obtain ⟨c, member, low, high⟩ := exists_cased pairs accepted
  have same : stored = String.ofList (given.toList.map l) := by
    have kept := (normalizeCode_eq_ok_iff.mp accepted).2
    rw [← List.map_id given.toList] at kept
    rw [← kept]
    exact toLower_side pairs fun c member => (pairs c member).2
  have capitals : toUpper stored = String.ofList (given.toList.map u) := by
    rw [same, toUpper, String.toList_ofList, List.flatMap_map, List.map_eq_flatMap]
    exact congrArg _ (List.flatMap_congr fun c member => (pairs c member).1.1.2.2)
  rw [capitals, same]
  constructor
  · refine normalizeCode_side pairs accepted (fun _ _ => .inl rfl) (Bool.or_eq_true_iff.mpr (.inr ?_))
    exact isCased_map (fun c member => (pairs c member).1.2.2.2.1) member low
  · refine normalizeCode_side pairs accepted (fun _ _ => .inr rfl) (Bool.or_eq_true_iff.mpr (.inl ?_))
    exact isCased_map (fun c member => (pairs c member).1.2.2.2.2.1) member high

end Rebind.Text

namespace Rebind.Diagnostic

open Text

/-- The code of a diagnostic is the normal form of what is given for it, and has no part in its other fields. -/
theorem make_given {kind : DiagnosticKind} {given : String} {message help related : Plain} {data : List (Plain × Plain)}
    {d : Diagnostic} (made : make kind (.given (.str given)) message help related data = .ok d) :
    normalizeCode given = .ok d.code ∧
      ∀ other, normalizeCode other = .ok d.code → make kind (.given (.str other)) message help related data = .ok d := by
  simp only [make, CodeField.normalize, bind, Except.bind] at made ⊢
  cases found : normalizeCode given with
  | error _ => simp [found] at made
  | ok stored =>
    simp only [found] at made
    have kept : d.code = stored := by
      repeat' split at made
      all_goals cases made
      rfl
    rw [kept]
    exact ⟨rfl, fun other same => by simp only [same, made]⟩

/-- What a diagnostic made from a code of paired characters keeps as its code, and what it shows outside, make the same
diagnostic again; and codes that differ in the case of their letters alone are kept as one. -/
theorem code_canonical (kind : DiagnosticKind) (given : String) (message help related : Plain)
    (data : List (Plain × Plain)) (d : Diagnostic) (paired : ∀ c ∈ given.toList, IsPaired c)
    (made : make kind (.given (.str given)) message help related data = .ok d) :
    make kind (.given (.str d.code)) message help related data = .ok d ∧
      make kind (.given (.str d.externalCode)) message help related data = .ok d ∧
      ∀ other stored, (∀ c ∈ other.toList, IsPaired c) → other.toList.map small = given.toList.map small →
        normalizeCode other = .ok stored → stored = d.code := by
  obtain ⟨accepted, again⟩ := make_given made
  obtain ⟨itself, outside⟩ := normalizeCode_pairs paired accepted
  refine ⟨again _ itself, again _ outside, fun other stored paired' alike accepted' => ?_⟩
  rw [← (normalizeCode_eq_ok_iff.mp accepted).2, ← (normalizeCode_eq_ok_iff.mp accepted').2, toLower_paired paired',
    toLower_paired paired, alike]

/-- A diagnostic with no more than a code and a message. -/
theorem make_bare {given stored : String} (accepted : normalizeCode given = .ok stored) :
    make .lowering (.given (.str given)) (.str "flat") .none (.tuple []) [] =
      .ok ⟨.lowering, stored, "flat", .none, [], []⟩ := by
  have message : checkMessage (.str "flat") = .ok "flat" := rfl
  simp only [make, CodeField.normalize, accepted, message]
  rfl

set_option maxRecDepth 10000 in
/-- A code in capitals and the same in small letters, with signs that have no case. -/
theorem no_2d_canonical : ∃ d, make .lowering (.given (.str "NO_2D")) (.str "flat") .none (.tuple []) [] = .ok d ∧
    make .lowering (.given (.str d.externalCode)) (.str "flat") .none (.tuple []) [] = .ok d ∧
    normalizeCode "no_2d" = .ok d.code := by
  have letters (given : String) (ascii : given.toList.all (fun c => c.toNat < 128 && isCodeChar c) = true) :
      ∀ c ∈ given.toList, IsPaired c := by
    intro c member
    obtain ⟨small, allowed⟩ := by simpa using List.all_eq_true.mp ascii c member
    exact isPaired_ascii c small allowed
  have alike : "no_2d".toList.map small = "NO_2D".toList.map small := by
    unfold small lowerRuns caseRuns Packed.table Packed.numbers
    iterate 3 rw [String.toList_ofList]
    decide +kernel
  have made := make_bare (normalizeCode_eq_ok_iff.mpr ⟨by decide +kernel, (rfl : toLower "NO_2D" = _)⟩)
  have accepted := normalizeCode_eq_ok_iff.mpr ⟨by decide +kernel, (rfl : toLower "no_2d" = _)⟩
  obtain ⟨_, outside, others⟩ := code_canonical _ _ _ _ _ _ _ (letters _ (by decide +kernel)) made
  exact ⟨_, made, outside, others _ _ (letters _ (by decide +kernel)) alike accepted ▸ accepted⟩

set_option maxRecDepth 10000 in
/-- A small letter without a capital: what the code looks like from outside is no code. -/
theorem ordinal_refused : ∃ d, make .lowering (.given (.str "aª")) (.str "flat") .none (.tuple []) [] = .ok d ∧
    d.code = "aª" ∧ normalizeCode d.externalCode = .error .codeCase := by
  have spelt : "aª".toList.flatMap small = "aª".toList ∧ "aª".toList.flatMap capital = "Aª".toList := by
    unfold small capital upperRuns lowerRuns upperExpansions caseRuns Packed.table Packed.numbers
    iterate 4 rw [String.toList_ofList]
    decide +kernel
  have kept : toLower "aª" = "aª" := by
    rw [toLower, lowerChars_eq _ _ (by simp), spelt.1, String.ofList_toList]
  have external : toUpper "aª" = "Aª" := by
    rw [toUpper, ← capital, spelt.2, String.ofList_toList]
  refine ⟨_, make_bare (normalizeCode_eq_ok_iff.mpr ⟨by decide +kernel, kept⟩), rfl, ?_⟩
  rw [externalCode, external]
  rfl

end Rebind.Diagnostic
