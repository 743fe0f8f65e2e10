import Mathlib.Data.List.Induction
import Rebind.Proofs.Expansion
/-!
Further expanders take over nothing. When expanders under new names are put beside those of a policy, what
comes of a statement stays as it is, unless the statement was unsupported: an expander can not hide a form
behind its name.
-/
namespace Rebind

open Syntax

/-- Whatever the first policy has an expander for, the second one has the same expander for. -/
structure Policy.Extends (policy more : Policy) : Prop where
  accumulate : more.accumulate = policy.accumulate
  maxDepth : more.maxDepth = policy.maxDepth
  expander : ∀ name found, policy.expander? name = some found → more.expander? name = some found

namespace Update
variable {policy more : Policy} (grown : policy.Extends more)
include grown

theorem expandable?_extends (given : expandable? policy s = some (name, call, expander)) :
    expandable? more s = some (name, call, expander) := by
  obtain ⟨special, expansion⟩ := expandable?_eq_some given
  obtain ⟨span, rfl, head, found⟩ := expansionOf?_eq_some expansion
  simp [expandable?, grown.accumulate, special, expansionOf?, head, grown.expander name expander found]

theorem recogniseWithin_rest_extends (rest : expandable? policy s = none) (left : Nat) (depth : Int)
    (supported : ∀ t, (recogniseWithin policy left depth s).outcome ≠ .ok (.unsupported t)) :
    recogniseWithin more left depth s = recogniseWithin policy left depth s := by
  have rest' : expandable? more s = none := by
    cases given : expandable? more s with
    | none => rfl
    | some taken =>
      -- An expander would take a call, and a call that no form takes was unsupported before.
      obtain ⟨special, expansion⟩ := expandable?_eq_some given
      obtain ⟨span, rfl, _⟩ := expansionOf?_eq_some expansion
      rw [grown.accumulate] at special
      refine absurd ?_ (supported (.expr span taken.2.1))
      rw [recogniseWithin_rest rest left depth 0, recognise_plain _ 0 _ rfl, special]
      rfl
  exact recogniseWithin_rest_same rest rest' grown.accumulate left left depth

theorem recogniseWithin_extends (left : Nat) (depth : Int) (s : Stmt)
    (supported : ∀ t, (recogniseWithin policy left depth s).outcome ≠ .ok (.unsupported t)) :
    recogniseWithin more left depth s = recogniseWithin policy left depth s := by
  induction left generalizing depth s with
  | zero =>
    cases given : expandable? policy s with
    | none => exact recogniseWithin_rest_extends grown given 0 depth supported
    | some taken =>
      rw [recogniseWithin_expandable given, recogniseWithin_expandable (expandable?_extends grown given)]
      simp only [tooDeep, grown.maxDepth]
  | succ left ih =>
    cases given : expandable? policy s with
    | none => exact recogniseWithin_rest_extends grown given _ depth supported
    | some taken =>
      rw [recogniseWithin_expandable given] at supported ⊢
      rw [recogniseWithin_expandable (expandable?_extends grown given)]
      cases expanded : expandOnce s taken.1 taken.2.1 taken.2.2 depth with
      | error fault => rfl
      | ok next =>
        simp only [expanded] at supported ⊢
        rw [ih (depth + 1) next supported]

end Update

/-! ### Settings with further expanders -/

namespace Settings

/-- An expander under a name, as it is given. -/
def entry (named : String × Expander) : Plain × Option Expander := (.str named.1, some named.2)

theorem checkExpander_eq_ok (checked : checkExpander given = .ok named) :
    given = entry named ∧ Text.isIdentifier named.1 = true := by
  fun_cases checkExpander given <;> simp_all [checkExpander]
  subst checked
  simp_all [entry]

theorem mapM_entries (named : List (String × Expander)) (identifiers : ∀ n ∈ named, Text.isIdentifier n.1 = true) :
    (named.map entry).mapM checkExpander = .ok named := by
  induction named with
  | nil => rfl
  | cons n named ih =>
    rw [List.forall_mem_cons] at identifiers
    have checked : checkExpander (entry n) = .ok n := by simp [checkExpander, entry, identifiers.1]
    simp [checked, ih identifiers.2, bind, Except.bind, pure, Except.pure]

theorem mapM_eq_ok (given : List (Plain × Option Expander)) (checked : given.mapM checkExpander = .ok named) :
    given = named.map entry ∧ ∀ n ∈ named, Text.isIdentifier n.1 = true := by
  induction given generalizing named with
  | nil =>
    cases checked
    simp
  | cons first rest ih =>
    simp only [List.mapM_cons, bind, Except.bind, pure, Except.pure] at checked
    split at checked
    · cases checked
    · rename_i found
      split at checked
      · cases checked
      · rename_i others
        cases checked
        obtain ⟨rfl, identifier⟩ := checkExpander_eq_ok found
        obtain ⟨rfl, identifiers⟩ := ih others
        simpa [identifier] using identifiers

theorem lookup_renewed (m : List (String × Expander)) (key : String) (value : Expander) (name : String) :
    (m.map fun k => if k.1 == key then (k.1, value) else k).lookup name =
      if name == key then (m.lookup name).map fun _ => value else m.lookup name := by
  induction m with
  | nil => simp
  | cons k m ih =>
    rw [List.map_cons, List.lookup_cons, List.lookup_cons, ih]
    by_cases own : k.1 = key
    · subst own
      cases asked : name == k.1 <;> simp [asked]
    · cases asked : name == k.1 with
      | false => simp [own, asked]
      | true =>
        obtain rfl := eq_of_beq asked
        simp [own]

/-- Of the entries with one name the last one counts. -/
theorem keyed_entries (l : List (String × Expander)) : ∃ kept : List (String × Expander),
    Plain.keyed (l.map entry) = some (kept.map entry) ∧ (∀ k ∈ kept, k.1 ∈ l.map (·.1)) ∧
      ∀ name, kept.reverse.lookup name = l.reverse.lookup name := by
  have hashable : (l.map entry).all (·.1.hashable) = true := by simp [entry, Plain.hashable]
  simp only [Plain.keyed, hashable, ↓reduceIte, Option.some.injEq]
  clear hashable
  induction l using List.reverseRecOn with
  | nil => exact ⟨[], by simp⟩
  | append_singleton l e ih =>
    obtain ⟨key, value⟩ := e
    obtain ⟨kept, placed, known, same⟩ := ih
    have any : (kept.map entry).any (fun other => other.1.sameKey (.str key)) = kept.any (·.1 == key) := by
      simp [List.any_map, Function.comp_def, entry, Plain.sameKey]
    have step : (l ++ [(key, value)]).map entry = l.map entry ++ [(.str key, some value)] := by simp [entry]
    simp only [step, List.foldl_append, placed, List.foldl_cons, List.foldl_nil, Plain.keyed.place, any,
      List.reverse_append, List.reverse_singleton, List.singleton_append, List.lookup_cons, ← same]
    split
    · rename_i met
      refine ⟨kept.map fun k => if k.1 == key then (k.1, value) else k, ?_, by grind, fun name => ?_⟩
      · simp [entry, Plain.sameKey, Function.comp_def, apply_ite]
      · obtain ⟨found, present⟩ : ∃ found, kept.reverse.lookup key = some found := by
          rw [← Option.ne_none_iff_exists', Ne, List.lookup_eq_none_iff]
          simpa using met
        rw [← List.map_reverse, lookup_renewed]
        cases here : name == key with
        | false => rfl
        | true => simp [eq_of_beq here, present]
    · exact ⟨kept ++ [(key, value)], by simp [entry], by grind, by simp [List.lookup_cons]⟩

/-- Settings that pass the checks pass them with further expanders too. -/
theorem check_extend (s : Settings) (policy : Policy) (checked : s.check = .ok policy) (more : List (String × Expander))
    (identifiers : ∀ m ∈ more, Text.isIdentifier m.1 = true) (unregistered : ∀ m ∈ more, policy.expander? m.1 = none) :
    ∃ s' policy', s.extend (more.map entry) = some s' ∧ s'.check = .ok policy' ∧ policy.Extends policy' := by
  simp only [check, bind, Except.bind, pure, Except.pure] at checked
  split at checked
  · cases checked
  · rename_i blockNames named
    split at checked
    · cases checked
    · rename_i maxDepth limited
      split at checked
      · cases checked
      · rename_i registered found
        cases checked
        obtain ⟨given, known⟩ := mapM_eq_ok s.expanders found
        obtain ⟨kept, placed, among, same⟩ := keyed_entries (registered ++ more)
        rw [List.map_append, ← given] at placed
        have checked : (kept.map entry).mapM checkExpander = .ok kept := mapM_entries kept (by grind)
        refine ⟨{ s with expanders := kept.map entry }, ⟨blockNames, s.accumulate.truthy, maxDepth, kept.reverse⟩,
          by simp [extend, placed], ?_, rfl, rfl, fun name expander behind => ?_⟩
        · simp [check, named, limited, checked, bind, Except.bind, pure, Except.pure]
        · simp only [Policy.expander?] at behind unregistered ⊢
          have absent : more.reverse.lookup name = none := by
            rw [List.lookup_eq_none_iff]
            intro m member
            have free := unregistered m (List.mem_reverse.mp member)
            grind
          rw [same, List.reverse_append, List.lookup_append, absent]
          exact behind

end Settings

/-- Expanders under new names, whatever these are, change nothing about a statement that was taken or failed without
them: its outcome and the expansions on the way stay the same. -/
theorem extension_conservative (s : Settings) (policy : Policy) (checked : s.check = .ok policy)
    (more : List (String × Expander)) (identifiers : ∀ m ∈ more, Text.isIdentifier m.1 = true)
    (unregistered : ∀ m ∈ more, policy.expander? m.1 = none) :
    ∃ s' policy', s.extend (more.map Settings.entry) = some s' ∧ s'.check = .ok policy' ∧
      ∀ depth statement, (∀ t, (Update.recognise policy depth statement).outcome ≠ .ok (.unsupported t)) →
        Update.recognise policy' depth statement = Update.recognise policy depth statement := by
  obtain ⟨s', policy', extended, checked', grown⟩ := s.check_extend policy checked more identifiers unregistered
  refine ⟨s', policy', extended, checked', fun depth statement supported => ?_⟩
  have limit : Update.budget policy' depth = Update.budget policy depth := by simp [Update.budget, grown.maxDepth]
  rw [Update.recognise, limit]
  exact Update.recogniseWithin_extends grown _ depth statement supported

/-- An expander called `copyto` is never asked about `copyto(y, x)`. -/
theorem copy_stays_copy : let named : List (String × Expander) := [("copyto", Expander.failing)]
    let s : Stmt := .expr ⟨1, 0, 1, 12⟩ (.call ⟨1, 1⟩ (.name ⟨1, 1⟩ "copyto") [.name ⟨1, 1⟩ "y", .name ⟨1, 1⟩ "x"] [])
    ({} : Settings).check = .ok .standard ∧
      ∃ s' policy, ({} : Settings).extend (named.map Settings.entry) = some s' ∧ s'.check = .ok policy ∧
        Update.recognise policy 1 s = Update.recognise .standard 1 s := by
  intro named s
  have checked : ({} : Settings).check = .ok .standard := by
    have names : Text.isIdentifier "bb" = true ∧ Text.isIdentifier "bangbang" = true := by decide +kernel
    simp [Settings.check, Settings.checkBlockNames, Settings.checkBlockName, Settings.checkDepth, names, Plain.truthy,
      Policy.standard, bind, Except.bind, pure, Except.pure]
  obtain ⟨s', policy, extended, checked', same⟩ := extension_conservative {} .standard checked named
    (by simp only [named]; decide +kernel) (by simp [Policy.expander?, Policy.standard])
  exact ⟨checked, s', policy, extended, checked', same 1 s fun _ found => by cases found⟩

end Rebind
