import Rebind.Program.Eval
/-!
Runs that succeed, and runs that fail. A run that is made of smaller ones succeeds exactly if they do, one
after the other, so what a program does where it goes through can be read off its text.
-/
namespace Rebind

open Syntax Run

/-- The run goes through from a memory, with its result and the memory that it leaves behind. -/
def Run.Yields (run : Run α) (m : Memory) (a : α) (after : Memory) : Prop :=
  (run.run.run m).run = (.ok a, after)

section
variable {m after : Memory}

theorem Run.Yields.eq {run : Run α} (first : run.Yields m a after) (second : run.Yields m b last) :
    a = b ∧ after = last := by
  rw [Yields] at first second
  rw [first] at second
  simpa using second

@[simp] theorem yields_pure {a b : α} : (pure a : Run α).Yields m b after ↔ a = b ∧ m = after := by
  simp [Yields]

@[simp] theorem yields_bind {run : Run α} {next : α → Run β} :
    (run >>= next).Yields m b after ↔
      ∃ a between, run.Yields m a between ∧ (next a).Yields between b after := by
  simp only [Yields, ExceptT.run_bind, StateT.run_bind, Id.run_bind]
  rcases (run.run.run m).run with ⟨_ | a, between⟩ <;> simp [and_assoc]

theorem Run.Yields.bind_run {run : Run α} {next : α → Run β} (ran : run.Yields m a between) :
    ((run >>= next).run.run m).run = ((next a).run.run between).run := by
  rw [Yields] at ran
  simp [ExceptT.run_bind, ran]

@[simp] theorem yields_map {run : Run α} {f : α → β} :
    (f <$> run).Yields m b after ↔ ∃ a, run.Yields m a after ∧ f a = b := by
  rw [← bind_pure_comp, yields_bind]
  simp only [yields_pure]
  constructor
  · rintro ⟨a, between, ran, made, rfl⟩
    exact ⟨a, ran, made⟩
  · rintro ⟨a, ran, made⟩
    exact ⟨a, after, ran, made, rfl⟩

@[simp] theorem yields_throw {fault : Fault} : ¬ (throw fault : Run α).Yields m a after := by
  simp [Yields]

@[simp] theorem yields_fail {kind : ErrorKind} : ¬ (fail kind : Run α).Yields m a after := by
  simp [fail]

@[simp] theorem yields_ofExcept {result : Except Fault α} :
    (Run.ofExcept result).Yields m a after ↔ result = .ok a ∧ m = after := by
  cases result <;> simp [Run.ofExcept]

@[simp] theorem yields_get : (get : Run Memory).Yields m a after ↔ m = a ∧ m = after := by
  have ran : ((get : Run Memory).run.run m).run = (.ok m, m) := rfl
  simp [Yields, ran]

@[simp] theorem yields_set {other : Memory} :
    (set other : Run PUnit).Yields m a after ↔ other = after := by
  have ran : ((set other : Run PUnit).run.run m).run = (.ok ⟨⟩, other) := rfl
  simp [Yields, ran]

@[simp] theorem yields_modify {f : Memory → Memory} :
    (modify f : Run PUnit).Yields m a after ↔ f m = after := by
  have ran : ((modify f : Run PUnit).run.run m).run = (.ok ⟨⟩, f m) := rfl
  simp [Yields, ran]

theorem yields_ite {c : Prop} [Decidable c] {first second : Run α} : (if c then first else second).Yields m a after ↔
    c ∧ first.Yields m a after ∨ ¬ c ∧ second.Yields m a after := by
  by_cases h : c <;> simp [h]

@[simp] theorem yields_discard {run : Run α} :
    (discard run).Yields m u after ↔ ∃ a, run.Yields m a after := by
  have same : discard run = (fun _ => PUnit.unit) <$> run := rfl
  simp [same]

theorem run_onLine {line : Nat} {run : Run α} (m : Memory) : ((Program.onLine line run).run.run m).run =
    ((run.run.run m).run.1.mapError (Fault.at_ line), (run.run.run m).run.2) := by
  change (StateT.run (ExceptT.tryCatch run fun fault => throw (fault.at_ line)).run m).run = _
  have same : run.run.run m = StateT.run run m := rfl
  rw [ExceptT.tryCatch, ExceptT.run_mk, StateT.run_bind, Id.run_bind, same]
  rcases (StateT.run run m).run with ⟨_ | _, _⟩ <;> rfl

@[simp] theorem yields_onLine {line : Nat} {run : Run α} :
    (Program.onLine line run).Yields m a after ↔ run.Yields m a after := by
  rw [Yields, Yields, run_onLine]
  rcases (run.run.run m).run with ⟨_ | _, _⟩
  · exact iff_of_false nofun nofun
  · exact Iff.rfl

/-- The run ends with a fault, and with the memory that it leaves behind. -/
def Run.Fails (run : Run α) (m : Memory) (fault : Fault) (after : Memory) : Prop :=
  (run.run.run m).run = (.error fault, after)

/-- The memory that a run leaves that fails. -/
def Run.leftBy (run : Run α) (m : Memory) : Option Memory :=
  match (run.run.run m).run with
  | (.ok _, _) => none
  | (.error _, after) => some after

theorem fails_of_leftBy {run : Run α} (left : run.leftBy m = some after) : ∃ fault, run.Fails m fault after := by
  unfold leftBy at left
  split at left
  · cases left
  · rename_i fault last ran
    cases left
    exact ⟨fault, ran⟩

theorem fails_bind {run : Run α} {next : α → Run β} : (run >>= next).Fails m fault after ↔
    run.Fails m fault after ∨ ∃ a between, run.Yields m a between ∧ (next a).Fails between fault after := by
  simp only [Fails, Yields, ExceptT.run_bind, StateT.run_bind, Id.run_bind]
  rcases (run.run.run m).run with ⟨_ | a, between⟩ <;> simp [and_assoc]

theorem fails_discard {run : Run α} (failed : run.Fails m fault after) : (discard run).Fails m fault after := by
  have same : discard run = (fun _ => PUnit.unit) <$> run := rfl
  rw [same, ← bind_pure_comp, fails_bind]
  exact .inl failed

theorem yields_tryCatch {run : Run α} {handler : Fault → Run α} (ran : run.Yields m a after) :
    (tryCatch run handler).Yields m a after := by
  have same : run.run.run m = StateT.run run m := rfl
  change (StateT.run (ExceptT.tryCatch run handler).run m).run = _
  rw [Yields, same] at ran
  rw [ExceptT.tryCatch, ExceptT.run_mk, StateT.run_bind, Id.run_bind, ran]
  rfl

end
end Rebind
