import CuratorKeeper.Inputs.Directory
import CuratorKeeper.Proofs.Program.Keeps

/-!
# Quiet programs

A program that only writes log lines comes to the same result wherever it is run.
Reading the inputs of a pass is quiet, so that all passes with the same inputs
work with the same files and credentials.
-/

namespace CuratorKeeper
namespace Program

variable {α β : Type}

/-- A program that only writes log lines, with its result. -/
inductive Quiet : Program α → Except Fault α → Prop
  | done (value : α) : Quiet (.done value) (.ok value)
  | fail (fault : Fault) : Quiet (.fail fault) (.error fault)
  | note {line : LogLine} {next : Unit → Program α} {result : Except Fault α}
      (quiet : Quiet (next ()) result) : Quiet (.perform (.note line) next) result

namespace Quiet

variable {program : Program α} {result : Except Fault α} {store : Store}

theorem ofExcept (result : Except Fault α) : Quiet (ofExcept result) result := by
  cases result with
  | ok value => exact .done value
  | error fault => exact .fail fault

theorem bind {rest : α → Program β} (first : ∃ result, Quiet program result)
    (further : ∀ value, ∃ result, Quiet (rest value) result) :
    ∃ result, Quiet (program.bind rest) result := by
  obtain ⟨result, quiet⟩ := first
  induction quiet with
  | done value => exact further value
  | fail fault => exact ⟨_, .fail fault⟩
  | note quiet ih =>
      obtain ⟨result, quiet⟩ := ih
      exact ⟨result, .note quiet⟩

/-- A quiet program ends at once, wherever it is. -/
theorem ensures_iff (quiet : Quiet program result) {around : Surroundings}
    {promise : Served → Prop} {goal : Goal α} :
    Ensures around promise program goal store ↔ goal result [] store := by
  induction quiet with
  | done value => rfl
  | fail fault => rfl
  | note quiet ih => exact ih

theorem keeps {around : Surroundings} {promise : Served → Prop} (quiet : Quiet program result) :
    Keeps around promise program := fun _ => quiet.ensures_iff.mpr trivial

theorem ensures_bind_iff (quiet : Quiet program result) {around : Surroundings}
    {promise : Served → Prop} {rest : α → Program β} {goal : Goal β} :
    Ensures around promise (program.bind rest) goal store ↔
      match result with
      | .ok value => Ensures around promise (rest value) goal store
      | .error fault => goal (.error fault) [] store := by
  rw [ensures_bind, quiet.ensures_iff]
  cases result <;> rfl

end Quiet

theorem quiet_read (directory : Directory) (name : String) :
    ∃ result, Quiet (directory.read name) result := by
  unfold Directory.read
  split
  · exact ⟨_, .done _⟩
  · exact ⟨_, .note (.done _)⟩
  · exact ⟨_, .note (.done _)⟩

theorem quiet_readTexts (directory : Directory) (files : List (String × String)) :
    ∃ result, Quiet (readTexts directory files) result := by
  induction files with
  | nil => exact ⟨_, .done _⟩
  | cons file rest ih =>
      apply Quiet.bind (quiet_read directory file.2)
      intro content
      apply Quiet.bind ⟨_, .ofExcept _⟩
      intro text
      exact Quiet.bind ih fun others => ⟨_, .done _⟩

theorem quiet_readBytes (directory : Directory) (files : List (String × String)) :
    ∃ result, Quiet (readBytes directory files) result := by
  induction files with
  | nil => exact ⟨_, .done _⟩
  | cons file rest ih =>
      apply Quiet.bind (quiet_read directory file.2)
      intro content
      exact Quiet.bind ih fun others => ⟨_, .done _⟩

theorem quiet_loadFiles (inputs : Inputs) : ∃ result, Quiet inputs.loadFiles result := by
  unfold Inputs.loadFiles
  cases inputs.files with
  | given files => exact ⟨_, .done _⟩
  | directory directory => exact Quiet.bind (quiet_readTexts directory _) fun _ => ⟨_, .done _⟩

theorem quiet_loadCredentials (inputs : Inputs) :
    ∃ result, Quiet inputs.loadCredentials result := by
  unfold Inputs.loadCredentials
  cases inputs.credentials with
  | given credentials => exact ⟨_, .done _⟩
  | directory directory => exact quiet_readBytes directory _

end Program
end CuratorKeeper
