import CuratorKeeper.Retry.Loop
import CuratorKeeper.Store.World

/-! # Rehearsals of tries

A function that is tried is known by what its tries come to, one after another.
-/
namespace CuratorKeeper

variable {α : Type}

/-- The try with a number, of a function that is known by what its tries come to. -/
def scriptedTry (outcomes : Nat → Except Fault α) (number : Nat) : Program (Attempt Nat α) :=
  Attempt.ofProgram (number + 1) (.settled <$> Program.ofExcept (outcomes number))

/-- What a rehearsal of tries comes to. -/
structure TriesReport (α : Type) where
  result : Except Fault α
  /-- How many tries were made: one, and one after each pause. -/
  tries : Nat
  journal : Journal

/-- Try a function that is known by what its tries come to. -/
def rehearseTries (budget : Budget) (draws : List Float)
    (outcomes : Nat → Except Fault α) : TriesReport α :=
  let ran := (retry budget (scriptedTry outcomes) 0).run { draws }
  { result := ran.1
    tries := ran.2.journal.pauses.length + 1
    journal := ran.2.journal }

end CuratorKeeper
