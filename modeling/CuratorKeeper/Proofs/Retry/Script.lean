import CuratorKeeper.Proofs.Program.Ensures
import CuratorKeeper.Rehearsal.Tries
import Mathlib.Data.ENat.Lattice

/-!
# What a loop of tries comes to

A function is known by its calls: what each of them writes into the log, and what
it comes to.  A loop of tries calls it until a call comes to anything but a
conflict, or until the budget is spent.  So many calls, one less pause, and what is
told of each of them, are read off the outcomes and the budget.
-/

namespace CuratorKeeper

variable {α : Type}

namespace Backoff

/-- The delay that the pause with a number is made from. -/
def delayAt (backoff : Backoff) : Nat → Number
  | 0 => backoff.delay
  | number + 1 => backoff.delayAt number * backoff.factor

/-- The pause with a number, jittered by the draw with the number. -/
def pauseAt (backoff : Backoff) (draws : List Float) (number : Nat) : Number :=
  backoff.delayAt number +
    backoff.delayAt number * backoff.jitter * .real (draws.getD number 0.0)

theorem pause_delayAt (backoff : Backoff) (draws : List Float) (number : Nat) :
    backoff.pause (backoff.delayAt number) ((draws.drop number).headD 0.0) =
      backoff.pauseAt draws number := by
  rw [List.headD_eq_head?_getD, List.head?_drop, ← List.getD_eq_getElem?_getD]
  rfl

theorem pausesFrom_eq (backoff : Backoff) (draws : List Float) (count start : Nat) :
    backoff.pausesFrom count (backoff.delayAt start) (draws.drop start) =
      (List.range' start count).map (backoff.pauseAt draws) := by
  induction count generalizing start with
  | zero => rfl
  | succ count ih =>
      rw [pausesFrom, pause_delayAt, List.tail_drop, List.range'_succ, List.map_cons, ← ih]
      rfl

theorem pauses_eq (backoff : Backoff) (draws : List Float) :
    backoff.pauses draws =
      (List.range (max 0 (backoff.steps - 1)).toNat).map (backoff.pauseAt draws) := by
  have counts : backoff.pauseCount = (max 0 (backoff.steps - 1)).toNat := by
    rw [pauseCount]
    omega
  rw [← counts, List.range_eq_range', ← pausesFrom_eq]
  rfl

theorem take_pauses (backoff : Backoff) (draws : List Float) {count : Nat}
    (allowed : count ≤ backoff.pauseCount) :
    (backoff.pauses draws).take count = (List.range count).map (backoff.pauseAt draws) := by
  have within : count ≤ (max 0 (backoff.steps - 1)).toNat := by
    rw [pauseCount] at allowed
    omega
  rw [pauses_eq, ← List.map_take, List.take_range, Nat.min_eq_left within]

end Backoff

def isConflict : Except Fault α → Bool
  | .error (.store fault) => fault.refusal = .conflict
  | _ => false

def faultText : Except Fault α → String
  | .error fault => fault.message
  | .ok _ => ""

def World.noteLines (world : World) (lines : List LogLine) : World :=
  { world with journal := { world.journal with lines := world.journal.lines ++ lines } }

def Program.noteAll : List LogLine → Program Unit
  | [] => .done ()
  | line :: rest => .perform (.note line) fun _ => noteAll rest

/-- A function that is known by its calls, counted from zero. -/
structure Script (α : Type) where
  /-- What a call writes into the log. -/
  lines : Nat → List LogLine := fun _ => []
  /-- What a call comes to. -/
  outcome : Nat → Except Fault α

/-- The line that tells of the conflict of a call after which another one is made. -/
def Backoff.retryLine (backoff : Backoff) (calls : Nat) (pause : Number) (text : String) : LogLine :=
  ⟨.debug, .retry, "Conflict on attempt " ++ toString calls ++ "/" ++ toString backoff.steps ++
    ", retrying in " ++ pause.fixedText 3 ++ "s: " ++ text⟩

/-- The line that tells of the conflict of the last call of a budget. -/
def exhaustedLine (calls : Nat) (text : String) : LogLine :=
  ⟨.warning, .retry, "Conflict persisted after " ++ toString calls ++ " attempts: " ++ text⟩

namespace Script

/-- The call with a number, as a try. -/
def call (script : Script α) (number : Nat) : Program (Attempt Nat α) :=
  (Program.noteAll (script.lines number)).bind fun _ => scriptedTry script.outcome number

open Classical in
/-- The count of calls up to the first one that comes to no conflict, infinite if all
of them do. -/
noncomputable def settles (script : Script α) : ℕ∞ :=
  if settled : ∃ number, isConflict (script.outcome number) = false then
    (Nat.find settled + 1 : ℕ)
  else ⊤

/-- The world after so many calls that came to conflicts, each with its pause. -/
def worldAfter (script : Script α) (backoff : Backoff) (world : World) (calls : Nat) : World :=
  { world with
    draws := world.draws.drop calls
    journal :=
      { world.journal with
        lines := world.journal.lines ++ (List.range calls).flatMap fun number =>
          script.lines number ++
            [backoff.retryLine (number + 1) (backoff.pauseAt world.draws number)
              (faultText (script.outcome number))]
        pauses := world.journal.pauses ++ (List.range calls).map (backoff.pauseAt world.draws) } }

end Script

theorem Program.run_noteAll (lines : List LogLine) (world : World) :
    (noteAll lines).run world = (.ok (), world.noteLines lines) := by
  induction lines generalizing world with
  | nil => simp [noteAll, World.noteLines]
  | cons line rest ih =>
      rw [noteAll, run_perform, ih]
      simp [World.handle, World.noteLine, World.noteLines]

theorem scriptedTry_of_conflict {outcomes : Nat → Except Fault α} {number : Nat}
    (conflicts : isConflict (outcomes number) = true) :
    ∃ fault, outcomes number = .error (.store fault) ∧
      scriptedTry outcomes number = .done (.stale fault (number + 1)) := by
  unfold isConflict at conflicts
  split at conflicts
  next fault came =>
    refine ⟨fault, came, ?_⟩
    rw [scriptedTry, came]
    exact if_pos (of_decide_eq_true conflicts)
  next => cases conflicts

theorem scriptedTry_of_settled {outcomes : Nat → Except Fault α} {number : Nat}
    (settled : isConflict (outcomes number) = false) :
    scriptedTry outcomes number = Program.ofExcept ((outcomes number).map .settled) := by
  unfold isConflict at settled
  rw [scriptedTry]
  split at settled
  next fault came =>
    rw [came]
    exact if_neg (of_decide_eq_false settled)
  next other =>
    cases came : outcomes number with
    | ok value => rfl
    | error fault =>
        cases fault with
        | store refused => exact absurd came (other refused)
        | _ => rfl

namespace Script

variable (script : Script α) (backoff : Backoff) (world : World)

/-- One more call that came to a conflict, with its draw, its line and its pause. -/
theorem worldAfter_succ (calls : Nat) :
    script.worldAfter backoff world (calls + 1) =
      let called := (script.worldAfter backoff world calls).noteLines (script.lines calls)
      let pause := backoff.pauseAt world.draws calls
      (({ called with draws := called.draws.tail } : World).noteLine
        (backoff.retryLine (calls + 1) pause (faultText (script.outcome calls)))).notePause pause := by
  simp [worldAfter, World.noteLines, World.noteLine, World.notePause, List.range_succ]

theorem run_retryFrom_succ {number left : Nat}
    (conflicts : isConflict (script.outcome number) = true) :
    (retryFrom backoff script.call (left + 1) (number + 1) (backoff.delayAt number) number).run
        (script.worldAfter backoff world number) =
      (retryFrom backoff script.call left (number + 2) (backoff.delayAt (number + 1))
        (number + 1)).run (script.worldAfter backoff world (number + 1)) := by
  obtain ⟨fault, came, stale⟩ := scriptedTry_of_conflict conflicts
  have isPause := backoff.pause_delayAt world.draws number
  rw [worldAfter_succ, came, ← isPause]
  simp only [retryFrom, call, stale, Program.bind_eq, Program.bind_assoc, Program.done_bind,
    Program.run_bind, Program.run_noteAll, Budget.check_of_backoff, Program.liftM_mismatch,
    Except.mapError, Program.ofExcept]
  rfl

/-- As long as calls come to conflicts and pauses are left, the loop goes on. -/
theorem run_retry_of_conflicts {calls : Nat} (allowed : calls ≤ backoff.pauseCount)
    (conflicts : ∀ number < calls, isConflict (script.outcome number) = true) :
    (retry backoff script.call 0).run world =
      (retryFrom backoff script.call (backoff.pauseCount - calls) (calls + 1)
        (backoff.delayAt calls) calls).run (script.worldAfter backoff world calls) := by
  induction calls with
  | zero => simp [retry, Backoff.delayAt, worldAfter]
  | succ calls ih =>
      have further := ih (by omega) fun number less => conflicts number (by omega)
      have isLeft : backoff.pauseCount - calls = backoff.pauseCount - (calls + 1) + 1 := by omega
      rw [further, isLeft, run_retryFrom_succ script backoff world (conflicts calls (by omega))]

theorem run_retryFrom_settled {number : Nat} (settled : isConflict (script.outcome number) = false)
    (left tries : Nat) (delay : Number) :
    (retryFrom backoff script.call left tries delay number).run world =
      (script.outcome number, world.noteLines (script.lines number)) := by
  cases left <;>
    simp only [retryFrom, call, scriptedTry_of_settled settled, Program.bind_eq,
      Program.bind_assoc, Program.run_bind, Program.run_noteAll] <;>
    cases script.outcome number <;> rfl

theorem run_retryFrom_zero {number : Nat} (conflicts : isConflict (script.outcome number) = true)
    (delay : Number) :
    (retryFrom backoff script.call 0 (number + 1) delay number).run world =
      (script.outcome number, (world.noteLines (script.lines number)).noteLine
        (exhaustedLine (number + 1) (faultText (script.outcome number)))) := by
  obtain ⟨fault, came, stale⟩ := scriptedTry_of_conflict conflicts
  rw [came]
  simp only [retryFrom, call, stale, Program.bind_eq, Program.bind_assoc, Program.done_bind,
    Program.run_bind, Program.run_noteAll, Budget.check_of_backoff, Program.liftM_mismatch,
    Except.mapError, Program.ofExcept]
  rfl

theorem settles_cases :
    (∃ first : Nat, script.settles = (first + 1 : ℕ) ∧ isConflict (script.outcome first) = false ∧
        ∀ number < first, isConflict (script.outcome number) = true) ∨
      script.settles = ⊤ ∧ ∀ number, isConflict (script.outcome number) = true := by
  by_cases settled : ∃ number, isConflict (script.outcome number) = false
  · refine .inl ⟨Nat.find settled, dif_pos settled, Nat.find_spec settled, fun number less => ?_⟩
    simpa using Nat.find_min settled less
  · exact .inr ⟨dif_neg settled, by simpa using settled⟩

/-- The last call of a budget is the first one that comes to no conflict, or the last
one that the budget allows. -/
theorem exists_last {budget : Nat} (positive : 0 < budget) :
    ∃ last : Nat, ((last + 1 : ℕ) : ℕ∞) = min script.settles budget ∧
      (∀ number < last, isConflict (script.outcome number) = true) ∧
      (isConflict (script.outcome last) = true ↔ budget < script.settles) := by
  rcases script.settles_cases with ⟨first, settles, settled, before⟩ | ⟨never, conflicts⟩
  · rw [settles]
    by_cases within : first + 1 ≤ budget
    · refine ⟨first, (min_eq_left (Nat.cast_le.mpr within)).symm, before, ?_⟩
      rw [settled, Nat.cast_lt]
      exact ⟨fun isTrue => absurd isTrue Bool.false_ne_true,
        fun less => absurd within (not_le.mpr less)⟩
    · have less : budget < first + 1 := not_le.mp within
      refine ⟨budget - 1, ?_, fun number earlier => before number (by omega), ?_⟩
      · rw [min_eq_right (Nat.cast_le.mpr less.le), Nat.sub_add_cancel positive]
      · rw [before (budget - 1) (by omega), Nat.cast_lt]
        exact ⟨fun _ => less, fun _ => rfl⟩
  · refine ⟨budget - 1, ?_, fun number _ => conflicts number, ?_⟩
    · rw [never, min_eq_right le_top, Nat.sub_add_cancel positive]
    · rw [never, conflicts]
      exact ⟨fun _ => ENat.natCast_lt_top budget, fun _ => rfl⟩

/-- The lines of all calls up to the last one, each followed by what the loop tells of it. -/
def log (draws : List Float) (last : Nat) : List LogLine :=
  ((List.range last).flatMap fun number =>
    script.lines number ++
      [backoff.retryLine (number + 1) (backoff.pauseAt draws number)
        (faultText (script.outcome number))]) ++
    script.lines last ++
    if isConflict (script.outcome last) then
      [exhaustedLine (last + 1) (faultText (script.outcome last))]
    else []

/-- A loop whose last call is known has made that many calls, with a pause after each but
the last. -/
theorem run_retry_of_last {last : Nat} (allowed : last ≤ backoff.pauseCount)
    (before : ∀ number < last, isConflict (script.outcome number) = true)
    (spent : isConflict (script.outcome last) = true → last = backoff.pauseCount) :
    (retry backoff script.call 0).run world =
      (script.outcome last,
        { world with
          draws := world.draws.drop last
          journal :=
            { world.journal with
              lines := world.journal.lines ++ script.log backoff world.draws last
              pauses := world.journal.pauses ++ (backoff.pauses world.draws).take last } }) := by
  rw [run_retry_of_conflicts script backoff world allowed before, backoff.take_pauses _ allowed]
  cases conflicts : isConflict (script.outcome last) with
  | false =>
      rw [run_retryFrom_settled script backoff _ conflicts]
      simp [worldAfter, World.noteLines, log, conflicts]
  | true =>
      rw [← spent conflicts, Nat.sub_self, run_retryFrom_zero script backoff _ conflicts]
      simp [worldAfter, World.noteLines, World.noteLine, log, conflicts]

/-- The budget of a loop allows one call more than pauses. -/
theorem exists_last_of_budget :
    ∃ last : Nat, ((last + 1 : ℕ) : ℕ∞) = min script.settles (max 1 backoff.steps).toNat ∧
      (isConflict (script.outcome last) = true ↔ (max 1 backoff.steps).toNat < script.settles) ∧
      last ≤ backoff.pauseCount ∧
      (∀ number < last, isConflict (script.outcome number) = true) ∧
      (isConflict (script.outcome last) = true → last = backoff.pauseCount) := by
  have budget : (max 1 backoff.steps).toNat = backoff.pauseCount + 1 := by
    rw [Backoff.pauseCount]
    omega
  rw [budget]
  obtain ⟨last, isLast, before, spent⟩ := script.exists_last (Nat.succ_pos backoff.pauseCount)
  refine ⟨last, isLast, spent, ?_, before, fun conflicts => ?_⟩
  · have within : ((last + 1 : ℕ) : ℕ∞) ≤ (backoff.pauseCount + 1 : ℕ) := isLast ▸ min_le_right _ _
    exact Nat.le_of_succ_le_succ (Nat.cast_le.mp within)
  · rw [min_eq_right (spent.mp conflicts).le, Nat.cast_inj] at isLast
    exact Nat.succ.inj isLast

/-- A function is called until a call comes to no conflict, but no more often than the
budget allows, and what the last call comes to is handed on unchanged.  Between two
calls there is a pause, the next one of the budget, made from one draw and told of; a
budget that is spent is told of once.  Nothing else is touched. -/
theorem retry_calls :
    backoff.pauses world.draws =
        (List.range (max 0 (backoff.steps - 1)).toNat).map (backoff.pauseAt world.draws) ∧
      ∃ last : Nat, ((last + 1 : ℕ) : ℕ∞) = min script.settles (max 1 backoff.steps).toNat ∧
        (isConflict (script.outcome last) = true ↔ (max 1 backoff.steps).toNat < script.settles) ∧
        (retry backoff script.call 0).run world =
          (script.outcome last,
            { world with
              draws := world.draws.drop last
              journal :=
                { world.journal with
                  lines := world.journal.lines ++ script.log backoff world.draws last
                  pauses := world.journal.pauses ++ (backoff.pauses world.draws).take last } }) := by
  obtain ⟨last, isLast, isSpent, allowed, before, spent⟩ := script.exists_last_of_budget backoff
  exact ⟨backoff.pauses_eq world.draws, last, isLast, isSpent,
    run_retry_of_last script backoff world allowed before spent⟩

end Script

/-- A rehearsal of tries counts the calls. -/
theorem tries_rehearseTries (backoff : Backoff) (draws : List Float)
    (outcomes : Nat → Except Fault α) :
    ((rehearseTries backoff draws outcomes).tries : ℕ∞) =
      min (Script.settles { outcome := outcomes }) (max 1 backoff.steps).toNat := by
  let script : Script α := { outcome := outcomes }
  obtain ⟨last, isLast, -, allowed, before, spent⟩ := script.exists_last_of_budget backoff
  have ran : (retry backoff (scriptedTry outcomes) 0).run { draws } = _ :=
    script.run_retry_of_last backoff { draws } allowed before spent
  have counts : (rehearseTries backoff draws outcomes).tries = last + 1 := by
    simp only [rehearseTries, ran, backoff.take_pauses _ allowed, List.nil_append, List.length_map,
      List.length_range]
  rw [counts]
  exact isLast

end CuratorKeeper
