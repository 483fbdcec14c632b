import CuratorKeeper.Proofs.Program.Ensures
import Mathlib.Data.Fintype.Order

/-!
# Programs that share a world

A crew is a number of programs that act in one world.  In each turn one of them
does its next effect, so that the calls of all are interleaved in any order.  If
what each one promises is what the others reckon with, each comes to its goal
as if it were alone with others around it.
-/

namespace CuratorKeeper

/-- Programs in one world. -/
structure Crew (α : Type) (n : Nat) where
  world : World
  members : Fin n → Program α

def callsOf {n : Nat} (i : Fin n) (calls : List (Fin n × Served)) : List Served :=
  (calls.filter fun call => decide (call.1 = i)).map Prod.snd

namespace Crew

variable {α : Type} {n : Nat}

/-- One member does its next effect, if it has not ended. -/
def advance (crew : Crew α n) (i : Fin n) : Crew α n :=
  match crew.members i with
  | .done _ => crew
  | .fail _ => crew
  | .perform effect next =>
    { world := (crew.world.handle effect).2
      members := Function.update crew.members i (next (crew.world.handle effect).1) }

/-- The call that a member makes in its next turn, if it makes one. -/
def callBy (crew : Crew α n) (i : Fin n) : List (Fin n × Served) :=
  match crew.members i with
  | .done _ => []
  | .fail _ => []
  | .perform effect _ => (crew.world.callOf effect).map fun served => (i, served)

/-- The members take turns in some order. -/
def run (crew : Crew α n) : List (Fin n) → Crew α n
  | [] => crew
  | i :: rest => (crew.advance i).run rest

def calls (crew : Crew α n) : List (Fin n) → List (Fin n × Served)
  | [] => []
  | i :: rest => crew.callBy i ++ (crew.advance i).calls rest

def Ended (crew : Crew α n) : Prop :=
  ∀ i, ∃ result, crew.members i = Program.ofExcept result

theorem run_append (crew : Crew α n) (early late : List (Fin n)) :
    crew.run (early ++ late) = (crew.run early).run late := by
  induction early generalizing crew with
  | nil => rfl
  | cons i rest ih => exact ih (crew.advance i)

theorem members_advance_of_ne (crew : Crew α n) {i other : Fin n} (different : other ≠ i) :
    (crew.advance i).members other = crew.members other := by
  unfold advance
  cases crew.members i with
  | done value => rfl
  | fail fault => rfl
  | perform effect next => exact Function.update_of_ne different _ _

theorem advance_of_ended {crew : Crew α n} {i : Fin n} {result : Except Fault α}
    (ended : crew.members i = Program.ofExcept result) : crew.advance i = crew := by
  unfold advance
  rw [ended]
  cases result <;> rfl

theorem members_run_of_ended {crew : Crew α n} {i : Fin n} {result : Except Fault α}
    (ended : crew.members i = Program.ofExcept result) (order : List (Fin n)) :
    (crew.run order).members i = Program.ofExcept result := by
  induction order generalizing crew with
  | nil => exact ended
  | cons turn rest ih =>
      apply ih
      by_cases same : i = turn
      · subst same
        rwa [advance_of_ended ended]
      · rwa [members_advance_of_ne crew same]

theorem members_run_of_not_mem {crew : Crew α n} {i : Fin n} {order : List (Fin n)}
    (absent : i ∉ order) : (crew.run order).members i = crew.members i := by
  induction order generalizing crew with
  | nil => rfl
  | cons turn rest ih =>
      have different : i ≠ turn := fun same => absent (same ▸ List.mem_cons_self)
      have further : i ∉ rest := fun member => absent (List.mem_cons_of_mem _ member)
      rw [run, ih further, members_advance_of_ne crew different]

/-- Every member gets a turn again and again. -/
def Fair (turns : Nat → Fin n) : Prop := ∀ i k, ∃ later, k ≤ later ∧ turns later = i

theorem Fair.shift {turns : Nat → Fin n} (fair : Fair turns) (passed : Nat) :
    Fair fun k => turns (passed + k) := by
  intro i k
  obtain ⟨later, long, isTurn⟩ := fair i (passed + k)
  refine ⟨later - passed, by omega, ?_⟩
  have same : passed + (later - passed) = later := by omega
  change turns (passed + (later - passed)) = i
  rw [same, isTurn]

def first (turns : Nat → Fin n) (k : Nat) : List (Fin n) := (List.range k).map turns

theorem first_add (turns : Nat → Fin n) (passed k : Nat) :
    first turns (passed + k) = first turns passed ++ first (fun k => turns (passed + k)) k := by
  rw [first, List.range_add, List.map_append, List.map_map]
  rfl

/-- In a fair order a member comes to its end. -/
theorem member_ends_of_fair {i : Fin n} (program : Program α) (crew : Crew α n)
    (isMember : crew.members i = program) {turns : Nat → Fin n} (fair : Fair turns) :
    ∃ k result, (crew.run (first turns k)).members i = Program.ofExcept result := by
  -- Each turn of the member leaves a smaller program, and the turns of others leave it as it is.
  induction program generalizing crew turns with
  | done value => exact ⟨0, .ok value, isMember⟩
  | fail fault => exact ⟨0, .error fault, isMember⟩
  | perform effect next ih =>
      have hasTurn : ∃ k, turns k = i := by
        obtain ⟨later, -, isTurn⟩ := fair i 0
        exact ⟨later, isTurn⟩
      obtain ⟨isTurn, least⟩ : turns (Nat.find hasTurn) = i ∧ ∀ k < Nat.find hasTurn, turns k ≠ i :=
        ⟨Nat.find_spec hasTurn, fun k before => Nat.find_min hasTurn before⟩
      -- All that matters of the turns that pass the member over is that none of them is its own.
      generalize Nat.find hasTurn = passed at isTurn least
      have waits : i ∉ first turns passed := by
        intro member
        obtain ⟨k, before, taken⟩ := List.mem_map.mp member
        exact least k (List.mem_range.mp before) taken
      have still : (crew.run (first turns passed)).members i = .perform effect next :=
        (members_run_of_not_mem waits).trans isMember
      have one : first turns (passed + 1) = first turns passed ++ [i] := by
        rw [first_add, ← isTurn]
        rfl
      have further : (crew.run (first turns (passed + 1))).members i =
          next ((crew.run (first turns passed)).world.handle effect).1 := by
        rw [one, run_append, run, run, advance, still]
        exact Function.update_self _ _ _
      obtain ⟨k, result, ended⟩ := ih _ _ further (fair.shift (passed + 1))
      refine ⟨passed + 1 + k, result, ?_⟩
      rw [first_add, run_append]
      exact ended

theorem ends_of_fair (crew : Crew α n) {turns : Nat → Fin n} (fair : Fair turns) :
    ∃ k, (crew.run (first turns k)).Ended := by
  -- Each member has its own end; the latest one bounds them all, since an end is not undone.
  choose length results ends using fun i => member_ends_of_fair (crew.members i) crew rfl fair
  obtain ⟨bound, bounded⟩ := Finite.exists_le length
  refine ⟨bound, fun i => ⟨results i, ?_⟩⟩
  rw [← Nat.add_sub_cancel' (bounded i), first_add, run_append]
  exact members_run_of_ended (ends i) _

end Crew

/-- What each of many promises is what the others reckon with. -/
structure Surroundings.Shared (around : Surroundings) (promise : Served → Prop) : Prop where
  refl : ∀ store, around.mayTurn store store
  trans : ∀ store middle after, around.mayTurn store middle → around.mayTurn middle after →
    around.mayTurn store after
  answers : ∀ served : Served, served.Faithful → around.mayAnswer served
  turns : ∀ served : Served, around.holds served.before → served.Faithful → promise served →
    around.mayTurn served.before served.after ∧ around.holds served.after

namespace Crew

variable {around : Surroundings} {promise : Served → Prop} {goal : Fin n → Goal α}
  {crew : Crew α n}

/-- Nobody but the crew acts, and each member ensures its goal from a store that
it has seen, whatever the others have done since. -/
structure Follows (around : Surroundings) (promise : Served → Prop) (goal : Fin n → Goal α)
    (crew : Crew α n) : Prop where
  calm : crew.world.Calm
  holds : around.holds crew.world.store
  each : ∀ i, ∃ seen, around.mayTurn seen crew.world.store ∧
    Program.Ensures around promise (crew.members i) (goal i) seen

/-- What is still to be ensured once some calls are made. -/
def rest (goal : Fin n → Goal α) (made : List (Fin n × Served)) : Fin n → Goal α :=
  fun i result history => goal i result (callsOf i made ++ history)

/-- An effect of a program in a calm world is a turn that the others reckon with,
and what the program ensures goes on from there. -/
theorem turn_of_ensures (shared : around.Shared promise) {world : World} {effect : Effect}
    {next : effect.Reply → Program α} {goal : Goal α} {seen : Store} (calm : world.Calm)
    (holds : around.holds world.store) (turned : around.mayTurn seen world.store)
    (ensured : Program.Ensures around promise (.perform effect next) goal seen) :
    (around.mayTurn world.store (world.handle effect).2.store ∧
      around.holds (world.handle effect).2.store) ∧
      (∀ served ∈ world.callOf effect,
        around.holds served.before ∧ around.mayAnswer served ∧ promise served) ∧
        ∃ seen, around.mayTurn seen (world.handle effect).2.store ∧
          Program.Ensures around promise (next (world.handle effect).1)
            (fun result history => goal result (world.callOf effect ++ history)) seen := by
  cases effect with
  | call request =>
      simp only [Program.Ensures] at ensured
      cases known : request.ref with
      | error mismatch =>
          rw [known] at ensured
          have silent : world.callOf (.call request) = [] := by simp [World.callOf, known]
          have answered : (world.handle (.call request)).1 = .error (.mismatch mismatch) := by
            simp [World.handle, World.answer, calm.direct, World.serve, known]
          rw [calm.store_handle silent, silent, answered]
          exact ⟨⟨shared.refl _, holds⟩, by simp, seen, turned, ensured⟩
      | ok ref =>
          rw [known] at ensured
          obtain ⟨answer, after, isAnswer, isAfter, one, served⟩ := calm.call known
          have faithful : Served.Faithful ⟨request, ref, world.store, answer, after⟩ := served
          obtain ⟨kept, further⟩ := ensured world.store answer after holds turned
            (shared.answers _ faithful)
          obtain ⟨own, holdsAfter⟩ := shared.turns _ holds faithful kept
          rw [isAnswer, isAfter, one]
          refine ⟨⟨own, holdsAfter⟩, fun served member => ?_, after, shared.refl after, further⟩
          rw [List.mem_singleton.mp member]
          exact ⟨holds, shared.answers _ faithful, kept⟩
  | note line => exact ⟨⟨shared.refl _, holds⟩, by simp [World.callOf], seen, turned, ensured⟩
  | draw => exact ⟨⟨shared.refl _, holds⟩, by simp [World.callOf], seen, turned, ensured _⟩
  | pause length => exact ⟨⟨shared.refl _, holds⟩, by simp [World.callOf], seen, turned, ensured⟩
  | lock key action => exact ⟨⟨shared.refl _, holds⟩, by simp [World.callOf], seen, turned, ensured _⟩

theorem callsOf_callBy_of_ne (crew : Crew α n) {i other : Fin n} (different : other ≠ i) :
    callsOf other (crew.callBy i) = [] := by
  unfold callBy
  cases crew.members i <;> simp [callsOf, List.filter_map, Function.comp_def, different.symm]

theorem callsOf_callBy_self {effect : Effect} {next : effect.Reply → Program α} {i : Fin n}
    (performs : crew.members i = .perform effect next) :
    callsOf i (crew.callBy i) = crew.world.callOf effect := by
  simp [callBy, performs, callsOf, List.filter_map, Function.comp_def]

theorem Follows.advance (shared : around.Shared promise) (follows : crew.Follows around promise goal)
    (i : Fin n) :
    (crew.advance i).Follows around promise (rest goal (crew.callBy i)) ∧
      Chained crew.world.store ((crew.callBy i).map Prod.snd) (crew.advance i).world.store ∧
        ∀ call ∈ crew.callBy i,
          around.holds call.2.before ∧ around.mayAnswer call.2 ∧ promise call.2 := by
  obtain ⟨calm, holds, each⟩ := follows
  have idle : ∀ result, crew.members i = Program.ofExcept result →
      crew.advance i = crew ∧ crew.callBy i = [] := by
    intro result ended
    refine ⟨advance_of_ended ended, ?_⟩
    unfold callBy
    rw [ended]
    cases result <;> rfl
  cases performs : crew.members i with
  | done value =>
      obtain ⟨still, silent⟩ := idle (.ok value) performs
      rw [still, silent]
      exact ⟨⟨calm, holds, each⟩, .nil _, nofun⟩
  | fail fault =>
      obtain ⟨still, silent⟩ := idle (.error fault) performs
      rw [still, silent]
      exact ⟨⟨calm, holds, each⟩, .nil _, nofun⟩
  | perform effect next =>
      obtain ⟨seen, turned, ensured⟩ := each i
      rw [performs] at ensured
      obtain ⟨⟨own, holdsAfter⟩, kept, later, turnedLater, further⟩ :=
        turn_of_ensures shared calm holds turned ensured
      have world : (crew.advance i).world = (crew.world.handle effect).2 := by
        simp only [Crew.advance, performs]
      have member : (crew.advance i).members i = next (crew.world.handle effect).1 := by
        simp only [Crew.advance, performs, Function.update_self]
      have called : crew.callBy i = (crew.world.callOf effect).map fun served => (i, served) := by
        simp only [callBy, performs]
      refine ⟨⟨world ▸ calm.handle effect, world ▸ holdsAfter, fun other => ?_⟩, ?_, ?_⟩
      · by_cases same : other = i
        · subst same
          rw [world, member]
          refine ⟨later, turnedLater, further.mono fun result history _ reached => ?_⟩
          rw [rest, callsOf_callBy_self performs]
          exact reached
        · obtain ⟨seen, turned, ensured⟩ := each other
          rw [world, members_advance_of_ne crew same]
          refine ⟨seen, shared.trans _ _ _ turned own, ensured.mono fun result history _ reached => ?_⟩
          rw [rest, callsOf_callBy_of_ne crew same]
          exact reached
      · rw [called, world, List.map_map]
        have unmarked : (crew.world.callOf effect).map
            (Prod.snd ∘ fun served => (i, served)) = crew.world.callOf effect := List.map_id _
        rw [unmarked]
        exact Program.chained_callOf calm effect
      · intro call among
        rw [called] at among
        obtain ⟨served, member, rfl⟩ := List.mem_map.mp among
        exact kept served member

@[simp]
theorem callsOf_append (i : Fin n) (early late : List (Fin n × Served)) :
    callsOf i (early ++ late) = callsOf i early ++ callsOf i late := by
  rw [callsOf, List.filter_append, List.map_append]
  rfl

/-- However the turns are taken, all calls keep their promise and follow one
another, and whoever ends reaches their goal. -/
theorem Follows.run (shared : around.Shared promise) (follows : crew.Follows around promise goal)
    (order : List (Fin n)) :
    (crew.run order).Follows around promise (rest goal (crew.calls order)) ∧
      Chained crew.world.store ((crew.calls order).map Prod.snd) (crew.run order).world.store ∧
        ∀ call ∈ crew.calls order,
          around.holds call.2.before ∧ around.mayAnswer call.2 ∧ promise call.2 := by
  induction order generalizing crew goal with
  | nil => exact ⟨follows, .nil _, nofun⟩
  | cons i order ih =>
      obtain ⟨followsNext, chained, kept⟩ := follows.advance shared i
      obtain ⟨followsLast, chainedRest, keptRest⟩ := ih followsNext
      -- What is still to be ensured after a turn is what the rest of the order starts with.
      have goals : rest (rest goal (crew.callBy i)) ((crew.advance i).calls order) =
          rest goal (crew.calls (i :: order)) := by
        funext other result history
        rw [rest, rest, rest, calls, callsOf_append, List.append_assoc]
      refine ⟨goals ▸ followsLast, ?_, ?_⟩
      · rw [calls, List.map_append]
        exact chained.append chainedRest
      · intro call among
        rcases List.mem_append.mp among with now | later
        · exact kept call now
        · exact keptRest call later

theorem Follows.ended {i : Fin n} {result : Except Fault α}
    (follows : crew.Follows around promise goal) (ended : crew.members i = Program.ofExcept result) :
    ∃ seen, around.mayTurn seen crew.world.store ∧ goal i result [] seen := by
  obtain ⟨seen, turned, ensured⟩ := follows.each i
  rw [ended, Program.ensures_ofExcept] at ensured
  exact ⟨seen, turned, ensured⟩

end Crew
end CuratorKeeper
