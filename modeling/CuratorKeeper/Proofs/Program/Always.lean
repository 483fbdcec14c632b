import CuratorKeeper.Proofs.Program.Alike
import CuratorKeeper.Proofs.Program.Tells

/-!
# What a program says, whatever it is told

Nothing is known here of the store: it may answer every call with any value or
any fault.  A program is followed through all answers, and what is told of it is
the calls that it makes, with the answers they get, and the lines of interest
that it writes in between.  Whatever is so for all answers is so in every run.
-/

namespace CuratorKeeper

structure Asked where
  request : Request
  answer : Except Fault Value

def Effect.asked : (effect : Effect) → effect.Reply → List Asked
  | .call request, answer => [⟨request, answer⟩]
  | .note _, _ => []
  | .draw, _ => []
  | .pause _, _ => []
  | .lock _ _, _ => []

/-- A statement about the end of a program: its result, the lines of interest that
it wrote and the calls that it made. -/
abbrev Saying (α : Type) : Type := Except Fault α → List LogLine → List Asked → Prop

/-- How a result looks once refusals of the store are values. -/
def caughtOf {α : Type} : Except Fault α → Except Fault (Except StoreFault α)
  | .ok value => .ok (.ok value)
  | .error (.store fault) => .ok (.error fault)
  | .error other => .error other

/-- How the result of a try looks: a conflict makes it stale. -/
def triedOf {σ α : Type} (next : σ) : Except Fault (Attempt σ α) → Except Fault (Attempt σ α)
  | .ok result => .ok result
  | .error (.store fault) =>
    if fault.refusal = .conflict then .ok (.stale fault next) else .error (.store fault)
  | .error other => .error other

theorem caughtOf_other {α : Type} {fault : Fault} (other : ∀ refused, fault ≠ .store refused) :
    caughtOf (.error fault : Except Fault α) = .error fault := by
  cases fault with
  | store refused => exact absurd rfl (other refused)
  | _ => rfl

theorem triedOf_other {σ α : Type} {next : σ} {fault : Fault}
    (other : ∀ refused, fault ≠ .store refused) :
    triedOf next (.error fault : Except Fault (Attempt σ α)) = .error fault := by
  cases fault with
  | store refused => exact absurd rfl (other refused)
  | _ => rfl

namespace Program

variable {α β σ : Type} {ofInterest : LogLine → Bool} {goal weaker : Saying α} {program : Program α}

/-- Through all answers whatever, the end of a program meets the goal. -/
def Always (ofInterest : LogLine → Bool) : Program α → Saying α → Prop
  | .done value, goal => goal (.ok value) [] []
  | .fail fault, goal => goal (.error fault) [] []
  | .perform effect next, goal => ∀ reply, Always ofInterest (next reply) fun result lines asked =>
    goal result (effect.told ofInterest ++ lines) (effect.asked reply ++ asked)

theorem Always.mono (always : program.Always ofInterest goal)
    (enough : ∀ result lines asked, goal result lines asked → weaker result lines asked) :
    program.Always ofInterest weaker := by
  induction program generalizing goal weaker with
  | done value => exact enough _ _ _ always
  | fail fault => exact enough _ _ _ always
  | perform effect next ih => exact fun reply => ih reply (always reply) fun _ _ _ => enough _ _ _

theorem always_done (value : α) : (done value).Always ofInterest goal ↔ goal (.ok value) [] [] :=
  Iff.rfl

theorem always_fail (fault : Fault) :
    (fail fault).Always ofInterest goal ↔ goal (.error fault) [] [] := Iff.rfl

theorem always_ofExcept (result : Except Fault α) :
    (ofExcept result).Always ofInterest goal ↔ goal result [] [] := by
  cases result <;> rfl

theorem always_note (level : Level) (component : Component) (text : String) (goal : Saying Unit) :
    (note level component text).Always ofInterest goal ↔
      goal (.ok ()) ((Effect.note ⟨level, component, text⟩).told ofInterest) [] := by
  simp only [note, Always, Effect.asked, List.append_nil]
  exact ⟨fun always => always (), fun always _ => always⟩

theorem always_ask (request : Request) (goal : Saying Value) :
    (ask request).Always ofInterest goal ↔ ∀ answer, goal answer [] [⟨request, answer⟩] := by
  simp only [ask, Always, always_ofExcept, Effect.told, Effect.asked, List.append_nil]

theorem always_bind (program : Program α) (rest : α → Program β) (goal : Saying β) :
    (program.bind rest).Always ofInterest goal ↔
      program.Always ofInterest fun result lines asked =>
        match result with
        | .ok value => (rest value).Always ofInterest fun result more later =>
            goal result (lines ++ more) (asked ++ later)
        | .error fault => goal (.error fault) lines asked := by
  induction program generalizing goal with
  | done value => rfl
  | fail fault => rfl
  | perform effect next ih =>
      simp only [perform_bind, Always, ih]
      refine forall_congr' fun reply => iff_of_eq (congrArg _ ?_)
      funext result lines asked
      cases result <;> simp only [List.append_assoc]

theorem always_draw_bind (rest : Float → Program α) :
    ((effect .draw).bind rest).Always ofInterest goal ↔
      ∀ draw, (rest draw).Always ofInterest goal := Iff.rfl

theorem always_pause_bind (length : Number) (rest : Unit → Program α) :
    ((effect (.pause length)).bind rest).Always ofInterest goal ↔
      (rest ()).Always ofInterest goal :=
  ⟨fun always => always (), fun always _ => always⟩

theorem always_map (change : α → β) (program : Program α) (goal : Saying β) :
    (change <$> program).Always ofInterest goal ↔
      program.Always ofInterest fun result => goal (result.map change) := by
  have isBind : change <$> program = program.bind fun value => .done (change value) := rfl
  rw [isBind, always_bind]
  refine iff_of_eq (congrArg _ ?_)
  funext result lines asked
  cases result <;> simp [always_done, Except.map]

theorem always_attempt (program : Program α) (goal : Saying (Except Fault α)) :
    program.attempt.Always ofInterest goal ↔
      program.Always ofInterest fun result => goal (.ok result) := by
  induction program generalizing goal with
  | done value => rfl
  | fail fault => rfl
  | perform effect next ih => simp only [attempt, Always, ih]

theorem always_catchStore (program : Program α) (goal : Saying (Except StoreFault α)) :
    program.catchStore.Always ofInterest goal ↔
      program.Always ofInterest fun result => goal (caughtOf result) := by
  rw [catchStore, always_bind, always_attempt]
  refine iff_of_eq (congrArg _ ?_)
  funext result lines asked
  cases result with
  | ok value => simp [caughtOf, always_done]
  | error fault => cases fault <;> simp [caughtOf, always_done, always_fail]

theorem always_ofProgram (next : σ) (program : Program (Attempt σ α)) (goal : Saying (Attempt σ α)) :
    (Attempt.ofProgram next program).Always ofInterest goal ↔
      program.Always ofInterest fun result => goal (triedOf next result) := by
  rw [Attempt.ofProgram, always_bind, always_catchStore]
  refine iff_of_eq (congrArg _ ?_)
  funext result lines asked
  cases result with
  | ok value => simp [caughtOf, triedOf, always_done]
  | error fault =>
      cases fault with
      | store refused =>
          by_cases stale : refused.refusal = .conflict <;>
            simp [caughtOf, triedOf, stale, always_done, always_fail]
      | _ => simp [caughtOf, triedOf]

theorem Quiet.exists_lines {result : Except Fault α} (quiet : Quiet program result) :
    ∃ lines, ∀ goal : Saying α, program.Always ofInterest goal ↔ goal result lines [] := by
  induction quiet with
  | done value => exact ⟨[], fun _ => Iff.rfl⟩
  | fail fault => exact ⟨[], fun _ => Iff.rfl⟩
  | @note line next result quiet ih =>
      obtain ⟨lines, same⟩ := ih
      refine ⟨(Effect.note line).told ofInterest ++ lines, fun goal => ?_⟩
      simp only [Always, same, Effect.asked, List.append_nil]
      exact ⟨fun always => always (), fun always _ => always⟩

/-- A program that makes no calls and writes nothing of interest. -/
abbrev Silent (ofInterest : LogLine → Bool) (program : Program α) : Prop :=
  program.Always ofInterest fun _ lines asked => lines = [] ∧ asked = []

theorem silent_bind {rest : α → Program β} (first : Silent ofInterest program)
    (further : ∀ value, Silent ofInterest (rest value)) : Silent ofInterest (program.bind rest) := by
  rw [Silent, always_bind]
  refine first.mono ?_
  rintro result lines asked ⟨rfl, rfl⟩
  cases result with
  | ok value => exact further value
  | error fault => exact ⟨rfl, rfl⟩

theorem Quiet.always_bind_iff {result : Except Fault α} {rest : α → Program β} {goal : Saying β}
    (quiet : Quiet program result) (silent : Silent ofInterest program) :
    (program.bind rest).Always ofInterest goal ↔
      match result with
      | .ok value => (rest value).Always ofInterest goal
      | .error fault => goal (.error fault) [] [] := by
  obtain ⟨lines, same⟩ := @exists_lines _ ofInterest _ _ quiet
  obtain ⟨rfl, -⟩ := (same _).mp silent
  rw [always_bind, same]
  cases result <;> rfl

section Loading

variable (boring : ∀ level text, ofInterest ⟨level, .desiredState, text⟩ = false)

include boring

theorem silent_read (directory : Directory) (name : String) :
    Silent ofInterest (directory.read name) := by
  unfold Directory.read
  split
  · exact ⟨rfl, rfl⟩
  all_goals
    refine silent_bind ((always_note _ _ _ _).mpr ⟨?_, rfl⟩) fun _ => ⟨rfl, rfl⟩
    simp [Effect.told, boring]

theorem silent_loadFiles (inputs : Inputs) : Silent ofInterest inputs.loadFiles := by
  have texts : ∀ directory files, Silent ofInterest (readTexts directory files) := by
    intro directory files
    induction files with
    | nil => exact ⟨rfl, rfl⟩
    | cons file rest ih =>
        refine silent_bind (silent_read boring directory file.2) fun content => ?_
        refine silent_bind ((always_ofExcept _).mpr ⟨rfl, rfl⟩) fun text => ?_
        exact silent_bind ih fun others => ⟨rfl, rfl⟩
  unfold Inputs.loadFiles
  cases inputs.files with
  | given files => exact ⟨rfl, rfl⟩
  | directory directory => exact silent_bind (texts directory _) fun _ => ⟨rfl, rfl⟩

theorem silent_loadCredentials (inputs : Inputs) : Silent ofInterest inputs.loadCredentials := by
  have contents : ∀ directory files, Silent ofInterest (readBytes directory files) := by
    intro directory files
    induction files with
    | nil => exact ⟨rfl, rfl⟩
    | cons file rest ih =>
        refine silent_bind (silent_read boring directory file.2) fun content => ?_
        exact silent_bind ih fun others => ⟨rfl, rfl⟩
  unfold Inputs.loadCredentials
  cases inputs.credentials with
  | given credentials => exact ⟨rfl, rfl⟩
  | directory directory => exact contents directory _

end Loading

def asked (answer : World → Request → Except Fault Value × World) : Program α → World → List Asked
  | .done _, _ => []
  | .fail _, _ => []
  | .perform effect next, world =>
    let handled := world.handleWith answer effect
    effect.asked handled.1 ++ (next handled.1).asked answer handled.2

/-- What is always so is so in a run, however its calls are answered. -/
theorem Always.runWith (always : program.Always ofInterest goal)
    (answer : World → Request → Except Fault Value × World) (world : World) :
    ∃ lines, goal (program.runWith answer world).1 lines (program.asked answer world) := by
  induction program generalizing goal world with
  | done value => exact ⟨[], always⟩
  | fail fault => exact ⟨[], always⟩
  | perform effect next ih =>
      obtain ⟨lines, reached⟩ := ih _ (always _) (world.handleWith answer effect).2
      exact ⟨_, reached⟩

end Program

/-- The calls of a program as they were asked, and as a store served them amid its
surroundings.  A call that is about no resource does not reach the store. -/
inductive Heard (around : Surroundings) : Store → List Asked → List Served → Store → Prop
  | nil (store : Store) : Heard around store [] [] store
  | stray {request : Request} {mismatch : Mismatch} {store last : Store} {asked : List Asked}
      {history : List Served} (stray : request.ref = .error mismatch)
      (rest : Heard around store asked history last) :
      Heard around store (⟨request, .error (.mismatch mismatch)⟩ :: asked) history last
  | served {served : Served} {store last : Store} {asked : List Asked} {history : List Served}
      (about : served.request.ref = .ok served.ref) (holds : around.holds served.before)
      (turned : around.mayTurn store served.before) (answered : around.mayAnswer served)
      (rest : Heard around served.after asked history last) :
      Heard around store (⟨served.request, served.answer⟩ :: asked) (served :: history) last

namespace Program

variable {α : Type} {ofInterest : LogLine → Bool} {goal : Saying α} {program : Program α}

theorem Always.tells (always : program.Always ofInterest goal) (around : Surroundings)
    (store : Store) :
    Tells ofInterest around (fun _ => True) program (fun result lines history after =>
      ∃ asked, Heard around store asked history after ∧ goal result lines asked) store := by
  induction program generalizing goal store with
  | done value => exact ⟨[], .nil store, always⟩
  | fail fault => exact ⟨[], .nil store, always⟩
  | perform effect next ih =>
      cases effect with
      | call request =>
          rw [Tells, telling_perform rfl]
          simp only [Ensures]
          cases about : request.ref with
          | error mismatch =>
              refine Ensures.mono (ih _ (always (.error (.mismatch mismatch))) store) ?_
              intro ended history after told
              cases ended with
              | error fault => exact told
              | ok result =>
                  obtain ⟨asked, heard, reached⟩ := told
                  exact ⟨_, .stray about heard, reached⟩
          | ok ref =>
              intro before answer after holds turned answered
              refine ⟨trivial, Ensures.mono (ih _ (always answer) after) ?_⟩
              intro ended history last told
              cases ended with
              | error fault => exact told
              | ok result =>
                  obtain ⟨asked, heard, reached⟩ := told
                  let served : Served := ⟨request, ref, before, answer, after⟩
                  exact ⟨_, @Heard.served _ served _ _ _ _ about holds turned answered heard, reached⟩
      | note line =>
          have isBind : (perform (.note line) next) =
              (note line.level line.component line.text).bind next := rfl
          rw [isBind, tells_bind, tells_note]
          refine Tells.mono (ih () (always ()) store) ?_
          rintro result lines history after ⟨asked, heard, reached⟩
          exact ⟨asked, heard, reached⟩
      | draw =>
          rw [Tells, telling_perform rfl]
          exact fun draw => ih _ (always draw) store
      | pause length =>
          rw [Tells, telling_perform rfl]
          exact ih _ (always ()) store
      | lock key action =>
          rw [Tells, telling_perform rfl]
          exact fun reply => ih _ (always reply) store

/-- What is always so is so in a world whose store is reached directly, with the
calls as they were served there and the lines of interest as they are logged. -/
theorem Always.run (always : program.Always ofInterest goal) {world : World}
    (direct : world.gateway = none) (sound : world.store.Sound) :
    ∃ lines asked, (program.run world).2.journal.lines.filter ofInterest =
        world.journal.lines.filter ofInterest ++ lines ∧
      Heard .disturbed world.store asked (program.history world) (program.run world).2.store ∧
      goal (program.run world).1 lines asked := by
  obtain ⟨lines, logged, asked, heard, reached⟩ := run_of_tells
    (Surroundings.disturbed_covers _ direct) sound (always.tells .disturbed world.store)
  exact ⟨lines, asked, logged, heard, reached⟩

end Program
end CuratorKeeper
