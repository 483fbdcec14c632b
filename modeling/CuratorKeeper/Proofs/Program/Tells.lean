import CuratorKeeper.Proofs.Program.Ensures

/-!
# What a program tells

Besides its calls a program writes log lines.  Some of them are of interest: they
are collected beside the result, so that what a program tells is followed through
all answers together with what it ensures.  Loops of tries write lines of their
own, which are not of interest here.
-/

namespace CuratorKeeper

def Effect.told (ofInterest : LogLine → Bool) : Effect → List LogLine
  | .note line => if ofInterest line then [line] else []
  | _ => []

/-- A statement about the end of a program that also speaks of the lines that it
has told. -/
abbrev ToldGoal (α : Type) : Type :=
  Except Fault α → List LogLine → List Served → Store → Prop

namespace Program

variable {α β σ : Type} {ofInterest : LogLine → Bool}

/-- A program that hands over its result, whatever it is, with the lines of
interest that it has written. -/
def telling (ofInterest : LogLine → Bool) :
    Program α → Program (Except Fault α × List LogLine)
  | .done value => .done (.ok value, [])
  | .fail fault => .done (.error fault, [])
  | .perform effect next => .perform effect fun reply =>
    ((next reply).telling ofInterest).bind fun told =>
      .done (told.1, effect.told ofInterest ++ told.2)

theorem telling_perform {effect : Effect} (silent : effect.told ofInterest = [])
    (next : effect.Reply → Program α) :
    (perform effect next).telling ofInterest =
      .perform effect fun reply => (next reply).telling ofInterest := by
  have same : ∀ told : Except Fault α × List LogLine, (told.1, [] ++ told.2) = told := fun _ => rfl
  simp only [telling, silent, same, bind_done]

theorem telling_bind (program : Program α) (rest : α → Program β) :
    (program.bind rest).telling ofInterest = (program.telling ofInterest).bind fun told =>
      match told.1 with
      | .ok value => ((rest value).telling ofInterest).bind fun more =>
          .done (more.1, told.2 ++ more.2)
      | .error fault => .done (.error fault, told.2) := by
  induction program with
  | done value => exact (bind_done _).symm
  | fail fault => rfl
  | perform effect next ih =>
      simp only [perform_bind, telling, ih, bind_assoc]
      congr 1
      funext reply
      congr 1
      funext told
      obtain ⟨result, lines⟩ := told
      cases result <;> simp [bind_assoc]

theorem telling_attempt (program : Program α) :
    program.attempt.telling ofInterest = (program.telling ofInterest).bind fun told =>
      .done (.ok told.1, told.2) := by
  induction program with
  | done value => rfl
  | fail fault => rfl
  | perform effect next ih => simp only [attempt, telling, ih, bind_assoc, done_bind, perform_bind]

theorem lines_serve (world : World) (request : Request) :
    (world.serve request).2.journal.lines = world.journal.lines := by
  unfold World.serve
  cases request.ref with
  | error mismatch => rfl
  | ok ref =>
      simp only
      split <;> rfl

theorem lines_handle (world : World) (effect : Effect) :
    (world.handle effect).2.journal.lines.filter ofInterest =
      world.journal.lines.filter ofInterest ++ effect.told ofInterest := by
  cases effect with
  | note line =>
      cases matters : ofInterest line <;>
        simp [World.handle, World.noteLine, Effect.told, matters, List.filter_append]
  | call request =>
      have unchanged : (world.answer request).2.journal.lines = world.journal.lines := by
        unfold World.answer World.serveThrough
        split
        · exact lines_serve world request
        · split
          · rfl
          · exact lines_serve world _
      simp [World.handle, unchanged, Effect.told]
  | draw => simp [World.handle, Effect.told]
  | pause length => simp [World.handle, World.notePause, Effect.told]
  | lock key action => simp [World.handle, Effect.told]

theorem run_telling (program : Program α) (world : World) :
    ∃ told, (program.telling ofInterest).run world =
        (.ok ((program.run world).1, told), (program.run world).2) ∧
      (program.run world).2.journal.lines.filter ofInterest =
        world.journal.lines.filter ofInterest ++ told := by
  induction program generalizing world with
  | done value => exact ⟨[], rfl, by simp⟩
  | fail fault => exact ⟨[], rfl, by simp⟩
  | perform effect next ih =>
      obtain ⟨told, ran, lines⟩ := ih (world.handle effect).1 (world.handle effect).2
      refine ⟨effect.told ofInterest ++ told, ?_, ?_⟩
      · rw [telling, run_perform, run_bind, ran]
        rfl
      · rw [run_perform, lines, lines_handle, List.append_assoc]

theorem history_bind_done (program : Program α) (change : α → β) (world : World) :
    (program.bind fun value => .done (change value)).history world = program.history world := by
  induction program generalizing world with
  | done value => rfl
  | fail fault => rfl
  | perform effect next ih => simp only [perform_bind, history, ih]

theorem history_telling (program : Program α) (world : World) :
    (program.telling ofInterest).history world = program.history world := by
  induction program generalizing world with
  | done value => rfl
  | fail fault => rfl
  | perform effect next ih => simp only [telling, history, history_bind_done, ih]

/-- Through all allowed answers, every call of a program keeps the promise, and
its end with what it has told meets the goal. -/
def Tells (ofInterest : LogLine → Bool) (around : Surroundings) (promise : Served → Prop)
    (program : Program α) (goal : ToldGoal α) (store : Store) : Prop :=
  Ensures around promise (program.telling ofInterest) (fun ended history after =>
    match ended with
    | .ok told => goal told.1 told.2 history after
    | .error _ => False) store

variable {around : Surroundings} {promise : Served → Prop} {program : Program α} {store : Store}

theorem Tells.mono {goal weaker : ToldGoal α}
    (tells : Tells ofInterest around promise program goal store)
    (enough : ∀ result lines history after, goal result lines history after →
      weaker result lines history after) :
    Tells ofInterest around promise program weaker store := by
  refine Ensures.mono tells fun ended history after reached => ?_
  cases ended with
  | ok told => exact enough _ _ _ _ reached
  | error fault => exact reached

/-- What a program ensures and tells is so in every world that its surroundings
cover; the lines of interest are found in the journal. -/
theorem run_of_tells {goal : ToldGoal α} {world : World} (covers : around.Covers promise world)
    (holds : around.holds world.store)
    (tells : Tells ofInterest around promise program goal world.store) :
    ∃ told, (program.run world).2.journal.lines.filter ofInterest =
        world.journal.lines.filter ofInterest ++ told ∧
      goal (program.run world).1 told (program.history world) (program.run world).2.store := by
  obtain ⟨told, ran, lines⟩ := run_telling program world
  obtain ⟨-, -, reached⟩ := run_of_ensures covers holds tells
  rw [ran, history_telling] at reached
  exact ⟨told, lines, reached⟩

theorem tells_done (value : α) (goal : ToldGoal α) :
    Tells ofInterest around promise (done value) goal store ↔ goal (.ok value) [] [] store := Iff.rfl

theorem tells_fail (fault : Fault) (goal : ToldGoal α) :
    Tells ofInterest around promise (fail fault) goal store ↔ goal (.error fault) [] [] store :=
  Iff.rfl

theorem tells_ofExcept (result : Except Fault α) (goal : ToldGoal α) :
    Tells ofInterest around promise (ofExcept result) goal store ↔ goal result [] [] store := by
  cases result <;> rfl

theorem tells_note (level : Level) (component : Component) (text : String) (goal : ToldGoal Unit) :
    Tells ofInterest around promise (note level component text) goal store ↔
      goal (.ok ()) (if ofInterest ⟨level, component, text⟩ then [⟨level, component, text⟩] else [])
        [] store := by
  simp [Tells, note, telling, Effect.told, Ensures]

theorem tells_ask {request : Request} {ref : Ref} (about : request.ref = .ok ref)
    (goal : ToldGoal Value) :
    Tells ofInterest around promise (ask request) goal store ↔
      ∀ before answer after, around.holds before → around.mayTurn store before →
        around.mayAnswer ⟨request, ref, before, answer, after⟩ →
        promise ⟨request, ref, before, answer, after⟩ ∧
          goal answer [] [⟨request, ref, before, answer, after⟩] after := by
  have silent : ∀ answer : Except Fault Value,
      ((ofExcept answer).telling ofInterest).bind (fun told =>
        .done (told.1, (Effect.call request).told ofInterest ++ told.2)) = .done (answer, []) := by
    intro answer
    cases answer <;> rfl
  simp only [Tells, ask, telling, silent, Ensures, about]

theorem tells_bind (program : Program α) (rest : α → Program β) (goal : ToldGoal β) :
    Tells ofInterest around promise (program.bind rest) goal store ↔
      Tells ofInterest around promise program (fun result lines history after =>
        match result with
        | .ok value => Tells ofInterest around promise (rest value)
            (fun result more later => goal result (lines ++ more) (history ++ later)) after
        | .error fault => goal (.error fault) lines history after) store := by
  rw [Tells, telling_bind, ensures_bind]
  refine iff_of_eq (congrArg
    (fun ended => Ensures around promise (program.telling ofInterest) ended store) ?_)
  funext ended history after
  cases ended with
  | error fault => rfl
  | ok told =>
      obtain ⟨result, lines⟩ := told
      cases result with
      | error fault => simp
      | ok value =>
          refine propext ((ensures_map (fun more : Except Fault β × List LogLine =>
            (more.1, lines ++ more.2)) ((rest value).telling ofInterest) _ after).trans ?_)
          refine iff_of_eq (congrArg
            (fun ended => Ensures around promise ((rest value).telling ofInterest) ended after) ?_)
          funext ended later last
          cases ended <;> rfl

theorem tells_draw_bind (rest : Float → Program α) (goal : ToldGoal α) :
    Tells ofInterest around promise ((effect .draw).bind rest) goal store ↔
      ∀ draw, Tells ofInterest around promise (rest draw) goal store := by
  rw [Tells, effect, perform_bind, telling_perform rfl]
  rfl

theorem tells_pause_bind (length : Number) (rest : Unit → Program α) (goal : ToldGoal α) :
    Tells ofInterest around promise ((effect (.pause length)).bind rest) goal store ↔
      Tells ofInterest around promise (rest ()) goal store := by
  rw [Tells, effect, perform_bind, telling_perform rfl]
  rfl

theorem tells_map (change : α → β) (program : Program α) (goal : ToldGoal β) :
    Tells ofInterest around promise (change <$> program) goal store ↔
      Tells ofInterest around promise program (fun result => goal (result.map change)) store := by
  have isBind : change <$> program = program.bind fun value => .done (change value) := rfl
  rw [isBind, tells_bind]
  refine iff_of_eq (congrArg (fun ended => Tells ofInterest around promise program ended store) ?_)
  funext result lines history after
  cases result with
  | ok value => simp [tells_done, Except.map]
  | error fault => rfl

theorem tells_attempt (program : Program α) (goal : ToldGoal (Except Fault α)) :
    Tells ofInterest around promise program.attempt goal store ↔
      Tells ofInterest around promise program (fun result => goal (.ok result)) store := by
  rw [Tells, telling_attempt]
  refine (ensures_map (fun told : Except Fault α × List LogLine => (Except.ok told.1, told.2))
    (program.telling ofInterest) _ store).trans ?_
  refine iff_of_eq (congrArg
    (fun ended => Ensures around promise (program.telling ofInterest) ended store) ?_)
  funext ended history after
  cases ended <;> rfl

/-- How the end of a program looks once refusals of the store are values. -/
def toldCaught (goal : ToldGoal (Except StoreFault α)) : ToldGoal α
  | .ok value => goal (.ok (.ok value))
  | .error (.store fault) => goal (.ok (.error fault))
  | .error other => goal (.error other)

theorem tells_catchStore (program : Program α) (goal : ToldGoal (Except StoreFault α)) :
    Tells ofInterest around promise program.catchStore goal store ↔
      Tells ofInterest around promise program (toldCaught goal) store := by
  rw [catchStore, tells_bind, tells_attempt]
  refine iff_of_eq (congrArg (fun ended => Tells ofInterest around promise program ended store) ?_)
  funext result lines history after
  cases result with
  | ok value => simp [toldCaught, tells_done]
  | error fault => cases fault <;> simp [toldCaught, tells_done, tells_fail]

def toldTried (next : σ) (goal : ToldGoal (Attempt σ α)) : ToldGoal (Attempt σ α)
  | .error (.store fault) =>
    if fault.refusal = .conflict then goal (.ok (.stale fault next)) else goal (.error (.store fault))
  | result => goal result

theorem tells_ofProgram (next : σ) (program : Program (Attempt σ α)) (goal : ToldGoal (Attempt σ α)) :
    Tells ofInterest around promise (Attempt.ofProgram next program) goal store ↔
      Tells ofInterest around promise program (toldTried next goal) store := by
  rw [Attempt.ofProgram, tells_bind, tells_catchStore]
  refine iff_of_eq (congrArg (fun ended => Tells ofInterest around promise program ended store) ?_)
  funext result lines history after
  cases result with
  | ok value => simp [toldCaught, toldTried, tells_done]
  | error fault =>
      cases fault with
      | store refused =>
          by_cases stale : refused.refusal = .conflict <;>
            simp [toldCaught, toldTried, stale, tells_done, tells_fail]
      | _ => simp [toldCaught, toldTried]

/-- A loop of tries whose own lines are not of interest keeps an invariant from
try to try and comes to its goal when a try settles, fails or is the last one. -/
theorem tells_retryFrom (boring : ∀ level text, ofInterest ⟨level, .retry, text⟩ = false)
    {budget : Budget} {attempt : σ → Program (Attempt σ α)} {goal : ToldGoal α}
    (invariant : Nat → σ → List LogLine → List Served → Store → Prop)
    (trying : ∀ left start lines past store, invariant left start lines past store →
      Tells ofInterest around promise (attempt start) (fun result told more store =>
        match result with
        | .ok (.settled value) => goal (.ok value) (lines ++ told) (past ++ more) store
        | .ok (.stale conflict next) =>
          (left = 0 → goal (.error (.store conflict)) (lines ++ told) (past ++ more) store) ∧
            (budget.flaw ≠ none →
              goal (.error (.mismatch .unsuited)) (lines ++ told) (past ++ more) store) ∧
            ∀ fewer, left = fewer + 1 →
              invariant fewer next (lines ++ told) (past ++ more) store
        | .error fault => goal (.error fault) (lines ++ told) (past ++ more) store) store)
    (left tries : Nat) (delay : Number) (start : σ) (lines : List LogLine) (past : List Served)
    (store : Store) (ready : invariant left start lines past store) :
    Tells ofInterest around promise (retryFrom budget attempt left tries delay start)
      (fun result told more => goal result (lines ++ told) (past ++ more)) store := by
  -- A stale try costs a pause, so the induction is on how many are left.
  induction left generalizing tries delay start lines past store with
  | zero =>
      rw [retryFrom, bind_eq, tells_bind]
      apply (trying 0 start lines past store ready).mono
      intro result told more store ended
      cases result with
      | error fault => exact ended
      | ok outcome =>
          cases outcome with
          | settled value => simpa [tells_done] using ended
          | stale conflict next =>
              obtain ⟨exhausted, flawed, -⟩ := ended
              rcases budget.check_cases tries 0 with passed | ⟨flaw, failed⟩
              · simpa [passed, ofExcept, noteExhausted, tells_bind, tells_note, tells_fail, boring,
                  Except.mapError] using exhausted rfl
              · simpa [failed, ofExcept, tells_fail, Except.mapError] using flawed flaw
  | succ left ih =>
      rw [retryFrom, bind_eq, tells_bind]
      apply (trying (left + 1) start lines past store ready).mono
      intro result told more store ended
      cases result with
      | error fault => exact ended
      | ok outcome =>
          cases outcome with
          | settled value => simpa [tells_done] using ended
          | stale conflict next =>
              obtain ⟨-, flawed, again⟩ := ended
              rcases budget.check_cases tries (left + 1) with passed | ⟨flaw, failed⟩
              · simp only [passed, Except.mapError, liftM_mismatch, ofExcept, bind_eq, done_bind]
                rw [tells_draw_bind]
                intro draw
                rw [noteRetry, tells_bind, tells_note]
                simp only [boring, Bool.false_eq_true, if_false, List.nil_append]
                rw [tells_pause_bind]
                have continued := ih (tries + 1) (delay * budget.backoff.factor) next
                  (lines ++ told) (past ++ more) store (again left rfl)
                simp only [List.append_assoc] at continued
                exact continued
              · simpa [failed, ofExcept, tells_fail, Except.mapError] using flawed flaw

/-- What a program ensures without regard to what it tells. -/
theorem tells_iff_ensures (program : Program α) (goal : Goal α) :
    Tells ofInterest around promise program (fun result _ history after => goal result history after)
      store ↔ Ensures around promise program goal store := by
  induction program generalizing goal store with
  | done value => rfl
  | fail fault => rfl
  | perform effect next ih =>
      have further : ∀ (reply : effect.Reply) (goal : Goal α) (store : Store),
          Ensures around promise (((next reply).telling ofInterest).bind fun told =>
            .done (told.1, effect.told ofInterest ++ told.2)) (fun ended history after =>
              match ended with
              | .ok told => goal told.1 history after
              | .error _ => False) store ↔ Ensures around promise (next reply) goal store := by
        intro reply goal store
        rw [← ih reply goal]
        refine (ensures_map (fun told : Except Fault α × List LogLine =>
          (told.1, effect.told ofInterest ++ told.2)) _ _ store).trans ?_
        refine iff_of_eq (congrArg
          (fun ended => Ensures around promise ((next reply).telling ofInterest) ended store) ?_)
        funext ended history after
        cases ended <;> rfl
      cases effect with
      | call request =>
          simp only [Tells, telling, Ensures]
          cases request.ref with
          | error mismatch => exact further _ goal store
          | ok ref =>
              refine forall_congr' fun before => forall_congr' fun answer => forall_congr' fun after =>
                forall_congr' fun _ => forall_congr' fun _ => forall_congr' fun _ => ?_
              refine and_congr_right fun _ => further answer (fun result history =>
                goal result (⟨request, ref, before, answer, after⟩ :: history)) after
      | note line => exact further () goal store
      | draw => exact forall_congr' fun draw => further draw goal store
      | pause length => exact further () goal store
      | lock key action => exact forall_congr' fun reply => further reply goal store

/-- A loop of tries keeps an invariant from try to try, which may depend on how
many pauses are left, and comes to its goal when a try settles, fails or is the
last one. -/
theorem ensures_retryFrom {budget : Budget} {attempt : σ → Program (Attempt σ α)}
    {goal : Goal α} (invariant : Nat → σ → List Served → Store → Prop)
    (trying : ∀ left start past store, invariant left start past store →
      Ensures around promise (attempt start) (fun result more store =>
        match result with
        | .ok (.settled value) => goal (.ok value) (past ++ more) store
        | .ok (.stale conflict next) =>
          (left = 0 → goal (.error (.store conflict)) (past ++ more) store) ∧
            (budget.flaw ≠ none → goal (.error (.mismatch .unsuited)) (past ++ more) store) ∧
            ∀ fewer, left = fewer + 1 → invariant fewer next (past ++ more) store
        | .error fault => goal (.error fault) (past ++ more) store) store)
    (left tries : Nat) (delay : Number) (start : σ) (past : List Served) (store : Store)
    (ready : invariant left start past store) :
    Ensures around promise (retryFrom budget attempt left tries delay start)
      (fun result more => goal result (past ++ more)) store := by
  have boring : ∀ level text, (fun _ : LogLine => false) ⟨level, .retry, text⟩ = false :=
    fun _ _ => rfl
  rw [← @tells_iff_ensures _ (fun _ => false)]
  refine @tells_retryFrom _ _ _ _ _ boring budget attempt
    (fun result _ history after => goal result history after)
    (fun left start _ past store => invariant left start past store) ?_ left tries delay start []
    past store ready
  intro left start _ past store ready
  have trial := trying left start past store ready
  rw [← @tells_iff_ensures _ (fun _ => false)] at trial
  exact trial

end Program
end CuratorKeeper
