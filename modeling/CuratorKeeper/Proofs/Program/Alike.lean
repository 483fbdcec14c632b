import CuratorKeeper.Proofs.Program.Likeness

/-!
# Programs that go by causes

Two stores may word their refusals differently.  A program that goes by the
causes of faults, and not by their wording, makes the same calls over both, and
comes to the same result up to the wording.
-/

namespace CuratorKeeper

def StoreFault.silenced (fault : StoreFault) : StoreFault := { fault with message := "" }

def Fault.silenced : Fault → Fault
  | .store fault => .store fault.silenced
  | .pass operation kind name cause => .pass operation kind name cause.silenced
  | fault => fault

/-- Two results are related, or they are the same fault in other words. -/
inductive SameOutcome {α β : Type} (related : α → β → Prop) : Except Fault α → Except Fault β → Prop
  | ok {value : α} {other : β} (same : related value other) :
      SameOutcome related (.ok value) (.ok other)
  | error {fault other : Fault} (same : fault.silenced = other.silenced) :
      SameOutcome related (.error fault) (.error other)

theorem SameOutcome.refl {α : Type} (result : Except Fault α) : SameOutcome Eq result result := by
  cases result with
  | ok value => exact .ok rfl
  | error fault => exact .error rfl

theorem Fault.refusal?_of_silenced {fault other : Fault} (same : fault.silenced = other.silenced) :
    fault.refusal? = other.refusal? := by
  cases fault <;> cases other <;> simp [silenced, StoreFault.silenced, refusal?] at same ⊢
  exact same.1

theorem StoreFault.during_silenced {fault other : StoreFault}
    (same : fault.silenced = other.silenced) (operation : String) (ref : Ref) :
    (fault.during operation ref).silenced = (other.during operation ref).silenced := by
  simp only [during, Fault.silenced, same]

/-- Nothing differs but the wording of refusals and of what is told of them. -/
def Likeness.wording : Likeness where
  Stage := Unit
  later _ _ := True
  value _ := Eq
  made := Eq
  about _ := True
  fault failure other := failure.silenced = other.silenced
  heard := False
  timed := True
  refl _ := trivial
  trans _ _ := trivial
  keeps _ same := same
  named same := by rw [same]
  reads same _ _ := by rw [same]
  writes same _ _ _ written assigned := ⟨written, same ▸ assigned, rfl⟩
  itself _ _ := rfl
  unfailing _ := rfl
  refusal := Fault.refusal?_of_silenced
  during same := StoreFault.during_silenced (by simpa [Fault.silenced] using same)
  heard_timed := False.elim
  heard_message := False.elim

namespace Program

variable {α β γ δ σ : Type}

/-- Two programs have the same effects up to the wording of log lines, and go on
alike after answers that are the same up to the wording. -/
inductive Alike (related : α → β → Prop) : Program α → Program β → Prop
  | done {value : α} {other : β} (same : related value other) :
      Alike related (.done value) (.done other)
  | fail {fault other : Fault} (same : fault.silenced = other.silenced) :
      Alike related (.fail fault) (.fail other)
  | call {request : Request} {next : Except Fault Value → Program α}
      {rest : Except Fault Value → Program β}
      (further : ∀ answer other, SameOutcome Eq answer other →
        Alike related (next answer) (rest other)) :
      Alike related (.perform (.call request) next) (.perform (.call request) rest)
  | note {line wording : LogLine} {next : Unit → Program α} {rest : Unit → Program β}
      (further : Alike related (next ()) (rest ())) :
      Alike related (.perform (.note line) next) (.perform (.note wording) rest)
  | draw {next : Float → Program α} {rest : Float → Program β}
      (further : ∀ draw, Alike related (next draw) (rest draw)) :
      Alike related (.perform .draw next) (.perform .draw rest)
  | pause {length : Number} {next : Unit → Program α} {rest : Unit → Program β}
      (further : Alike related (next ()) (rest ())) :
      Alike related (.perform (.pause length) next) (.perform (.pause length) rest)

/-- A program that does not heed the wording of faults. -/
abbrev Heedless (program : Program α) : Prop := Alike Eq program program

/-- Programs in which nothing differs but the wording go by causes. -/
theorem Resembles.alike {related : α → β → Prop} {stage : Likeness.wording.Stage}
    {program : Program α} {other : Program β}
    (resembles : Resembles .wording related stage program other) : Alike related program other := by
  induction resembles with
  | done same => exact .done same
  | fail alike => exact .fail alike
  | @call stage request other next rest asks further ih =>
      have same : request = other := by
        cases asks with
        | create made => cases made; rfl
        | get about => rfl
        | update alike part => cases alike; rfl
        | delete about => rfl
      subst same
      refine .call fun answer reply outcome => ih () answer reply trivial ?_
      cases outcome with
      | ok same => exact .ok fun _ => same
      | error same => exact .error same
  | note same further ih => exact .note ih
  | draw further ih => exact .draw fun draw => ih draw draw fun _ => rfl
  | pause same further ih =>
      cases same trivial
      exact .pause ih

end Program

/-- Answer an effect, with calls answered in a way of their own. -/
def World.handleWith (answer : World → Request → Except Fault Value × World) (world : World) :
    (effect : Effect) → effect.Reply × World
  | .call request => answer world request
  | .note line => world.handle (.note line)
  | .draw => world.handle .draw
  | .pause length => world.handle (.pause length)
  | .lock key action => world.handle (.lock key action)

/-- Run a program in a world whose calls are answered in a way of their own. -/
def Program.runWith {α : Type} (answer : World → Request → Except Fault Value × World) :
    Program α → World → Except Fault α × World
  | .done value, world => (.ok value, world)
  | .fail fault, world => (.error fault, world)
  | .perform effect next, world =>
    (next (world.handleWith answer effect).1).runWith answer (world.handleWith answer effect).2

/-- Two worlds differ in nothing but what is written in their logs and how their
store is reached. -/
structure World.Mirrors (world other : World) : Prop where
  store : other.store = world.store
  waiting : other.waiting = world.waiting
  draws : other.draws = world.draws
  locks : other.locks = world.locks
  calls : other.journal.calls = world.journal.calls
  pauses : other.journal.pauses = world.journal.pauses

namespace Program

variable {α β : Type}

theorem run_eq_runWith (program : Program α) (world : World) :
    program.run world = program.runWith World.answer world := by
  induction program generalizing world with
  | done value => rfl
  | fail fault => rfl
  | perform effect next ih =>
      rw [run_perform, runWith, ih]
      cases effect <;> rfl

/-- If two ways of answering agree on the calls of a run, alike programs come to
the same end with them. -/
theorem run_alike {related : α → β → Prop} {program : Program α} {other : Program β}
    (alike : Alike related program other)
    (answer : World → Request → Except Fault Value × World) (invariant : World → Prop)
    (kept : ∀ world effect, invariant world → invariant (world.handle effect).2)
    (promise : Served → Prop)
    (agrees : ∀ world mirror request, invariant world → world.Mirrors mirror →
      (∀ served ∈ world.callOf (.call request), promise served) →
      SameOutcome Eq (world.answer request).1 (answer mirror request).1 ∧
        (world.answer request).2.Mirrors (answer mirror request).2)
    {world mirror : World} (holds : invariant world) (mirrors : world.Mirrors mirror)
    (keeps : ∀ served ∈ program.history world, promise served) :
    SameOutcome related (program.run world).1 (other.runWith answer mirror).1 ∧
      (program.run world).2.Mirrors (other.runWith answer mirror).2 := by
  induction alike generalizing world mirror with
  | done same => exact ⟨.ok same, mirrors⟩
  | fail same => exact ⟨.error same, mirrors⟩
  | @call request next rest further ih =>
      simp only [history, List.mem_append] at keeps
      obtain ⟨same, after⟩ := agrees world mirror request holds mirrors
        fun served member => keeps served (.inl member)
      exact ih _ _ same (kept _ _ holds) after fun served member => keeps served (.inr member)
  | note further ih =>
      refine ih (kept _ _ holds) ?_ keeps
      exact ⟨mirrors.store, mirrors.waiting, mirrors.draws, mirrors.locks, mirrors.calls,
        mirrors.pauses⟩
  | draw further ih =>
      have same : (mirror.handleWith answer .draw).1 = (world.handle .draw).1 := by
        rw [World.handleWith, World.handle, World.handle, mirrors.draws]
      rw [run_perform, runWith, same]
      refine ih _ (kept _ _ holds) ?_ keeps
      exact ⟨mirrors.store, mirrors.waiting, congrArg List.tail mirrors.draws, mirrors.locks,
        mirrors.calls, mirrors.pauses⟩
  | @pause length next rest further ih =>
      refine ih (kept _ (.pause length) holds) ?_ keeps
      exact ⟨mirrors.store, mirrors.waiting, mirrors.draws, mirrors.locks, mirrors.calls,
        congrArg (· ++ [length]) mirrors.pauses⟩

end Program
end CuratorKeeper
