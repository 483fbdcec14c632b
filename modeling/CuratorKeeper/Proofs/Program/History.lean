import CuratorKeeper.Proofs.Store.Evolution
import CuratorKeeper.Store.World

/-!
# The calls of a run

Running a program in a world whose store is reached directly makes a row of
calls.  Each is kept with the resources just before it was served, after all
foreign deeds that came in between, and with those just after.  The journal of
the world notes the same calls.
-/

namespace CuratorKeeper

/-- A call as it was served. -/
structure Served where
  request : Request
  ref : Ref
  /-- The store at the moment of serving, after the foreign deeds before it. -/
  before : Store
  answer : Except Fault Value
  after : Store

namespace Served

def note (served : Served) : CallNote :=
  ⟨served.request.verb, served.request.part?, served.ref⟩

/-- The store did what the call asked for. -/
def Accepted (served : Served) : Prop := ∃ value, served.answer = .ok value

def Faithful (served : Served) : Prop :=
  served.before.serve served.ref served.request = (served.answer, served.after)

/-- The call failed before the store came to serve it. -/
def Injected (served : Served) : Prop :=
  (∃ fault, served.answer = .error fault) ∧ served.after = served.before

theorem Faithful.turn {served : Served} (faithful : served.Faithful) :
    Store.Turn served.before served.after := by
  have turn := Store.serve_turn served.before served.ref served.request
  rwa [show served.before.serve served.ref served.request = _ from faithful] at turn

theorem Accepted.faithful {served : Served} (accepted : served.Accepted)
    (answered : served.Faithful ∨ served.Injected) : served.Faithful := by
  rcases answered with faithful | ⟨⟨fault, failed⟩, -⟩
  · exact faithful
  · obtain ⟨value, succeeded⟩ := accepted
    rw [failed] at succeeded
    cases succeeded

end Served

/-- Calls that follow one another with nothing in between. -/
inductive Chained : Store → List Served → Store → Prop
  | nil (store : Store) : Chained store [] store
  | cons {served : Served} {rest : List Served} {last : Store}
      (chained : Chained served.after rest last) : Chained served.before (served :: rest) last

theorem Chained.append {store middle after : Store} {early late : List Served}
    (first : Chained store early middle) (rest : Chained middle late after) :
    Chained store (early ++ late) after := by
  induction first with
  | nil => exact rest
  | cons chained ih => exact .cons (ih rest)

namespace World

/-- The store is reached directly, and nobody else comes to it. -/
structure Calm (world : World) : Prop where
  direct : world.gateway = none
  undisturbed : ∀ verb, world.waiting verb = []

def callOf (world : World) : Effect → List Served
  | .call request =>
    match request.ref with
    | .error _ => []
    | .ok ref =>
      let disturbances := (world.waiting request.verb).headD []
      [{  request
          ref
          before := (world.store.disturbAll ref disturbances).2
          answer := (world.serve request).1
          after := (world.serve request).2.store }]
  | _ => []

theorem gateway_serve (world : World) (request : Request) :
    (world.serve request).2.gateway = world.gateway := by
  unfold World.serve
  cases request.ref with
  | error mismatch => rfl
  | ok ref =>
      simp only
      split <;> rfl

theorem gateway_handle {world : World} (direct : world.gateway = none) (effect : Effect) :
    (world.handle effect).2.gateway = none := by
  cases effect with
  | call request =>
      simp only [handle, answer, direct]
      rw [gateway_serve, direct]
  | _ => exact direct

theorem Calm.call {world : World} (calm : world.Calm) {request : Request} {ref : Ref}
    (about : request.ref = .ok ref) :
    ∃ answer after, (world.handle (.call request)).1 = answer ∧
      (world.handle (.call request)).2.store = after ∧
        world.callOf (.call request) = [⟨request, ref, world.store, answer, after⟩] ∧
          world.store.serve ref request = (answer, after) := by
  obtain ⟨direct, undisturbed⟩ := calm
  refine ⟨_, _, rfl, rfl, ?_, ?_⟩
  · simp [World.handle, answer, direct, callOf, about, undisturbed, Store.disturbAll]
  · simp [World.handle, answer, direct, World.serve, about, undisturbed, Store.disturbAll]

theorem Calm.handle {world : World} (calm : world.Calm) (effect : Effect) :
    (world.handle effect).2.Calm := by
  obtain ⟨direct, undisturbed⟩ := calm
  refine ⟨gateway_handle direct effect, fun verb => ?_⟩
  cases effect with
  | call request =>
      cases known : request.ref <;>
        simp [World.handle, answer, direct, World.serve, known, undisturbed, Store.disturbAll,
          noteCall, takeWaiting]
  | _ => exact undisturbed verb

theorem Calm.store_handle {world : World} (calm : world.Calm) {effect : Effect}
    (silent : world.callOf effect = []) : (world.handle effect).2.store = world.store := by
  cases effect with
  | call request =>
      cases known : request.ref with
      | error mismatch => simp [World.handle, answer, calm.direct, World.serve, known]
      | ok ref => simp [callOf, known] at silent
  | _ => rfl

end World

def Program.history {α : Type} : Program α → World → List Served
  | .done _, _ => []
  | .fail _, _ => []
  | .perform effect next, world =>
    let handled := world.handle effect
    world.callOf effect ++ (next handled.1).history handled.2

namespace Program

variable {α β : Type}

theorem gateway_run (program : Program α) {world : World} (direct : world.gateway = none) :
    (program.run world).2.gateway = none := by
  induction program generalizing world with
  | done value => exact direct
  | fail fault => exact direct
  | perform effect next ih => exact ih _ (World.gateway_handle direct effect)

theorem calm_run (program : Program α) {world : World} (calm : world.Calm) :
    (program.run world).2.Calm := by
  induction program generalizing world with
  | done value => exact calm
  | fail fault => exact calm
  | perform effect next ih => exact ih _ (calm.handle effect)

theorem chained_callOf {world : World} (calm : world.Calm) (effect : Effect) :
    Chained world.store (world.callOf effect) (world.handle effect).2.store := by
  cases called : world.callOf effect with
  | nil =>
      rw [calm.store_handle called]
      exact .nil _
  | cons served others =>
      cases effect with
      | call request =>
          cases known : request.ref with
          | error mismatch => simp [World.callOf, known] at called
          | ok ref =>
              obtain ⟨answer, after, -, isAfter, one, -⟩ := calm.call known
              rw [← called, one, isAfter]
              exact @Chained.cons ⟨request, ref, world.store, answer, after⟩ [] after (.nil _)
      | _ => cases called

/-- In a calm world the calls of a run follow one another. -/
theorem chained_history (program : Program α) {world : World} (calm : world.Calm) :
    Chained world.store (program.history world) (program.run world).2.store := by
  induction program generalizing world with
  | done value => exact .nil _
  | fail fault => exact .nil _
  | perform effect next ih =>
      rw [history, run_perform]
      exact (chained_callOf calm effect).append (ih _ (calm.handle effect))

/-- The journal notes the calls of a run, in order. -/
theorem journal_calls_run (program : Program α) (world : World) (direct : world.gateway = none) :
    (program.run world).2.journal.calls =
      world.journal.calls ++ (program.history world).map Served.note := by
  induction program generalizing world with
  | done value => simp [history]
  | fail fault => simp [history]
  | perform effect next ih =>
      have noted : (world.handle effect).2.journal.calls =
          world.journal.calls ++ (world.callOf effect).map Served.note := by
        cases effect with
        | call request =>
            simp only [World.handle, World.answer, direct, World.serve, World.callOf]
            cases request.ref with
            | error mismatch => simp
            | ok ref =>
                simp only
                split <;> simp [World.noteCall, World.takeWaiting, Served.note]
        | _ => simp [World.handle, World.callOf, World.noteLine, World.notePause]
      rw [run_perform, ih _ _ (World.gateway_handle direct effect), noted, history, List.map_append,
        List.append_assoc]

end Program
end CuratorKeeper
