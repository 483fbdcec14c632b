import CuratorKeeper.Gateway.Exchange
import CuratorKeeper.Store.Disturbance
import CuratorKeeper.Store.Locks

/-! # Running programs

A world holds a store, the disturbances that wait for calls, the numbers that the random source
will yield, the locks, and a journal of everything that was done. Running a program in a world
answers its effects one by one.
-/
namespace CuratorKeeper

/-- A call as it is noted: the verb, the part that is updated, and the resource. -/
structure CallNote where
  verb : Verb
  part : Option String
  ref : Ref
  deriving DecidableEq

/-- A call as a line; a part without a name is not told. -/
def CallNote.display (call : CallNote) : String :=
  let part := match call.part with
    | none | some "" => ""
    | some part => ":" ++ part
  call.verb.text ++ part ++ " " ++ call.ref.display

/-- What was done, in order. -/
structure Journal where
  calls : List CallNote := []
  lines : List LogLine := []
  pauses : List Number := []

/-- Everything around a program. -/
structure World where
  store : Store := {}
  /-- The disturbances that wait for the next calls of a verb, a list for each call. -/
  waiting : Verb → List (List Disturbance) := fun _ => []
  draws : List Float := []
  locks : LockTable := {}
  journal : Journal := {}
  /-- The settings of the gateway, if the store is reached through one. -/
  gateway : Option Settings := none
  /-- The library whose clients the gateway calls. -/
  library : ClientLibrary := .usual

namespace World

def noteCall (world : World) (call : CallNote) : World :=
  { world with journal := { world.journal with calls := world.journal.calls ++ [call] } }

def noteLine (world : World) (line : LogLine) : World :=
  { world with journal := { world.journal with lines := world.journal.lines ++ [line] } }

def notePause (world : World) (length : Number) : World :=
  { world with journal := { world.journal with pauses := world.journal.pauses ++ [length] } }

/-- Let the disturbances of the next call of a verb wait no longer. -/
def takeWaiting (world : World) (verb : Verb) : World :=
  { world with
    waiting := fun other =>
      if other = verb then (world.waiting verb).tail else world.waiting other }

/-- Serve a request from the store: it is noted, what waits for it happens, then it is served. -/
def serve (world : World) (request : Request) : Except Fault Value × World :=
  match request.ref with
  | .error mismatch => (.error (.mismatch mismatch), world)
  | .ok ref =>
    let disturbances := (world.waiting request.verb).headD []
    let noted := (world.noteCall ⟨request.verb, request.part?, ref⟩).takeWaiting request.verb
    match world.store.disturbAll ref disturbances with
    | (.error fault, store) => (.error fault, { noted with store })
    | (.ok (), store) =>
      let served := store.serve ref request
      (served.1, { noted with store := served.2 })

/-- The status that the API gives a refusal of the store. -/
def statusOf (fault : StoreFault) : Value :=
  if fault.refusal = .notFound then 404 else fault.status

/-- The reason that the API gives a refusal of the store. -/
def reasonOf (verb : Verb) (fault : StoreFault) : String :=
  if (statusOf fault).same 404 then "NotFound"
  else if (statusOf fault).same 409 then
    if verb = .create then "AlreadyExists" else "Conflict"
  else fault.message

/-- The reply of an API that is served from the store. -/
def replyOf (verb : Verb) : Except Fault Value → Except Fault Reply
  | .ok value => .ok (.returned value)
  | .error (.store fault) => .ok (.refused (statusOf fault) (.text (reasonOf verb fault)))
  | .error other => .error other

/-- Serve a request through the gateway, over an API that is served from the store. -/
def serveThrough (world : World) (settings : Settings) (request : Request) :
    Except Fault Value × World :=
  match Gateway.plan settings request world.library with
  | .error fault => (.error fault, world)
  | .ok exchange =>
    let served := world.serve exchange.request
    ((replyOf request.verb served.1).bind fun reply => Gateway.answer exchange reply world.library,
      served.2)

def answer (world : World) (request : Request) : Except Fault Value × World :=
  match world.gateway with
  | none => world.serve request
  | some settings => world.serveThrough settings request

/-- Answer an effect; a pause of whatever length is slept. -/
def handle (world : World) : (effect : Effect) → effect.Reply × World
  | .call request => world.answer request
  | .note line => ((), world.noteLine line)
  | .draw => (world.draws.headD 0.0, { world with draws := world.draws.tail })
  | .pause length => ((), world.notePause length)
  | .lock key action =>
    let acted := world.locks.act key action
    (acted.1, { world with locks := acted.2 })

end World

def Program.run {α : Type} : Program α → World → Except Fault α × World
  | .done value, world => (.ok value, world)
  | .fail fault, world => (.error fault, world)
  | .perform effect next, world =>
    let handled := world.handle effect
    (next handled.1).run handled.2

namespace Program

variable {α β : Type}

@[simp]
theorem run_done (value : α) (world : World) : (done value).run world = (.ok value, world) := rfl

@[simp]
theorem run_fail (fault : Fault) (world : World) :
    (fail fault : Program α).run world = (.error fault, world) := rfl

theorem run_perform (effect : Effect) (next : effect.Reply → Program α) (world : World) :
    (perform effect next).run world =
      (next (world.handle effect).1).run (world.handle effect).2 := rfl

theorem run_bind (program : Program α) (rest : α → Program β) (world : World) :
    (program.bind rest).run world =
      match program.run world with
      | (.ok value, after) => (rest value).run after
      | (.error fault, after) => (.error fault, after) := by
  induction program generalizing world with
  | done value => rfl
  | fail fault => rfl
  | perform effect next ih => simp [run_perform, ih]

theorem run_attempt (program : Program α) (world : World) :
    program.attempt.run world = (.ok (program.run world).1, (program.run world).2) := by
  induction program generalizing world with
  | done value => rfl
  | fail fault => rfl
  | perform effect next ih => simp [attempt, run_perform, ih]

end Program
end CuratorKeeper
