import CuratorKeeper.Pass.Reconcile

/-! # Serving events

Changes of a cluster object, ticks of a timer and its deletion. One lock for each object keeps
them apart: changes and deletions wait for it, a tick that finds it held is skipped. A failure of
the curation subsystem makes the event be served again later.
-/
namespace CuratorKeeper

/-- An event of a cluster object; `space` is its namespace. -/
structure Event where
  space : String
  name : String
  body : Value

namespace Event

/-- The key of the lock of the object, which also names it in messages. -/
def key (event : Event) : String := event.space ++ "/" ++ event.name

/-- Hold the lock of the object during a program, however it ends. -/
def locked {α : Type} (event : Event) (program : Program α) : Program α := do
  Program.effect (.lock event.key .hold)
  program.thenAlways (.effect (.lock event.key .release))

/-- Let a program fail for a while if the curation subsystem fails in it. -/
def retryLater {α : Type} (event : Event) (settings : Settings) (what : String)
    (program : Program α) : Program α := do
  match ← program.attempt with
  | .ok value => return value
  | .error fault =>
    if fault.isCuration then
      Program.note .error .handler
        (what ++ " failed for " ++ event.key ++ ": " ++ fault.message)
      .fail (.temporary fault.message settings.retryDelay)
    else .fail fault

def pass (event : Event) (settings : Settings) (inputs : Inputs) : Program Outcome := do
  let cluster ← Cluster.ofObject event.body
  let outcome ← event.retryLater settings "Curation reconcile"
    (reconcile cluster settings inputs settings.backoff)
  if outcome.isNotable then
    Program.note .info .handler
      ("Curation reconciled for " ++ event.key ++ ": " ++ outcome.toValue.shown)
  return outcome

/-- Serve a change: created, updated or found again. -/
def serveChange (event : Event) (settings : Settings) (inputs : Inputs) : Program Outcome :=
  event.locked (event.pass settings inputs)

/-- Serve a tick of the timer; the outcome is of no interest. -/
def serveTick (event : Event) (settings : Settings) (inputs : Inputs) : Program Unit := do
  if ← Program.effect (.lock event.key .tryHold) then
    let _ ← (event.pass settings inputs).thenAlways (.effect (.lock event.key .release))
    return ()
  else
    Program.note .info .handler
      ("Reconcile in flight for " ++ event.key ++ ", skipping drift check")

/-- Serve a deletion: tear down, then forget the lock. -/
def serveDeletion (event : Event) (settings : Settings) : Program Unit := do
  let cluster ← Cluster.ofObject event.body
  let deleted ← event.locked
    (event.retryLater settings "Curator cleanup" (removeCurator cluster))
  Program.effect (.lock event.key .forget)
  Program.note .info .handler
    ("Curator cleanup complete for " ++ event.key ++ " (" ++ toString deleted ++ " deleted)")

end Event
end CuratorKeeper
