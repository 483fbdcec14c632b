import CuratorKeeper.Cluster.Basic
import CuratorKeeper.Job.Drift
import CuratorKeeper.Pass.Creation
import CuratorKeeper.Retry.Loop

/-! # Correction of drift

A live job is read, compared with the desired one and, if it drifted, updated. A job that has
vanished is created again by the next pass. Each try reads again, so that nobody's change is
overwritten with an old copy.
-/
namespace CuratorKeeper

/-- What a pass has done to one job. -/
structure Correction where
  drift : Drift := {}
  created : Bool := false

def noteDrift (change : Option Value) (text : String) (name : Value) : Program Unit :=
  if change.isSome then Program.note .info .drift (text ++ ", updating " ++ name.shown)
  else .done ()

/-- The drift of a live job from the desired one, told of as it is found. -/
def findDrift (live desired : Value) : Program Drift := do
  let name ← live.itemAt ["metadata", "name"]
  let liveSpec ← live.fieldD "spec" (.object [])
  let desiredSpec ← desired.fieldD "spec" (.object [])
  let schedule ← Drift.ofSchedule liveSpec desiredSpec
  noteDrift schedule "Invalid Curator schedule found" name
  let suspend ← Drift.ofSuspend liveSpec desiredSpec
  noteDrift suspend "Invalid Curator suspend value found" name
  let image ← Drift.ofImage live desired
  noteDrift image "Curator image change found" name
  return ⟨schedule, suspend, image⟩

/-- Submit a changed job; a conflict stays one, any other refusal fails the pass. -/
def submitUpdate (ref : Ref) (patched : Value) : Program Unit := do
  match ← (Program.ask (.update patched none)).catchStore with
  | .ok _ => return ()
  | .error fault =>
    if fault.refusal = .conflict then .fail (.store fault)
    else .fail (fault.during "updating" ref)

/-- One reading, comparison and update of a job. -/
def correctDrift (desired : Value) : Program Drift := do
  let ref ← Ref.of desired
  match ← (Program.ask (.get ref)).catchStore with
  | .ok live =>
    let drift ← findDrift live desired
    if drift.isChange then
      let patched ← drift.apply live
      submitUpdate ref patched
    return drift
  | .error fault =>
    if fault.refusal = .notFound then
      Program.note .info .drift
        (ref.display ++ " not found while checking drift, deferring to next reconcile")
      return {}
    else .fail (fault.during "getting" ref)

/-- Correct the drift of a job, reading again on conflicts. -/
def correctWithRetry (desired : Value) (budget : Budget) : Program Drift :=
  retry budget (fun _ => Attempt.ofProgram () (.settled <$> correctDrift desired)) ()

/-- Create a job if it is absent and, if the cluster is managed, correct its drift. -/
def reconcileJob (cluster : Cluster) (desired : Value) (budget : Budget) :
    Program Correction := do
  let created ← ensureCreated desired
  if !cluster.isManaged then return { created }
  match ← (correctWithRetry desired budget).attempt with
  | .ok drift => return { drift, created }
  | .error fault =>
    match fault with
    | .store refused =>
      if refused.refusal = .conflict then
        let ref ← Ref.of desired
        .fail (refused.during "updating" ref)
      else .fail fault
    | _ => .fail fault

end CuratorKeeper
