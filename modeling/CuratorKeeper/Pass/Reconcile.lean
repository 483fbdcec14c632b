import CuratorKeeper.Inputs.Directory
import CuratorKeeper.Pass.Correction
import CuratorKeeper.Pass.Outcome
import CuratorKeeper.Pass.Status
import CuratorKeeper.Pass.Teardown

/-! # One pass over a cluster

With curation enabled the resources are created, the jobs corrected and the status written; with
curation disabled everything is removed; an unknown kind of curation is left alone. Every step may
be repeated, and the first failure ends the pass with nothing rolled back.
-/
namespace CuratorKeeper

/-- A resource as it is named in an outcome. -/
def outcomeName (resource : Value) : Except Mismatch String := do
  let kind ← resource.item "kind"
  let name ← resource.itemAt ["metadata", "name"]
  return kind.display ++ "/" ++ name.display

/-- Create the resources that are written once, and name those that were absent. -/
def createAll : List Value → Program (List String)
  | [] => return []
  | resource :: rest => do
    let created ← ensureCreated resource
    let name ← outcomeName resource
    let others ← createAll rest
    return (if created then [name] else []) ++ others

def reconcileJobs (cluster : Cluster) (budget : Budget) :
    List (Job × Value) → Program (List (Job × Correction))
  | [] => return []
  | (job, manifest) :: rest => do
    let correction ← reconcileJob cluster manifest budget
    let others ← reconcileJobs cluster budget rest
    return (job, correction) :: others

def createdJobs (corrections : List (Job × Correction)) : List String :=
  (corrections.filter fun entry => entry.2.created).map fun entry => "CronJob/" ++ entry.1.name

/-- The jobs that were changed, with the places that were. -/
def patchedJobs (corrections : List (Job × Correction)) : List (String × List String) :=
  (corrections.filter fun entry => entry.2.drift.isChange).map fun entry =>
    (entry.1.name, entry.2.drift.fieldNames)

/-- The pass over a cluster whose curation is enabled. -/
def buildUp (cluster : Cluster) (settings : Settings) (inputs : Inputs) (budget : Budget) :
    Program Outcome := do
  let files ← inputs.loadFiles
  let credentials ← inputs.loadCredentials
  let desired ← cluster.desired settings files credentials
  let created ← createAll desired.writeOnce
  let corrections ← reconcileJobs cluster budget desired.jobs
  let statusWritten ← syncStatus cluster cluster.ref budget
  return {
    mode := .enabled
    created := created ++ createdJobs corrections
    patched := patchedJobs corrections
    statusWritten }

/-- One pass over a cluster. -/
def reconcile (cluster : Cluster) (settings : Settings) (inputs : Inputs) (budget : Budget) :
    Program Outcome := do
  match cluster.curation.mode with
  | .enabled => buildUp cluster settings inputs budget
  | .disabled =>
    let deleted ← removeCurator cluster
    return { mode := .disabled, deleted }
  | .unknown =>
    let type : Value := (cluster.curation.type.map Value.text).getD .null
    Program.note .warning .reconciler
      (cluster.label ++ ": unknown curation type " ++ type.shown ++ ", nothing to do")
    return { mode := .unknown }

end CuratorKeeper
