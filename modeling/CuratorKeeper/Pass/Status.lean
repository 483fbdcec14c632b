import CuratorKeeper.Job.Basic
import CuratorKeeper.Job.Report
import CuratorKeeper.Pass.Creation
import CuratorKeeper.Retry.Loop

/-! # Status of the curator

The jobs that are found are reported in the status of the cluster object. The report is made once;
the object is read again on every try, and written only when it holds another report.
-/
namespace CuratorKeeper

def reportOf (name : String) (live : Value) : Except Fault JobReport := do
  let spec ← live.fieldD "spec" (.object [])
  let schedule ← spec.fieldD "schedule" ""
  let suspend ← spec.field "suspend"
  let status := (← live.field "status").orIfBlank (.object [])
  let lastScheduleTime ← status.field "lastScheduleTime"
  let suspended : Value := !suspend.isBlank
  (JobReport.check (some name) (some schedule) (some suspended) (some lastScheduleTime)).orFault
    "CuratorStatus"

/-- The report on one job, if the job is found. -/
def reportJob (ref : Ref) (name : String) : Program (Option JobReport) := do
  match ← (Program.ask (.get ref)).catchStore with
  | .ok live => return some (← reportOf name live)
  | .error fault =>
    if fault.refusal = .notFound then return none
    else .fail (fault.during "getting status of" ref)

/-- The reports on the named jobs that are found, in order. -/
def reportJobs (space : String) : List String → Program (List JobReport)
  | [] => return []
  | name :: rest => do
    let report ← reportJob ⟨"CronJob", space, name⟩ name
    let others ← reportJobs space rest
    return report.toList ++ others

def reports (cluster : Cluster) : Program (List JobReport) :=
  reportJobs cluster.space cluster.jobNames

/-- Reports as they stand in the status. -/
def statusOf (reports : List JobReport) : Value := .list (reports.map JobReport.statusEntry)

/-- The report that a cluster object holds, null if there is none. -/
def storedStatus (object : Value) : Except Mismatch Value := do
  let status := (← object.field "status").orIfBlank (.object [])
  let curation := (← status.field "curation").orIfBlank (.object [])
  curation.field "curatorStatus"

/-- The cluster object with another report; blank parts on the way become objects. -/
def withStatus (object derived : Value) : Except Mismatch Value := do
  let status := (← object.field "status").orIfBlank (.object [])
  let curation := (← status.field "curation").orIfBlank (.object [])
  let curation ← curation.assign "curatorStatus" derived
  let status ← status.assign "curation" curation
  object.assign "status" status

def writeStatus (object derived : Value) : Program Bool := do
  let updated ← withStatus object derived
  let _ ← Program.ask (.update updated (some "status"))
  return true

/-- One reading, comparison and update of the cluster object. The notice is given by the first
try that comes to write; `noticePending` tells whether it is still to be given. -/
def syncOnce (cluster : Cluster) (owner : Ref) (derived : Value) (noticePending : Bool) :
    Program (Attempt Bool Bool) :=
  Attempt.ofProgram noticePending do
    match ← (Program.ask (.get owner)).catchStore with
    | .error fault =>
      if fault.refusal = .notFound then return .settled false else .fail (.store fault)
    | .ok object =>
      let stored ← storedStatus object
      if stored.same derived then return .settled false
      if noticePending then
        Program.note .info .status ("Updating status of Curator for " ++ cluster.label)
      Attempt.ofProgram false (.settled <$> writeStatus object derived)

/-- Bring the report in the cluster object up to date, and tell whether it was written. -/
def syncStatus (cluster : Cluster) (owner : Ref) (budget : Budget) : Program Bool := do
  let derived := statusOf (← reports cluster)
  match ← (retry budget (syncOnce cluster owner derived) true).catchStore with
  | .ok written => return written
  | .error fault => .fail (fault.during "updating status of" owner)

end CuratorKeeper
