import CuratorKeeper.Cluster.Basic
import CuratorKeeper.Settings

/-! # Curator jobs

The jobs that the topology of a cluster implies, one for each log store, with the defaults of the
settings filled in.
-/
namespace CuratorKeeper

/-- The name that all resources of the curator share, and that its jobs begin with. -/
def curatorName : String := "curator"

/-- A place for a job in a topology: what it is for, its name, and the log store it works on. -/
structure Slot where
  logicalName : String
  jobName : String
  host : String
  deriving DecidableEq

def Topology.slots : Topology → List Slot
  | .combined => [⟨"primary", "curator", "elasticsearch"⟩]
  | .split =>
    [⟨"application-stream", "curator-app", "elasticsearch-app"⟩,
      ⟨"infrastructure-stream", "curator-infra", "elasticsearch-infra"⟩]

def Cluster.jobNames (cluster : Cluster) : List String :=
  cluster.topology.slots.map Slot.jobName

/-- A curator job before it is written out as a manifest; `space` is its namespace. -/
structure Job where
  logicalName : String
  name : String
  space : String
  schedule : String
  image : String
  host : String
  resources : Quantities
  suspend : Option Bool
  deriving DecidableEq

namespace Job

def check (logicalName name space schedule image host : Option Value)
    (resources : Checked Quantities) (suspend : Option Value) : Checked Job :=
  Job.mk
    <$> Checked.required "logical_name" (Checked.text "logical_name") logicalName
    <*> Checked.required "name" (Checked.text "name") name
    <*> Checked.required "namespace" (Checked.text "namespace") space
    <*> Checked.required "schedule" (Checked.text "schedule") schedule
    <*> Checked.required "image" (Checked.text "image") image
    <*> Checked.required "elasticsearch_host" (Checked.text "elasticsearch_host") host
    <*> resources
    <*> Checked.withDefault none (Checked.nullable (Checked.truth "suspend")) suspend

def ofFields (fields : Fields) : Except Mismatch (Checked Job) := do
  let resources ← match fields.get? "resources" with
    | none => pure (Checked.issue "resources" .missing)
    | some value => Quantities.check "resources" value
  return check (fields.get? "logical_name") (fields.get? "name") (fields.get? "namespace")
    (fields.get? "schedule") (fields.get? "image") (fields.get? "elasticsearch_host")
    resources (fields.get? "suspend")

def toValue (job : Job) : Value :=
  .object
    [("logical_name", job.logicalName), ("name", job.name), ("namespace", job.space),
      ("schedule", job.schedule), ("image", job.image), ("elasticsearch_host", job.host),
      ("resources", job.resources.toValue),
      ("suspend", (job.suspend.map Value.bool).getD .null)]

end Job

/-- The resources of a job for which the cluster gives none. -/
def Settings.defaultResources (settings : Settings) : Quantities where
  limits := [("memory", settings.defaultMemory.display)]
  requests :=
    [("memory", settings.defaultMemory.display), ("cpu", settings.defaultCpuRequest.display)]

def Cluster.jobIn (cluster : Cluster) (settings : Settings) (slot : Slot) : Checked Job :=
  let curation := cluster.curation
  let schedule := (Value.text curation.schedule).orIfBlank settings.defaultSchedule
  let resources := curation.resources.getD settings.defaultResources
  Job.check (some slot.logicalName) (some slot.jobName) (some cluster.space) (some schedule)
    (some settings.image) (some slot.host) (.valid resources) (curation.suspend.map Value.bool)

/-- The jobs of a cluster; a setting that is no text is a fault of the first job. -/
def Cluster.jobs (cluster : Cluster) (settings : Settings) : Except Fault (List Job) :=
  cluster.topology.slots.mapM fun slot =>
    (cluster.jobIn settings slot).orFault "ScheduledJobSpec"

end CuratorKeeper
