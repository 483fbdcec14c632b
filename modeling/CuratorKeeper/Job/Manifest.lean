import CuratorKeeper.Job.Basic
import CuratorKeeper.Bytes.Base64

/-! # Manifests

The manifests of everything that the curator of a cluster owns: a service account, a config map,
a secret and the jobs. Each is owned by the object that describes the cluster.
-/
namespace CuratorKeeper

namespace Cluster

def ownerReference (cluster : Cluster) : Value :=
  .object
    [("apiVersion", cluster.apiVersion), ("kind", cluster.kind), ("name", cluster.name),
      ("uid", cluster.uid), ("controller", true)]

def metadataFor (cluster : Cluster) (name : String) (more : Fields) : Value :=
  let stated : Fields :=
    [("name", name), ("namespace", cluster.space),
      ("ownerReferences", .list [cluster.ownerReference])]
  .object (stated ++ more)

def serviceAccount (cluster : Cluster) : Value :=
  .object
    [("apiVersion", "v1"), ("kind", "ServiceAccount"),
      ("metadata", cluster.metadataFor curatorName [])]

/-- The config map holds the configuration files by key. -/
def configMap (cluster : Cluster) (files : Fields) : Value :=
  .object
    [("apiVersion", "v1"), ("kind", "ConfigMap"),
      ("metadata", cluster.metadataFor curatorName []),
      ("data", .object files)]

/-- The secret holds the credentials by key, in base 64. -/
def secret (cluster : Cluster) (credentials : List (String × ByteArray)) : Value :=
  .object
    [("apiVersion", "v1"), ("kind", "Secret"), ("type", "Opaque"),
      ("metadata", cluster.metadataFor curatorName []),
      ("data", .object (credentials.map fun file => (file.1, .text (Base64.encode file.2))))]

end Cluster

namespace Job

/-- The environment that the curator finds its log store and its keys by. -/
def environment (job : Job) : List (String × String) :=
  [("K8S_HOST_URL", "https://kubernetes.default.svc.cluster.local"),
    ("ES_HOST", job.host),
    ("ES_PORT", "9200"),
    ("ES_CLIENT_CERT", "/etc/curator/keys/cert"),
    ("ES_CLIENT_KEY", "/etc/curator/keys/key"),
    ("ES_CA", "/etc/curator/keys/ca"),
    ("CURATOR_DEFAULT_DAYS", "30"),
    ("CURATOR_SCRIPT_LOG_LEVEL", "INFO"),
    ("CURATOR_LOG_LEVEL", "ERROR"),
    ("CURATOR_TIMEOUT", "300")]

def container (job : Job) : Value :=
  .object
    [("name", curatorName), ("image", job.image), ("imagePullPolicy", "IfNotPresent"),
      ("resources", job.resources.toValue),
      ("env", .list (job.environment.map fun entry =>
        .object [("name", entry.1), ("value", entry.2)])),
      ("volumeMounts", .list
        [.object [("name", "certs"), ("readOnly", true), ("mountPath", "/etc/curator/keys")],
          .object [("name", "config"), ("readOnly", true),
            ("mountPath", "/etc/curator/settings")]])]

/-- The pod of a job: its container, with the config map and the secret as volumes. -/
def podSpec (job : Job) : Value :=
  .object
    [("serviceAccountName", curatorName), ("containers", .list [job.container]),
      ("volumes", .list
        [.object [("name", "config"), ("configMap", .object [("name", curatorName)])],
          .object [("name", "certs"), ("secret", .object [("secretName", curatorName)])]]),
      ("restartPolicy", "Never"), ("terminationGracePeriodSeconds", 600)]

def labels (job : Job) : Value :=
  .object [("provider", "openshift"), ("component", job.name), ("logging-infra", curatorName)]

def podTemplate (job : Job) : Value :=
  .object
    [("metadata", .object [("name", job.name), ("namespace", job.space), ("labels", job.labels)]),
      ("spec", job.podSpec)]

/-- What a job does when; suspension is stated only if the cluster states it. -/
def cronSpec (job : Job) : Value :=
  let stated : Fields :=
    [("schedule", job.schedule), ("concurrencyPolicy", "Forbid"),
      ("successfulJobsHistoryLimit", 1), ("failedJobsHistoryLimit", 1),
      ("jobTemplate", .object
        [("spec", .object
          [("backoffLimit", 0), ("parallelism", 1), ("template", job.podTemplate)])])]
  .object (stated ++ Value.fieldIfSome "suspend" (job.suspend.map Value.bool))

def manifest (cluster : Cluster) (job : Job) : Value :=
  .object
    [("apiVersion", "batch/v1"), ("kind", "CronJob"),
      ("metadata", cluster.metadataFor job.name [("labels", job.labels)]),
      ("spec", job.cronSpec)]

end Job

structure DesiredSet where
  serviceAccount : Value
  configMap : Value
  secret : Value
  /-- Each job with its manifest. -/
  jobs : List (Job × Value)

namespace DesiredSet

/-- The manifests that are written once and then left alone, in the order of creation. -/
def writeOnce (desired : DesiredSet) : List Value :=
  [desired.serviceAccount, desired.configMap, desired.secret]

/-- The manifests of the jobs by what the jobs are for. -/
def cronJobs (desired : DesiredSet) : List (String × Value) :=
  desired.jobs.map fun planned => (planned.1.logicalName, planned.2)

/-- All manifests in the order of creation. -/
def manifests (desired : DesiredSet) : List Value :=
  desired.writeOnce ++ desired.jobs.map Prod.snd

end DesiredSet

/-- What the curator of a cluster should own, with the given files and credentials. -/
def Cluster.desired (cluster : Cluster) (settings : Settings) (files : Fields)
    (credentials : List (String × ByteArray)) : Except Fault DesiredSet := do
  let jobs ← cluster.jobs settings
  return {
    serviceAccount := cluster.serviceAccount
    configMap := cluster.configMap files
    secret := cluster.secret credentials
    jobs := jobs.map fun job => (job, job.manifest cluster) }

/-- The references of what the curator of a cluster owns, in the order of removal. -/
def Cluster.ownedRefs (cluster : Cluster) : List Ref :=
  [⟨"ServiceAccount", cluster.space, curatorName⟩, ⟨"ConfigMap", cluster.space, curatorName⟩,
    ⟨"Secret", cluster.space, curatorName⟩] ++
    cluster.jobNames.map fun name => ⟨"CronJob", cluster.space, name⟩

end CuratorKeeper
