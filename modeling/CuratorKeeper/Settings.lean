import CuratorKeeper.Fault
import CuratorKeeper.Retry.Backoff
import CuratorKeeper.Text.Numeral

/-! # Settings

What can be set from outside, with its defaults, and how an environment of variables sets it.
Values that only travel into manifests and requests are taken as they come and checked there.
-/
namespace CuratorKeeper

structure Settings where
  kubeconfig : Value := ""
  inCluster : Value := false
  crdGroup : Value := "logging.openshift.io"
  crdVersion : Value := "v1alpha1"
  crdPlural : Value := "clusterloggings"
  crdKind : Value := "ClusterLogging"
  image : Value := "quay.io/openshift/origin-logging-curator5:latest"
  defaultSchedule : Value := "30 3,9,15,21 * * *"
  defaultMemory : Value := "200Mi"
  defaultCpuRequest : Value := "100m"
  /-- Where the configuration files of the curator are. -/
  filesDirectory : Value := "files"
  /-- Where the credentials of the curator are. -/
  workingDirectory : Value := "/tmp/_working_dir"
  backoff : Backoff := {}
  /-- Seconds between two checks for drift. -/
  reconcileInterval : Value := 300
  /-- Seconds before a failed event is served again. -/
  retryDelay : Int := 30
  maxWorkers : Value := 3
  logLevel : Value := "INFO"

namespace Settings

/-- The settings with one of them given another value. The settings of the event loop itself and
the budget of tries keep their usual values. -/
def withValue (settings : Settings) (name : String) (value : Value) : Settings :=
  match name with
  | "KUBECONFIG" => { settings with kubeconfig := value }
  | "IN_CLUSTER" => { settings with inCluster := value }
  | "CRD_GROUP" => { settings with crdGroup := value }
  | "CRD_VERSION" => { settings with crdVersion := value }
  | "CRD_PLURAL" => { settings with crdPlural := value }
  | "CRD_KIND" => { settings with crdKind := value }
  | "CURATOR_IMAGE" => { settings with image := value }
  | "CURATOR_DEFAULT_SCHEDULE" => { settings with defaultSchedule := value }
  | "CURATOR_DEFAULT_MEMORY" => { settings with defaultMemory := value }
  | "CURATOR_DEFAULT_CPU_REQUEST" => { settings with defaultCpuRequest := value }
  | "MAX_WORKERS" => { settings with maxWorkers := value }
  | "RECONCILE_INTERVAL" => { settings with reconcileInterval := value }
  | _ => settings

def toFields (settings : Settings) : Fields :=
  [("KUBECONFIG", settings.kubeconfig), ("IN_CLUSTER", settings.inCluster),
    ("CRD_GROUP", settings.crdGroup), ("CRD_VERSION", settings.crdVersion),
    ("CRD_PLURAL", settings.crdPlural), ("CRD_KIND", settings.crdKind),
    ("CURATOR_IMAGE", settings.image), ("CURATOR_DEFAULT_SCHEDULE", settings.defaultSchedule),
    ("CURATOR_DEFAULT_MEMORY", settings.defaultMemory),
    ("CURATOR_DEFAULT_CPU_REQUEST", settings.defaultCpuRequest),
    ("CURATOR_FILES_DIR", settings.filesDirectory), ("WORKING_DIR", settings.workingDirectory),
    ("RETRY_STEPS", settings.backoff.steps),
    ("RETRY_BASE_DELAY", .number settings.backoff.delay),
    ("RETRY_FACTOR", .number settings.backoff.factor),
    ("RETRY_JITTER", .number settings.backoff.jitter),
    ("RECONCILE_INTERVAL", settings.reconcileInterval), ("RETRY_DELAY", settings.retryDelay),
    ("MAX_WORKERS", settings.maxWorkers), ("LOG_LEVEL", settings.logLevel)]

def toValue (settings : Settings) : Value := .object settings.toFields

/-- Settings with some values overridden; every name has to be that of a setting. -/
def override (settings : Settings) (values : List (String × Value)) : Except Fault Settings :=
  values.foldlM (fun settings entry =>
    match settings.toFields.get? entry.1 with
    | some _ => .ok (settings.withValue entry.1 entry.2)
    | none => .error (.unknownName entry.1)) settings

def readWhole (content : String) : Except Fault Int :=
  match Text.readWhole content with
  | .ok number => .ok number
  | .error .malformed => .error (.unreadable (.whole content))
  | .error (.tooLong digits) => .error (.unreadable (.wholeTooLong digits))

def readReal (content : String) : Except Fault Number :=
  match Text.readReal? content with
  | some number => .ok (.real number)
  | none => .error (.unreadable (.real content))

/-- The settings that an environment makes, read in the order of their names here; the first
variable that cannot be read is the fault. -/
def ofEnvironment (filesDirectory : String) (environment : List (String × String)) :
    Except Fault Settings := do
  let text (name default : String) : String := (environment.lookup name).getD default
  let defaults : Settings := {}
  let given (name : String) (default : Value) : Value :=
    ((environment.lookup name).map Value.text).getD default
  let steps ← readWhole (text "RETRY_STEPS" "5")
  let delay ← readReal (text "RETRY_BASE_DELAY" "0.01")
  let factor ← readReal (text "RETRY_FACTOR" "2.0")
  let jitter ← readReal (text "RETRY_JITTER" "0.1")
  let reconcileInterval ← readWhole (text "RECONCILE_INTERVAL" "300")
  let retryDelay ← readWhole (text "RETRY_DELAY" "30")
  let maxWorkers ← readWhole (text "MAX_WORKERS" "3")
  return { defaults with
    kubeconfig := given "KUBECONFIG" defaults.kubeconfig
    inCluster := (text "IN_CLUSTER" "false").toLower == "true"
    image := given "CURATOR_IMAGE" defaults.image
    defaultSchedule := given "CURATOR_DEFAULT_SCHEDULE" defaults.defaultSchedule
    defaultMemory := given "CURATOR_DEFAULT_MEMORY" defaults.defaultMemory
    defaultCpuRequest := given "CURATOR_DEFAULT_CPU_REQUEST" defaults.defaultCpuRequest
    filesDirectory := given "CURATOR_FILES_DIR" filesDirectory
    workingDirectory := given "WORKING_DIR" defaults.workingDirectory
    backoff := ⟨steps, delay, factor, jitter⟩
    reconcileInterval := reconcileInterval
    retryDelay := retryDelay
    maxWorkers := maxWorkers
    logLevel := given "LOG_LEVEL" defaults.logLevel }

end Settings
end CuratorKeeper
