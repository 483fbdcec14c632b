import CuratorKeeper.Cluster.Curation

/-! # Logging clusters

A cluster as far as its curator goes, and how it is read from the object that describes it. Each
field of that object tolerates its own set of odd values: some may be absent, some blank, and
the rest is checked.
-/
namespace CuratorKeeper

/-- Whether the subsystem may be changed at all. -/
inductive Management
  | managed
  | unmanaged
  deriving DecidableEq

/-- One log store for everything, or one for applications and one for infrastructure. -/
inductive Topology
  | combined
  | split
  deriving DecidableEq

def Management.text : Management → String
  | .managed => "Managed"
  | .unmanaged => "Unmanaged"

def Topology.text : Topology → String
  | .combined => "combined"
  | .split => "split"

def Management.offered : List (String × Management) :=
  [("Managed", .managed), ("Unmanaged", .unmanaged)]

def Topology.offered : List (String × Topology) :=
  [("combined", .combined), ("split", .split)]

/-- The desired state of one cluster; `space` is its namespace. -/
structure Cluster where
  name : String
  space : String
  uid : String
  apiVersion : String
  kind : String
  management : Management
  topology : Topology
  curation : Curation
  deriving DecidableEq

namespace Cluster

def defaultApiVersion : String := "logging.openshift.io/v1alpha1"

def defaultKind : String := "ClusterLogging"

def isManaged (cluster : Cluster) : Bool := cluster.management == .managed

def ofFields (fields : Fields) : Except Mismatch (Checked Cluster) := do
  let curation ← match fields.get? "curation" with
    | none => pure (.valid {})
    | some (.object inner) => Checked.under "curation" <$> Curation.ofFields inner
    | some _ => pure (Checked.issue "curation" .notRecord)
  return Cluster.mk
    <$> Checked.required "name" (Checked.text "name") (fields.get? "name")
    <*> Checked.required "namespace" (Checked.text "namespace") (fields.get? "namespace")
    <*> Checked.withDefault "" (Checked.text "uid") (fields.get? "uid")
    <*> Checked.withDefault defaultApiVersion (Checked.text "api_version")
      (fields.get? "api_version")
    <*> Checked.withDefault defaultKind (Checked.text "kind") (fields.get? "kind")
    <*> Checked.withDefault .managed (Checked.oneOf "management_state" Management.offered)
      (fields.get? "management_state")
    <*> Checked.withDefault .combined (Checked.oneOf "topology" Topology.offered)
      (fields.get? "topology")
    <*> curation

/-- Check a choice for which a blank value stands for the usual one. -/
def choice {α : Type} (key : String) (offered : List (String × α)) (usual : α) (value : Value) :
    Checked α :=
  if value.isBlank then .valid usual else Checked.oneOf key offered value

/-- Read the amounts of resources that a curator is given; blank means none are given. -/
def readResources (value : Value) : Except Mismatch (Option Quantities) :=
  if value.isBlank then .ok none
  else
    match value with
    | .object fields => some <$> Quantities.ofFields fields
    | _ => .error .unsuited

def ofObject (object : Value) : Except Fault Cluster := do
  let metadata ← object.fieldD "metadata" (.object [])
  let spec := (← object.field "spec").orIfBlank (.object [])
  let curation := (← spec.field "curation").orIfBlank (.object [])
  let curator := (← curation.field "curator").orIfBlank (.object [])
  let resources ← curator.field "resources"
  let name ← metadata.item "name"
  let space ← metadata.fieldD "namespace" ""
  let uid ← metadata.fieldD "uid" ""
  let apiVersion ← object.fieldD "apiVersion" defaultApiVersion
  let kind ← object.fieldD "kind" defaultKind
  let management ← spec.field "managementState"
  let topology ← spec.field "topology"
  let type ← curation.field "type"
  let schedule := (← curator.field "schedule").orIfBlank ""
  let suspend ← curator.field "suspend"
  let quantities ← readResources resources
  let checked ← (Curation.check type schedule suspend (.valid quantities)).orFault "CurationSpec"
  (Cluster.mk
    <$> Checked.text "name" name
    <*> Checked.text "namespace" space
    <*> Checked.text "uid" uid
    <*> Checked.text "api_version" apiVersion
    <*> Checked.text "kind" kind
    <*> choice "management_state" Management.offered .managed management
    <*> choice "topology" Topology.offered .combined topology
    <*> pure checked).orFault "ClusterConfig"

def ref (cluster : Cluster) : Ref := ⟨cluster.kind, cluster.space, cluster.name⟩

/-- A cluster as it is named in messages. -/
def label (cluster : Cluster) : String := cluster.space ++ "/" ++ cluster.name

def toValue (cluster : Cluster) : Value :=
  .object
    [("name", cluster.name), ("namespace", cluster.space), ("uid", cluster.uid),
      ("api_version", cluster.apiVersion), ("kind", cluster.kind),
      ("management_state", cluster.management.text), ("topology", cluster.topology.text),
      ("curation", cluster.curation.toValue)]

end Cluster
end CuratorKeeper
