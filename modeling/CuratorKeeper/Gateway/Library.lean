import CuratorKeeper.Value.Basic

/-! # The library of clients

The gateway reaches the API through the clients of a library, one for each group of kinds.
Of the library it relies on the methods of these clients, and on manifests that are made of
the objects they return. The methods for whole resources are there for every kind; which others
there are is up to the library.
-/
namespace CuratorKeeper

/-- The kinds that have an API of their own. -/
inductive TypedKind
  | serviceAccount
  | configMap
  | secret
  | cronJob
  deriving DecidableEq

namespace TypedKind

def named : List (String × TypedKind) :=
  [("ServiceAccount", .serviceAccount), ("ConfigMap", .configMap), ("Secret", .secret),
    ("CronJob", .cronJob)]

def methodName : TypedKind → String
  | .serviceAccount => "service_account"
  | .configMap => "config_map"
  | .secret => "secret"
  | .cronJob => "cron_job"

end TypedKind

/-- What the gateway takes from the library. -/
structure ClientLibrary where
  /-- The part of a resource that the update method with an ending replaces, none for the whole,
  if the client for a kind has such a method. -/
  replaced? : TypedKind → (ending : String) → Option (Option String)
  /-- The manifest of an object that has a type of its own. Such an object is told by all of its
  fields, null if they are unset. -/
  manifestOf : Value → Value

/-- Jobs have a method for their status. -/
structure ClientLibrary.Documented (library : ClientLibrary) : Prop where
  jobStatus : library.replaced? .cronJob "status" = some (some "status")

namespace Value

/-- The names of the fields of typed objects that hold maps. -/
def mapNames : List String :=
  ["annotations", "labels", "matchLabels", "data", "binaryData", "stringData", "limits", "requests",
    "nodeSelector", "overhead", "volumeAttributes", "options", "fieldsV1"]

/-- The entries of a map are data and stay when they are null. -/
def isMap (key : Key) : Value → Bool
  | .object _ => key.display ∈ mapNames
  | _ => false

mutual
/-- A value without the fields that are null, in all objects within it but the maps. -/
def withoutNulls : Value → Value
  | .list items => .list (withoutNullsItems items)
  | .object fields => .object (withoutNullsFields fields)
  | value => value

def withoutNullsItems : List Value → List Value
  | [] => []
  | item :: rest => withoutNulls item :: withoutNullsItems rest

def withoutNullsFields : List (Key × Value) → List (Key × Value)
  | [] => []
  | (_, .null) :: rest => withoutNullsFields rest
  | (key, value) :: rest =>
    (key, if isMap key value then value else withoutNulls value) :: withoutNullsFields rest
end

end Value

/-- One such library. Besides the method for the status of jobs it has for every update one that
also tells of the transport. Of the fields of an object those that are unset are left out. -/
def ClientLibrary.usual : ClientLibrary where
  replaced? kind ending :=
    match kind, ending with
    | _, "with_http_info" => some none
    | .cronJob, "status" | .cronJob, "status_with_http_info" => some (some "status")
    | _, _ => none
  manifestOf := Value.withoutNulls

theorem ClientLibrary.documented_usual : usual.Documented where
  jobStatus := rfl

end CuratorKeeper
