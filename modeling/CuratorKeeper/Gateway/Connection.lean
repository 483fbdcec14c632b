import CuratorKeeper.Settings

/-! # Connecting to a cluster

The configuration of the connection is loaded once, when it is first needed: from inside the
cluster, or from a file. The events share one store, which is made for the first of them.
-/
namespace CuratorKeeper

/-- Where the configuration of the connection is loaded from. -/
inductive ConfigLoad
  | inCluster
  /-- From the given file, or from the usual one. -/
  | file (path : Value)
  deriving DecidableEq

/-- What is connected so far. -/
structure Connection where
  loaded : Bool := false
  /-- The store that the events share has been made. -/
  shared : Bool := false
  deriving DecidableEq

namespace Connection

def loadFor (settings : Settings) : ConfigLoad :=
  if settings.inCluster.isBlank then .file (settings.kubeconfig.orIfBlank .null) else .inCluster

/-- Load the configuration unless that is done; the loads made are told. -/
def ensureLoaded (connection : Connection) (settings : Settings) : List ConfigLoad × Connection :=
  if connection.loaded then ([], connection)
  else ([loadFor settings], { connection with loaded := true })

/-- Make a store, over a client of its own or over the loaded configuration. -/
def openStore (connection : Connection) (settings : Settings) (ownClient : Bool) :
    List ConfigLoad × Connection :=
  if ownClient then ([], connection) else connection.ensureLoaded settings

/-- Get the store that the events share, making it the first time. -/
def sharedStore (connection : Connection) (settings : Settings) : List ConfigLoad × Connection :=
  if connection.shared then ([], connection)
  else
    let opened := connection.openStore settings false
    (opened.1, { opened.2 with shared := true })

end Connection
end CuratorKeeper
