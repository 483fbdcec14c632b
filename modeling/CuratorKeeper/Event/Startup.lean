import CuratorKeeper.Program.Basic
import CuratorKeeper.Settings

/-! # Startup

What the event loop is told before it serves the first event.
-/
namespace CuratorKeeper

/-- Where the event loop keeps its progress. -/
inductive ProgressStorage
  /-- In annotations of the served objects, below a domain. -/
  | annotations (domain : String)
  deriving DecidableEq

structure LoopSettings where
  /-- Log lines are posted as events of the served objects. -/
  posting : Bool
  /-- What keeps an object from going away before its deletion is served. -/
  finalizer : String
  storage : ProgressStorage
  maxWorkers : Value

/-- Check the number of workers: a number that is not less than one. -/
def checkWorkers (workers : Value) : Except Fault Unit :=
  match workers.amount? with
  | none => .error (.mismatch .unsuited)
  | some amount => if amount.isBelowOne then .error .tooFewWorkers else .ok ()

/-- Tell the event loop how to work; log lines are posted whatever was set before. -/
def startUp (settings : Settings) : Program LoopSettings := do
  checkWorkers settings.maxWorkers
  Program.note .info .operator
    ("Curation Operator started (max_workers=" ++ settings.maxWorkers.display ++ ", interval=" ++
      settings.reconcileInterval.display ++ "s, image=" ++ settings.image.display ++ ")")
  return {
    posting := true
    finalizer := "clusterloggings.logging.openshift.io/curation-finalizer"
    storage := .annotations "logging.openshift.io"
    maxWorkers := settings.maxWorkers }

end CuratorKeeper
