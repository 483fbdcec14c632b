import CuratorKeeper.Event.Handler
import CuratorKeeper.Inputs.Shipped
import CuratorKeeper.Store.World

/-! # Rehearsals

A rehearsal is a row of steps in one world: foreign writes, disturbances laid out for later calls,
single calls, parts of passes, whole passes and events. After each step it is told what was
answered and done, and how the store and the locks have changed.
-/
namespace CuratorKeeper.Rehearsal

inductive Occasion
  | change
  | tick
  | deletion
  deriving DecidableEq

inductive JobChoice
  | given (manifest : Value)
  /-- The job at a position among those of the cluster, from the end if negative. -/
  | at (position : Value)

/-- One step of a rehearsal. Settings are laid out as overrides by name, budgets as fields. -/
inductive Step
  | put (resource : Value)
  | remove (ref : Ref)
  | edit (ref : Ref) (edits : List Edit)
  /-- Lay out disturbances, a list for each later call of a verb. -/
  | layOut (verb : Verb) (disturbances : List (List Disturbance))
  | clearLaidOut
  | call (request : Request)
  | ensureCreated (resource : Value)
  | deleteIfPresent (ref : Ref)
  | correctDrift (desired : Value)
  | reconcileJob (body : Value) (job : JobChoice) (overrides : List (String × Value))
    (budget : Fields)
  | reports (body : Value)
  | syncStatus (body : Value) (owner : Option Ref) (budget : Fields)
  | removeCurator (body : Value)
  | reconcile (body : Value) (overrides : List (String × Value)) (inputs : Inputs)
    (budget : Fields)
  | tryLock (key : String)
  | unlock (key : String)
  | serve (occasion : Occasion) (event : Event) (settings : Settings) (inputs : Inputs)

/-- A drift and whether the job was created, as they are told. -/
def correctionValue (correction : Correction) : Value :=
  .object
    [("changed", correction.drift.isChange), ("fields", .object correction.drift.fields),
      ("created", correction.created)]

/-- The item at a position, from the end if negative. -/
def atPosition {α : Type} (items : List α) (position : Value) : Except Fault α :=
  match position.amount? with
  | some (.whole index) =>
    match (placeOf items.length index).bind fun place => items[place]? with
    | some item => .ok item
    | none => .error (.mismatch .outOfRange)
  | _ => .error (.mismatch .unsuited)

def JobChoice.manifest (cluster : Cluster) (overrides : List (String × Value)) :
    JobChoice → Except Fault Value
  | .given manifest => .ok manifest
  | .at position => do
    let settings ← ({} : Settings).override overrides
    let jobs ← cluster.jobs settings
    let job ← atPosition jobs position
    return job.manifest cluster

/-- The program of a step that runs one; its result as it is told. -/
def Step.program : Step → Program Value
  | .put _ | .remove _ | .edit _ _ | .layOut _ _ | .clearLaidOut => return .null
  | .call request => .ask request
  | .ensureCreated resource => return (← CuratorKeeper.ensureCreated resource)
  | .deleteIfPresent ref => return (← CuratorKeeper.deleteIfPresent ref)
  | .correctDrift desired => do
    let drift ← CuratorKeeper.correctDrift desired
    return correctionValue { drift }
  | .reconcileJob body job overrides budget => do
    let cluster ← Cluster.ofObject body
    let manifest ← job.manifest cluster overrides
    let budget ← Budget.ofFields budget
    return correctionValue (← CuratorKeeper.reconcileJob cluster manifest budget)
  | .reports body => do
    let cluster ← Cluster.ofObject body
    return statusOf (← CuratorKeeper.reports cluster)
  | .syncStatus body owner budget => do
    let cluster ← Cluster.ofObject body
    let budget ← Budget.ofFields budget
    return (← CuratorKeeper.syncStatus cluster (owner.getD cluster.ref) budget)
  | .removeCurator body => do
    let cluster ← Cluster.ofObject body
    return ((← CuratorKeeper.removeCurator cluster) : Int)
  | .reconcile body overrides inputs budget => do
    let cluster ← Cluster.ofObject body
    let settings ← ({} : Settings).override overrides
    let budget ← Budget.ofFields budget
    return (← CuratorKeeper.reconcile cluster settings inputs budget).toValue
  | .tryLock key => return (← Program.effect (.lock key .tryHold) : Bool)
  | .unlock key => do
    Program.effect (.lock key .release)
    return true
  | .serve .change event settings inputs =>
    return (← event.serveChange settings inputs).toValue
  | .serve .tick event settings inputs => do
    event.serveTick settings inputs
    return .null
  | .serve .deletion event settings _ => do
    event.serveDeletion settings
    return .null

/-- A change or a deletion would wait for ever for a lock that is held. -/
def Step.wouldWait (world : World) : Step → Bool
  | .serve .change event _ _ | .serve .deletion event _ _ => world.locks.isHeld event.key
  | _ => false

/-- The answer to a write by a foreign hand, and the world after it. -/
def answerWrite {α : Type} (world : World) (written : Except Fault α × Store) :
    Except Fault Value × World :=
  (written.1.map fun _ => .null, { world with store := written.2 })

def Step.take (world : World) (step : Step) : Except Fault Value × World :=
  match step with
  | .put resource => answerWrite world (world.store.put resource)
  | .remove ref =>
    let culled := world.store.cull ref
    (culled.1.map fun present => .bool present, { world with store := culled.2 })
  | .edit ref edits => answerWrite world (world.store.edit ref edits)
  | .layOut verb disturbances =>
    let waiting := fun other =>
      if other = verb then world.waiting verb ++ disturbances
      else world.waiting other
    (.ok .null, { world with waiting })
  | .clearLaidOut => (.ok .null, { world with waiting := fun _ => [] })
  | step =>
    if step.wouldWait world then (.ok "would block", world) else step.program.run world

structure Report where
  answer : Except Fault Value
  journal : Journal
  /-- The resources that are new or changed, by reference. -/
  changed : List (Ref × Value)
  /-- The references that are gone. -/
  removed : List Ref
  locks : LockTable

/-- The resources of a store that another one does not have in the same state. -/
def changedSince (before after : Store) : List (Ref × Value) :=
  after.entries.filter fun entry => before.find? entry.1 ≠ some entry.2

/-- The references of a store that another one does not have. -/
def removedSince (before after : Store) : List Ref :=
  (before.entries.map Prod.fst).filter fun ref => (after.find? ref).isNone

/-- Take a step with fresh draws and a fresh journal, and tell of it. -/
def report (world : World) (draws : List Float) (step : Step) : Report × World :=
  let taken := step.take { world with draws, journal := {} }
  let after := taken.2
  ({ answer := taken.1
     journal := after.journal
     changed := changedSince world.store after.store
     removed := removedSince world.store after.store
     locks := after.locks }, after)

/-- Take steps one after another; one that fails does not end the rehearsal. -/
def reportAll (world : World) : List (List Float × Step) → List Report
  | [] => []
  | (draws, step) :: rest =>
    let reported := report world draws step
    reported.1 :: reportAll reported.2 rest

end CuratorKeeper.Rehearsal
