import CuratorKeeper.Bytes.Base64
import CuratorKeeper.Cluster.Basic
import CuratorKeeper.Cluster.Checked
import CuratorKeeper.Cluster.Curation
import CuratorKeeper.Decimal.Binary
import CuratorKeeper.Decimal.Layout
import CuratorKeeper.Decimal.Shortest
import CuratorKeeper.Event.Handler
import CuratorKeeper.Event.Startup
import CuratorKeeper.Fault
import CuratorKeeper.Gateway.Connection
import CuratorKeeper.Gateway.Exchange
import CuratorKeeper.Gateway.Library
import CuratorKeeper.Inputs.Directory
import CuratorKeeper.Inputs.Shipped
import CuratorKeeper.Job.Basic
import CuratorKeeper.Job.Drift
import CuratorKeeper.Job.Manifest
import CuratorKeeper.Job.Report
import CuratorKeeper.Log
import CuratorKeeper.Number
import CuratorKeeper.Pass.Correction
import CuratorKeeper.Pass.Creation
import CuratorKeeper.Pass.Outcome
import CuratorKeeper.Pass.Reconcile
import CuratorKeeper.Pass.Status
import CuratorKeeper.Pass.Teardown
import CuratorKeeper.Program.Basic
import CuratorKeeper.Proofs.Bytes.Base64
import CuratorKeeper.Proofs.Cluster.Acceptance
import CuratorKeeper.Proofs.Cluster.Reading
import CuratorKeeper.Proofs.Event.Deletion
import CuratorKeeper.Proofs.Event.LockDiscipline
import CuratorKeeper.Proofs.Event.Overlap
import CuratorKeeper.Proofs.Event.Removal
import CuratorKeeper.Proofs.Event.Surfacing
import CuratorKeeper.Proofs.Event.Teardown
import CuratorKeeper.Proofs.Event.WriteSafety
import CuratorKeeper.Proofs.Gateway.Dispatch
import CuratorKeeper.Proofs.Gateway.Methods
import CuratorKeeper.Proofs.Gateway.Refinement
import CuratorKeeper.Proofs.Gateway.Server
import CuratorKeeper.Proofs.Inputs.Arrival
import CuratorKeeper.Proofs.Job.Applying
import CuratorKeeper.Proofs.Job.Coherence
import CuratorKeeper.Proofs.Job.Desired
import CuratorKeeper.Proofs.Job.Drift
import CuratorKeeper.Proofs.Job.Quantities
import CuratorKeeper.Proofs.Job.Reading
import CuratorKeeper.Proofs.Job.Shape
import CuratorKeeper.Proofs.Job.Watching
import CuratorKeeper.Proofs.Pass.Accounting
import CuratorKeeper.Proofs.Pass.Aim
import CuratorKeeper.Proofs.Pass.CallTrace
import CuratorKeeper.Proofs.Pass.Calls
import CuratorKeeper.Proofs.Pass.Concurrent
import CuratorKeeper.Proofs.Pass.Correction
import CuratorKeeper.Proofs.Pass.Course
import CuratorKeeper.Proofs.Pass.Errand
import CuratorKeeper.Proofs.Pass.FailFast
import CuratorKeeper.Proofs.Pass.Grammar
import CuratorKeeper.Proofs.Pass.Interruption
import CuratorKeeper.Proofs.Pass.Isolation
import CuratorKeeper.Proofs.Pass.JobSettling
import CuratorKeeper.Proofs.Pass.Likeness
import CuratorKeeper.Proofs.Pass.LostUpdate
import CuratorKeeper.Proofs.Pass.Made
import CuratorKeeper.Proofs.Pass.Overcoming
import CuratorKeeper.Proofs.Pass.Plan
import CuratorKeeper.Proofs.Pass.Propagation
import CuratorKeeper.Proofs.Pass.Recovery
import CuratorKeeper.Proofs.Pass.Repeat
import CuratorKeeper.Proofs.Pass.Reporting
import CuratorKeeper.Proofs.Pass.Returning
import CuratorKeeper.Proofs.Pass.Secrecy
import CuratorKeeper.Proofs.Pass.Settling
import CuratorKeeper.Proofs.Pass.Status
import CuratorKeeper.Proofs.Pass.Step
import CuratorKeeper.Proofs.Pass.Stumbling
import CuratorKeeper.Proofs.Pass.Synced
import CuratorKeeper.Proofs.Pass.Takes
import CuratorKeeper.Proofs.Pass.Undisturbed
import CuratorKeeper.Proofs.Program.Alike
import CuratorKeeper.Proofs.Program.Alone
import CuratorKeeper.Proofs.Program.Always
import CuratorKeeper.Proofs.Program.Blame
import CuratorKeeper.Proofs.Program.Crew
import CuratorKeeper.Proofs.Program.Ensures
import CuratorKeeper.Proofs.Program.Failing
import CuratorKeeper.Proofs.Program.History
import CuratorKeeper.Proofs.Program.Keeps
import CuratorKeeper.Proofs.Program.Likeness
import CuratorKeeper.Proofs.Program.Meddling
import CuratorKeeper.Proofs.Program.Quiet
import CuratorKeeper.Proofs.Program.Tells
import CuratorKeeper.Proofs.Program.Writes
import CuratorKeeper.Proofs.Retry.Script
import CuratorKeeper.Proofs.Store.Evolution
import CuratorKeeper.Proofs.Store.Lookup
import CuratorKeeper.Proofs.Store.Service
import CuratorKeeper.Proofs.Store.Twins
import CuratorKeeper.Proofs.Store.Veil
import CuratorKeeper.Proofs.Value.Erasure
import CuratorKeeper.Proofs.Value.Mask
import CuratorKeeper.Proofs.Value.Place
import CuratorKeeper.Proofs.Value.Sameness
import CuratorKeeper.Proofs.Value.Veil
import CuratorKeeper.Proofs.Value.Version
import CuratorKeeper.Proofs.Value.Worth
import CuratorKeeper.Ref
import CuratorKeeper.Rehearsal.Step
import CuratorKeeper.Rehearsal.Tries
import CuratorKeeper.Retry.Backoff
import CuratorKeeper.Retry.Budget
import CuratorKeeper.Retry.Loop
import CuratorKeeper.Settings
import CuratorKeeper.Store.Basic
import CuratorKeeper.Store.Disturbance
import CuratorKeeper.Store.Locks
import CuratorKeeper.Store.World
import CuratorKeeper.Text.Digit
import CuratorKeeper.Text.Numeral
import CuratorKeeper.Text.Printable
import CuratorKeeper.Text.Quoted
import CuratorKeeper.Value.Access
import CuratorKeeper.Value.Basic
import CuratorKeeper.Value.Edit
import CuratorKeeper.Value.Same
import CuratorKeeper.Value.Text
