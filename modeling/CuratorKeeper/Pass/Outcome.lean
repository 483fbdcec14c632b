import CuratorKeeper.Cluster.Curation

/-! # Outcomes

What one pass has done, as it is reported.
-/
namespace CuratorKeeper

structure Outcome where
  mode : Mode
  /-- The resources that were created, each as `kind/name`. -/
  created : List String := []
  /-- The names of the places that were changed, by job. -/
  patched : List (String × List String) := []
  statusWritten : Bool := false
  /-- How many resources were removed. -/
  deleted : Nat := 0
  deriving DecidableEq

namespace Outcome

/-- The parts of an outcome as they are reported. -/
def record (mode : Mode) (created patched statusWritten deleted : Value) : Value :=
  .object
    [("mode", mode.text), ("created", created), ("patched", patched),
      ("statusWritten", statusWritten), ("deleted", deleted)]

def toValue (outcome : Outcome) : Value :=
  record outcome.mode (.list (outcome.created.map Value.text))
    (.object (outcome.patched.map fun entry => (entry.1, .list (entry.2.map Value.text))))
    outcome.statusWritten (outcome.deleted : Int)

/-- The names of the parts that an outcome is stated with. -/
def partNames : List String := ["mode", "created", "patched", "status_written", "deleted"]

/-- The report of an outcome that is stated by its parts. Only the mode is looked at, and has to be
there; a part that is not stated is that of a pass that did nothing. -/
def reportOf (stated : Fields) : Except Fault Value := do
  let mode ← Mode.ofValue (← (Value.object stated).item "mode")
  match stated.find? fun part => part.1.display ∉ partNames with
  | some part => .error (.unknownName part.1.display)
  | none =>
    let part (name : String) (usual : Value) : Value := (stated.get? name).getD usual
    return record mode (part "created" (.list [])) (part "patched" (.object []))
      (part "status_written" false) (part "deleted" 0)

/-- Something was created, changed or removed; a status alone does not count. -/
def isNotable (outcome : Outcome) : Bool :=
  !outcome.created.isEmpty || !outcome.patched.isEmpty || outcome.deleted != 0

end Outcome
end CuratorKeeper
