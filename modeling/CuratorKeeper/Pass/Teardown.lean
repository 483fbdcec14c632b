import CuratorKeeper.Job.Manifest
import CuratorKeeper.Pass.Creation

/-! # Teardown

Everything the curator owns is deleted in order. What is absent counts as deleted; the first real
failure ends the teardown, and a later one starts over. An unmanaged cluster is left as it is.
-/
namespace CuratorKeeper

/-- Delete a resource if it is there, and tell whether it was. -/
def deleteIfPresent (ref : Ref) : Program Bool := do
  match ← (Program.ask (.delete ref)).catchStore with
  | .ok _ =>
    Program.note .info .teardown (ref.display ++ " deleted")
    return true
  | .error fault =>
    if fault.refusal = .notFound then
      Program.note .debug .teardown (ref.display ++ " already gone")
      return false
    else .fail (fault.during "deleting" ref)

/-- Delete some resources in order, and count those that were there. -/
def deleteAll : List Ref → Program Nat
  | [] => return 0
  | ref :: rest => do
    let deleted ← deleteIfPresent ref
    let others ← deleteAll rest
    return (if deleted then 1 else 0) + others

/-- Remove everything the curator of a cluster owns, and count what was there. -/
def removeCurator (cluster : Cluster) : Program Nat := do
  if cluster.isManaged then
    deleteAll cluster.ownedRefs
  else
    Program.note .info .teardown
      (cluster.label ++ " is Unmanaged, leaving curator resources as-is")
    return 0

end CuratorKeeper
