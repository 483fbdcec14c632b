import CuratorKeeper.Program.Basic

/-! # Creation

Resources are created if they are absent. One that exists already is left alone, whatever it holds.
-/
namespace CuratorKeeper

/-- The failure of a pass at an operation on a resource. -/
def StoreFault.during (fault : StoreFault) (operation : String) (ref : Ref) : Fault :=
  .pass operation ref.kind ref.name (.store fault)

/-- Create a resource if it is absent, and tell whether it was. -/
def ensureCreated (resource : Value) : Program Bool := do
  let ref ← Ref.of resource
  match ← (Program.ask (.create resource)).catchStore with
  | .ok _ =>
    Program.note .info .creator (ref.display ++ " created")
    return true
  | .error fault =>
    if fault.refusal = .alreadyExists then
      Program.note .debug .creator (ref.display ++ " already exists")
      return false
    else .fail (fault.during "creating" ref)

end CuratorKeeper
