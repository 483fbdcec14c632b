import CuratorKeeper.Value.Access
import CuratorKeeper.Value.Same
import CuratorKeeper.Value.Text

/-! # References

A resource is identified by its kind, its namespace and its name. They are taken from its manifest
as they stand there.
-/
namespace CuratorKeeper

/-- The identity of a resource; `space` is its namespace. -/
structure Ref where
  kind : Value
  space : Value
  name : Value
  deriving DecidableEq

namespace Ref

/-- The reference of a manifest: a missing namespace is empty, a missing kind or name a fault. -/
def of (resource : Value) : Except Mismatch Ref := do
  let metadata ← resource.fieldD "metadata" (.object [])
  let kind ← resource.item "kind"
  let space ← metadata.fieldD "namespace" ""
  let name ← metadata.item "name"
  return ⟨kind, space, name⟩

/-- The text of a reference, `kind namespace/name`. -/
def display (ref : Ref) : String :=
  ref.kind.display ++ " " ++ ref.space.display ++ "/" ++ ref.name.display

/-- Two references mean the same resource when their parts are the same. -/
def same (ref other : Ref) : Bool :=
  ref.kind.same other.kind && ref.space.same other.space && ref.name.same other.name

/-- A reference can be looked up when none of its parts is a list or an object. -/
def isKey (ref : Ref) : Bool :=
  [ref.kind, ref.space, ref.name].all fun part =>
    match part with
    | .list _ | .object _ => false
    | _ => true

end Ref
end CuratorKeeper
