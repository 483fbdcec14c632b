import CuratorKeeper.Value.Access
import CuratorKeeper.Value.Same

/-! # Drift

Three places of a live job are watched: its schedule, its suspension and the image of its first
container. Drift is what of these differs from the desired job, and applying it changes these
places and nothing else.
-/
namespace CuratorKeeper

/-- The places of a live job that have to change, with their new values. -/
structure Drift where
  schedule : Option Value := none
  suspend : Option Value := none
  image : Option Value := none
  deriving DecidableEq

namespace Drift

def fields (drift : Drift) : Fields :=
  Value.fieldIfSome "schedule" drift.schedule ++ Value.fieldIfSome "suspend" drift.suspend ++
    Value.fieldIfSome "image" drift.image

/-- The names of the places that change, in alphabetical order. -/
def fieldNames (drift : Drift) : List String :=
  let change (name : String) (value : Option Value) : List String :=
    (value.map fun _ => name).toList
  change "image" drift.image ++ change "schedule" drift.schedule ++ change "suspend" drift.suspend

def isChange (drift : Drift) : Bool :=
  drift.schedule.isSome || drift.suspend.isSome || drift.image.isSome

def ofFields (fields : Fields) : Drift where
  schedule := fields.get? "schedule"
  suspend := fields.get? "suspend"
  image := fields.get? "image"

/-- The path from a job to the pod that it makes. -/
def podPath : List Key := ["jobTemplate", "spec", "template", "spec"]

/-- The image of the first container of a job, null if there is none. -/
def imageOf (manifest : Value) : Except Mismatch Value := do
  let pod ← manifest.itemAt (.name "spec" :: podPath)
  let containers ← pod.field "containers"
  if containers.isBlank then return .null
  let container ← containers.first
  container.field "image"

def ofSchedule (liveSpec desiredSpec : Value) : Except Mismatch (Option Value) := do
  let live ← liveSpec.field "schedule"
  let desired ← desiredSpec.field "schedule"
  return if live.same desired then none else some desired

/-- The suspension that a live job has to get; it is corrected only if both sides state one. -/
def ofSuspend (liveSpec desiredSpec : Value) : Except Mismatch (Option Value) := do
  let live ← liveSpec.field "suspend"
  let desired ← desiredSpec.field "suspend"
  return if live.isNull || desired.isNull || live.same desired then none else some desired

def ofImage (live desired : Value) : Except Mismatch (Option Value) := do
  let liveImage ← imageOf live
  let desiredImage ← imageOf desired
  return if liveImage.same desiredImage then none else some desiredImage

/-- The drift of a live job from the desired one. -/
def between (live desired : Value) : Except Mismatch Drift := do
  let _ ← live.itemAt ["metadata", "name"]
  let liveSpec ← live.fieldD "spec" (.object [])
  let desiredSpec ← desired.fieldD "spec" (.object [])
  let schedule ← ofSchedule liveSpec desiredSpec
  let suspend ← ofSuspend liveSpec desiredSpec
  let image ← ofImage live desired
  return ⟨schedule, suspend, image⟩

/-- Write a value under a key, if there is one to write. -/
def assignIfSome (key : Key) (new : Option Value) (value : Value) : Except Mismatch Value :=
  match new with
  | some new => value.assign key new
  | none => .ok value

/-- Write the image of the first container, if there is one to write. -/
def writeImage (image : Option Value) (spec : Value) : Except Mismatch Value :=
  match image with
  | some image =>
    Value.modifyAt (podPath ++ [.name "containers"])
      (Value.modifyFirst fun container => container.assign "image" image) spec
  | none => .ok spec

/-- The live job with the places of the drift changed. -/
def apply (drift : Drift) (live : Value) : Except Mismatch Value :=
  Value.modifyItem "spec"
    (fun spec => do
      let spec ← assignIfSome "schedule" drift.schedule spec
      let spec ← assignIfSome "suspend" drift.suspend spec
      writeImage drift.image spec)
    live

end Drift
end CuratorKeeper
