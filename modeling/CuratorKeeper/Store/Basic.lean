import CuratorKeeper.Program.Basic
import CuratorKeeper.Value.Edit

/-! # The versioned store

Resources are kept by reference. Every write takes the next version and marks the resource with
it; an update is served only if it carries the version that is stored.
-/
namespace CuratorKeeper

/-- The resources by reference, and the last version given out. -/
structure Store where
  entries : List (Ref × Value) := []
  version : Nat := 0

namespace Store

def find? (store : Store) (ref : Ref) : Option Value :=
  (store.entries.find? fun entry => entry.1.same ref).map Prod.snd

/-- Keep a resource: in its place if there is one with the reference, else at the end. -/
def keep (ref : Ref) (resource : Value) : List (Ref × Value) → List (Ref × Value)
  | [] => [(ref, resource)]
  | entry :: rest =>
    if entry.1.same ref then (entry.1, resource) :: rest else entry :: keep ref resource rest

def remove (store : Store) (ref : Ref) : Store :=
  { store with entries := store.entries.filter fun entry => !entry.1.same ref }

/-- What is kept under a reference is found under it. -/
theorem find?_keep_self {ref : Ref} (itself : ref.same ref) (resource : Value)
    (entries : List (Ref × Value)) (version : Nat) :
    find? ⟨keep ref resource entries, version⟩ ref = some resource := by
  unfold find?
  induction entries with
  | nil => simp [keep, itself]
  | cons entry rest ih =>
    by_cases h : entry.1.same ref
    · simp [keep, h]
    · simpa [keep, h] using ih

@[simp]
theorem find?_remove_self (store : Store) (ref : Ref) : (store.remove ref).find? ref = none := by
  simp [find?, remove]

/-- The resource marked with a version; missing metadata are made. -/
def stamp (version : Nat) (resource : Value) : Except Mismatch Value := do
  let metadata ← resource.fieldD "metadata" (.object [])
  let metadata ← metadata.assign "resourceVersion" (.text (toString version))
  resource.assign "metadata" metadata

/-- A reference that a resource can be looked up by. -/
def key (ref : Ref) : Except Fault Ref :=
  if ref.isKey then .ok ref else .error (.mismatch .unsuited)

/-- Write a resource whatever is stored. The version is spent even if the write fails. -/
def put (store : Store) (resource : Value) : Except Fault Value × Store :=
  let version := store.version + 1
  let spent := { store with version }
  let stamped : Except Fault (Ref × Value) := do
    let stamped ← stamp version resource
    let ref ← Ref.of stamped
    let ref ← key ref
    return (ref, stamped)
  match stamped with
  | .ok (ref, stamped) => (.ok stamped, { spent with entries := keep ref stamped store.entries })
  | .error fault => (.error fault, spent)

def refuse (refusal : Refusal) (ref : Ref) (text : String) (status : Value) : Fault :=
  .store ⟨refusal, ref.display ++ text, ref.kind, ref.name, status⟩

def absent (ref : Ref) : Fault := refuse .notFound ref " not found" 404

def storedVersion (stored : Value) : Except Mismatch Value :=
  stored.itemAt ["metadata", "resourceVersion"]

/-- The version that a submitted resource was read with, null if it states none. -/
def submittedVersion (resource : Value) : Except Mismatch Value := do
  (← resource.item "metadata").field "resourceVersion"

/-- What an update leaves of the stored resource and of the submitted one. -/
def updated (stored resource : Value) (part : Option String) : Except Mismatch Value :=
  if part = some "status" then do stored.assign "status" (← resource.field "status")
  else .ok resource

/-- Serve a request about the resource with a reference. -/
def serve (store : Store) (ref : Ref) : Request → Except Fault Value × Store
  | .create resource =>
    match key ref with
    | .error fault => (.error fault, store)
    | .ok ref =>
      if (store.find? ref).isSome then (.error (refuse .alreadyExists ref " exists" 409), store)
      else store.put resource
  | .get ref =>
    match key ref with
    | .error fault => (.error fault, store)
    | .ok ref =>
      match store.find? ref with
      | some resource => (.ok resource, store)
      | none => (.error (absent ref), store)
  | .update resource part =>
    match key ref with
    | .error fault => (.error fault, store)
    | .ok ref =>
      match store.find? ref with
      | none => (.error (absent ref), store)
      | some stored =>
        match storedVersion stored, submittedVersion resource, updated stored resource part with
        | .ok current, .ok submitted, .ok new =>
          if current.same submitted then store.put new
          else (.error (refuse .conflict ref " version conflict" 409), store)
        | .error fault, _, _ | _, .error fault, _ | _, _, .error fault =>
          (.error (.mismatch fault), store)
  | .delete ref =>
    match key ref with
    | .error fault => (.error fault, store)
    | .ok ref =>
      if (store.find? ref).isSome then (.ok .null, store.remove ref)
      else (.error (absent ref), store)

end Store
end CuratorKeeper
