import CuratorKeeper.Store.Basic

/-! # Disturbances

Other writers, and failures of the store itself, come between the calls of a program. Foreign
writes go through the store like any other, so that they take versions too.
-/
namespace CuratorKeeper

/-- Something that happens just before a call is served. -/
inductive Deed
  /-- Change single places of a resource, if it is there. -/
  | edit (edits : List Edit)
  /-- Write a resource whatever is stored. -/
  | put (resource : Value)
  /-- Remove a resource. -/
  | cull
  /-- Fail the call. -/
  | fail (fault : Fault)

/-- A deed and the resource that it is done to, if not the one that is called for. -/
structure Disturbance where
  deed : Deed
  target : Option Ref := none

namespace Store

/-- Change single places of a resource and write it again; one that is absent stays so. -/
def edit (store : Store) (ref : Ref) (edits : List Edit) : Except Fault Unit × Store :=
  match key ref with
  | .error fault => (.error fault, store)
  | .ok ref =>
    match store.find? ref with
    | none => (.ok (), store)
    | some resource =>
      let written := store.put (edits.foldl (fun resource edit => edit.apply resource) resource)
      (written.1.map fun _ => (), written.2)

/-- Remove a resource whatever is stored, and tell whether it was there. -/
def cull (store : Store) (ref : Ref) : Except Fault Bool × Store :=
  match key ref with
  | .error fault => (.error fault, store)
  | .ok ref => (.ok (store.find? ref).isSome, store.remove ref)

/-- One disturbance of the store around a call for a reference. -/
def disturb (store : Store) (ref : Ref) (disturbance : Disturbance) : Except Fault Unit × Store :=
  let target := disturbance.target.getD ref
  match disturbance.deed with
  | .edit edits => store.edit target edits
  | .put resource =>
    let written := store.put resource
    (written.1.map fun _ => (), written.2)
  | .cull =>
    let culled := store.cull target
    (culled.1.map fun _ => (), culled.2)
  | .fail fault => (.error fault, store)

/-- Disturbances one after another, up to the first that fails the call. -/
def disturbAll (store : Store) (ref : Ref) : List Disturbance → Except Fault Unit × Store
  | [] => (.ok (), store)
  | disturbance :: rest =>
    match store.disturb ref disturbance with
    | (.ok (), store) => store.disturbAll ref rest
    | (.error fault, store) => (.error fault, store)

end Store
end CuratorKeeper
