import CuratorKeeper.Value.Basic

/-! # Edits at a path

Other writers change single places of a stored object. An edit never fails: one that leads
through a value without such a place leaves the object as it is.
-/
namespace CuratorKeeper

/-- A change of one place: a new value for it, or its removal. -/
structure Edit where
  path : List Key
  value : Option Value

/-- The place that an index means among so many items: a negative one counts from the end. -/
def placeOf (length : Nat) (index : Int) : Option Nat :=
  let place := if index < 0 then length + index else index
  if 0 ≤ place ∧ place < length then some place.toNat else none

namespace Value

/-- Set the place at a path; objects on the way are made where their key is missing. -/
def setAt (new : Value) : List Key → Value → Value
  | [], value => value
  | [key], .object fields => .object (setField key new fields)
  | [.position index], .list items =>
    match placeOf items.length index with
    | some place => .list (items.set place new)
    | none => .list items
  | key :: rest, .object fields =>
    .object (setField key (setAt new rest ((Fields.get? fields key).getD (.object []))) fields)
  | .position index :: rest, .list items =>
    match placeOf items.length index with
    | some place => .list (items.modify place (setAt new rest))
    | none => .list items
  | _ :: _, value => value

/-- Remove the field at a path, if it is there. The items of a list are not removed. -/
def eraseAt : List Key → Value → Value
  | [], value => value
  | [key], .object fields => .object (eraseField key fields)
  | key :: rest, .object fields =>
    match Fields.get? fields key with
    | some item => .object (setField key (eraseAt rest item) fields)
    | none => .object fields
  | .position index :: rest@(_ :: _), .list items =>
    match placeOf items.length index with
    | some place => .list (items.modify place (eraseAt rest))
    | none => .list items
  | _ :: _, value => value

end Value

/-- Carry out an edit. -/
def Edit.apply (edit : Edit) (value : Value) : Value :=
  match edit.value with
  | some new => Value.setAt new edit.path value
  | none => Value.eraseAt edit.path value

end CuratorKeeper
