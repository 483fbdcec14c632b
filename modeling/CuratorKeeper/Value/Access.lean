import CuratorKeeper.Value.Basic

/-! # Reaching into values

Nothing promises that a live manifest has the expected shape, so every step into one can fail.
Asking for a field and reading an item are different steps: the first fails only on a value
without fields, the second also when the key is not there.
-/
namespace CuratorKeeper

/-- How a value fails to have the shape that a step needs. -/
inductive Mismatch
  /-- A value that is no object was asked for one of its fields. -/
  | noFields
  /-- A value is of a kind that a step cannot work with. -/
  | unsuited
  /-- A list or text is too short. -/
  | outOfRange
  /-- An object has no such key. -/
  | missingKey (key : String)
  deriving DecidableEq

namespace Value

/-- Ask an object for a field, which may be absent. -/
def field? (value : Value) (key : Key) : Except Mismatch (Option Value) :=
  match value with
  | .object fields => .ok (Fields.get? fields key)
  | _ => .error .noFields

/-- Ask an object for a field, with a value for an absent one. -/
def fieldD (value : Value) (key : Key) (default : Value) : Except Mismatch Value :=
  return (← value.field? key).getD default

/-- Ask an object for a field, null if it is absent. -/
def field (value : Value) (key : Key) : Except Mismatch Value := value.fieldD key .null

/-- Read the item under a key, which has to be there. -/
def item (value : Value) (key : Key) : Except Mismatch Value :=
  match value with
  | .object fields =>
    match Fields.get? fields key with
    | some found => .ok found
    | none => .error (.missingKey key.display)
  | _ => .error .unsuited

/-- Read the items under the keys of a path, one inside the other. -/
def itemAt (value : Value) (path : List Key) : Except Mismatch Value := path.foldlM item value

/-- Read the first item: of a list, the first letter of a text, or at position zero of an object. -/
def first (value : Value) : Except Mismatch Value :=
  match value with
  | .list (head :: _) => .ok head
  | .list [] => .error .outOfRange
  | .text content =>
    match content.toList with
    | head :: _ => .ok (.text (String.singleton head))
    | [] => .error .outOfRange
  | .object _ => value.item (.position 0)
  | _ => .error .unsuited

def assign (value : Value) (key : Key) (new : Value) : Except Mismatch Value :=
  match value with
  | .object fields => .ok (.object (setField key new fields))
  | _ => .error .unsuited

/-- Change the item under a key, which has to be there. -/
def modifyItem (key : Key) (change : Value → Except Mismatch Value) (value : Value) :
    Except Mismatch Value := do
  let old ← value.item key
  let new ← change old
  value.assign key new

/-- Change the first item. The letters of a text cannot be changed. -/
def modifyFirst (change : Value → Except Mismatch Value) (value : Value) :
    Except Mismatch Value := do
  let old ← value.first
  let new ← change old
  match value with
  | .list (_ :: rest) => .ok (.list (new :: rest))
  | .object _ => value.assign (.position 0) new
  | _ => .error .unsuited

/-- Change the item at a path of keys, one inside the other. -/
def modifyAt (path : List Key) (change : Value → Except Mismatch Value) :
    Value → Except Mismatch Value :=
  path.foldr modifyItem change

end Value
end CuratorKeeper
