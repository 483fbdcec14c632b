import CuratorKeeper.Value.Basic

/-! # Loose sameness of values

Live manifests are compared loosely: numbers and truth values by what they amount to, lists item
by item, and objects field by field in any order.
-/
namespace CuratorKeeper.Value

mutual
/-- Two values are the same up to the kind of their numbers and the order of their fields. -/
def same : Value → Value → Bool
  | .null, other => other.isNull
  | .bool truth, other =>
    match other.amount? with
    | some amount => Number.same (.whole (if truth then 1 else 0)) amount
    | none => false
  | .number amount, other =>
    match other.amount? with
    | some amount' => amount.same amount'
    | none => false
  | .text content, .text content' => content == content'
  | .text _, _ => false
  | .list items, .list items' => sameItems items items'
  | .list _, _ => false
  | .object fields, .object fields' => fields.length == fields'.length && sameFields fields fields'
  | .object _, _ => false

/-- Lists of equal length with the same items in order. -/
def sameItems : List Value → List Value → Bool
  | [], [] => true
  | item :: rest, item' :: rest' => item.same item' && sameItems rest rest'
  | _, _ => false

/-- Every field is found with the same value among the others. -/
def sameFields : List (Key × Value) → List (Key × Value) → Bool
  | [], _ => true
  | (key, value) :: rest, others =>
    (match Fields.get? others key with
      | some value' => value.same value'
      | none => false) && sameFields rest others
end

end CuratorKeeper.Value
