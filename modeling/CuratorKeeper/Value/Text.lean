import CuratorKeeper.Value.Basic
import CuratorKeeper.Text.Quoted

/-! # Values in messages

A text appears in a message as it is; every other value, and a text inside a list or an object,
appears in its written form.
-/
namespace CuratorKeeper

/-- The written form of a key. -/
def Key.shown : Key → String
  | .name text => Text.quoted text
  | .position index => toString index

namespace Value

mutual
/-- The written form of a value, with its texts quoted. -/
def shown : Value → String
  | .null => "None"
  | .bool truth => if truth then "True" else "False"
  | .number amount => amount.text
  | .text content => Text.quoted content
  | .list items => "[" ++ ", ".intercalate (shownItems items) ++ "]"
  | .object fields => "\x7b" ++ ", ".intercalate (shownFields fields) ++ "\x7d"

def shownItems : List Value → List String
  | [] => []
  | item :: rest => shown item :: shownItems rest

def shownFields : List (Key × Value) → List String
  | [] => []
  | (key, value) :: rest => (key.shown ++ ": " ++ shown value) :: shownFields rest
end

/-- A value as it stands in a message: a text bare, anything else in its written form. -/
def display : Value → String
  | .text content => content
  | value => value.shown

end Value
end CuratorKeeper
