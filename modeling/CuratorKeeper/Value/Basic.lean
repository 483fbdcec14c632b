import CuratorKeeper.Number

/-! # Manifest data

Manifests, cluster objects and their parts are values: null, truth values, numbers, texts, lists
and objects whose fields keep their order. Fields have names; only an edit through a position of
an object leaves a field that has the position for a key. A blank value counts as if it were not
given.
-/
namespace CuratorKeeper

/-- The key of a field of an object, or a step into a value. -/
inductive Key
  | name (text : String)
  | position (index : Int)
  deriving DecidableEq

instance : Coe String Key := ⟨.name⟩

/-- A key as it stands in a message. -/
def Key.display : Key → String
  | .name text => text
  | .position index => toString index

/-- A piece of manifest data. The keys of an object are distinct and keep their order. -/
inductive Value
  | null
  | bool (truth : Bool)
  | number (amount : Number)
  | text (content : String)
  | list (items : List Value)
  | object (fields : List (Key × Value))

abbrev Fields := List (Key × Value)

def Fields.get? (fields : Fields) (key : Key) : Option Value := fields.lookup key

instance : Inhabited Value := ⟨.null⟩
instance : Coe String Value := ⟨.text⟩
instance : Coe Bool Value := ⟨.bool⟩
instance : Coe Int Value := ⟨fun value => .number (.whole value)⟩
instance (n : Nat) : OfNat Value n := ⟨.number (.whole n)⟩

namespace Value

mutual
/-- Values are compared part by part. -/
def decEq : (a b : Value) → Decidable (a = b)
  | .null, .null => isTrue rfl
  | .bool p, .bool q => if h : p = q then isTrue (by rw [h]) else isFalse (by simpa using h)
  | .number p, .number q => if h : p = q then isTrue (by rw [h]) else isFalse (by simpa using h)
  | .text p, .text q => if h : p = q then isTrue (by rw [h]) else isFalse (by simpa using h)
  | .list p, .list q =>
    match decEqItems p q with
    | isTrue h => isTrue (by rw [h])
    | isFalse h => isFalse (by simpa using h)
  | .object p, .object q =>
    match decEqFields p q with
    | isTrue h => isTrue (by rw [h])
    | isFalse h => isFalse (by simpa using h)
  | .null, .bool _ | .null, .number _ | .null, .text _ | .null, .list _ | .null, .object _
  | .bool _, .null | .bool _, .number _ | .bool _, .text _ | .bool _, .list _ | .bool _, .object _
  | .number _, .null | .number _, .bool _ | .number _, .text _ | .number _, .list _
  | .number _, .object _
  | .text _, .null | .text _, .bool _ | .text _, .number _ | .text _, .list _ | .text _, .object _
  | .list _, .null | .list _, .bool _ | .list _, .number _ | .list _, .text _ | .list _, .object _
  | .object _, .null | .object _, .bool _ | .object _, .number _ | .object _, .text _
  | .object _, .list _ => isFalse nofun

def decEqItems : (a b : List Value) → Decidable (a = b)
  | [], [] => isTrue rfl
  | [], _ :: _ | _ :: _, [] => isFalse nofun
  | x :: xs, y :: ys =>
    match decEq x y, decEqItems xs ys with
    | isTrue h, isTrue h' => isTrue (by rw [h, h'])
    | isFalse h, _ => isFalse (by simp [h])
    | _, isFalse h => isFalse (by simp [h])

/-- Fields are compared key by key and value by value. -/
def decEqFields : (a b : List (Key × Value)) → Decidable (a = b)
  | [], [] => isTrue rfl
  | [], _ :: _ | _ :: _, [] => isFalse nofun
  | (k, x) :: xs, (l, y) :: ys =>
    if key : k = l then
      match decEq x y, decEqFields xs ys with
      | isTrue h, isTrue h' => isTrue (by rw [key, h, h'])
      | isFalse h, _ => isFalse (by simp [h])
      | _, isFalse h => isFalse (by simp [h])
    else isFalse (by simp [key])
end

instance : DecidableEq Value := decEq

/-- Null, false, zero and everything empty count as not given. -/
def isBlank : Value → Bool
  | .null => true
  | .bool truth => !truth
  | .number amount => amount.isZero
  | .text content => content == ""
  | .list items => items.isEmpty
  | .object fields => fields.isEmpty

/-- A value, or another one in place of a blank value. -/
def orIfBlank (value other : Value) : Value := if value.isBlank then other else value

def isNull : Value → Bool
  | .null => true
  | _ => false

/-- The number a value amounts to: truth values count as one and zero. -/
def amount? : Value → Option Number
  | .bool truth => some (.whole (if truth then 1 else 0))
  | .number amount => some amount
  | _ => none

/-- The field with a key, if there is a value for it. -/
def fieldIfSome (key : Key) (value : Option Value) : Fields :=
  (value.map fun value => (key, value)).toList

/-- Set a field: in its place if the key is there, else at the end. -/
def setField (key : Key) (value : Value) : Fields → Fields
  | [] => [(key, value)]
  | (other, old) :: rest =>
    if other = key then (key, value) :: rest else (other, old) :: setField key value rest

def eraseField (key : Key) (fields : Fields) : Fields :=
  fields.filter fun field => field.1 ≠ key

@[simp]
theorem get?_setField_self (key : Key) (value : Value) (fields : Fields) :
    Fields.get? (setField key value fields) key = some value := by
  unfold Fields.get?
  induction fields with
  | nil => simp [setField]
  | cons field rest ih =>
    obtain ⟨other, old⟩ := field
    by_cases h : other = key
    · simp [setField, h]
    · simp [setField, h, List.lookup_cons, ih, beq_false_of_ne (Ne.symm h)]

theorem get?_setField_of_ne {key other : Key} (different : other ≠ key) (value : Value)
    (fields : Fields) :
    Fields.get? (setField key value fields) other = fields.get? other := by
  unfold Fields.get?
  induction fields with
  | nil => simp [setField, List.lookup_cons, beq_false_of_ne different]
  | cons field rest ih =>
    obtain ⟨present, old⟩ := field
    by_cases h : present = key
    · subst h
      simp [setField, List.lookup_cons, beq_false_of_ne different]
    · simp [setField, h, List.lookup_cons, ih]

end Value
end CuratorKeeper
