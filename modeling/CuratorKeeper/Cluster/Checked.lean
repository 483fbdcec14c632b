import CuratorKeeper.Fault

/-! # Checked records

The fields of a record are checked one by one in the order of their declaration, and all their
problems are reported together.
-/
namespace CuratorKeeper

/-- A checked value, or everything that is wrong with it. -/
inductive Checked (α : Type) : Type
  | valid (value : α)
  | invalid (issues : List Issue)

namespace Checked

variable {α β : Type}

def map (change : α → β) : Checked α → Checked β
  | .valid value => .valid (change value)
  | .invalid issues => .invalid issues

/-- Put two checks together; the issues of both are kept. -/
def seq : Checked (α → β) → (Unit → Checked α) → Checked β
  | .valid change, rest => (rest ()).map change
  | .invalid issues, rest =>
    match rest () with
    | .valid _ => .invalid issues
    | .invalid more => .invalid (issues ++ more)

instance : Applicative Checked where
  map := map
  pure := .valid
  seq := seq

/-- One issue with one field. -/
def issue (key : String) (problem : Problem) : Checked α := .invalid [⟨[key], problem⟩]

/-- Put the issues of a nested record under the key of that record. -/
def under (key : String) : Checked α → Checked α
  | .valid value => .valid value
  | .invalid issues => .invalid (issues.map fun issue => { issue with place := key :: issue.place })

def orFault (record : String) : Checked α → Except Fault α
  | .valid value => .ok value
  | .invalid issues => .error (.invalid record issues)

def required (key : String) (check : Value → Checked α) (value? : Option Value) : Checked α :=
  match value? with
  | some value => check value
  | none => issue key .missing

def withDefault (default : α) (check : Value → Checked α) (value? : Option Value) : Checked α :=
  match value? with
  | some value => check value
  | none => .valid default

def nullable (check : Value → Checked α) : Value → Checked (Option α)
  | .null => .valid none
  | value => (check value).map some

def text (key : String) : Value → Checked String
  | .text content => .valid content
  | _ => issue key .notText

/-- Only the texts offered will do. -/
def oneOf (key : String) (offered : List (String × α)) : Value → Checked α
  | .text content =>
    match offered.lookup content with
    | some chosen => .valid chosen
    | none => issue key .notOffered
  | _ => issue key .notOffered

/-- The texts that stand for a truth value, in small letters. -/
def truthWords : List (String × Bool) :=
  [("0", false), ("off", false), ("f", false), ("false", false), ("n", false), ("no", false),
    ("1", true), ("on", true), ("t", true), ("true", true), ("y", true), ("yes", true)]

/-- A truth value, one of the words for it in any case, or the number one or zero. Of the other
numbers only those that are whole and fit into a word are taken for an attempt at one. -/
def truth (key : String) : Value → Checked Bool
  | .bool truth => .valid truth
  | .text content =>
    match truthWords.lookup content.toLower with
    | some truth => .valid truth
    | none => issue key .unreadableTruth
  | .number amount =>
    match amount.toWord? with
    | some 0 => .valid false
    | some 1 => .valid true
    | some _ => issue key .unreadableTruth
    | none => issue key .notTruth
  | _ => issue key .notTruth

end Checked
end CuratorKeeper
