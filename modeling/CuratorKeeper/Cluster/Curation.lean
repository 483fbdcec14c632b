import CuratorKeeper.Cluster.Checked

/-! # What a cluster asks of its curator

The kind of curation, a schedule, whether the jobs are suspended, and what a job may consume.
-/
namespace CuratorKeeper

/-- Amounts of resources by name, as texts: the most a job may take, and what it asks for. -/
structure Quantities where
  limits : List (String × String) := []
  requests : List (String × String) := []
  deriving DecidableEq

namespace Quantities

/-- Read named amounts. A number is taken for its text; blank means no amounts. -/
def readAmounts (value : Value) : Except Mismatch (List (String × String)) :=
  if value.isBlank then .ok []
  else
    match value with
    | .object fields => .ok (fields.map fun field => (field.1.display, field.2.display))
    | _ => .error .noFields

def ofFields (fields : Fields) : Except Mismatch Quantities := do
  let limits ← readAmounts ((fields.get? "limits").getD .null)
  let requests ← readAmounts ((fields.get? "requests").getD .null)
  return ⟨limits, requests⟩

def check (key : String) (value : Value) : Except Mismatch (Checked Quantities) :=
  match value with
  | .object fields => return .valid (← ofFields fields)
  | _ => return Checked.issue key .notRecord

def toValue (quantities : Quantities) : Value :=
  let amounts (named : List (String × String)) : Value :=
    .object (named.map fun amount => (amount.1, .text amount.2))
  .object [("limits", amounts quantities.limits), ("requests", amounts quantities.requests)]

end Quantities

/-- What is to be done with the curation subsystem. -/
inductive Mode
  | enabled
  | disabled
  /-- An unrecognised kind of curation is neither built nor removed. -/
  | unknown
  deriving DecidableEq

def Mode.text : Mode → String
  | .enabled => "Enabled"
  | .disabled => "Disabled"
  | .unknown => "Unknown"

/-- Read a mode by its exact text. -/
def Mode.ofValue (value : Value) : Except Fault Mode :=
  match value with
  | .text "Enabled" => .ok .enabled
  | .text "Disabled" => .ok .disabled
  | .text "Unknown" => .ok .unknown
  | _ => .error (.unreadable (.mode value))

/-- The curation that a cluster asks for. -/
structure Curation where
  type : Option String := none
  schedule : String := ""
  suspend : Option Bool := none
  resources : Option Quantities := none
  deriving DecidableEq

namespace Curation

/-- The one kind of curation that is served. -/
def curatorType : String := "curator"

/-- No kind of curation means none; a kind that is not served means to keep away. -/
def mode (curation : Curation) : Mode :=
  match curation.type with
  | none => .disabled
  | some type =>
    if type = "" then .disabled
    else if type = curatorType then .enabled
    else .unknown

def check (type schedule suspend : Option Value) (resources : Checked (Option Quantities)) :
    Checked Curation :=
  Curation.mk
    <$> Checked.withDefault none (Checked.nullable (Checked.text "type")) type
    <*> Checked.withDefault "" (Checked.text "schedule") schedule
    <*> Checked.withDefault none (Checked.nullable (Checked.truth "suspend")) suspend
    <*> resources

def ofFields (fields : Fields) : Except Mismatch (Checked Curation) := do
  let resources ← match fields.get? "resources" with
    | none | some .null => pure (.valid none)
    | some value => Checked.map some <$> Quantities.check "resources" value
  return check (fields.get? "type") (fields.get? "schedule") (fields.get? "suspend") resources

def toValue (curation : Curation) : Value :=
  .object
    [("type", (curation.type.map Value.text).getD .null),
      ("schedule", .text curation.schedule),
      ("suspend", (curation.suspend.map Value.bool).getD .null),
      ("resources", (curation.resources.map Quantities.toValue).getD .null)]

end Curation
end CuratorKeeper
