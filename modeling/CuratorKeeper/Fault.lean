import CuratorKeeper.Ref

/-! # Faults

A fault is told by its cause. Its wording is made from the cause in one place.
-/
namespace CuratorKeeper

/-- How a store answers a request that it does not serve. -/
inductive Refusal
  /-- Harmless on creation: the resource is there already. -/
  | alreadyExists
  /-- Harmless on reading and on deletion: the resource is not there. -/
  | notFound
  /-- The submitted version is stale; reading again may help. -/
  | conflict
  /-- Anything else. -/
  | other
  deriving DecidableEq

/-- A request that the store did not serve. The status is as it was told, null if none was. -/
structure StoreFault where
  refusal : Refusal
  message : String
  kind : Value
  name : Value
  status : Value
  deriving DecidableEq

/-- What is wrong with a field of a record. -/
inductive Problem
  | missing
  | notText
  | notTruth
  /-- A text or number that stands for no truth value. -/
  | unreadableTruth
  /-- Not one of the texts that are offered. -/
  | notOffered
  | notRecord
  deriving DecidableEq

/-- A problem and the path of the field that has it. -/
structure Issue where
  place : List String
  problem : Problem
  deriving DecidableEq

/-- A text that cannot be read as what it has to be. -/
inductive Unreadable
  | whole (content : String)
  | wholeTooLong (digits : Nat)
  | real (content : String)
  | mode (value : Value)
  deriving DecidableEq

/-- Everything that ends a piece of work early. -/
inductive Fault
  | store (fault : StoreFault)
  /-- A pass failed at an operation on a resource. -/
  | pass (operation : String) (kind name : Value) (cause : Fault)
  /-- A failure of the curation subsystem without further particulars. -/
  | curation (message : String)
  /-- An event should be served again after a delay in seconds. -/
  | temporary (message : String) (delay : Int)
  /-- A record has fields that are not as they have to be. -/
  | invalid (record : String) (issues : List Issue)
  | unreadable (cause : Unreadable)
  | mismatch (cause : Mismatch)
  /-- A name is none of those that are offered. -/
  | unknownName (name : String)
  /-- The event loop cannot work with less than one worker. -/
  | tooFewWorkers
  /-- The gateway has no such method. -/
  | unsupportedMethod
  /-- A configuration file is not UTF-8 text. -/
  | undecodable
  deriving DecidableEq

instance : Coe Mismatch Fault := ⟨.mismatch⟩
instance : MonadLift (Except Mismatch) (Except Fault) := ⟨Except.mapError .mismatch⟩

def Problem.code : Problem → String
  | .missing => "missing"
  | .notText => "string_type"
  | .notTruth => "bool_type"
  | .unreadableTruth => "bool_parsing"
  | .notOffered => "enum"
  | .notRecord => "model_type"

def Issue.message (issue : Issue) : String :=
  ".".intercalate issue.place ++ " " ++ issue.problem.code

/-- The longest quotation of an unreadable numeral. -/
def Unreadable.quotationLimit : Nat := 200

def Unreadable.message : Unreadable → String
  | .whole content =>
    let quotation := (Text.quoted content).toList.take quotationLimit
    "invalid literal for int() with base 10: " ++ String.ofList quotation
  | .wholeTooLong digits =>
    "Exceeds the limit (4300 digits) for integer string conversion: value has " ++
      toString digits ++ " digits; use sys.set_int_max_str_digits() to increase the limit"
  | .real content => "could not convert string to float: " ++ Text.quoted content
  | .mode value => value.shown ++ " is not a valid CurationMode"

def Mismatch.message : Mismatch → String
  | .noFields => "the value has no fields"
  | .unsuited => "the value is of an unsuited kind"
  | .outOfRange => "the list is too short"
  | .missingKey key => key

namespace Fault

def message : Fault → String
  | .store fault => fault.message
  | .pass operation kind name cause =>
    "Failure " ++ operation ++ " " ++ kind.display ++ " " ++ name.shown ++ ": " ++ cause.message
  | .curation message => message
  | .temporary message _ => message
  | .invalid record issues => record ++ ": " ++ "; ".intercalate (issues.map Issue.message)
  | .unreadable cause => cause.message
  | .mismatch cause => cause.message
  | .unknownName name => name
  | .tooFewWorkers => "Can't set thread pool limit lower than 1."
  | .unsupportedMethod => "the API has no such method"
  | .undecodable => "the file is not UTF-8 text"

def refusal? : Fault → Option Refusal
  | .store fault => some fault.refusal
  | _ => none

/-- A failure of the curation subsystem, as against a malformed input. -/
def isCuration : Fault → Bool
  | .store _ | .pass .. | .curation _ => true
  | _ => false

end Fault
end CuratorKeeper
