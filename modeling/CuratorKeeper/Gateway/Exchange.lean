import CuratorKeeper.Gateway.Library
import CuratorKeeper.Program.Basic
import CuratorKeeper.Settings

/-! # The cluster API

The same requests can be served by the API of a cluster. Each makes one exchange with the API of
its kind of resource; what the API answers is turned back into an answer of a store.
-/
namespace CuratorKeeper

/-- Where an exchange goes: the API of a typed kind, or that of custom objects. -/
inductive Endpoint
  | typed (kind : TypedKind)
  | custom
  deriving DecidableEq

/-- One exchange with the API, with the request as the API serves it. -/
structure Exchange where
  endpoint : Endpoint
  ref : Ref
  request : Request
  /-- The ending of the name of the method. -/
  ending : Option String
  deriving DecidableEq

namespace Exchange

def api (exchange : Exchange) : String :=
  match exchange.endpoint with
  | .custom => "custom"
  | .typed .cronJob => "batch"
  | .typed _ => "core"

/-- What an exchange does, as it stands in the name of its method. -/
def action (exchange : Exchange) : String :=
  match exchange.request.verb, exchange.endpoint with
  | .create, _ => "create"
  | .get, .typed _ => "read"
  | .get, .custom => "get"
  | .update, _ => "replace"
  | .delete, _ => "delete"

/-- The method that an exchange calls. -/
def method (exchange : Exchange) : String :=
  let object := match exchange.endpoint with
    | .typed kind => kind.methodName
    | .custom => "custom_object"
  exchange.action ++ "_namespaced_" ++ object ++
    match exchange.ending with
    | none => ""
    | some ending => "_" ++ ending

/-- The coordinates of the custom objects of a namespace. -/
def coordinates (settings : Settings) (space : Value) : List Value :=
  [settings.crdGroup, settings.crdVersion, space, settings.crdPlural]

def arguments (settings : Settings) (exchange : Exchange) : List Value :=
  let ref := exchange.ref
  match exchange.endpoint, exchange.request with
  | .custom, .create resource => coordinates settings ref.space ++ [resource]
  | .custom, .update resource _ => coordinates settings ref.space ++ [ref.name, resource]
  | .custom, _ => coordinates settings ref.space ++ [ref.name]
  | .typed _, .create resource => [ref.space, resource]
  | .typed _, .update resource _ => [ref.name, ref.space, resource]
  | .typed _, _ => [ref.name, ref.space]

end Exchange

/-- What the API answers. -/
inductive Reply
  | returned (value : Value)
  /-- An object of a type of its own, told by all of its fields. -/
  | typed (value : Value)
  /-- The status and the reason are as they are told, null if they are not. -/
  | refused (status reason : Value)
  deriving DecidableEq

namespace Gateway

/-- Custom objects are those of the kind in the settings, also if it is the name of a typed one. -/
def isCustom (settings : Settings) (kind : Value) : Bool := kind.same settings.crdKind

def typedKind? : Value → Option TypedKind
  | .text name => TypedKind.named.lookup name
  | _ => none

def endpoint (settings : Settings) (ref : Ref) : Except Fault Endpoint :=
  if isCustom settings ref.kind then .ok .custom
  else
    match ref.kind, typedKind? ref.kind with
    | _, some kind => .ok (.typed kind)
    | .list _, none | .object _, none => .error (.mismatch .unsuited)
    | kind, none =>
      .error (.store ⟨.other, "Unsupported kind " ++ kind.shown, kind, "", .null⟩)

/-- The part of a resource that an endpoint updates, and the ending of the method for it. A custom
object has no other part than its status; for a typed kind the name of the part is the ending of
a method, which the library has to have. -/
def servedPart (library : ClientLibrary) (endpoint : Endpoint) (part : Option String) :
    Except Fault (Option String × Option String) :=
  match endpoint, part with
  | _, none => .ok (none, none)
  | .custom, some part => if part = "status" then .ok (some part, some part) else .ok (none, none)
  | .typed kind, some part =>
    match library.replaced? kind part with
    | some served => .ok (served, some part)
    | none => .error .unsupportedMethod

/-- The request as the API serves it at an endpoint, and the ending of the method for it. -/
def servedRequest (library : ClientLibrary) (endpoint : Endpoint) :
    Request → Except Fault (Request × Option String)
  | .update resource part => do
    let served ← servedPart library endpoint part
    return (.update resource served.1, served.2)
  | request => .ok (request, none)

def plan (settings : Settings) (request : Request) (library : ClientLibrary := .usual) :
    Except Fault Exchange := do
  let ref ← request.ref
  let endpoint ← endpoint settings ref
  let served ← servedRequest library endpoint request
  return ⟨endpoint, ref, served.1, served.2⟩

/-- How a refusal of the API is to be taken. -/
def refusalOf (verb : Verb) (status : Value) : Refusal :=
  if status.same 404 then .notFound
  else if status.same 409 then
    match verb with
    | .create => .alreadyExists
    | .update => .conflict
    | .get | .delete => .other
  else .other

def refusedFault (verb : Verb) (ref : Ref) (status reason : Value) : Fault :=
  .store ⟨refusalOf verb status,
    ref.display ++ ": " ++ status.display ++ " " ++ reason.display, ref.kind, ref.name, status⟩

/-- A returned object, with its kind filled in if it has none. -/
def withKind (kind : Value) : Value → Except Fault Value
  | .object fields =>
    if (Fields.get? fields "kind").isSome then .ok (.object fields)
    else .ok (.object (fields ++ [(.name "kind", kind)]))
  | _ => .error (.mismatch .noFields)

/-- The answer to a request that a reply of the API amounts to. -/
def answer (exchange : Exchange) (reply : Reply) (library : ClientLibrary := .usual) :
    Except Fault Value :=
  match reply with
  | .refused status reason =>
    .error (refusedFault exchange.request.verb exchange.ref status reason)
  | .returned value =>
    if exchange.request.verb = .delete then .ok .null else withKind exchange.ref.kind value
  | .typed value =>
    if exchange.request.verb = .delete then .ok .null
    else withKind exchange.ref.kind (library.manifestOf value)

end Gateway
end CuratorKeeper
