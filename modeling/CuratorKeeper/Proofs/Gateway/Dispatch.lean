import CuratorKeeper.Proofs.Gateway.Server
import CuratorKeeper.Proofs.Value.Sameness

/-!
# What the gateway asks of the API

A request for a resource of a supported kind asks one thing of the client for this
kind, and whatever the API replies is told on: a refusal by its status, and an object
with its kind.  A request for any other kind asks nothing.
-/

namespace CuratorKeeper

structure ApiCall where
  api : String
  method : String
  arguments : List Value
  deriving DecidableEq

/-- A client of the API is for custom objects or for those of a typed kind, which have
a name in its methods. -/
inductive Client
  | custom
  | typed (api object : String)
  deriving DecidableEq

namespace Client

def named : List (String × Client) :=
  [("ServiceAccount", .typed "core" "service_account"), ("ConfigMap", .typed "core" "config_map"),
    ("Secret", .typed "core" "secret"), ("CronJob", .typed "batch" "cron_job")]

/-- The client for a kind, if it is supported.  The kind of the custom objects comes first. -/
def ofKind? (settings : Settings) (kind : Value) : Option Client :=
  if kind.same settings.crdKind then some .custom
  else
    match kind with
    | .text name => named.lookup name
    | _ => none

def call (settings : Settings) (ref : Ref) : Client → Request → ApiCall
  | .typed api object, .create resource =>
    ⟨api, "create_namespaced_" ++ object, [ref.space, resource]⟩
  | .typed api object, .get _ => ⟨api, "read_namespaced_" ++ object, [ref.name, ref.space]⟩
  | .typed api object, .update resource none =>
    ⟨api, "replace_namespaced_" ++ object, [ref.name, ref.space, resource]⟩
  | .typed api object, .update resource (some part) =>
    ⟨api, "replace_namespaced_" ++ object ++ "_" ++ part, [ref.name, ref.space, resource]⟩
  | .typed api object, .delete _ => ⟨api, "delete_namespaced_" ++ object, [ref.name, ref.space]⟩
  | .custom, request =>
    let coordinates := [settings.crdGroup, settings.crdVersion, ref.space, settings.crdPlural]
    match request with
    | .create resource =>
      ⟨"custom", "create_namespaced_custom_object", coordinates ++ [resource]⟩
    | .get _ => ⟨"custom", "get_namespaced_custom_object", coordinates ++ [ref.name]⟩
    | .update resource none =>
      ⟨"custom", "replace_namespaced_custom_object", coordinates ++ [ref.name, resource]⟩
    | .update resource (some part) =>
      ⟨"custom", "replace_namespaced_custom_object_" ++ part, coordinates ++ [ref.name, resource]⟩
    | .delete _ => ⟨"custom", "delete_namespaced_custom_object", coordinates ++ [ref.name]⟩

/-- A client serves requests for whole resources; custom objects and jobs have a status as well. -/
def Serves (client : Client) (request : Request) : Prop :=
  request.part? = none ∨
    request.part? = some "status" ∧ (client = .custom ∨ client = .typed "batch" "cron_job")

end Client

def Endpoint.client : Endpoint → Client
  | .custom => .custom
  | .typed .serviceAccount => .typed "core" "service_account"
  | .typed .configMap => .typed "core" "config_map"
  | .typed .secret => .typed "core" "secret"
  | .typed .cronJob => .typed "batch" "cron_job"

/-- A value that is made of others. -/
def Value.isNested : Value → Bool
  | .list _ | .object _ => true
  | _ => false

/-- A fault tells of a refusal: the code 404 means that a resource is not there, and 409 that it
is there already or was written by somebody else, which depends on the verb. -/
structure StoreFault.TellsRefusal (fault : StoreFault) (verb : Verb) (ref : Ref)
    (code reason : Value) : Prop where
  message : fault.message = ref.display ++ ": " ++ code.display ++ " " ++ reason.display
  kind : fault.kind = ref.kind
  name : fault.name = ref.name
  status : fault.status = code
  notFound : fault.refusal = .notFound ↔ code.same 404 = true
  alreadyExists : fault.refusal = .alreadyExists ↔ code.same 409 = true ∧ verb = .create
  conflict : fault.refusal = .conflict ↔ code.same 409 = true ∧ verb = .update

/-- The content of a reply, unless it is a refusal. The library makes manifests of the objects
that have a type of their own. -/
def Reply.content? (library : ClientLibrary) : Reply → Option Value
  | .returned value => some value
  | .typed value => some (library.manifestOf value)
  | .refused _ _ => none

/-- An object is given on as it is, with a kind if it has none. -/
structure Value.FillsKind (given object kind : Value) : Prop where
  kind : given.part? "kind" = some ((object.part? "kind").getD kind)
  others : ∀ key : Key, key ≠ "kind" → given.part? key = object.part? key

/-- What may be told of a reply to a request. -/
inductive Reply.Told (library : ClientLibrary) (verb : Verb) (ref : Ref) :
    Reply → Except Fault Value → Prop
  | refusal {status reason : Value} {fault : StoreFault}
      (tells : fault.TellsRefusal verb ref status reason) :
      Told library verb ref (.refused status reason) (.error (.store fault))
  | deletion {reply : Reply} {content : Value} (returned : reply.content? library = some content)
      (deletes : verb = .delete) : Told library verb ref reply (.ok .null)
  | object {reply : Reply} {fields : Fields} {given : Value}
      (returned : reply.content? library = some (.object fields)) (keeps : verb ≠ .delete)
      (fills : given.FillsKind (.object fields) ref.kind) : Told library verb ref reply (.ok given)
  | shapeless {reply : Reply} {content : Value} (returned : reply.content? library = some content)
      (keeps : verb ≠ .delete) (noObject : ∀ fields, content ≠ .object fields) :
      Told library verb ref reply (.error (.mismatch .noFields))

namespace Gateway

variable {settings : Settings} {library : ClientLibrary} {ref : Ref} {request : Request}

/-- What a request asks of the API, and how it ends when the API gives a certain reply. -/
def converse (library : ClientLibrary) (settings : Settings) (request : Request) (reply : Reply) :
    List ApiCall × Except Fault Value :=
  match plan settings request library with
  | .error fault => ([], .error fault)
  | .ok exchange =>
    ([⟨exchange.api, exchange.method, exchange.arguments settings⟩],
      answer exchange reply library)

theorem tellsRefusal_refusalOf (verb : Verb) (ref : Ref) (code reason : Value) :
    StoreFault.TellsRefusal ⟨refusalOf verb code,
      ref.display ++ ": " ++ code.display ++ " " ++ reason.display, ref.kind, ref.name, code⟩
        verb ref code reason := by
  have apart : code.same 404 = true → code.same 409 = false := by
    intro missing
    by_contra met
    have equal := Value.whole_unique_of_same missing (Bool.eq_true_of_not_eq_false met)
    exact absurd equal (by decide)
  refine ⟨rfl, rfl, rfl, rfl, ?_, ?_, ?_⟩
  all_goals
    simp only [refusalOf]
    cases missing : code.same 404 with
    | true => simp [apart missing]
    | false => cases code.same 409 <;> cases verb <;> simp

theorem exists_withKind (kind : Value) (fields : Fields) :
    ∃ given, withKind kind (.object fields) = .ok given ∧
      given.FillsKind (.object fields) kind := by
  cases held : Fields.get? fields "kind" with
  | some own =>
      refine ⟨.object fields, by rw [withKind, held]; rfl, ?_, fun _ _ => rfl⟩
      rw [Value.part?, held, Option.getD_some]
  | none =>
      -- The kind comes last, and no field before it has its key.
      refine ⟨.object (fields ++ [(.name "kind", kind)]), by rw [withKind, held]; rfl, ?_, ?_⟩
      · rw [Value.part?, Value.part?, held, Option.getD_none, Fields.get?, List.lookup_append,
          ← Fields.get?, held, Option.none_or, List.lookup_cons_self]
      · intro key other
        have absent : Fields.get? [(.name "kind", kind)] key = none := by
          rw [Fields.get?, List.lookup_cons, beq_false_of_ne other]
          rfl
        rw [Value.part?, Value.part?, Fields.get?, List.lookup_append, ← Fields.get?, ← Fields.get?,
          absent, Option.or_none]

theorem told_answer (library : ClientLibrary) (exchange : Exchange) (reply : Reply) :
    reply.Told library exchange.request.verb exchange.ref (answer exchange reply library) := by
  -- Objects of a type of their own are told of like all others once their content is known.
  have returned : ∀ content : Value, reply.content? library = some content →
      answer exchange reply library = (if exchange.request.verb = .delete then .ok .null
        else withKind exchange.ref.kind content) →
      reply.Told library exchange.request.verb exchange.ref (answer exchange reply library) := by
    intro content hasContent answered
    rw [answered]
    split
    next deletes => exact .deletion hasContent deletes
    next keeps =>
      cases content with
      | object fields =>
          obtain ⟨given, filled, fills⟩ := exists_withKind exchange.ref.kind fields
          rw [filled]
          exact .object hasContent keeps fills
      | _ => exact .shapeless hasContent keeps fun _ => Value.noConfusion
  cases reply with
  | refused code reason => exact .refusal (tellsRefusal_refusalOf _ _ _ _)
  | returned value => exact returned value rfl rfl
  | typed value => exact returned (library.manifestOf value) rfl rfl

/-- A kind without a client is refused; one that is made of other values cannot even be
looked up. -/
def unsupportedFault (kind : Value) : Fault :=
  if kind.isNested then .mismatch .unsuited
  else .store ⟨.other, "Unsupported kind " ++ kind.shown, kind, "", .null⟩

theorem lookup_named (name : String) :
    Client.named.lookup name =
      (TypedKind.named.lookup name).map fun kind => (Endpoint.typed kind).client := by
  simp only [Client.named, TypedKind.named, List.lookup_cons]
  cases name == "ServiceAccount" <;> cases name == "ConfigMap" <;> cases name == "Secret" <;>
    cases name == "CronJob" <;> rfl

theorem endpoint_of_client {client : Client}
    (supported : Client.ofKind? settings ref.kind = some client) :
    ∃ reached, endpoint settings ref = .ok reached ∧ reached.client = client := by
  unfold Client.ofKind? at supported
  unfold endpoint isCustom
  split at supported
  next custom =>
    cases supported
    exact ⟨.custom, if_pos custom, rfl⟩
  next other =>
    rw [if_neg other]
    split at supported
    next name isText =>
      rw [lookup_named, Option.map_eq_some_iff] at supported
      obtain ⟨kind, found, isClient⟩ := supported
      refine ⟨.typed kind, ?_, isClient⟩
      rw [isText, typedKind?, found]
    next => cases supported

theorem endpoint_of_unsupported (unsupported : Client.ofKind? settings ref.kind = none) :
    endpoint settings ref = .error (unsupportedFault ref.kind) := by
  unfold Client.ofKind? at unsupported
  unfold endpoint isCustom
  split at unsupported
  next => cases unsupported
  next other =>
    rw [if_neg other]
    cases isKind : ref.kind with
    | text name =>
        rw [isKind] at unsupported
        simp only [lookup_named, Option.map_eq_none_iff] at unsupported
        rw [typedKind?, unsupported]
        rfl
    | _ => rfl

theorem endpoint_of_status {reached : Endpoint}
    (client : reached.client = .custom ∨ reached.client = .typed "batch" "cron_job") :
    reached = .custom ∨ reached = .typed .cronJob := by
  cases reached with
  | custom => exact .inl rfl
  | typed kind =>
      cases kind with
      | cronJob => exact .inr rfl
      | _ => simp [Endpoint.client] at client

theorem servedRequest_of_serves {reached : Endpoint} (documented : library.Documented)
    (serves : reached.client.Serves request) :
    servedRequest library reached request = .ok (request, request.part?) := by
  rcases serves with whole | ⟨status, client⟩
  · rw [servedRequest_of_whole library reached whole, whole]
  · rcases endpoint_of_status client with rfl | rfl
    · exact servedRequest_custom library (.inr status)
    · cases request with
      | update resource part =>
          cases status
          rw [servedRequest, servedPart, documented.jobStatus]
          rfl
      | _ => cases status

theorem call_of_serves {reached : Endpoint} (ref : Ref) (serves : reached.client.Serves request) :
    let exchange : Exchange := ⟨reached, ref, request, request.part?⟩
    ApiCall.mk exchange.api exchange.method (exchange.arguments settings) =
      reached.client.call settings ref request := by
  cases request with
  | update resource part =>
      rcases serves with whole | ⟨status, client⟩
      · cases whole
        cases reached with
        | custom => rfl
        | typed kind => cases kind <;> rfl
      · cases status
        rcases endpoint_of_status client with rfl | rfl <;> rfl
  | _ =>
      cases reached with
      | custom => rfl
      | typed kind => cases kind <;> rfl

theorem converse_of_serves {client : Client} (documented : library.Documented)
    (known : request.ref = .ok ref) (supported : Client.ofKind? settings ref.kind = some client)
    (serves : client.Serves request) (reply : Reply) :
    (converse library settings request reply).1 = [client.call settings ref request] ∧
      reply.Told library request.verb ref (converse library settings request reply).2 := by
  obtain ⟨reached, reaches, rfl⟩ := endpoint_of_client supported
  have planned := plan_eq_ok known reaches (servedRequest_of_serves documented serves)
  simp only [converse, planned, ← call_of_serves ref serves]
  exact ⟨trivial, told_answer library ⟨reached, ref, request, request.part?⟩ reply⟩

theorem converse_of_unsupported (library : ClientLibrary) (known : request.ref = .ok ref)
    (unsupported : Client.ofKind? settings ref.kind = none) (reply : Reply) :
    converse library settings request reply = ([], .error (unsupportedFault ref.kind)) := by
  have planned : plan settings request library = .error (unsupportedFault ref.kind) := by
    unfold plan
    rw [known]
    change (endpoint settings ref >>= fun _ => _) = _
    rw [endpoint_of_unsupported unsupported]
    rfl
  rw [converse, planned]

/-- Through any library with the documented methods, a request for a resource of a supported
kind that its client serves asks one thing, and is told of whatever the API replies.  A request
for any other kind asks nothing: it is refused, or goes wrong when the kind is made of other
values. -/
theorem converse_dispatches {library : ClientLibrary} (documented : library.Documented)
    (settings : Settings) (known : request.ref = .ok ref) (reply : Reply) :
    (∀ client, Client.ofKind? settings ref.kind = some client → client.Serves request →
      (converse library settings request reply).1 = [client.call settings ref request] ∧
        reply.Told library request.verb ref (converse library settings request reply).2) ∧
    (Client.ofKind? settings ref.kind = none →
      (converse library settings request reply).1 = [] ∧
      (ref.kind.isNested = false → (converse library settings request reply).2 =
        .error (.store ⟨.other, "Unsupported kind " ++ ref.kind.shown, ref.kind, "", .null⟩)) ∧
      (ref.kind.isNested = true →
        (converse library settings request reply).2 = .error (.mismatch .unsuited))) := by
  refine ⟨fun client supported serves =>
    converse_of_serves documented known supported serves reply, ?_⟩
  intro unsupported
  rw [converse_of_unsupported library known unsupported, unsupportedFault]
  exact ⟨rfl, fun flat => by rw [flat]; rfl, fun nested => by rw [nested]; rfl⟩

/-- A resource in a namespace, whose kind may be anything. -/
def resourceOfKind (kind : Value) : Value :=
  .object [("kind", kind), ("metadata", .object [("name", "curator"), ("namespace", "logging")])]

/-- The new status of a job is sent once to the method for it, and that somebody else wrote the
job meanwhile is a conflict. -/
theorem contested_status_converse :
    let resource := resourceOfKind "CronJob"
    let request := Request.update resource (some "status")
    let told := converse .usual {} request (.refused 409 "Conflict")
    ClientLibrary.usual.Documented ∧ request.ref = .ok ⟨"CronJob", "logging", "curator"⟩ ∧
      Client.ofKind? {} "CronJob" = some (.typed "batch" "cron_job") ∧
      (Client.typed "batch" "cron_job").Serves request ∧
      told.1 = [⟨"batch", "replace_namespaced_cron_job_status", ["curator", "logging", resource]⟩] ∧
      (Reply.refused 409 "Conflict").Told .usual .update ⟨"CronJob", "logging", "curator"⟩
        told.2 := by
  intro resource request told
  have known : request.ref = .ok ⟨"CronJob", "logging", "curator"⟩ := rfl
  have supported : Client.ofKind? {} "CronJob" = some (.typed "batch" "cron_job") := by decide
  have serves : (Client.typed "batch" "cron_job").Serves request := .inr ⟨rfl, .inr rfl⟩
  have dispatched :=
    converse_dispatches ClientLibrary.documented_usual {} known (.refused 409 "Conflict")
  exact ⟨ClientLibrary.documented_usual, known, supported, serves,
    dispatched.1 _ supported serves⟩

/-- A kind that is a list is not supported, but no refusal of a store tells so. -/
theorem list_kind_has_no_refusal :
    let request := Request.create (resourceOfKind (.list []))
    request.ref = .ok ⟨.list [], "logging", "curator"⟩ ∧ Client.ofKind? {} (.list []) = none ∧
      ∀ library reply, (converse library {} request reply).1 = [] ∧
        ∀ fault, (converse library {} request reply).2 ≠ .error (.store fault) := by
  intro request
  refine ⟨rfl, by decide, fun library reply => ⟨rfl, fun fault same => ?_⟩⟩
  have unsuited : (converse library {} request reply).2 = .error (.mismatch .unsuited) := rfl
  rw [unsuited] at same
  cases same

end Gateway

/-- Over a server a request ends as the reply of the server to what it asks tells. -/
theorem World.serveOver_eq_converse {server : ApiServer} {settings : Settings} {world : World}
    {request : Request} {reply : Reply} (undisturbed : world.waiting = fun _ => [])
    (replies : ∀ call ∈ (Gateway.converse world.library settings request reply).1,
      (server world.store call.api call.method call.arguments).1 = reply) :
    (world.serveOver server settings request).1 =
      (Gateway.converse world.library settings request reply).2 := by
  unfold Gateway.converse at replies ⊢
  unfold serveOver
  cases planned : Gateway.plan settings request world.library with
  | error fault => rfl
  | ok exchange =>
      rw [planned] at replies
      have replied := replies _ List.mem_cons_self
      simp only [undisturbed, List.headD_nil, Store.disturbAll, replied]

end CuratorKeeper
