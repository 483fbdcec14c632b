import CuratorKeeper.Proofs.Job.Reading
import CuratorKeeper.Proofs.Pass.Calls

/-!
# The methods of the cluster API

The clients of the API have a method for every action on every kind of resource,
which takes its arguments by position.  A server keeps the resources, and serves
each method as a versioned store serves the request that the method stands for.
The gateway reaches for every call of a pass the method that stands for it.
-/

namespace CuratorKeeper

structure ApiMethod where
  api : String
  name : String
  /-- The request that the method stands for with some arguments, and the
  resource that it is about. -/
  request? : List Value → Option (Ref × Request)

/-- The methods for a typed kind that are about whole resources. -/
def typedMethods (kind api object : String) : List ApiMethod :=
  [{  api
      name := "create_namespaced_" ++ object
      request?
        | [space, body] => (body.itemAt ["metadata", "name"]).toOption.map fun name =>
            (⟨kind, space, name⟩, .create body)
        | _ => none },
    { api
      name := "read_namespaced_" ++ object
      request?
        | [name, space] => some (⟨kind, space, name⟩, .get ⟨kind, space, name⟩)
        | _ => none },
    { api
      name := "replace_namespaced_" ++ object
      request?
        | [name, space, body] => some (⟨kind, space, name⟩, .update body none)
        | _ => none },
    { api
      name := "delete_namespaced_" ++ object
      request?
        | [name, space] => some (⟨kind, space, name⟩, .delete ⟨kind, space, name⟩)
        | _ => none }]

/-- The request that custom objects are asked for at their coordinates. -/
def customRequest? (settings : Settings) (make : Value → List Value → Option (Ref × Request)) :
    List Value → Option (Ref × Request)
  | group :: version :: space :: plural :: rest =>
    if [group, version, plural] = [settings.crdGroup, settings.crdVersion, settings.crdPlural] then
      make space rest
    else none
  | _ => none

def customMethods (settings : Settings) : List ApiMethod :=
  let ref (space name : Value) : Ref := ⟨settings.crdKind, space, name⟩
  [{  api := "custom"
      name := "create_namespaced_custom_object"
      request? := customRequest? settings fun space rest => match rest with
        | [body] => (body.itemAt ["metadata", "name"]).toOption.map fun name =>
            (ref space name, .create body)
        | _ => none },
    { api := "custom"
      name := "get_namespaced_custom_object"
      request? := customRequest? settings fun space rest => match rest with
        | [name] => some (ref space name, .get (ref space name))
        | _ => none },
    { api := "custom"
      name := "replace_namespaced_custom_object"
      request? := customRequest? settings fun space rest => match rest with
        | [name, body] => some (ref space name, .update body none)
        | _ => none },
    { api := "custom"
      name := "replace_namespaced_custom_object_status"
      request? := customRequest? settings fun space rest => match rest with
        | [name, body] => some (ref space name, .update body (some "status"))
        | _ => none },
    { api := "custom"
      name := "delete_namespaced_custom_object"
      request? := customRequest? settings fun space rest => match rest with
        | [name] => some (ref space name, .delete (ref space name))
        | _ => none }]

def apiMethods (settings : Settings) : List ApiMethod :=
  typedMethods "ServiceAccount" "core" "service_account" ++
    typedMethods "ConfigMap" "core" "config_map" ++ typedMethods "Secret" "core" "secret" ++
    typedMethods "CronJob" "batch" "cron_job" ++ customMethods settings

/-- The request that a call of a method stands for. -/
def methodRequest? (settings : Settings) (api name : String) (arguments : List Value) :
    Option (Ref × Request) :=
  ((apiMethods settings).find? fun method => method.api = api ∧ method.name = name).bind
    fun method => method.request? arguments

/-- An exchange calls the method that stands for a request. -/
structure Exchange.StandsFor (settings : Settings) (exchange : Exchange) (ref : Ref)
    (request : Request) : Prop where
  about : exchange.ref = ref
  asks : exchange.request = request
  method : methodRequest? settings exchange.api exchange.method (exchange.arguments settings) =
    some (ref, request)

namespace Gateway

variable {settings : Settings} {library : ClientLibrary} {ref : Ref} {request : Request}

theorem plan_eq_ok {reached : Endpoint} {ending : Option String} (known : request.ref = .ok ref)
    (reaches : endpoint settings ref = .ok reached)
    (served : servedRequest library reached request = .ok (request, ending)) :
    plan settings request library = .ok ⟨reached, ref, request, ending⟩ :=
  except_bind_eq_ok.mpr ⟨ref, except_mapError_eq_ok.mpr known, except_bind_eq_ok.mpr
    ⟨reached, reaches, except_bind_eq_ok.mpr ⟨(request, ending), served, rfl⟩⟩⟩

theorem servedRequest_of_whole (library : ClientLibrary) (reached : Endpoint)
    (whole : request.part? = none) : servedRequest library reached request = .ok (request, none) := by
  cases request with
  | update resource part =>
      cases whole
      cases reached <;> rfl
  | _ => rfl

/-- A custom object is served as a whole, and its status is. -/
theorem servedRequest_custom (library : ClientLibrary)
    (part : request.part? = none ∨ request.part? = some "status") :
    servedRequest library .custom request = .ok (request, request.part?) := by
  rcases part with whole | status
  · rw [servedRequest_of_whole library .custom whole, whole]
  · cases request with
    | update resource part =>
        cases status
        rfl
    | _ => cases status

theorem plan_typed (owned : ref.kind ∈ Cluster.ownedKinds) (known : request.ref = .ok ref)
    (typed : isCustom settings ref.kind = false) (whole : request.part? = none) :
    ∃ exchange, plan settings request library = .ok exchange ∧
      exchange.StandsFor settings ref request := by
  obtain ⟨kind, space, name⟩ := ref
  have planned : ∀ {typedKind : TypedKind}, typedKind? kind = some typedKind →
      plan settings request library = .ok ⟨.typed typedKind, ⟨kind, space, name⟩, request, none⟩ := by
    intro typedKind isKind
    refine plan_eq_ok known ?_ (servedRequest_of_whole _ _ whole)
    simp only at typed
    simp [endpoint, typed, isKind]
  simp only [Cluster.ownedKinds, List.mem_cons, List.not_mem_nil, or_false] at owned
  cases request with
  | create resource =>
      have named : (resource.itemAt ["metadata", "name"]).toOption = some name := by
        rw [Ref.itemAt_name known]
        rfl
      rcases owned with rfl | rfl | rfl | rfl
      all_goals
        refine ⟨_, planned rfl, rfl, rfl, ?_⟩
        exact congrArg (Option.map _) named
  | get target =>
      obtain rfl := Except.ok.inj known
      rcases owned with rfl | rfl | rfl | rfl
      all_goals exact ⟨_, planned rfl, rfl, rfl, rfl⟩
  | update resource part =>
      cases whole
      rcases owned with rfl | rfl | rfl | rfl
      all_goals exact ⟨_, planned rfl, rfl, rfl, rfl⟩
  | delete target =>
      obtain rfl := Except.ok.inj known
      rcases owned with rfl | rfl | rfl | rfl
      all_goals exact ⟨_, planned rfl, rfl, rfl, rfl⟩

theorem plan_custom (known : request.ref = .ok ref) (custom : settings.crdKind = ref.kind)
    (reaches : isCustom settings ref.kind = true)
    (part : request.part? = none ∨ request.part? = some "status") :
    ∃ exchange, plan settings request library = .ok exchange ∧
      exchange.StandsFor settings ref request := by
  obtain ⟨kind, space, name⟩ := ref
  simp only at custom
  subst custom
  have reached : endpoint settings ⟨settings.crdKind, space, name⟩ = .ok .custom := if_pos reaches
  refine ⟨_, plan_eq_ok known reached (servedRequest_custom library part), rfl, rfl, ?_⟩
  have found : ∀ {method : ApiMethod}, (apiMethods settings).find? (fun method =>
      method.api = "custom" ∧ method.name = Exchange.method ⟨.custom, ⟨settings.crdKind, space, name⟩,
        request, request.part?⟩) = some method →
      ∀ arguments, methodRequest? settings "custom" (Exchange.method ⟨.custom,
        ⟨settings.crdKind, space, name⟩, request, request.part?⟩) arguments = method.request? arguments :=
    fun isMethod arguments => by rw [methodRequest?, isMethod, Option.bind_some]
  cases request with
  | create resource =>
      have named : (resource.itemAt ["metadata", "name"]).toOption = some name := by
        rw [Ref.itemAt_name known]
        rfl
      exact (found rfl _).trans ((if_pos rfl).trans (congrArg (Option.map _) named))
  | get target =>
      obtain rfl := Except.ok.inj known
      exact (found rfl _).trans (if_pos rfl)
  | update resource part =>
      rcases part with whole | status
      · cases whole
        exact (found rfl _).trans (if_pos rfl)
      · cases status
        exact (found rfl _).trans (if_pos rfl)
  | delete target =>
      obtain rfl := Except.ok.inj known
      exact (found rfl _).trans (if_pos rfl)

end Gateway
end CuratorKeeper
