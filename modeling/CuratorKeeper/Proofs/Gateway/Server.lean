import CuratorKeeper.Proofs.Gateway.Methods
import CuratorKeeper.Proofs.Program.Alike

/-!
# A server of the cluster API

A server that keeps its resources in a versioned store serves every method as the
store serves the request that the method stands for: it returns what the store
returns, and refuses with the status of the refusal.  Through the gateway a call
then has the same answer as from the store itself, up to the wording.
-/

namespace CuratorKeeper

/-- A server of the API: its reply to a call of a method with some arguments, and
what that leaves of the resources. -/
abbrev ApiServer : Type := Store → (api method : String) → List Value → Reply × Store

/-- The server keeps its resources in a versioned store, and returns plain
manifests.  Nobody relies on what it returns of a deletion. -/
structure ApiServer.KeepsStore (server : ApiServer) (settings : Settings) : Prop where
  serves : ∀ {api method : String} {arguments : List Value} {ref : Ref} {request : Request}
    {store after : Store} {value : Value},
    methodRequest? settings api method arguments = some (ref, request) →
      store.serve ref request = (.ok value, after) →
        ∃ returned, server store api method arguments = (.returned returned, after) ∧
          (request.verb ≠ .delete → returned = value)
  refuses : ∀ {api method : String} {arguments : List Value} {ref : Ref} {request : Request}
    {store after : Store} {fault : StoreFault},
    methodRequest? settings api method arguments = some (ref, request) →
      store.serve ref request = (.error (.store fault), after) →
        ∃ reason, server store api method arguments = (.refused fault.status reason, after)

/-- A manifest has a kind, so that none is filled in. -/
theorem Gateway.withKind_of_ref {resource : Value} {own : Ref} (known : Ref.of resource = .ok own)
    (kind : Value) : withKind kind resource = .ok resource := by
  obtain ⟨metadata, held, hasKind, -⟩ := Ref.of_eq_ok.mp known
  obtain ⟨fields, rfl⟩ := Value.isObject_of_part? held
  have present : Fields.get? fields "kind" = some own.kind := hasKind
  rw [withKind, present]
  rfl

/-- A refusal of the store is told by its status and the verb. -/
structure StoreFault.ToldByStatus (fault : StoreFault) (verb : Verb) (ref : Ref) : Prop where
  kind : fault.kind = ref.kind
  name : fault.name = ref.name
  status : World.statusOf fault = fault.status
  refusal : Gateway.refusalOf verb fault.status = fault.refusal

theorem StoreFault.ToldByStatus.silenced {fault : StoreFault} {verb : Verb} {ref : Ref}
    (told : fault.ToldByStatus verb ref) (reason : Value) :
    (Fault.store fault).silenced = (Gateway.refusedFault verb ref fault.status reason).silenced := by
  obtain ⟨kind, name, -, refusal⟩ := told
  obtain ⟨_, _, _, _, status⟩ := fault
  simp only at kind name refusal
  subst kind name refusal
  rfl

namespace Store

variable {store : Store} {ref : Ref}

/-- A request for a plain resource is served, with a manifest unless it is a
deletion, or it is refused in a way that the status tells. -/
theorem serve_cases {request : Request} (sound : store.Sound) (plain : ref.Plain)
    (known : request.ref = .ok ref) :
    (∃ value after, store.serve ref request = (.ok value, after) ∧
        if request.verb = .delete then value = .null
        else Gateway.withKind ref.kind value = .ok value) ∨
      ∃ fault, store.serve ref request = (.error (.store fault), store) ∧
        fault.ToldByStatus request.verb ref := by
  cases request with
  | create resource =>
      cases found : store.find? ref with
      | some stored => exact .inr ⟨_, serve_create_some plain found, rfl, rfl, rfl, rfl⟩
      | none =>
          obtain ⟨written, put, content⟩ := put_of_plain plain known store
          have own : Ref.of written = .ok ref := by
            rw [← Ref.of_unversioned, content, Ref.of_unversioned]
            exact known
          refine .inl ⟨written, _, (serve_create_none plain found).trans put, ?_⟩
          exact Gateway.withKind_of_ref own _
  | get target =>
      obtain rfl := Except.ok.inj known
      cases found : store.find? target with
      | some stored =>
          refine .inl ⟨stored, _, serve_get_some plain found, ?_⟩
          exact Gateway.withKind_of_ref (sound.ref_of_found plain found) _
      | none => exact .inr ⟨_, serve_get_none plain found, rfl, rfl, rfl, rfl⟩
  | update resource part =>
      cases found : store.find? ref with
      | none => exact .inr ⟨_, serve_update_none plain found, rfl, rfl, rfl, rfl⟩
      | some stored =>
          obtain ⟨version, marked⟩ := sound.marked_of_found found
          obtain ⟨submitted, submits⟩ := exists_submittedVersion known
          obtain ⟨new, makes, newRef⟩ := exists_updated (sound.ref_of_found plain found) known part
          have served := serve_update plain found marked submits makes
          by_cases same : (Value.text (toString version)).same submitted = true
          · obtain ⟨written, put, content⟩ := put_of_plain plain newRef store
            have own : Ref.of written = .ok ref := by
              rw [← Ref.of_unversioned, content, Ref.of_unversioned, newRef]
            exact .inl ⟨written, _, (served.trans (if_pos same)).trans put,
              Gateway.withKind_of_ref own _⟩
          · exact .inr ⟨_, served.trans (if_neg same), rfl, rfl, rfl, rfl⟩
  | delete target =>
      obtain rfl := Except.ok.inj known
      cases found : store.find? target with
      | some stored => exact .inl ⟨.null, _, serve_delete_some plain found, rfl⟩
      | none => exact .inr ⟨_, serve_delete_none plain found, rfl, rfl, rfl, rfl⟩

end Store

/-- Through the server a request has the answer of the store, and the resources
become the same. -/
theorem ApiServer.KeepsStore.answer {server : ApiServer} {settings : Settings}
    (keeps : server.KeepsStore settings) {exchange : Exchange} {ref : Ref} {request : Request}
    (standsFor : exchange.StandsFor settings ref request) {store : Store} (sound : store.Sound)
    (plain : ref.Plain) (known : request.ref = .ok ref) (library : ClientLibrary) :
    ∃ reply, server store exchange.api exchange.method (exchange.arguments settings) =
        (reply, (store.serve ref request).2) ∧
      SameOutcome Eq (store.serve ref request).1 (Gateway.answer exchange reply library) := by
  obtain ⟨rfl, rfl, method⟩ := standsFor
  rcases store.serve_cases sound plain known with ⟨value, after, served, shaped⟩ | ⟨fault, served, told⟩
  · obtain ⟨returned, replied, same⟩ := keeps.serves method served
    refine ⟨_, by rw [replied, served], ?_⟩
    rw [served, Gateway.answer]
    by_cases deletes : exchange.request.verb = .delete
    · rw [if_pos deletes] at shaped ⊢
      exact .ok shaped
    · rw [if_neg deletes] at shaped ⊢
      rw [same deletes, shaped]
      exact .ok rfl
  · obtain ⟨reason, replied⟩ := keeps.refuses method served
    refine ⟨_, by rw [replied, served], ?_⟩
    rw [served, Gateway.answer]
    exact .error (told.silenced reason)

namespace Store

variable {store after : Store} {ref : Ref} {fault : Fault}

theorem disturb_eq_error {disturbance : Disturbance}
    (writes : ∀ fault, disturbance.deed ≠ .fail fault)
    (failed : store.disturb ref disturbance = (.error fault, after)) :
    ∃ mismatch, fault = .mismatch mismatch := by
  obtain ⟨deed, target⟩ := disturbance
  have ofPut : ∀ {resource : Value}, (store.put resource).1.map (fun _ => ()) = .error fault →
      ∃ mismatch, fault = .mismatch mismatch := by
    intro resource failed
    cases put : store.put resource with
    | mk written left =>
        rw [put] at failed
        cases written with
        | ok value => cases failed
        | error told =>
            cases failed
            exact put_eq_error put
  cases deed with
  | edit edits =>
      simp only [disturb, edit] at failed
      split at failed
      next unusable =>
        cases failed
        exact ⟨_, key_eq_error unusable⟩
      next =>
        split at failed
        · cases failed
        · exact ofPut (Prod.mk.inj failed).1
  | put resource => exact ofPut (Prod.mk.inj failed).1
  | cull =>
      simp only [disturb, cull] at failed
      split at failed
      next unusable =>
        cases failed
        exact ⟨_, key_eq_error unusable⟩
      next => cases failed
  | fail fault => exact absurd rfl (writes fault)

theorem disturbAll_eq_error {disturbances : List Disturbance}
    (writes : ∀ disturbance ∈ disturbances, ∀ fault, disturbance.deed ≠ .fail fault)
    (failed : store.disturbAll ref disturbances = (.error fault, after)) :
    ∃ mismatch, fault = .mismatch mismatch := by
  induction disturbances generalizing store with
  | nil => cases failed
  | cons disturbance rest ih =>
      simp only [disturbAll] at failed
      split at failed
      next => exact ih (fun other member => writes other (List.mem_cons_of_mem _ member)) failed
      next told left disturbed =>
        cases failed
        exact disturb_eq_error (writes disturbance List.mem_cons_self) disturbed

end Store

namespace World

/-- Others may write before any call, but nobody fails one. -/
def OnlyWriters (world : World) : Prop :=
  ∀ verb, ∀ disturbances ∈ world.waiting verb, ∀ disturbance ∈ disturbances, ∀ fault,
    disturbance.deed ≠ .fail fault

theorem OnlyWriters.handle {world : World} (writers : world.OnlyWriters)
    (direct : world.gateway = none) (effect : Effect) : (world.handle effect).2.OnlyWriters := by
  intro verb disturbances member
  cases effect with
  | call request =>
      rw [World.handle, World.answer, direct] at member
      exact writers verb disturbances (world.waiting_serve_subset request verb member)
  | _ => exact writers verb disturbances member

/-- Serve a request through the gateway, over a server of the API.  What waits
for the call happens before the server sees it. -/
def serveOver (server : ApiServer) (settings : Settings) (world : World) (request : Request) :
    Except Fault Value × World :=
  match Gateway.plan settings request world.library with
  | .error fault => (.error fault, world)
  | .ok exchange =>
    let disturbances := (world.waiting exchange.request.verb).headD []
    let noted := (world.noteCall
      ⟨exchange.request.verb, exchange.request.part?, exchange.ref⟩).takeWaiting
        exchange.request.verb
    match world.store.disturbAll exchange.ref disturbances with
    | (.error fault, store) =>
      ((replyOf request.verb (.error fault)).bind fun reply =>
          Gateway.answer exchange reply world.library, { noted with store })
    | (.ok (), store) =>
      let served := server store exchange.api exchange.method (exchange.arguments settings)
      (Gateway.answer exchange served.1 world.library, { noted with store := served.2 })

variable {server : ApiServer} {settings : Settings} {world mirror : World} {request : Request}

theorem serveOver_of_error {mismatch : Mismatch} (unknown : request.ref = .error mismatch) :
    world.serveOver server settings request = (.error (.mismatch mismatch), world) := by
  have planned : Gateway.plan settings request world.library = .error (.mismatch mismatch) := by
    simp only [Gateway.plan, unknown]
    rfl
  rw [serveOver, planned]

theorem Mirrors.noted (mirrors : world.Mirrors mirror) (call : CallNote) (verb : Verb)
    (store : Store) :
    Mirrors { (world.noteCall call).takeWaiting verb with store }
      { (mirror.noteCall call).takeWaiting verb with store } where
  store := rfl
  waiting := by simp only [takeWaiting, noteCall, mirrors.waiting]
  draws := mirrors.draws
  locks := mirrors.locks
  calls := by simp only [takeWaiting, noteCall, mirrors.calls]
  pauses := mirrors.pauses

/-- A call that is answered by the store has the same answer through the gateway,
and both leave the same behind. -/
theorem serve_agrees (keeps : server.KeepsStore settings) (writers : world.OnlyWriters)
    (mirrors : world.Mirrors mirror) {exchange : Exchange} {ref : Ref}
    (known : request.ref = .ok ref) (plain : ref.Plain)
    (planned : Gateway.plan settings request mirror.library = .ok exchange)
    (standsFor : exchange.StandsFor settings ref request)
    (sound : (world.store.disturbAll ref ((world.waiting request.verb).headD [])).2.Sound) :
    SameOutcome Eq (world.serve request).1 (mirror.serveOver server settings request).1 ∧
      (world.serve request).2.Mirrors (mirror.serveOver server settings request).2 := by
  simp only [serve, known, serveOver, planned, standsFor.about, standsFor.asks, mirrors.store,
    mirrors.waiting]
  cases disturbed : world.store.disturbAll ref ((world.waiting request.verb).headD []) with
  | mk result store =>
      rw [disturbed] at sound
      cases result with
      | error fault =>
          have waits : ∀ disturbance ∈ (world.waiting request.verb).headD [], ∀ fault,
              disturbance.deed ≠ .fail fault := by
            rcases world.headD_waits request.verb with empty | ⟨verb, member⟩
            · rw [empty]
              simp
            · exact writers verb _ member
          obtain ⟨mismatch, rfl⟩ := Store.disturbAll_eq_error waits disturbed
          exact ⟨.error rfl, mirrors.noted _ _ _⟩
      | ok done =>
          obtain ⟨reply, replied, same⟩ := keeps.answer standsFor sound plain known mirror.library
          simp only [replied]
          exact ⟨same, mirrors.noted _ _ _⟩

/-- The gateway of a world reaches a server that keeps the store of the world. -/
def storeServer (settings : Settings) : ApiServer := fun store api method arguments =>
  match methodRequest? settings api method arguments with
  | none => (.refused 404 "page not found", store)
  | some (ref, request) =>
    match store.serve ref request with
    | (.ok value, after) => (.returned value, after)
    | (.error (.store fault), after) =>
      (.refused fault.status (.text (reasonOf request.verb fault)), after)
    | (.error _, after) => (.refused .null .null, after)

theorem keepsStore_storeServer (settings : Settings) :
    (storeServer settings).KeepsStore settings where
  serves stands served := ⟨_, by simp only [storeServer, stands, served], fun _ => rfl⟩
  refuses stands refused := ⟨_, by simp only [storeServer, stands, refused]; rfl⟩

theorem serveThrough_eq_serveOver {exchange : Exchange} {ref : Ref}
    (known : request.ref = .ok ref) (plain : ref.Plain)
    (planned : Gateway.plan settings request world.library = .ok exchange)
    (standsFor : exchange.StandsFor settings ref request)
    (sound : (world.store.disturbAll ref ((world.waiting request.verb).headD [])).2.Sound) :
    world.serveThrough settings request =
      world.serveOver (storeServer settings) settings request := by
  simp only [serveThrough, serve, known, serveOver, planned, standsFor.about, standsFor.asks]
  cases disturbed : world.store.disturbAll ref ((world.waiting request.verb).headD []) with
  | mk result store =>
      rw [disturbed] at sound
      cases result with
      | error fault => rfl
      | ok done =>
          simp only [storeServer, standsFor.method]
          rcases store.serve_cases sound plain known with
            ⟨value, after, served, -⟩ | ⟨fault, served, told⟩
          · simp only [served]
            rfl
          · simp only [served, replyOf, told.status]
            rfl

end World
end CuratorKeeper
