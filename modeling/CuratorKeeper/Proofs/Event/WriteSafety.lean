import CuratorKeeper.Event.Handler
import CuratorKeeper.Proofs.Pass.Calls

/-!
# Which calls a handler makes

Whatever events are served one after another, in whatever store, with others
writing and calls failing in between: every call is one that the object of the
event asks for.  Nothing is removed that is not owned, not managed or still
wanted, and nothing is read or written beyond the jobs and the object itself.
-/

namespace CuratorKeeper

/-- Why an object is served. -/
inductive Occasion
  | change
  | tick
  | deletion
  deriving DecidableEq

/-- An event and the handler that serves it. -/
structure Serving where
  occasion : Occasion
  event : Event
  settings : Settings
  inputs : Inputs

namespace Serving

def program (serving : Serving) : Program Unit :=
  match serving.occasion with
  | .change => (serving.event.serveChange serving.settings serving.inputs).bind fun _ => .done ()
  | .tick => serving.event.serveTick serving.settings serving.inputs
  | .deletion => serving.event.serveDeletion serving.settings

/-- The calls that are made when events are served one after another, each with
the event that it is made for. -/
def trace : List Serving → World → List (Serving × Served)
  | [], _ => []
  | serving :: rest, world =>
    (serving.program.history world).map (fun served => (serving, served)) ++
      trace rest (serving.program.run world).2

end Serving

def onceKinds : List Value := ["ServiceAccount", "ConfigMap", "Secret"]

/-- A call for a cluster that does no harm. -/
structure Served.Safe (occasion : Occasion) (cluster : Cluster) (served : Served) : Prop where
  space : served.ref.space = cluster.space
  /-- Only what is owned, managed and no longer wanted is removed. -/
  deletes : served.request.verb = .delete → cluster.isManaged = true ∧
    (cluster.curation.type = none ∨ cluster.curation.type = some "" ∨ occasion = .deletion) ∧
    served.ref ∈ cluster.ownedRefs
  creates : served.request.verb = .create →
    cluster.curation.mode = .enabled ∧ served.ref ∈ cluster.ownedRefs
  /-- Only jobs of a managed cluster are updated as a whole. -/
  updatesWhole : served.request.verb = .update → served.request.part? = none →
    cluster.curation.mode = .enabled ∧ cluster.isManaged = true ∧
      ∃ name ∈ cluster.jobNames, served.ref = cluster.jobRef name
  /-- Only the status of the object itself is updated on its own. -/
  updatesPart : ∀ part, served.request.part? = some part →
    part = "status" ∧ served.ref = cluster.ref
  /-- Of the object itself only the status is written, unless it goes by the name of
  something that it owns. -/
  owner : cluster.ref ∉ cluster.ownedRefs → served.ref = cluster.ref →
    served.request.verb = .get ∨
      served.request.verb = .update ∧ served.request.part? = some "status"
  /-- What is written once is neither read nor updated, unless it is the object itself. -/
  once : served.ref.kind ∈ onceKinds → served.ref ≠ cluster.ref →
    served.request.verb ≠ .get ∧ served.request.verb ≠ .update
  /-- For an unknown kind of curation no calls are made before the deletion. -/
  recognised : occasion = .deletion ∨ cluster.curation.type = none ∨
    cluster.curation.type = some "" ∨ cluster.curation.type = some Curation.curatorType

/-- A call is safe for the cluster that an object describes. -/
def Served.SafeFor (occasion : Occasion) (object : Value) (served : Served) : Prop :=
  ∃ cluster, Cluster.ofObject object = .ok cluster ∧ served.Safe occasion cluster

theorem Curation.mode_eq_disabled {curation : Curation} :
    curation.mode = .disabled ↔ curation.type = none ∨ curation.type = some "" := by
  unfold mode
  cases curation.type with
  | none => simp
  | some type =>
      by_cases blank : type = ""
      · simp [blank]
      · by_cases served : type = curatorType <;> simp [blank, served]

theorem Curation.type_of_enabled {curation : Curation} (enabled : curation.mode = .enabled) :
    curation.type = some curatorType := by
  unfold mode at enabled
  split at enabled
  · cases enabled
  next type given =>
    by_cases blank : type = ""
    · simp [blank] at enabled
    · by_cases served : type = curatorType
      · rw [given, served]
      · simp [blank, served] at enabled

theorem Cluster.kind_jobRef_not_once (cluster : Cluster) (name : String) :
    (cluster.jobRef name).kind ∉ onceKinds := by
  simp [Cluster.jobRef, onceKinds]

/-- The calls that are made for a cluster do no harm. -/
theorem Served.OfCluster.safe {occasion : Occasion} {cluster : Cluster} {served : Served}
    (ofCluster : served.OfCluster cluster (occasion = .deletion)) :
    served.Safe occasion cluster := by
  have ownedJob : ∀ name ∈ cluster.jobNames, cluster.jobRef name ∈ cluster.ownedRefs := by
    intro name named
    exact List.mem_append_right _ (List.mem_map_of_mem named)
  have recognised : cluster.curation.mode = .enabled → occasion = .deletion ∨
      cluster.curation.type = none ∨ cluster.curation.type = some "" ∨
        cluster.curation.type = some Curation.curatorType :=
    fun enabled => .inr (.inr (.inr (Curation.type_of_enabled enabled)))
  cases ofCluster with
  | removes managed unwanted owned =>
      rw [Curation.mode_eq_disabled] at unwanted
      exact
        { space := Cluster.space_of_owned owned
          deletes := fun _ => ⟨managed, or_assoc.mp unwanted, owned⟩
          creates := nofun
          updatesWhole := nofun
          updatesPart := nofun
          owner := fun stranger same => absurd (same ▸ owned) stranger
          once := fun _ _ => ⟨nofun, nofun⟩
          recognised := unwanted.symm.imp_right fun off => off.imp_right .inl }
  | creates enabled owned =>
      exact
        { space := Cluster.space_of_owned owned
          deletes := nofun
          creates := fun _ => ⟨enabled, owned⟩
          updatesWhole := nofun
          updatesPart := nofun
          owner := fun stranger same => absurd (same ▸ owned) stranger
          once := fun _ _ => ⟨nofun, nofun⟩
          recognised := recognised enabled }
  | @readsJob name before after answer enabled named =>
      exact
        { space := rfl
          deletes := nofun
          creates := nofun
          updatesWhole := nofun
          updatesPart := nofun
          owner := fun _ _ => .inl rfl
          once := fun isOnce => absurd isOnce (cluster.kind_jobRef_not_once name)
          recognised := recognised enabled }
  | @correctsJob patched name before after answer enabled managed named =>
      exact
        { space := rfl
          deletes := nofun
          creates := nofun
          updatesWhole := fun _ _ => ⟨enabled, managed, name, named, rfl⟩
          updatesPart := nofun
          owner := fun stranger same => absurd (same ▸ ownedJob name named) stranger
          once := fun isOnce => absurd isOnce (cluster.kind_jobRef_not_once name)
          recognised := recognised enabled }
  | readsOwner enabled =>
      exact
        { space := rfl
          deletes := nofun
          creates := nofun
          updatesWhole := nofun
          updatesPart := nofun
          owner := fun _ _ => .inl rfl
          once := fun _ other => absurd rfl other
          recognised := recognised enabled }
  | reports enabled =>
      exact
        { space := rfl
          deletes := nofun
          creates := nofun
          updatesWhole := nofun
          updatesPart := fun part isPart => ⟨(Option.some.inj isPart).symm, rfl⟩
          owner := fun _ _ => .inr ⟨rfl, rfl⟩
          once := fun _ other => absurd rfl other
          recognised := recognised enabled }

namespace Program

variable {around : Surroundings} {promise : Served → Prop} {cluster : Cluster}

theorem keeps_retryLater {α : Type} {program : Program α} (event : Event) (settings : Settings)
    (what : String) (kept : Keeps around promise program) :
    Keeps around promise (event.retryLater settings what program) := by
  apply keeps_bind (keeps_attempt kept)
  intro result
  cases result with
  | ok value => exact keeps_done _
  | error fault =>
      simp only
      split
      · exact keeps_bind (keeps_note _ _ _) fun _ => keeps_fail _
      · exact keeps_fail _

theorem keeps_pass (event : Event) (settings : Settings) (inputs : Inputs) (occasion : Occasion) :
    Keeps .disturbed (Served.SafeFor occasion event.body) (event.pass settings inputs) := by
  apply keeps_ofExcept_bind
  intro cluster read
  have passes : Keeps .disturbed (Served.SafeFor occasion event.body)
      (reconcile cluster settings inputs settings.backoff) :=
    (keeps_reconcile settings inputs _).weaken fun served ofCluster =>
      ⟨cluster, read, ofCluster.safe⟩
  apply keeps_bind (keeps_retryLater _ _ _ passes)
  intro outcome
  split
  · exact keeps_bind (keeps_note _ _ _) fun _ => keeps_done _
  · exact keeps_done _

theorem keeps_serveDeletion (event : Event) (settings : Settings) :
    Keeps .disturbed (Served.SafeFor .deletion event.body) (event.serveDeletion settings) := by
  apply keeps_ofExcept_bind
  intro cluster read
  have removes : Keeps .disturbed (Served.SafeFor .deletion event.body) (removeCurator cluster) :=
    (keeps_removeCurator (.inr rfl)).weaken fun served ofCluster => ⟨cluster, read, ofCluster.safe⟩
  refine keeps_bind (keeps_bind (keeps_lock _ _) fun _ => ?_) fun deleted => ?_
  · exact keeps_thenAlways (keeps_retryLater _ _ _ removes) (keeps_lock _ _)
  · exact keeps_bind (keeps_lock _ _) fun _ => keeps_note _ _ _

theorem keeps_serving (serving : Serving) :
    Keeps .disturbed (Served.SafeFor serving.occasion serving.event.body) serving.program := by
  obtain ⟨occasion, event, settings, inputs⟩ := serving
  cases occasion with
  | change =>
      refine keeps_bind (keeps_bind (keeps_lock _ _) fun _ => ?_) fun _ => keeps_done _
      exact keeps_thenAlways (keeps_pass event settings inputs _) (keeps_lock _ _)
  | tick =>
      apply keeps_bind (keeps_lock _ _)
      intro free
      split
      · refine keeps_bind ?_ fun _ => keeps_done _
        exact keeps_thenAlways (keeps_pass event settings inputs _) (keeps_lock _ _)
      · exact keeps_note _ _ _
  | deletion => exact keeps_serveDeletion event settings

end Program

/-- Whatever events are served, with whatever others write and whatever fails
in between, every call is safe for the cluster that its event describes. -/
theorem Serving.trace_safe (servings : List Serving) (world : World)
    (direct : world.gateway = none) (reachable : world.store.Reachable) :
    ∀ entry ∈ trace servings world,
      entry.2.SafeFor entry.1.occasion entry.1.event.body := by
  have sound := reachable.sound
  clear reachable
  induction servings generalizing world with
  | nil => simp [trace]
  | cons serving rest ih =>
      -- Serving an event leaves the store sound, which is all that the next one relies on.
      have kept := Program.keeps_serving serving
      intro entry member
      rw [trace, List.mem_append] at member
      rcases member with first | later
      · obtain ⟨served, made, rfl⟩ := List.mem_map.mp first
        exact (kept.history direct sound served made).2.2
      · exact ih _ (Program.gateway_run _ direct) (kept.sound_run direct sound) entry later

/-- A change of an object in the namespace `logging` with some curation, for
which nothing has to be read from files. -/
def changeOf (kind name : String) (curation : Fields) : Serving where
  occasion := .change
  event :=
    { space := "logging"
      name := name
      body := .object
        [("kind", kind),
          ("metadata", .object [("name", name), ("namespace", "logging")]),
          ("spec", .object [("curation", .object curation)])] }
  settings := {}
  inputs := ⟨.given [], .given []⟩

/-- A cluster is built up and then goes away, while somebody else removes its
secret and a deletion fails. -/
theorem built_and_removed_trace_safe :
    let change := changeOf "ClusterLogging" "instance" [("type", "curator")]
    let servings := [change, { change with occasion := .tick }, { change with occasion := .deletion }]
    let world : World := { waiting := fun verb =>
      if verb = .delete then
        [[⟨.cull, some ⟨"Secret", "logging", "curator"⟩⟩], [⟨.fail (.curation "lost"), none⟩]]
      else [] }
    ((Serving.trace servings world).map fun entry => entry.2.request.verb) =
        [.create, .create, .create, .create, .get, .get, .get,
          .create, .create, .create, .create, .get, .get, .get, .delete, .delete] ∧
      ∀ entry ∈ Serving.trace servings world,
        entry.2.SafeFor entry.1.occasion entry.1.event.body := by
  intro change servings world
  exact ⟨by decide +kernel, Serving.trace_safe servings world rfl .empty⟩

/-- An object that goes by the name of something that it owns is removed with
it, and one of a kind that is written once is read for its status. -/
theorem namesake_removed_and_read :
    (¬ ∀ servings world, world.gateway = none → world.store.Reachable →
      ∀ entry ∈ Serving.trace servings world, ∀ cluster,
        Cluster.ofObject entry.1.event.body = .ok cluster → entry.2.ref = cluster.ref →
          entry.2.request.verb ≠ .delete) ∧
    (¬ ∀ servings world, world.gateway = none → world.store.Reachable →
      ∀ entry ∈ Serving.trace servings world, entry.2.ref.kind ∈ onceKinds →
        entry.2.request.verb ≠ .get) := by
  refine ⟨fun spared => ?_, fun unread => ?_⟩
  · let namesake := changeOf "Secret" "curator" []
    let cluster : Cluster :=
      ⟨"curator", "logging", "", Cluster.defaultApiVersion, "Secret", .managed, .combined, {}⟩
    have removed : ((namesake.program.history {}).any fun served =>
        served.ref = cluster.ref ∧ served.request.verb = .delete) = true := by
      decide +kernel
    obtain ⟨served, made, isRemoval⟩ := List.any_eq_true.mp removed
    obtain ⟨same, deletes⟩ := of_decide_eq_true isRemoval
    have member : (namesake, served) ∈ Serving.trace [namesake] {} :=
      List.mem_append_left _ (List.mem_map_of_mem made)
    exact spared [namesake] {} rfl .empty (namesake, served) member cluster rfl same deletes
  · let secret := changeOf "Secret" "instance" [("type", "curator")]
    have read : ((secret.program.history {}).any fun served =>
        served.ref.kind = "Secret" ∧ served.request.verb = .get) = true := by
      decide +kernel
    obtain ⟨served, made, isReading⟩ := List.any_eq_true.mp read
    obtain ⟨kind, gets⟩ := of_decide_eq_true isReading
    have member : (secret, served) ∈ Serving.trace [secret] {} :=
      List.mem_append_left _ (List.mem_map_of_mem made)
    exact unread [secret] {} rfl .empty (secret, served) member (by simp [onceKinds, kind]) gets

end CuratorKeeper
