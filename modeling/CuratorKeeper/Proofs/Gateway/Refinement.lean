import CuratorKeeper.Proofs.Gateway.Server
import CuratorKeeper.Proofs.Pass.Likeness
import CuratorKeeper.Proofs.Pass.Propagation

/-!
# Passes through the gateway

A pass goes by the causes of faults, and makes no calls but those for its
cluster.  Each of these reaches the method that stands for it, so that a pass
through the gateway does what it does on the store itself.
-/

namespace CuratorKeeper

namespace Program

variable (cluster : Cluster)

theorem suits_wording : Likeness.wording.Suits cluster := ⟨fun _ _ => trivial, trivial⟩

theorem heedless_removeCurator : Heedless (removeCurator cluster) :=
  (@resembles_removeCurator _ () _ (suits_wording cluster)).alike

theorem heedless_reconcile (settings : Settings) (inputs : Inputs) (budget : Budget) :
    Heedless (reconcile cluster settings inputs budget) :=
  (@resembles_reconcile_itself _ () _ (suits_wording cluster) settings inputs budget).alike

end Program

section Calls

variable {cluster : Cluster} {goes : Prop} {settings : Settings} {library : ClientLibrary}
  {served : Served}

/-- Every call for a cluster whose kind is that of the custom objects reaches the
method that stands for it. -/
theorem Served.OfCluster.planned (ofCluster : served.OfCluster cluster goes)
    (custom : settings.crdKind = .text cluster.kind)
    (stranger : cluster.ref.kind ∉ Cluster.ownedKinds)
    (known : served.request.ref = .ok served.ref) :
    served.ref.Plain ∧ ∃ exchange, Gateway.plan settings served.request library = .ok exchange ∧
      exchange.StandsFor settings served.ref served.request := by
  have typed : ∀ {ref : Ref}, ref ∈ cluster.ownedRefs →
      ref.Plain ∧ ref.kind ∈ Cluster.ownedKinds ∧ Gateway.isCustom settings ref.kind = false := by
    intro ref owned
    have kind := Cluster.kind_of_owned owned
    refine ⟨Cluster.plain_of_owned owned, kind, ?_⟩
    rw [Bool.eq_false_iff, Gateway.isCustom, custom, Ne, Value.same_text_iff]
    intro same
    rw [same] at kind
    exact stranger kind
  have ownedJob : ∀ {name}, name ∈ cluster.jobNames → cluster.jobRef name ∈ cluster.ownedRefs :=
    fun named => List.mem_append_right _ (List.mem_map_of_mem named)
  have isCustom : Gateway.isCustom settings cluster.ref.kind = true := by
    rw [Gateway.isCustom, custom]
    exact (Value.text_same_iff _ _).mpr rfl
  cases ofCluster with
  | removes managed unwanted owned =>
      obtain ⟨plain, kind, notCustom⟩ := typed owned
      exact ⟨plain, Gateway.plan_typed kind known notCustom rfl⟩
  | creates enabled owned =>
      obtain ⟨plain, kind, notCustom⟩ := typed owned
      exact ⟨plain, Gateway.plan_typed kind known notCustom rfl⟩
  | readsJob enabled named =>
      obtain ⟨plain, kind, notCustom⟩ := typed (ownedJob named)
      exact ⟨plain, Gateway.plan_typed kind known notCustom rfl⟩
  | correctsJob enabled managed named =>
      obtain ⟨plain, kind, notCustom⟩ := typed (ownedJob named)
      exact ⟨plain, Gateway.plan_typed kind known notCustom rfl⟩
  | readsOwner enabled =>
      exact ⟨cluster.plain_ref, Gateway.plan_custom known custom isCustom (.inl rfl)⟩
  | reports enabled =>
      exact ⟨cluster.plain_ref, Gateway.plan_custom known custom isCustom (.inr rfl)⟩

end Calls

/-- Through the gateway a program makes the same calls, leaves the same store and
comes to the same result up to the wording of faults. -/
structure Program.Refined {α : Type} (server : ApiServer) (settings : Settings)
    (program : Program α) (world : World) : Prop where
  calls : (program.runWith (World.serveOver server settings) world).2.journal.calls =
    (program.run world).2.journal.calls
  store : (program.runWith (World.serveOver server settings) world).2.store =
    (program.run world).2.store
  outcome : SameOutcome Eq (program.run world).1
    (program.runWith (World.serveOver server settings) world).1

theorem Program.Alike.refined {α : Type} {program : Program α} {cluster : Cluster} {goes : Prop}
    {server : ApiServer} {settings : Settings} {world : World} (heedless : program.Heedless)
    (kept : program.Keeps .disturbed (Served.OfCluster cluster goes))
    (keeps : server.KeepsStore settings) (custom : settings.crdKind = .text cluster.kind)
    (stranger : cluster.ref.kind ∉ Cluster.ownedKinds) (direct : world.gateway = none)
    (sound : world.store.Sound) (writers : world.OnlyWriters) :
    program.Refined server settings world := by
  have calls : ∀ served ∈ program.history world,
      served.before.Sound ∧ served.OfCluster cluster goes := by
    intro served member
    obtain ⟨soundBefore, -, ofCluster⟩ := kept.history direct sound served member
    exact ⟨soundBefore, ofCluster⟩
  have stays : ∀ (world : World) (effect : Effect), (world.gateway = none ∧ world.OnlyWriters) →
      (world.handle effect).2.gateway = none ∧ (world.handle effect).2.OnlyWriters :=
    fun world effect ⟨direct, writers⟩ =>
      ⟨World.gateway_handle direct effect, writers.handle direct effect⟩
  have agrees : ∀ (world mirror : World) (request : Request), (world.gateway = none ∧ world.OnlyWriters) →
      world.Mirrors mirror →
      (∀ served ∈ world.callOf (.call request),
        served.before.Sound ∧ served.OfCluster cluster goes) →
      SameOutcome Eq (world.answer request).1 (mirror.serveOver server settings request).1 ∧
        (world.answer request).2.Mirrors (mirror.serveOver server settings request).2 := by
    rintro world mirror request ⟨direct, writers⟩ mirrors promised
    have served : world.answer request = world.serve request := by rw [World.answer, direct]
    rw [served]
    cases known : request.ref with
    | error mismatch =>
        rw [World.serveOver_of_error known, World.serve, known]
        exact ⟨.error rfl, mirrors⟩
    | ok ref =>
        simp only [World.callOf, known, List.mem_singleton, forall_eq] at promised
        obtain ⟨soundBefore, ofCluster⟩ := promised
        obtain ⟨plain, exchange, planned, standsFor⟩ := ofCluster.planned custom stranger known
        exact World.serve_agrees keeps writers mirrors known plain planned standsFor soundBefore
  obtain ⟨outcome, mirrors⟩ := Program.run_alike heedless (World.serveOver server settings) _ stays _ agrees
    ⟨direct, writers⟩ ⟨rfl, rfl, rfl, rfl, rfl, rfl⟩ calls
  exact ⟨mirrors.calls, mirrors.store, outcome⟩

/-- Over any server of the API that keeps the store, a pass and a teardown
through the gateway do what they do on the store itself. -/
theorem reconcile_refined (server : ApiServer) (gateway : Settings)
    (keeps : server.KeepsStore gateway) (cluster : Cluster)
    (custom : gateway.crdKind = .text cluster.kind)
    (stranger : cluster.ref.kind ∉ Cluster.ownedKinds) (settings : Settings) (inputs : Inputs)
    (budget : Budget) (world : World) (direct : world.gateway = none) (sound : world.store.Sound)
    (writers : world.OnlyWriters) :
    (reconcile cluster settings inputs budget).Refined server gateway world ∧
      (removeCurator cluster).Refined server gateway world := by
  have passes : (reconcile cluster settings inputs budget).Keeps .disturbed
      (Served.OfCluster cluster False) := Program.keeps_reconcile settings inputs budget
  have removes : (removeCurator cluster).Keeps .disturbed (Served.OfCluster cluster True) :=
    Program.keeps_removeCurator (.inr trivial)
  exact ⟨(Program.heedless_reconcile cluster settings inputs budget).refined passes keeps custom
      stranger direct sound writers,
    (Program.heedless_removeCurator cluster).refined removes keeps custom stranger direct sound
      writers⟩

theorem contestedOwnerWorld_onlyWriters : contestedOwnerWorld.OnlyWriters := by
  intro verb disturbances member disturbance waits fault
  simp only [contestedOwnerWorld] at member
  split at member
  · rw [List.mem_singleton.mp member, List.mem_singleton] at waits
    rw [waits]
    exact Deed.noConfusion
  · cases member

/-- A pass over a server that keeps the store makes nine calls, while somebody
writes the object of the cluster. -/
theorem contested_reconcile_refined :
    (((reconcile plainCluster {} ⟨.given [], .given []⟩ {}).runWith
        (World.serveOver (World.storeServer {}) {}) contestedOwnerWorld).2.journal.calls.map
          CallNote.verb) =
      [.create, .create, .create, .create, .get, .update, .get, .get, .update] ∧
    (reconcile plainCluster {} ⟨.given [], .given []⟩ {}).Refined (World.storeServer {}) {}
      contestedOwnerWorld ∧
    (removeCurator plainCluster).Refined (World.storeServer {}) {} contestedOwnerWorld :=
  ⟨by decide +kernel,
    reconcile_refined (World.storeServer {}) {} (World.keepsStore_storeServer {}) plainCluster rfl
      (by decide) {} ⟨.given [], .given []⟩ {} contestedOwnerWorld rfl reachable_staleStore.sound
      contestedOwnerWorld_onlyWriters⟩

end CuratorKeeper
