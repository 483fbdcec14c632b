import CuratorKeeper.Proofs.Event.WriteSafety
import CuratorKeeper.Proofs.Pass.Grammar
import CuratorKeeper.Proofs.Pass.Repeat

/-!
# What a teardown leaves

Passes over the clusters of a namespace with one topology, and the handlers that make
them, create nothing but what all these clusters own, whatever else differs between
them.  So a teardown of any one of them removes whatever any of the passes has created,
and nothing that no pass may create.
-/

namespace CuratorKeeper

/-- A pass over some cluster of the namespace with the topology may create a resource
under the reference. -/
def MayCreate (space : String) (topology : Topology) (ref : Ref) : Prop :=
  ∃ (cluster : Cluster) (resource : Value), cluster.space = space ∧ cluster.topology = topology ∧
    cluster.curation.mode = .enabled ∧ cluster.MayWant ref resource

/-- What a cluster owns depends on its namespace and its topology alone. -/
theorem Cluster.ownedRefs_congr {cluster other : Cluster} (space : other.space = cluster.space)
    (topology : other.topology = cluster.topology) : other.ownedRefs = cluster.ownedRefs := by
  unfold ownedRefs jobNames
  rw [space, topology]

theorem mayCreate_iff (cluster : Cluster) {ref : Ref} :
    MayCreate cluster.space cluster.topology ref ↔ ref ∈ cluster.ownedRefs := by
  constructor
  · rintro ⟨other, resource, space, topology, -, wants⟩
    rw [← Cluster.ownedRefs_congr space topology]
    exact wants.owned
  · intro owned
    let enabled : Cluster := { cluster with curation := { type := some Curation.curatorType } }
    have same : enabled.ownedRefs = cluster.ownedRefs := Cluster.ownedRefs_congr rfl rfl
    rw [← same] at owned
    obtain ⟨resource, wants⟩ := Cluster.exists_mayWant owned
    exact ⟨enabled, resource, rfl, rfl, rfl, wants⟩

/-- What a store has come to, and the calls that were made, when passes over enabled
clusters of the namespace with the topology and handlers of changes and ticks of such
clusters have run one after another, with others writing and calls failing in between
and during each of them. -/
inductive Past (space : String) (topology : Topology) : Store → List Served → Prop
  | start {store : Store} (reachable : store.Reachable) : Past space topology store []
  | meddled {store : Store} {calls : List Served} (past : Past space topology store calls) (ref : Ref)
      (disturbance : Disturbance) : Past space topology (store.disturb ref disturbance).2 calls
  | passed {world : World} {calls : List Served} {cluster : Cluster} {settings : Settings}
      {inputs : Inputs} {budget : Budget} (past : Past space topology world.store calls)
      (direct : world.gateway = none) (enabled : cluster.curation.mode = .enabled)
      (isSpace : cluster.space = space) (isTopology : cluster.topology = topology) :
      Past space topology ((reconcile cluster settings inputs budget).run world).2.store
        (calls ++ (reconcile cluster settings inputs budget).history world)
  | handled {world : World} {calls : List Served} {serving : Serving}
      (past : Past space topology world.store calls) (direct : world.gateway = none)
      (isPass : serving.occasion = .change ∨ serving.occasion = .tick)
      (isAlike : ∀ cluster, Cluster.ofObject serving.event.body = .ok cluster →
        cluster.space = space ∧ cluster.topology = topology) :
      Past space topology (serving.program.run world).2.store
        (calls ++ serving.program.history world)

theorem Past.safe {space : String} {topology : Topology} {store : Store} {calls : List Served}
    (past : Past space topology store calls) :
    store.Sound ∧ ∀ served ∈ calls, served.request.verb = .create →
      MayCreate space topology served.ref := by
  induction past with
  | start reachable => exact ⟨reachable.sound, by simp⟩
  | meddled past ref disturbance ih =>
      exact ⟨ih.1.turn (Store.disturb_turn _ ref disturbance), ih.2⟩
  | @passed world calls cluster settings inputs budget past direct enabled isSpace isTopology ih =>
      obtain ⟨sound, created⟩ := ih
      have kept := @Program.keeps_reconcile cluster (Occasion.change = .deletion) settings inputs budget
      refine ⟨kept.sound_run direct sound, fun served member creates => ?_⟩
      rcases List.mem_append.mp member with early | made
      · exact created served early creates
      · have safe := (kept.history direct sound served made).2.2.safe
        subst isSpace isTopology
        exact (mayCreate_iff cluster).mpr (safe.creates creates).2
  | @handled world calls serving past direct isPass isAlike ih =>
      obtain ⟨sound, created⟩ := ih
      have kept := Program.keeps_serving serving
      refine ⟨kept.sound_run direct sound, fun served member creates => ?_⟩
      rcases List.mem_append.mp member with early | made
      · exact created served early creates
      · obtain ⟨cluster, read, safe⟩ := (kept.history direct sound served made).2.2
        obtain ⟨rfl, rfl⟩ := isAlike cluster read
        exact (mayCreate_iff cluster).mpr (safe.creates creates).2

/-- A teardown: a pass over a cluster that is disabled, or the handler of a deletion. -/
inductive Teardown
  | pass (cluster : Cluster) (settings : Settings) (inputs : Inputs) (budget : Budget)
  | handler (event : Event) (settings : Settings)

def Event.cleanupLine (event : Event) (count : Nat) : LogLine :=
  ⟨.info, .handler,
    "Curator cleanup complete for " ++ event.key ++ " (" ++ toString count ++ " deleted)"⟩

namespace Teardown

/-- The teardown is of a managed cluster of the namespace with the topology. -/
def Of (space : String) (topology : Topology) : Teardown → Prop
  | pass cluster _ _ _ =>
    cluster.space = space ∧ cluster.topology = topology ∧ cluster.isManaged = true ∧
      cluster.curation.mode = .disabled
  | handler event _ =>
    ∃ cluster, Cluster.ofObject event.body = .ok cluster ∧
      cluster.space = space ∧ cluster.topology = topology ∧ cluster.isManaged = true

/-- In a world the teardown returns, having removed so many resources, and leaves
another world. -/
def Returns (teardown : Teardown) (world : World) (count : Nat) (left : World) : Prop :=
  match teardown with
  | pass cluster settings inputs budget =>
    (reconcile cluster settings inputs budget).run world =
      (.ok { mode := .disabled, deleted := count }, left)
  | handler event settings =>
    (event.serveDeletion settings).run world = (.ok (), left) ∧
      left.journal.lines.getLast? = some (event.cleanupLine count)

end Teardown

section Handlers

variable {α : Type} {event : Event} {settings : Settings} {program : Program α} {world after : World}

theorem run_locked {result : Except Fault α}
    (ran : program.run { world with locks := (world.locks.act event.key .hold).2 } = (result, after)) :
    (event.locked program).run world =
      (result, { after with locks := (after.locks.act event.key .release).2 }) := by
  have held : (Program.effect (.lock event.key .hold)).run world =
      (.ok (), { world with locks := (world.locks.act event.key .hold).2 }) := rfl
  have released : (Program.effect (.lock event.key .release)).run after =
      (.ok (), { after with locks := (after.locks.act event.key .release).2 }) := rfl
  simp only [Event.locked, Program.thenAlways, Program.bind_eq, Program.run_bind, held,
    Program.run_attempt, ran, released]
  cases result <;> rfl

theorem run_retryLater {value : α} (what : String) (ran : program.run world = (.ok value, after)) :
    (event.retryLater settings what program).run world = (.ok value, after) := by
  simp only [Event.retryLater, Program.bind_eq, Program.run_bind, Program.run_attempt, ran]
  rfl

theorem run_serveDeletion {cluster : Cluster} {count : Nat}
    (read : Cluster.ofObject event.body = .ok cluster)
    (ran : (removeCurator cluster).run
      { world with locks := (world.locks.act event.key .hold).2 } = (.ok count, after)) :
    ∃ left, (event.serveDeletion settings).run world = (.ok (), left) ∧
      left.store = after.store ∧ left.journal.lines.getLast? = some (event.cleanupLine count) := by
  have removed := run_locked (@run_retryLater _ event settings _ _ _ _ "Curator cleanup" ran)
  simp only [Event.serveDeletion, read, Program.liftM_fault, Program.ofExcept, Program.bind_eq,
    Program.done_bind, Program.run_bind, removed]
  exact ⟨_, rfl, rfl, List.getLast?_concat⟩

end Handlers

/-- From a store everything was removed that passes may create, and nothing else.  The
count tells whether anything was. -/
structure Clears (space : String) (topology : Topology) (store : Store) (count : Nat)
    (after : Store) : Prop where
  gone : ∀ ref, MayCreate space topology ref → after.find? ref = none
  others : ∀ ref, ¬ MayCreate space topology ref → after.find? ref = store.find? ref
  idle : (∀ ref, MayCreate space topology ref → store.find? ref = none) → count = 0 ∧ after = store

theorem run_removeCurator {cluster : Cluster} (managed : cluster.isManaged = true) {world : World}
    (calm : world.Calm) (sound : world.store.Sound) :
    ∃ count left, (removeCurator cluster).run world = (.ok count, left) ∧ left.store.Sound ∧
      Clears cluster.space cluster.topology world.store count left.store := by
  have isRemoval : removeCurator cluster = deleteAll cluster.ownedRefs := by
    rw [removeCurator, managed]
    rfl
  rw [isRemoval]
  obtain ⟨soundLeft, count, returned, gone, others, idle⟩ :=
    (Program.ends_deleteAll fun ref => Cluster.plain_of_owned).run calm sound
  refine ⟨count, _, Prod.ext returned rfl, soundLeft, fun ref may => ?_, fun ref mayNot => ?_,
    fun none => ?_⟩
  · exact gone ref (.inr ((mayCreate_iff cluster).mp may))
  · exact others ref fun owned => mayNot ((mayCreate_iff cluster).mpr owned)
  · exact idle fun ref owned => none ref ((mayCreate_iff cluster).mpr owned)

/-- Left alone, a teardown returns and clears the store. -/
theorem Teardown.clears {space : String} {topology : Topology} {teardown : Teardown}
    (of : teardown.Of space topology) {world : World} (calm : world.Calm)
    (sound : world.store.Sound) :
    ∃ count left, teardown.Returns world count left ∧ left.store.Sound ∧
      Clears space topology world.store count left.store := by
  cases teardown with
  | pass cluster settings inputs budget =>
      obtain ⟨rfl, rfl, managed, disabled⟩ := of
      obtain ⟨count, left, ran, soundLeft, clears⟩ := run_removeCurator managed calm sound
      refine ⟨count, left, ?_, soundLeft, clears⟩
      simp only [Teardown.Returns, reconcile, disabled, Program.bind_eq, Program.run_bind, ran]
      rfl
  | handler event settings =>
      obtain ⟨cluster, read, rfl, rfl, managed⟩ := of
      let held : World := { world with locks := (world.locks.act event.key .hold).2 }
      have calmHeld : held.Calm := ⟨calm.direct, calm.undisturbed⟩
      obtain ⟨count, after, ran, soundAfter, clears⟩ := run_removeCurator managed calmHeld sound
      obtain ⟨left, returned, same, told⟩ := @run_serveDeletion event settings _ _ _ _ read ran
      rw [← same] at soundAfter clears
      exact ⟨count, left, ⟨returned, told⟩, soundAfter, clears⟩

/-- After any history of passes and of handlers that make them, a teardown that nobody
disturbs returns and leaves nothing that any of them has created.  It removes nothing
that they may not create, and another teardown finds nothing to do. -/
theorem teardown_leavesNothing {space : String} {topology : Topology} {world : World}
    {calls : List Served} {teardown : Teardown} (past : Past space topology world.store calls)
    (calm : world.Calm) (of : teardown.Of space topology) :
    ∃ count left, teardown.Returns world count left ∧
      (∀ served ∈ calls, served.request.verb = .create → left.store.find? served.ref = none) ∧
      (∀ ref, ¬ MayCreate space topology ref → left.store.find? ref = world.store.find? ref) ∧
      ∀ (again : Teardown) (after : World), again.Of space topology → after.Calm →
        after.store = left.store → ∃ last, again.Returns after 0 last ∧ last.store = left.store := by
  obtain ⟨sound, created⟩ := past.safe
  obtain ⟨count, left, returned, soundLeft, clears⟩ := teardown.clears of calm sound
  refine ⟨count, left, returned, fun served member creates => ?_, clears.others, ?_⟩
  · exact clears.gone _ (created served member creates)
  · intro again after ofAgain calmAfter same
    rw [← same] at soundLeft
    obtain ⟨none, last, returnedAgain, -, clearsAgain⟩ := again.clears ofAgain calmAfter soundLeft
    obtain ⟨rfl, unchanged⟩ := clearsAgain.idle fun ref may => same ▸ clears.gone ref may
    exact ⟨last, returnedAgain, unchanged.trans same⟩

def brokenPass : Program Outcome := reconcile plainCluster {} ⟨.given [], .given []⟩ ({} : Backoff)

/-- A world whose second creation fails. -/
def brokenWorld : World where
  waiting verb :=
    if verb = .create then [[], [⟨.fail (.store ⟨.other, "lost", .null, .null, 503⟩), none⟩]] else []

def brokenOff : World := { store := (brokenPass.run brokenWorld).2.store }

def rebuilding : Serving := changeOf "ClusterLogging" "instance" [("type", "curator")]

def rebuilt : World := { store := (rebuilding.program.run brokenOff).2.store }

theorem past_rebuilt : Past "logging" .combined rebuilt.store
    (brokenPass.history brokenWorld ++ rebuilding.program.history brokenOff) := by
  have passed : Past "logging" .combined brokenOff.store ([] ++ brokenPass.history brokenWorld) :=
    @Past.passed _ _ brokenWorld [] plainCluster {} ⟨.given [], .given []⟩ ({} : Backoff)
      (.start .empty) rfl rfl rfl rfl
  have read : Cluster.ofObject rebuilding.event.body = .ok plainCluster := rfl
  refine @Past.handled _ _ brokenOff _ rebuilding passed rfl (.inl rfl) fun cluster described => ?_
  obtain rfl := Except.ok.inj (read.symm.trans described)
  exact ⟨rfl, rfl⟩

/-- A pass creates a service account and fails, a handler creates the rest, and the
deletion of another cluster of the namespace removes it all. -/
theorem broken_teardown_leavesNothing :
    let calls := brokenPass.history brokenWorld ++ rebuilding.program.history brokenOff
    let teardown : Teardown := .handler (changeOf "ClusterLogging" "other" []).event {}
    (calls.filter fun served => served.answer.isOk && served.request.verb = .create).map
        (fun served => served.ref.label) =
        ["ServiceAccount/curator", "ConfigMap/curator", "Secret/curator", "CronJob/curator"] ∧
      ∃ count left, teardown.Returns rebuilt count left ∧
        (∀ served ∈ calls, served.request.verb = .create → left.store.find? served.ref = none) ∧
        (∀ ref, ¬ MayCreate "logging" .combined ref →
          left.store.find? ref = rebuilt.store.find? ref) ∧
        ∀ (again : Teardown) (after : World), again.Of "logging" .combined → after.Calm →
          after.store = left.store → ∃ last, again.Returns after 0 last ∧ last.store = left.store := by
  intro calls teardown
  have read : Cluster.ofObject (changeOf "ClusterLogging" "other" []).event.body =
      .ok { plainCluster with name := "other", curation := {} } := rfl
  exact ⟨by decide +kernel,
    teardown_leavesNothing past_rebuilt ⟨rfl, fun _ => rfl⟩ ⟨_, read, rfl, rfl, rfl⟩⟩

end CuratorKeeper
