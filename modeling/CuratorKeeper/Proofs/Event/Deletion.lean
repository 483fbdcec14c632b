import CuratorKeeper.Proofs.Cluster.Reading
import CuratorKeeper.Proofs.Event.Surfacing
import CuratorKeeper.Proofs.Event.Teardown
import CuratorKeeper.Proofs.Program.Meddling

/-!
# What a deletion needs of the settings of a curator

A teardown uses no setting of the curator, but the handler of a deletion reads
the whole cluster first.  Settings that can be read have no influence on it, and
it returns when everything owned is gone.  Settings that cannot be read keep it
from making any call.
-/

namespace CuratorKeeper

/-- A teardown looks at what a cluster is called, whether it is managed and what it owns. -/
theorem removeCurator_congr {cluster other : Cluster} (name : other.name = cluster.name)
    (space : other.space = cluster.space) (management : other.management = cluster.management)
    (topology : other.topology = cluster.topology) :
    removeCurator other = removeCurator cluster := by
  rw [removeCurator, removeCurator, Cluster.isManaged, Cluster.isManaged, management,
    Cluster.ownedRefs_congr space topology, Cluster.label, Cluster.label, space, name]

def settingPlaces : List (List Key) :=
  [settingPlace "schedule", settingPlace "suspend", settingPlace "resources"]

/-- Objects that differ in the settings of the curator alone describe clusters with one
teardown. -/
theorem Cluster.removeCurator_described {object other : Value}
    (agrees : Value.AgreesOff settingPlaces object other) (curation changed : Curation) :
    removeCurator (described other changed) = removeCurator (described object curation) := by
  apply removeCurator_congr
  · exact congrArg (textOf "") (agrees _ (by decide)).symm
  · exact congrArg (textOf "") (agrees _ (by decide)).symm
  · exact congrArg (choiceOf Management.offered .managed) (agrees _ (by decide)).symm
  · exact congrArg (choiceOf Topology.offered .combined) (agrees _ (by decide)).symm

/-- Some calls delete some resources in order, and each leaves its resource gone. -/
structure Deletes (refs : List Ref) (calls : List Served) : Prop where
  asked : calls.map Served.request = refs.map .delete
  gone : ∀ served ∈ calls, served.after.find? served.ref = none

theorem Deletes.append {refs others : List Ref} {early late : List Served}
    (first : Deletes refs early) (further : Deletes others late) :
    Deletes (refs ++ others) (early ++ late) where
  asked := by rw [List.map_append, List.map_append, first.asked, further.asked]
  gone served member := by
    rcases List.mem_append.mp member with isEarly | isLate
    · exact first.gone served isEarly
    · exact further.gone served isLate

/-- What is left to a teardown of a cluster: all that it owns if it is managed. -/
def Cluster.removable (cluster : Cluster) : List Ref :=
  if cluster.isManaged then cluster.ownedRefs else []

namespace Program

variable {around : Surroundings} {event : Event} {settings : Settings} {cluster : Cluster}

theorem ensures_deleteIfPresent_served {ref : Ref} (plain : ref.Plain) (store : Store) :
    Ensures around (fun _ => True) (deleteIfPresent ref)
      (provided Served.Faithful fun result history _ =>
        (∃ deleted, result = .ok deleted) ∧ Deletes [ref] history) store := by
  rw [deleteIfPresent, bind_eq]
  refine ensures_call_provided rfl fun before answer after _ _ faithful => ?_
  have served : before.serve ref (.delete ref) = (answer, after) := faithful
  cases found : before.find? ref with
  | none =>
      rw [Store.serve_delete_none plain found] at served
      obtain ⟨rfl, rfl⟩ := Prod.mk.inj served
      exact fun _ => ⟨⟨false, rfl⟩, rfl, by simpa using found⟩
  | some live =>
      rw [Store.serve_delete_some plain found] at served
      obtain ⟨rfl, rfl⟩ := Prod.mk.inj served
      exact fun _ => ⟨⟨true, rfl⟩, rfl, by simp⟩

theorem ensures_deleteAll_served {refs : List Ref} (plain : ∀ ref ∈ refs, ref.Plain)
    (store : Store) :
    Ensures around (fun _ => True) (deleteAll refs)
      (provided Served.Faithful fun result history _ =>
        (∃ count, result = .ok count) ∧ Deletes refs history) store := by
  induction refs generalizing store with
  | nil => exact fun _ => ⟨⟨0, rfl⟩, rfl, by simp⟩
  | cons ref rest ih =>
      rw [deleteAll, bind_eq, ensures_bind]
      refine (ensures_deleteIfPresent_served (plain ref List.mem_cons_self) store).mono
        fun result early middle first => ?_
      cases result with
      | error fault =>
          intro all
          obtain ⟨⟨_, ⟨⟩⟩, -⟩ := first all
      | ok deleted =>
          simp only [bind_eq]
          rw [ensures_bind]
          refine (ih (fun other member => plain other (List.mem_cons_of_mem _ member)) middle).mono
            fun result late last further => ?_
          have ends : (∀ served ∈ early ++ late, served.Faithful) →
              (∃ count, result = .ok count) ∧ Deletes (ref :: rest) (early ++ late) := by
            intro all
            obtain ⟨-, deleted⟩ :=
              first fun served member => all served (List.mem_append_left _ member)
            obtain ⟨returned, others⟩ :=
              further fun served member => all served (List.mem_append_right _ member)
            exact ⟨returned, deleted.append others⟩
          cases result with
          | error fault => exact ends
          | ok others =>
              intro all
              rw [List.append_nil] at all ⊢
              exact ⟨⟨_, rfl⟩, (ends all).2⟩

theorem ensures_removeCurator_served (cluster : Cluster) (store : Store) :
    Ensures around (fun _ => True) (removeCurator cluster)
      (provided Served.Faithful fun result history _ =>
        (∃ count, result = .ok count) ∧ Deletes cluster.removable history) store := by
  rw [removeCurator, Cluster.removable]
  cases cluster.isManaged with
  | true => exact ensures_deleteAll_served (fun ref => Cluster.plain_of_owned) store
  | false => exact fun _ => ⟨⟨0, rfl⟩, rfl, by simp⟩

/-- A handler of a deletion that can read its cluster returns if the store serves its
calls, and everything that was to be removed is gone then. -/
theorem ensures_serveDeletion_served (read : Cluster.ofObject event.body = .ok cluster)
    (store : Store) :
    Ensures around (fun _ => True) (event.serveDeletion settings)
      (provided Served.Faithful fun result history _ =>
        result = .ok () ∧ Deletes cluster.removable history) store := by
  simp only [Event.serveDeletion, read, liftM_fault, ofExcept, bind_eq, done_bind]
  rw [ensures_bind, ensures_locked, Event.retryLater, bind_eq, ensures_bind, ensures_attempt]
  refine Ensures.mono (ensures_removeCurator_served cluster store)
    fun result history last ended => ?_
  cases result with
  | ok count => exact fun _ all => ⟨rfl, by simpa using (ended (by simpa using all)).2⟩
  | error fault =>
      have unserved : ¬ ∀ served ∈ history, served.Faithful := by
        intro all
        obtain ⟨⟨_, ⟨⟩⟩, -⟩ := ended all
      simp only
      split
      · exact fun all => absurd (by simpa using all) unserved
      · exact fun all => absurd (by simpa using all) unserved

end Program

/-- A deletion is kept from its teardown just if the settings of the curator cannot be
read: then it fails before it makes any call.  If they can be read they have no
influence, and if the store serves its calls it returns with everything gone that was
to be removed. -/
theorem Event.serveDeletion_settings (event : Event) (settings : Settings)
    (describes : Cluster.Describes event.body) :
    (ReadableSettings event.body → ∃ cluster, Cluster.ofObject event.body = .ok cluster ∧
      (∀ body, Cluster.Describes body → ReadableSettings body →
        Value.AgreesOff settingPlaces event.body body →
          ({ event with body } : Event).serveDeletion settings = event.serveDeletion settings) ∧
      ∀ world : World, world.gateway = none → world.store.Reachable →
        (∀ served ∈ (event.serveDeletion settings).history world, served.Faithful) →
          ((event.serveDeletion settings).run world).1 = .ok () ∧
            Deletes cluster.removable ((event.serveDeletion settings).history world)) ∧
    (¬ ReadableSettings event.body → ∃ fault : Fault, fault.isCuration = false ∧
      ∀ world, (event.serveDeletion settings).run world = (.error fault, world)) := by
  obtain ⟨reads, fails⟩ := Cluster.ofObject_cases describes
  constructor
  · intro readable
    obtain ⟨curation, read⟩ := reads readable
    refine ⟨_, read, fun body describesToo readableToo agrees => ?_,
      fun world direct reachable => ?_⟩
    · obtain ⟨changed, readToo⟩ := (Cluster.ofObject_cases describesToo).1 readableToo
      simp only [Event.serveDeletion, read, readToo, Program.liftM_fault, Program.ofExcept,
        Program.bind_eq, Program.done_bind, Cluster.removeCurator_described agrees curation changed]
      rfl
    · exact (Program.run_of_ensures (Surroundings.disturbed_covers _ direct) reachable.sound
        (Program.ensures_serveDeletion_served read world.store)).2.2
  · intro unreadable
    obtain ⟨fault, failed, unread⟩ := fails unreadable
    refine ⟨fault, ?_, fun world => ?_⟩
    · rcases unread with rfl | rfl | ⟨issues, rfl⟩ <;> rfl
    · simp only [Event.serveDeletion, failed, Program.liftM_fault, Program.ofExcept,
        Program.bind_eq, Program.fail_bind, Program.run_fail]

def deletionWith (curator : Fields) : Event where
  space := "logging"
  name := "instance"
  body := .object
    [("kind", "ClusterLogging"),
      ("metadata", .object [("name", "instance"), ("namespace", "logging")]),
      ("spec", .object
        [("managementState", "Managed"),
          ("curation", .object [("type", "curator"), ("curator", .object curator)])])]

theorem describes_deletionWith (curator : Fields) :
    Cluster.Describes (deletionWith curator).body where
  name := ⟨"instance", rfl⟩
  space := by rintro _ ⟨⟩; exact ⟨"logging", rfl⟩
  uid := nofun
  apiVersion := nofun
  kind := by rintro _ ⟨⟩; exact ⟨"ClusterLogging", rfl⟩
  spec := .inr ⟨_, rfl⟩
  curation := .inr ⟨_, rfl⟩
  curator := .inr ⟨_, rfl⟩
  management := .inr ⟨"Managed", .managed, rfl, rfl⟩
  topology := .inl rfl

/-- A number among the requested amounts does not keep a deletion from its teardown. -/
theorem numeric_serveDeletion_settings :
    let event := deletionWith
      [("suspend", "no"), ("resources", .object [("requests", .object [("cpu", 1)])])]
    let history := (event.serveDeletion {}).history { store := staleStore }
    (history.map fun served => (served.ref.kind.display, served.answer.isOk)) =
        [("ServiceAccount", false), ("ConfigMap", false), ("Secret", false), ("CronJob", true)] ∧
      Cluster.Describes event.body ∧ ReadableSettings event.body ∧
      ∃ cluster, Cluster.ofObject event.body = .ok cluster ∧
        ((event.serveDeletion {}).run { store := staleStore }).1 = .ok () ∧
          Deletes cluster.removable history := by
  intro event history
  have describes := describes_deletionWith
    [("suspend", "no"), ("resources", .object [("requests", .object [("cpu", 1)])])]
  have readable : ReadableSettings event.body :=
    ⟨.inr ⟨_, rfl⟩, .inl rfl, @ReadableSuspension.word "no" false (by decide +kernel),
      .inr ⟨⟨_, rfl⟩, .inl rfl, .inr ⟨_, rfl⟩⟩⟩
  obtain ⟨cluster, read, -, returns⟩ := (event.serveDeletion_settings {} describes).1 readable
  have served := Program.faithful_history (event.serveDeletion {})
    (rfl : World.gateway { store := staleStore } = none) nofun
  exact ⟨by decide +kernel, describes, readable, cluster, read,
    returns _ rfl reachable_staleStore served⟩

/-- A limit that is no object, a schedule that is a number and a list of amounts keep a
deletion from any call, although the job of the managed cluster is there. -/
theorem unread_settings_block_deletion :
    let textLimits := deletionWith [("resources", .object [("limits", "200Mi")])]
    let numberSchedule := deletionWith [("schedule", 5)]
    let listResources := deletionWith [("resources", .list ["cpu"])]
    let world : World := { store := staleStore }
    (staleStore.find? (plainCluster.jobRef "curator")).isSome = true ∧
      (Cluster.Describes textLimits.body ∧
        (textLimits.serveDeletion {}).run world = (.error (.mismatch .noFields), world)) ∧
      (Cluster.Describes numberSchedule.body ∧
        (numberSchedule.serveDeletion {}).run world =
          (.error (.invalid "CurationSpec" [⟨["schedule"], .notText⟩]), world)) ∧
      (Cluster.Describes listResources.body ∧
        (listResources.serveDeletion {}).run world = (.error (.mismatch .unsuited), world)) := by
  intro textLimits numberSchedule listResources world
  refine ⟨by decide +kernel, ⟨describes_deletionWith _, ?_⟩, ⟨describes_deletionWith _, ?_⟩,
    ⟨describes_deletionWith _, ?_⟩⟩
  · -- the limits are asked for their fields
    rfl
  · -- the checks of the settings refuse the schedule
    rfl
  · -- the resources are taken apart as an object
    rfl

end CuratorKeeper
