import CuratorKeeper.Proofs.Job.Quantities
import CuratorKeeper.Proofs.Pass.Grammar

/-!
# Manifests that fit together

What a cluster should own is complete in itself.  The manifests are those that a
teardown removes, each owned by the object of the cluster, and whatever a job refers
to is among them or in its own pod.  Its jobs are as the cluster asks, with the
settings for what it does not ask for, and none of them drifts from itself.
-/

namespace CuratorKeeper

open Drift

/-- The items of the list at a place, none if there is no list. -/
def Value.listAt (value : Value) (place : List Key) : List Value :=
  match value.at? place with
  | some (.list items) => items
  | _ => []

def podPlace : List Key := .name "spec" :: podPath

def containersOf (manifest : Value) : List Value := manifest.listAt (podPlace ++ [.name "containers"])

def volumesOf (manifest : Value) : List Value := manifest.listAt (podPlace ++ [.name "volumes"])

/-- The resources of a namespace that a volume is made from. -/
def volumeNeeds (space volume : Value) : List Ref :=
  ((volume.at? ["configMap", "name"]).map fun name => Ref.mk "ConfigMap" space name).toList ++
    ((volume.at? ["secret", "secretName"]).map fun name => Ref.mk "Secret" space name).toList

/-- The resources that a job needs in its namespace: its service account, and what its volumes
are made from. -/
def jobNeeds (manifest : Value) : List Ref :=
  let space := (manifest.at? ["metadata", "namespace"]).getD ""
  ((manifest.at? (podPlace ++ [.name "serviceAccountName"])).map fun name =>
      Ref.mk "ServiceAccount" space name).toList ++
    (volumesOf manifest).flatMap (volumeNeeds space)

/-- A manifest has one owner, the object of a cluster, which controls it. -/
def Cluster.Owns (cluster : Cluster) (manifest : Value) : Prop :=
  ∃ owner, manifest.at? ["metadata", "ownerReferences"] = some (.list [owner]) ∧
    owner.part? "apiVersion" = some (.text cluster.apiVersion) ∧
    owner.part? "kind" = some (.text cluster.kind) ∧
    owner.part? "name" = some (.text cluster.name) ∧
    owner.part? "uid" = some (.text cluster.uid) ∧ owner.part? "controller" = some (.bool true)

/-- The settings give these texts to the jobs of clusters that do not ask for others. -/
structure Settings.Give (settings : Settings) (schedule image memory cpu : String) : Prop where
  schedule : settings.defaultSchedule = .text schedule
  image : settings.image = .text image
  memory : settings.defaultMemory = .text memory
  cpu : settings.defaultCpuRequest = .text cpu

/-- A manifest is that of a job which fits a cluster, where the settings give some texts. -/
structure Cluster.Fits (cluster : Cluster) (schedule image memory cpu : String) (manifest : Value) :
    Prop where
  schedule : manifest.at? schedulePlace =
    some (.text (if cluster.curation.schedule = "" then schedule else cluster.curation.schedule))
  suspend : manifest.at? suspendPlace = cluster.curation.suspend.map .bool
  container : ∃ container, containersOf manifest = [container] ∧
    container.part? "image" = some (.text image) ∧
    container.Grants (cluster.curation.resources.getD
      ⟨[("memory", memory)], [("memory", memory), ("cpu", cpu)]⟩)
  /-- Every mount is of a volume of the same pod. -/
  mounts : ∀ container ∈ containersOf manifest, ∀ mount ∈ container.listAt ["volumeMounts"],
    ∃ name, mount.part? "name" = some name ∧
      ∃ volume ∈ volumesOf manifest, volume.part? "name" = some name
  needs : jobNeeds manifest = cluster.onceRefs
  undrifted : Drift.between manifest manifest = .ok {}

/-- The manifests that a cluster should own fit together. -/
structure DesiredSet.Coherent (desired : DesiredSet) (cluster : Cluster) : Prop where
  refs : desired.manifests.map Ref.of = cluster.ownedRefs.map .ok
  distinct : (desired.manifests.map Ref.of).Nodup
  logicalNames : desired.cronJobs.map Prod.fst = desired.jobs.map fun planned => planned.1.logicalName
  unambiguous : (desired.cronJobs.map Prod.fst).Nodup
  names : desired.jobs.map (fun planned => planned.1.name) = cluster.jobNames
  titles : desired.jobs.map (fun planned => planned.2.at? ["metadata", "name"]) =
    cluster.jobNames.map fun name => some (.text name)
  owned : ∀ manifest ∈ desired.manifests, cluster.Owns manifest
  /-- Whatever a job needs is there. -/
  closed : ∀ planned ∈ desired.jobs, ∀ ref ∈ jobNeeds planned.2,
    ∃ manifest ∈ desired.manifests, Ref.of manifest = .ok ref

namespace Cluster

variable {cluster : Cluster} {settings : Settings} {schedule image memory cpu : String}
  {files : Fields} {credentials : List (String × ByteArray)} {desired : DesiredSet}

theorem jobNeeds_manifest (cluster : Cluster) (job : Job) :
    jobNeeds (job.manifest cluster) = cluster.onceRefs := rfl

theorem between_manifest (cluster : Cluster) (job : Job) :
    Drift.between (job.manifest cluster) (job.manifest cluster) = .ok {} := by
  have named : (job.manifest cluster).itemAt ["metadata", "name"] = .ok (.text job.name) := rfl
  rw [(shaped_manifest cluster job).between_eq named, driftOf_manifest]

theorem owns_manifest (cluster : Cluster) (job : Job) : cluster.Owns (job.manifest cluster) :=
  ⟨cluster.ownerReference, rfl, rfl, rfl, rfl, rfl, rfl⟩

theorem logicalNames_nodup (cluster : Cluster) :
    (cluster.topology.slots.map Slot.logicalName).Nodup := by
  cases cluster.topology <;> decide

theorem wantedSchedule_eq (give : settings.Give schedule image memory cpu) :
    cluster.wantedSchedule settings = .text
      (if cluster.curation.schedule = "" then schedule else cluster.curation.schedule) := by
  by_cases blank : cluster.curation.schedule = "" <;>
    simp [wantedSchedule, Value.orIfBlank, Value.isBlank, blank, give.schedule]

theorem defaultResources_eq (give : settings.Give schedule image memory cpu) :
    settings.defaultResources = ⟨[("memory", memory)], [("memory", memory), ("cpu", cpu)]⟩ := by
  rw [Settings.defaultResources, give.memory, give.cpu]
  rfl

theorem jobs_of_give (give : settings.Give schedule image memory cpu) :
    cluster.jobs settings = .ok (cluster.topology.slots.map (cluster.jobWith settings
      (if cluster.curation.schedule = "" then schedule else cluster.curation.schedule) image)) :=
  jobs_of_text (wantedSchedule_eq give) give.image

theorem mounts_manifest (cluster : Cluster) (job : Job) :
    ∀ container ∈ containersOf (job.manifest cluster), ∀ mount ∈ container.listAt ["volumeMounts"],
      ∃ name, mount.part? "name" = some name ∧
        ∃ volume ∈ volumesOf (job.manifest cluster), volume.part? "name" = some name := by
  intro container isContainer mount isMount
  have only : containersOf (job.manifest cluster) = [job.container] := rfl
  rw [only, List.mem_singleton] at isContainer
  subst isContainer
  have both : job.container.listAt ["volumeMounts"] =
      [.object [("name", "certs"), ("readOnly", true), ("mountPath", "/etc/curator/keys")],
        .object [("name", "config"), ("readOnly", true), ("mountPath", "/etc/curator/settings")]] :=
    rfl
  rw [both] at isMount
  simp only [List.mem_cons, List.not_mem_nil, or_false] at isMount
  rcases isMount with rfl | rfl
  · exact ⟨"certs", rfl, _, List.mem_cons_of_mem _ List.mem_cons_self, rfl⟩
  · exact ⟨"config", rfl, _, List.mem_cons_self, rfl⟩

theorem fits_jobWith (give : settings.Give schedule image memory cpu) (slot : Slot) :
    cluster.Fits schedule image memory cpu ((cluster.jobWith settings
      (if cluster.curation.schedule = "" then schedule else cluster.curation.schedule) image
        slot).manifest cluster) where
  schedule := rfl
  suspend := at?_suspend_manifest cluster _
  container := by
    rw [← defaultResources_eq give]
    exact ⟨_, rfl, rfl, grants_container _⟩
  mounts := mounts_manifest cluster _
  needs := jobNeeds_manifest cluster _
  undrifted := between_manifest cluster _

theorem owns_of_desired (made : cluster.desired settings files credentials = .ok desired) :
    ∀ manifest ∈ desired.manifests, cluster.Owns manifest := by
  obtain ⟨jobs, -, rfl⟩ := desired_eq_ok made
  intro manifest member
  rcases List.mem_append.mp member with once | job
  · simp only [DesiredSet.writeOnce, List.mem_cons, List.not_mem_nil, or_false] at once
    rcases once with rfl | rfl | rfl
    all_goals exact ⟨cluster.ownerReference, rfl, rfl, rfl, rfl, rfl, rfl⟩
  · simp only [List.map_map, List.mem_map] at job
    obtain ⟨job, -, rfl⟩ := job
    exact owns_manifest cluster job

/-- The references of what is desired are distinct, for those of what is owned are. -/
theorem nodup_refs (made : cluster.desired settings files credentials = .ok desired) :
    (desired.manifests.map Ref.of).Nodup := by
  rw [refs_manifests made]
  exact cluster.nodup_ownedRefs.map fun _ _ => Except.ok.inj

theorem coherent_of_desired (made : cluster.desired settings files credentials = .ok desired) :
    desired.Coherent cluster := by
  have refs := refs_manifests made
  have distinct := nodup_refs made
  have owned := owns_of_desired made
  have found : ∀ ref ∈ cluster.ownedRefs, ∃ manifest ∈ desired.manifests, Ref.of manifest = .ok ref :=
    fun _ => exists_manifest made
  obtain ⟨jobs, madeJobs, rfl⟩ := desired_eq_ok made
  have names := jobNames_of_jobs madeJobs
  have logical : jobs.map Job.logicalName = cluster.topology.slots.map Slot.logicalName := by
    obtain ⟨schedule, image, -, -, rfl⟩ := jobs_eq_ok madeJobs
    rw [List.map_map]
    rfl
  refine ⟨refs, distinct, ?_, ?_, ?_, ?_, owned, ?_⟩
  · rw [DesiredSet.cronJobs, List.map_map]
    rfl
  · rw [DesiredSet.cronJobs, List.map_map, List.map_map]
    exact logical ▸ logicalNames_nodup cluster
  · rw [List.map_map, ← names]
    rfl
  · rw [List.map_map, ← names, List.map_map]
    rfl
  · -- Jobs need what is written once, and this is owned first.
    intro planned isPlanned ref needed
    obtain ⟨job, -, rfl⟩ := List.mem_map.mp isPlanned
    rw [jobNeeds_manifest] at needed
    exact found ref (List.mem_append_left _ needed)

/-- If the settings give texts, then a cluster has manifests that it should own, which fit
together, and every job among them fits the cluster. -/
theorem exists_coherent_desired (cluster : Cluster)
    (give : settings.Give schedule image memory cpu) (files : Fields)
    (credentials : List (String × ByteArray)) :
    ∃ desired, cluster.desired settings files credentials = .ok desired ∧
      desired.Coherent cluster ∧
      ∀ planned ∈ desired.jobs, cluster.Fits schedule image memory cpu planned.2 := by
  have jobs : cluster.jobs settings = _ := jobs_of_give give
  have made := desired_of_jobs jobs files credentials
  refine ⟨_, made, coherent_of_desired made, ?_⟩
  intro planned isPlanned
  obtain ⟨job, isJob, rfl⟩ := List.mem_map.mp isPlanned
  obtain ⟨slot, -, rfl⟩ := List.mem_map.mp isJob
  exact fits_jobWith give slot

end Cluster

/-- A cluster with two log stores whose jobs are suspended and run at a time of their own. -/
def splitCluster : Cluster where
  name := "instance"
  space := "logging"
  uid := "1"
  apiVersion := "v1"
  kind := "ClusterLogging"
  management := .managed
  topology := .split
  curation := { type := some "curator", schedule := "0 1 * * *", suspend := some true }

/-- The cluster with two log stores has what it should own with the usual settings. -/
theorem split_coherent_desired :
    Settings.Give {} "30 3,9,15,21 * * *" "quay.io/openshift/origin-logging-curator5:latest" "200Mi"
        "100m" ∧
      ∃ desired, splitCluster.desired {} [("actions.yaml", "")] [("ca", ⟨#[0]⟩)] = .ok desired ∧
        desired.Coherent splitCluster ∧
        ∀ planned ∈ desired.jobs, splitCluster.Fits "30 3,9,15,21 * * *"
          "quay.io/openshift/origin-logging-curator5:latest" "200Mi" "100m" planned.2 :=
  have give : Settings.Give {} "30 3,9,15,21 * * *"
      "quay.io/openshift/origin-logging-curator5:latest" "200Mi" "100m" := ⟨rfl, rfl, rfl, rfl⟩
  ⟨give, Cluster.exists_coherent_desired splitCluster give _ _⟩

end CuratorKeeper
