import CuratorKeeper.Job.Manifest
import CuratorKeeper.Proofs.Store.Lookup

/-!
# What a cluster should own

The manifests of a cluster carry the references that the cluster owns.  There
are jobs exactly when the settings give them texts for what they need.
-/

namespace CuratorKeeper

namespace Cluster

variable {cluster : Cluster} {settings : Settings}

def jobRef (cluster : Cluster) (name : String) : Ref := ⟨"CronJob", cluster.space, name⟩

theorem ref_manifest (cluster : Cluster) (job : Job) :
    Ref.of (job.manifest cluster) = .ok (cluster.jobRef job.name) := rfl

theorem plain_jobRef (cluster : Cluster) (name : String) : (cluster.jobRef name).Plain :=
  ⟨_, _, _, rfl⟩

theorem plain_ref (cluster : Cluster) : cluster.ref.Plain :=
  ⟨_, _, _, rfl⟩

def jobRefs (cluster : Cluster) (jobs : List Job) : List Ref :=
  jobs.map fun job => cluster.jobRef job.name

theorem jobRefs_cons (cluster : Cluster) (job : Job) (rest : List Job) :
    cluster.jobRefs (job :: rest) = cluster.jobRef job.name :: cluster.jobRefs rest := rfl

theorem jobRef_mem_jobRefs {job : Job} {jobs : List Job} (member : job ∈ jobs) :
    cluster.jobRef job.name ∈ cluster.jobRefs jobs := List.mem_map_of_mem member

def jobWith (cluster : Cluster) (settings : Settings) (schedule image : String) (slot : Slot) :
    Job where
  logicalName := slot.logicalName
  name := slot.jobName
  space := cluster.space
  schedule := schedule
  image := image
  host := slot.host
  resources := cluster.curation.resources.getD settings.defaultResources
  suspend := cluster.curation.suspend

def wantedSchedule (cluster : Cluster) (settings : Settings) : Value :=
  (Value.text cluster.curation.schedule).orIfBlank settings.defaultSchedule

theorem jobIn_eq_ok {slot : Slot} {record : String} {job : Job} :
    (cluster.jobIn settings slot).orFault record = .ok job ↔
      ∃ schedule image, cluster.wantedSchedule settings = .text schedule ∧
        settings.image = .text image ∧ job = cluster.jobWith settings schedule image slot := by
  cases wanted : (Value.text cluster.curation.schedule).orIfBlank settings.defaultSchedule <;>
    cases given : settings.image <;> cases suspension : cluster.curation.suspend <;>
      simp [jobIn, wantedSchedule, jobWith, Job.check, Checked.required, Checked.text,
        Checked.withDefault, Checked.nullable, Checked.truth, Checked.orFault, Checked.issue,
        Functor.map, Seq.seq, Checked.seq, Checked.map, wanted, given, suspension, eq_comm]

theorem jobsIn_of_text {schedule image : String}
    (wanted : cluster.wantedSchedule settings = .text schedule)
    (given : settings.image = .text image) (record : String) (slots : List Slot) :
    slots.mapM (fun slot => (cluster.jobIn settings slot).orFault record) =
      .ok (slots.map (cluster.jobWith settings schedule image)) := by
  induction slots with
  | nil => rfl
  | cons slot rest ih =>
      have first : (cluster.jobIn settings slot).orFault record =
          .ok (cluster.jobWith settings schedule image slot) :=
        jobIn_eq_ok.mpr ⟨schedule, image, wanted, given, rfl⟩
      rw [List.mapM_cons, first, ih]
      rfl

theorem jobs_of_text {schedule image : String}
    (wanted : cluster.wantedSchedule settings = .text schedule)
    (given : settings.image = .text image) :
    cluster.jobs settings =
      .ok (cluster.topology.slots.map (cluster.jobWith settings schedule image)) :=
  jobsIn_of_text wanted given _ _

theorem exists_jobs {schedule image : String} (cluster : Cluster)
    (usual : settings.defaultSchedule = .text schedule) (given : settings.image = .text image) :
    ∃ jobs, cluster.jobs settings = .ok jobs := by
  have isText : ∃ text : String, cluster.wantedSchedule settings = .text text := by
    rw [wantedSchedule, Value.orIfBlank, usual]
    split
    next => exact ⟨_, rfl⟩
    next => exact ⟨_, rfl⟩
  obtain ⟨text, wanted⟩ := isText
  exact ⟨_, jobs_of_text wanted given⟩

theorem jobs_eq_ok {jobs : List Job} (made : cluster.jobs settings = .ok jobs) :
    ∃ schedule image, cluster.wantedSchedule settings = .text schedule ∧
      settings.image = .text image ∧
      jobs = cluster.topology.slots.map (cluster.jobWith settings schedule image) := by
  have hasSlot : ∃ slot rest, cluster.topology.slots = slot :: rest := by
    cases cluster.topology <;> exact ⟨_, _, rfl⟩
  obtain ⟨slot, rest, slots⟩ := hasSlot
  have first := made
  rw [Cluster.jobs, slots, List.mapM_cons] at first
  obtain ⟨job, made_first, -⟩ := except_bind_eq_ok.mp first
  obtain ⟨schedule, image, wanted, given, -⟩ := jobIn_eq_ok.mp made_first
  rw [jobs_of_text wanted given] at made
  exact ⟨schedule, image, wanted, given, (Except.ok.inj made).symm⟩

theorem jobNames_of_jobs {jobs : List Job} (made : cluster.jobs settings = .ok jobs) :
    jobs.map Job.name = cluster.jobNames := by
  obtain ⟨schedule, image, -, -, rfl⟩ := jobs_eq_ok made
  rw [List.map_map]
  rfl

theorem desired_eq_ok {files : Fields} {credentials : List (String × ByteArray)}
    {desired : DesiredSet} (made : cluster.desired settings files credentials = .ok desired) :
    ∃ jobs, cluster.jobs settings = .ok jobs ∧
      desired = ⟨cluster.serviceAccount, cluster.configMap files, cluster.secret credentials,
        jobs.map fun job => (job, job.manifest cluster)⟩ := by
  obtain ⟨jobs, madeJobs, rest⟩ := except_bind_eq_ok.mp made
  cases rest
  exact ⟨jobs, madeJobs, rfl⟩

theorem desired_of_jobs {jobs : List Job} (made : cluster.jobs settings = .ok jobs) (files : Fields)
    (credentials : List (String × ByteArray)) :
    cluster.desired settings files credentials =
      .ok ⟨cluster.serviceAccount, cluster.configMap files, cluster.secret credentials,
        jobs.map fun job => (job, job.manifest cluster)⟩ := by
  rw [desired, made]
  rfl

def onceRefs (cluster : Cluster) : List Ref :=
  [⟨"ServiceAccount", cluster.space, curatorName⟩, ⟨"ConfigMap", cluster.space, curatorName⟩,
    ⟨"Secret", cluster.space, curatorName⟩]

theorem refs_writeOnce {files : Fields} {credentials : List (String × ByteArray)}
    {desired : DesiredSet} (made : cluster.desired settings files credentials = .ok desired) :
    desired.writeOnce.map Ref.of = cluster.onceRefs.map .ok := by
  obtain ⟨jobs, -, rfl⟩ := desired_eq_ok made
  rfl

theorem ownedRefs_eq (cluster : Cluster) :
    cluster.ownedRefs = cluster.onceRefs ++ cluster.jobNames.map cluster.jobRef := rfl

theorem plain_of_owned {ref : Ref} (owned : ref ∈ cluster.ownedRefs) : ref.Plain := by
  rw [ownedRefs_eq] at owned
  rcases List.mem_append.mp owned with once | job
  · simp only [onceRefs, List.mem_cons, List.not_mem_nil, or_false] at once
    rcases once with rfl | rfl | rfl <;> exact ⟨_, _, _, rfl⟩
  · obtain ⟨name, -, rfl⟩ := List.mem_map.mp job
    exact plain_jobRef cluster name

theorem space_of_owned {ref : Ref} (owned : ref ∈ cluster.ownedRefs) : ref.space = cluster.space := by
  rw [ownedRefs_eq] at owned
  rcases List.mem_append.mp owned with once | job
  · simp only [onceRefs, List.mem_cons, List.not_mem_nil, or_false] at once
    rcases once with rfl | rfl | rfl <;> rfl
  · obtain ⟨name, -, rfl⟩ := List.mem_map.mp job
    rfl

def ownedKinds : List Value := ["ServiceAccount", "ConfigMap", "Secret", "CronJob"]

theorem kind_of_owned {ref : Ref} (owned : ref ∈ cluster.ownedRefs) : ref.kind ∈ ownedKinds := by
  rw [ownedRefs_eq] at owned
  rcases List.mem_append.mp owned with once | job
  · simp only [onceRefs, List.mem_cons, List.not_mem_nil, or_false] at once
    rcases once with rfl | rfl | rfl <;> simp [ownedKinds]
  · obtain ⟨name, -, rfl⟩ := List.mem_map.mp job
    simp [jobRef, ownedKinds]

end Cluster

/-- A resource as it is named in an outcome. -/
def Ref.label (ref : Ref) : String := ref.kind.display ++ "/" ++ ref.name.display

namespace Cluster

theorem label_jobRef (cluster : Cluster) (name : String) :
    (cluster.jobRef name).label = "CronJob/" ++ name := by
  have joined : "CronJob" ++ "/" = "CronJob/" := rfl
  rw [← joined]
  rfl

/-- What is owned goes by different names. -/
theorem nodup_labels (cluster : Cluster) : (cluster.ownedRefs.map Ref.label).Nodup := by
  obtain ⟨name, space, uid, apiVersion, kind, management, topology, curation⟩ := cluster
  cases topology with
  | combined =>
      change ["ServiceAccount/curator", "ConfigMap/curator", "Secret/curator",
        "CronJob/curator"].Nodup
      decide
  | split =>
      change ["ServiceAccount/curator", "ConfigMap/curator", "Secret/curator",
        "CronJob/curator-app", "CronJob/curator-infra"].Nodup
      decide

theorem nodup_ownedRefs (cluster : Cluster) : cluster.ownedRefs.Nodup :=
  List.Pairwise.of_map Ref.label (fun _ _ different same => different (congrArg _ same))
    cluster.nodup_labels

end Cluster
end CuratorKeeper
