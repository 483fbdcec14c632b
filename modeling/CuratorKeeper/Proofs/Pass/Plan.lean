import CuratorKeeper.Proofs.Pass.Reporting

/-!
# What a pass aims at

A pass over a cluster wants some resources to be there, its jobs in order and a
report on them in the object of the cluster.  With what is there at the start
this tells the content of every resource in the end, so that all parts of a
pass, and all passes over the same cluster, share one aim.
-/

namespace CuratorKeeper

theorem find?_of_nodup {α β : Type} [DecidableEq β] {key : α → β} {items : List α}
    (distinct : (items.map key).Nodup) {item : α} (member : item ∈ items) :
    items.find? (fun other => decide (key other = key item)) = some item := by
  induction items with
  | nil => cases member
  | cons first rest ih =>
      obtain ⟨stranger, distinctRest⟩ := List.nodup_cons.mp distinct
      rcases List.mem_cons.mp member with rfl | later
      · simp
      · have different : key first ≠ key item := by
          intro same
          rw [same] at stranger
          exact stranger (List.mem_map_of_mem later)
        rw [List.find?_cons_of_neg (by simpa using different)]
        exact ih distinctRest later

/-- The drift of a job in a store, which is none if the job is absent. -/
def Cluster.driftIn (cluster : Cluster) (store : Store) (job : Job) : Drift :=
  match store.find? (cluster.jobRef job.name) with
  | some live => driftOf live job
  | none => {}

/-- What a pass over a cluster wants: resources that are written once, each by
its reference, and jobs. -/
structure Plan where
  cluster : Cluster
  once : List (Ref × Value)
  jobs : List Job
  plain : ∀ entry ∈ once, entry.1.Plain
  known : ∀ entry ∈ once, Ref.of entry.2 = .ok entry.1
  names : jobs.map Job.name = cluster.jobNames
  distinct : (cluster.ref :: (once.map Prod.fst ++ cluster.jobRefs jobs)).Nodup

namespace Plan

variable {plan : Plan} {start : Store}

def refs (plan : Plan) : List Ref := plan.once.map Prod.fst ++ plan.cluster.jobRefs plan.jobs

def jobFrom (plan : Plan) (start : Store) (job : Job) : Value :=
  plan.cluster.jobFrom job (start.find? (plan.cluster.jobRef job.name))

def report (plan : Plan) (start : Store) : Value :=
  statusOf (plan.jobs.map fun job => reportOn job.name (plan.jobFrom start job))

def aim (plan : Plan) (start : Store) : Aim where
  start := start
  final ref :=
    if ref = plan.cluster.ref then (start.find? ref).map (ownerFrom (plan.report start))
    else
      match plan.jobs.find? fun job => decide (plan.cluster.jobRef job.name = ref) with
      | some job => some (plan.jobFrom start job)
      | none => (start.find? ref).or ((plan.once.find? fun entry => decide (entry.1 = ref)).map Prod.snd)

@[simp]
theorem aim_start (plan : Plan) (start : Store) : (plan.aim start).start = start := rfl

/-- What is there already of the jobs and the object is of good shape. -/
structure Fits (plan : Plan) (start : Store) : Prop where
  sound : start.Sound
  jobs : ∀ job ∈ plan.jobs, ∀ live, start.find? (plan.cluster.jobRef job.name) = some live →
    JobShaped live
  owner : ∀ object, start.find? plan.cluster.ref = some object → OwnerShaped object

theorem owner_not_mem (plan : Plan) : plan.cluster.ref ∉ plan.refs :=
  (List.nodup_cons.mp plan.distinct).1

theorem nodup_refs (plan : Plan) : plan.refs.Nodup := (List.nodup_cons.mp plan.distinct).2

theorem nodup_once (plan : Plan) : (plan.once.map Prod.fst).Nodup :=
  (List.nodup_append.mp plan.nodup_refs).1

theorem nodup_jobs (plan : Plan) : (plan.cluster.jobRefs plan.jobs).Nodup :=
  (List.nodup_append.mp plan.nodup_refs).2.1

theorem once_ne_job (plan : Plan) {ref other : Ref} (once : ref ∈ plan.once.map Prod.fst)
    (isJob : other ∈ plan.cluster.jobRefs plan.jobs) : ref ≠ other :=
  (List.nodup_append.mp plan.nodup_refs).2.2 ref once other isJob

theorem final_owner (plan : Plan) (start : Store) :
    (plan.aim start).final plan.cluster.ref =
      (start.find? plan.cluster.ref).map (ownerFrom (plan.report start)) := if_pos rfl

theorem final_job (plan : Plan) (start : Store) {job : Job} (member : job ∈ plan.jobs) :
    (plan.aim start).final (plan.cluster.jobRef job.name) = some (plan.jobFrom start job) := by
  have isJob := plan.cluster.jobRef_mem_jobRefs member
  have different : plan.cluster.jobRef job.name ≠ plan.cluster.ref :=
    fun same => plan.owner_not_mem (same ▸ List.mem_append_right _ isJob)
  have found := find?_of_nodup plan.nodup_jobs member
  simp only [aim, if_neg different, found]

theorem final_of_not_job (plan : Plan) (start : Store) {ref : Ref} (notOwner : ref ≠ plan.cluster.ref)
    (notJob : ref ∉ plan.cluster.jobRefs plan.jobs) :
    (plan.aim start).final ref = (start.find? ref).or
      ((plan.once.find? fun entry => decide (entry.1 = ref)).map Prod.snd) := by
  have missing : (plan.jobs.find? fun job => decide (plan.cluster.jobRef job.name = ref)) = none := by
    rw [List.find?_eq_none]
    intro job member same
    exact notJob (of_decide_eq_true same ▸ plan.cluster.jobRef_mem_jobRefs member)
  simp only [aim, if_neg notOwner, missing]

theorem final_once (plan : Plan) (start : Store) {entry : Ref × Value} (member : entry ∈ plan.once) :
    (plan.aim start).final entry.1 = some ((start.find? entry.1).getD entry.2) := by
  have isOnce : entry.1 ∈ plan.once.map Prod.fst := List.mem_map_of_mem member
  have notOwner : entry.1 ≠ plan.cluster.ref :=
    fun same => plan.owner_not_mem (same ▸ List.mem_append_left _ isOnce)
  have notJob : entry.1 ∉ plan.cluster.jobRefs plan.jobs :=
    fun isJob => plan.once_ne_job isOnce isJob rfl
  rw [plan.final_of_not_job start notOwner notJob, find?_of_nodup plan.nodup_once member,
    Option.map_some]
  cases start.find? entry.1 <;> rfl

theorem final_elsewhere (plan : Plan) (start : Store) {ref : Ref} (notOwner : ref ≠ plan.cluster.ref)
    (stranger : ref ∉ plan.refs) : (plan.aim start).final ref = start.find? ref := by
  have missing : (plan.once.find? fun entry => decide (entry.1 = ref)) = none := by
    rw [List.find?_eq_none]
    intro entry member same
    exact stranger (List.mem_append_left _ (of_decide_eq_true same ▸ List.mem_map_of_mem member))
  rw [plan.final_of_not_job start notOwner fun isJob => stranger (List.mem_append_right _ isJob),
    missing, Option.map_none, Option.or_none]

theorem awaits (plan : Plan) (start : Store) {entry : Ref × Value} (member : entry ∈ plan.once) :
    (plan.aim start).Awaits entry.1 entry.2 where
  plain := plan.plain entry member
  known := plan.known entry member
  absent := by
    intro missing
    have absent : start.find? entry.1 = none := missing
    rw [plan.final_once start member, absent, Option.getD_none]
  present := by
    rw [plan.final_once start member]
    exact Option.some_ne_none _

theorem forJob (fits : plan.Fits start) {job : Job} (member : job ∈ plan.jobs) :
    (plan.aim start).ForJob plan.cluster job where
  absent := by
    intro missing
    have absent : start.find? (plan.cluster.jobRef job.name) = none := missing
    rw [plan.final_job start member, jobFrom, absent]
    rfl
  present := by
    intro live found
    have isThere : start.find? (plan.cluster.jobRef job.name) = some live := found
    have shaped := fits.jobs job member live isThere
    refine ⟨shaped, plan.jobFrom start job, plan.final_job start member, ?_⟩
    rw [jobFrom, isThere]
    exact makes_jobFrom shaped plan.cluster job

theorem statusOf_reportsOn (plan : Plan) (start : Store) :
    statusOf ((plan.aim start).reportsOn plan.cluster plan.jobs) = plan.report start := by
  have same : (plan.aim start).reportsOn plan.cluster plan.jobs =
      plan.jobs.map fun job => reportOn job.name (plan.jobFrom start job) := by
    apply List.map_congr_left
    intro job member
    rw [Aim.content, plan.final_job start member, Option.getD_some]
  rw [same, report]

theorem forOwner (fits : plan.Fits start) :
    (plan.aim start).ForOwner plan.cluster.ref (plan.report start) where
  plain := plan.cluster.plain_ref
  absent := by
    intro missing
    have absent : start.find? plan.cluster.ref = none := missing
    rw [plan.final_owner, absent, Option.map_none]
  present := by
    intro object found
    have isThere : start.find? plan.cluster.ref = some object := found
    have shaped := fits.owner object isThere
    obtain ⟨version, marked⟩ := fits.sound.marked_of_found isThere
    refine ⟨shaped, ownerFrom (plan.report start) object, ?_,
      withStatus_ownerFrom shaped marked.isObject⟩
    rw [plan.final_owner, isThere, Option.map_some]

/-- What is reported of a pass that made some calls: what it wrote was created
if it was absent at the start, and patched if it is a job that was there. -/
def outcome (plan : Plan) (start : Store) (history : List Served) : Outcome where
  mode := .enabled
  created := (plan.refs.filter fun ref => (start.find? ref).isNone && wrote ref history).map Ref.label
  patched := (plan.jobs.filter fun job => (start.find? (plan.cluster.jobRef job.name)).isSome &&
      wrote (plan.cluster.jobRef job.name) history).map fun job =>
    (job.name, (plan.cluster.driftIn start job).fieldNames)
  statusWritten := wrote plan.cluster.ref history

theorem drifted_of_not_met {job : Job} (member : job ∈ plan.jobs)
    {live : Value} (found : start.find? (plan.cluster.jobRef job.name) = some live)
    (lacking : ¬ (plan.aim start).Met (plan.cluster.jobRef job.name) start) :
    plan.cluster.isManaged = true ∧ (driftOf live job).isChange = true := by
  by_contra settled
  apply lacking
  rw [Aim.Met, plan.final_job start member, jobFrom, found, Cluster.jobFrom, if_neg settled]

end Plan

theorem createdJobs_map (jobs : List Job) (correction : Job → Correction) :
    createdJobs (jobs.map fun job => (job, correction job)) =
      (jobs.filter fun job => (correction job).created).map fun job => "CronJob/" ++ job.name := by
  simp [createdJobs, List.filter_map, Function.comp_def]

theorem patchedJobs_map (jobs : List Job) (correction : Job → Correction) :
    patchedJobs (jobs.map fun job => (job, correction job)) =
      (jobs.filter fun job => (correction job).drift.isChange).map fun job =>
        (job.name, (correction job).drift.fieldNames) := by
  simp [patchedJobs, List.filter_map, Function.comp_def]

namespace Plan

open Program

variable {plan : Plan} {start : Store} {calm : Prop}

theorem createdJobs_eq (plan : Plan) (start : Store) (history : List Served) :
    createdJobs (plan.jobs.map fun job => (job, (plan.aim start).correctionOf plan.cluster job
        (wrote (plan.cluster.jobRef job.name) history))) =
      ((plan.cluster.jobRefs plan.jobs).filter fun ref =>
        (start.find? ref).isNone && wrote ref history).map Ref.label := by
  rw [createdJobs_map, Cluster.jobRefs, List.filter_map, List.map_map]
  apply List.map_congr_left
  intro job _
  exact (plan.cluster.label_jobRef job.name).symm

/-- What is told of a job that was written and was there is its drift at the
start, which is one. -/
theorem drift_correctionOf {job : Job} (member : job ∈ plan.jobs) {written : Bool}
    (lacked : written = true → ¬ (plan.aim start).Met (plan.cluster.jobRef job.name) start) :
    ((plan.aim start).correctionOf plan.cluster job written).drift.isChange =
        ((start.find? (plan.cluster.jobRef job.name)).isSome && written) ∧
      (((plan.aim start).correctionOf plan.cluster job written).drift.isChange = true →
        ((plan.aim start).correctionOf plan.cluster job written).drift = plan.cluster.driftIn start job) := by
  cases found : start.find? (plan.cluster.jobRef job.name) with
  | none =>
      have untold : ((plan.aim start).correctionOf plan.cluster job written).drift = {} := by
        simp [Aim.correctionOf, Aim.told_of_absent, found]
      rw [untold, Cluster.driftIn, found]
      exact ⟨rfl, by simp⟩
  | some live =>
      cases written with
      | false =>
          have untold : ((plan.aim start).correctionOf plan.cluster job false).drift = {} := by
            simp [Aim.correctionOf]
          rw [untold]
          exact ⟨rfl, by simp [Drift.isChange]⟩
      | true =>
          obtain ⟨managed, drifted⟩ := drifted_of_not_met member found (lacked rfl)
          have told : ((plan.aim start).correctionOf plan.cluster job true).drift =
              driftOf live job := by
            rw [Aim.correctionOf, if_pos managed]
            exact Aim.told_true found
          rw [told, Cluster.driftIn, found]
          exact ⟨drifted, fun _ => rfl⟩

theorem patchedJobs_eq {history : List Served}
    (lacked : ∀ ref, wrote ref history = true → ¬ (plan.aim start).Met ref start) :
    patchedJobs (plan.jobs.map fun job => (job, (plan.aim start).correctionOf plan.cluster job
        (wrote (plan.cluster.jobRef job.name) history))) = (plan.outcome start history).patched := by
  have told := fun job (member : job ∈ plan.jobs) =>
    drift_correctionOf member (lacked (plan.cluster.jobRef job.name))
  rw [patchedJobs_map, outcome, List.filter_congr fun job member => (told job member).1]
  apply List.map_congr_left
  intro job among
  obtain ⟨member, changed⟩ := List.mem_filter.mp among
  obtain ⟨isChange, isDrift⟩ := told job member
  rw [isDrift (isChange.trans changed)]

section Parts

variable {early among late : List Served}

theorem wrote_once (onlyAmong : WroteOnly (plan.cluster.jobRefs plan.jobs) among)
    (onlyLate : WroteOnly [plan.cluster.ref] late) {ref : Ref}
    (isOnce : ref ∈ plan.once.map Prod.fst) :
    wrote ref (early ++ (among ++ late)) = wrote ref early := by
  have notOwner : ref ∉ [plan.cluster.ref] := by
    rw [List.mem_singleton]
    rintro rfl
    exact plan.owner_not_mem (List.mem_append_left _ isOnce)
  have notJob : ref ∉ plan.cluster.jobRefs plan.jobs :=
    fun isJob => plan.once_ne_job isOnce isJob rfl
  apply wrote_append_left
  rw [writesOf_append, onlyAmong ref notJob, onlyLate ref notOwner]

theorem wrote_job (onlyEarly : WroteOnly (plan.once.map Prod.fst) early)
    (onlyLate : WroteOnly [plan.cluster.ref] late) {ref : Ref}
    (isJob : ref ∈ plan.cluster.jobRefs plan.jobs) :
    wrote ref (early ++ (among ++ late)) = wrote ref among := by
  have notOwner : ref ∉ [plan.cluster.ref] := by
    rw [List.mem_singleton]
    rintro rfl
    exact plan.owner_not_mem (List.mem_append_right _ isJob)
  have notOnce : ref ∉ plan.once.map Prod.fst := fun isOnce => plan.once_ne_job isOnce isJob rfl
  rw [wrote_append_right (onlyEarly ref notOnce), wrote_append_left (onlyLate ref notOwner)]

theorem wrote_owner (onlyEarly : WroteOnly (plan.once.map Prod.fst) early)
    (onlyAmong : WroteOnly (plan.cluster.jobRefs plan.jobs) among) :
    wrote plan.cluster.ref (early ++ (among ++ late)) = wrote plan.cluster.ref late := by
  have notOnce : plan.cluster.ref ∉ plan.once.map Prod.fst :=
    fun isOnce => plan.owner_not_mem (List.mem_append_left _ isOnce)
  have notJob : plan.cluster.ref ∉ plan.cluster.jobRefs plan.jobs :=
    fun isJob => plan.owner_not_mem (List.mem_append_right _ isJob)
  rw [wrote_append_right (onlyEarly _ notOnce), wrote_append_right (onlyAmong _ notJob)]

theorem outcome_of_parts (onlyEarly : WroteOnly (plan.once.map Prod.fst) early)
    (missing : ∀ entry ∈ plan.once, wrote entry.1 early = true → start.find? entry.1 = none)
    (onlyAmong : WroteOnly (plan.cluster.jobRefs plan.jobs) among)
    (onlyLate : WroteOnly [plan.cluster.ref] late)
    (lacked : ∀ ref, wrote ref (early ++ (among ++ late)) = true →
      ¬ (plan.aim start).Met ref start) :
    ({  mode := .enabled
        created := ((plan.once.map Prod.fst).filter (wrote · early)).map Ref.label ++
          createdJobs (plan.jobs.map fun job => (job, (plan.aim start).correctionOf plan.cluster job
            (wrote (plan.cluster.jobRef job.name) among)))
        patched := patchedJobs (plan.jobs.map fun job =>
          (job, (plan.aim start).correctionOf plan.cluster job
            (wrote (plan.cluster.jobRef job.name) among)))
        statusWritten := wrote plan.cluster.ref late } : Outcome) =
      plan.outcome start (early ++ (among ++ late)) := by
  have corrections : (plan.jobs.map fun job => (job, (plan.aim start).correctionOf plan.cluster job
        (wrote (plan.cluster.jobRef job.name) among))) =
      plan.jobs.map fun job => (job, (plan.aim start).correctionOf plan.cluster job
        (wrote (plan.cluster.jobRef job.name) (early ++ (among ++ late)))) := by
    apply List.map_congr_left
    intro job member
    rw [wrote_job onlyEarly onlyLate (plan.cluster.jobRef_mem_jobRefs member)]
  have createdOnce : (plan.once.map Prod.fst).filter (wrote · early) =
      (plan.once.map Prod.fst).filter fun ref =>
        (start.find? ref).isNone && wrote ref (early ++ (among ++ late)) := by
    apply List.filter_congr
    intro ref isOnce
    rw [wrote_once onlyAmong onlyLate isOnce]
    obtain ⟨entry, member, rfl⟩ := List.mem_map.mp isOnce
    cases writes : wrote entry.1 early with
    | false => exact (Bool.and_false _).symm
    | true => simp [missing entry member writes]
  rw [corrections, createdJobs_eq, patchedJobs_eq lacked, createdOnce, ← List.map_append,
    ← List.filter_append, ← wrote_owner onlyEarly onlyAmong]
  rfl

end Parts

theorem reached_of_parts {middle later after : Store}
    (once : ∀ entry ∈ plan.once, start.find? entry.1 = none → (plan.aim start).Met entry.1 middle)
    (jobs : ∀ job ∈ plan.jobs, (plan.aim start).Reached (plan.cluster.jobRef job.name) later)
    (owner : (plan.aim start).Met plan.cluster.ref after)
    (further : (plan.aim start).Progress middle later)
    (last : (plan.aim start).Progress later after) (ref : Ref) :
    (plan.aim start).Reached ref after := by
  by_cases isOwner : ref = plan.cluster.ref
  · rw [isOwner]
    exact fun _ => owner
  by_cases owned : ref ∈ plan.refs
  · rcases List.mem_append.mp owned with isOnce | isJob
    · obtain ⟨entry, member, rfl⟩ := List.mem_map.mp isOnce
      intro lacking
      refine (further.trans last).met (once entry member ?_)
      by_contra present
      obtain ⟨old, found⟩ := Option.ne_none_iff_exists'.mp present
      apply lacking
      rw [Aim.Met, plan.final_once start member, found, Option.getD_some, aim_start, found]
    · obtain ⟨job, member, rfl⟩ := List.mem_map.mp isJob
      exact (jobs job member).progress last
  · intro lacking
    refine absurd ?_ lacking
    rw [Aim.Met, plan.final_elsewhere start isOwner owned, aim_start]

/-- Everything has come to its content, and what was written is reported. -/
def Carried (plan : Plan) (start : Store) : Goal Outcome := fun result history after =>
  (∀ ref, (plan.aim start).Reached ref after) ∧
    ((∀ ref, wrote ref history = true → ¬ (plan.aim start).Met ref start) →
      result = .ok (plan.outcome start history))

theorem ensures_buildUp {budget : Budget} (enough : Aim.Enough calm budget) (fits : plan.Fits start)
    {settings : Settings} {files : Fields} {credentials : List (String × ByteArray)}
    {desired : DesiredSet}
    (made : plan.cluster.desired settings files credentials = .ok desired)
    (once : desired.writeOnce = plan.once.map Prod.snd)
    (jobs : desired.jobs = plan.jobs.map fun job => (job, job.manifest plan.cluster)) :
    Ensures ((plan.aim start).around calm) (plan.aim start).Serves
      (buildUp plan.cluster settings ⟨.given files, .given credentials⟩ budget)
      (plan.Carried start) start := by
  have forJobs : ∀ job ∈ plan.jobs, (plan.aim start).ForJob plan.cluster job :=
    fun job member => plan.forJob fits member
  have forOwner := plan.forOwner fits
  rw [← plan.statusOf_reportsOn] at forOwner
  simp only [buildUp, Inputs.loadFiles, Inputs.loadCredentials, made, bind_eq, pure_eq, done_bind,
    liftM_fault, Program.ofExcept]
  rw [ensures_bind, once]
  -- Each part is done in a store that the earlier ones have only moved towards the aim.
  have creating : Ensures ((plan.aim start).around calm) (plan.aim start).Serves
      (createAll (plan.once.map Prod.snd)) _ start :=
    Aim.ensures_createAll plan.once plan.nodup_once fun entry member => plan.awaits start member
  apply (Aim.ensures_progress creating).mono
  intro result early middle created
  obtain ⟨⟨rfl, onlyEarly, metOnce, missingOnce⟩, progress, -⟩ := created
  simp only
  rw [ensures_bind, jobs]
  have correcting : Ensures ((plan.aim start).around calm) (plan.aim start).Serves
      (reconcileJobs plan.cluster budget (plan.jobs.map fun job => (job, job.manifest plan.cluster))) _
      middle := Aim.ensures_reconcileJobs enough plan.jobs plan.nodup_jobs forJobs
  apply (Aim.ensures_progress correcting).mono
  intro result among later corrected
  obtain ⟨⟨onlyAmong, reached, rfl⟩, further, -⟩ := corrected
  simp only
  rw [ensures_bind]
  refine (Aim.ensures_progress (Aim.ensures_syncStatus enough plan.names forJobs forOwner reached
    (progress.trans further))).mono fun result late after synced => ?_
  obtain ⟨⟨onlyLate, metOwner, rfl⟩, last, -⟩ := synced
  simp only [ensures_done, List.append_nil]
  refine ⟨reached_of_parts metOnce reached metOwner further last, fun lacked => ?_⟩
  have reported :=
    @outcome_of_parts plan start early among late onlyEarly missingOnce onlyAmong onlyLate lacked
  rw [reported]

end Plan

namespace Cluster

variable {cluster : Cluster} {settings : Settings} {jobs : List Job} {files : Fields}
  {credentials : List (String × ByteArray)}

/-- The resources of a cluster that are written once, by their references. -/
def onceEntries (cluster : Cluster) (files : Fields) (credentials : List (String × ByteArray)) :
    List (Ref × Value) :=
  [(⟨"ServiceAccount", cluster.space, curatorName⟩, cluster.serviceAccount),
    (⟨"ConfigMap", cluster.space, curatorName⟩, cluster.configMap files),
    (⟨"Secret", cluster.space, curatorName⟩, cluster.secret credentials)]

theorem map_onceEntries (cluster : Cluster) (files : Fields)
    (credentials : List (String × ByteArray)) :
    (cluster.onceEntries files credentials).map Prod.fst = cluster.onceRefs := rfl

theorem writeOnce_eq (cluster : Cluster) (files : Fields) (credentials : List (String × ByteArray))
    (jobs : List (Job × Value)) :
    (DesiredSet.mk cluster.serviceAccount (cluster.configMap files) (cluster.secret credentials)
      jobs).writeOnce = (cluster.onceEntries files credentials).map Prod.snd := rfl

theorem nodup_onceEntries (cluster : Cluster) (files : Fields)
    (credentials : List (String × ByteArray)) :
    ((cluster.onceEntries files credentials).map Prod.fst).Nodup :=
  (List.nodup_append.mp cluster.nodup_ownedRefs).1

theorem plain_onceEntries (cluster : Cluster) (files : Fields)
    (credentials : List (String × ByteArray)) :
    ∀ entry ∈ cluster.onceEntries files credentials, entry.1.Plain := by
  intro entry member
  have isOnce : entry.1 ∈ cluster.onceRefs := List.mem_map_of_mem member
  exact plain_of_owned (List.mem_append_left _ isOnce)

theorem known_onceEntries (cluster : Cluster) (files : Fields)
    (credentials : List (String × ByteArray)) :
    ∀ entry ∈ cluster.onceEntries files credentials, Ref.of entry.2 = .ok entry.1 := by
  intro entry member
  simp only [onceEntries, List.mem_cons, List.not_mem_nil, or_false] at member
  rcases member with rfl | rfl | rfl <;> rfl

theorem refs_eq_ownedRefs (names : jobs.map Job.name = cluster.jobNames) :
    cluster.onceRefs ++ cluster.jobRefs jobs = cluster.ownedRefs := by
  rw [ownedRefs_eq, ← names, List.map_map]
  rfl

/-- The plan of a pass over a cluster whose object is of none of the kinds that
are owned. -/
def plan (cluster : Cluster) (files : Fields) (credentials : List (String × ByteArray))
    (jobs : List Job) (names : jobs.map Job.name = cluster.jobNames)
    (stranger : cluster.ref.kind ∉ ownedKinds) : Plan where
  cluster := cluster
  once := cluster.onceEntries files credentials
  jobs := jobs
  plain := cluster.plain_onceEntries files credentials
  known := cluster.known_onceEntries files credentials
  names := names
  distinct := by
    rw [map_onceEntries, refs_eq_ownedRefs names]
    exact List.nodup_cons.mpr ⟨fun owned => stranger (kind_of_owned owned), cluster.nodup_ownedRefs⟩

/-- The resources of a cluster that are there are of good shape. -/
structure ShapedIn (cluster : Cluster) (store : Store) : Prop where
  jobs : ∀ name ∈ cluster.jobNames, ∀ live, store.find? (cluster.jobRef name) = some live →
    JobShaped live
  owner : ∀ object, store.find? cluster.ref = some object → OwnerShaped object

variable {names : jobs.map Job.name = cluster.jobNames} {stranger : cluster.ref.kind ∉ ownedKinds}
  {start : Store}

theorem plan_fits (sound : start.Sound) (shaped : cluster.ShapedIn start) :
    (cluster.plan files credentials jobs names stranger).Fits start where
  sound := sound
  jobs := by
    intro job member
    apply shaped.jobs job.name
    rw [← names]
    exact List.mem_map_of_mem member
  owner := shaped.owner

/-- With tries enough a pass over an enabled cluster carries out its plan. -/
theorem ensures_reconcile {calm : Prop} {budget : Budget} (enough : Aim.Enough calm budget)
    (enabled : cluster.curation.mode = .enabled) (made : cluster.jobs settings = .ok jobs)
    (fits : (cluster.plan files credentials jobs names stranger).Fits start) :
    let plan := cluster.plan files credentials jobs names stranger
    Program.Ensures ((plan.aim start).around calm) (plan.aim start).Serves
      (reconcile cluster settings ⟨.given files, .given credentials⟩ budget)
      (plan.Carried start) start := by
  intro plan
  rw [reconcile, enabled]
  exact Plan.ensures_buildUp enough fits (desired_of_jobs made files credentials) rfl rfl

end Cluster
end CuratorKeeper
