import CuratorKeeper.Proofs.Job.Reading
import CuratorKeeper.Proofs.Pass.Plan

/-!
# An undisturbed pass

What a pass over a cluster makes of the resources that it finds, and what it
reports, when nobody else comes to the store: every resource has its content in
the end, and what is reported is what had to be done.
-/

namespace CuratorKeeper

open Drift

/-- What a pass over a cluster makes of the store at its start.  What is made or
changed is told up to its version. -/
structure Built (cluster : Cluster) (jobs : List Job) (once : List (Ref × Value))
    (start after : Store) : Prop where
  onceKept : ∀ entry ∈ once, ∀ old, start.find? entry.1 = some old →
    after.find? entry.1 = some old
  onceMade : ∀ entry ∈ once, start.find? entry.1 = none →
    ∃ made, after.find? entry.1 = some made ∧ made.unversioned = entry.2.unversioned
  jobMade : ∀ job ∈ jobs, start.find? (cluster.jobRef job.name) = none →
    ∃ made, after.find? (cluster.jobRef job.name) = some made ∧
      made.unversioned = (job.manifest cluster).unversioned
  jobKept : ∀ job ∈ jobs, ∀ live, start.find? (cluster.jobRef job.name) = some live →
    cluster.isManaged = false ∨ (driftOf live job).isChange = false →
      after.find? (cluster.jobRef job.name) = some live
  jobCorrected : ∀ job ∈ jobs, ∀ live, start.find? (cluster.jobRef job.name) = some live →
    cluster.isManaged = true → ∃ made, after.find? (cluster.jobRef job.name) = some made ∧
      Value.AgreesOff [schedulePlace, suspendPlace, imagePlace, Value.versionPlace] live made ∧
        made.at? schedulePlace = some (.text job.schedule) ∧
        made.at? suspendPlace = (driftOf live job).suspend.or (live.at? suspendPlace) ∧
        made.at? imagePlace = some (.text job.image)
  ownerAbsent : start.find? cluster.ref = none → after.find? cluster.ref = none
  ownerKept : ∀ object, start.find? cluster.ref = some object →
    (reportIn object).same (cluster.reportIn jobs after) = true →
      after.find? cluster.ref = some object
  ownerMade : ∀ object, start.find? cluster.ref = some object →
    (reportIn object).same (cluster.reportIn jobs after) = false →
      ∃ made, after.find? cluster.ref = some made ∧
        Value.AgreesOff [statusPlace, Value.versionPlace] object made ∧
          made.at? statusPlace = some (cluster.reportIn jobs after)
  elsewhere : ∀ ref, ref ≠ cluster.ref → ref ∉ cluster.ownedRefs →
    after.find? ref = start.find? ref

/-- What an undisturbed pass reports: the resources that were absent, the jobs of
a managed cluster that had drifted, and whether the object held another report. -/
def builtOutcome (cluster : Cluster) (jobs : List Job) (start after : Store) : Outcome where
  mode := .enabled
  created := (cluster.ownedRefs.filter fun ref => (start.find? ref).isNone).map Ref.label
  patched := (jobs.filter fun job => cluster.isManaged && (cluster.driftIn start job).isChange).map
    fun job => (job.name, (cluster.driftIn start job).fieldNames)
  statusWritten := (start.find? cluster.ref).any fun object =>
    !(reportIn object).same (cluster.reportIn jobs after)

namespace Plan

variable {plan : Plan} {start after : Store}

theorem exists_of_met {aim : Aim} {ref : Ref} {final : Value} (isFinal : aim.final ref = some final)
    (met : aim.Met ref after) :
    ∃ made, after.find? ref = some made ∧ made.unversioned = final.unversioned := by
  rw [Aim.Met, isFinal, Option.map_some, Option.map_eq_some_iff] at met
  exact met

theorem reportIn_eq (fits : plan.Fits start)
    (met : ∀ job ∈ plan.jobs, (plan.aim start).Met (plan.cluster.jobRef job.name) after) :
    plan.cluster.reportIn plan.jobs after = plan.report start := by
  rw [Cluster.reportIn, report, statusOf, List.map_map]
  refine congrArg Value.list (List.map_congr_left fun job member => ?_)
  obtain ⟨made, found, same⟩ := exists_of_met (plan.final_job start member) (met job member)
  have shaped : JobShaped made :=
    (shaped_jobFrom (fits.jobs job member) plan.cluster job).congr same
  rw [found, Option.getD_some, ← statusEntry_reportOn (shaped.reportOf_eq job.name),
    JobShaped.reportOn_congr same]
  rfl

/-- A job of a managed cluster that has its content has the desired values and
is as it was everywhere else. -/
theorem corrected_of_met (fits : plan.Fits start) {job : Job} (member : job ∈ plan.jobs)
    {live made : Value} (found : start.find? (plan.cluster.jobRef job.name) = some live)
    (managed : plan.cluster.isManaged = true)
    (same : made.unversioned = (plan.jobFrom start job).unversioned) :
    Value.AgreesOff [schedulePlace, suspendPlace, imagePlace, Value.versionPlace] live made ∧
      made.at? schedulePlace = some (.text job.schedule) ∧
      made.at? suspendPlace = (driftOf live job).suspend.or (live.at? suspendPlace) ∧
      made.at? imagePlace = some (.text job.image) := by
  have makes := makes_jobFrom (fits.jobs job member live found) plan.cluster job
  rw [← found] at makes
  obtain ⟨agrees, settled, suspend⟩ := makes.corrected managed
  have undrifted : driftOf made job = {} := (JobShaped.driftOf_congr same job).trans settled
  obtain ⟨schedule, image⟩ := at?_of_driftOf_eq undrifted
  refine ⟨?_, schedule, ?_, image⟩
  · exact (agrees.trans (Value.agreesOff_of_unversioned_eq same).symm).mono (by simp)
  · rw [← suspend]
    exact Value.at?_congr_of_ne same (by decide) _

/-- An object that held another report and has its content has the report that
was aimed at and is as it was everywhere else. -/
theorem reported_of_met (fits : plan.Fits start) {object made : Value}
    (found : start.find? plan.cluster.ref = some object)
    (differs : (reportIn object).same (plan.report start) = false)
    (same : made.unversioned = (ownerFrom (plan.report start) object).unversioned) :
    Value.AgreesOff [statusPlace, Value.versionPlace] object made ∧
      made.at? statusPlace = some (plan.report start) := by
  obtain ⟨version, marked⟩ := fits.sound.marked_of_found found
  have written :=
    @withStatus_ownerFrom object (plan.report start) (fits.owner object found) marked.isObject
  rw [differs, if_neg Bool.false_ne_true] at written
  obtain ⟨agrees, held⟩ := withStatus_eq_ok written
  constructor
  · exact (agrees.trans (Value.agreesOff_of_unversioned_eq same).symm).mono (by simp)
  · rw [← held]
    exact Value.at?_congr_of_ne same (by decide) _

theorem built (fits : plan.Fits start) (progress : (plan.aim start).Progress start after)
    (met : ∀ ref, (plan.aim start).Met ref after) (refs : plan.refs = plan.cluster.ownedRefs) :
    Built plan.cluster plan.jobs plan.once start after where
  onceKept := by
    intro entry member old found
    rw [← found]
    refine progress.find?_of_met ?_
    rw [Aim.Met, plan.final_once start member, found, Option.getD_some]
  onceMade := by
    intro entry member missing
    have final := plan.final_once start member
    rw [missing, Option.getD_none] at final
    exact exists_of_met final (met entry.1)
  jobMade := by
    intro job member missing
    have final := plan.final_job start member
    rw [jobFrom, missing] at final
    exact exists_of_met final (met _)
  jobKept := by
    intro job member live found settled
    rw [← found]
    refine progress.find?_of_met ?_
    by_contra lacking
    obtain ⟨managed, drifted⟩ := drifted_of_not_met member found lacking
    rcases settled with unmanaged | undrifted
    · rw [managed] at unmanaged
      cases unmanaged
    · rw [drifted] at undrifted
      cases undrifted
  jobCorrected := by
    intro job member live found managed
    obtain ⟨made, foundMade, same⟩ := exists_of_met (plan.final_job start member) (met _)
    exact ⟨made, foundMade, corrected_of_met fits member found managed same⟩
  ownerAbsent := by
    intro missing
    have final := plan.final_owner start
    rw [missing, Option.map_none] at final
    have isMet := met plan.cluster.ref
    rwa [Aim.Met, final, Option.map_none, Option.map_eq_none_iff] at isMet
  ownerKept := by
    intro object found agrees
    rw [reportIn_eq fits fun job _ => met _] at agrees
    rw [← found]
    refine progress.find?_of_met ?_
    simp only [Aim.Met, plan.final_owner, found, Option.map_some, ownerFrom, agrees, if_true]
  ownerMade := by
    intro object found differs
    rw [reportIn_eq fits fun job _ => met _] at differs ⊢
    have final := plan.final_owner start
    rw [found, Option.map_some] at final
    obtain ⟨made, foundMade, same⟩ := exists_of_met final (met plan.cluster.ref)
    exact ⟨made, foundMade, reported_of_met fits found differs same⟩
  elsewhere := by
    intro ref notOwner stranger
    refine progress.find?_of_met ?_
    rw [← refs] at stranger
    rw [Aim.Met, plan.final_elsewhere start notOwner stranger]

theorem not_met_of_absent (plan : Plan) {ref : Ref} (owned : ref ∈ plan.refs)
    (missing : start.find? ref = none) : ¬ (plan.aim start).Met ref start := by
  have hasFinal : ∃ final, (plan.aim start).final ref = some final := by
    rcases List.mem_append.mp owned with isOnce | isJob
    · obtain ⟨entry, member, rfl⟩ := List.mem_map.mp isOnce
      exact ⟨_, plan.final_once start member⟩
    · obtain ⟨job, member, rfl⟩ := List.mem_map.mp isJob
      exact ⟨_, plan.final_job start member⟩
  obtain ⟨final, isFinal⟩ := hasFinal
  rw [Aim.Met, missing, isFinal]
  simp

theorem not_met_job_iff (fits : plan.Fits start) {job : Job} (member : job ∈ plan.jobs) {live : Value}
    (found : start.find? (plan.cluster.jobRef job.name) = some live) :
    ¬ (plan.aim start).Met (plan.cluster.jobRef job.name) start ↔
      plan.cluster.isManaged = true ∧ (driftOf live job).isChange = true := by
  constructor
  · exact drifted_of_not_met member found
  · rintro ⟨managed, drifted⟩ met
    have settled := ((plan.forJob fits member).of_met met found).2 managed
    rw [settled] at drifted
    cases drifted

theorem not_met_owner_iff (fits : plan.Fits start) :
    ¬ (plan.aim start).Met plan.cluster.ref start ↔
      ∃ object, start.find? plan.cluster.ref = some object ∧
        (reportIn object).same (plan.report start) = false := by
  have final := plan.final_owner start
  cases found : start.find? plan.cluster.ref with
  | none =>
      rw [found, Option.map_none] at final
      simp [Aim.Met, found, final]
  | some object =>
      rw [found, Option.map_some] at final
      constructor
      · intro lacking
        refine ⟨object, rfl, Bool.eq_false_iff.mpr fun agrees => lacking ?_⟩
        rw [Aim.Met, found, final, ownerFrom, if_pos agrees]
      · rintro ⟨other, same, differs⟩ met
        obtain rfl := Option.some.inj same
        have agrees := ((plan.forOwner fits).of_met (same_statusOf _) met found).2
        rw [differs] at agrees
        cases agrees

/-- If everything that lacked its content was written and nothing else, what is
reported is what had to be done. -/
theorem outcome_eq (fits : plan.Fits start) (refs : plan.refs = plan.cluster.ownedRefs)
    {history : List Served}
    (written : ∀ ref, wrote ref history = true ↔ ¬ (plan.aim start).Met ref start)
    (report : plan.cluster.reportIn plan.jobs after = plan.report start) :
    plan.outcome start history = builtOutcome plan.cluster plan.jobs start after := by
  have created : (plan.refs.filter fun ref => (start.find? ref).isNone && wrote ref history) =
      plan.cluster.ownedRefs.filter fun ref => (start.find? ref).isNone := by
    rw [← refs]
    apply List.filter_congr
    intro ref owned
    cases missing : start.find? ref with
    | none =>
        rw [(written ref).mpr (plan.not_met_of_absent owned missing)]
        rfl
    | some old => rfl
  have patched : (plan.jobs.filter fun job =>
        (start.find? (plan.cluster.jobRef job.name)).isSome &&
          wrote (plan.cluster.jobRef job.name) history) =
      plan.jobs.filter fun job =>
        plan.cluster.isManaged && (plan.cluster.driftIn start job).isChange := by
    apply List.filter_congr
    intro job member
    cases found : start.find? (plan.cluster.jobRef job.name) with
    | none => simp [Cluster.driftIn, found, Drift.isChange]
    | some live =>
        rw [Bool.eq_iff_iff, Option.isSome_some, Bool.true_and, written,
          not_met_job_iff fits member found, Cluster.driftIn, found, Bool.and_eq_true]
  have status : wrote plan.cluster.ref history = (start.find? plan.cluster.ref).any fun object =>
      !(reportIn object).same (plan.cluster.reportIn plan.jobs after) := by
    rw [Bool.eq_iff_iff, written, not_met_owner_iff fits, report, Option.any_eq_true]
    simp
  rw [outcome, builtOutcome, created, patched, status]

/-- What carries out a plan alone writes just what lacks its content. -/
theorem run_alone {program : Program Outcome} {world : World} (calm : world.Calm)
    (fits : plan.Fits world.store)
    (ensured : Program.Ensures ((plan.aim world.store).around True) (plan.aim world.store).Serves
      program (plan.Carried world.store) world.store) :
    (plan.aim world.store).Holds (program.run world).2.store ∧
      (∀ ref, (plan.aim world.store).Reached ref (program.run world).2.store) ∧
        (∀ ref, wrote ref (program.history world) = true ↔
          ¬ (plan.aim world.store).Met ref world.store) ∧
            (program.run world).1 = .ok (plan.outcome world.store (program.history world)) := by
  have ready : (plan.aim world.store).Holds world.store := ⟨fits.sound, .refl _ _⟩
  obtain ⟨calls, holds, reached, reports⟩ :=
    Program.run_of_ensures ((plan.aim world.store).covers_of_calm calm) ready ensured
  have lacked : ∀ ref, wrote ref (program.history world) = true →
      ¬ (plan.aim world.store).Met ref world.store := by
    intro ref writes
    refine Aim.lacked_of_wrote (fun served member => ?_) (of_decide_eq_true writes)
    exact ⟨(calls served member).1, (calls served member).2.2⟩
  refine ⟨holds, reached, fun ref => ⟨lacked ref, fun lacking => ?_⟩, reports lacked⟩
  -- What lacked its content has it in the end, and nobody else was there to write it.
  have counted := (Aim.writesOf_chained (Program.chained_history program calm)
    (fun served member => (calls served member).2.2) ref).2
  rcases counted with ⟨-, unchanged⟩ | ⟨once, -, -⟩
  · exact absurd ((Aim.met_congr unchanged).mp (reached ref lacking)) lacking
  · rw [wrote, once]
    rfl

end Plan

/-- When nobody else comes to the store, a pass over an enabled cluster returns.
It makes every resource as desired and leaves all else alone, and it reports
what had to be done. -/
theorem reconcile_undisturbed {cluster : Cluster} {settings : Settings} {files : Fields}
    {credentials : List (String × ByteArray)} {world : World} {schedule image : String}
    (budget : Budget) (enabled : cluster.curation.mode = .enabled)
    (stranger : cluster.ref.kind ∉ Cluster.ownedKinds)
    (usual : settings.defaultSchedule = .text schedule) (given : settings.image = .text image)
    (reachable : world.store.Reachable) (shaped : cluster.ShapedIn world.store)
    (calm : world.Calm) :
    let run := (reconcile cluster settings ⟨.given files, .given credentials⟩ budget).run world
    ∃ jobs, cluster.jobs settings = .ok jobs ∧
      run.1 = .ok (builtOutcome cluster jobs world.store run.2.store) ∧
      Built cluster jobs (cluster.onceEntries files credentials) world.store run.2.store := by
  intro run
  obtain ⟨jobs, made⟩ := cluster.exists_jobs usual given
  have names := Cluster.jobNames_of_jobs made
  have sound := reachable.sound
  let plan := cluster.plan files credentials jobs names stranger
  have fits : plan.Fits world.store := Cluster.plan_fits sound shaped
  have refs : plan.refs = plan.cluster.ownedRefs := Cluster.refs_eq_ownedRefs names
  have ensured : Program.Ensures ((plan.aim world.store).around True) (plan.aim world.store).Serves
      (reconcile cluster settings ⟨.given files, .given credentials⟩ budget)
      (plan.Carried world.store) world.store :=
    Cluster.ensures_reconcile (.inl trivial) enabled made fits
  obtain ⟨holds, reached, written, outcome⟩ := Plan.run_alone calm fits ensured
  have met : ∀ ref, (plan.aim world.store).Met ref run.2.store := fun ref => holds.met (reached ref)
  have report : plan.cluster.reportIn plan.jobs run.2.store = plan.report world.store :=
    Plan.reportIn_eq fits fun job _ => met (plan.cluster.jobRef job.name)
  have told := Plan.outcome_eq fits refs written report
  exact ⟨jobs, made, outcome.trans (congrArg Except.ok told),
    Plan.built fits holds.progress met refs⟩

/-- A managed cluster with one job. -/
def plainCluster : Cluster where
  name := "instance"
  space := "logging"
  uid := ""
  apiVersion := Cluster.defaultApiVersion
  kind := Cluster.defaultKind
  management := .managed
  topology := .combined
  curation := { type := some Curation.curatorType }

/-- Its job as it was with another schedule and another image. -/
def staleJob : Job :=
  plainCluster.jobWith {} "0 0 * * *" "curator:old" ⟨"primary", "curator", "elasticsearch"⟩

def plainOwner : Value :=
  .object
    [("kind", "ClusterLogging"),
      ("metadata", .object [("namespace", "logging"), ("name", "instance")])]

def staleStore : Store :=
  ((({} : Store).serve (plainCluster.jobRef "curator") (.create (staleJob.manifest plainCluster))).2.serve
    plainCluster.ref (.create plainOwner)).2

theorem reachable_staleStore : staleStore.Reachable :=
  .served (.served .empty _ _ (by rfl)) _ _ (by rfl)

theorem shaped_staleStore : plainCluster.ShapedIn staleStore where
  jobs := by
    intro name member live found
    have only : name = "curator" := List.mem_singleton.mp member
    have stored : (staleStore.find? (plainCluster.jobRef "curator")).map Value.unversioned =
        some (staleJob.manifest plainCluster).unversioned := by decide +kernel
    rw [only] at found
    rw [found, Option.map_some, Option.some.injEq] at stored
    exact (shaped_manifest plainCluster staleJob).congr stored
  owner := by
    intro object found
    have stored : (staleStore.find? plainCluster.ref).map Value.unversioned =
        some plainOwner.unversioned := by decide +kernel
    rw [found, Option.map_some, Option.some.injEq] at stored
    have shaped : OwnerShaped plainOwner := ⟨.inl rfl, .inl rfl⟩
    exact shaped.congr stored

/-- With a single try, the resources that are absent are created, the job is
corrected and the report is written. -/
theorem stale_reconcile_undisturbed :
    let run := (reconcile plainCluster {} ⟨.given [], .given []⟩ ({ steps := 1 } : Backoff)).run
      { store := staleStore }
    run.1.toOption = some
        { mode := .enabled
          created := ["ServiceAccount/curator", "ConfigMap/curator", "Secret/curator"]
          patched := [("curator", ["image", "schedule"])]
          statusWritten := true } ∧
      ∃ jobs, plainCluster.jobs {} = .ok jobs ∧
        run.1 = .ok (builtOutcome plainCluster jobs staleStore run.2.store) ∧
        Built plainCluster jobs (plainCluster.onceEntries [] []) staleStore run.2.store := by
  refine ⟨by decide +kernel, ?_⟩
  exact reconcile_undisturbed _ rfl (by decide) rfl rfl reachable_staleStore shaped_staleStore
    ⟨rfl, fun _ => rfl⟩

end CuratorKeeper
