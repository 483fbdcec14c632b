import CuratorKeeper.Proofs.Job.Shape
import CuratorKeeper.Proofs.Pass.Correction
import CuratorKeeper.Proofs.Pass.Settling

/-!
# How jobs reach an aim

A job is created if it is absent and, in a managed cluster, corrected if it has
drifted.  Whoever finds it corrected already has nothing left to do, so that
what is told of a job is told by whether it was written.
-/

namespace CuratorKeeper
namespace Aim

open Program

variable {aim : Aim} {calm : Prop} {ref : Ref} {store after : Store}

/-- What an aim holds for a job of a cluster: if absent it is created, and if it
drifted in a managed cluster it is corrected. -/
structure ForJob (aim : Aim) (cluster : Cluster) (job : Job) : Prop where
  absent : aim.start.find? (cluster.jobRef job.name) = none →
    aim.final (cluster.jobRef job.name) = some (job.manifest cluster)
  present : ∀ live, aim.start.find? (cluster.jobRef job.name) = some live → JobShaped live ∧
    ∃ made, aim.final (cluster.jobRef job.name) = some made ∧ cluster.Makes job live made

/-- The drift that is reported of a job when it was written or not. -/
def told (aim : Aim) (cluster : Cluster) (job : Job) (written : Bool) : Drift :=
  match aim.start.find? (cluster.jobRef job.name) with
  | some live => if written then driftOf live job else {}
  | none => {}

@[simp]
theorem told_false (aim : Aim) (cluster : Cluster) (job : Job) : aim.told cluster job false = {} := by
  unfold told
  cases aim.start.find? (cluster.jobRef job.name) <;> rfl

theorem told_true {cluster : Cluster} {job : Job} {live : Value}
    (found : aim.start.find? (cluster.jobRef job.name) = some live) :
    aim.told cluster job true = driftOf live job := by
  rw [told, found]
  rfl

theorem told_of_absent {cluster : Cluster} {job : Job} (written : Bool)
    (missing : aim.start.find? (cluster.jobRef job.name) = none) :
    aim.told cluster job written = {} := by
  rw [told, missing]

namespace ForJob

variable {cluster : Cluster} {job : Job} {live : Value}

theorem awaits (forJob : aim.ForJob cluster job) :
    aim.Awaits (cluster.jobRef job.name) (job.manifest cluster) where
  plain := cluster.plain_jobRef job.name
  known := cluster.ref_manifest job
  absent := forJob.absent
  present := by
    intro none
    cases found : aim.start.find? (cluster.jobRef job.name) with
    | none =>
        rw [forJob.absent found] at none
        cases none
    | some live =>
        obtain ⟨-, made, final, -⟩ := forJob.present live found
        rw [final] at none
        cases none

theorem final (forJob : aim.ForJob cluster job) :
    ∃ made, aim.final (cluster.jobRef job.name) = some made ∧ JobShaped made ∧
      (cluster.isManaged = true → driftOf made job = {}) := by
  cases found : aim.start.find? (cluster.jobRef job.name) with
  | none =>
      exact ⟨_, forJob.absent found, shaped_manifest cluster job,
        fun _ => driftOf_manifest cluster job⟩
  | some live =>
      obtain ⟨shaped, made, final, makes⟩ := forJob.present live found
      refine ⟨made, final, ?_⟩
      unfold Cluster.Makes at makes
      split at makes
      next =>
        refine ⟨shaped.apply makes fun value told => ?_, fun _ => driftOf_apply makes⟩
        simp only [driftOf, Option.ite_none_left_eq_some, Option.some.injEq] at told
        exact ⟨job.schedule, told.2.symm⟩
      next unchanged =>
        subst makes
        refine ⟨shaped, fun managed => ?_⟩
        exact Drift.eq_of_isChange_false (by simpa [managed] using unchanged)

theorem absent_of_unmanaged (forJob : aim.ForJob cluster job) (unmanaged : cluster.isManaged = false)
    (lacking : ¬ aim.Met (cluster.jobRef job.name) aim.start) :
    aim.start.find? (cluster.jobRef job.name) = none := by
  cases found : aim.start.find? (cluster.jobRef job.name) with
  | none => rfl
  | some live =>
      obtain ⟨-, made, final, makes⟩ := forJob.present live found
      simp only [Cluster.Makes, unmanaged, Bool.false_eq_true, false_and, if_false] at makes
      refine absurd ?_ lacking
      rw [Met, found, final, makes]

theorem of_met (forJob : aim.ForJob cluster job)
    (met : aim.Met (cluster.jobRef job.name) store)
    (found : store.find? (cluster.jobRef job.name) = some live) :
    JobShaped live ∧ (cluster.isManaged = true → driftOf live job = {}) := by
  obtain ⟨made, final, shaped, settled⟩ := forJob.final
  have same : live.unversioned = made.unversioned := by
    simpa [Met, found, final] using met
  exact ⟨shaped.congr same, fun managed => (JobShaped.driftOf_congr same job).trans (settled managed)⟩

theorem of_not_met (forJob : aim.ForJob cluster job) (holds : aim.Holds store)
    (lacking : ¬ aim.Met (cluster.jobRef job.name) store)
    (found : store.find? (cluster.jobRef job.name) = some live) :
    aim.start.find? (cluster.jobRef job.name) = some live ∧ JobShaped live ∧
      (driftOf live job).isChange = true ∧ ∃ patched, (driftOf live job).apply live = .ok patched ∧
        aim.final (cluster.jobRef job.name) = some patched := by
  have started := (holds.progress.find?_of_not_met lacking).symm.trans found
  obtain ⟨shaped, made, final, makes⟩ := forJob.present live started
  unfold Cluster.Makes at makes
  split at makes
  next drifted => exact ⟨started, shaped, drifted.2, made, makes, final⟩
  next =>
    subst makes
    refine absurd ?_ lacking
    rw [Met, found, final]

end ForJob

section Jobs

variable {cluster : Cluster} {job : Job}

theorem ensures_submitUpdate {live patched : Value} {drift : Drift} (plain : ref.Plain)
    (holds : aim.Holds store) (found : store.find? ref = some live)
    (lacking : ¬ aim.Met ref store) (applied : drift.apply live = .ok patched)
    (final : aim.final ref = some patched) :
    Ensures (aim.around calm) aim.Serves (submitUpdate ref patched) (fun result history after =>
      WroteOnly [ref] history ∧ aim.Met ref after ∧
        (result = .ok () ∧ wrote ref history = true ∨
          ¬ calm ∧ wrote ref history = false ∧
            ∃ fault, result = .error (.store fault) ∧ fault.refusal = .conflict)) store := by
  have sameMetadata : patched.part? "metadata" = live.part? "metadata" :=
    Drift.part?_apply_of_ne applied (by decide)
  have known := Drift.ref_of_apply applied (holds.sound.ref_of_found plain found)
  have updates : Ensures (aim.around calm) aim.Serves (ask (.update patched none)) _ store :=
    ensures_update plain holds found lacking known sameMetadata (fun _ => ⟨patched, rfl⟩) rfl known
      (by rw [final, Option.map_some])
  rw [submitUpdate, bind_eq, ensures_bind, ensures_catchStore]
  apply updates.mono
  intro result history after updated
  obtain ⟨only, met, ⟨⟨value, rfl⟩, writes⟩ | ⟨stirred, ⟨fault, rfl, stale⟩, spared⟩⟩ := updated
  · simpa [caughtStore, writes] using ⟨only, met⟩
  · simpa [caughtStore, stale, spared] using ⟨only, met, stirred⟩

/-- A job that was there is read and, if it lacks its content, corrected. -/
theorem ensures_correctDrift (forJob : aim.ForJob cluster job)
    (managed : cluster.isManaged = true)
    (ready : aim.start.find? (cluster.jobRef job.name) = none →
      aim.Met (cluster.jobRef job.name) store) :
    Ensures (aim.around calm) aim.Serves (correctDrift (job.manifest cluster))
      (fun result history after =>
        WroteOnly [cluster.jobRef job.name] history ∧ aim.Met (cluster.jobRef job.name) after ∧
          (result = .ok (aim.told cluster job (wrote (cluster.jobRef job.name) history)) ∧
              (wrote (cluster.jobRef job.name) history = true →
                aim.start.find? (cluster.jobRef job.name) ≠ none) ∨
            ¬ calm ∧ ¬ aim.Met (cluster.jobRef job.name) store ∧
              writesOf (cluster.jobRef job.name) history = 0 ∧
              ∃ fault, result = .error (.store fault) ∧ fault.refusal = .conflict)) store := by
  have plain := cluster.plain_jobRef job.name
  simp only [correctDrift, Cluster.ref_manifest, bind_eq, liftM_mismatch, Except.mapError,
    Program.ofExcept, done_bind]
  rw [ensures_bind, ensures_catchStore]
  apply (ensures_get plain).mono
  intro result early middle reading
  obtain ⟨nothing, holds, turned, ⟨live, found, rfl⟩ | ⟨missing, fault, rfl, isMissing⟩⟩ := reading
  · have named : live.itemAt ["metadata", "name"] = .ok (cluster.jobRef job.name).name :=
      Ref.itemAt_name (holds.sound.ref_of_found plain found)
    have unwritten : wrote (cluster.jobRef job.name) early = false := nothing.not_wrote _
    simp only [caughtStore]
    rw [ensures_bind, ensures_findDrift]
    by_cases met : aim.Met (cluster.jobRef job.name) middle
    · obtain ⟨shaped, settled⟩ := forJob.of_met met found
      rw [shaped.between_eq named, settled managed]
      refine ⟨by simpa using nothing.only _, met, .inl ?_⟩
      simp only [List.append_nil, unwritten, told_false]
      exact ⟨trivial, by simp⟩
    · obtain ⟨started, shaped, drifted, patched, applied, final⟩ :=
        forJob.of_not_met holds met found
      have lacking : ¬ aim.Met (cluster.jobRef job.name) store :=
        fun early => met (turned.progress.met early)
      have append : ∀ late, wrote (cluster.jobRef job.name) (early ++ late) =
          wrote (cluster.jobRef job.name) late :=
        nothing.wrote_append _
      rw [shaped.between_eq named]
      simp only [Except.mapError, drifted, if_true, applied, done_bind]
      rw [ensures_bind]
      apply (ensures_submitUpdate plain holds found met applied final).mono
      intro result late after submitted
      obtain ⟨only, metAfter, ⟨rfl, writes⟩ | ⟨stirred, spares, fault, rfl, stale⟩⟩ := submitted
      · simp only [pure_eq, ensures_done, List.append_nil, List.nil_append]
        refine ⟨(nothing.only _).append only, metAfter, .inl ⟨?_, fun _ => by simp [started]⟩⟩
        rw [append, writes, told_true started]
      · simp only [List.nil_append]
        refine ⟨(nothing.only _).append only, metAfter, .inr ⟨stirred, lacking, ?_, fault, rfl, stale⟩⟩
        exact writesOf_of_not_wrote (by rw [append, spares])
  · have lacking : ¬ aim.Met (cluster.jobRef job.name) middle := by
      intro met
      obtain ⟨made, final, -⟩ := forJob.final
      simp [Met, missing, final] at met
    have started := (holds.progress.find?_of_not_met lacking).symm.trans missing
    exact absurd (turned.progress.met (ready started)) lacking

theorem ensures_correctWithRetry {budget : Budget} (enough : Enough calm budget)
    (forJob : aim.ForJob cluster job) (managed : cluster.isManaged = true)
    (ready : aim.start.find? (cluster.jobRef job.name) = none →
      aim.Met (cluster.jobRef job.name) store) :
    Ensures (aim.around calm) aim.Serves (correctWithRetry (job.manifest cluster) budget)
      (aim.Settles (cluster.jobRef job.name) (aim.told cluster job)) store := by
  refine ensures_retry enough (fun _ store ready => ?_) () ready
  rw [ensures_ofProgram, ensures_map]
  apply (ensures_correctDrift forJob managed ready).mono
  intro result history after corrected
  obtain ⟨only, met, ⟨rfl, possible⟩ | ⟨stirred, lacking, none, fault, rfl, stale⟩⟩ := corrected
  · exact ⟨only, met, .inl ⟨rfl, possible⟩⟩
  · have isStale : tried () (aim.Tried calm (cluster.jobRef job.name) (aim.told cluster job) store)
        (.error (.store fault)) = aim.Tried calm (cluster.jobRef job.name) (aim.told cluster job)
          store (.ok (.stale fault ())) := if_pos stale
    rw [Except.map, isStale]
    exact ⟨only, met, .inr ⟨stirred, lacking, none, fault, (), rfl⟩⟩

def correctionOf (aim : Aim) (cluster : Cluster) (job : Job) (written : Bool) : Correction where
  drift := if cluster.isManaged then aim.told cluster job written else {}
  created := (aim.start.find? (cluster.jobRef job.name)).isNone && written

/-- A job is written by its creation or by its correction, but not by both. -/
theorem correctionOf_append {early late : List Served} (managed : cluster.isManaged = true)
    (created : wrote (cluster.jobRef job.name) early = true →
      aim.start.find? (cluster.jobRef job.name) = none)
    (corrected : wrote (cluster.jobRef job.name) late = true →
      aim.start.find? (cluster.jobRef job.name) ≠ none) :
    aim.correctionOf cluster job (wrote (cluster.jobRef job.name) (early ++ late)) =
      ⟨aim.told cluster job (wrote (cluster.jobRef job.name) late),
        wrote (cluster.jobRef job.name) early⟩ := by
  cases found : aim.start.find? (cluster.jobRef job.name) with
  | none =>
      have spared : wrote (cluster.jobRef job.name) late = false := by
        rw [Bool.eq_false_iff]
        exact fun writes => corrected writes found
      rw [wrote_append_left (writesOf_of_not_wrote spared)]
      simp [correctionOf, told_of_absent, managed, found]
  | some live =>
      have spared : wrote (cluster.jobRef job.name) early = false := by
        rw [Bool.eq_false_iff]
        intro writes
        rw [created writes] at found
        cases found
      rw [wrote_append_right (writesOf_of_not_wrote spared)]
      simp [correctionOf, managed, found, spared]

theorem ensures_reconcileJob {budget : Budget} (enough : Enough calm budget)
    (forJob : aim.ForJob cluster job) :
    Ensures (aim.around calm) aim.Serves (reconcileJob cluster (job.manifest cluster) budget)
      (fun result history after => WroteOnly [cluster.jobRef job.name] history ∧
        aim.Reached (cluster.jobRef job.name) after ∧
          result = .ok (aim.correctionOf cluster job (wrote (cluster.jobRef job.name) history)))
      store := by
  rw [reconcileJob, bind_eq, ensures_bind]
  apply (ensures_ensureCreated forJob.awaits).mono
  intro result early middle created
  obtain ⟨rfl, only, met, missing⟩ := created
  have isCreated : ((aim.start.find? (cluster.jobRef job.name)).isNone &&
      wrote (cluster.jobRef job.name) early) = wrote (cluster.jobRef job.name) early := by
    cases writes : wrote (cluster.jobRef job.name) early with
    | false => exact Bool.and_false _
    | true => simp [missing writes]
  cases managed : cluster.isManaged with
  | false =>
      simp only [Bool.not_false, if_true, pure_eq, ensures_done, List.append_nil]
      refine ⟨only, fun lacking => met (forJob.absent_of_unmanaged managed lacking), ?_⟩
      simp [correctionOf, managed, isCreated]
  | true =>
      simp only [Bool.not_true, Bool.false_eq_true, if_false, bind_eq]
      rw [ensures_bind, ensures_attempt]
      apply (ensures_correctWithRetry enough forJob managed met).mono
      intro result late after settled
      obtain ⟨onlyLate, metAfter, rfl, possible⟩ := settled
      simp only [pure_eq, ensures_done, List.append_nil]
      refine ⟨only.append onlyLate, fun _ => metAfter, ?_⟩
      rw [correctionOf_append managed missing possible]

theorem ensures_reconcileJobs {budget : Budget} (enough : Enough calm budget) (jobs : List Job)
    (distinct : (cluster.jobRefs jobs).Nodup) (forJobs : ∀ job ∈ jobs, aim.ForJob cluster job) :
    Ensures (aim.around calm) aim.Serves
      (reconcileJobs cluster budget (jobs.map fun job => (job, job.manifest cluster)))
      (fun result history after => WroteOnly (cluster.jobRefs jobs) history ∧
        (∀ job ∈ jobs, aim.Reached (cluster.jobRef job.name) after) ∧
          result = .ok (jobs.map fun job =>
            (job, aim.correctionOf cluster job (wrote (cluster.jobRef job.name) history))))
      store := by
  induction jobs generalizing store with
  | nil => exact ⟨WroteNothing.nil.only _, nofun, rfl⟩
  | cons job rest ih =>
      rw [Cluster.jobRefs_cons] at distinct ⊢
      obtain ⟨stranger, distinctRest⟩ := List.nodup_cons.mp distinct
      have others := fun store => @ih store distinctRest
        fun other member => forJobs other (List.mem_cons_of_mem _ member)
      simp only [reconcileJobs, List.map_cons, bind_eq]
      rw [ensures_bind]
      apply (ensures_reconcileJob enough (forJobs job List.mem_cons_self)).mono
      intro result early middle corrected
      obtain ⟨onlyFirst, reachedFirst, rfl⟩ := corrected
      simp only
      rw [ensures_bind]
      apply (ensures_progress (others middle)).mono
      intro result late after further
      obtain ⟨⟨onlyRest, reachedRest, rfl⟩, progress, -⟩ := further
      have isFirst : wrote (cluster.jobRef job.name) (early ++ late) =
          wrote (cluster.jobRef job.name) early := wrote_append_left (onlyRest _ stranger)
      have isRest : ∀ other ∈ rest, wrote (cluster.jobRef other.name) (early ++ late) =
          wrote (cluster.jobRef other.name) late := by
        intro other member
        refine wrote_append_right (onlyFirst _ fun same => stranger ?_)
        rw [← List.mem_singleton.mp same]
        exact Cluster.jobRef_mem_jobRefs member
      have told : (rest.map fun other =>
            (other, aim.correctionOf cluster other (wrote (cluster.jobRef other.name) late))) =
          rest.map fun other => (other, aim.correctionOf cluster other
            (wrote (cluster.jobRef other.name) (early ++ late))) :=
        List.map_congr_left fun other member => by rw [isRest other member]
      simp only [pure_eq, ensures_done, List.append_nil]
      refine ⟨?_, ?_, ?_⟩
      · have first : WroteOnly (cluster.jobRef job.name :: cluster.jobRefs rest) early :=
          onlyFirst.mono (by simp)
        exact first.append (onlyRest.mono (by simp))
      · intro other member
        rcases List.mem_cons.mp member with rfl | later
        · exact reachedFirst.progress progress
        · exact reachedRest other later
      · rw [isFirst, told]

end Jobs

end Aim
end CuratorKeeper
