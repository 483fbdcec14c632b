import CuratorKeeper.Proofs.Pass.JobSettling
import CuratorKeeper.Proofs.Pass.Status

/-!
# How a report reaches an aim

Once all jobs have their content, everyone who reports on them reports the
same.  So the object of a cluster is written at most once, by the first who
finds another report in it.
-/

namespace CuratorKeeper
namespace Aim

open Program

variable {aim : Aim} {calm : Prop} {ref : Ref} {store : Store} {cluster : Cluster} {job : Job}

def content (aim : Aim) (ref : Ref) : Value := (aim.final ref).getD .null

def reportsOn (aim : Aim) (cluster : Cluster) (jobs : List Job) : List JobReport :=
  jobs.map fun job => reportOn job.name (aim.content (cluster.jobRef job.name))

theorem ensures_reportJob (forJob : aim.ForJob cluster job)
    (reached : aim.Reached (cluster.jobRef job.name) store) :
    Ensures (aim.around calm) aim.Serves (reportJob (cluster.jobRef job.name) job.name)
      (fun result history _ => WroteNothing history ∧
        result = .ok (some (reportOn job.name (aim.content (cluster.jobRef job.name))))) store := by
  obtain ⟨made, final, -⟩ := forJob.final
  rw [reportJob, bind_eq, ensures_bind, ensures_catchStore]
  apply (ensures_get (cluster.plain_jobRef job.name)).mono
  intro result history after reading
  obtain ⟨nothing, holds, turned, outcome⟩ := reading
  have met := holds.met (reached.progress turned.progress)
  rcases outcome with ⟨live, found, rfl⟩ | ⟨missing, -⟩
  · have shaped : JobShaped live := (forJob.of_met met found).1
    have same : live.unversioned = made.unversioned := by
      simpa [Met, found, final] using met
    have report : reportOn job.name live =
        reportOn job.name (aim.content (cluster.jobRef job.name)) := by
      rw [content, final, Option.getD_some, JobShaped.reportOn_congr same]
    simp only [caughtStore, shaped.reportOf_eq, liftM_fault, Program.ofExcept, bind_eq, done_bind,
      pure_eq, ensures_done, List.append_nil]
    exact ⟨nothing, by rw [report]⟩
  · simp [Met, missing, final] at met

theorem ensures_reportJobs (jobs : List Job) (forJobs : ∀ job ∈ jobs, aim.ForJob cluster job)
    (reached : ∀ job ∈ jobs, aim.Reached (cluster.jobRef job.name) store) :
    Ensures (aim.around calm) aim.Serves (reportJobs cluster.space (jobs.map Job.name))
      (fun result history _ => WroteNothing history ∧
        result = .ok (aim.reportsOn cluster jobs)) store := by
  induction jobs generalizing store with
  | nil => exact ⟨.nil, rfl⟩
  | cons job rest ih =>
      rw [List.map_cons, reportJobs, bind_eq, ensures_bind]
      have first : Ensures (aim.around calm) aim.Serves
          (reportJob (cluster.jobRef job.name) job.name) _ store :=
        ensures_reportJob (forJobs job List.mem_cons_self) (reached job List.mem_cons_self)
      apply (ensures_progress first).mono
      intro result early middle reported
      obtain ⟨⟨nothingFirst, rfl⟩, progress, -⟩ := reported
      simp only [bind_eq]
      rw [ensures_bind]
      have others := ih (fun other member => forJobs other (List.mem_cons_of_mem _ member))
        fun other member => (reached other (List.mem_cons_of_mem _ member)).progress progress
      apply others.mono
      intro result late after further
      obtain ⟨nothingRest, rfl⟩ := further
      simp only [pure_eq, ensures_done, List.append_nil]
      exact ⟨nothingFirst.append nothingRest, rfl⟩

/-- What an aim holds for an object that holds a report: if it is there and
holds another one, it is given the derived one. -/
structure ForOwner (aim : Aim) (owner : Ref) (derived : Value) : Prop where
  plain : owner.Plain
  absent : aim.start.find? owner = none → aim.final owner = none
  present : ∀ object, aim.start.find? owner = some object → OwnerShaped object ∧
    ∃ made, aim.final owner = some made ∧
      if (reportIn object).same derived = true then made = object
      else withStatus object derived = .ok made

namespace ForOwner

variable {owner : Ref} {derived object : Value}

theorem final (forOwner : aim.ForOwner owner derived) (itself : derived.same derived = true)
    {made : Value} (final : aim.final owner = some made) :
    OwnerShaped made ∧ (reportIn made).same derived = true := by
  cases found : aim.start.find? owner with
  | none =>
      rw [forOwner.absent found] at final
      cases final
  | some object =>
      obtain ⟨shaped, other, isFinal, makes⟩ := forOwner.present object found
      rw [isFinal, Option.some.injEq] at final
      subst final
      split at makes
      next agrees =>
        subst makes
        exact ⟨shaped, agrees⟩
      next => exact ⟨shaped_withStatus makes, by rw [reportIn_withStatus makes, itself]⟩

theorem of_met (forOwner : aim.ForOwner owner derived) (itself : derived.same derived = true)
    (met : aim.Met owner store) (found : store.find? owner = some object) :
    OwnerShaped object ∧ (reportIn object).same derived = true := by
  rw [Met, found, Option.map_some, eq_comm, Option.map_eq_some_iff] at met
  obtain ⟨made, isFinal, same⟩ := met
  obtain ⟨shaped, agrees⟩ := forOwner.final itself isFinal
  exact ⟨shaped.congr same.symm, by rwa [reportIn_congr same.symm]⟩

theorem of_not_met (forOwner : aim.ForOwner owner derived) (holds : aim.Holds store)
    (lacking : ¬ aim.Met owner store) (found : store.find? owner = some object) :
    aim.start.find? owner = some object ∧ OwnerShaped object ∧
      (reportIn object).same derived = false ∧
        ∃ updated, withStatus object derived = .ok updated ∧ aim.final owner = some updated := by
  have started := (holds.progress.find?_of_not_met lacking).symm.trans found
  obtain ⟨shaped, made, final, makes⟩ := forOwner.present object started
  split at makes
  next =>
    subst makes
    refine absurd ?_ lacking
    rw [Met, found, final]
  next differs => exact ⟨started, shaped, Bool.eq_false_iff.mpr differs, made, makes, final⟩

theorem of_absent (forOwner : aim.ForOwner owner derived) (holds : aim.Holds store)
    (missing : store.find? owner = none) :
    aim.Met owner store ∧ aim.start.find? owner = none := by
  have met : aim.Met owner store := by
    by_contra lacking
    have started := (holds.progress.find?_of_not_met lacking).symm.trans missing
    apply lacking
    rw [Met, missing, forOwner.absent started]
  refine ⟨met, ?_⟩
  cases found : aim.start.find? owner with
  | none => rfl
  | some object =>
      obtain ⟨-, made, final, -⟩ := forOwner.present object found
      simp [Met, missing, final] at met

end ForOwner

section Owner

variable {owner : Ref} {derived : Value}

theorem ensures_writeStatus {object updated : Value} (plain : owner.Plain)
    (holds : aim.Holds store) (found : store.find? owner = some object)
    (lacking : ¬ aim.Met owner store) (written : withStatus object derived = .ok updated)
    (final : aim.final owner = some updated) :
    Ensures (aim.around calm) aim.Serves (writeStatus object derived)
      (fun result history after => WroteOnly [owner] history ∧ aim.Met owner after ∧
        (result = .ok true ∧ wrote owner history = true ∨
          ¬ calm ∧ wrote owner history = false ∧
            ∃ fault, result = .error (.store fault) ∧ fault.refusal = .conflict)) store := by
  have sameMetadata : updated.part? "metadata" = object.part? "metadata" :=
    part?_withStatus_of_ne written (by decide)
  have known := ref_of_withStatus written (holds.sound.ref_of_found plain found)
  obtain ⟨makes, takes⟩ := updated_withStatus written
  have updates : Ensures (aim.around calm) aim.Serves (ask (.update updated (some "status"))) _
      store :=
    ensures_update plain holds found lacking known sameMetadata takes makes known
      (by rw [final, Option.map_some])
  simp only [writeStatus, written, bind_eq, liftM_mismatch, Except.mapError, Program.ofExcept,
    done_bind]
  rw [ensures_bind]
  apply updates.mono
  intro result history after updated
  obtain ⟨only, met, ⟨⟨value, rfl⟩, writes⟩ | ⟨stirred, ⟨fault, rfl, stale⟩, spared⟩⟩ := updated
  · simpa [writes] using ⟨only, met⟩
  · exact ⟨only, met, .inr ⟨stirred, spared, fault, rfl, stale⟩⟩

theorem ensures_syncOnce (forOwner : aim.ForOwner owner derived)
    (itself : derived.same derived = true) (noticePending : Bool) :
    Ensures (aim.around calm) aim.Serves (syncOnce cluster owner derived noticePending)
      (aim.Tried calm owner id store) store := by
  rw [syncOnce, ensures_ofProgram, bind_eq, ensures_bind, ensures_catchStore]
  apply (ensures_get forOwner.plain).mono
  intro result early middle reading
  obtain ⟨nothing, holds, turned, ⟨object, found, rfl⟩ | ⟨missing, fault, rfl, isMissing⟩⟩ := reading
  · have isObject : ∃ fields, object = .object fields := by
      obtain ⟨version, marked⟩ := holds.sound.marked_of_found found
      exact marked.isObject
    have unwritten : wrote owner early = false := nothing.not_wrote owner
    by_cases met : aim.Met owner middle
    · obtain ⟨shaped, agrees⟩ := forOwner.of_met itself met found
      simp only [caughtStore, shaped.storedStatus_eq isObject, bind_eq, liftM_mismatch,
        Except.mapError, Program.ofExcept, done_bind, agrees, if_true, pure_eq, ensures_done,
        List.append_nil]
      exact ⟨nothing.only _, met, .inl ⟨by rw [unwritten]; rfl, by simp [unwritten]⟩⟩
    · obtain ⟨started, shaped, differs, updated, written, final⟩ :=
        forOwner.of_not_met holds met found
      have lacking : ¬ aim.Met owner store := fun early => met (turned.progress.met early)
      have append : ∀ late, wrote owner (early ++ late) = wrote owner late :=
        nothing.wrote_append owner
      have writing : ∀ pending, Ensures (aim.around calm) aim.Serves
          (Attempt.ofProgram false (Attempt.settled <$> writeStatus object derived))
          (fun result late => tried pending (aim.Tried calm owner id store) result (early ++ late))
          middle := by
        intro pending
        rw [ensures_ofProgram, ensures_map]
        apply (ensures_writeStatus forOwner.plain holds found met written final).mono
        intro result late after ended
        obtain ⟨only, metAfter, ⟨rfl, writes⟩ | ⟨stirred, spares, fault, rfl, stale⟩⟩ := ended
        · refine ⟨(nothing.only _).append only, metAfter, .inl ⟨?_, fun _ => by simp [started]⟩⟩
          rw [append, writes]
          rfl
        · simp only [Except.map, tried, stale, if_true]
          refine ⟨(nothing.only _).append only, metAfter, .inr ⟨stirred, lacking, ?_, fault, false, rfl⟩⟩
          exact writesOf_of_not_wrote (by rw [append, spares])
      simp only [caughtStore, shaped.storedStatus_eq isObject, bind_eq, liftM_mismatch,
        Except.mapError, Program.ofExcept, done_bind, differs, Bool.false_eq_true, if_false]
      cases noticePending with
      | false => exact writing false
      | true => exact writing true
  · obtain ⟨met, absent⟩ := forOwner.of_absent holds missing
    have unwritten : wrote owner early = false := nothing.not_wrote owner
    simp only [caughtStore, isMissing, if_true, pure_eq, ensures_done, List.append_nil]
    exact ⟨nothing.only _, met, .inl ⟨by rw [unwritten]; rfl, by simp [unwritten]⟩⟩

/-- The report on jobs that have their content is brought to the object of
their cluster. -/
theorem ensures_syncStatus {budget : Budget} (enough : Enough calm budget) {jobs : List Job}
    (names : jobs.map Job.name = cluster.jobNames) (forJobs : ∀ job ∈ jobs, aim.ForJob cluster job)
    (forOwner : aim.ForOwner owner (statusOf (aim.reportsOn cluster jobs)))
    (reached : ∀ job ∈ jobs, aim.Reached (cluster.jobRef job.name) store)
    (progress : aim.Progress aim.start store) :
    Ensures (aim.around calm) aim.Serves (syncStatus cluster owner budget)
      (fun result history after => WroteOnly [owner] history ∧ aim.Met owner after ∧
        result = .ok (wrote owner history)) store := by
  rw [syncStatus, bind_eq, ensures_bind, reports, ← names]
  have reporting : Ensures (aim.around calm) aim.Serves
      (reportJobs cluster.space (jobs.map Job.name)) _ store :=
    ensures_reportJobs jobs forJobs reached
  apply (ensures_progress reporting).mono
  intro result early middle reported
  obtain ⟨⟨nothing, rfl⟩, further, -⟩ := reported
  have ready : aim.start.find? owner = none → aim.Met owner middle := by
    intro missing
    apply (progress.trans further).met
    rw [Met, missing, forOwner.absent missing]
  simp only [bind_eq]
  rw [ensures_bind, ensures_catchStore]
  have trying : ∀ pending store, (aim.start.find? owner = none → aim.Met owner store) →
      Ensures (aim.around calm) aim.Serves
        (syncOnce cluster owner (statusOf (aim.reportsOn cluster jobs)) pending)
        (aim.Tried calm owner id store) store :=
    fun pending _ _ => ensures_syncOnce forOwner (same_statusOf _) pending
  apply (ensures_retry enough trying true ready).mono
  intro result late after settled
  obtain ⟨only, met, rfl, -⟩ := settled
  have append : wrote owner (early ++ late) = wrote owner late := nothing.wrote_append owner late
  simp only [caughtStore, pure_eq, ensures_done, List.append_nil, id_eq]
  exact ⟨(nothing.only _).append only, met, by rw [append]⟩

end Owner

end Aim
end CuratorKeeper
