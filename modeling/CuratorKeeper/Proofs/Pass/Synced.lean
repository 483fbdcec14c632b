import CuratorKeeper.Proofs.Pass.Returning

/-!
# What comes of a report that nobody disturbs

The jobs of a cluster are reported on if each of them can be.  The report comes
to the object of the cluster unless that holds the same one, or is not there, or
has no place for it; and every job reads afterwards as it did before.
-/

namespace CuratorKeeper

/-- A report can be made of each of some jobs, which are all there. -/
def Cluster.Reportable (cluster : Cluster) (jobs : List Job) (store : Store) : Prop :=
  ∀ job ∈ jobs, ∃ live report, store.find? (cluster.jobRef job.name) = some live ∧
    reportOf job.name live = .ok report

/-- What is reported of such jobs tells of each of them by its entry. -/
theorem Cluster.Reportable.statusOf_eq {cluster : Cluster} {jobs : List Job} {store : Store}
    (reportable : cluster.Reportable jobs store) :
    statusOf (jobs.map fun job =>
      reportOn job.name ((store.find? (cluster.jobRef job.name)).getD .null)) =
        cluster.reportIn jobs store := by
  rw [statusOf, List.map_map]
  refine congrArg Value.list (List.map_congr_left fun job member => ?_)
  obtain ⟨live, report, found, made⟩ := reportable job member
  rw [Function.comp_apply, found, Option.getD_some]
  exact statusEntry_reportOn made

theorem Cluster.Reportable.same_reportIn {cluster : Cluster} {jobs : List Job} {store : Store}
    (reportable : cluster.Reportable jobs store) :
    (cluster.reportIn jobs store).same (cluster.reportIn jobs store) = true := by
  rw [← reportable.statusOf_eq]
  exact same_statusOf _

theorem storedStatus_congr {object other : Value}
    (same : other.field? "status" = object.field? "status") :
    storedStatus other = storedStatus object := by
  simp only [storedStatus, Value.field, Value.fieldD_congr same]

theorem storedStatus_withStatus {object derived updated : Value}
    (written : withStatus object derived = .ok updated) : storedStatus updated = .ok derived := by
  obtain ⟨status, curation, assigned, -⟩ := withStatus_last written
  obtain ⟨fields, -, rfl⟩ := Value.assign_eq_ok.mp assigned
  rw [(shaped_withStatus written).storedStatus_eq ⟨_, rfl⟩, reportIn_withStatus written]

namespace Program

variable {cluster : Cluster} {store after : Store} {jobs : List Job} {budget : Budget}

theorem ends_reportJob {live : Value} {name : String}
    (found : store.find? (cluster.jobRef name) = some live) :
    (reportJob (cluster.jobRef name) name).Ends store fun result after =>
      result = (reportOf name live).map some ∧ after = store := by
  have about : (Request.get (cluster.jobRef name)).ref = .ok (cluster.jobRef name) := rfl
  refine ends_call about fun answer after _ served => ?_
  rw [Store.serve_get_some (cluster.plain_jobRef name) found] at served
  obtain ⟨rfl, rfl⟩ := Prod.mk.inj served
  simp only [liftM_fault, bind_eq]
  rw [ends_bind, ends_ofExcept]
  cases reportOf name live <;> exact ⟨rfl, rfl⟩

theorem ends_reportJobs {jobs : List Job}
    (present : ∀ job ∈ jobs, store.find? (cluster.jobRef job.name) ≠ none) :
    (reportJobs cluster.space (jobs.map Job.name)).Ends store fun result after => after = store ∧
      (∀ reports, result = .ok reports → cluster.Reportable jobs store) ∧
        (cluster.Reportable jobs store → result = .ok (jobs.map fun job =>
          reportOn job.name ((store.find? (cluster.jobRef job.name)).getD .null))) := by
  induction jobs with
  | nil => exact ⟨rfl, fun _ _ => nofun, fun _ => rfl⟩
  | cons job rest ih =>
      obtain ⟨live, found⟩ := Option.ne_none_iff_exists'.mp (present job List.mem_cons_self)
      rw [List.map_cons, reportJobs, bind_eq, ends_bind]
      refine Ends.mono (ends_reportJob found) fun result middle reported => ?_
      obtain ⟨rfl, rfl⟩ := reported
      cases made : reportOf job.name live with
      | error fault =>
          refine ⟨rfl, nofun, fun reportable => ?_⟩
          obtain ⟨other, report, isLive, isReport⟩ := reportable job List.mem_cons_self
          obtain rfl := Option.some.inj (found.symm.trans isLive)
          rw [made] at isReport
          cases isReport
      | ok report =>
          simp only [Except.map, bind_eq]
          rw [ends_bind]
          refine (ih fun other member => present other (List.mem_cons_of_mem _ member)).mono
            fun result after further => ?_
          obtain ⟨rfl, reads, reports⟩ := further
          have back : cluster.Reportable (job :: rest) after → cluster.Reportable rest after :=
            fun reportable other member => reportable other (List.mem_cons_of_mem _ member)
          cases result with
          | error fault =>
              refine ⟨rfl, nofun, fun reportable => ?_⟩
              cases reports (back reportable)
          | ok others =>
              refine ⟨rfl, fun _ _ other member => ?_, fun reportable => ?_⟩
              · rcases List.mem_cons.mp member with rfl | later
                · exact ⟨live, report, found, made⟩
                · exact reads others rfl other later
              · obtain rfl := Except.ok.inj (reports (back reportable))
                rw [List.map_cons, found, Option.getD_some, ← reportOf_eq_ok made]
                rfl

/-- How the report comes to the object of a cluster: the object is left alone if
it holds the same one, and otherwise written.  It fails only if there is no place
for a report in the object. -/
inductive Synced (owner : Ref) (derived : Value) (store : Store) :
    Except Fault Bool → Store → Prop
  | absent (missing : store.find? owner = none) : Synced owner derived store (.ok false) store
  | spared {object stored : Value} (found : store.find? owner = some object)
      (read : storedStatus object = .ok stored) (agrees : stored.same derived = true) :
      Synced owner derived store (.ok false) store
  | written {object stored updated : Value} {after : Store}
      (found : store.find? owner = some object) (read : storedStatus object = .ok stored)
      (differs : stored.same derived = false) (writes : withStatus object derived = .ok updated)
      (becomes : store.Becomes after owner updated) : Synced owner derived store (.ok true) after
  | unplaced {object : Value} {mismatch : Mismatch} (found : store.find? owner = some object)
      (unshaped : ¬ OwnerShaped object) :
      Synced owner derived store (.error (.mismatch mismatch)) store

theorem ends_writeStatus {owner : Ref} {object derived : Value} (plain : owner.Plain)
    (sound : store.Sound) (found : store.find? owner = some object) (shaped : OwnerShaped object) :
    (writeStatus object derived).Ends store fun result after =>
      ∃ updated, withStatus object derived = .ok updated ∧ result = .ok true ∧
        store.Becomes after owner updated := by
  obtain ⟨version, marked⟩ := sound.marked_of_found found
  obtain ⟨updated, written⟩ := shaped.exists_withStatus marked.isObject derived
  have sameMetadata : updated.part? "metadata" = object.part? "metadata" :=
    part?_withStatus_of_ne written (by decide)
  have updatedRef := ref_of_withStatus written (sound.ref_of_found plain found)
  have submits := Store.submittedVersion_of_marked marked sameMetadata
  have about : (Request.update updated (some "status")).ref = .ok owner := updatedRef
  simp only [writeStatus, written, bind_eq, liftM_mismatch, Except.mapError, Program.ofExcept,
    done_bind]
  rw [ends_bind, Ends, ensures_ask about]
  rintro before answer after _ rfl faithful
  have served : before.serve owner (.update updated (some "status")) = (answer, after) := faithful
  rw [Store.serve_update_current plain found marked submits (updated_withStatus written).1]
    at served
  obtain ⟨⟨value, rfl⟩, becomes⟩ := Store.Becomes.of_put plain updatedRef served
  exact ⟨trivial, updated, rfl, rfl, becomes⟩

theorem ends_syncOnce {owner : Ref} {derived : Value} (plain : owner.Plain) (pending : Bool) :
    (syncOnce cluster owner derived pending).Ends store fun result after =>
      ∃ outcome, result = outcome.map .settled ∧ Synced owner derived store outcome after := by
  apply ends_ofProgram
  have about : (Request.get owner).ref = .ok owner := rfl
  refine ends_call about fun answer after sound served => ?_
  cases found : store.find? owner with
  | none =>
      rw [Store.serve_get_none plain found] at served
      obtain ⟨rfl, rfl⟩ := Prod.mk.inj served
      exact ⟨by simp, .ok false, rfl, .absent found⟩
  | some object =>
      rw [Store.serve_get_some plain found] at served
      obtain ⟨rfl, rfl⟩ := Prod.mk.inj served
      simp only [liftM_mismatch, bind_eq]
      cases read : storedStatus object with
      | error mismatch =>
          refine ⟨by simp, .error (.mismatch mismatch), rfl, .unplaced found fun shaped => ?_⟩
          obtain ⟨version, marked⟩ := sound.marked_of_found found
          cases read.symm.trans (shaped.storedStatus_eq marked.isObject)
      | ok stored =>
          simp only [Except.mapError, Program.ofExcept, done_bind]
          cases agrees : stored.same derived with
          | true => exact ⟨by simp, .ok false, rfl, .spared found read agrees⟩
          | false =>
              simp only [Bool.false_eq_true, if_false]
              have writing : ((Attempt.ofProgram false
                  (Attempt.settled <$> writeStatus object derived)).Ends store
                    fun result after => (∀ fault, result ≠ .error (.store fault)) ∧
                      ∃ outcome, result = outcome.map .settled ∧
                        Synced owner derived store outcome after) := by
                apply ends_ofProgram
                rw [ends_map]
                refine (ends_writeStatus plain sound found (ownerShaped_of_storedStatus read)).mono
                  fun result after ended => ?_
                obtain ⟨updated, written, rfl, becomes⟩ := ended
                refine ⟨?_, ?_, .ok true, rfl, .written found read agrees written becomes⟩
                all_goals simp [Except.map]
              cases pending with
              | true => exact writing
              | false => exact writing

/-- Once the jobs can be reported on, the report comes to the object of the
cluster. -/
theorem ends_syncStatus {owner : Ref} {jobs : List Job} (plain : owner.Plain)
    (names : jobs.map Job.name = cluster.jobNames)
    (present : ∀ job ∈ jobs, store.find? (cluster.jobRef job.name) ≠ none) :
    (syncStatus cluster owner budget).Ends store fun result after =>
      cluster.Reportable jobs store ∧
          Synced owner (cluster.reportIn jobs store) store result after ∨
        ¬ cluster.Reportable jobs store ∧ ∀ written, result ≠ .ok written := by
  rw [syncStatus, bind_eq, ends_bind, reports, ← names]
  refine (ends_reportJobs present).mono fun result middle reported => ?_
  obtain ⟨rfl, reads, reports⟩ := reported
  cases result with
  | error fault =>
      refine .inr ⟨fun reportable => ?_, nofun⟩
      cases reports reportable
  | ok entries =>
      have reportable := reads entries rfl
      obtain rfl := Except.ok.inj (reports reportable)
      rw [← reportable.statusOf_eq]
      apply ends_catchStore_bind
      apply ends_retry
      refine (ends_syncOnce plain true).mono fun result after ended => ?_
      obtain ⟨outcome, rfl, synced⟩ := ended
      cases outcome with
      | ok written => exact .inl ⟨reportable, synced⟩
      | error fault =>
          cases synced with
          | unplaced found unshaped => exact .inl ⟨reportable, .unplaced found unshaped⟩

/-- Whatever comes of the report, every job reads as before. -/
theorem Synced.readsAlike {owner : Ref} {derived : Value} {result : Except Fault Bool}
    (synced : Synced owner derived store result after) {ref : Ref} {live : Value}
    (found : store.find? ref = some live) :
    ∃ now, after.find? ref = some now ∧ ReadsAlike live now := by
  cases synced with
  | absent missing => exact ⟨live, found, .refl live⟩
  | spared held read agrees => exact ⟨live, found, .refl live⟩
  | written held read differs writes becomes =>
      by_cases same : ref = owner
      · subst same
        obtain rfl := Option.some.inj (held.symm.trans found)
        obtain ⟨now, isNow, content⟩ := becomes.held
        exact ⟨now, isNow, (ReadsAlike.of_withStatus writes).trans (.of_unversioned content)⟩
      · exact ⟨live, (becomes.others ref same).trans found, .refl live⟩
  | unplaced held unshaped => exact ⟨live, found, .refl live⟩

theorem Synced.ownerShaped {owner : Ref} {derived : Value} {written : Bool}
    (synced : Synced owner derived store (.ok written) after) {object : Value}
    (found : store.find? owner = some object) : OwnerShaped object := by
  cases synced with
  | absent missing => cases missing.symm.trans found
  | spared held read agrees =>
      obtain rfl := Option.some.inj (held.symm.trans found)
      exact ownerShaped_of_storedStatus read
  | written held read differs writes becomes =>
      obtain rfl := Option.some.inj (held.symm.trans found)
      exact ownerShaped_of_storedStatus read

theorem Synced.holds {owner : Ref} {derived : Value} {written : Bool}
    (itself : derived.same derived = true)
    (synced : Synced owner derived store (.ok written) after) {object : Value}
    (found : after.find? owner = some object) :
    ∃ stored, storedStatus object = .ok stored ∧ stored.same derived = true := by
  cases synced with
  | absent missing => cases missing.symm.trans found
  | spared held read agrees =>
      obtain rfl := Option.some.inj (held.symm.trans found)
      exact ⟨_, read, agrees⟩
  | written held read differs writes becomes =>
      obtain ⟨now, isNow, content⟩ := becomes.held
      obtain rfl := Option.some.inj (isNow.symm.trans found)
      refine ⟨derived, ?_, itself⟩
      rw [storedStatus_congr (Value.field?_congr_of_ne content (by decide)),
        storedStatus_withStatus writes]

theorem Synced.idle {owner : Ref} {derived : Value} {result : Except Fault Bool}
    (synced : Synced owner derived store result after)
    (holds : ∀ object, store.find? owner = some object → ∃ stored,
      storedStatus object = .ok stored ∧ stored.same derived = true) :
    result = .ok false ∧ after = store := by
  cases synced with
  | absent missing => exact ⟨rfl, rfl⟩
  | spared found read agrees => exact ⟨rfl, rfl⟩
  | written found read differs writes becomes =>
      obtain ⟨stored, readStored, agrees⟩ := holds _ found
      obtain rfl := Except.ok.inj (read.symm.trans readStored)
      cases differs.symm.trans agrees
  | unplaced found unshaped =>
      obtain ⟨stored, read, -⟩ := holds _ found
      exact absurd (ownerShaped_of_storedStatus read) unshaped

theorem reportable_of_readsAlike (reportable : cluster.Reportable jobs store)
    (alike : ∀ ref live, store.find? ref = some live →
      ∃ now, after.find? ref = some now ∧ ReadsAlike live now) :
    cluster.Reportable jobs after ∧ cluster.reportIn jobs after = cluster.reportIn jobs store := by
  refine ⟨fun job member => ?_, congrArg Value.list (List.map_congr_left fun job member => ?_)⟩
  · obtain ⟨live, report, found, made⟩ := reportable job member
    obtain ⟨now, isNow, readsAlike⟩ := alike _ live found
    exact ⟨now, report, isNow, readsAlike.reportOf made⟩
  · obtain ⟨live, report, found, made⟩ := reportable job member
    obtain ⟨now, isNow, readsAlike⟩ := alike _ live found
    rw [found, isNow, Option.getD_some, Option.getD_some, ← statusEntry_eq made,
      ← statusEntry_eq (readsAlike.reportOf made)]

end Program
end CuratorKeeper
