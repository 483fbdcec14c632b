import CuratorKeeper.Proofs.Pass.Calls
import CuratorKeeper.Proofs.Pass.Errand
import CuratorKeeper.Proofs.Pass.Propagation
import CuratorKeeper.Proofs.Program.Failing

/-!
# Passes that are cut short

The store may fail a pass at any of its calls.  Each call that it serves leaves
every resource as it was or as it is to be, and so does the pass.  The object of
the cluster is written last, so that a pass that fails has not written it.
-/

namespace CuratorKeeper

section Calls

variable {cluster : Cluster} {jobs : List Job} {files : Fields}
  {credentials : List (String × ByteArray)} {names : jobs.map Job.name = cluster.jobNames}
  {served : Served}

theorem Store.Becomes.advances {errand : Errand} {store after : Store} {ref : Ref} {content : Value}
    (becomes : store.Becomes after ref content)
    (wants : errand.Wants ref (store.find? ref) (some content)) : errand.Advances store after := by
  intro other
  by_cases same : other = ref
  · subst same
    exact .inr ⟨_, wants, becomes.held.content?_eq⟩
  · exact .inl (becomes.others other same)

theorem Served.becomes_of_create {ref : Ref} {before after : Store} {resource value : Value}
    (plain : ref.Plain) (known : Ref.of resource = .ok ref)
    (faithful : Served.Faithful ⟨.create resource, ref, before, .ok value, after⟩) :
    before.find? ref = none ∧ before.Becomes after ref resource := by
  have created : before.serve ref (.create resource) = (.ok value, after) := faithful
  cases found : before.find? ref with
  | none =>
      rw [Store.serve_create_none plain found] at created
      exact ⟨rfl, (Store.Becomes.of_put plain known created).2⟩
  | some live =>
      rw [Store.serve_create_some plain found] at created
      cases created

/-- Every call for a job leaves it as it is or makes of it what the cluster does. -/
theorem Served.OfJob.advances {job : Job} (member : job ∈ jobs)
    (ofJob : served.OfJob cluster (job.manifest cluster)) (sound : served.before.Sound)
    (answered : served.Faithful ∨ served.Injected) :
    (cluster.building files credentials jobs names).Advances served.before served.after := by
  obtain ⟨request, ref, before, answer, after⟩ := served
  cases answer with
  | error fault => exact .of_unchanged (Served.find?_of_refused answered rfl)
  | ok value =>
      have faithful := Served.Accepted.faithful ⟨value, rfl⟩ answered
      have plain := cluster.plain_jobRef job.name
      cases ofJob with
      | creates known =>
          obtain rfl := Except.ok.inj ((cluster.ref_manifest job).symm.trans known)
          obtain ⟨missing, becomes⟩ := Served.becomes_of_create plain known faithful
          refine becomes.advances (.job member rfl ?_)
          rw [missing]
          exact Program.shapes_manifest cluster job
      | reads managed known =>
          obtain ⟨-, same⟩ := Store.serve_get_eq_ok faithful
          rw [same]
          exact .refl _ _
      | @corrects _ _ earlier _ _ _ live patched drift managed known soundThen evolves found drifted
          changes applied about =>
          obtain rfl := Except.ok.inj ((cluster.ref_manifest job).symm.trans known)
          have sameMetadata : patched.part? "metadata" = live.part? "metadata" :=
            Drift.part?_apply_of_ne applied (by decide)
          have patchedRef := Drift.ref_of_apply applied (soundThen.ref_of_found plain found)
          obtain rfl := Except.ok.inj (patchedRef.symm.trans about)
          have stored :=
            Store.eq_of_update_accepted soundThen sound evolves found sameMetadata faithful
          obtain ⟨_, _, _, new, -, -, -, isNew, -, put⟩ := Store.serve_update_eq_ok faithful
          cases isNew
          obtain ⟨-, becomes⟩ := Store.Becomes.of_put plain patchedRef put
          refine becomes.advances (.job member rfl ?_)
          rw [stored]
          exact .of_applied managed drifted changes applied patchedRef

/-- Every call for a cluster that is not enabled removes what it owned, if it does
anything. -/
theorem Served.OfCluster.advances (unwanted : cluster.curation.mode ≠ .enabled)
    (ofCluster : served.OfCluster cluster False)
    (answered : served.Faithful ∨ served.Injected) :
    cluster.clearing.Advances served.before served.after := by
  obtain ⟨request, ref, before, answer, after⟩ := served
  cases answer with
  | error fault => exact .of_unchanged (Served.find?_of_refused answered rfl)
  | ok value =>
      have faithful := Served.Accepted.faithful ⟨value, rfl⟩ answered
      cases ofCluster with
      | removes managed disabled owned =>
          have plain := Cluster.plain_of_owned owned
          have removed : before.serve ref (.delete ref) = (.ok value, after) := faithful
          intro other
          cases found : before.find? ref with
          | none =>
              rw [Store.serve_delete_none plain found] at removed
              cases removed
          | some live =>
              rw [Store.serve_delete_some plain found] at removed
              cases removed
              by_cases same : other = ref
              · subst same
                refine .inr ⟨none, ⟨disabled.resolve_right id, managed, owned, rfl⟩, ?_⟩
                rw [Store.content?, Store.find?_remove_self]
              · exact .inl (Store.find?_remove_of_ne plain same before)
      | creates enabled => exact absurd enabled unwanted
      | readsJob enabled => exact absurd enabled unwanted
      | correctsJob enabled => exact absurd enabled unwanted
      | readsOwner enabled => exact absurd enabled unwanted
      | reports enabled => exact absurd enabled unwanted

end Calls

namespace Program

variable {cluster : Cluster} {settings : Settings} {inputs : Inputs} {budget : Budget}
  {jobs : List Job} {files : Fields} {credentials : List (String × ByteArray)}
  {names : jobs.map Job.name = cluster.jobNames}

theorem failing_createAll (names : jobs.map Job.name = cluster.jobNames) (store : Store) :
    Ensures .failing (fun _ => True)
      (createAll ((cluster.onceEntries files credentials).map Prod.snd))
      (fun _ _ after => (cluster.building files credentials jobs names).Advances store after)
      store := by
  have kept : Keeps .disturbed
      (fun served => ∃ entry ∈ cluster.onceEntries files credentials,
        served.request = .create entry.2 ∧ served.ref = entry.1)
      (createAll ((cluster.onceEntries files credentials).map Prod.snd)) := by
    refine keeps_createAll _ fun resource member ref _ _ _ known => ?_
    obtain ⟨entry, isOnce, rfl⟩ := List.mem_map.mp member
    have own := cluster.known_onceEntries files credentials entry isOnce
    exact ⟨entry, isOnce, rfl, Except.ok.inj (known.symm.trans own)⟩
  refine (kept.relates (Errand.Advances.refl _) Errand.Advances.trans ?_ store).weaken
    fun _ _ => trivial
  rintro ⟨request, ref, before, answer, after⟩ sound answered ⟨entry, member, rfl, rfl⟩
  cases answer with
  | error fault => exact .of_unchanged (Served.find?_of_refused answered rfl)
  | ok value =>
      obtain ⟨missing, becomes⟩ := Served.becomes_of_create
        (cluster.plain_onceEntries files credentials entry member)
        (cluster.known_onceEntries files credentials entry member)
        (Served.Accepted.faithful ⟨value, rfl⟩ answered)
      refine becomes.advances ?_
      rw [missing]
      exact .once member rfl

theorem failing_reconcileJobs (names : jobs.map Job.name = cluster.jobNames) (store : Store) :
    Ensures .failing (fun _ => True)
      (reconcileJobs cluster budget (jobs.map fun job => (job, job.manifest cluster)))
      (fun _ _ after => (cluster.building files credentials jobs names).Advances store after)
      store := by
  have kept : Keeps .disturbed
      (fun served => ∃ job ∈ jobs, served.OfJob cluster (job.manifest cluster))
      (reconcileJobs cluster budget (jobs.map fun job => (job, job.manifest cluster))) := by
    refine keeps_reconcileJobs _ fun entry member => ?_
    obtain ⟨job, isJob, rfl⟩ := List.mem_map.mp member
    exact (keeps_reconcileJob budget).weaken fun served ofJob => ⟨job, isJob, ofJob⟩
  refine (kept.relates (Errand.Advances.refl _) Errand.Advances.trans ?_ store).weaken
    fun _ _ => trivial
  rintro served sound answered ⟨job, member, ofJob⟩
  exact ofJob.advances member sound answered

theorem failing_syncStatus (owner : Ref) (store : Store) :
    Ensures .failing (fun _ => True) (syncStatus cluster owner budget)
      (fun result _ after => ∀ fault, result = .error fault →
        ∀ ref, after.find? ref = store.find? ref) store := by
  have spared : Ensures .disturbed (fun _ => True) (syncStatus cluster owner budget)
      (fun result history _ => ∀ fault, result = .error fault → ∀ served ∈ history,
        served.wrote = false ∧ served.request.verb ≠ .delete) store := by
    rw [← @tells_iff_ensures _ LogLine.ofStatus]
    refine (tells_syncStatus cluster owner budget store).mono ?_
    rintro _ lines history after ⟨readings, tries, rfl, propagates⟩ fault rfl served member
    rcases List.mem_append.mp member with reading | trial
    · have asked := propagates.asked.subset (List.mem_map_of_mem reading)
      obtain ⟨name, -, reads⟩ := List.mem_map.mp asked
      refine ⟨Served.wrote_of_reads reads.symm, ?_⟩
      rw [← reads]
      nofun
    · refine ⟨Bool.eq_false_iff.mpr (List.countP_eq_zero.mp propagates.once served trial), ?_⟩
      rcases propagates.calls served trial with reads | ⟨resource, updates⟩
      · rw [reads]
        nofun
      · rw [updates]
        nofun
  refine spared.chained.mono fun result history after ended fault failed => ?_
  obtain ⟨silent, chained, calls⟩ := ended
  refine @Chained.relates (fun store after => ∀ ref, after.find? ref = store.find? ref) _ _ _
    (fun _ _ => rfl) (fun first second ref => (second ref).trans (first ref)) chained ?_
  intro served member
  obtain ⟨unwritten, stays⟩ := silent fault failed served member
  exact served.find?_of_spared (calls served member).2.1 unwritten stays

theorem failing_buildUp (made : cluster.jobs settings = .ok jobs) (store : Store) :
    Ensures .failing (fun _ => True)
      (buildUp cluster settings ⟨.given files, .given credentials⟩ budget)
      (fun result _ after => ∀ fault, result = .error fault →
        (cluster.building files credentials jobs names).Advances store after) store := by
  simp only [buildUp, Inputs.loadFiles, Inputs.loadCredentials,
    Cluster.desired_of_jobs made files credentials, Cluster.writeOnce_eq, bind_eq, pure_eq,
    done_bind, liftM_fault, Program.ofExcept]
  rw [ensures_bind]
  refine Ensures.mono (failing_createAll names store) fun result _ early created => ?_
  cases result with
  | error fault => exact fun _ _ => created
  | ok labels =>
      simp only
      rw [ensures_bind]
      refine Ensures.mono (@failing_reconcileJobs _ _ _ files credentials names early)
        fun result _ middle corrected => ?_
      cases result with
      | error fault => exact fun _ _ => created.trans corrected
      | ok corrections =>
          simp only
          rw [ensures_bind]
          refine Ensures.mono (failing_syncStatus cluster.ref middle)
            fun result _ after synced => ?_
          cases result with
          | error fault =>
              exact fun _ _ => (created.trans corrected).trans (.of_unchanged (synced fault rfl))
          | ok written => simp

theorem failing_reconcile (unwanted : cluster.curation.mode ≠ .enabled) (store : Store) :
    Ensures .failing (fun _ => True) (reconcile cluster settings inputs budget)
      (fun _ _ after => cluster.clearing.Advances store after) store := by
  have kept : Keeps .disturbed (Served.OfCluster cluster False)
      (reconcile cluster settings inputs budget) := keeps_reconcile settings inputs budget
  refine (kept.relates (Errand.Advances.refl _) Errand.Advances.trans ?_ store).weaken
    fun _ _ => trivial
  exact fun served _ answered ofCluster => ofCluster.advances unwanted answered

end Program
end CuratorKeeper
