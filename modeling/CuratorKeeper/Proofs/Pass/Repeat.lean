import CuratorKeeper.Proofs.Pass.Synced
import CuratorKeeper.Proofs.Pass.Undisturbed
import CuratorKeeper.Proofs.Program.Quiet

/-!
# A pass again

What a pass leaves when it returns is a store at rest: the next pass with the
same arguments finds nothing to do.  The store may hold anything at the start,
as long as the first pass can work with it; and the object of the cluster may be
one of the resources that the pass creates or corrects.
-/

namespace CuratorKeeper

structure Cluster.AtRest (cluster : Cluster) (jobs : List Job) (store : Store) : Prop where
  once : ∀ ref ∈ cluster.onceRefs, store.find? ref ≠ none
  settled : ∀ job ∈ jobs, ∃ live, store.find? (cluster.jobRef job.name) = some live ∧
    (cluster.isManaged = true → Drift.between live (job.manifest cluster) = .ok {})
  reportable : cluster.Reportable jobs store
  owner : ∀ object, store.find? cluster.ref = some object → ∃ stored,
    storedStatus object = .ok stored ∧ stored.same (cluster.reportIn jobs store) = true

/-- A store that a pass over an enabled cluster can work with. -/
structure Cluster.Workable (cluster : Cluster) (jobs : List Job) (store : Store) : Prop where
  jobs : ∀ job ∈ jobs, ∃ made report,
    cluster.Shapes job (store.find? (cluster.jobRef job.name)) made ∧
      reportOf job.name made = .ok report
  owner : cluster.ref ∉ cluster.ownedRefs →
    ∀ object, store.find? cluster.ref = some object → OwnerShaped object

/-- What a pass over an enabled cluster makes of its resources before it reports. -/
structure Cluster.Brings (cluster : Cluster) (entries : List (Ref × Value)) (jobs : List Job)
    (store after : Store) : Prop where
  once : ∀ entry ∈ entries, after.Holds entry.1 ((store.find? entry.1).getD entry.2)
  jobs : ∀ job ∈ jobs, ∃ made, cluster.Shapes job (store.find? (cluster.jobRef job.name)) made ∧
    after.Holds (cluster.jobRef job.name) made
  others : ∀ ref, ref ∉ cluster.ownedRefs → after.find? ref = store.find? ref

theorem Cluster.Workable.reportable {cluster : Cluster} {jobs : List Job} {store after : Store}
    {entries : List (Ref × Value)} (workable : cluster.Workable jobs store)
    (brings : cluster.Brings entries jobs store after) : cluster.Reportable jobs after := by
  intro job member
  obtain ⟨made, report, shapes, isReport⟩ := workable.jobs job member
  obtain ⟨other, shapesOther, now, found, same⟩ := brings.jobs job member
  obtain rfl := shapes.unique shapesOther
  exact ⟨now, report, found, (ReadsAlike.of_unversioned same).reportOf isReport⟩

theorem eq_ok_of_toOption {ε α : Type} {result : Except ε α} {value : α}
    (held : result.toOption = some value) : result = .ok value := by
  cases result with
  | error fault => cases held
  | ok other => rw [Option.some.inj held]

namespace Program

variable {cluster : Cluster} {store after : Store} {jobs : List Job}

/-- If a pass could bring its resources to what it makes of them and report on its
jobs, it could work with what was there. -/
theorem Synced.workable {middle : Store} {derived : Value} {written : Bool}
    {entries : List (Ref × Value)}
    (synced : Synced cluster.ref derived middle (.ok written) after)
    (brings : cluster.Brings entries jobs store middle)
    (reportable : cluster.Reportable jobs middle) : cluster.Workable jobs store where
  jobs job member := by
    obtain ⟨shaped, shapes, now, isNow, same⟩ := brings.jobs job member
    obtain ⟨live, report, isLive, isReport⟩ := reportable job member
    obtain rfl := Option.some.inj (isNow.symm.trans isLive)
    exact ⟨shaped, report, shapes, (ReadsAlike.of_unversioned same.symm).reportOf isReport⟩
  owner stranger object found := by
    rw [← brings.others _ stranger] at found
    exact synced.ownerShaped found

section BuildUp

variable {settings : Settings} {files : Fields} {credentials : List (String × ByteArray)}
  {inputs : Inputs} {budget : Budget}

theorem ensures_buildUp_given {around : Surroundings} {promise : Served → Prop}
    {goal : Goal Outcome} (loadsFiles : Quiet inputs.loadFiles (.ok files))
    (loadsCredentials : Quiet inputs.loadCredentials (.ok credentials)) :
    Ensures around promise (buildUp cluster settings inputs budget) goal store ↔
      Ensures around promise
        (buildUp cluster settings ⟨.given files, .given credentials⟩ budget) goal store := by
  rw [buildUp, bind_eq, loadsFiles.ensures_bind_iff]
  simp only [bind_eq]
  rw [loadsCredentials.ensures_bind_iff]
  rfl

theorem ends_buildUp_of_given {goal : Outcome → Store → Prop}
    (given : ∀ files credentials jobs, Quiet inputs.loadFiles (.ok files) →
      Quiet inputs.loadCredentials (.ok credentials) → cluster.jobs settings = .ok jobs →
        (buildUp cluster settings ⟨.given files, .given credentials⟩ budget).Ends store
          fun result after => ∀ outcome, result = .ok outcome → goal outcome after) :
    (buildUp cluster settings inputs budget).Ends store
      fun result after => ∀ outcome, result = .ok outcome → goal outcome after := by
  obtain ⟨loadedFiles, quietFiles⟩ := quiet_loadFiles inputs
  obtain ⟨loadedCredentials, quietCredentials⟩ := quiet_loadCredentials inputs
  cases loadedFiles with
  | error fault =>
      rw [buildUp, bind_eq, Ends, quietFiles.ensures_bind_iff]
      simp
  | ok files =>
      cases loadedCredentials with
      | error fault =>
          rw [buildUp, bind_eq, Ends, quietFiles.ensures_bind_iff]
          simp only [bind_eq]
          rw [quietCredentials.ensures_bind_iff]
          simp
      | ok credentials =>
          rw [Ends, ensures_buildUp_given quietFiles quietCredentials]
          cases made : cluster.desired settings files credentials with
          | error fault =>
              simp only [buildUp, Inputs.loadFiles, Inputs.loadCredentials, made, bind_eq, pure_eq,
                done_bind, liftM_fault, Program.ofExcept, fail_bind]
              simp
          | ok desired =>
              obtain ⟨jobs, madeJobs, -⟩ := Cluster.desired_eq_ok made
              exact given files credentials jobs quietFiles quietCredentials madeJobs

/-- A pass over an enabled cluster that returns has brought its resources to what
it makes of them, and then reported on its jobs.  It fails only if it cannot work
with what is there. -/
theorem ends_buildUp_stages (made : cluster.jobs settings = .ok jobs) :
    (buildUp cluster settings ⟨.given files, .given credentials⟩ budget).Ends store
      fun result after => match result with
        | .ok _ => ∃ middle written,
          cluster.Brings (cluster.onceEntries files credentials) jobs store middle ∧
            cluster.Reportable jobs middle ∧
              Synced cluster.ref (cluster.reportIn jobs middle) middle (.ok written) after
        | .error _ => cluster.ref ∉ cluster.ownedRefs → ¬ cluster.Workable jobs store := by
  have names := Cluster.jobNames_of_jobs made
  have nodup := cluster.nodup_ownedRefs
  rw [← Cluster.refs_eq_ownedRefs names] at nodup
  obtain ⟨-, distinct, apart⟩ := List.nodup_append.mp nodup
  simp only [buildUp, Inputs.loadFiles, Inputs.loadCredentials,
    Cluster.desired_of_jobs made files credentials, Cluster.writeOnce_eq, bind_eq, pure_eq,
    done_bind, liftM_fault, Program.ofExcept]
  rw [ends_bind]
  refine (ends_createAll (cluster.nodup_onceEntries files credentials)
    (cluster.plain_onceEntries files credentials)
    (cluster.known_onceEntries files credentials)).mono fun result early created => ?_
  obtain ⟨created, rfl, once, beside, -⟩ := created
  have sameJob : ∀ job ∈ jobs, early.find? (cluster.jobRef job.name) =
      store.find? (cluster.jobRef job.name) := fun job member =>
    beside _ fun isOnce => apart _ isOnce _ (cluster.jobRef_mem_jobRefs member) rfl
  simp only
  rw [ends_bind]
  refine (ends_reconcileJobs distinct).mono fun result middle corrected => ?_
  rcases corrected with ⟨corrections, rfl, each, others⟩ | ⟨⟨fault, rfl⟩, job, member, unshapeable⟩
  · have brings : cluster.Brings (cluster.onceEntries files credentials) jobs store middle := by
      refine ⟨fun entry member => ?_, fun job member => ?_, fun ref stranger => ?_⟩
      · obtain ⟨now, found, same⟩ := once entry member
        refine ⟨now, ?_, same⟩
        rw [← found]
        exact others _ fun isJob => apart _ (List.mem_map_of_mem member) _ isJob rfl
      · rw [← sameJob job member]
        exact each job member
      · rw [← Cluster.refs_eq_ownedRefs names, List.mem_append, not_or] at stranger
        rw [others ref stranger.2, beside ref stranger.1]
    simp only
    rw [ends_bind]
    have present : ∀ job ∈ jobs, middle.find? (cluster.jobRef job.name) ≠ none := by
      intro job member
      obtain ⟨-, -, now, found, -⟩ := brings.jobs job member
      simp [found]
    refine (ends_syncStatus cluster.plain_ref names present).mono fun result after synced => ?_
    cases result with
    | ok written =>
        obtain ⟨reportable, synced⟩ | ⟨-, failed⟩ := synced
        · exact ⟨middle, written, brings, reportable, synced⟩
        · exact absurd rfl (failed written)
    | error fault =>
        intro stranger workable
        have reportable := workable.reportable brings
        obtain ⟨-, synced⟩ | ⟨unreportable, -⟩ := synced
        · cases synced with
          | unplaced found unshaped =>
              rw [brings.others _ stranger] at found
              exact unshaped (workable.owner stranger _ found)
        · exact unreportable reportable
  · intro _ workable
    obtain ⟨shaped, report, shapes, -⟩ := workable.jobs job member
    rw [← sameJob job member] at shapes
    exact unshapeable shaped shapes

/-- A pass over an enabled cluster that returns could work with what was there,
and leaves it at rest. -/
theorem ends_buildUp (made : cluster.jobs settings = .ok jobs) :
    (buildUp cluster settings ⟨.given files, .given credentials⟩ budget).Ends store
      fun result after => ∀ outcome, result = .ok outcome →
        cluster.Workable jobs store ∧ cluster.AtRest jobs after := by
  have names := Cluster.jobNames_of_jobs made
  refine (ends_buildUp_stages made).mono fun result after staged outcome returned => ?_
  subst returned
  obtain ⟨middle, written, brings, reportable, synced⟩ := staged
  have alike : ∀ ref live, middle.find? ref = some live →
      ∃ now, after.find? ref = some now ∧ ReadsAlike live now := fun ref live => synced.readsAlike
  obtain ⟨reportableAfter, sameReport⟩ := reportable_of_readsAlike reportable alike
  refine ⟨synced.workable brings reportable, fun ref isOnce => ?_, fun job member => ?_,
    reportableAfter, fun object found => ?_⟩
  · rw [← cluster.map_onceEntries files credentials] at isOnce
    obtain ⟨entry, member, rfl⟩ := List.mem_map.mp isOnce
    obtain ⟨live, found, -⟩ := brings.once entry member
    obtain ⟨now, isNow, -⟩ := alike _ live found
    simp [isNow]
  · obtain ⟨shaped, shapes, live, found, same⟩ := brings.jobs job member
    obtain ⟨now, isNow, readsAlike⟩ := alike _ live found
    refine ⟨now, isNow, fun managed => ?_⟩
    exact ((ReadsAlike.of_unversioned same).trans readsAlike).between (shapes.settled managed)
  · rw [sameReport]
    exact synced.holds reportable.same_reportIn found

theorem ends_buildUp_atRest (made : cluster.jobs settings = .ok jobs)
    (atRest : cluster.AtRest jobs store) :
    (buildUp cluster settings ⟨.given files, .given credentials⟩ budget).Ends store
      fun result after => result = .ok { mode := .enabled } ∧ after = store := by
  have names := Cluster.jobNames_of_jobs made
  simp only [buildUp, Inputs.loadFiles, Inputs.loadCredentials,
    Cluster.desired_of_jobs made files credentials, Cluster.writeOnce_eq, bind_eq, pure_eq,
    done_bind, liftM_fault, Program.ofExcept]
  rw [ends_bind]
  refine (ends_createAll (cluster.nodup_onceEntries files credentials)
    (cluster.plain_onceEntries files credentials)
    (cluster.known_onceEntries files credentials)).mono fun result early created => ?_
  obtain ⟨created, rfl, -, -, idle⟩ := created
  obtain ⟨rfl, rfl⟩ := idle fun entry member => atRest.once _ (List.mem_map_of_mem member)
  simp only
  rw [ends_bind]
  refine (ends_reconcileJobs_settled atRest.settled).mono fun result middle corrected => ?_
  obtain ⟨rfl, rfl⟩ := corrected
  simp only
  rw [ends_bind]
  have present : ∀ job ∈ jobs, middle.find? (cluster.jobRef job.name) ≠ none := by
    intro job member
    obtain ⟨live, found, -⟩ := atRest.settled job member
    simp [found]
  refine (ends_syncStatus cluster.plain_ref names present).mono fun result after synced => ?_
  obtain ⟨-, synced⟩ | ⟨unreportable, -⟩ := synced
  · obtain ⟨rfl, rfl⟩ := synced.idle atRest.owner
    rw [createdJobs_map, patchedJobs_map]
    simp [ends_done, Drift.isChange]
  · exact absurd atRest.reportable unreportable

theorem ends_removeCurator_again :
    (removeCurator cluster).Ends store fun result after => ∀ count, result = .ok count →
      (removeCurator cluster).Ends after fun again last => again = .ok 0 ∧ last = after := by
  cases managed : cluster.isManaged with
  | false =>
      simp only [removeCurator, managed, Bool.false_eq_true, if_false, bind_eq]
      exact fun _ _ => ⟨rfl, rfl⟩
  | true =>
      simp only [removeCurator, managed, if_true]
      refine (ends_deleteAll fun ref => Cluster.plain_of_owned).mono fun result after removed => ?_
      obtain ⟨count, rfl, missing, -, -⟩ := removed
      intro _ _
      refine (ends_deleteAll fun ref => Cluster.plain_of_owned).mono fun result last again => ?_
      obtain ⟨none, rfl, -, -, idle⟩ := again
      obtain ⟨rfl, rfl⟩ := idle fun ref owned => missing ref (.inr owned)
      exact ⟨rfl, rfl⟩

/-- After a pass that returned the same pass does nothing. -/
theorem ends_reconcile_again :
    (reconcile cluster settings inputs budget).Ends store fun result after =>
      ∀ outcome, result = .ok outcome →
        (reconcile cluster settings inputs budget).Ends after fun again last =>
          again = .ok { mode := cluster.curation.mode } ∧ last = after := by
  unfold reconcile
  cases cluster.curation.mode with
  | enabled =>
      refine ends_buildUp_of_given fun files credentials jobs loadsFiles loadsCredentials made => ?_
      refine (ends_buildUp made).mono fun result after left outcome returned => ?_
      rw [Ends, ensures_buildUp_given loadsFiles loadsCredentials]
      exact ends_buildUp_atRest made (left outcome returned).2
  | disabled =>
      simp only [bind_eq]
      rw [ends_bind]
      refine ends_removeCurator_again.mono fun result after again => ?_
      cases result with
      | error fault => simp
      | ok count =>
          intro _ _
          rw [ends_bind]
          refine (again count rfl).mono fun result last ended => ?_
          obtain ⟨rfl, rfl⟩ := ended
          exact ⟨rfl, rfl⟩
  | unknown => exact fun _ _ => ⟨rfl, rfl⟩

end BuildUp

end Program

/-- When a pass that nobody disturbed has returned, the same pass at once does
nothing: it reports nothing, leaves the store as it is with all its versions,
and nothing but its readings is accepted. -/
theorem reconcile_again {cluster : Cluster} {settings : Settings} {inputs : Inputs}
    {budget : Budget} {world left : World} {outcome : Outcome} (reachable : world.store.Reachable)
    (calm : world.Calm)
    (returned : (reconcile cluster settings inputs budget).run world = (.ok outcome, left)) :
    ∃ last, (reconcile cluster settings inputs budget).run left =
        (.ok { mode := cluster.curation.mode }, last) ∧
      last.store = left.store ∧
        ∀ served ∈ (reconcile cluster settings inputs budget).history left,
          served.Accepted → served.request.verb = .get := by
  obtain ⟨sound, again⟩ :=
    (@Program.ends_reconcile_again cluster world.store settings inputs budget).run calm
      reachable.sound
  have calmLeft := Program.calm_run (reconcile cluster settings inputs budget) calm
  rw [returned] at sound again calmLeft
  have ends := again outcome rfl
  obtain ⟨-, same, unchanged⟩ := ends.run calmLeft sound
  exact ⟨_, Prod.ext same rfl, unchanged, ends.only_readings calmLeft sound unchanged⟩

/-- The job of the plain cluster is corrected by the first pass, and the second
one does nothing. -/
theorem stale_reconcile_again :
    ∃ left, (reconcile plainCluster {} ⟨.given [], .given []⟩ ({ steps := 1 } : Backoff)).run
        { store := staleStore } =
        (.ok {  mode := .enabled
                created := ["ServiceAccount/curator", "ConfigMap/curator", "Secret/curator"]
                patched := [("curator", ["image", "schedule"])]
                statusWritten := true }, left) ∧
      ∃ last, (reconcile plainCluster {} ⟨.given [], .given []⟩ ({ steps := 1 } : Backoff)).run
          left = (.ok { mode := .enabled }, last) ∧
        last.store = left.store ∧
          ∀ served ∈ (reconcile plainCluster {} ⟨.given [], .given []⟩
            ({ steps := 1 } : Backoff)).history left,
            served.Accepted → served.request.verb = .get := by
  have first : ((reconcile plainCluster {} ⟨.given [], .given []⟩
      ({ steps := 1 } : Backoff)).run { store := staleStore }).1.toOption = some
        { mode := .enabled
          created := ["ServiceAccount/curator", "ConfigMap/curator", "Secret/curator"]
          patched := [("curator", ["image", "schedule"])]
          statusWritten := true } := by decide +kernel
  have returned := Prod.ext (eq_ok_of_toOption first) rfl
  exact ⟨_, returned, reconcile_again reachable_staleStore ⟨rfl, fun _ => rfl⟩ returned⟩

end CuratorKeeper
