import CuratorKeeper.Pass.Reconcile
import CuratorKeeper.Proofs.Job.Desired
import CuratorKeeper.Proofs.Pass.Correction
import CuratorKeeper.Proofs.Pass.Status
import CuratorKeeper.Proofs.Program.Quiet

/-!
# The calls of a pass

A pass and a teardown make six kinds of calls, each in its own mode and state
of management, and each about the references of its cluster.
-/

namespace CuratorKeeper

/-- The calls that are made for a cluster, which may be going away. -/
inductive Served.OfCluster (cluster : Cluster) (goes : Prop) : Served → Prop
  | removes {ref : Ref} {before after : Store} {answer : Except Fault Value}
      (managed : cluster.isManaged = true) (unwanted : cluster.curation.mode = .disabled ∨ goes)
      (owned : ref ∈ cluster.ownedRefs) :
      OfCluster cluster goes ⟨.delete ref, ref, before, answer, after⟩
  | creates {resource : Value} {ref : Ref} {before after : Store} {answer : Except Fault Value}
      (enabled : cluster.curation.mode = .enabled) (owned : ref ∈ cluster.ownedRefs) :
      OfCluster cluster goes ⟨.create resource, ref, before, answer, after⟩
  | readsJob {name : String} {before after : Store} {answer : Except Fault Value}
      (enabled : cluster.curation.mode = .enabled) (named : name ∈ cluster.jobNames) :
      OfCluster cluster goes
        ⟨.get (cluster.jobRef name), cluster.jobRef name, before, answer, after⟩
  | correctsJob {patched : Value} {name : String} {before after : Store}
      {answer : Except Fault Value} (enabled : cluster.curation.mode = .enabled)
      (managed : cluster.isManaged = true) (named : name ∈ cluster.jobNames) :
      OfCluster cluster goes
        ⟨.update patched none, cluster.jobRef name, before, answer, after⟩
  | readsOwner {before after : Store} {answer : Except Fault Value}
      (enabled : cluster.curation.mode = .enabled) :
      OfCluster cluster goes ⟨.get cluster.ref, cluster.ref, before, answer, after⟩
  | reports {updated : Value} {before after : Store} {answer : Except Fault Value}
      (enabled : cluster.curation.mode = .enabled) :
      OfCluster cluster goes ⟨.update updated (some "status"), cluster.ref, before, answer, after⟩

/-- The calls for a job of a cluster are calls for the cluster; a corrected copy
has the reference that the job was read under. -/
theorem Served.OfJob.ofCluster {cluster : Cluster} {goes : Prop} {desired : Value} {name : String}
    {served : Served} (ofJob : served.OfJob cluster desired)
    (enabled : cluster.curation.mode = .enabled) (named : name ∈ cluster.jobNames)
    (isJob : Ref.of desired = .ok (cluster.jobRef name)) : served.OfCluster cluster goes := by
  cases ofJob with
  | creates known =>
      rw [isJob] at known
      cases known
      refine .creates enabled ?_
      exact List.mem_append_right _ (List.mem_map_of_mem named)
  | reads managed known =>
      rw [isJob] at known
      cases known
      exact .readsJob enabled named
  | corrects managed known sound evolves found drifted changes applied about =>
      rw [isJob] at known
      cases known
      have liveRef := sound.ref_of_found (cluster.plain_jobRef name) found
      have patchedRef := Drift.ref_of_apply applied liveRef
      rw [patchedRef] at about
      cases about
      exact .correctsJob enabled managed named

namespace Program

variable {cluster : Cluster} {goes : Prop}

theorem keeps_deleteIfPresent {ref : Ref} (managed : cluster.isManaged = true)
    (unwanted : cluster.curation.mode = .disabled ∨ goes) (owned : ref ∈ cluster.ownedRefs) :
    Keeps .disturbed (Served.OfCluster cluster goes) (deleteIfPresent ref) := by
  have asked : Keeps .disturbed (Served.OfCluster cluster goes) (ask (.delete ref)) := by
    apply keeps_ask
    intro own before answer after about
    cases about
    exact .removes managed unwanted owned
  apply keeps_bind (keeps_catchStore asked)
  intro result
  cases result with
  | ok value => exact keeps_bind (keeps_note _ _ _) fun _ => keeps_done _
  | error fault =>
      simp only
      split
      · exact keeps_bind (keeps_note _ _ _) fun _ => keeps_done _
      · exact keeps_fail _

theorem keeps_deleteAll (managed : cluster.isManaged = true)
    (unwanted : cluster.curation.mode = .disabled ∨ goes) (refs : List Ref)
    (owned : ∀ ref ∈ refs, ref ∈ cluster.ownedRefs) :
    Keeps .disturbed (Served.OfCluster cluster goes) (deleteAll refs) := by
  induction refs with
  | nil => exact keeps_done _
  | cons ref rest ih =>
      have first := keeps_deleteIfPresent managed unwanted (owned ref List.mem_cons_self)
      have others := ih fun ref member => owned ref (List.mem_cons_of_mem _ member)
      exact keeps_bind first fun deleted => keeps_bind others fun count => keeps_done _

theorem keeps_removeCurator (unwanted : cluster.curation.mode = .disabled ∨ goes) :
    Keeps .disturbed (Served.OfCluster cluster goes) (removeCurator cluster) := by
  unfold removeCurator
  cases managed : cluster.isManaged with
  | true => exact keeps_deleteAll managed unwanted _ fun ref member => member
  | false => exact keeps_bind (keeps_note _ _ _) fun _ => keeps_done _

theorem keeps_createAll {around : Surroundings} {promise : Served → Prop} (resources : List Value)
    (kept : ∀ resource ∈ resources, ∀ ref before answer after, Ref.of resource = .ok ref →
      promise ⟨.create resource, ref, before, answer, after⟩) :
    Keeps around promise (createAll resources) := by
  induction resources with
  | nil => exact keeps_done _
  | cons resource rest ih =>
      have first : Keeps around promise (ensureCreated resource) :=
        keeps_ensureCreated (kept resource List.mem_cons_self)
      have others := ih fun resource member => kept resource (List.mem_cons_of_mem _ member)
      refine keeps_bind first fun created => keeps_bind (keeps_ofExcept _) fun name => ?_
      exact keeps_bind others fun names => keeps_done _

theorem keeps_reconcileJobs {around : Surroundings} {promise : Served → Prop} {budget : Budget}
    (entries : List (Job × Value))
    (kept : ∀ entry ∈ entries, Keeps around promise (reconcileJob cluster entry.2 budget)) :
    Keeps around promise (reconcileJobs cluster budget entries) := by
  induction entries with
  | nil => exact keeps_done _
  | cons entry rest ih =>
      obtain ⟨job, manifest⟩ := entry
      have first := kept _ List.mem_cons_self
      have others := ih fun entry member => kept entry (List.mem_cons_of_mem _ member)
      exact keeps_bind first fun correction => keeps_bind others fun corrections => keeps_done _

theorem keeps_reportJob (enabled : cluster.curation.mode = .enabled) {name : String}
    (named : name ∈ cluster.jobNames) :
    Keeps .disturbed (Served.OfCluster cluster goes) (reportJob (cluster.jobRef name) name) := by
  have asked : Keeps .disturbed (Served.OfCluster cluster goes)
      (ask (.get (cluster.jobRef name))) := by
    apply keeps_ask
    intro own before answer after about
    cases about
    exact .readsJob enabled named
  apply keeps_bind (keeps_catchStore asked)
  intro result
  cases result with
  | ok live => exact keeps_bind (keeps_ofExcept _) fun report => keeps_done _
  | error fault =>
      simp only
      split
      · exact keeps_done _
      · exact keeps_fail _

theorem keeps_reportJobs (enabled : cluster.curation.mode = .enabled) (names : List String)
    (named : ∀ name ∈ names, name ∈ cluster.jobNames) :
    Keeps .disturbed (Served.OfCluster cluster goes) (reportJobs cluster.space names) := by
  induction names with
  | nil => exact keeps_done _
  | cons name rest ih =>
      have first : Keeps .disturbed (Served.OfCluster cluster goes)
          (reportJob (cluster.jobRef name) name) :=
        keeps_reportJob enabled (named name List.mem_cons_self)
      have others := ih fun name member => named name (List.mem_cons_of_mem _ member)
      exact keeps_bind first fun report => keeps_bind others fun reports => keeps_done _

/-- What is written of the cluster object is its status, in a copy of what was
read. -/
theorem ensures_writeStatus (enabled : cluster.curation.mode = .enabled) {earlier : Store}
    {object derived : Value} (sound : earlier.Sound)
    (found : earlier.find? cluster.ref = some object) (store : Store) :
    Ensures .disturbed (Served.OfCluster cluster goes) (writeStatus object derived)
      (fun _ _ _ => True) store := by
  cases written : withStatus object derived with
  | error mismatch => simp [writeStatus, written, Except.mapError, ofExcept]
  | ok updated =>
      have objectRef := sound.ref_of_found cluster.plain_ref found
      have updatedRef := ref_of_withStatus written objectRef
      have asked : Keeps .disturbed (Served.OfCluster cluster goes)
          (ask (.update updated (some "status"))) := by
        apply keeps_ask
        intro own before answer after about
        have isOwner : own = cluster.ref := Except.ok.inj (about.symm.trans updatedRef)
        rw [isOwner]
        exact .reports enabled
      have whole : Keeps .disturbed (Served.OfCluster cluster goes)
          ((ask (.update updated (some "status"))).bind fun _ => done true) :=
        keeps_bind asked fun _ => keeps_done _
      simpa [writeStatus, written, Except.mapError, ofExcept] using whole store

theorem keeps_syncOnce (enabled : cluster.curation.mode = .enabled) (derived : Value)
    (noticePending : Bool) :
    Keeps .disturbed (Served.OfCluster cluster goes)
      (syncOnce cluster cluster.ref derived noticePending) := by
  apply keeps_ofProgram
  intro store
  rw [bind_eq, ensures_bind, ensures_catchStore, ensures_ask rfl]
  intro before answer after sound _ answered
  refine ⟨.readsOwner enabled, ?_⟩
  cases answer with
  | error fault =>
      cases fault with
      | store refused =>
          simp only [caughtStore]
          split <;> trivial
      | _ => trivial
  | ok object =>
      have served : before.serve cluster.ref (.get cluster.ref) = (.ok object, after) :=
        Served.Accepted.faithful ⟨object, rfl⟩ answered
      obtain ⟨found, -⟩ := Store.serve_get_eq_ok served
      have writes : Keeps .disturbed (Served.OfCluster cluster goes)
          (Attempt.ofProgram false (.settled <$> writeStatus object derived)) :=
        keeps_ofProgram (keeps_bind (ensures_writeStatus enabled sound found) fun _ => keeps_done _)
      have compared : Keeps .disturbed (Served.OfCluster cluster goes)
          (do
            let stored ← storedStatus object
            if stored.same derived then return Attempt.settled false
            if noticePending then
              Program.note .info .status ("Updating status of Curator for " ++ cluster.label)
            Attempt.ofProgram false (.settled <$> writeStatus object derived)) := by
        apply keeps_bind (keeps_ofExcept _)
        intro stored
        split
        · exact keeps_done _
        · split
          · exact keeps_bind (keeps_note _ _ _) fun _ => writes
          · exact writes
      exact compared after

theorem keeps_syncStatus (enabled : cluster.curation.mode = .enabled) (budget : Budget) :
    Keeps .disturbed (Served.OfCluster cluster goes) (syncStatus cluster cluster.ref budget) := by
  apply keeps_bind (keeps_reportJobs enabled _ fun name member => member)
  intro reports
  apply keeps_bind (keeps_catchStore (keeps_retry (fun _ => keeps_syncOnce enabled _ _) _))
  intro result
  cases result with
  | ok written => exact keeps_done _
  | error fault => exact keeps_fail _

theorem keeps_buildUp (enabled : cluster.curation.mode = .enabled) (settings : Settings)
    (inputs : Inputs) (budget : Budget) :
    Keeps .disturbed (Served.OfCluster cluster goes) (buildUp cluster settings inputs budget) := by
  obtain ⟨_, quietFiles⟩ := quiet_loadFiles inputs
  obtain ⟨_, quietCredentials⟩ := quiet_loadCredentials inputs
  apply keeps_bind quietFiles.keeps
  intro files
  apply keeps_bind quietCredentials.keeps
  intro credentials
  apply keeps_ofExcept_bind
  intro desired made
  have refs := Cluster.refs_writeOnce made
  obtain ⟨jobs, madeJobs, rfl⟩ := Cluster.desired_eq_ok made
  refine keeps_bind (keeps_createAll _ fun resource member ref _ _ _ known => ?_)
    fun created => ?_
  · have listed := List.mem_map_of_mem (f := Ref.of) member
    rw [refs, known] at listed
    obtain ⟨own, isOnce, same⟩ := List.mem_map.mp listed
    cases same
    exact .creates enabled (List.mem_append_left _ isOnce)
  · refine keeps_bind (keeps_reconcileJobs _ fun entry member => ?_) fun corrections => ?_
    · obtain ⟨job, isJob, rfl⟩ := List.mem_map.mp member
      have named : job.name ∈ cluster.jobNames := by
        rw [← Cluster.jobNames_of_jobs madeJobs]
        exact List.mem_map_of_mem isJob
      exact (keeps_reconcileJob budget).weaken fun served ofJob =>
        ofJob.ofCluster enabled named (cluster.ref_manifest job)
    · exact keeps_bind (keeps_syncStatus enabled budget) fun written => keeps_done _

theorem keeps_reconcile (settings : Settings) (inputs : Inputs) (budget : Budget) :
    Keeps .disturbed (Served.OfCluster cluster goes)
      (reconcile cluster settings inputs budget) := by
  unfold reconcile
  cases mode : cluster.curation.mode with
  | enabled => exact keeps_buildUp mode settings inputs budget
  | disabled => exact keeps_bind (keeps_removeCurator (.inl mode)) fun deleted => keeps_done _
  | unknown => exact keeps_bind (keeps_note _ _ _) fun _ => keeps_done _

end Program
end CuratorKeeper
