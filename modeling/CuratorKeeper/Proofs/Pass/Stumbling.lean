import CuratorKeeper.Proofs.Pass.Calls
import CuratorKeeper.Proofs.Pass.Correction
import CuratorKeeper.Proofs.Pass.Settling
import CuratorKeeper.Proofs.Pass.Status
import CuratorKeeper.Proofs.Job.Reading
import CuratorKeeper.Proofs.Program.Blame

/-!
# What a pass stumbles over

A pass digs through jobs and an object that others write, and reads files that others
keep.  Apart from failures of the curation subsystem it fails for nothing but a file
that is no text, settings that make no jobs, and what it has just read: a job that
cannot be compared, changed or reported on, or an object without a place for a report.
-/

namespace CuratorKeeper

/-- Over what a pass stumbles when it has read a resource, and with which fault. -/
inductive Cluster.Stumbles (cluster : Cluster) (settings : Settings) (ref : Ref) (live : Value) :
    Fault → Prop
  /-- A job cannot be compared with the wanted one. -/
  | comparing {jobs : List Job} {job : Job} {mismatch : Mismatch}
      (wanted : cluster.jobs settings = .ok jobs) (member : job ∈ jobs)
      (isJob : ref = cluster.jobRef job.name)
      (fails : Drift.between live (job.manifest cluster) = .error mismatch) :
      Stumbles cluster settings ref live (.mismatch mismatch)
  /-- A job that differs from the wanted one has no place for the change. -/
  | changing {jobs : List Job} {job : Job} {drift : Drift} {mismatch : Mismatch}
      (wanted : cluster.jobs settings = .ok jobs) (member : job ∈ jobs)
      (isJob : ref = cluster.jobRef job.name)
      (differs : Drift.between live (job.manifest cluster) = .ok drift)
      (fails : drift.apply live = .error mismatch) :
      Stumbles cluster settings ref live (.mismatch mismatch)
  /-- No report can be made on a job. -/
  | reporting {name : String} {fault : Fault} (named : name ∈ cluster.jobNames)
      (isJob : ref = cluster.jobRef name) (fails : reportOf name live = .error fault) :
      Stumbles cluster settings ref live fault
  /-- The object of the cluster has no place for a report. -/
  | placing {mismatch : Mismatch} (isOwner : ref = cluster.ref)
      (fails : storedStatus live = .error mismatch) :
      Stumbles cluster settings ref live (.mismatch mismatch)

namespace Program

variable {cluster : Cluster} {settings : Settings} {stumbles : Stumbling} {budget : Budget}

theorem blames_ensureCreated {resource : Value} {ref : Ref} (plain : ref.Plain)
    (known : Ref.of resource = .ok ref) : Blames stumbles none (ensureCreated resource) := by
  apply blames_ofExcept_bind
  · intro fault failed
    rw [known] at failed
    cases failed
  intro own isRef
  apply blames_catchStore_bind (blames_ask (.create resource) plain known)
  intro result
  cases result with
  | ok value => exact blames_bind (blames_note _ _ _) fun _ => blames_done _
  | error fault =>
      simp only
      split
      · exact blames_bind (blames_note _ _ _) fun _ => blames_done _
      · exact blames_fail rfl

theorem blames_createAll (resources : List Value)
    (known : ∀ resource ∈ resources, ∃ ref, Ref.of resource = .ok ref ∧ ref.Plain) :
    Blames stumbles none (createAll resources) := by
  induction resources with
  | nil => exact blames_done _
  | cons resource rest ih =>
      obtain ⟨ref, isRef, plain⟩ := known resource List.mem_cons_self
      have others := ih fun other member => known other (List.mem_cons_of_mem _ member)
      apply blames_bind (blames_ensureCreated plain isRef)
      intro created
      rw [outcomeName_eq isRef]
      exact blames_bind (blames_done _) fun name => blames_bind others fun names => blames_done _

theorem blames_deleteIfPresent {ref : Ref} (plain : ref.Plain) :
    Blames stumbles none (deleteIfPresent ref) := by
  apply blames_catchStore_bind (blames_ask (.delete ref) plain rfl)
  intro result
  cases result with
  | ok value => exact blames_bind (blames_note _ _ _) fun _ => blames_done _
  | error fault =>
      simp only
      split
      · exact blames_bind (blames_note _ _ _) fun _ => blames_done _
      · exact blames_fail rfl

theorem blames_deleteAll (refs : List Ref) (plain : ∀ ref ∈ refs, ref.Plain) :
    Blames stumbles none (deleteAll refs) := by
  induction refs with
  | nil => exact blames_done _
  | cons ref rest ih =>
      have others := ih fun other member => plain other (List.mem_cons_of_mem _ member)
      apply blames_bind (blames_deleteIfPresent (plain ref List.mem_cons_self))
      exact fun deleted => blames_bind others fun count => blames_done _

theorem blames_removeCurator : Blames stumbles none (removeCurator cluster) := by
  unfold removeCurator
  split
  · exact blames_deleteAll _ fun ref owned => Cluster.plain_of_owned owned
  · exact blames_bind (blames_note _ _ _) fun _ => blames_done _

/-- A teardown reads nothing to stumble over. -/
theorem ensures_removeCurator (store : Store) :
    Ensures .scripted (fun _ => True) (removeCurator cluster)
      (fun result _ _ => FailsOnly (fun fault => fault.isCuration = true) result) store := by
  apply (@blames_removeCurator cluster (fun _ _ _ => False) store).mono
  intro result history after fails
  refine fails.mono fun fault blamed => ?_
  cases blamed with
  | curation isCuration => exact isCuration
  | before isRead => cases isRead
  | last isLast gets answer stumbles => exact stumbles.elim

theorem blames_submitUpdate {ref : Ref} {patched : Value} (plain : ref.Plain)
    (known : Ref.of patched = .ok ref) : Blames stumbles none (submitUpdate ref patched) := by
  apply blames_catchStore_bind (blames_ask (.update patched none) plain known)
  intro result
  cases result with
  | ok value => exact blames_done _
  | error fault =>
      simp only
      split
      · exact blames_fail rfl
      · exact blames_fail rfl

theorem blames_correctDrift {jobs : List Job} {job : Job}
    (wanted : cluster.jobs settings = .ok jobs) (member : job ∈ jobs) :
    Blames (cluster.Stumbles settings) none (correctDrift (job.manifest cluster)) := by
  have plain := cluster.plain_jobRef job.name
  rw [correctDrift, cluster.ref_manifest job]
  apply blames_get_bind plain
  · intro live version isRef marked
    refine blames_bind_of_ends (ensures_findDrift live (job.manifest cluster))
      (fun mismatch failed => ?_) fun drift drifted => ?_
    · exact .before rfl rfl (.comparing wanted member rfl failed)
    · split
      · refine blames_mismatch_bind (fun mismatch failed => ?_) fun patched applied => ?_
        · exact .before rfl rfl (.changing wanted member rfl drifted failed)
        · have known := Drift.ref_of_apply applied isRef
          exact (blames_bind (blames_submitUpdate plain known) fun _ => blames_done _).of_none
      · exact blames_done _
  · intro fault
    simp only
    split
    · exact blames_bind (blames_note _ _ _) fun _ => blames_done _
    · exact blames_fail rfl

theorem blames_reconcileJob {jobs : List Job} {job : Job} (flawless : budget.flaw = none)
    (wanted : cluster.jobs settings = .ok jobs) (member : job ∈ jobs) :
    Blames (cluster.Stumbles settings) none
      (reconcileJob cluster (job.manifest cluster) budget) := by
  have known := cluster.ref_manifest job
  apply blames_bind (blames_ensureCreated (cluster.plain_jobRef job.name) known)
  intro created
  split
  · exact blames_done _
  have corrects : Blames (cluster.Stumbles settings) none
      (correctWithRetry (job.manifest cluster) budget) := by
    refine blames_retry flawless (fun _ => blames_ofProgram ?_) ()
    exact blames_bind (blames_correctDrift wanted member) fun _ => blames_done _
  refine blames_attempt_bind corrects (fun drift => blames_done _) fun fault => ?_
  cases fault with
  | store refused =>
      right
      simp only [known]
      split
      · exact blames_fail rfl
      · exact blames_fail rfl
  | _ => exact .inl rfl

theorem blames_reconcileJobs {jobs : List Job} (flawless : budget.flaw = none)
    (wanted : cluster.jobs settings = .ok jobs) (some : List Job)
    (members : ∀ job ∈ some, job ∈ jobs) :
    Blames (cluster.Stumbles settings) none
      (reconcileJobs cluster budget (some.map fun job => (job, job.manifest cluster))) := by
  induction some with
  | nil => exact blames_done _
  | cons job rest ih =>
      have others := ih fun other member => members other (List.mem_cons_of_mem _ member)
      apply blames_bind (blames_reconcileJob flawless wanted (members job List.mem_cons_self))
      exact fun correction => blames_bind others fun corrections => blames_done _

theorem blames_reportJob {name : String} (named : name ∈ cluster.jobNames) :
    Blames (cluster.Stumbles settings) none (reportJob (cluster.jobRef name) name) := by
  apply blames_get_bind (cluster.plain_jobRef name)
  · intro live version isRef marked
    refine blames_ofExcept_bind (fun fault failed => ?_) fun report isReport => blames_done _
    exact .before rfl rfl (.reporting named rfl failed)
  · intro fault
    simp only
    split
    · exact blames_done _
    · exact blames_fail rfl

theorem blames_reportJobs (names : List String) (named : ∀ name ∈ names, name ∈ cluster.jobNames) :
    Blames (cluster.Stumbles settings) none (reportJobs cluster.space names) := by
  induction names with
  | nil => exact blames_done _
  | cons name rest ih =>
      have others := ih fun other member => named other (List.mem_cons_of_mem _ member)
      have first : Blames (cluster.Stumbles settings) none
          (reportJob (cluster.jobRef name) name) := blames_reportJob (named name List.mem_cons_self)
      exact blames_bind first fun report => blames_bind others fun reports => blames_done _

theorem blames_syncOnce (derived : Value) (noticePending : Bool) :
    Blames (cluster.Stumbles settings) none
      (syncOnce cluster cluster.ref derived noticePending) := by
  apply blames_ofProgram
  apply blames_get_bind cluster.plain_ref
  · intro object version isRef marked
    refine blames_mismatch_bind (fun mismatch failed => ?_) fun stored read => ?_
    · exact .before rfl rfl (.placing rfl failed)
    obtain ⟨updated, written⟩ :=
      (ownerShaped_of_storedStatus read).exists_withStatus marked.isObject derived
    have writes : Blames (cluster.Stumbles settings) none
        (Attempt.ofProgram false (.settled <$> writeStatus object derived)) := by
      apply blames_ofProgram
      refine blames_bind ?_ fun _ => blames_done _
      refine blames_mismatch_bind (fun mismatch failed => ?_) fun new isNew => ?_
      · cases written.symm.trans failed
      · have known := ref_of_withStatus isNew isRef
        exact blames_bind (blames_ask (.update new (some "status")) cluster.plain_ref known)
          fun _ => blames_done _
    apply Blames.of_none
    split
    · exact blames_done _
    · split
      · exact blames_bind (blames_note _ _ _) fun _ => writes
      · exact writes
  · intro fault
    simp only
    split
    · exact blames_done _
    · exact blames_fail rfl

theorem blames_syncStatus (flawless : budget.flaw = none) :
    Blames (cluster.Stumbles settings) none (syncStatus cluster cluster.ref budget) := by
  apply blames_bind (blames_reportJobs cluster.jobNames fun name member => member)
  intro reports
  apply blames_catchStore_bind (blames_retry flawless (fun _ => blames_syncOnce _ _) _)
  intro result
  cases result with
  | ok written => exact blames_done _
  | error fault => exact blames_fail rfl

/-- Once its inputs are read and its jobs are known, a pass stumbles over nothing but
what it reads. -/
theorem blames_buildUp_desired {files : Fields} {credentials : List (String × ByteArray)}
    {desired : DesiredSet} (flawless : budget.flaw = none)
    (made : cluster.desired settings files credentials = .ok desired) :
    Blames (cluster.Stumbles settings) none
      (do
        let created ← createAll desired.writeOnce
        let corrections ← reconcileJobs cluster budget desired.jobs
        let statusWritten ← syncStatus cluster cluster.ref budget
        return {
          mode := .enabled
          created := created ++ createdJobs corrections
          patched := patchedJobs corrections
          statusWritten : Outcome }) := by
  have refs := Cluster.refs_writeOnce made
  obtain ⟨jobs, wanted, rfl⟩ := Cluster.desired_eq_ok made
  apply blames_bind
  · refine blames_createAll _ fun resource member => ?_
    have listed := List.mem_map_of_mem (f := Ref.of) member
    rw [refs] at listed
    obtain ⟨ref, isOnce, known⟩ := List.mem_map.mp listed
    exact ⟨ref, known.symm, Cluster.plain_of_owned (List.mem_append_left _ isOnce)⟩
  intro created
  apply blames_bind (blames_reconcileJobs flawless wanted jobs fun job member => member)
  intro corrections
  exact blames_bind (blames_syncStatus flawless) fun written => blames_done _

end Program

/-- The content of a file; one that cannot be read is empty. -/
def Directory.contentOf (directory : Directory) (name : String) : ByteArray :=
  match directory.entries.lookup name with
  | some (some content) => content
  | _ => ByteArray.empty

def Inputs.Undecodable (inputs : Inputs) : Prop :=
  ∃ directory file, inputs.files = .directory directory ∧ file ∈ configFiles ∧
    String.fromUTF8? (directory.contentOf file.2) = none

namespace Program

variable {around : Surroundings} {promise : Served → Prop} {store : Store}

theorem ensures_read (directory : Directory) (name : String) (goal : Goal ByteArray) :
    Ensures around promise (directory.read name) goal store ↔
      goal (.ok (directory.contentOf name)) [] store := by
  unfold Directory.read Directory.contentOf
  cases directory.entries.lookup name with
  | none => rfl
  | some entry => cases entry <;> rfl

theorem ensures_readTexts (directory : Directory) (files : List (String × String)) :
    Ensures around promise (readTexts directory files) (fun result history _ =>
      history = [] ∧ FailsOnly (fun fault => fault = .undecodable ∧
        ∃ file ∈ files, String.fromUTF8? (directory.contentOf file.2) = none) result) store := by
  induction files with
  | nil => exact ⟨rfl, trivial⟩
  | cons file rest ih =>
      obtain ⟨key, name⟩ := file
      rw [readTexts, bind_eq, ensures_bind, ensures_read]
      simp only [liftM_fault, bind_eq, ensures_bind, ensures_ofExcept, decodeText, List.nil_append]
      cases decoded : String.fromUTF8? (directory.contentOf name) with
      | none => exact ⟨trivial, rfl, _, List.mem_cons_self, decoded⟩
      | some text =>
          apply ih.mono
          rintro result history after ⟨rfl, fails⟩
          cases result with
          | ok others => exact ⟨rfl, trivial⟩
          | error fault =>
              obtain ⟨isFault, other, member, undecoded⟩ := fails
              exact ⟨rfl, isFault, other, List.mem_cons_of_mem _ member, undecoded⟩

theorem ensures_readBytes (directory : Directory) (files : List (String × String)) :
    Ensures around promise (readBytes directory files) (fun result history _ =>
      history = [] ∧ ∃ contents, result = .ok contents) store := by
  induction files with
  | nil => exact ⟨rfl, _, rfl⟩
  | cons file rest ih =>
      obtain ⟨key, name⟩ := file
      rw [readBytes, bind_eq, ensures_bind, ensures_read]
      simp only [bind_eq, ensures_bind, List.nil_append]
      apply ih.mono
      rintro result history after ⟨rfl, contents, rfl⟩
      exact ⟨rfl, _, rfl⟩

theorem ensures_loadFiles (inputs : Inputs) :
    Ensures around promise inputs.loadFiles (fun result history _ =>
      history = [] ∧ FailsOnly (fun fault => fault = .undecodable ∧ inputs.Undecodable) result)
      store := by
  unfold Inputs.loadFiles
  cases source : inputs.files with
  | given files => exact ⟨rfl, trivial⟩
  | directory directory =>
      simp only [bind_eq]
      rw [ensures_bind]
      apply (ensures_readTexts directory configFiles).mono
      rintro result history after ⟨rfl, fails⟩
      cases result with
      | ok texts => exact ⟨rfl, trivial⟩
      | error fault =>
          obtain ⟨isFault, file, member, undecoded⟩ := fails
          exact ⟨rfl, isFault, directory, file, source, member, undecoded⟩

theorem ensures_loadCredentials (inputs : Inputs) :
    Ensures around promise inputs.loadCredentials (fun result history _ =>
      history = [] ∧ ∃ credentials, result = .ok credentials) store := by
  unfold Inputs.loadCredentials
  cases inputs.credentials with
  | given credentials => exact ⟨rfl, _, rfl⟩
  | directory directory => exact ensures_readBytes directory credentialFiles

end Program

/-- Why a pass fails with a fault that is none of the curation subsystem: before its
first call for a file that is no text or for settings that make no jobs, or over the
resource that its last call has read. -/
inductive Cluster.Trips (cluster : Cluster) (settings : Settings) (inputs : Inputs)
    (history : List Served) (fault : Fault) : Prop
  | undecodable (undecodable : inputs.Undecodable) (isFault : fault = .undecodable)
      (idle : history = [])
  | jobless (jobless : cluster.jobs settings = .error fault) (idle : history = [])
  | stumbles {earlier : List Served} {last : Served} {live : Value}
      (isLast : history = earlier ++ [last]) (gets : last.request = .get last.ref)
      (answer : last.answer = .ok live) (stumbles : cluster.Stumbles settings last.ref live fault)

namespace Program

variable {cluster : Cluster} {settings : Settings} {inputs : Inputs} {budget : Budget}

/-- The faults of a program that makes the pass over a cluster are of the curation
subsystem, or the pass trips over something. -/
abbrev Accounted {α : Type} (cluster : Cluster) (settings : Settings) (inputs : Inputs) : Goal α :=
  fun result history _ => FailsOnly (fun fault => fault.isCuration = true ∨
    cluster.curation.mode = .enabled ∧ cluster.Trips settings inputs history fault) result

theorem accounted_of_blames {α : Type} {program : Program α} {store : Store}
    (enabled : cluster.curation.mode = .enabled)
    (blames : Blames (cluster.Stumbles settings) none program) :
    Ensures .scripted (fun _ => True) program (Accounted cluster settings inputs) store := by
  apply (blames store).mono
  intro result history after fails
  refine fails.mono fun fault blamed => ?_
  cases blamed with
  | curation isCuration => exact .inl isCuration
  | before isRead => cases isRead
  | last isLast gets answer stumbles => exact .inr ⟨enabled, .stumbles isLast gets answer stumbles⟩

theorem ensures_buildUp (flawless : budget.flaw = none) (enabled : cluster.curation.mode = .enabled)
    (store : Store) :
    Ensures .scripted (fun _ => True) (buildUp cluster settings inputs budget)
      (Accounted cluster settings inputs) store := by
  rw [buildUp, bind_eq, ensures_bind]
  apply (ensures_loadFiles inputs).mono
  rintro loaded history after ⟨rfl, fails⟩
  cases loaded with
  | error fault => exact .inr ⟨enabled, .undecodable fails.2 fails.1 rfl⟩
  | ok files =>
      simp only [bind_eq]
      rw [ensures_bind]
      apply (ensures_loadCredentials inputs).mono
      rintro loaded history after ⟨rfl, credentials, rfl⟩
      simp only [List.nil_append, liftM_fault]
      cases wanted : cluster.jobs settings with
      | error cause =>
          have unmade : cluster.desired settings files credentials = .error cause := by
            rw [Cluster.desired, wanted]
            rfl
          rw [unmade]
          exact .inr ⟨enabled, .jobless wanted rfl⟩
      | ok jobs =>
          have made := Cluster.desired_of_jobs wanted files credentials
          rw [made]
          exact accounted_of_blames enabled (blames_buildUp_desired flawless made)

theorem ensures_reconcile (flawless : budget.flaw = none) (store : Store) :
    Ensures .scripted (fun _ => True) (reconcile cluster settings inputs budget)
      (Accounted cluster settings inputs) store := by
  unfold reconcile
  cases mode : cluster.curation.mode with
  | enabled => exact ensures_buildUp flawless mode store
  | disabled =>
      rw [bind_eq, ensures_bind]
      apply (ensures_removeCurator store).mono
      intro result history after fails
      cases result with
      | ok deleted => trivial
      | error fault => exact .inl fails
  | unknown => trivial

end Program
end CuratorKeeper
