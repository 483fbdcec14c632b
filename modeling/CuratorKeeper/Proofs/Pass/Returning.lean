import CuratorKeeper.Proofs.Job.Reading
import CuratorKeeper.Proofs.Pass.Correction
import CuratorKeeper.Proofs.Pass.Settling
import CuratorKeeper.Proofs.Program.Alone

/-!
# What a returning pass leaves

A pass that nobody disturbs fails at the first resource that it cannot work
with, whatever that holds.  So one that returns has read all it had to read, and
it leaves every resource there and every job of a managed cluster without drift.
-/

namespace CuratorKeeper

open Drift

/-- A resource is there with a content, whatever its version. -/
def Store.Holds (store : Store) (ref : Ref) (content : Value) : Prop :=
  ∃ now, store.find? ref = some now ∧ now.unversioned = content.unversioned

/-- One resource has come to a content, and all others are as they were. -/
structure Store.Becomes (store after : Store) (ref : Ref) (content : Value) : Prop where
  held : after.Holds ref content
  others : ∀ other, other ≠ ref → after.find? other = store.find? other

namespace Store.Becomes

variable {store after : Store} {ref : Ref} {live content : Value}

theorem refl (found : store.find? ref = some live) : store.Becomes store ref live :=
  ⟨⟨live, found, rfl⟩, fun _ _ => rfl⟩

theorem of_put (plain : ref.Plain) (known : Ref.of content = .ok ref) {answer : Except Fault Value}
    (put : store.put content = (answer, after)) :
    (∃ written, answer = .ok written) ∧ store.Becomes after ref content := by
  obtain ⟨written, puts, same⟩ := Store.put_of_plain plain known store
  rw [puts] at put
  obtain ⟨rfl, rfl⟩ := Prod.mk.inj put
  refine ⟨⟨written, rfl⟩, ⟨written, Store.find?_keep_of_plain plain _ _ _, same⟩, ?_⟩
  exact fun other different => Store.find?_keep_of_ne plain different _ _ _

end Store.Becomes

/-- What a pass makes of a job that may be there already: one that is absent is
made from its manifest, and one that is there is corrected if need be. -/
structure Cluster.Shapes (cluster : Cluster) (job : Job) (held : Option Value) (made : Value) :
    Prop where
  absent : held = none → made = job.manifest cluster
  compared : ∀ live, held = some live → cluster.isManaged = true →
    Drift.between live (job.manifest cluster) = .ok (driftOf live job)
  present : ∀ live, held = some live → cluster.Makes job live made
  settled : cluster.isManaged = true → Drift.between made (job.manifest cluster) = .ok {}

namespace Cluster.Shapes

variable {cluster : Cluster} {job : Job} {held : Option Value} {made other now : Value}

theorem unique (first : cluster.Shapes job held made) (second : cluster.Shapes job held other) :
    other = made := by
  cases held with
  | none => rw [first.absent rfl, second.absent rfl]
  | some live =>
      have makes := first.present live rfl
      have makesOther := second.present live rfl
      unfold Cluster.Makes at makes makesOther
      split at makes
      next drifts =>
        rw [if_pos drifts] at makesOther
        exact Except.ok.inj (makesOther.symm.trans makes)
      next settled =>
        rw [if_neg settled] at makesOther
        rw [makes, makesOther]

/-- What a pass has made of a job it leaves as it is. -/
theorem again (shapes : cluster.Shapes job held made) (same : now.unversioned = made.unversioned) :
    cluster.Shapes job (some now) now := by
  have settled : cluster.isManaged = true → Drift.between now (job.manifest cluster) = .ok {} :=
    fun managed => (ReadsAlike.of_unversioned same).between (shapes.settled managed)
  have undrifted : cluster.isManaged = true → driftOf now job = {} :=
    fun managed => (Drift.between_manifest_eq_ok (settled managed)).symm
  refine ⟨nofun, ?_, ?_, settled⟩
  · rintro _ ⟨⟩ managed
    rw [undrifted managed]
    exact settled managed
  · rintro _ ⟨⟩
    refine (if_neg ?_).mpr rfl
    rintro ⟨managed, changes⟩
    rw [undrifted managed] at changes
    exact absurd changes (by decide)

theorem of_applied {ref : Ref} {live patched : Value} {drift : Drift}
    (managed : cluster.isManaged = true)
    (drifted : Drift.between live (job.manifest cluster) = .ok drift)
    (changes : drift.isChange = true) (applied : drift.apply live = .ok patched)
    (known : Ref.of patched = .ok ref) : cluster.Shapes job (some live) patched := by
  obtain rfl := Drift.between_manifest_eq_ok drifted
  refine ⟨nofun, ?_, ?_, fun _ => Drift.between_apply (Ref.itemAt_name known) drifted applied⟩
  · rintro _ ⟨⟩ _
    exact drifted
  · rintro _ ⟨⟩
    rw [Cluster.Makes, if_pos ⟨managed, changes⟩]
    exact applied

end Cluster.Shapes

namespace Program

variable {store : Store} {ref : Ref} {cluster : Cluster} {job : Job} {budget : Budget}

theorem ends_deleteIfPresent (plain : ref.Plain) :
    (deleteIfPresent ref).Ends store fun result after =>
      store.find? ref = none ∧ result = .ok false ∧ after = store ∨
        store.find? ref ≠ none ∧ result = .ok true ∧ after = store.remove ref := by
  have about : (Request.delete ref).ref = .ok ref := rfl
  refine ends_call about fun answer after _ served => ?_
  cases found : store.find? ref with
  | none =>
      rw [Store.serve_delete_none plain found] at served
      obtain ⟨rfl, rfl⟩ := Prod.mk.inj served
      exact .inl ⟨rfl, rfl, rfl⟩
  | some live =>
      rw [Store.serve_delete_some plain found] at served
      obtain ⟨rfl, rfl⟩ := Prod.mk.inj served
      exact .inr ⟨by simp, rfl, rfl⟩

theorem ends_deleteAll {refs : List Ref} (plain : ∀ ref ∈ refs, ref.Plain) :
    (deleteAll refs).Ends store fun result after => ∃ count, result = .ok count ∧
      (∀ ref, store.find? ref = none ∨ ref ∈ refs → after.find? ref = none) ∧
        (∀ ref, ref ∉ refs → after.find? ref = store.find? ref) ∧
          ((∀ ref ∈ refs, store.find? ref = none) → count = 0 ∧ after = store) := by
  induction refs generalizing store with
  | nil => exact ⟨0, rfl, by simp, fun _ _ => rfl, fun _ => ⟨rfl, rfl⟩⟩
  | cons ref refs ih =>
      rw [deleteAll, bind_eq, ends_bind]
      refine (ends_deleteIfPresent (plain ref List.mem_cons_self)).mono
        fun result middle ended => ?_
      obtain ⟨deleted, rfl, missing, others, idle⟩ : ∃ deleted, result = .ok deleted ∧
          middle.find? ref = none ∧
          (∀ other, other ≠ ref → middle.find? other = store.find? other) ∧
          (store.find? ref = none → deleted = false ∧ middle = store) := by
        rcases ended with ⟨missing, rfl, rfl⟩ | ⟨present, rfl, rfl⟩
        · exact ⟨false, rfl, missing, fun _ _ => rfl, fun _ => ⟨rfl, rfl⟩⟩
        · refine ⟨true, rfl, Store.find?_remove_self store ref, fun other different => ?_,
            fun missing => absurd missing present⟩
          exact Store.find?_remove_of_ne (plain ref List.mem_cons_self) different store
      simp only [bind_eq]
      rw [ends_bind]
      refine (ih fun other member => plain other (List.mem_cons_of_mem _ member)).mono
        fun result after further => ?_
      obtain ⟨count, rfl, missingRest, othersRest, idleRest⟩ := further
      refine ⟨_, rfl, fun other gone => ?_, fun other stranger => ?_, fun all => ?_⟩
      · by_cases same : other = ref
        · exact missingRest other (.inl (same ▸ missing))
        · refine missingRest other (gone.imp (fun before => ?_) fun member => ?_)
          · rwa [others other same]
          · exact (List.mem_cons.mp member).resolve_left same
      · rw [List.mem_cons, not_or] at stranger
        rw [othersRest other stranger.2, others other stranger.1]
      · obtain ⟨rfl, rfl⟩ := idle (all ref List.mem_cons_self)
        obtain ⟨rfl, rfl⟩ := idleRest fun other member => all other (List.mem_cons_of_mem _ member)
        exact ⟨rfl, rfl⟩

theorem ends_ensureCreated {resource : Value} (plain : ref.Plain)
    (known : Ref.of resource = .ok ref) :
    (ensureCreated resource).Ends store fun result after =>
      store.find? ref = none ∧ result = .ok true ∧ store.Becomes after ref resource ∨
        store.find? ref ≠ none ∧ result = .ok false ∧ after = store := by
  simp only [ensureCreated, known, bind_eq, liftM_mismatch, Except.mapError, Program.ofExcept,
    done_bind]
  have about : (Request.create resource).ref = .ok ref := known
  refine ends_call about fun answer after _ served => ?_
  cases found : store.find? ref with
  | none =>
      rw [Store.serve_create_none plain found] at served
      obtain ⟨⟨written, rfl⟩, becomes⟩ := Store.Becomes.of_put plain known served
      exact .inl ⟨rfl, rfl, becomes⟩
  | some live =>
      rw [Store.serve_create_some plain found] at served
      obtain ⟨rfl, rfl⟩ := Prod.mk.inj served
      exact .inr ⟨by simp, rfl, rfl⟩

theorem ends_createAll {entries : List (Ref × Value)} (distinct : (entries.map Prod.fst).Nodup)
    (plain : ∀ entry ∈ entries, entry.1.Plain)
    (known : ∀ entry ∈ entries, Ref.of entry.2 = .ok entry.1) :
    (createAll (entries.map Prod.snd)).Ends store fun result after => ∃ names, result = .ok names ∧
      (∀ entry ∈ entries, after.Holds entry.1 ((store.find? entry.1).getD entry.2)) ∧
        (∀ ref, ref ∉ entries.map Prod.fst → after.find? ref = store.find? ref) ∧
          ((∀ entry ∈ entries, store.find? entry.1 ≠ none) → names = [] ∧ after = store) := by
  induction entries generalizing store with
  | nil => exact ⟨[], rfl, by simp, fun _ _ => rfl, fun _ => ⟨rfl, rfl⟩⟩
  | cons entry rest ih =>
      obtain ⟨ref, resource⟩ := entry
      obtain ⟨stranger, distinctRest⟩ := List.nodup_cons.mp distinct
      have knownFirst : Ref.of resource = .ok ref := known _ List.mem_cons_self
      rw [List.map_cons, createAll, bind_eq, ends_bind]
      refine (ends_ensureCreated (plain _ List.mem_cons_self) knownFirst).mono
        fun result middle ended => ?_
      obtain ⟨created, rfl, becomes, idle⟩ : ∃ created, result = .ok created ∧
          store.Becomes middle ref ((store.find? ref).getD resource) ∧
          (store.find? ref ≠ none → created = false ∧ middle = store) := by
        rcases ended with ⟨missing, rfl, becomes⟩ | ⟨present, rfl, rfl⟩
        · refine ⟨true, rfl, ?_, fun present => absurd missing present⟩
          rw [missing]
          exact becomes
        · obtain ⟨live, found⟩ := Option.ne_none_iff_exists'.mp present
          refine ⟨false, rfl, ?_, fun _ => ⟨rfl, rfl⟩⟩
          rw [found]
          exact .refl found
      simp only [outcomeName_eq knownFirst, bind_eq, liftM_mismatch, Except.mapError,
        Program.ofExcept, done_bind]
      rw [ends_bind]
      refine (ih distinctRest (fun other member => plain other (List.mem_cons_of_mem _ member))
        fun other member => known other (List.mem_cons_of_mem _ member)).mono
        fun result after further => ?_
      obtain ⟨names, rfl, each, others, idleRest⟩ := further
      refine ⟨_, rfl, fun other member => ?_, fun other absent => ?_, fun all => ?_⟩
      · rcases List.mem_cons.mp member with rfl | later
        · obtain ⟨now, found, same⟩ := becomes.held
          exact ⟨now, (others _ stranger).trans found, same⟩
        · have different : other.1 ≠ ref :=
            fun same => stranger (List.mem_map.mpr ⟨other, later, same⟩)
          rw [← becomes.others _ different]
          exact each other later
      · rw [List.map_cons, List.mem_cons, not_or] at absent
        rw [others other absent.2, becomes.others other absent.1]
      · obtain ⟨rfl, rfl⟩ := idle (all _ List.mem_cons_self)
        obtain ⟨rfl, rfl⟩ := idleRest fun other member => all other (List.mem_cons_of_mem _ member)
        exact ⟨rfl, rfl⟩

/-- How the correction of a job that is there ends: it is left alone if it did
not drift, and otherwise changed if it can be.  It fails if its drift cannot be
told or it cannot be changed. -/
inductive Corrected (ref : Ref) (live desired : Value) (store : Store) :
    Except Fault Drift → Store → Prop
  | spared {drift : Drift} (told : Drift.between live desired = .ok drift)
      (still : drift.isChange = false) : Corrected ref live desired store (.ok drift) store
  | changed {drift : Drift} {patched : Value} {after : Store}
      (told : Drift.between live desired = .ok drift) (changes : drift.isChange = true)
      (applied : drift.apply live = .ok patched) (known : Ref.of patched = .ok ref)
      (becomes : store.Becomes after ref patched) :
      Corrected ref live desired store (.ok drift) after
  | stuck {mismatch : Mismatch} {after : Store}
      (unchangeable : ∀ drift, Drift.between live desired = .ok drift →
        drift.isChange = true ∧ ∀ patched, drift.apply live ≠ .ok patched) :
      Corrected ref live desired store (.error (.mismatch mismatch)) after

theorem Corrected.settled {live desired : Value} {result : Except Fault Drift} {after : Store}
    (corrected : Corrected ref live desired store result after)
    (settled : Drift.between live desired = .ok {}) : result = .ok {} ∧ after = store := by
  cases corrected with
  | spared told still =>
      obtain rfl := Except.ok.inj (settled.symm.trans told)
      exact ⟨rfl, rfl⟩
  | changed told changes applied known becomes =>
      obtain rfl := Except.ok.inj (settled.symm.trans told)
      exact absurd changes (by decide)
  | stuck unchangeable => exact absurd (unchangeable {} settled).1 (by decide)

theorem ends_correctDrift {live desired : Value} (plain : ref.Plain)
    (known : Ref.of desired = .ok ref) (found : store.find? ref = some live) :
    (correctDrift desired).Ends store (Corrected ref live desired store) := by
  simp only [correctDrift, known, bind_eq, liftM_mismatch, Except.mapError, Program.ofExcept,
    done_bind]
  have about : (Request.get ref).ref = .ok ref := rfl
  refine ends_call about fun answer after sound served => ?_
  rw [Store.serve_get_some plain found] at served
  obtain ⟨rfl, rfl⟩ := Prod.mk.inj served
  have liveRef := sound.ref_of_found plain found
  obtain ⟨version, marked⟩ := sound.marked_of_found found
  simp only
  rw [Ends, ensures_bind, ensures_findDrift]
  cases drifted : Drift.between live desired with
  | error mismatch => exact .stuck fun drift told => by cases drifted.symm.trans told
  | ok drift =>
      simp only [Except.mapError]
      cases changes : drift.isChange with
      | false =>
          simp only [Bool.false_eq_true, if_false]
          exact .spared drifted changes
      | true =>
          simp only [if_true]
          cases applied : drift.apply live with
          | error mismatch =>
              refine .stuck fun other told => ?_
              obtain rfl := Except.ok.inj (drifted.symm.trans told)
              exact ⟨changes, fun patched wrote => by cases applied.symm.trans wrote⟩
          | ok patched =>
              have sameMetadata : patched.part? "metadata" = live.part? "metadata" :=
                Drift.part?_apply_of_ne applied (by decide)
              have patchedRef := Drift.ref_of_apply applied liveRef
              have submits := Store.submittedVersion_of_marked marked sameMetadata
              have about : (Request.update patched none).ref = .ok ref := patchedRef
              simp only [done_bind, submitUpdate, bind_eq, bind_assoc]
              refine ends_call about fun answer after _ served => ?_
              rw [Store.serve_update_current plain found marked submits rfl] at served
              obtain ⟨⟨written, rfl⟩, becomes⟩ := Store.Becomes.of_put plain patchedRef served
              exact .changed drifted changes applied patchedRef becomes

theorem ends_correctWithRetry {live desired : Value} (plain : ref.Plain)
    (known : Ref.of desired = .ok ref) (found : store.find? ref = some live) :
    (correctWithRetry desired budget).Ends store (Corrected ref live desired store) := by
  apply ends_retry
  apply ends_ofProgram
  rw [ends_map]
  refine (ends_correctDrift plain known found).mono fun result after corrected => ?_
  cases corrected with
  | spared told still => exact ⟨nofun, .spared told still⟩
  | changed told changes applied known becomes =>
      exact ⟨nofun, .changed told changes applied known becomes⟩
  | stuck unchangeable => exact ⟨nofun, .stuck unchangeable⟩

/-- What becomes of a job: it comes to what its cluster makes of it, and a pass
fails at it only if nothing can be made of it. -/
def Treated {α : Type} (cluster : Cluster) (job : Job) (store : Store) (result : Except Fault α)
    (after : Store) : Prop :=
  (∃ value made, result = .ok value ∧
      cluster.Shapes job (store.find? (cluster.jobRef job.name)) made ∧
        store.Becomes after (cluster.jobRef job.name) made) ∨
    (∃ fault, result = .error fault) ∧
      ∀ made, ¬ cluster.Shapes job (store.find? (cluster.jobRef job.name)) made

theorem Corrected.treated {live : Value} {result : Except Fault Drift} {after : Store}
    (managed : cluster.isManaged = true)
    (found : store.find? (cluster.jobRef job.name) = some live)
    (corrected : Corrected (cluster.jobRef job.name) live (job.manifest cluster) store result
      after) : Treated cluster job store result after := by
  rw [Treated, found]
  cases corrected with
  | spared told still =>
      obtain rfl := Drift.between_manifest_eq_ok told
      refine .inl ⟨_, live, rfl, ⟨nofun, ?_, ?_, fun _ => ?_⟩, .refl found⟩
      · rintro _ ⟨⟩ _
        exact told
      · rintro _ ⟨⟩
        rw [Cluster.Makes, if_neg fun drifts => Bool.eq_false_iff.mp still drifts.2]
      · rw [told, Drift.eq_of_isChange_false still]
  | changed told changes applied known becomes =>
      exact .inl ⟨_, _, rfl, .of_applied managed told changes applied known, becomes⟩
  | stuck unchangeable =>
      refine .inr ⟨⟨_, rfl⟩, fun made shapes => ?_⟩
      obtain ⟨changes, unapplied⟩ := unchangeable _ (shapes.compared live rfl managed)
      have makes := shapes.present live rfl
      rw [Cluster.Makes, if_pos ⟨managed, changes⟩] at makes
      exact unapplied made makes

theorem shapes_unmanaged (unmanaged : cluster.isManaged = false) (live : Value) :
    cluster.Shapes job (some live) live where
  absent := nofun
  compared _ _ managed := by
    rw [unmanaged] at managed
    cases managed
  present := by
    rintro _ ⟨⟩
    simp [Cluster.Makes, unmanaged]
  settled managed := by
    rw [unmanaged] at managed
    cases managed

theorem shapes_manifest (cluster : Cluster) (job : Job) :
    cluster.Shapes job none (job.manifest cluster) where
  absent _ := rfl
  compared := nofun
  present := nofun
  settled _ := by
    have named := Ref.itemAt_name (cluster.ref_manifest job)
    rw [(shaped_manifest cluster job).between_eq named, driftOf_manifest]

theorem ends_reconcileJob :
    (reconcileJob cluster (job.manifest cluster) budget).Ends store
      (Treated cluster job store) := by
  rw [reconcileJob, bind_eq, ends_bind]
  refine (ends_ensureCreated (cluster.plain_jobRef job.name) (cluster.ref_manifest job)).mono
    fun result middle created => ?_
  cases managed : cluster.isManaged with
  | false =>
      rcases created with ⟨missing, rfl, becomes⟩ | ⟨present, rfl, rfl⟩
      · refine .inl ⟨_, _, rfl, ?_, becomes⟩
        rw [missing]
        exact shapes_manifest cluster job
      · obtain ⟨live, found⟩ := Option.ne_none_iff_exists'.mp present
        refine .inl ⟨_, live, rfl, ?_, .refl found⟩
        rw [found]
        exact shapes_unmanaged managed live
  | true =>
      have isThere : ∃ created live, result = .ok created ∧
          middle.find? (cluster.jobRef job.name) = some live ∧
          ∀ result after, Corrected (cluster.jobRef job.name) live (job.manifest cluster) middle
            result after → Treated cluster job store result after := by
        rcases created with ⟨missing, rfl, becomes⟩ | ⟨present, rfl, rfl⟩
        · obtain ⟨now, found, same⟩ := becomes.held
          refine ⟨true, now, rfl, found, fun result after corrected => ?_⟩
          have settled := (ReadsAlike.of_unversioned same).between
            ((shapes_manifest cluster job).settled managed)
          obtain ⟨rfl, rfl⟩ := corrected.settled settled
          refine .inl ⟨_, _, rfl, ?_, becomes⟩
          rw [missing]
          exact shapes_manifest cluster job
        · obtain ⟨live, found⟩ := Option.ne_none_iff_exists'.mp present
          exact ⟨false, live, rfl, found, fun result after => Corrected.treated managed found⟩
      obtain ⟨created, live, rfl, found, treated⟩ := isThere
      simp only [Bool.not_true, Bool.false_eq_true, if_false, bind_eq]
      rw [ends_bind, ends_attempt]
      refine (ends_correctWithRetry (cluster.plain_jobRef job.name) (cluster.ref_manifest job)
        found).mono fun result after corrected => ?_
      cases result with
      | ok drift =>
          obtain ⟨_, made, -, shapes, becomes⟩ | ⟨⟨fault, failed⟩, -⟩ := treated _ after corrected
          · exact .inl ⟨_, made, rfl, shapes, becomes⟩
          · cases failed
      | error fault =>
          obtain ⟨_, _, failed, -⟩ | ⟨-, unshapeable⟩ := treated _ after corrected
          · cases failed
          · cases corrected
            exact .inr ⟨⟨_, rfl⟩, unshapeable⟩

theorem ends_reconcileJob_settled {live : Value}
    (found : store.find? (cluster.jobRef job.name) = some live)
    (settled : cluster.isManaged = true →
      Drift.between live (job.manifest cluster) = .ok {}) :
    (reconcileJob cluster (job.manifest cluster) budget).Ends store fun result after =>
      result = .ok {} ∧ after = store := by
  rw [reconcileJob, bind_eq, ends_bind]
  refine (ends_ensureCreated (cluster.plain_jobRef job.name) (cluster.ref_manifest job)).mono
    fun result middle created => ?_
  rcases created with ⟨missing, -⟩ | ⟨-, rfl, rfl⟩
  · rw [missing] at found
    cases found
  cases managed : cluster.isManaged with
  | false => exact ⟨rfl, rfl⟩
  | true =>
      simp only [Bool.not_true, Bool.false_eq_true, if_false, bind_eq]
      rw [ends_bind, ends_attempt]
      refine (ends_correctWithRetry (cluster.plain_jobRef job.name) (cluster.ref_manifest job)
        found).mono fun result after corrected => ?_
      obtain ⟨rfl, rfl⟩ := corrected.settled (settled managed)
      exact ⟨rfl, rfl⟩

/-- Every job comes to what its cluster makes of it, and nothing else is touched;
or nothing can be made of one of them. -/
theorem ends_reconcileJobs {jobs : List Job} (distinct : (cluster.jobRefs jobs).Nodup) :
    (reconcileJobs cluster budget (jobs.map fun job => (job, job.manifest cluster))).Ends store
      fun result after =>
        (∃ corrections, result = .ok corrections ∧
          (∀ job ∈ jobs, ∃ made, cluster.Shapes job (store.find? (cluster.jobRef job.name)) made ∧
            after.Holds (cluster.jobRef job.name) made) ∧
            ∀ ref, ref ∉ cluster.jobRefs jobs → after.find? ref = store.find? ref) ∨
          (∃ fault, result = .error fault) ∧ ∃ job ∈ jobs, ∀ made,
            ¬ cluster.Shapes job (store.find? (cluster.jobRef job.name)) made := by
  induction jobs generalizing store with
  | nil => exact .inl ⟨[], rfl, by simp, fun _ _ => rfl⟩
  | cons job rest ih =>
      obtain ⟨stranger, distinctRest⟩ := List.nodup_cons.mp distinct
      have different : ∀ other ∈ rest, cluster.jobRef other.name ≠ cluster.jobRef job.name :=
        fun other later same => stranger (List.mem_map.mpr ⟨other, later, same⟩)
      rw [List.map_cons, reconcileJobs, bind_eq, ends_bind]
      refine ends_reconcileJob.mono fun result middle treated => ?_
      obtain ⟨correction, made, rfl, shapes, becomes⟩ | ⟨⟨fault, rfl⟩, unshapeable⟩ := treated
      · simp only [bind_eq]
        rw [ends_bind]
        refine (ih distinctRest).mono fun result after further => ?_
        rcases further with
          ⟨corrections, rfl, each, others⟩ | ⟨⟨fault, rfl⟩, other, later, unshapeable⟩
        · refine .inl ⟨_, rfl, fun other member => ?_, fun ref absent => ?_⟩
          · rcases List.mem_cons.mp member with rfl | later
            · obtain ⟨now, found, same⟩ := becomes.held
              exact ⟨made, shapes, now, (others _ stranger).trans found, same⟩
            · rw [← becomes.others _ (different other later)]
              exact each other later
          · rw [Cluster.jobRefs_cons, List.mem_cons, not_or] at absent
            rw [others ref absent.2, becomes.others ref absent.1]
        · refine .inr ⟨⟨_, rfl⟩, other, List.mem_cons_of_mem _ later, ?_⟩
          rw [← becomes.others _ (different other later)]
          exact unshapeable
      · exact .inr ⟨⟨_, rfl⟩, job, List.mem_cons_self, unshapeable⟩

theorem ends_reconcileJobs_settled {jobs : List Job}
    (settled : ∀ job ∈ jobs, ∃ live, store.find? (cluster.jobRef job.name) = some live ∧
      (cluster.isManaged = true → Drift.between live (job.manifest cluster) = .ok {})) :
    (reconcileJobs cluster budget (jobs.map fun job => (job, job.manifest cluster))).Ends store
      fun result after => result = .ok (jobs.map fun job => (job, {})) ∧ after = store := by
  induction jobs with
  | nil => exact ⟨rfl, rfl⟩
  | cons job rest ih =>
      obtain ⟨live, found, undrifted⟩ := settled job List.mem_cons_self
      rw [List.map_cons, reconcileJobs, bind_eq, ends_bind]
      refine (ends_reconcileJob_settled found undrifted).mono fun result middle first => ?_
      obtain ⟨rfl, rfl⟩ := first
      simp only [bind_eq]
      rw [ends_bind]
      refine (ih fun other member => settled other (List.mem_cons_of_mem _ member)).mono
        fun result after further => ?_
      obtain ⟨rfl, rfl⟩ := further
      exact ⟨rfl, rfl⟩

end Program
end CuratorKeeper
