import CuratorKeeper.Proofs.Pass.Repeat
import Mathlib.Data.List.Nodup

/-!
# What a pass is sent to do

A pass wants some resources to have a content, or wants them gone.  A pass that
is cut short has seen to some of them and left the others as they were; the next
one finds the former as it wants them, and has only the latter left to see to.
-/

namespace CuratorKeeper

namespace Store

/-- What is held under a reference, whatever its version. -/
def content? (store : Store) (ref : Ref) : Option Value :=
  (store.find? ref).map Value.unversioned

/-- Two stores hold the same, whatever the versions. -/
def SameContents (store other : Store) : Prop :=
  ∀ ref, other.content? ref = store.content? ref

variable {store after : Store} {ref : Ref} {content : Value}

theorem content?_of_find?_eq (same : after.find? ref = store.find? ref) :
    after.content? ref = store.content? ref := congrArg (Option.map Value.unversioned) same

theorem Holds.content?_eq (holds : store.Holds ref content) :
    store.content? ref = some content.unversioned := by
  obtain ⟨now, found, same⟩ := holds
  rw [content?, found, Option.map_some, same]

theorem exists_of_content?_eq {live : Value} (same : after.content? ref = store.content? ref)
    (found : store.find? ref = some live) :
    ∃ now, after.find? ref = some now ∧ now.unversioned = live.unversioned := by
  rw [content?, content?, found, Option.map_some, Option.map_eq_some_iff] at same
  exact same

end Store

/-- What a pass wants to come of what is held under each reference; none if it
wants that gone.  Where it got its will it wants nothing else. -/
structure Errand where
  Wants : Ref → Option Value → Option Value → Prop
  unique : ∀ {ref held wanted other}, Wants ref held wanted → Wants ref held other → other = wanted
  settled : ∀ {ref held wanted now}, Wants ref held wanted →
    now.map Value.unversioned = wanted.map Value.unversioned → Wants ref now now

namespace Errand

variable {errand : Errand} {store middle after start left : Store} {ref : Ref}

/-- Every resource is as it was or as wanted. -/
def Advances (errand : Errand) (store after : Store) : Prop :=
  ∀ ref, after.find? ref = store.find? ref ∨
    ∃ wanted, errand.Wants ref (store.find? ref) wanted ∧
      after.content? ref = wanted.map Value.unversioned

/-- Every resource of which something is wanted is as wanted, and every other one
is as it was. -/
def Completes (errand : Errand) (store after : Store) : Prop :=
  ∀ ref, (∃ wanted, errand.Wants ref (store.find? ref) wanted ∧
      after.content? ref = wanted.map Value.unversioned) ∨
    (∀ wanted, ¬ errand.Wants ref (store.find? ref) wanted) ∧
      after.find? ref = store.find? ref

theorem Advances.refl (errand : Errand) (store : Store) : errand.Advances store store :=
  fun _ => .inl rfl

theorem Advances.of_unchanged (unchanged : ∀ ref, after.find? ref = store.find? ref) :
    errand.Advances store after := fun ref => .inl (unchanged ref)

theorem Advances.trans (first : errand.Advances store middle)
    (second : errand.Advances middle after) : errand.Advances store after := by
  intro ref
  rcases first ref with unchanged | ⟨wanted, wants, reached⟩
  · rcases second ref with still | further
    · exact .inl (still.trans unchanged)
    · rw [unchanged] at further
      exact .inr further
  · refine .inr ⟨wanted, wants, ?_⟩
    rcases second ref with still | ⟨again, wantsAgain, reachedAgain⟩
    · rw [Store.content?_of_find?_eq still, reached]
    · obtain rfl := errand.unique (errand.settled wants reached) wantsAgain
      exact reachedAgain.trans reached

theorem Advances.find?_of_unwanted (advances : errand.Advances store after)
    (unwanted : ∀ wanted, ¬ errand.Wants ref (store.find? ref) wanted) :
    after.find? ref = store.find? ref := by
  rcases advances ref with untouched | ⟨wanted, wants, -⟩
  · exact untouched
  · exact absurd wants (unwanted wanted)

/-- A pass that completes after others were cut short leaves what it would have
left at the start. -/
theorem Completes.sameContents (first : errand.Completes start left)
    (cut : errand.Advances start store) (last : errand.Completes store after) :
    left.SameContents after := by
  intro ref
  rcases cut ref with untouched | ⟨wanted, wants, reached⟩
  · have again := last ref
    rw [untouched] at again
    rcases first ref with ⟨wanted, wants, reached⟩ | ⟨spared, unchanged⟩
    · rcases again with ⟨other, wantsOther, reachedAgain⟩ | ⟨spared, -⟩
      · rw [reachedAgain, reached, errand.unique wants wantsOther]
      · exact absurd wants (spared wanted)
    · rcases again with ⟨other, wantsOther, -⟩ | ⟨-, unchangedAgain⟩
      · exact absurd wantsOther (spared other)
      · exact Store.content?_of_find?_eq (unchangedAgain.trans unchanged.symm)
  · have stays := errand.settled wants reached
    have reachedFirst : left.content? ref = wanted.map Value.unversioned := by
      rcases first ref with ⟨other, wantsOther, reachedFirst⟩ | ⟨spared, -⟩
      · rw [reachedFirst, errand.unique wants wantsOther]
      · exact absurd wants (spared wanted)
    rcases last ref with ⟨other, wantsOther, reachedLast⟩ | ⟨spared, -⟩
    · rw [reachedLast, errand.unique stays wantsOther, reachedFirst, ← reached]
      rfl
    · exact absurd stays (spared _)

end Errand

namespace Cluster

variable {cluster : Cluster} {jobs : List Job} {files : Fields}
  {credentials : List (String × ByteArray)} {store after : Store} {ref : Ref}
  {held wanted other now : Option Value}

/-- What a pass over an enabled cluster wants: the resources that are written once
are to be there, and the jobs are to be what the cluster makes of them. -/
inductive Wants (cluster : Cluster) (entries : List (Ref × Value)) (jobs : List Job) (ref : Ref)
    (held : Option Value) : Option Value → Prop
  | once {entry : Ref × Value} (member : entry ∈ entries) (same : entry.1 = ref) :
      Wants cluster entries jobs ref held (some (held.getD entry.2))
  | job {job : Job} {made : Value} (member : job ∈ jobs) (same : cluster.jobRef job.name = ref)
      (shapes : cluster.Shapes job held made) : Wants cluster entries jobs ref held (some made)

def building (cluster : Cluster) (files : Fields) (credentials : List (String × ByteArray))
    (jobs : List Job) (names : jobs.map Job.name = cluster.jobNames) : Errand where
  Wants := cluster.Wants (cluster.onceEntries files credentials) jobs
  unique := by
    intro ref held wanted other first second
    have nodup := cluster.nodup_ownedRefs
    rw [← refs_eq_ownedRefs names] at nodup
    obtain ⟨-, distinct, apart⟩ := List.nodup_append.mp nodup
    cases first with
    | once member same =>
        cases second with
        | once memberOther sameOther =>
            rw [List.inj_on_of_nodup_map (cluster.nodup_onceEntries files credentials) memberOther
              member (sameOther.trans same.symm)]
        | job memberOther sameOther shapes =>
            exact absurd (same.trans sameOther.symm) (apart _ (List.mem_map_of_mem member) _
              (cluster.jobRef_mem_jobRefs memberOther))
    | job member same shapes =>
        cases second with
        | once memberOther sameOther =>
            exact absurd (sameOther.trans same.symm) (apart _ (List.mem_map_of_mem memberOther) _
              (cluster.jobRef_mem_jobRefs member))
        | job memberOther sameOther shapesOther =>
            obtain rfl := List.inj_on_of_nodup_map distinct memberOther member
              (sameOther.trans same.symm)
            rw [shapes.unique shapesOther]
  settled := by
    intro ref held wanted now wants reached
    cases wants with
    | once member same =>
        obtain ⟨live, rfl, -⟩ := Option.map_eq_some_iff.mp reached
        exact .once member same
    | job member same shapes =>
        obtain ⟨live, rfl, content⟩ := Option.map_eq_some_iff.mp reached
        exact .job member same (shapes.again content)

/-- What is to be done for a cluster that is not enabled: what it owned is to be
gone if it is disabled and managed. -/
def clearing (cluster : Cluster) : Errand where
  Wants ref _ wanted := cluster.curation.mode = .disabled ∧ cluster.isManaged = true ∧
    ref ∈ cluster.ownedRefs ∧ wanted = none
  unique := by
    rintro ref held wanted other ⟨-, -, -, rfl⟩ ⟨-, -, -, rfl⟩
    rfl
  settled := by
    rintro ref held wanted now ⟨disabled, managed, owned, rfl⟩ reached
    exact ⟨disabled, managed, owned, Option.map_eq_none_iff.mp reached⟩

variable {names : jobs.map Job.name = cluster.jobNames}

theorem owned_of_building
    (wants : (cluster.building files credentials jobs names).Wants ref held wanted) :
    ref ∈ cluster.ownedRefs := by
  rw [← refs_eq_ownedRefs names]
  cases wants with
  | once member same => exact same ▸ List.mem_append_left _ (List.mem_map_of_mem member)
  | job member same shapes =>
      exact same ▸ List.mem_append_right _ (cluster.jobRef_mem_jobRefs member)

theorem Brings.completes
    (brings : cluster.Brings (cluster.onceEntries files credentials) jobs store after) :
    (cluster.building files credentials jobs names).Completes store after := by
  intro ref
  by_cases owned : ref ∈ cluster.ownedRefs
  · left
    rw [← refs_eq_ownedRefs names, List.mem_append] at owned
    rcases owned with isOnce | isJob
    · rw [← cluster.map_onceEntries files credentials] at isOnce
      obtain ⟨entry, member, rfl⟩ := List.mem_map.mp isOnce
      exact ⟨_, .once member rfl, (brings.once entry member).content?_eq⟩
    · obtain ⟨job, member, rfl⟩ := List.mem_map.mp isJob
      obtain ⟨made, shapes, holds⟩ := brings.jobs job member
      exact ⟨_, .job member rfl shapes, holds.content?_eq⟩
  · exact .inr ⟨fun wanted wants => owned (owned_of_building wants), brings.others ref owned⟩

/-- A pass that was cut short leaves what the next one can work with. -/
theorem Workable.advances (workable : cluster.Workable jobs store)
    (advances : (cluster.building files credentials jobs names).Advances store after) :
    cluster.Workable jobs after := by
  refine ⟨fun job member => ?_, fun stranger object found => ?_⟩
  · obtain ⟨made, report, shapes, reports⟩ := workable.jobs job member
    rcases advances (cluster.jobRef job.name) with untouched | ⟨wanted, wants, reached⟩
    · rw [untouched]
      exact ⟨made, report, shapes, reports⟩
    · obtain rfl := Errand.unique _ (Wants.job member rfl shapes) wants
      obtain ⟨now, found, same⟩ := Option.map_eq_some_iff.mp reached
      rw [found]
      exact ⟨now, report, shapes.again same, (ReadsAlike.of_unversioned same).reportOf reports⟩
  · rw [advances.find?_of_unwanted fun wanted wants => stranger (owned_of_building wants)] at found
    exact workable.owner stranger object found

end Cluster
end CuratorKeeper
