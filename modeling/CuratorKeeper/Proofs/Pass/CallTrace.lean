import CuratorKeeper.Proofs.Pass.Course
import CuratorKeeper.Proofs.Pass.Undisturbed

/-!
# The trace of a pass

Nothing is known of what answers the calls of a pass.  The calls are still those of
a beginning of the course of the cluster, and so there are only so many of them.
-/

namespace CuratorKeeper

open Grammar

namespace Grammar

section Lengths

variable {cluster : Cluster} {loop : Loop} {ref : Ref} {left : Nat}

theorem length_prod_le {part : Ref → Language Step} {bound : Nat}
    (each : ∀ ref, ∀ word ∈ part ref, word.length ≤ bound) (refs : List Ref) :
    ∀ word ∈ (refs.map part).prod, word.length ≤ refs.length * bound := by
  induction refs with
  | nil =>
      intro word member
      rw [List.map_nil, List.prod_nil, Language.mem_one] at member
      simp [member]
  | cons ref rest ih =>
      intro word member
      rw [List.map_cons, List.prod_cons] at member
      obtain ⟨first, inFirst, others, inOthers, rfl⟩ := member
      have short := each ref first inFirst
      have shortRest := ih others inOthers
      rw [List.length_append, List.length_cons, Nat.succ_mul]
      omega

theorem length_creation : ∀ word ∈ creation cluster ref, word.length ≤ 1 := by
  rintro word ⟨resource, answer, -, rfl⟩
  exact Nat.le_refl 1

theorem length_reading {site : Site} : ∀ word ∈ reading site ref, word.length ≤ 1 := by
  rintro word ⟨answer, rfl⟩
  exact Nat.le_refl 1

theorem length_attempt : ∀ word ∈ attempt loop ref left, word.length ≤ 2 := by
  rintro word (⟨answer, rfl⟩ | ⟨object, changed, answer, -, rfl⟩)
  · exact Nat.le_succ 1
  · exact Nat.le_refl 2

theorem length_tries : ∀ word ∈ tries loop ref left, word.length ≤ 2 * (left + 1) := by
  induction left with
  | zero => exact length_attempt
  | succ left ih =>
      rintro word (settled | ⟨stale, ⟨inAttempt, -⟩, others, inTries, rfl⟩)
      · have short := length_attempt word settled
        omega
      · have short := length_attempt stale inAttempt
        have shortRest := ih others inTries
        rw [List.length_append]
        omega

theorem length_treatment :
    ∀ word ∈ treatment cluster left ref,
      word.length ≤ 1 + if cluster.isManaged then 2 * (left + 1) else 0 := by
  rintro word ⟨first, created, others, corrected, rfl⟩
  have one := length_creation first created
  rw [List.length_append]
  split at corrected
  next managed =>
    have short := length_tries others corrected
    simp only [managed, if_true]
    omega
  next unmanaged =>
    obtain rfl : others = [] := corrected
    exact one.trans (Nat.le_add_right _ _)

theorem length_building :
    ∀ word ∈ building cluster left, word.length ≤
      3 + cluster.jobNames.length * (1 + if cluster.isManaged then 2 * (left + 1) else 0) +
        cluster.jobNames.length + 2 * (left + 1) := by
  rintro word ⟨once, inOnce, _,
    ⟨jobs, inJobs, _, ⟨reports, inReports, status, inStatus, rfl⟩, rfl⟩, rfl⟩
  have created := length_prod_le (fun ref => length_creation) cluster.onceRefs once inOnce
  have treated := length_prod_le (fun ref => length_treatment) cluster.namedJobs jobs inJobs
  have reported := length_prod_le (fun ref => length_reading) cluster.namedJobs reports inReports
  have written := length_tries status inStatus
  have three : cluster.onceRefs.length = 3 := rfl
  have named : cluster.namedJobs.length = cluster.jobNames.length := List.length_map _
  rw [three] at created
  rw [named] at treated reported
  simp only [List.length_append]
  omega

end Lengths

end Grammar

/-- Answers that let the jobs be created and read, but refuse all updates for a conflict. -/
def contrary (world : World) : Request → Except Fault Value × World
  | .create resource => (.ok resource, world)
  | .get _ => (.ok (staleJob.manifest plainCluster), world)
  | .update _ _ => (.error (.store ⟨.conflict, "outdated", .null, .null, 409⟩), world)
  | .delete _ => (.ok .null, world)

end CuratorKeeper
