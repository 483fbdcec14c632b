import CuratorKeeper.Proofs.Pass.Undisturbed

/-!
# Which drift can be applied

Comparing a job and correcting it go down the same path to the first container,
but not in the same way: who compares takes containers that are blank for none,
and who corrects has to find one.  So whatever can be told of a job that has
containers can be applied and settles the job, and a job without any is told to
need an image that cannot be written.
-/

namespace CuratorKeeper

open Drift

def statedContainers (live : Value) : Option Value := live.at? (.name "spec" :: containersPath)

/-- How looking for the first of blank containers fails. -/
def noContainer : Option Value → Mismatch
  | none => .missingKey "containers"
  | some (.list _) | some (.text _) => .outOfRange
  | some (.object _) => .missingKey "0"
  | some _ => .unsuited

theorem Value.first_of_isBlank {containers : Value} (blank : containers.isBlank = true) :
    containers.first = .error (noContainer (some containers)) := by
  cases containers with
  | list items =>
      obtain rfl : items = [] := by simpa [Value.isBlank] using blank
      rfl
  | text content =>
      obtain rfl : content = "" := by simpa [Value.isBlank] using blank
      rfl
  | object fields =>
      obtain rfl : fields = [] := by simpa [Value.isBlank] using blank
      rfl
  | _ => rfl

namespace Drift

variable {live image : Value} {drift : Drift} {cluster : Cluster} {job : Job}

/-- A job whose image can be read has a pod, and a first container unless its
containers are blank. -/
theorem pod_of_imageOf (read : imageOf live = .ok image) :
    ∃ pod, live.at? (.name "spec" :: podPath) = some (.object pod) ∧
      statedContainers live = Fields.get? pod "containers" ∧
      (((statedContainers live).getD .null).isBlank = false →
        ∃ container, live.at? containerPlace = some (.object container)) := by
  obtain ⟨found, readPod, rest⟩ := except_bind_eq_ok.mp read
  obtain ⟨containers, readContainers, readFirst⟩ := except_bind_eq_ok.mp rest
  obtain ⟨⟨pod, rfl⟩, held⟩ := Value.field_eq_ok.mp readContainers
  have toContainers : statedContainers live = Fields.get? pod "containers" :=
    (Value.itemAt_at? readPod ["containers"]).trans (Value.at?_singleton _ _)
  refine ⟨pod, by simpa using Value.itemAt_at? readPod [], toContainers, fun full => ?_⟩
  have stated : (statedContainers live).getD .null = containers := by
    rw [toContainers]
    exact held
  rw [stated] at full
  simp only [full, Bool.false_eq_true, if_false] at readFirst
  obtain ⟨first, readFirst, readImage⟩ := except_bind_eq_ok.mp readFirst
  obtain ⟨⟨container, rfl⟩, -⟩ := Value.field_eq_ok.mp readImage
  have atZero := Value.part?_zero_of_first readFirst
  have isStated : statedContainers live = some containers := by
    cases states : statedContainers live with
    | some inner => rw [← stated, states, Option.getD_some]
    | none =>
        rw [states, Option.getD_none] at stated
        rw [← stated] at atZero
        cases atZero
  have toFirst : containerPlace = (Key.name "spec" :: containersPath) ++ [.position 0] := rfl
  refine ⟨container, ?_⟩
  rw [toFirst, Value.at?_append, ← statedContainers, isStated, Option.bind_some,
    Value.at?_singleton, atZero]

theorem apply_of_blank {pod : Fields}
    (heldPod : live.at? (.name "spec" :: podPath) = some (.object pod))
    (blank : ((Fields.get? pod "containers").getD .null).isBlank = true)
    (told : drift.image = some image) :
    drift.apply live = .error (noContainer (Fields.get? pod "containers")) := by
  rw [Value.at?_cons, Option.bind_eq_some_iff] at heldPod
  obtain ⟨spec, heldSpec, heldPod⟩ := heldPod
  have isObject : ∃ fields, spec = .object fields := by
    have toTemplate := heldPod
    rw [podPath, Value.at?_cons, Option.bind_eq_some_iff] at toTemplate
    obtain ⟨template, heldTemplate, -⟩ := toTemplate
    exact Value.isObject_of_part? heldTemplate
  obtain ⟨fields, rfl⟩ := isObject
  have fails : Value.modifyItem "containers"
      (Value.modifyFirst fun container => container.assign "image" image) (.object pod) =
        .error (noContainer (Fields.get? pod "containers")) := by
    cases stated : Fields.get? pod "containers" with
    | none =>
        rw [Value.modifyItem, Value.item, stated]
        rfl
    | some containers =>
        rw [stated, Option.getD_some] at blank
        rw [Value.modifyItem, Value.item, stated]
        simp only [bind, Except.bind, Value.modifyFirst, Value.first_of_isBlank blank]
  have rescheduledPod : (Value.object (drift.rescheduled fields)).at? podPath =
      some (.object pod) := by
    simpa using (drift.at?_rescheduled fields []).trans (by simpa using heldPod)
  have wrote : writeImage drift.image (.object (drift.rescheduled fields)) =
      .error (noContainer (Fields.get? pod "containers")) := by
    rw [told, writeImage, Value.modifyAt, List.foldr_append]
    exact Value.modifyAt_eq_error (by simp [podPath]) rescheduledPod fails
  rw [apply_of_spec heldSpec, wrote]
  rfl

theorem named_apply {patched name : Value} (applied : drift.apply live = .ok patched)
    (named : live.itemAt ["metadata", "name"] = .ok name) :
    patched.itemAt ["metadata", "name"] = .ok name := by
  apply Value.itemAt_of_at? (by simp)
  rw [Value.at?_cons, part?_apply_of_ne applied (by decide), ← Value.at?_cons]
  simpa using Value.itemAt_at? named []

/-- Whatever a live job looks like, if its drift from a job of a cluster can be
told and it has containers, the drift can be applied and the job drifts no more.
If its containers are blank, it is told to need the image of the job, and
applying that fails. -/
theorem apply_of_between (found : between live (job.manifest cluster) = .ok drift) :
    if ((statedContainers live).getD .null).isBlank = true then
      drift.image = some (.text job.image) ∧
        drift.apply live = .error (noContainer (statedContainers live))
    else
      ∃ patched, drift.apply live = .ok patched ∧
        between patched (job.manifest cluster) = .ok {} := by
  obtain ⟨name, spec, image, named, -, readImage⟩ := readings_of_between found
  obtain ⟨pod, heldPod, toContainers, first⟩ := pod_of_imageOf readImage
  split
  next blank =>
    have noImage : live.at? imagePlace = none := by
      have toImage : imagePlace =
          (Key.name "spec" :: containersPath) ++ [.position 0, .name "image"] := rfl
      rw [toImage, Value.at?_append, ← statedContainers]
      cases stated : statedContainers live with
      | none => rfl
      | some containers =>
          rw [stated, Option.getD_some] at blank
          rw [Option.bind_some, Value.at?_cons, Value.part?_of_isBlank blank, Option.bind_none]
    have told : drift.image = some (.text job.image) := by
      rw [between_manifest_eq_ok found]
      simp [driftOf, noImage]
    rw [toContainers] at blank ⊢
    exact ⟨told, apply_of_blank heldPod blank told⟩
  next full =>
    obtain ⟨patched, applied⟩ := exists_apply_of_first (first (by simpa using full)) drift
    exact ⟨patched, applied, between_apply (named_apply applied named) found applied⟩

end Drift

/-- The job as it was, whose containers somebody has written anew. -/
def recontained (containers : Value) : Value :=
  Value.setAt containers (.name "spec" :: containersPath) (staleJob.manifest plainCluster)

/-- A container without an image is one to write the image into, and what else
is stated of it does not matter. -/
theorem recontained_apply_of_between :
    let live := recontained (.list [.object [("name", "sidecar")], .null])
    let drift : Drift := { image := some "curator:old" }
    Drift.between live (staleJob.manifest plainCluster) = .ok drift ∧
      ∃ patched, drift.apply live = .ok patched ∧
        Drift.between patched (staleJob.manifest plainCluster) = .ok {} := by
  intro live drift
  have found : Drift.between live (staleJob.manifest plainCluster) = .ok drift := by
    decide +kernel
  have settles := Drift.apply_of_between found
  rw [if_neg (by decide +kernel)] at settles
  exact ⟨found, settles⟩

/-- A job that has lost its containers is told to need an image, and cannot be
given it. -/
theorem emptied_cannot_be_settled :
    let live := recontained (.list [])
    let drift : Drift := { image := some "curator:old" }
    Drift.between live (staleJob.manifest plainCluster) = .ok drift ∧
      drift.apply live = .error .outOfRange ∧
      ¬ ∀ (live : Value) (cluster : Cluster) (job : Job) (drift : Drift),
        Drift.between live (job.manifest cluster) = .ok drift →
          ∃ patched, drift.apply live = .ok patched ∧
            Drift.between patched (job.manifest cluster) = .ok {} := by
  intro live drift
  have found : Drift.between live (staleJob.manifest plainCluster) = .ok drift := by
    decide +kernel
  have fails : drift.apply live = .error .outOfRange := by decide +kernel
  refine ⟨found, fails, fun settles => ?_⟩
  obtain ⟨patched, applied, -⟩ := settles live plainCluster staleJob drift found
  rw [fails] at applied
  cases applied

end CuratorKeeper
