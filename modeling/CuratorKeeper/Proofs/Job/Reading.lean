import CuratorKeeper.Proofs.Job.Shape
import CuratorKeeper.Proofs.Pass.Status

/-!
# Reading any job

A live job need not be of good shape.  But if drift can be told of it at all, it
is told by the three places that are watched, and the corrected job drifts no
more; if a report can be made of it, it is made from three places as well.
Neither depends on the version of the job nor on a report in its status.
-/

namespace CuratorKeeper

open Drift

theorem except_mapError_eq_ok {ε δ α : Type} {change : ε → δ} {result : Except ε α} {value : α} :
    result.mapError change = .ok value ↔ result = .ok value := by
  cases result <;> simp [Except.mapError]

namespace Value

variable {live other : Value} {key : Key}

theorem field?_congr_of_ne (same : other.unversioned = live.unversioned)
    (different : key ≠ "metadata") : other.field? key = live.field? key := by
  have parts := part?_congr_of_ne same different
  cases live with
  | object fields =>
      cases other with
      | object others => exact congrArg Except.ok parts
      | _ =>
          rw [unversioned_object] at same
          cases held : Fields.get? fields "metadata" <;> simp [held, unversioned] at same
  | _ =>
      cases other with
      | object others =>
          rw [unversioned_object] at same
          cases held : Fields.get? others "metadata" <;> simp [held, unversioned] at same
      | _ => rfl

end Value

namespace Drift

variable {live other patched desired : Value} {drift : Drift} {cluster : Cluster} {job : Job}

theorem imageOf_congr (spec : other.field? "spec" = live.field? "spec") :
    imageOf other = imageOf live := by
  have pod : other.itemAt (.name "spec" :: podPath) = live.itemAt (.name "spec" :: podPath) := by
    simp only [Value.itemAt, List.foldlM_cons, Value.item_congr spec]
  rw [imageOf, imageOf, pod]

/-- Drift is told by the name and the specification of a job. -/
theorem between_congr {name : Value} (named : other.itemAt ["metadata", "name"] = .ok name)
    (spec : other.field? "spec" = live.field? "spec") (found : between live desired = .ok drift) :
    between other desired = .ok drift := by
  obtain ⟨_, -, found⟩ := except_bind_eq_ok.mp found
  refine except_bind_eq_ok.mpr ⟨name, named, ?_⟩
  simp only [Value.fieldD_congr spec, ofImage, imageOf_congr spec]
  exact found

/-- Whoever can tell drift can read the places that are watched. -/
theorem readings_of_between (found : between live desired = .ok drift) :
    ∃ name spec image, live.itemAt ["metadata", "name"] = .ok name ∧
      live.fieldD "spec" (.object []) = .ok (.object spec) ∧ imageOf live = .ok image := by
  obtain ⟨name, named, rest⟩ := except_bind_eq_ok.mp found
  obtain ⟨spec, readSpec, rest⟩ := except_bind_eq_ok.mp rest
  obtain ⟨desiredSpec, -, rest⟩ := except_bind_eq_ok.mp rest
  obtain ⟨schedule, findSchedule, rest⟩ := except_bind_eq_ok.mp rest
  obtain ⟨suspend, -, rest⟩ := except_bind_eq_ok.mp rest
  obtain ⟨change, findImage, -⟩ := except_bind_eq_ok.mp rest
  obtain ⟨held, readSchedule, -⟩ := except_bind_eq_ok.mp findSchedule
  obtain ⟨image, readImage, -⟩ := except_bind_eq_ok.mp findImage
  obtain ⟨fields, rfl⟩ := (Value.field_eq_ok.mp readSchedule).1
  exact ⟨name, fields, image, named, readSpec, readImage⟩

theorem between_manifest_eq_ok (found : between live (job.manifest cluster) = .ok drift) :
    drift = driftOf live job := by
  obtain ⟨name, spec, image, named, readSpec, readImage⟩ := readings_of_between found
  rw [← imageOf_eq_ok readImage] at readImage
  have told := between_of_readings named readSpec ⟨spec, rfl⟩ readImage cluster job
  exact Except.ok.inj (found.symm.trans told)

theorem spec_apply (applied : drift.apply live = .ok patched)
    (isObject : ∃ fields, live.part? "spec" = some (.object fields)) :
    ∃ fields, patched.part? "spec" = some (.object fields) := by
  obtain ⟨spec, changed, held, changes, holds, -⟩ := Value.modifyItem_eq_ok applied
  obtain ⟨fields, isFields⟩ := isObject
  obtain rfl := Option.some.inj (held.symm.trans isFields)
  have assigns : ∀ {key : Key} {new : Option Value} {value changed : Value},
      (∃ fields, value = .object fields) → assignIfSome key new value = .ok changed →
        ∃ fields, changed = .object fields := by
    intro key new value changed isObject assigned
    cases new with
    | none =>
        obtain rfl := Except.ok.inj assigned
        exact isObject
    | some new =>
        obtain ⟨fields, -, rfl⟩ := Value.assign_eq_ok.mp assigned
        exact ⟨_, rfl⟩
  obtain ⟨scheduled, assignSchedule, changes⟩ := except_bind_eq_ok.mp changes
  obtain ⟨suspended, assignSuspend, wrote⟩ := except_bind_eq_ok.mp changes
  have isSuspended := assigns (assigns ⟨fields, rfl⟩ assignSchedule) assignSuspend
  cases told : drift.image with
  | none =>
      rw [told] at wrote
      obtain rfl := Except.ok.inj wrote
      obtain ⟨others, rfl⟩ := isSuspended
      exact ⟨others, holds⟩
  | some image =>
      rw [told] at wrote
      obtain ⟨old, -, wrote⟩ := except_bind_eq_ok.mp wrote
      obtain ⟨new, -, assigned⟩ := except_bind_eq_ok.mp wrote
      obtain ⟨fields, -, rfl⟩ := Value.assign_eq_ok.mp assigned
      exact ⟨_, holds⟩

theorem imageOf_apply (applied : drift.apply live = .ok patched) {image : Value}
    (read : imageOf live = .ok image) :
    imageOf patched = .ok ((patched.at? imagePlace).getD .null) := by
  obtain ⟨agrees, -, -, hasImage⟩ := apply_eq_ok applied
  cases told : drift.image with
  | some written =>
      have toImage : imagePlace = containerPlace ++ [.name "image"] := rfl
      have held := hasImage written told
      rw [toImage, Value.at?_append, Option.bind_eq_some_iff] at held
      obtain ⟨container, heldContainer, inContainer⟩ := held
      rw [Value.at?_singleton] at inContainer
      obtain ⟨fields, rfl⟩ := Value.isObject_of_part? inContainer
      exact imageOf_of_first ⟨fields, heldContainer⟩
  | none =>
      -- The image was not touched, nor was anything on the way to it.
      obtain ⟨pod, readPod, rest⟩ := except_bind_eq_ok.mp read
      have untouched : patched.at? (.name "spec" :: podPath) = some pod := by
        have held : live.at? (.name "spec" :: podPath) = some pod := by
          simpa using Value.itemAt_at? readPod []
        rw [← held]
        refine (agrees _ fun place member => ?_).symm
        rcases mem_places.mp member with ⟨-, rfl⟩ | ⟨-, rfl⟩ | ⟨isSome, -⟩
        · decide
        · decide
        · simp [told] at isSome
      have readAgain : imageOf patched = .ok image :=
        except_bind_eq_ok.mpr ⟨pod, Value.itemAt_of_at? (by simp [podPath]) untouched, rest⟩
      rw [readAgain, imageOf_eq_ok readAgain]

theorem between_apply {name : Value} (named : patched.itemAt ["metadata", "name"] = .ok name)
    (found : between live (job.manifest cluster) = .ok drift)
    (applied : drift.apply live = .ok patched) :
    between patched (job.manifest cluster) = .ok {} := by
  have isDrift := between_manifest_eq_ok found
  obtain ⟨_, spec, image, -, readSpec, readImage⟩ := readings_of_between found
  obtain ⟨old, changed, heldSpec, -⟩ := Value.modifyItem_eq_ok applied
  have isSpec := (Value.fieldD_eq_ok.mp readSpec).2
  rw [heldSpec, Option.getD_some] at isSpec
  subst isSpec
  obtain ⟨others, holds⟩ := spec_apply applied ⟨spec, heldSpec⟩
  have readAgain : patched.fieldD "spec" (.object []) = .ok (.object others) :=
    Value.fieldD_eq_ok.mpr ⟨Value.isObject_of_part? holds, by rw [holds, Option.getD_some]⟩
  rw [between_of_readings named readAgain ⟨others, rfl⟩ (imageOf_apply applied readImage),
    driftOf_apply (isDrift ▸ applied)]

end Drift

section Reports

variable {live other object derived updated : Value} {name : String} {report : JobReport}

/-- What makes a report valid: a text for the schedule, and a text or nothing
for the time. -/
theorem JobReport.check_eq_ok {name : String} {schedule time : Value} {suspended : Bool}
    {record : String}
    (checked : (JobReport.check (some (.text name)) (some schedule) (some (.bool suspended))
      (some time)).orFault record = .ok report) :
    ∃ text, schedule = .text text ∧ (time = .null ∧ report = ⟨name, text, suspended, none⟩ ∨
      ∃ last, time = .text last ∧ report = ⟨name, text, suspended, some last⟩) := by
  cases schedule with
  | text text =>
      refine ⟨text, rfl, ?_⟩
      cases time with
      | null => exact .inl ⟨rfl, (Except.ok.inj checked).symm⟩
      | text last => exact .inr ⟨last, rfl, (Except.ok.inj checked).symm⟩
      | _ => cases checked
  | _ => cases time <;> cases checked

/-- The parts of a live job that a report is made from. -/
theorem reportOf_eq_ok_iff :
    reportOf name live = .ok report ↔
      ∃ spec schedule suspend status time, live.fieldD "spec" (.object []) = .ok spec ∧
        spec.fieldD "schedule" "" = .ok schedule ∧ spec.field "suspend" = .ok suspend ∧
        live.field "status" = .ok status ∧
        (status.orIfBlank (.object [])).field "lastScheduleTime" = .ok time ∧
        (JobReport.check (some (.text name)) (some schedule) (some (.bool !suspend.isBlank))
          (some time)).orFault "CuratorStatus" = .ok report := by
  constructor
  · intro made
    obtain ⟨spec, readSpec, made⟩ := except_bind_eq_ok.mp made
    obtain ⟨schedule, readSchedule, made⟩ := except_bind_eq_ok.mp made
    obtain ⟨suspend, readSuspend, made⟩ := except_bind_eq_ok.mp made
    obtain ⟨status, readStatus, made⟩ := except_bind_eq_ok.mp made
    obtain ⟨time, readTime, made⟩ := except_bind_eq_ok.mp made
    exact ⟨spec, schedule, suspend, status, time, except_mapError_eq_ok.mp readSpec,
      except_mapError_eq_ok.mp readSchedule, except_mapError_eq_ok.mp readSuspend,
      except_mapError_eq_ok.mp readStatus, except_mapError_eq_ok.mp readTime, made⟩
  · rintro ⟨spec, schedule, suspend, status, time, readSpec, readSchedule, readSuspend, readStatus,
      readTime, checked⟩
    refine except_bind_eq_ok.mpr ⟨spec, except_mapError_eq_ok.mpr readSpec, ?_⟩
    refine except_bind_eq_ok.mpr ⟨schedule, except_mapError_eq_ok.mpr readSchedule, ?_⟩
    refine except_bind_eq_ok.mpr ⟨suspend, except_mapError_eq_ok.mpr readSuspend, ?_⟩
    refine except_bind_eq_ok.mpr ⟨status, except_mapError_eq_ok.mpr readStatus, ?_⟩
    exact except_bind_eq_ok.mpr ⟨time, except_mapError_eq_ok.mpr readTime, checked⟩

theorem places_of_reportOf (made : reportOf name live = .ok report) :
    report.cronJobs = name ∧ (live.at? schedulePlace).getD "" = .text report.schedules ∧
      report.suspended = !((live.at? suspendPlace).getD .null).isBlank ∧
        (live.at? lastTimePlace).getD .null =
          (report.lastScheduleTime.map Value.text).getD .null := by
  obtain ⟨spec, schedule, suspend, status, time, readSpec, readSchedule, readSuspend, readStatus,
    readTime, checked⟩ := reportOf_eq_ok_iff.mp made
  obtain ⟨text, rfl, outcome⟩ := JobReport.check_eq_ok checked
  have heldTime : (live.at? lastTimePlace).getD .null = time := by
    have stated := (Value.field_eq_ok.mp readStatus).2
    have inStatus := (Value.field_eq_ok.mp readTime).2
    rw [Value.part?_orIfBlank] at inStatus
    rw [lastTimePlace, Value.at?_pair, stated, inStatus]
  rw [schedulePlace, specField_eq_ok readSpec readSchedule, suspendPlace,
    specField_eq_ok readSpec readSuspend, heldTime]
  rcases outcome with ⟨rfl, rfl⟩ | ⟨last, rfl, rfl⟩ <;> exact ⟨rfl, rfl, rfl, rfl⟩

theorem reportOf_eq_ok (made : reportOf name live = .ok report) : report = reportOn name live := by
  obtain ⟨isName, isSchedule, isSuspended, isTime⟩ := places_of_reportOf made
  obtain ⟨cronJobs, schedules, suspended, lastScheduleTime⟩ := report
  simp only at isName isSchedule isSuspended isTime
  subst isName isSuspended
  have schedule : (reportOn cronJobs live).schedules = schedules := by
    cases held : live.at? schedulePlace <;> simp_all [reportOn]
  have time : (reportOn cronJobs live).lastScheduleTime = lastScheduleTime := by
    cases held : live.at? lastTimePlace <;> cases lastScheduleTime <;> simp_all [reportOn]
  rw [← schedule, ← time]
  rfl

/-- What the status of a cluster tells of a job: its name, its schedule, whether
it is suspended, and when it was last scheduled if that is known. -/
def entryOf (name : String) (live : Value) : Value :=
  let stated : Fields :=
    [("cronJobs", .text name), ("schedules", (live.at? schedulePlace).getD ""),
      ("suspended", .bool !((live.at? suspendPlace).getD .null).isBlank)]
  match (live.at? lastTimePlace).getD .null with
  | .null => .object stated
  | time => .object (stated ++ [(Key.name "lastScheduleTime", time)])

theorem statusEntry_eq (made : reportOf name live = .ok report) :
    report.statusEntry = entryOf name live := by
  obtain ⟨rfl, isSchedule, isSuspended, isTime⟩ := places_of_reportOf made
  rw [entryOf, isSchedule, ← isSuspended, isTime, JobReport.statusEntry]
  cases report.lastScheduleTime <;> rfl

theorem reportOf_congr (spec : other.field? "spec" = live.field? "spec")
    (status : ∀ found time, live.field "status" = .ok found →
      (found.orIfBlank (.object [])).field "lastScheduleTime" = .ok time →
        ∃ now, other.field "status" = .ok now ∧
          (now.orIfBlank (.object [])).field "lastScheduleTime" = .ok time)
    (made : reportOf name live = .ok report) : reportOf name other = .ok report := by
  obtain ⟨inner, schedule, suspend, found, time, readSpec, readSchedule, readSuspend, readStatus,
    readTime, checked⟩ := reportOf_eq_ok_iff.mp made
  obtain ⟨now, readNow, readAgain⟩ := status found time readStatus readTime
  refine reportOf_eq_ok_iff.mpr ⟨inner, schedule, suspend, now, time, ?_, readSchedule, readSuspend,
    readNow, readAgain, checked⟩
  rw [Value.fieldD_congr spec, readSpec]

theorem ownerShaped_of_storedStatus {stored : Value} (read : storedStatus object = .ok stored) :
    OwnerShaped object := by
  obtain ⟨status, readStatus, read⟩ := except_bind_eq_ok.mp read
  obtain ⟨curation, readCuration, read⟩ := except_bind_eq_ok.mp read
  have isStatus := (Value.field_eq_ok.mp readStatus).2
  obtain ⟨⟨fields, statusObject⟩, isCuration⟩ := Value.field_eq_ok.mp readCuration
  obtain ⟨⟨inner, curationObject⟩, -⟩ := Value.field_eq_ok.mp read
  have isInner : (object.at? ["status", "curation"]).getD .null = curation := by
    rw [Value.part?_orIfBlank] at isCuration
    rw [Value.at?_pair, isStatus, isCuration]
  have shaped : ∀ {held : Option Value} {value : Value} {fields : Fields},
      held.getD .null = value → value.orIfBlank (.object []) = .object fields →
        (held.getD .null).isBlank = true ∨ ∃ fields, held = some (.object fields) := by
    rintro held value fields rfl isObject
    by_cases blank : (held.getD .null).isBlank = true
    · exact .inl blank
    · rw [Value.orIfBlank, if_neg blank] at isObject
      cases held with
      | none => cases isObject
      | some found => exact .inr ⟨fields, congrArg some isObject⟩
  exact ⟨shaped isStatus statusObject, shaped isInner curationObject⟩

theorem statusEntry_reportOn (made : reportOf name live = .ok report) :
    (reportOn name live).statusEntry = entryOf name live := by
  rw [← reportOf_eq_ok made]
  exact statusEntry_eq made

/-- The report on some jobs of a cluster as they are in a store, an entry for each. -/
def Cluster.reportIn (cluster : Cluster) (jobs : List Job) (store : Store) : Value :=
  .list (jobs.map fun job => entryOf job.name ((store.find? (cluster.jobRef job.name)).getD .null))

end Reports

/-- What a pass reads of a job it reads of the other one as well. -/
structure ReadsAlike (live other : Value) : Prop where
  named : ∀ name, live.itemAt ["metadata", "name"] = .ok name →
    other.itemAt ["metadata", "name"] = .ok name
  spec : other.field? "spec" = live.field? "spec"
  status : ∀ found time, live.field "status" = .ok found →
    (found.orIfBlank (.object [])).field "lastScheduleTime" = .ok time →
      ∃ now, other.field "status" = .ok now ∧
        (now.orIfBlank (.object [])).field "lastScheduleTime" = .ok time

namespace ReadsAlike

variable {live other third : Value}

theorem refl (live : Value) : ReadsAlike live live :=
  ⟨fun _ named => named, rfl, fun found _ readStatus readTime => ⟨found, readStatus, readTime⟩⟩

theorem trans (first : ReadsAlike live other) (second : ReadsAlike other third) :
    ReadsAlike live third := by
  refine ⟨fun name named => second.named name (first.named name named),
    second.spec.trans first.spec, fun found time readStatus readTime => ?_⟩
  obtain ⟨now, readNow, readAgain⟩ := first.status found time readStatus readTime
  exact second.status now time readNow readAgain

/-- The version of a job does not show in what is read of it. -/
theorem of_unversioned (same : other.unversioned = live.unversioned) : ReadsAlike live other := by
  have parts : ∀ {key : Key}, key ≠ "metadata" → other.field? key = live.field? key :=
    fun different => Value.field?_congr_of_ne same different
  refine ⟨fun name named => ?_, parts (by decide), fun found time readStatus readTime =>
    ⟨found, ?_, readTime⟩⟩
  · have held : live.at? ["metadata", "name"] = some name := by
      simpa using Value.itemAt_at? named []
    refine Value.itemAt_of_at? (by simp) ?_
    rw [← held]
    exact Value.agreesOff_of_unversioned_eq same _ (by decide)
  · rw [Value.field, Value.fieldD_congr (parts (by decide))]
    exact readStatus

/-- A report that is put into the status of a job does not show in what is read
of the job. -/
theorem of_withStatus {derived : Value} (written : withStatus live derived = .ok other) :
    ReadsAlike live other := by
  obtain ⟨old, readOld, written⟩ := except_bind_eq_ok.mp written
  obtain ⟨oldCuration, -, written⟩ := except_bind_eq_ok.mp written
  obtain ⟨curation, -, written⟩ := except_bind_eq_ok.mp written
  obtain ⟨status, assignCuration, assignStatus⟩ := except_bind_eq_ok.mp written
  have newStatus := Value.part?_assign_self assignStatus
  have newTime : status.part? "lastScheduleTime" = old.part? "lastScheduleTime" := by
    rw [Value.part?_assign_of_ne assignCuration (by decide), Value.part?_orIfBlank]
  obtain ⟨fields, rfl, rfl⟩ := Value.assign_eq_ok.mp assignStatus
  obtain ⟨inner, -, rfl⟩ := Value.assign_eq_ok.mp assignCuration
  have full : (Value.object (Value.setField "curation" curation inner)).isBlank = false := by
    cases inner with
    | nil => rfl
    | cons field rest =>
        simp only [Value.setField]
        split <;> rfl
  have others : ∀ key : Key, key ≠ "status" →
      (Value.object (Value.setField "status" (.object (Value.setField "curation" curation inner))
        fields)).field? key = (Value.object fields).field? key :=
    fun key different => congrArg Except.ok (Value.get?_setField_of_ne different _ fields)
  refine ⟨fun name named => ?_, others "spec" (by decide), fun found time readStatus readTime =>
    ⟨_, Value.field_eq_ok.mpr ⟨⟨_, rfl⟩, by rw [newStatus, Option.getD_some]⟩, ?_⟩⟩
  · rw [← named]
    simp only [Value.itemAt, List.foldlM_cons, Value.item_congr (others "metadata" (by decide))]
  · obtain rfl := Except.ok.inj (readStatus.symm.trans readOld)
    have held := (Value.field_eq_ok.mp readTime).2
    rw [Value.part?_orIfBlank] at held
    rw [Value.orIfBlank, full, if_neg Bool.false_ne_true]
    exact Value.field_eq_ok.mpr ⟨⟨_, rfl⟩, by rw [newTime, held]⟩

variable {drift : Drift} {desired : Value}

theorem between (alike : ReadsAlike live other)
    (found : Drift.between live desired = .ok drift) : Drift.between other desired = .ok drift := by
  obtain ⟨name, spec, image, named, -, -⟩ := readings_of_between found
  exact between_congr (alike.named name named) alike.spec found

theorem reportOf {name : String} {report : JobReport} (alike : ReadsAlike live other)
    (made : CuratorKeeper.reportOf name live = .ok report) :
    CuratorKeeper.reportOf name other = .ok report :=
  reportOf_congr alike.spec alike.status made

end ReadsAlike
end CuratorKeeper
