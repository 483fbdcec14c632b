import CuratorKeeper.Pass.Status
import CuratorKeeper.Proofs.Job.Desired
import CuratorKeeper.Proofs.Job.Drift

/-!
# Jobs of good shape

A job of good shape has a schedule, a first container and a readable status.
Its drift from a job of a cluster is told by comparing three places, correcting
it succeeds and keeps the shape, and what is reported of it is read from two
places of its specification and one of its status.
-/

namespace CuratorKeeper

open Drift

def containersPath : List Key := podPath ++ [.name "containers"]

def lastTimePlace : List Key := ["status", "lastScheduleTime"]

def containerPlace : List Key := .name "spec" :: containersPath ++ [.position 0]

/-- A live job has a text for its schedule and an object for its first
container, and a status that tells no time, null or a text. -/
structure JobShaped (live : Value) : Prop where
  schedule : ∃ text : String, live.at? schedulePlace = some (.text text)
  container : ∃ fields, live.at? containerPlace = some (.object fields)
  status : ((live.part? "status").getD .null).isBlank = true ∨
    ∃ fields, live.part? "status" = some (.object fields)
  lastTime : ∀ time, live.at? lastTimePlace = some time →
    time = .null ∨ ∃ text : String, time = .text text

/-- What the jobs of a cluster are given of their drift: the schedule and the
image if they differ, and the suspension if both sides state one and they
differ. -/
def driftOf (live : Value) (job : Job) : Drift where
  schedule :=
    if live.at? schedulePlace = some (.text job.schedule) then none else some job.schedule
  suspend :=
    match job.suspend with
    | none => none
    | some wanted =>
      let held := (live.at? suspendPlace).getD .null
      if held.isNull || held.same wanted then none else some wanted
  image := if live.at? imagePlace = some (.text job.image) then none else some job.image

def reportOn (name : String) (live : Value) : JobReport where
  cronJobs := name
  schedules :=
    match live.at? schedulePlace with
    | some (.text schedule) => schedule
    | _ => ""
  suspended := !((live.at? suspendPlace).getD .null).isBlank
  lastScheduleTime :=
    match live.at? lastTimePlace with
    | some (.text time) => some time
    | _ => none

theorem containers_of_first {live : Value}
    (shaped : ∃ fields, live.at? containerPlace = some (.object fields)) :
    ∃ pod containers container, live.at? (.name "spec" :: podPath) = some pod ∧
      live.at? (.name "spec" :: containersPath) = some containers ∧
      pod.part? "containers" = some containers ∧
      containers.part? (.position 0) = some (.object container) ∧
      live.at? imagePlace = (Value.object container).part? "image" := by
  obtain ⟨container, held⟩ := shaped
  have toImage : imagePlace = containerPlace ++ [.name "image"] := rfl
  have image : live.at? imagePlace = (Value.object container).part? "image" := by
    rw [toImage, Value.at?_append, held, Option.bind_some, Value.at?_singleton]
  rw [containerPlace, Value.at?_append, Option.bind_eq_some_iff] at held
  obtain ⟨containers, heldContainers, heldFirst⟩ := held
  rw [Value.at?_singleton] at heldFirst
  have whole := heldContainers
  have split : (Key.name "spec" :: containersPath) =
      (Key.name "spec" :: podPath) ++ [.name "containers"] := rfl
  rw [split, Value.at?_append, Option.bind_eq_some_iff] at heldContainers
  obtain ⟨pod, heldPod, inPod⟩ := heldContainers
  rw [Value.at?_singleton] at inPod
  exact ⟨pod, containers, container, heldPod, whole, inPod, heldFirst, image⟩

theorem imageOf_of_first {live : Value}
    (shaped : ∃ fields, live.at? containerPlace = some (.object fields)) :
    imageOf live = .ok ((live.at? imagePlace).getD .null) := by
  obtain ⟨pod, containers, container, heldPod, -, inPod, heldFirst, image⟩ :=
    containers_of_first shaped
  have readPod : live.itemAt (.name "spec" :: podPath) = .ok pod :=
    Value.itemAt_of_at? (by simp [podPath]) heldPod
  have readContainers : pod.field "containers" = .ok containers :=
    Value.field_eq_ok.mpr ⟨Value.isObject_of_part? inPod, by rw [inPod, Option.getD_some]⟩
  have full : containers.isBlank = false := by
    rw [Bool.eq_false_iff]
    intro blank
    rw [Value.part?_of_isBlank blank] at heldFirst
    cases heldFirst
  have readFirst := Value.first_of_part? heldFirst
  have readImage : (Value.object container).field "image" =
      .ok (((Value.object container).part? "image").getD .null) :=
    Value.field_eq_ok.mpr ⟨⟨container, rfl⟩, rfl⟩
  rw [imageOf, readPod, image]
  simp only [bind, Except.bind, readContainers, full, Bool.false_eq_true, if_false, readFirst,
    readImage]

/-- If the places that are watched can be read, they tell the drift. -/
theorem Drift.between_of_readings {live name : Value}
    (named : live.itemAt ["metadata", "name"] = .ok name)
    {spec : Value} (readSpec : live.fieldD "spec" (.object []) = .ok spec)
    (isObject : ∃ fields, spec = .object fields)
    (image : imageOf live = .ok ((live.at? imagePlace).getD .null)) (cluster : Cluster) (job : Job) :
    Drift.between live (job.manifest cluster) = .ok (driftOf live job) := by
  have wantedSpec : (job.manifest cluster).fieldD "spec" (.object []) = .ok job.cronSpec := rfl
  have reads : ∀ key, spec.field key = .ok ((live.at? [.name "spec", key]).getD .null) := by
    intro key
    have read : spec.field key = .ok ((spec.part? key).getD .null) :=
      Value.field_eq_ok.mpr ⟨isObject, rfl⟩
    rw [read, specField_eq_ok readSpec read]
  have schedule : ofSchedule spec job.cronSpec = .ok (driftOf live job).schedule := by
    have wanted : job.cronSpec.field "schedule" = .ok (.text job.schedule) := rfl
    simp only [ofSchedule, reads, wanted, driftOf, schedulePlace, bind, Except.bind, pure,
      Except.pure, Value.same_text_iff]
    by_cases held : live.at? ["spec", "schedule"] = some (.text job.schedule)
    · simp [held]
    · have differs : (live.at? ["spec", "schedule"]).getD .null ≠ .text job.schedule := by
        cases stated : live.at? ["spec", "schedule"] <;> simp_all
      simp [held, differs]
  have suspend : ofSuspend spec job.cronSpec = .ok (driftOf live job).suspend := by
    have wanted : job.cronSpec.field "suspend" = .ok ((job.suspend.map Value.bool).getD .null) := by
      obtain ⟨logicalName, jobName, space, schedule, image, host, resources, suspend⟩ := job
      cases suspend <;> rfl
    simp only [ofSuspend, reads, wanted, driftOf, suspendPlace, bind, Except.bind, pure,
      Except.pure]
    cases job.suspend with
    | none => simp [Value.isNull]
    | some wanted => simp [Value.isNull]
  have image : ofImage live (job.manifest cluster) = .ok (driftOf live job).image := by
    have wanted : imageOf (job.manifest cluster) = .ok (.text job.image) := rfl
    simp only [ofImage, image, wanted, driftOf, bind, Except.bind, pure, Except.pure,
      Value.same_text_iff]
    cases live.at? imagePlace <;> simp
  rw [Drift.between, named]
  simp only [bind, Except.bind, readSpec, wantedSpec, schedule, suspend, image, pure, Except.pure]

theorem spec_of_first {live : Value}
    (shaped : ∃ fields, live.at? containerPlace = some (.object fields)) :
    ∃ spec, live.part? "spec" = some (.object spec) := by
  obtain ⟨container, held⟩ := shaped
  rw [containerPlace, List.cons_append, Value.at?_cons, Option.bind_eq_some_iff] at held
  obtain ⟨spec, heldSpec, held⟩ := held
  rw [containersPath, podPath, List.append_assoc, List.cons_append, Value.at?_cons,
    Option.bind_eq_some_iff] at held
  obtain ⟨template, heldTemplate, -⟩ := held
  obtain ⟨fields, rfl⟩ := Value.isObject_of_part? heldTemplate
  exact ⟨fields, heldSpec⟩

theorem Drift.between_of_first {live name : Value}
    (named : live.itemAt ["metadata", "name"] = .ok name)
    (shaped : ∃ fields, live.at? containerPlace = some (.object fields)) (cluster : Cluster)
    (job : Job) : Drift.between live (job.manifest cluster) = .ok (driftOf live job) := by
  obtain ⟨spec, held⟩ := spec_of_first shaped
  have readSpec : live.fieldD "spec" (.object []) = .ok (.object spec) :=
    Value.fieldD_eq_ok.mpr ⟨Value.isObject_of_part? held, by rw [held, Option.getD_some]⟩
  exact between_of_readings named readSpec ⟨spec, rfl⟩ (imageOf_of_first shaped) cluster job

/-- Whatever the drift is, a job whose first container is an object can be
corrected. -/
theorem Drift.exists_apply_of_first {live : Value}
    (shaped : ∃ fields, live.at? containerPlace = some (.object fields)) (drift : Drift) :
    ∃ patched, drift.apply live = .ok patched := by
  obtain ⟨-, containers, container, -, held, -, heldFirst, -⟩ := containers_of_first shaped
  obtain ⟨fields, heldSpec⟩ := spec_of_first shaped
  have heldContainers : (Value.object fields).at? containersPath = some containers := by
    rwa [Value.at?_cons, heldSpec, Option.bind_some] at held
  have writes : ∃ changed,
      writeImage drift.image (.object (drift.rescheduled fields)) = .ok changed := by
    cases drift.image with
    | none => exact ⟨_, rfl⟩
    | some image =>
        obtain ⟨changed, changes⟩ : ∃ changed, Value.modifyFirst
            (fun container => container.assign "image" image) containers = .ok changed :=
          Value.modifyFirst_of_part? heldFirst rfl
        exact Value.modifyAt_of_at? (by simp [podPath])
          ((drift.at?_rescheduled fields _).trans heldContainers) changes
  obtain ⟨changed, wrote⟩ := writes
  obtain ⟨whole, rfl⟩ := Value.isObject_of_part? heldSpec
  exact ⟨.object (Value.setField "spec" changed whole), by rw [apply_of_spec heldSpec, wrote]; rfl⟩

namespace JobShaped

variable {live : Value}

theorem spec (shaped : JobShaped live) :
    ∃ spec, live.part? "spec" = some (.object spec) ∧
      ∃ text : String, (Value.object spec).part? "schedule" = some (.text text) := by
  obtain ⟨text, held⟩ := shaped.schedule
  rw [schedulePlace, Value.at?_cons, Option.bind_eq_some_iff] at held
  obtain ⟨spec, heldSpec, heldSchedule⟩ := held
  rw [Value.at?_singleton] at heldSchedule
  obtain ⟨fields, rfl⟩ := Value.isObject_of_part? heldSchedule
  exact ⟨fields, heldSpec, text, heldSchedule⟩

theorem field_schedule (shaped : JobShaped live) :
    ∃ spec, live.fieldD "spec" (.object []) = .ok (.object spec) ∧
      (∀ key, live.at? [.name "spec", key] = (Value.object spec).part? key) ∧
      ∃ text : String, live.at? schedulePlace = some (.text text) ∧
        (Value.object spec).field "schedule" = .ok (.text text) := by
  obtain ⟨spec, held, text, heldText⟩ := shaped.spec
  have parts : ∀ key, live.at? [.name "spec", key] = (Value.object spec).part? key := by
    intro key
    rw [Value.at?_cons, held, Option.bind_some, Value.at?_singleton]
  have isObject := Value.isObject_of_part? held
  refine ⟨spec, ?_, parts, text, (parts "schedule").trans heldText, ?_⟩
  · exact Value.fieldD_eq_ok.mpr ⟨isObject, by rw [held, Option.getD_some]⟩
  · exact Value.field_eq_ok.mpr ⟨⟨spec, rfl⟩, by rw [heldText, Option.getD_some]⟩

/-- Drift from a job of a cluster is what the three places tell. -/
theorem between_eq (shaped : JobShaped live) {name : Value}
    (named : live.itemAt ["metadata", "name"] = .ok name) (cluster : Cluster) (job : Job) :
    Drift.between live (job.manifest cluster) = .ok (driftOf live job) :=
  between_of_first named shaped.container cluster job

theorem reportOf_eq (shaped : JobShaped live) (name : String) :
    reportOf name live = .ok (reportOn name live) := by
  obtain ⟨spec, readSpec, parts, text, heldText, -⟩ := shaped.field_schedule
  have heldSchedule : (Value.object spec).part? "schedule" = some (.text text) :=
    (parts "schedule").symm.trans heldText
  have readSchedule : (Value.object spec).fieldD "schedule" "" = .ok (.text text) :=
    Value.fieldD_eq_ok.mpr ⟨⟨spec, rfl⟩, by rw [heldSchedule, Option.getD_some]⟩
  have readSuspend : (Value.object spec).field "suspend" =
      .ok ((live.at? suspendPlace).getD .null) :=
    Value.field_eq_ok.mpr ⟨⟨spec, rfl⟩, by rw [suspendPlace, parts]⟩
  have isObject : ∃ fields, live = .object fields := by
    obtain ⟨spec, held, -⟩ := shaped.spec
    exact Value.isObject_of_part? held
  have readStatus : live.field "status" = .ok ((live.part? "status").getD .null) :=
    Value.field_eq_ok.mpr ⟨isObject, rfl⟩
  have readTime : (((live.part? "status").getD .null).orIfBlank (.object [])).field
      "lastScheduleTime" = .ok ((live.at? lastTimePlace).getD .null) := by
    refine Value.field_eq_ok.mpr ⟨?_, ?_⟩
    · unfold Value.orIfBlank
      split
      next => exact ⟨[], rfl⟩
      next full =>
        obtain ⟨fields, held⟩ := shaped.status.resolve_left full
        rw [held]
        exact ⟨fields, rfl⟩
    · rw [Value.part?_orIfBlank, lastTimePlace, Value.at?_cons]
      cases live.part? "status" with
      | none => rfl
      | some status => rw [Option.bind_some, Value.at?_singleton, Option.getD_some]
  have checked : JobReport.check (some (.text name)) (some (.text text))
      (some (.bool !((live.at? suspendPlace).getD .null).isBlank))
      (some ((live.at? lastTimePlace).getD .null)) = .valid (reportOn name live) := by
    have reported : ∀ time : Option Value, (∀ value, time = some value →
        value = .null ∨ ∃ text : String, value = .text text) →
        Checked.nullable (Checked.text "lastScheduleTime") (time.getD .null) =
          .valid (match time with
            | some (.text time) => some time
            | _ => none) := by
      intro time readable
      cases time with
      | none => rfl
      | some value =>
          rcases readable value rfl with rfl | ⟨text, rfl⟩
          · rfl
          · rfl
    simp [JobReport.check, Checked.required, Checked.text, Checked.withDefault, Checked.truth,
      Functor.map, Seq.seq, Checked.seq, Checked.map, reported _ shaped.lastTime, reportOn, heldText]
  rw [reportOf]
  simp only [bind, Except.bind, readSpec, readSchedule, readSuspend, readStatus, readTime, checked,
    liftM, monadLift, MonadLift.monadLift, Except.mapError, Checked.orFault]

theorem exists_apply (shaped : JobShaped live) (drift : Drift) :
    ∃ patched, drift.apply live = .ok patched :=
  exists_apply_of_first shaped.container drift

theorem driftOf_congr {other : Value} (same : other.unversioned = live.unversioned) (job : Job) :
    driftOf other job = driftOf live job := by
  have schedule : other.at? schedulePlace = live.at? schedulePlace :=
    Value.at?_congr_of_ne same (by decide) _
  have suspend : other.at? suspendPlace = live.at? suspendPlace :=
    Value.at?_congr_of_ne same (by decide) _
  have image : other.at? imagePlace = live.at? imagePlace :=
    Value.at?_congr_of_ne same (by decide) _
  rw [driftOf, driftOf, schedule, suspend, image]

theorem reportOn_congr {other : Value} (same : other.unversioned = live.unversioned)
    (name : String) : reportOn name other = reportOn name live := by
  have schedule : other.at? schedulePlace = live.at? schedulePlace :=
    Value.at?_congr_of_ne same (by decide) _
  have suspend : other.at? suspendPlace = live.at? suspendPlace :=
    Value.at?_congr_of_ne same (by decide) _
  have lastTime : other.at? lastTimePlace = live.at? lastTimePlace :=
    Value.at?_congr_of_ne same (by decide) _
  rw [reportOn, reportOn, schedule, suspend, lastTime]

theorem congr {other : Value} (shaped : JobShaped live)
    (same : other.unversioned = live.unversioned) : JobShaped other := by
  have sameStatus : other.part? "status" = live.part? "status" :=
    Value.part?_congr_of_ne same (by decide)
  constructor
  · rw [schedulePlace, Value.at?_congr_of_ne same (by decide) _]
    exact shaped.schedule
  · rw [containerPlace, List.cons_append, Value.at?_congr_of_ne same (by decide) _]
    exact shaped.container
  · rw [sameStatus]
    exact shaped.status
  · rw [lastTimePlace, Value.at?_congr_of_ne same (by decide) _]
    exact shaped.lastTime

theorem apply {patched : Value} {drift : Drift} (shaped : JobShaped live)
    (applied : drift.apply live = .ok patched)
    (schedule : ∀ value, drift.schedule = some value → ∃ text : String, value = .text text) :
    JobShaped patched := by
  obtain ⟨agrees, hasSchedule, -, hasImage⟩ := apply_eq_ok applied
  have status : ∀ rest, patched.at? (.name "status" :: rest) = live.at? (.name "status" :: rest) := by
    intro rest
    refine (agrees _ fun place member => ?_).symm
    rcases mem_places.mp member with ⟨-, rfl⟩ | ⟨-, rfl⟩ | ⟨-, rfl⟩
    all_goals exact (apart_cons_cons _ _ _ _).mpr (.inl (by decide))
  have sameStatus : patched.part? "status" = live.part? "status" := by
    rw [← Value.at?_singleton, status, Value.at?_singleton]
  constructor
  · cases told : drift.schedule with
    | some value =>
        obtain ⟨text, rfl⟩ := schedule value told
        exact ⟨text, hasSchedule _ told⟩
    | none =>
        obtain ⟨text, held⟩ := shaped.schedule
        refine ⟨text, (agrees _ fun place member => ?_).symm.trans held⟩
        rcases mem_places.mp member with ⟨isSome, -⟩ | ⟨-, rfl⟩ | ⟨-, rfl⟩
        · simp [told] at isSome
        · simp [Apart, suspendPlace, schedulePlace]
        · simp [Apart, imagePlace, imagePath, podPath, schedulePlace]
  · cases told : drift.image with
    | some value =>
        have toImage : imagePlace = containerPlace ++ [.name "image"] := rfl
        have held := hasImage value told
        rw [toImage, Value.at?_append, Option.bind_eq_some_iff] at held
        obtain ⟨container, heldContainer, inContainer⟩ := held
        rw [Value.at?_singleton] at inContainer
        obtain ⟨fields, rfl⟩ := Value.isObject_of_part? inContainer
        exact ⟨fields, heldContainer⟩
    | none =>
        obtain ⟨fields, held⟩ := shaped.container
        refine ⟨fields, (agrees _ fun place member => ?_).symm.trans held⟩
        rcases mem_places.mp member with ⟨-, rfl⟩ | ⟨-, rfl⟩ | ⟨isSome, -⟩
        · simp [Apart, schedulePlace, containerPlace, containersPath, podPath]
        · simp [Apart, suspendPlace, containerPlace, containersPath, podPath]
        · simp [told] at isSome
  · rw [sameStatus]
    exact shaped.status
  · rw [lastTimePlace, status]
    exact shaped.lastTime

end JobShaped

theorem driftOf_apply {live patched : Value} {job : Job}
    (applied : (driftOf live job).apply live = .ok patched) : driftOf patched job = {} := by
  obtain ⟨schedule, suspend, image⟩ := at?_apply_places applied
  have scheduleMet : patched.at? schedulePlace = some (.text job.schedule) := by
    by_cases held : live.at? schedulePlace = some (.text job.schedule) <;>
      simp [schedule, driftOf, held]
  have imageMet : patched.at? imagePlace = some (.text job.image) := by
    by_cases held : live.at? imagePlace = some (.text job.image) <;> simp [image, driftOf, held]
  have suspendMet : (driftOf patched job).suspend = none := by
    cases wants : job.suspend with
    | none => simp [driftOf, wants]
    | some wanted =>
        have itself : (Value.bool wanted).same (.bool wanted) = true := by
          cases wanted <;> decide
        cases agrees : ((live.at? suspendPlace).getD .null).isNull ||
            ((live.at? suspendPlace).getD .null).same wanted with
        | true =>
            have untold : patched.at? suspendPlace = live.at? suspendPlace := by
              simp only [suspend, driftOf, wants, agrees, if_true, Option.none_or]
            simp only [driftOf, wants, untold, agrees, if_true]
        | false =>
            have told : patched.at? suspendPlace = some (.bool wanted) := by
              simp only [suspend, driftOf, wants, agrees, Bool.false_eq_true, if_false,
                Option.some_or]
            simp only [driftOf, wants, told, Option.getD_some, itself, Bool.or_true, if_true]
  have scheduleDone : (driftOf patched job).schedule = none := by simp [driftOf, scheduleMet]
  have imageDone : (driftOf patched job).image = none := by simp [driftOf, imageMet]
  calc
    driftOf patched job = ⟨(driftOf patched job).schedule, (driftOf patched job).suspend,
        (driftOf patched job).image⟩ := rfl
    _ = {} := by rw [scheduleDone, suspendMet, imageDone]

theorem Drift.eq_of_isChange_false {drift : Drift} (unchanged : drift.isChange = false) :
    drift = {} := by
  obtain ⟨schedule, suspend, image⟩ := drift
  cases schedule <;> cases suspend <;> cases image <;> simp_all [Drift.isChange]

/-- What a cluster makes of a job that is there: it is corrected if it drifted
and the cluster is managed. -/
def Cluster.Makes (cluster : Cluster) (job : Job) (live made : Value) : Prop :=
  if cluster.isManaged = true ∧ (driftOf live job).isChange = true then
    (driftOf live job).apply live = .ok made
  else made = live

theorem at?_of_driftOf_eq {live : Value} {job : Job} (settled : driftOf live job = {}) :
    live.at? schedulePlace = some (.text job.schedule) ∧
      live.at? imagePlace = some (.text job.image) := by
  have schedule : (driftOf live job).schedule = none := by rw [settled]
  have image : (driftOf live job).image = none := by rw [settled]
  constructor
  · by_contra differs
    simp [driftOf, differs] at schedule
  · by_contra differs
    simp [driftOf, differs] at image

/-- What a managed cluster makes of a job differs from it at the three places at
most, and drifts no more. -/
theorem Cluster.Makes.corrected {cluster : Cluster} {job : Job} {live made : Value}
    (makes : cluster.Makes job live made) (managed : cluster.isManaged = true) :
    Value.AgreesOff [schedulePlace, suspendPlace, imagePlace] live made ∧ driftOf made job = {} ∧
      made.at? suspendPlace = (driftOf live job).suspend.or (live.at? suspendPlace) := by
  unfold Cluster.Makes at makes
  split at makes
  next drifted =>
    exact ⟨(apply_eq_ok makes).1.mono (places_subset _), driftOf_apply makes,
      (at?_apply_places makes).2.1⟩
  next settled =>
    subst makes
    have undrifted : driftOf made job = {} :=
      Drift.eq_of_isChange_false (by simpa [managed] using settled)
    refine ⟨.refl _ made, undrifted, ?_⟩
    rw [undrifted, Option.none_or]

/-- What a cluster has for a job when it may be there already. -/
def Cluster.jobFrom (cluster : Cluster) (job : Job) : Option Value → Value
  | none => job.manifest cluster
  | some live =>
    if cluster.isManaged = true ∧ (driftOf live job).isChange = true then
      ((driftOf live job).apply live).toOption.getD live
    else live

theorem makes_jobFrom {live : Value} (shaped : JobShaped live) (cluster : Cluster) (job : Job) :
    cluster.Makes job live (cluster.jobFrom job (some live)) := by
  obtain ⟨patched, applied⟩ := shaped.exists_apply (driftOf live job)
  unfold Cluster.Makes Cluster.jobFrom
  simp only [applied, Except.toOption, Option.getD_some]
  split <;> rfl

theorem at?_suspend_manifest (cluster : Cluster) (job : Job) :
    (job.manifest cluster).at? suspendPlace = job.suspend.map .bool := by
  obtain ⟨logicalName, jobName, space, schedule, image, host, resources, suspend⟩ := job
  cases suspend <;> rfl

theorem driftOf_manifest (cluster : Cluster) (job : Job) :
    driftOf (job.manifest cluster) job = {} := by
  have schedule : (job.manifest cluster).at? schedulePlace = some (.text job.schedule) := rfl
  have image : (job.manifest cluster).at? imagePlace = some (.text job.image) := rfl
  have suspend := at?_suspend_manifest cluster job
  simp only [driftOf, schedule, image, suspend, if_true]
  cases job.suspend with
  | none => rfl
  | some wanted => cases wanted <;> decide

theorem shaped_manifest (cluster : Cluster) (job : Job) : JobShaped (job.manifest cluster) where
  schedule := ⟨job.schedule, rfl⟩
  container := ⟨_, rfl⟩
  status := .inl rfl
  lastTime := nofun

theorem shaped_jobFrom {held : Option Value} (shaped : ∀ live, held = some live → JobShaped live)
    (cluster : Cluster) (job : Job) : JobShaped (cluster.jobFrom job held) := by
  cases held with
  | none => exact shaped_manifest cluster job
  | some live =>
      have makes := makes_jobFrom (shaped live rfl) cluster job
      unfold Cluster.Makes at makes
      split at makes
      next =>
        refine (shaped live rfl).apply makes fun value told => ?_
        simp only [driftOf, Option.ite_none_left_eq_some, Option.some.injEq] at told
        exact ⟨_, told.2.symm⟩
      next =>
        rw [makes]
        exact shaped live rfl

end CuratorKeeper
