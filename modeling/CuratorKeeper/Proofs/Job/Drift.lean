import CuratorKeeper.Job.Drift
import CuratorKeeper.Proofs.Value.Place

/-!
# What drift reports and what its correction touches

Drift is told of by the values that the desired job has at the three watched
places.  Applying it writes these values at the places that it tells of, and
leaves a job as it was everywhere else.
-/

namespace CuratorKeeper

namespace Drift

def schedulePlace : List Key := ["spec", "schedule"]

def suspendPlace : List Key := ["spec", "suspend"]

def imagePath : List Key := podPath ++ [.name "containers", .position 0, .name "image"]

def imagePlace : List Key := .name "spec" :: imagePath

def places (drift : Drift) : List (List Key) :=
  (drift.schedule.map fun _ => schedulePlace).toList ++
    (drift.suspend.map fun _ => suspendPlace).toList ++
      (drift.image.map fun _ => imagePlace).toList

theorem specField_eq_ok {manifest spec found default : Value} {key : Key}
    (readSpec : manifest.fieldD "spec" (.object []) = .ok spec)
    (readField : spec.fieldD key default = .ok found) :
    (manifest.at? ["spec", key]).getD default = found := by
  have stated := (Value.fieldD_eq_ok.mp readSpec).2
  rw [← (Value.fieldD_eq_ok.mp readField).2, ← stated, Value.at?_pair]
  cases manifest.part? "spec" <;> rfl

theorem imageOf_eq_ok {manifest image : Value} (read : imageOf manifest = .ok image) :
    (manifest.at? imagePlace).getD .null = image := by
  obtain ⟨pod, readPod, read⟩ := except_bind_eq_ok.mp read
  obtain ⟨containers, readContainers, read⟩ := except_bind_eq_ok.mp read
  have toPod : manifest.at? imagePlace = pod.at? ["containers", .position 0, "image"] :=
    Value.itemAt_at? readPod ["containers", .position 0, "image"]
  have held := (Value.field_eq_ok.mp readContainers).2
  have toContainers : pod.at? ["containers", .position 0, "image"] =
      containers.at? [.position 0, "image"] := by
    cases present : pod.part? "containers" with
    | none =>
        rw [present, Option.getD_none] at held
        subst held
        rw [Value.at?_cons, present]
        rfl
    | some inner =>
        rw [present, Option.getD_some] at held
        subst held
        rw [Value.at?_cons, present, Option.bind_some]
  rw [toPod, toContainers, Value.at?_cons]
  by_cases blank : containers.isBlank = true
  · simp only [blank, if_true] at read
    cases read
    rw [Value.part?_of_isBlank blank]
    rfl
  · simp only [blank, Bool.false_eq_true, if_false] at read
    obtain ⟨container, readFirst, readImage⟩ := except_bind_eq_ok.mp read
    obtain ⟨⟨fields, rfl⟩, image⟩ := Value.field_eq_ok.mp readImage
    rw [Value.part?_zero_of_first readFirst, Option.bind_some, Value.at?_singleton]
    exact image

/-- Every place that drift tells of has the value that the desired job has
there. -/
theorem between_eq_ok {live desired : Value} {drift : Drift}
    (found : between live desired = .ok drift) :
    (∀ value, drift.schedule = some value → (desired.at? schedulePlace).getD .null = value) ∧
      (∀ value, drift.suspend = some value → (desired.at? suspendPlace).getD .null = value) ∧
      ∀ value, drift.image = some value → (desired.at? imagePlace).getD .null = value := by
  obtain ⟨name, -, found⟩ := except_bind_eq_ok.mp found
  obtain ⟨liveSpec, -, found⟩ := except_bind_eq_ok.mp found
  obtain ⟨desiredSpec, readSpec, found⟩ := except_bind_eq_ok.mp found
  obtain ⟨schedule, findSchedule, found⟩ := except_bind_eq_ok.mp found
  obtain ⟨suspend, findSuspend, found⟩ := except_bind_eq_ok.mp found
  obtain ⟨image, findImage, found⟩ := except_bind_eq_ok.mp found
  cases found
  refine ⟨fun value told => ?_, fun value told => ?_, fun value told => ?_⟩
  · obtain ⟨held, -, findSchedule⟩ := except_bind_eq_ok.mp findSchedule
    obtain ⟨wanted, readWanted, findSchedule⟩ := except_bind_eq_ok.mp findSchedule
    cases findSchedule
    simp only [Option.ite_none_left_eq_some, Option.some.injEq] at told
    rw [← told.2]
    exact specField_eq_ok readSpec readWanted
  · obtain ⟨held, -, findSuspend⟩ := except_bind_eq_ok.mp findSuspend
    obtain ⟨wanted, readWanted, findSuspend⟩ := except_bind_eq_ok.mp findSuspend
    cases findSuspend
    simp only [Option.ite_none_left_eq_some, Option.some.injEq] at told
    rw [← told.2]
    exact specField_eq_ok readSpec readWanted
  · obtain ⟨held, -, findImage⟩ := except_bind_eq_ok.mp findImage
    obtain ⟨wanted, readWanted, findImage⟩ := except_bind_eq_ok.mp findImage
    cases findImage
    simp only [Option.ite_none_left_eq_some, Option.some.injEq] at told
    rw [← told.2]
    exact imageOf_eq_ok readWanted

theorem assignIfSome_eq_ok {key : Key} {new : Option Value} {value changed : Value}
    (assigned : assignIfSome key new value = .ok changed) :
    Value.AgreesOff (new.map fun _ => [key]).toList value changed ∧
      ∀ written, new = some written → changed.part? key = some written := by
  cases new with
  | none =>
      simp only [assignIfSome, Except.ok.injEq] at assigned
      subst assigned
      exact ⟨.refl _ value, by simp⟩
  | some new =>
      refine ⟨Value.agreesOff_assign assigned, fun written given => ?_⟩
      cases given
      exact Value.part?_assign_self assigned

theorem writeImage_eq_ok {image : Option Value} {spec changed : Value}
    (wrote : writeImage image spec = .ok changed) :
    Value.AgreesOff (image.map fun _ => imagePath).toList spec changed ∧
      ∀ written, image = some written → changed.at? imagePath = some written := by
  cases image with
  | none =>
      simp only [writeImage, Except.ok.injEq] at wrote
      subst wrote
      exact ⟨.refl _ spec, by simp⟩
  | some image =>
      obtain ⟨old, new, -, changes, holds, outside⟩ := Value.modifyAt_eq_ok wrote
      obtain ⟨container, other, -, assigned, first, beside⟩ := Value.modifyFirst_eq_ok changes
      refine ⟨?_, fun written given => ?_⟩
      · simpa [imagePath] using outside _ (beside _ (Value.agreesOff_assign assigned))
      · cases given
        have path : imagePath = (podPath ++ [.name "containers"]) ++ [.position 0, .name "image"] :=
          rfl
        rw [path, Value.at?_append, holds, Option.bind_some, Value.at?_cons, first,
          Option.bind_some, Value.at?_singleton]
        exact Value.part?_assign_self assigned

/-- Applying a drift touches the places that it tells of and writes there the
values that it tells. -/
theorem apply_eq_ok {drift : Drift} {live patched : Value}
    (applied : drift.apply live = .ok patched) :
    Value.AgreesOff drift.places live patched ∧
      (∀ value, drift.schedule = some value → patched.at? schedulePlace = some value) ∧
      (∀ value, drift.suspend = some value → patched.at? suspendPlace = some value) ∧
      ∀ value, drift.image = some value → patched.at? imagePlace = some value := by
  obtain ⟨spec, changed, -, changes, holds, outside⟩ := Value.modifyItem_eq_ok applied
  obtain ⟨scheduled, assignSchedule, changes⟩ := except_bind_eq_ok.mp changes
  obtain ⟨suspended, assignSuspend, wrote⟩ := except_bind_eq_ok.mp changes
  obtain ⟨offSchedule, hasSchedule⟩ := assignIfSome_eq_ok assignSchedule
  obtain ⟨offSuspend, hasSuspend⟩ := assignIfSome_eq_ok assignSuspend
  obtain ⟨offImage, hasImage⟩ := writeImage_eq_ok wrote
  refine ⟨?_, fun value told => ?_, fun value told => ?_, fun value told => ?_⟩
  · have touched := outside _ ((offSchedule.trans offSuspend).trans offImage)
    have same : ((drift.schedule.map fun _ => [Key.name "schedule"]).toList ++
        (drift.suspend.map fun _ => [Key.name "suspend"]).toList ++
          (drift.image.map fun _ => imagePath).toList).map (Key.name "spec" :: ·) =
        drift.places := by
      obtain ⟨schedule, suspend, image⟩ := drift
      cases schedule <;> cases suspend <;> cases image <;> rfl
    rwa [same] at touched
  · have later : scheduled.at? ["schedule"] = changed.at? ["schedule"] := by
      apply (offSuspend.trans offImage) _
      intro place member
      rcases List.mem_append.mp member with member | member
      · obtain ⟨new, -, rfl⟩ := Option.map_eq_some_iff.mp (Option.mem_toList.mp member)
        simp [Apart]
      · obtain ⟨new, -, rfl⟩ := Option.map_eq_some_iff.mp (Option.mem_toList.mp member)
        simp [Apart, imagePath, podPath]
    rw [schedulePlace, Value.at?_cons, holds, Option.bind_some, ← later, Value.at?_singleton]
    exact hasSchedule value told
  · have later : suspended.at? ["suspend"] = changed.at? ["suspend"] := by
      apply offImage _
      intro place member
      obtain ⟨new, -, rfl⟩ := Option.map_eq_some_iff.mp (Option.mem_toList.mp member)
      simp [Apart, imagePath, podPath]
    rw [suspendPlace, Value.at?_cons, holds, Option.bind_some, ← later, Value.at?_singleton]
    exact hasSuspend value told
  · rw [imagePlace, Value.at?_cons, holds, Option.bind_some]
    exact hasImage value told

/-- Fields with a key set, if there is a value for it. -/
def setIfSome (key : Key) (new : Option Value) (fields : Fields) : Fields :=
  match new with
  | some value => Value.setField key value fields
  | none => fields

theorem get?_setIfSome_of_ne {key other : Key} (different : other ≠ key) (new : Option Value)
    (fields : Fields) : Fields.get? (setIfSome key new fields) other = fields.get? other := by
  cases new with
  | none => rfl
  | some value => exact Value.get?_setField_of_ne different value fields

theorem assignIfSome_object (key : Key) (new : Option Value) (fields : Fields) :
    assignIfSome key new (.object fields) = .ok (.object (setIfSome key new fields)) := by
  cases new <;> rfl

/-- A specification with the schedule and the suspension that a drift tells of. -/
def rescheduled (drift : Drift) (spec : Fields) : Fields :=
  setIfSome "suspend" drift.suspend (setIfSome "schedule" drift.schedule spec)

theorem template_rescheduled (drift : Drift) (spec : Fields) :
    Fields.get? (drift.rescheduled spec) "jobTemplate" = spec.get? "jobTemplate" := by
  rw [rescheduled, get?_setIfSome_of_ne (by decide), get?_setIfSome_of_ne (by decide)]

/-- The way to the containers of a job is the same after rescheduling it. -/
theorem at?_rescheduled (drift : Drift) (spec : Fields) (rest : List Key) :
    (Value.object (drift.rescheduled spec)).at? (podPath ++ rest) =
      (Value.object spec).at? (podPath ++ rest) := by
  have template : (Value.object (drift.rescheduled spec)).part? "jobTemplate" =
      (Value.object spec).part? "jobTemplate" :=
    drift.template_rescheduled spec
  rw [podPath, List.cons_append, Value.at?_cons, Value.at?_cons, template]

theorem apply_of_spec {live : Value} {spec : Fields}
    (held : live.part? "spec" = some (.object spec)) (drift : Drift) :
    drift.apply live =
      (writeImage drift.image (.object (drift.rescheduled spec))).bind (live.assign "spec") := by
  rw [apply, Value.modifyItem, Value.item_of_part? held]
  simp only [bind, Except.bind, assignIfSome_object]
  rfl

variable {drift : Drift} {live patched desired : Value}

theorem mem_places {place : List Key} :
    place ∈ drift.places ↔
      (drift.schedule.isSome ∧ place = schedulePlace) ∨
        (drift.suspend.isSome ∧ place = suspendPlace) ∨
          (drift.image.isSome ∧ place = imagePlace) := by
  obtain ⟨schedule, suspend, image⟩ := drift
  cases schedule <;> cases suspend <;> cases image <;> simp [places]

theorem places_subset (drift : Drift) : drift.places ⊆ [schedulePlace, suspendPlace, imagePlace] := by
  intro place member
  rcases mem_places.mp member with ⟨-, rfl⟩ | ⟨-, rfl⟩ | ⟨-, rfl⟩ <;> simp

theorem part?_apply_of_ne (applied : drift.apply live = .ok patched) {key : Key}
    (different : key ≠ "spec") : patched.part? key = live.part? key := by
  rw [← Value.at?_singleton, ← Value.at?_singleton]
  refine ((apply_eq_ok applied).1 [key] fun place member => ?_).symm
  rcases mem_places.mp member with ⟨-, rfl⟩ | ⟨-, rfl⟩ | ⟨-, rfl⟩
  all_goals
    refine (apart_cons_cons _ _ _ _).mpr (.inl ?_)
    exact different.symm

theorem at?_apply (found : between live desired = .ok drift)
    (applied : drift.apply live = .ok patched) {place : List Key} (member : place ∈ drift.places) :
    patched.at? place = some ((desired.at? place).getD .null) := by
  obtain ⟨ofSchedule, ofSuspend, ofImage⟩ := between_eq_ok found
  obtain ⟨-, hasSchedule, hasSuspend, hasImage⟩ := apply_eq_ok applied
  rcases mem_places.mp member with ⟨told, rfl⟩ | ⟨told, rfl⟩ | ⟨told, rfl⟩
  · obtain ⟨value, told⟩ := Option.isSome_iff_exists.mp told
    rw [hasSchedule value told, ofSchedule value told]
  · obtain ⟨value, told⟩ := Option.isSome_iff_exists.mp told
    rw [hasSuspend value told, ofSuspend value told]
  · obtain ⟨value, told⟩ := Option.isSome_iff_exists.mp told
    rw [hasImage value told, ofImage value told]

theorem at?_apply_of_untold (applied : drift.apply live = .ok patched) {place : List Key}
    (watched : place ∈ [schedulePlace, suspendPlace, imagePlace]) (untold : place ∉ drift.places) :
    patched.at? place = live.at? place := by
  have apart : ∀ first ∈ [schedulePlace, suspendPlace, imagePlace],
      ∀ second ∈ [schedulePlace, suspendPlace, imagePlace],
        first ≠ second → Apart first second := by decide
  refine ((apply_eq_ok applied).1 place fun other member => ?_).symm
  exact apart other (places_subset drift member) place watched fun same => untold (same ▸ member)

/-- A corrected job has at the three places what it was told or what it had. -/
theorem at?_apply_places (applied : drift.apply live = .ok patched) :
    patched.at? schedulePlace = drift.schedule.or (live.at? schedulePlace) ∧
      patched.at? suspendPlace = drift.suspend.or (live.at? suspendPlace) ∧
      patched.at? imagePlace = drift.image.or (live.at? imagePlace) := by
  obtain ⟨-, hasSchedule, hasSuspend, hasImage⟩ := apply_eq_ok applied
  refine ⟨?_, ?_, ?_⟩
  · cases told : drift.schedule with
    | some value => exact hasSchedule value told
    | none =>
        refine at?_apply_of_untold applied (by simp) fun member => ?_
        rcases mem_places.mp member with ⟨isSome, -⟩ | ⟨-, same⟩ | ⟨-, same⟩
        · simp [told] at isSome
        · exact absurd same (by decide)
        · exact absurd same (by decide)
  · cases told : drift.suspend with
    | some value => exact hasSuspend value told
    | none =>
        refine at?_apply_of_untold applied (by simp) fun member => ?_
        rcases mem_places.mp member with ⟨-, same⟩ | ⟨isSome, -⟩ | ⟨-, same⟩
        · exact absurd same (by decide)
        · simp [told] at isSome
        · exact absurd same (by decide)
  · cases told : drift.image with
    | some value => exact hasImage value told
    | none =>
        refine at?_apply_of_untold applied (by simp) fun member => ?_
        rcases mem_places.mp member with ⟨-, same⟩ | ⟨-, same⟩ | ⟨isSome, -⟩
        · exact absurd same (by decide)
        · exact absurd same (by decide)
        · simp [told] at isSome

end Drift
end CuratorKeeper
