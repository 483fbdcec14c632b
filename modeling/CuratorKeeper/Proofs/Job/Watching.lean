import CuratorKeeper.Proofs.Pass.Undisturbed
import CuratorKeeper.Proofs.Value.Mask
import CuratorKeeper.Proofs.Value.Sameness

/-!
# The places that are watched

Comparing jobs sees three places of them and nothing else, and correcting a job
touches those of the three places that it is told of and nothing else.  Drift is
a function of what stands at these places on both sides.  A correction changes
nothing when it is made again, and two corrections of different places can be
made in either order.
-/

namespace CuratorKeeper

namespace Drift

/-- What stands at a place, where a place that is not there counts as null. -/
def reading (place : List Key) (manifest : Value) : Value := (manifest.at? place).getD .null

/-- What is told of a place: the desired value, unless the live one is the same. -/
def told (live desired : Value) : Option Value :=
  if live.same desired then none else some desired

/-- What is told of the suspension, which is compared only if both sides state
one. -/
def toldIfStated (live desired : Value) : Option Value :=
  if live.isNull || desired.isNull then none else told live desired

def watched : List (List Key) := [schedulePlace, suspendPlace, imagePlace]

variable {live other desired patched : Value} {drift further : Drift}

/-- Whenever drift can be told, it is told by the three places on both sides. -/
theorem eq_told_of_between (found : between live desired = .ok drift) :
    drift =
      { schedule := told (reading schedulePlace live) (reading schedulePlace desired)
        suspend := toldIfStated (reading suspendPlace live) (reading suspendPlace desired)
        image := told (reading imagePlace live) (reading imagePlace desired) } := by
  obtain ⟨name, -, found⟩ := except_bind_eq_ok.mp found
  obtain ⟨liveSpec, readLive, found⟩ := except_bind_eq_ok.mp found
  obtain ⟨desiredSpec, readDesired, found⟩ := except_bind_eq_ok.mp found
  obtain ⟨schedule, findSchedule, found⟩ := except_bind_eq_ok.mp found
  obtain ⟨suspend, findSuspend, found⟩ := except_bind_eq_ok.mp found
  obtain ⟨image, findImage, found⟩ := except_bind_eq_ok.mp found
  obtain rfl := Except.ok.inj found
  have isSchedule : schedule = told (reading schedulePlace live) (reading schedulePlace desired) := by
    obtain ⟨held, readHeld, findSchedule⟩ := except_bind_eq_ok.mp findSchedule
    obtain ⟨wanted, readWanted, findSchedule⟩ := except_bind_eq_ok.mp findSchedule
    rw [reading, schedulePlace, specField_eq_ok readLive readHeld, reading,
      specField_eq_ok readDesired readWanted]
    exact (Except.ok.inj findSchedule).symm
  have isSuspend : suspend =
      toldIfStated (reading suspendPlace live) (reading suspendPlace desired) := by
    obtain ⟨held, readHeld, findSuspend⟩ := except_bind_eq_ok.mp findSuspend
    obtain ⟨wanted, readWanted, findSuspend⟩ := except_bind_eq_ok.mp findSuspend
    rw [reading, suspendPlace, specField_eq_ok readLive readHeld, reading,
      specField_eq_ok readDesired readWanted]
    rw [← Except.ok.inj findSuspend, toldIfStated, told]
    cases held.isNull <;> cases wanted.isNull <;> cases held.same wanted <;> rfl
  have isImage : image = told (reading imagePlace live) (reading imagePlace desired) := by
    obtain ⟨held, readHeld, findImage⟩ := except_bind_eq_ok.mp findImage
    obtain ⟨wanted, readWanted, findImage⟩ := except_bind_eq_ok.mp findImage
    rw [reading, imageOf_eq_ok readHeld, reading, imageOf_eq_ok readWanted]
    exact (Except.ok.inj findImage).symm
  rw [isSchedule, isSuspend, isImage]

theorem between_of_alike (found : between live desired = .ok drift)
    (found' : between other desired = .ok further)
    (alike : ∀ place ∈ watched, (reading place live).Alike (reading place other)) :
    drift = further := by
  have schedule := alike schedulePlace (by simp [watched])
  have suspend := alike suspendPlace (by simp [watched])
  have image := alike imagePlace (by simp [watched])
  rw [eq_told_of_between found, eq_told_of_between found', told, told, toldIfStated, told, told,
    toldIfStated, told, told, schedule.same_eq, suspend.same_eq, suspend.isNull_eq, image.same_eq]

theorem suspend_of_between (found : between live desired = .ok drift) {value : Value}
    (tells : drift.suspend = some value) :
    (reading suspendPlace live).isNull = false ∧ (reading suspendPlace desired).isNull = false ∧
      (reading suspendPlace live).same (reading suspendPlace desired) = false := by
  rw [eq_told_of_between found] at tells
  simp only [toldIfStated, told, Option.ite_none_left_eq_some, Bool.or_eq_true, not_or,
    Bool.not_eq_true] at tells
  exact ⟨tells.1.1, tells.1.2, tells.2.1⟩

theorem assignIfSome_of_held {key : Key} {new : Option Value} {value : Value}
    (isObject : ∀ written, new = some written → ∃ fields, value = .object fields)
    (held : ∀ written, new = some written → value.part? key = some written) :
    assignIfSome key new value = .ok value := by
  cases new with
  | none => rfl
  | some written =>
      obtain ⟨fields, rfl⟩ := isObject written rfl
      exact congrArg (Except.ok ∘ Value.object) (Value.setField_of_get? (held written rfl))

theorem settles_writeImage (image : Option Value) : Value.Settles (writeImage image) := by
  cases image with
  | none => exact fun _ _ wrote => by rw [← Except.ok.inj wrote]; rfl
  | some image => exact ((Value.Settles.assign "image" image).modifyFirst).modifyAt _

theorem apply_apply (applied : drift.apply live = .ok patched) :
    drift.apply patched = .ok patched := by
  obtain ⟨-, hasSchedule, hasSuspend, -⟩ := apply_eq_ok applied
  obtain ⟨spec, changed, -, changes, holds, -⟩ := Value.modifyItem_eq_ok applied
  obtain ⟨scheduled, -, changes⟩ := except_bind_eq_ok.mp changes
  obtain ⟨suspended, -, wrote⟩ := except_bind_eq_ok.mp changes
  have inSpec : ∀ {key : String} {value : Value},
      patched.at? [.name "spec", .name key] = some value → changed.part? key = some value := by
    intro key value held
    rwa [Value.at?_cons, holds, Option.bind_some, Value.at?_singleton] at held
  have keepsSchedule : assignIfSome "schedule" drift.schedule changed = .ok changed :=
    assignIfSome_of_held
      (fun value tells => Value.isObject_of_part? (inSpec (hasSchedule value tells)))
      fun value tells => inSpec (hasSchedule value tells)
  have keepsSuspend : assignIfSome "suspend" drift.suspend changed = .ok changed :=
    assignIfSome_of_held
      (fun value tells => Value.isObject_of_part? (inSpec (hasSuspend value tells)))
      fun value tells => inSpec (hasSuspend value tells)
  have keepsImage := settles_writeImage drift.image suspended changed wrote
  refine Value.modifyItem_of_kept (Value.item_of_part? holds) ?_
  exact except_bind_eq_ok.mpr ⟨changed, keepsSchedule,
    except_bind_eq_ok.mpr ⟨changed, keepsSuspend, keepsImage⟩⟩

/-- Two drifts tell of different places. -/
def Disjoint (drift further : Drift) : Prop :=
  (drift.schedule = none ∨ further.schedule = none) ∧
    (drift.suspend = none ∨ further.suspend = none) ∧
      (drift.image = none ∨ further.image = none)

theorem Disjoint.symm (apart : drift.Disjoint further) : further.Disjoint drift :=
  ⟨apart.1.symm, apart.2.1.symm, apart.2.2.symm⟩

theorem apply_empty {spec : Value} (held : live.part? "spec" = some spec) :
    ({} : Drift).apply live = .ok live :=
  Value.modifyItem_of_kept (Value.item_of_part? held) rfl

theorem eq_none_of_assignIfSome {key : Key} {new : Option Value} {value changed : Value}
    (assigned : assignIfSome key new value = .ok changed)
    (noObject : ¬ ∃ fields, value = .object fields) : new = none ∧ changed = value := by
  cases new with
  | none => exact ⟨rfl, (Except.ok.inj assigned).symm⟩
  | some written =>
      obtain ⟨fields, isFields, -⟩ := Value.assign_eq_ok.mp assigned
      exact absurd ⟨fields, isFields⟩ noObject

theorem spec_of_apply (applied : drift.apply live = .ok patched) :
    drift = {} ∨ ∃ whole spec, live = .object whole ∧
      Fields.get? whole "spec" = some (.object spec) := by
  obtain ⟨held, changed, isSpec, changes, -, -⟩ := Value.modifyItem_eq_ok applied
  obtain ⟨scheduled, assignSchedule, changes⟩ := except_bind_eq_ok.mp changes
  obtain ⟨suspended, assignSuspend, wrote⟩ := except_bind_eq_ok.mp changes
  obtain ⟨whole, rfl⟩ := Value.isObject_of_part? isSpec
  by_cases isObject : ∃ spec, held = .object spec
  · obtain ⟨spec, rfl⟩ := isObject
    exact .inr ⟨whole, spec, rfl, isSpec⟩
  · left
    obtain ⟨noSchedule, rfl⟩ := eq_none_of_assignIfSome assignSchedule isObject
    obtain ⟨noSuspend, rfl⟩ := eq_none_of_assignIfSome assignSuspend isObject
    have noImage : drift.image = none := by
      cases tells : drift.image with
      | none => rfl
      | some value =>
          rw [tells] at wrote
          obtain ⟨inner, read, -⟩ := except_bind_eq_ok.mp wrote
          exact absurd (Value.item_eq_ok.mp read).1 isObject
    obtain ⟨schedule, suspend, image⟩ := drift
    simp only at noSchedule noSuspend noImage
    rw [noSchedule, noSuspend, noImage]

/-- The template that a specification gets with a new image, if there is one. -/
def Retemplates (image : Option Value) (spec : Fields) (template : Option Value) : Prop :=
  match image with
  | none => template = none
  | some image => ∃ old new, Fields.get? spec "jobTemplate" = some old ∧ template = some new ∧
      Value.modifyAt [.name "spec", .name "template", .name "spec", .name "containers"]
        (Value.modifyFirst fun container => container.assign "image" image) old = .ok new

/-- A specification with a schedule, a suspension and a template written. -/
def respecified (drift : Drift) (template : Option Value) (spec : Fields) : Fields :=
  setIfSome "jobTemplate" template (drift.rescheduled spec)

/-- A drift writes at most three fields of the specification. -/
theorem apply_eq_ok_iff {whole spec : Fields}
    (held : Fields.get? whole "spec" = some (.object spec)) :
    drift.apply (.object whole) = .ok patched ↔
      ∃ template, Retemplates drift.image spec template ∧
        patched = .object (Value.setField "spec" (.object (drift.respecified template spec)) whole) := by
  have holds : (Value.object whole).part? "spec" = some (.object spec) := held
  have template := drift.template_rescheduled spec
  rw [apply_of_spec holds]
  refine except_bind_eq_ok.trans ?_
  cases tells : drift.image with
  | none =>
      simp only [writeImage, Value.assign, Except.ok.injEq, Retemplates, respecified,
        exists_eq_left, exists_eq_left', setIfSome]
      exact eq_comm
  | some image =>
      constructor
      · rintro ⟨changed, wrote, assigned⟩
        obtain ⟨old, read, wrote⟩ := except_bind_eq_ok.mp wrote
        obtain ⟨new, changes, written⟩ := except_bind_eq_ok.mp wrote
        have stated := template.symm.trans (Value.item_eq_ok.mp read).2
        refine ⟨some new, ⟨old, new, stated, rfl, changes⟩, ?_⟩
        rw [← Except.ok.inj assigned, ← Except.ok.inj written]
        rfl
      · rintro ⟨-, ⟨old, new, stated, rfl, changes⟩, rfl⟩
        have read := Value.item_eq_ok.mpr ⟨⟨_, rfl⟩, template.trans stated⟩
        exact ⟨_, except_bind_eq_ok.mpr ⟨old, read, except_bind_eq_ok.mpr ⟨new, changes, rfl⟩⟩, rfl⟩

theorem setField_rescheduled {spec : Fields} {key : Key} {held : Value} (value : Value)
    (present : Fields.get? spec key = some held) (other : key ≠ "schedule")
    (another : key ≠ "suspend") :
    Value.setField key value (drift.rescheduled spec) =
      drift.rescheduled (Value.setField key value spec) := by
  have beside : ∀ {name : Key} (new : Option Value) {fields : Fields}, name ≠ key →
      Fields.get? fields key = some held →
        Value.setField key value (setIfSome name new fields) =
          setIfSome name new (Value.setField key value fields) := by
    intro name new fields different present
    cases new with
    | none => rfl
    | some new => exact Value.setField_comm different present value new
  have still : Fields.get? (setIfSome "schedule" drift.schedule spec) key = some held := by
    rw [get?_setIfSome_of_ne other, present]
  rw [rescheduled, beside _ another.symm still, beside _ other.symm present, rescheduled]

theorem rescheduled_perm (apart : drift.Disjoint further) (spec : Fields) :
    (further.rescheduled (drift.rescheduled spec)).Perm
      (drift.rescheduled (further.rescheduled spec)) := by
  obtain ⟨schedule, suspend, image⟩ := drift
  obtain ⟨schedule', suspend', image'⟩ := further
  obtain ⟨schedules, suspends, -⟩ := apart
  simp only at schedules suspends
  have swapped := fun first second fields =>
    Value.setField_perm (show Key.name "schedule" ≠ "suspend" by decide) first second fields
  rcases schedules with rfl | rfl <;> rcases suspends with rfl | rfl
  · exact .refl _
  · cases schedule' with
    | none => exact .refl _
    | some first =>
        cases suspend with
        | none => exact .refl _
        | some second => exact swapped first second spec
  · cases schedule with
    | none => exact .refl _
    | some first =>
        cases suspend' with
        | none => exact .refl _
        | some second => exact (swapped first second spec).symm
  · exact .refl _

/-- A drift that tells no image leaves the template to another one. -/
theorem respecified_perm {template template' : Option Value} {spec : Fields}
    (apart : drift.Disjoint further) (none : drift.image = none)
    (ours : Retemplates drift.image spec template)
    (theirs : Retemplates further.image spec template') :
    Retemplates drift.image (further.respecified template' spec) template ∧
      Retemplates further.image (drift.respecified template spec) template' ∧
        (further.respecified template' (drift.respecified template spec)).Perm
          (drift.respecified template (further.respecified template' spec)) := by
  rw [none] at ours
  obtain rfl : template = .none := ours
  have same := drift.template_rescheduled spec
  refine ⟨by rw [none]; rfl, ?_, ?_⟩
  · cases tells : further.image with
    | none => rwa [tells] at theirs
    | some image =>
        rw [tells] at theirs
        obtain ⟨old, new, stated, rfl, changes⟩ := theirs
        exact ⟨old, new, same.trans stated, rfl, changes⟩
  · cases template' with
    | none => exact rescheduled_perm apart spec
    | some new =>
        have stated : ∃ old, Fields.get? spec "jobTemplate" = some old := by
          cases tells : further.image with
          | none =>
              rw [tells] at theirs
              cases theirs
          | some image =>
              rw [tells] at theirs
              obtain ⟨old, _, stated, -⟩ := theirs
              exact ⟨old, stated⟩
        obtain ⟨old, stated⟩ := stated
        have first : setIfSome "jobTemplate" (some new)
            (further.rescheduled (drift.rescheduled spec)) =
              further.rescheduled (drift.rescheduled (Value.setField "jobTemplate" new spec)) := by
          rw [setIfSome, setField_rescheduled new (same.trans stated) (by decide) (by decide),
            setField_rescheduled new stated (by decide) (by decide)]
        have second : drift.rescheduled (setIfSome "jobTemplate" (some new)
            (further.rescheduled spec)) =
              drift.rescheduled (further.rescheduled (Value.setField "jobTemplate" new spec)) := by
          rw [setIfSome, setField_rescheduled new stated (by decide) (by decide)]
        change (setIfSome "jobTemplate" (some new)
          (further.rescheduled (drift.rescheduled spec))).Perm
            (drift.rescheduled (setIfSome "jobTemplate" (some new) (further.rescheduled spec)))
        rw [first, second]
        exact rescheduled_perm apart _

/-- Drifts that tell of different places can be applied in either order, and what
comes of it differs in the order of the fields of the specification at most. -/
theorem apply_comm {patched' : Value} (apart : drift.Disjoint further)
    (applied : drift.apply live = .ok patched) (applied' : further.apply live = .ok patched') :
    ∃ first second, further.apply patched = .ok first ∧ drift.apply patched' = .ok second ∧
      first.Reordered second := by
  obtain ⟨held, _, isHeld, -, holds, -⟩ := Value.modifyItem_eq_ok applied
  obtain ⟨_, _, -, -, holds', -⟩ := Value.modifyItem_eq_ok applied'
  have unwritten : ∀ {value : Value}, ({} : Drift).apply live = .ok value → value = live :=
    fun unwritten => Except.ok.inj (unwritten.symm.trans (apply_empty isHeld))
  rcases spec_of_apply applied with rfl | ⟨whole, spec, rfl, stated⟩
  · obtain rfl := unwritten applied
    exact ⟨patched', patched', applied', apply_empty holds', .refl _⟩
  rcases spec_of_apply applied' with rfl | -
  · obtain rfl := unwritten applied'
    exact ⟨patched, patched, apply_empty holds, applied, .refl _⟩
  obtain ⟨template, ours, rfl⟩ := (apply_eq_ok_iff stated).mp applied
  obtain ⟨template', theirs, rfl⟩ := (apply_eq_ok_iff stated).mp applied'
  have both : Retemplates drift.image (further.respecified template' spec) template ∧
      Retemplates further.image (drift.respecified template spec) template' ∧
        (further.respecified template' (drift.respecified template spec)).Perm
          (drift.respecified template (further.respecified template' spec)) := by
    rcases apart.2.2 with none | none
    · exact respecified_perm apart none ours theirs
    · obtain ⟨later, earlier, permuted⟩ := respecified_perm apart.symm none theirs ours
      exact ⟨earlier, later, permuted.symm⟩
  obtain ⟨later, earlier, permuted⟩ := both
  refine ⟨_, _, (apply_eq_ok_iff (Value.get?_setField_self _ _ _)).mpr ⟨template', earlier, rfl⟩,
    (apply_eq_ok_iff (Value.get?_setField_self _ _ _)).mpr ⟨template, later, rfl⟩, ?_⟩
  rw [Value.setField_setField_self, Value.setField_setField_self]
  exact .field (.fields permuted) _ _

theorem fields_subset (drift : Drift) :
    drift.fields.map Prod.fst ⊆ [Key.name "schedule", "suspend", "image"] := by
  obtain ⟨schedule, suspend, image⟩ := drift
  cases schedule <;> cases suspend <;> cases image <;> simp [fields, Value.fieldIfSome]

/-- What a correction makes of a live job. -/
structure Corrects (drift : Drift) (live patched : Value) : Prop where
  elsewhere : live.AgreesOff drift.places patched
  schedule : patched.at? schedulePlace = drift.schedule.or (live.at? schedulePlace)
  suspend : patched.at? suspendPlace = drift.suspend.or (live.at? suspendPlace)
  image : patched.at? imagePlace = drift.image.or (live.at? imagePlace)
  nothing : drift = {} → patched = live
  again : drift.apply patched = .ok patched

theorem corrects_of_apply (applied : drift.apply live = .ok patched) :
    drift.Corrects live patched where
  elsewhere := (apply_eq_ok applied).1
  schedule := (at?_apply_places applied).1
  suspend := (at?_apply_places applied).2.1
  image := (at?_apply_places applied).2.2
  nothing := by
    rintro rfl
    obtain ⟨held, _, isHeld, -⟩ := Value.modifyItem_eq_ok applied
    exact Except.ok.inj (applied.symm.trans (apply_empty isHeld))
  again := apply_apply applied

/-- Comparing and correcting see and touch the places that are watched.

Live jobs with alike values at these places drift alike from any desired one,
and a suspension is told of only if both sides state one and they differ.  A
correction leaves a job as it was off the places that it is told of and writes
there what it is told, changes nothing if it is told nothing or has been made
already, and comes to the same with another one of different places whichever is
made first.  Values do not change in place, so the job that is corrected stays
as it was. -/
theorem watches_and_touches :
    (∀ (live other desired : Value) (drift further : Drift), between live desired = .ok drift →
      between other desired = .ok further →
        (∀ place ∈ watched, (reading place live).Alike (reading place other)) →
          drift = further) ∧
      (∀ (live desired : Value) (drift : Drift), between live desired = .ok drift →
        drift.fields.map Prod.fst ⊆ [Key.name "schedule", "suspend", "image"] ∧
          (drift.suspend.isSome → (reading suspendPlace live).isNull = false ∧
            (reading suspendPlace desired).isNull = false ∧
              (reading suspendPlace live).same (reading suspendPlace desired) = false)) ∧
      (∀ (drift : Drift) (live patched : Value), drift.apply live = .ok patched →
        drift.Corrects live patched) ∧
      ∀ (drift further : Drift) (live patched patched' : Value), drift.Disjoint further →
        drift.apply live = .ok patched → further.apply live = .ok patched' →
          ∃ first second, further.apply patched = .ok first ∧ drift.apply patched' = .ok second ∧
            first.Reordered second := by
  refine ⟨?_, ?_, ?_, ?_⟩
  · exact fun live other desired drift further => between_of_alike
  · intro live desired drift found
    refine ⟨drift.fields_subset, fun tells => ?_⟩
    obtain ⟨value, tells⟩ := Option.isSome_iff_exists.mp tells
    exact suspend_of_between found tells
  · exact fun drift live patched => corrects_of_apply
  · exact fun drift further live patched patched' => apply_comm

end Drift

/-- The job as it was, with something else for its suspension. -/
def resuspended (suspension : Value) : Value :=
  Value.setAt suspension Drift.suspendPlace (staleJob.manifest plainCluster)

/-- A suspension of zero and one of false are told of alike, and a schedule and a
suspension can be written in either order where neither is stated. -/
theorem resuspended_watches_and_touches :
    let desired := { staleJob with suspend := some true }.manifest plainCluster
    let scheduled : Drift := { schedule := some "5 5 * * *" }
    let suspended : Drift := { suspend := some true }
    let blank : Value := .object [("spec", .object [])]
    Drift.between (resuspended 0) desired = .ok suspended ∧
      (∀ drift, Drift.between (resuspended false) desired = .ok drift → suspended = drift) ∧
      (Drift.reading Drift.suspendPlace (resuspended 0)).isNull = false ∧
      (∀ patched, scheduled.apply blank = .ok patched → scheduled.Corrects blank patched) ∧
      ∃ first second,
        suspended.apply (.object [("spec", .object [("schedule", "5 5 * * *")])]) = .ok first ∧
          scheduled.apply (.object [("spec", .object [("suspend", true)])]) = .ok second ∧
            first.Reordered second := by
  intro desired scheduled suspended blank
  obtain ⟨sees, tells, touches, commutes⟩ := Drift.watches_and_touches
  have found : Drift.between (resuspended 0) desired = .ok suspended := by decide +kernel
  have alike : ∀ place ∈ Drift.watched,
      (Drift.reading place (resuspended 0)).Alike (Drift.reading place (resuspended false)) := by
    intro place member
    simp only [Drift.watched, List.mem_cons, List.not_mem_nil, or_false] at member
    rcases member with rfl | rfl | rfl
    · exact .inl (by decide +kernel)
    · exact .inr (by decide +kernel)
    · exact .inl (by decide +kernel)
  refine ⟨found, fun drift found' => sees _ _ _ _ _ found found' alike,
    ((tells _ _ _ found).2 rfl).1, fun patched => touches scheduled blank patched, ?_⟩
  exact commutes scheduled suspended blank _ _ ⟨.inr rfl, .inl rfl, .inl rfl⟩ rfl rfl

end CuratorKeeper
