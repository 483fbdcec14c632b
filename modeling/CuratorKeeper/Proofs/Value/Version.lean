import CuratorKeeper.Proofs.Value.Place
import CuratorKeeper.Store.Basic

/-!
# Values up to their version

Every write marks a resource with a version of its own.  Two resources have the
same content when they are the same without that mark.  Nothing that a pass
looks at in a resource depends on it, and marking a resource changes nothing
else.
-/

namespace CuratorKeeper

namespace Value

def versionPlace : List Key := ["metadata", "resourceVersion"]

def withoutField (key : Key) : Value → Value
  | .object fields => .object (eraseField key fields)
  | value => value

/-- A resource without the version that it is marked with. -/
def unversioned : Value → Value
  | .object fields =>
    match Fields.get? fields "metadata" with
    | some metadata =>
      .object (setField "metadata" (metadata.withoutField "resourceVersion") fields)
    | none => .object fields
  | value => value

theorem unversioned_object (fields : Fields) :
    unversioned (.object fields) =
      match Fields.get? fields "metadata" with
      | some metadata =>
        .object (setField "metadata" (metadata.withoutField "resourceVersion") fields)
      | none => .object fields := rfl

theorem part?_unversioned_of_ne (value : Value) {key : Key} (different : key ≠ "metadata") :
    value.unversioned.part? key = value.part? key := by
  cases value with
  | object fields =>
      rw [unversioned_object]
      cases Fields.get? fields "metadata" with
      | none => rfl
      | some metadata => exact get?_setField_of_ne different _ fields
  | _ => rfl

theorem part?_unversioned_metadata (value : Value) :
    value.unversioned.part? "metadata" =
      (value.part? "metadata").map (withoutField "resourceVersion") := by
  cases value with
  | object fields =>
      rw [unversioned_object]
      change part? _ "metadata" = (Fields.get? fields "metadata").map _
      cases held : Fields.get? fields "metadata" with
      | none => simpa [part?] using held
      | some metadata => exact get?_setField_self "metadata" _ fields
  | _ => rfl

theorem get?_eraseField_of_ne {key other : Key} (different : other ≠ key) (fields : Fields) :
    Fields.get? (eraseField key fields) other = Fields.get? fields other := by
  induction fields with
  | nil => rfl
  | cons field rest ih =>
      obtain ⟨present, old⟩ := field
      by_cases same : present = key
      · subst same
        simpa [eraseField, Fields.get?, List.lookup_cons, beq_false_of_ne different] using ih
      · by_cases found : present = other
        · subst found
          simp [eraseField, same, Fields.get?]
        · simpa [eraseField, same, Fields.get?, List.lookup_cons,
            beq_false_of_ne (Ne.symm found)] using ih

theorem eraseField_setField_self (key : Key) (value : Value) (fields : Fields) :
    eraseField key (setField key value fields) = eraseField key fields := by
  induction fields with
  | nil => simp [setField, eraseField]
  | cons field rest ih =>
      obtain ⟨other, old⟩ := field
      by_cases same : other = key
      · simp [setField, eraseField, same]
      · simpa [setField, eraseField, same] using ih

theorem setField_setField_self (key : Key) (first second : Value) (fields : Fields) :
    setField key second (setField key first fields) = setField key second fields := by
  induction fields with
  | nil => simp [setField]
  | cons field rest ih =>
      obtain ⟨other, old⟩ := field
      by_cases same : other = key
      · simp [setField, same]
      · simpa [setField, same] using ih

theorem part?_withoutField_of_ne (value : Value) {key other : Key} (different : other ≠ key) :
    (value.withoutField key).part? other = value.part? other := by
  cases value with
  | object fields => exact get?_eraseField_of_ne different fields
  | _ => rfl

theorem fieldD_withoutField_of_ne (value default : Value) {key other : Key} (different : other ≠ key) :
    (value.withoutField key).fieldD other default = value.fieldD other default := by
  cases value with
  | object fields =>
      simp only [fieldD, field?, withoutField, get?_eraseField_of_ne different fields]
  | _ => rfl

theorem item_withoutField_of_ne (value : Value) {key other : Key} (different : other ≠ key) :
    (value.withoutField key).item other = value.item other := by
  cases value with
  | object fields => simp only [item, withoutField, get?_eraseField_of_ne different fields]
  | _ => rfl

theorem item_unversioned_of_ne (value : Value) {key : Key} (different : key ≠ "metadata") :
    value.unversioned.item key = value.item key := by
  cases value with
  | object fields =>
      rw [unversioned_object]
      cases Fields.get? fields "metadata" with
      | none => rfl
      | some metadata => simp only [item, get?_setField_of_ne different]
  | _ => rfl

theorem fieldD_unversioned_metadata (value : Value) :
    value.unversioned.fieldD "metadata" (.object []) =
      (value.fieldD "metadata" (.object [])).map (withoutField "resourceVersion") := by
  cases value with
  | object fields =>
      rw [unversioned_object]
      cases held : Fields.get? fields "metadata" with
      | none =>
          simp [fieldD, field?, held, Except.map, bind, Except.bind, pure, Except.pure, withoutField,
            eraseField]
      | some metadata =>
          simp [fieldD, field?, held, get?_setField_self, Except.map, bind, Except.bind, pure,
            Except.pure]
  | _ => rfl

theorem agreesOff_unversioned (value : Value) :
    AgreesOff [versionPlace] value value.unversioned := by
  cases held : value.part? "metadata" with
  | none =>
      have unchanged : value.unversioned = value := by
        cases value with
        | object fields =>
            have absent : Fields.get? fields "metadata" = none := held
            rw [unversioned_object, absent]
        | _ => rfl
      rw [unchanged]
      exact AgreesOff.refl _ value
  | some metadata =>
      change AgreesOff ([[.name "resourceVersion"]].map (Key.name "metadata" :: ·)) value
        value.unversioned
      refine agreesOff_of_part? ?_ held
        (by rw [part?_unversioned_metadata, held, Option.map_some])
        (fun other different => part?_unversioned_of_ne value different) ?_
      · intro equal
        cases value with
        | object fields =>
            have present : Fields.get? fields "metadata" = some metadata := held
            rw [unversioned_object, present]
            simp only [← equal]
            rw [setField_of_get? present]
        | _ => rfl
      · intro path apart
        cases path with
        | nil => exact absurd (apart ["resourceVersion"] (by simp)) (not_apart_nil _)
        | cons other rest =>
            have different : other ≠ "resourceVersion" := by
              intro same
              subst same
              have inner := (apart_cons_cons _ _ [] rest).mp (apart ["resourceVersion"] (by simp))
              exact not_apart_nil rest (inner.resolve_left (by simp)).symm
            rw [at?_cons, at?_cons, part?_withoutField_of_ne metadata different]

theorem agreesOff_of_unversioned_eq {first second : Value}
    (same : first.unversioned = second.unversioned) :
    AgreesOff [versionPlace] first second := by
  have forth := agreesOff_unversioned first
  rw [same] at forth
  exact (forth.trans (agreesOff_unversioned second).symm).mono (by simp)

theorem at?_congr_of_ne {first second : Value} (same : first.unversioned = second.unversioned)
    {key : Key} (different : key ≠ "metadata") (rest : List Key) :
    first.at? (key :: rest) = second.at? (key :: rest) := by
  apply agreesOff_of_unversioned_eq same _
  intro place member
  rw [List.mem_singleton.mp member]
  exact (apart_cons_cons _ _ _ _).mpr (.inl different.symm)

theorem part?_congr_of_ne {first second : Value} (same : first.unversioned = second.unversioned)
    {key : Key} (different : key ≠ "metadata") : first.part? key = second.part? key := by
  rw [← at?_singleton, ← at?_singleton]
  exact at?_congr_of_ne same different []

end Value

theorem Ref.of_unversioned (resource : Value) : Ref.of resource.unversioned = Ref.of resource := by
  unfold Ref.of
  rw [Value.fieldD_unversioned_metadata, Value.item_unversioned_of_ne resource (by decide)]
  cases resource.fieldD "metadata" (.object []) with
  | error mismatch => rfl
  | ok metadata =>
      have space := Value.fieldD_withoutField_of_ne metadata ""
        (by decide : Key.name "namespace" ≠ Key.name "resourceVersion")
      have name := Value.item_withoutField_of_ne metadata
        (by decide : Key.name "name" ≠ Key.name "resourceVersion")
      simp only [Except.map, bind, Except.bind, space, name]

end CuratorKeeper
