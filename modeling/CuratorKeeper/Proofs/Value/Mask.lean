import CuratorKeeper.Proofs.Value.Version

/-!
# Masked values

A value is masked when one of its fields is changed, so that some of it can no
longer be told.  Two values that look the same when masked have the same fields
but for that one, and they look the same after the same change.  The version of
a resource can be masked, and so can the texts that it keeps as its data.
-/

namespace CuratorKeeper
namespace Value

/-- An object with one of its fields changed; nothing else has fields to change. -/
def masked (key : Key) (change : Value → Value) : Value → Value
  | .object fields =>
    match Fields.get? fields key with
    | some held => .object (setField key (change held) fields)
    | none => .object fields
  | value => value

theorem unversioned_eq_masked (value : Value) :
    value.unversioned = value.masked "metadata" (withoutField "resourceVersion") := by
  cases value <;> rfl

theorem setField_comm {key other : Key} (different : other ≠ key) {held : Value} {fields : Fields}
    (present : Fields.get? fields key = some held) (first second : Value) :
    setField key first (setField other second fields) =
      setField other second (setField key first fields) := by
  induction fields with
  | nil => simp [Fields.get?] at present
  | cons field rest ih =>
      obtain ⟨name, old⟩ := field
      by_cases same : name = key
      · subst same
        simp [setField, different.symm]
      · have further : Fields.get? rest key = some held := by
          simpa [Fields.get?, List.lookup_cons, beq_false_of_ne (Ne.symm same)] using present
        by_cases found : name = other
        · simp [setField, found, different]
        · simp [setField, found, same, ih further]

theorem setField_eraseField_of_ne {key other : Key} (different : other ≠ key) (value : Value)
    (fields : Fields) :
    setField key value (eraseField other fields) =
      eraseField other (setField key value fields) := by
  induction fields with
  | nil => simp [setField, eraseField, different.symm]
  | cons field rest ih =>
      obtain ⟨name, old⟩ := field
      by_cases same : name = key
      · subst same
        simp [setField, eraseField, different.symm]
      · by_cases found : name = other
        · simpa [setField, eraseField, found, different] using ih
        · simpa [setField, eraseField, found, same] using ih

section

variable {key : Key} {change : Value → Value} {first second : Value}

/-- Two values that look the same are the same, or they differ in the one field
at most, and its contents look the same. -/
theorem masked_cases (same : first.masked key change = second.masked key change) :
    first = second ∨ ∃ fields others held other, first = .object fields ∧
      second = .object others ∧ Fields.get? fields key = some held ∧
      Fields.get? others key = some other ∧ change held = change other ∧
      ∀ value, setField key value fields = setField key value others := by
  -- Only an object that has the field is changed, and it stays an object that has it.
  cases first with
  | object fields =>
      cases second with
      | object others =>
          cases held : Fields.get? fields key with
          | none =>
              cases found : Fields.get? others key with
              | none => exact .inl (by simpa [masked, held, found] using same)
              | some other =>
                  have equal : fields = setField key (change other) others := by
                    simpa [masked, held, found] using same
                  rw [equal, get?_setField_self] at held
                  cases held
          | some content =>
              cases found : Fields.get? others key with
              | none =>
                  have equal : setField key (change content) fields = others := by
                    simpa [masked, held, found] using same
                  rw [← equal, get?_setField_self] at found
                  cases found
              | some other =>
                  have equal : setField key (change content) fields =
                      setField key (change other) others := by
                    simpa [masked, held, found] using same
                  have contents := congrArg (fun fields => Fields.get? fields key) equal
                  simp only [get?_setField_self, Option.some.injEq] at contents
                  refine .inr ⟨fields, others, content, other, rfl, rfl, held, found, contents,
                    fun value => ?_⟩
                  have written := congrArg (setField key value) equal
                  rwa [setField_setField_self, setField_setField_self] at written
      | _ =>
          cases held : Fields.get? fields key <;> simp [masked, held] at same
  | _ =>
      cases second with
      | object others =>
          cases found : Fields.get? others key <;> simp [masked, found] at same
      | _ => exact .inl same

/-- Objects that differ in the one field at most look the same if its contents do. -/
theorem masked_of_contents {fields others : Fields} {held other : Value}
    (holds : Fields.get? fields key = some held) (found : Fields.get? others key = some other)
    (contents : change held = change other)
    (equal : ∀ value, setField key value fields = setField key value others) :
    (Value.object fields).masked key change = (Value.object others).masked key change := by
  simp only [masked, holds, found, contents, equal]

theorem field?_of_masked (same : first.masked key change = second.masked key change) {other : Key}
    (different : other ≠ key) : first.field? other = second.field? other := by
  rcases masked_cases same with rfl | ⟨fields, others, -, -, rfl, rfl, -, -, -, equal⟩
  · rfl
  · have looked := congrArg (fun fields => Fields.get? fields other) (equal .null)
    simp only [get?_setField_of_ne different] at looked
    exact congrArg Except.ok looked

theorem masked_setField {fields others : Fields}
    (same : (Value.object fields).masked key change = (Value.object others).masked key change)
    {other : Key} (different : other ≠ key) (value : Value) :
    (Value.object (setField other value fields)).masked key change =
      (Value.object (setField other value others)).masked key change := by
  rcases masked_cases same with equal | ⟨_, _, held, found, isFields, isOthers, holds, finds,
    contents, equal⟩
  · cases equal
    rfl
  · cases isFields
    cases isOthers
    refine masked_of_contents ((get?_setField_of_ne different.symm _ _).trans holds)
      ((get?_setField_of_ne different.symm _ _).trans finds) contents fun written => ?_
    rw [setField_comm different holds, setField_comm different finds, equal]

theorem masked_eraseField {fields others : Fields}
    (same : (Value.object fields).masked key change = (Value.object others).masked key change)
    {other : Key} (different : other ≠ key) :
    (Value.object (eraseField other fields)).masked key change =
      (Value.object (eraseField other others)).masked key change := by
  rcases masked_cases same with equal | ⟨_, _, held, found, isFields, isOthers, holds, finds,
    contents, equal⟩
  · cases equal
    rfl
  · cases isFields
    cases isOthers
    refine masked_of_contents ((get?_eraseField_of_ne different.symm _).trans holds)
      ((get?_eraseField_of_ne different.symm _).trans finds) contents fun written => ?_
    rw [setField_eraseField_of_ne different, setField_eraseField_of_ne different, equal]

theorem masked_assign (same : first.masked key change = second.masked key change) {other : Key}
    (different : other ≠ key) {value written : Value}
    (assigned : first.assign other value = .ok written) :
    ∃ result, second.assign other value = .ok result ∧
      written.masked key change = result.masked key change := by
  rcases masked_cases same with rfl | ⟨fields, others, -, -, rfl, rfl, -⟩
  · exact ⟨written, assigned, rfl⟩
  · cases assigned
    exact ⟨_, rfl, masked_setField same different value⟩

end

section

variable {key : Key} {change : Value → Value}

/-- A place is set in values that look the same, if that can be done below the one
field. -/
theorem masked_setAt {new : Value}
    (below : ∀ held other rest, change held = change other →
      change (setAt new rest held) = change (setAt new rest other))
    (path : List Key) {first second : Value}
    (same : first.masked key change = second.masked key change) :
    (setAt new path first).masked key change = (setAt new path second).masked key change := by
  rcases masked_cases same with rfl | ⟨fields, others, held, other, rfl, rfl, holds, finds, contents,
    equal⟩
  · rfl
  · have looked : ∀ {name : Key}, name ≠ key → Fields.get? fields name = Fields.get? others name :=
      fun different => Except.ok.inj (field?_of_masked same different)
    match path with
    | [] => exact same
    | [name] =>
        by_cases isKey : name = key
        · subst isKey
          simp only [setAt, equal]
        · simpa only [setAt] using masked_setField same isKey new
    | name :: next :: rest =>
        by_cases isKey : name = key
        · subst isKey
          simp only [setAt, holds, finds, Option.getD_some]
          refine masked_of_contents (get?_setField_self _ _ _) (get?_setField_self _ _ _)
            (below held other _ contents) fun value => ?_
          rw [setField_setField_self, setField_setField_self, equal]
        · simpa only [setAt, looked isKey] using masked_setField same isKey _

theorem masked_eraseAt
    (below : ∀ held other rest, change held = change other →
      change (eraseAt rest held) = change (eraseAt rest other))
    (path : List Key) {first second : Value}
    (same : first.masked key change = second.masked key change) :
    (eraseAt path first).masked key change = (eraseAt path second).masked key change := by
  rcases masked_cases same with rfl | ⟨fields, others, held, other, rfl, rfl, holds, finds, contents,
    equal⟩
  · rfl
  · have looked : ∀ {name : Key}, name ≠ key → Fields.get? fields name = Fields.get? others name :=
      fun different => Except.ok.inj (field?_of_masked same different)
    match path with
    | [] => simpa only [eraseAt] using same
    | [name] =>
        by_cases isKey : name = key
        · subst isKey
          have erased : eraseField name fields = eraseField name others := by
            rw [← eraseField_setField_self name .null fields, equal, eraseField_setField_self]
          simp only [eraseAt, erased]
        · simpa only [eraseAt] using masked_eraseField same isKey
    | name :: next :: rest =>
        by_cases isKey : name = key
        · subst isKey
          simp only [eraseAt, holds, finds]
          refine masked_of_contents (get?_setField_self _ _ _) (get?_setField_self _ _ _)
            (below held other _ contents) fun value => ?_
          rw [setField_setField_self, setField_setField_self, equal]
        · simp only [eraseAt, looked isKey]
          cases Fields.get? others name with
          | none => exact same
          | some item => exact masked_setField same isKey _

end

end Value
end CuratorKeeper
