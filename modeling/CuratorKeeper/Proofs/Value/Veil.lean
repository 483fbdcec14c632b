import CuratorKeeper.Proofs.Store.Lookup
import CuratorKeeper.Proofs.Value.Mask

/-!
# Resources whose data are veiled

A resource keeps texts as its data: a secret keeps its credentials there.  When
they are veiled, the names are still seen, but not the texts.  Resources that look
the same under the veil have the same reference, and they look the same after any
edit, since an edit does not go by what stands in a text.
-/

namespace CuratorKeeper
namespace Value

/-- A text that is not told. -/
def hidden : Value → Value
  | .text _ => .text ""
  | value => value

def hiddenFields (fields : Fields) : Fields := fields.map fun field => (field.1, field.2.hidden)

/-- An object whose texts are not told. -/
def hiddenTexts : Value → Value
  | .object fields => .object (hiddenFields fields)
  | value => value

/-- A resource without the texts of its data. -/
def veiled (resource : Value) : Value := resource.masked "data" hiddenTexts

theorem get?_hiddenFields (fields : Fields) (key : Key) :
    Fields.get? (hiddenFields fields) key = (Fields.get? fields key).map hidden := by
  unfold Fields.get? hiddenFields
  induction fields with
  | nil => rfl
  | cons field rest ih =>
      obtain ⟨name, held⟩ := field
      by_cases same : name = key
      · simp [same]
      · simpa [List.lookup_cons, beq_false_of_ne (Ne.symm same)] using ih

theorem hiddenFields_setField (key : Key) (value : Value) (fields : Fields) :
    hiddenFields (setField key value fields) = setField key value.hidden (hiddenFields fields) := by
  unfold hiddenFields
  induction fields with
  | nil => rfl
  | cons field rest ih =>
      obtain ⟨name, held⟩ := field
      by_cases same : name = key
      · simp [setField, same]
      · simpa [setField, same] using ih

theorem hiddenFields_eraseField (key : Key) (fields : Fields) :
    hiddenFields (eraseField key fields) = eraseField key (hiddenFields fields) := by
  unfold hiddenFields eraseField
  rw [List.filter_map]
  rfl

/-- Two values that look the same are the same, or they are texts. -/
theorem hidden_cases {first second : Value} (same : first.hidden = second.hidden) :
    first = second ∨ ∃ text other, first = .text text ∧ second = .text other := by
  cases first <;> cases second <;> simp_all [hidden]

theorem hiddenTexts_cases {first second : Value} (same : first.hiddenTexts = second.hiddenTexts) :
    first = second ∨ ∃ fields others, first = .object fields ∧ second = .object others ∧
      hiddenFields fields = hiddenFields others := by
  cases first <;> cases second <;> simp_all [hiddenTexts]

theorem hidden_setAt {first second : Value} (same : first.hidden = second.hidden) (new : Value)
    (path : List Key) : (setAt new path first).hidden = (setAt new path second).hidden := by
  rcases hidden_cases same with rfl | ⟨text, other, rfl, rfl⟩
  · rfl
  · match path with
    | [] => rfl
    | [_] => rfl
    | _ :: _ :: _ => rfl

theorem hidden_eraseAt {first second : Value} (same : first.hidden = second.hidden)
    (path : List Key) : (eraseAt path first).hidden = (eraseAt path second).hidden := by
  rcases hidden_cases same with rfl | ⟨text, other, rfl, rfl⟩
  · rfl
  · match path with
    | [] => simpa only [eraseAt] using same
    | [_] => simp only [eraseAt, hidden]
    | _ :: _ :: _ => simp only [eraseAt, hidden]

theorem hidden_getD {held other : Option Value} (same : held.map hidden = other.map hidden)
    (default : Value) : (held.getD default).hidden = (other.getD default).hidden := by
  cases held <;> cases other <;> simp_all

theorem hiddenTexts_setAt (new : Value) (first second : Value) (path : List Key)
    (same : first.hiddenTexts = second.hiddenTexts) :
    (setAt new path first).hiddenTexts = (setAt new path second).hiddenTexts := by
  rcases hiddenTexts_cases same with rfl | ⟨fields, others, rfl, rfl, alike⟩
  · rfl
  · have looked : ∀ key,
        (Fields.get? fields key).map hidden = (Fields.get? others key).map hidden := by
      intro key
      rw [← get?_hiddenFields, alike, get?_hiddenFields]
    match path with
    | [] => exact same
    | [key] => simp only [setAt, hiddenTexts, hiddenFields_setField, alike]
    | key :: next :: rest =>
        simp only [setAt, hiddenTexts, hiddenFields_setField, alike,
          hidden_setAt (hidden_getD (looked key) (.object [])) new (next :: rest)]

theorem hiddenTexts_eraseAt (first second : Value) (path : List Key)
    (same : first.hiddenTexts = second.hiddenTexts) :
    (eraseAt path first).hiddenTexts = (eraseAt path second).hiddenTexts := by
  rcases hiddenTexts_cases same with rfl | ⟨fields, others, rfl, rfl, alike⟩
  · rfl
  · have looked : ∀ key,
        (Fields.get? fields key).map hidden = (Fields.get? others key).map hidden := by
      intro key
      rw [← get?_hiddenFields, alike, get?_hiddenFields]
    match path with
    | [] => simpa only [eraseAt] using same
    | [key] => simp only [eraseAt, hiddenTexts, hiddenFields_eraseField, alike]
    | key :: next :: rest =>
        have both := looked key
        cases held : Fields.get? fields key with
        | none =>
            rw [held, Option.map_none, eq_comm, Option.map_eq_none_iff] at both
            simpa only [eraseAt, held, both] using same
        | some item =>
            rw [held, Option.map_some, eq_comm, Option.map_eq_some_iff] at both
            obtain ⟨other, found, itemAlike⟩ := both
            simp only [eraseAt, held, found, hiddenTexts, hiddenFields_setField, alike,
              hidden_eraseAt itemAlike (next :: rest)]

variable {first second : Value}

theorem field?_of_veiled (same : first.veiled = second.veiled) {key : Key}
    (different : key ≠ "data") : first.field? key = second.field? key :=
  field?_of_masked same different

theorem veiled_assign (same : first.veiled = second.veiled) {key : Key} (different : key ≠ "data")
    {value written : Value} (assigned : first.assign key value = .ok written) :
    ∃ result, second.assign key value = .ok result ∧ written.veiled = result.veiled :=
  masked_assign same different assigned

theorem veiled_apply (same : first.veiled = second.veiled) (edit : Edit) :
    (edit.apply first).veiled = (edit.apply second).veiled := by
  unfold Edit.apply
  cases edit.value with
  | some new =>
      exact masked_setAt (fun held other rest => hiddenTexts_setAt new held other rest) _ same
  | none => exact masked_eraseAt (fun held other rest => hiddenTexts_eraseAt held other rest) _ same

theorem veiled_edits (same : first.veiled = second.veiled) (edits : List Edit) :
    (edits.foldl (fun resource edit => edit.apply resource) first).veiled =
      (edits.foldl (fun resource edit => edit.apply resource) second).veiled := by
  induction edits generalizing first second with
  | nil => exact same
  | cons edit rest ih => exact ih (veiled_apply same edit)

/-- An edit touches the field that its path begins with, and no other. -/
theorem part?_apply_of_ne {edit : Edit} {key : Key} {rest : List Key} {text : String}
    (path : edit.path = key :: rest) (different : Key.name text ≠ key) (resource : Value) :
    (edit.apply resource).part? (.name text) = resource.part? (.name text) := by
  unfold Edit.apply
  rw [path]
  cases edit.value with
  | some new =>
      cases resource with
      | object fields =>
          cases rest with
          | nil => exact get?_setField_of_ne different _ fields
          | cons next rest => exact get?_setField_of_ne different _ fields
      | list items =>
          cases key <;> cases rest <;> simp only [setAt] <;> split <;> rfl
      | _ => cases key <;> cases rest <;> rfl
  | none =>
      cases resource with
      | object fields =>
          cases rest with
          | nil =>
              simp only [eraseAt]
              exact get?_eraseField_of_ne different fields
          | cons next rest =>
              simp only [eraseAt]
              split
              · exact get?_setField_of_ne different _ fields
              · rfl
      | list items =>
          -- A list has no fields, neither before nor after.
          cases key <;> cases rest <;> simp only [eraseAt]
          split <;> rfl
      | _ => cases key <;> cases rest <;> simp only [eraseAt]

end Value

theorem Ref.of_veiled {first second : Value} (same : first.veiled = second.veiled) :
    Ref.of first = Ref.of second := by
  have metadata := Value.field?_of_veiled same (by decide : Key.name "metadata" ≠ "data")
  have kind := Value.field?_of_veiled same (by decide : Key.name "kind" ≠ "data")
  simp only [Ref.of, Value.fieldD_congr metadata, Value.item_congr kind]

theorem Ref.of_stamp {version : Nat} {resource stamped : Value} {own : Ref}
    (written : Store.stamp version resource = .ok stamped) (known : Ref.of stamped = .ok own) :
    Ref.of resource = .ok own := by
  obtain ⟨fields, metadata, rfl, stated, rfl⟩ := Store.stamp_eq_ok written
  obtain ⟨inner, held, hasKind, hasName, hasSpace⟩ := Ref.of_eq_ok.mp known
  have isInner : inner = Value.setField "resourceVersion" (.text (toString version)) metadata := by
    simpa [Value.part?] using held.symm
  subst isInner
  have name : Fields.get? metadata "name" = some own.name := by
    rwa [Value.part?, Value.get?_setField_of_ne (by decide)] at hasName
  have present : Fields.get? fields "metadata" = some (.object metadata) := by
    cases found : Fields.get? fields "metadata" with
    | some _ => rw [found, Option.getD_some] at stated; rw [stated]
    | none =>
        rw [found, Option.getD_none, Value.object.injEq] at stated
        rw [← stated] at name
        cases name
  refine Ref.of_eq_ok.mpr ⟨metadata, present, ?_, name, ?_⟩
  · rwa [Value.part?, Value.get?_setField_of_ne (by decide)] at hasKind
  · rwa [Value.part?, Value.get?_setField_of_ne (by decide)] at hasSpace

end CuratorKeeper
