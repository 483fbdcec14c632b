import CuratorKeeper.Proofs.Value.Worth
import CuratorKeeper.Value.Same
import Mathlib.Data.List.Perm.Basic

/-!
# Values that count as the same

Loose sameness is transitive, so that two values that are the same either way
are the same as the same others.  Values that only differ in the order of the
fields of their objects are equal in another way: whatever looks at fields by
their keys cannot tell them apart.
-/

namespace CuratorKeeper.Value

/-- A value that amounts to a number is the same as those that amount to the
same number. -/
theorem same_iff_of_amount? {value other : Value} {amount : Number}
    (amounts : value.amount? = some amount) :
    value.same other = true ↔ ∃ amount', other.amount? = some amount' ∧ amount.same amount' = true := by
  cases value with
  | bool truth =>
      obtain rfl := Option.some.inj amounts
      cases found : other.amount? <;> simp [same, found]
  | number amount' =>
      obtain rfl := Option.some.inj amounts
      cases found : other.amount? <;> simp [same, found]
  | _ => simp [amount?] at amounts

theorem same_of_amount? {first second third : Value} {amount : Number}
    (amounts : first.amount? = some amount) (same : first.same second = true)
    (further : second.same third = true) : first.same third = true := by
  obtain ⟨middle, amounts', closer⟩ := (same_iff_of_amount? amounts).mp same
  obtain ⟨last, amounts'', closer'⟩ := (same_iff_of_amount? amounts').mp further
  exact (same_iff_of_amount? amounts).mpr ⟨last, amounts'', Number.same_trans closer closer'⟩

/-- What is the same as a whole number amounts to it exactly. -/
theorem same_whole_iff {value : Value} {whole : Int} :
    value.same (.number (.whole whole)) = true ↔ value.amount?.bind Number.toInt? = some whole := by
  cases value with
  | bool truth => simp [same, amount?, Number.same, Number.toInt?]
  | number amount => cases amount <;> simp [same, amount?, Number.same, Number.toInt?]
  | _ => simp [same, isNull, amount?]

theorem whole_unique_of_same {value : Value} {first second : Int}
    (same : value.same (.number (.whole first)) = true)
    (same' : value.same (.number (.whole second)) = true) : first = second :=
  Option.some.inj ((same_whole_iff.mp same).symm.trans (same_whole_iff.mp same'))

theorem sameFields_get? {fields others : Fields} {key : Key} {value : Value}
    (same : sameFields fields others = true) (held : fields.get? key = some value) :
    ∃ value', Fields.get? others key = some value' ∧ value.same value' = true := by
  induction fields with
  | nil => simp [Fields.get?] at held
  | cons field rest ih =>
      obtain ⟨name, content⟩ := field
      rw [sameFields, Bool.and_eq_true] at same
      by_cases isName : key = name
      · subst isName
        simp only [Fields.get?, List.lookup_cons_self, Option.some.injEq] at held
        subst held
        cases found : Fields.get? others key with
        | none => simp [found] at same
        | some value' => exact ⟨value', rfl, by simpa [found] using same.1⟩
      · have further : Fields.get? rest key = some value := by
          simpa [Fields.get?, List.lookup_cons, beq_false_of_ne isName] using held
        exact ih same.2 further

mutual

theorem same_trans {second third : Value} : (first : Value) → first.same second = true →
    second.same third = true → first.same third = true
  | .null, same, further => by
      cases second with
      | null => exact further
      | _ => simp [Value.same, isNull] at same
  | .bool _, same, further => same_of_amount? rfl same further
  | .number _, same, further => same_of_amount? rfl same further
  | .text content, same, further => by
      cases second with
      | text other =>
          obtain rfl : content = other := by simpa [Value.same] using same
          exact further
      | _ => simp [Value.same] at same
  | .list items, same, further => by
      cases second with
      | list others =>
          cases third with
          | list rest => exact sameItems_trans items same further
          | _ => simp [Value.same] at further
      | _ => simp [Value.same] at same
  | .object fields, same, further => by
      cases second with
      | object others =>
          cases third with
          | object rest =>
              rw [Value.same, Bool.and_eq_true, beq_iff_eq] at same further ⊢
              exact ⟨same.1.trans further.1, sameFields_trans fields same.2 further.2⟩
          | _ => simp [Value.same] at further
      | _ => simp [Value.same] at same

theorem sameItems_trans {others rest : List Value} : (items : List Value) →
    sameItems items others = true → sameItems others rest = true → sameItems items rest = true
  | [], same, further => by
      cases others with
      | nil => exact further
      | cons _ _ => simp [sameItems] at same
  | item :: items, same, further => by
      cases others with
      | nil => simp [sameItems] at same
      | cons other others =>
          cases rest with
          | nil => simp [sameItems] at further
          | cons last rest =>
              rw [sameItems, Bool.and_eq_true] at same further ⊢
              exact ⟨same_trans item same.1 further.1, sameItems_trans items same.2 further.2⟩

theorem sameFields_trans {others rest : Fields} : (fields : Fields) →
    sameFields fields others = true → sameFields others rest = true → sameFields fields rest = true
  | [], _, _ => by rw [sameFields]
  | (key, value) :: fields, same, further => by
      rw [sameFields, Bool.and_eq_true] at same ⊢
      refine ⟨?_, sameFields_trans fields same.2 further⟩
      cases held : Fields.get? others key with
      | none => simp [held] at same
      | some other =>
          obtain ⟨last, found, closer⟩ := sameFields_get? further held
          rw [found]
          exact same_trans value (by simpa [held] using same.1) closer

end

/-- Two values are equal, or loosely the same whichever of them is compared with
the other. -/
def Alike (first second : Value) : Prop :=
  first = second ∨ first.same second = true ∧ second.same first = true

namespace Alike

variable {first second : Value}

theorem same_eq (alike : Alike first second) (other : Value) :
    first.same other = second.same other := by
  rcases alike with rfl | ⟨same, same'⟩
  · rfl
  · rw [Bool.eq_iff_iff]
    exact ⟨same_trans second same', same_trans first same⟩

theorem isNull_eq (alike : Alike first second) : first.isNull = second.isNull := by
  rcases alike with rfl | ⟨same, same'⟩
  · rfl
  · cases first with
    | null => exact same.symm
    | _ =>
        cases second with
        | null => exact same'
        | _ => rfl

end Alike

/-- Two values are equal up to the order of the fields of the objects in them. -/
inductive Reordered : Value → Value → Prop
  | refl (value : Value) : Reordered value value
  | fields {first second : Fields} (permuted : first.Perm second) :
      Reordered (.object first) (.object second)
  | field {old new : Value} (inside : Reordered old new) (key : Key) (fields : Fields) :
      Reordered (.object (setField key old fields)) (.object (setField key new fields))

/-- Fields that are set one after the other end up in one order or the other. -/
theorem setField_perm {key other : Key} (different : key ≠ other) (first second : Value)
    (fields : Fields) :
    (setField key first (setField other second fields)).Perm
      (setField other second (setField key first fields)) := by
  induction fields with
  | nil =>
      simp only [setField, different, different.symm, if_false]
      exact List.Perm.swap _ _ _
  | cons field rest ih =>
      obtain ⟨name, old⟩ := field
      by_cases isKey : name = key
      · subst isKey
        simp [setField, different]
      · by_cases isOther : name = other
        · subst isOther
          simp [setField, isKey]
        · simp only [setField, isKey, isOther, if_false]
          exact ih.cons _

end CuratorKeeper.Value
