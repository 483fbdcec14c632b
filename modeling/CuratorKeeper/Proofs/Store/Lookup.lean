import CuratorKeeper.Proofs.Value.Version

/-!
# Looking up resources

References are compared loosely, but a reference whose parts are texts is the
same as itself alone.  Writing or removing the resource with such a reference
leaves every other one as it was.
-/

namespace CuratorKeeper

namespace Value

theorem text_same_iff (content : String) (other : Value) :
    (Value.text content).same other = true ↔ other = .text content := by
  cases other with
  | text other =>
      simp only [same, beq_iff_eq, Value.text.injEq]
      exact eq_comm
  | _ => simp [same]

theorem same_text_iff (content : String) (other : Value) :
    other.same (.text content) = true ↔ other = .text content := by
  cases other <;> simp [same, amount?, isNull]

end Value

namespace Ref

def Plain (ref : Ref) : Prop :=
  ∃ kind space name : String, ref = ⟨.text kind, .text space, .text name⟩

theorem Plain.same_iff {ref : Ref} (plain : ref.Plain) (other : Ref) :
    ref.same other = true ↔ other = ref := by
  obtain ⟨kind, space, name, rfl⟩ := plain
  obtain ⟨otherKind, otherSpace, otherName⟩ := other
  simp [same, Value.text_same_iff, and_assoc]

theorem Plain.same_iff' {ref : Ref} (plain : ref.Plain) (other : Ref) :
    other.same ref = true ↔ other = ref := by
  obtain ⟨kind, space, name, rfl⟩ := plain
  obtain ⟨otherKind, otherSpace, otherName⟩ := other
  simp [same, Value.same_text_iff, and_assoc]

theorem Plain.isKey {ref : Ref} (plain : ref.Plain) : ref.isKey = true := by
  obtain ⟨kind, space, name, rfl⟩ := plain
  rfl

theorem of_eq_ok {resource : Value} {ref : Ref} :
    Ref.of resource = .ok ref ↔
      ∃ metadata : Fields, resource.part? "metadata" = some (.object metadata) ∧
        resource.part? "kind" = some ref.kind ∧
        (Value.object metadata).part? "name" = some ref.name ∧
        ((Value.object metadata).part? "namespace").getD "" = ref.space := by
  constructor
  · intro known
    obtain ⟨metadata, readMetadata, known⟩ := except_bind_eq_ok.mp known
    obtain ⟨kind, readKind, known⟩ := except_bind_eq_ok.mp known
    obtain ⟨space, readSpace, known⟩ := except_bind_eq_ok.mp known
    obtain ⟨name, readName, known⟩ := except_bind_eq_ok.mp known
    cases known
    obtain ⟨⟨inner, rfl⟩, hasName⟩ := Value.item_eq_ok.mp readName
    have hasSpace := (Value.fieldD_eq_ok.mp readSpace).2
    refine ⟨inner, ?_, (Value.item_eq_ok.mp readKind).2, hasName, hasSpace⟩
    have stated := (Value.fieldD_eq_ok.mp readMetadata).2
    cases held : resource.part? "metadata" with
    | some found => simpa [held] using stated
    | none =>
        rw [held, Option.getD_none, Value.object.injEq] at stated
        subst stated
        simp [Value.part?, Fields.get?] at hasName
  · rintro ⟨metadata, held, hasKind, hasName, hasSpace⟩
    have isObject := Value.isObject_of_part? held
    have readMetadata : resource.fieldD "metadata" (.object []) = .ok (.object metadata) :=
      Value.fieldD_eq_ok.mpr ⟨isObject, by rw [held, Option.getD_some]⟩
    have readKind := Value.item_eq_ok.mpr ⟨isObject, hasKind⟩
    have readSpace := Value.fieldD_eq_ok.mpr ⟨⟨metadata, rfl⟩, hasSpace⟩
    have readName := Value.item_eq_ok.mpr ⟨⟨metadata, rfl⟩, hasName⟩
    simp only [Ref.of, readMetadata, readKind, readSpace, readName, bind, Except.bind, pure,
      Except.pure]

theorem itemAt_name {resource : Value} {ref : Ref} (known : Ref.of resource = .ok ref) :
    resource.itemAt ["metadata", "name"] = .ok ref.name := by
  obtain ⟨metadata, held, -, hasName, -⟩ := of_eq_ok.mp known
  have named : ∀ key ∈ ([.name "metadata", .name "name"] : List Key), ∃ text, key = .name text := by
    simp
  refine Value.itemAt_of_at? named ?_
  rw [Value.at?_cons, held, Option.bind_some, Value.at?_singleton, hasName]

theorem of_congr {first second : Value} {ref : Ref} (known : Ref.of first = .ok ref)
    (sameMetadata : second.part? "metadata" = first.part? "metadata")
    (sameKind : second.part? "kind" = first.part? "kind") : Ref.of second = .ok ref := by
  obtain ⟨metadata, held, hasKind, rest⟩ := of_eq_ok.mp known
  exact of_eq_ok.mpr ⟨metadata, sameMetadata.trans held, sameKind.trans hasKind, rest⟩

end Ref

namespace Store

theorem find?_eq_some {store : Store} {ref : Ref} {resource : Value}
    (found : store.find? ref = some resource) :
    ∃ entry ∈ store.entries, entry.1.same ref = true ∧ entry.2 = resource := by
  obtain ⟨entry, searched, rfl⟩ := Option.map_eq_some_iff.mp found
  have matching := List.find?_some searched
  exact ⟨entry, List.mem_of_find?_eq_some searched, matching, rfl⟩

theorem find?_keep_of_some {store : Store} {ref : Ref} {old : Value}
    (found : store.find? ref = some old) (resource : Value) (version : Nat) :
    find? ⟨keep ref resource store.entries, version⟩ ref = some resource := by
  obtain ⟨entries, before⟩ := store
  unfold find? at found ⊢
  induction entries with
  | nil => simp at found
  | cons entry rest ih =>
      cases matching : entry.1.same ref with
      | true => simp [keep, matching]
      | false =>
          simp only [matching, List.find?_cons] at found
          simpa [keep, matching] using ih found

theorem find?_keep_of_ne {ref other : Ref} (plain : ref.Plain) (different : other ≠ ref)
    (resource : Value) (store : Store) (version : Nat) :
    find? ⟨keep ref resource store.entries, version⟩ other = store.find? other := by
  obtain ⟨entries, before⟩ := store
  have strange : ref.same other = false := by
    rw [Bool.eq_false_iff]
    exact fun same => different ((plain.same_iff other).mp same)
  unfold find?
  induction entries with
  | nil => simp [keep, strange]
  | cons entry rest ih =>
      cases matching : entry.1.same ref with
      | true =>
          obtain ⟨key, old⟩ := entry
          have same : key = ref := (plain.same_iff' key).mp matching
          subst same
          simp [keep, matching, strange]
      | false =>
          cases found : entry.1.same other with
          | true => simp [keep, matching, found]
          | false => simpa [keep, matching, found] using ih

theorem find?_remove_of_ne {ref other : Ref} (plain : ref.Plain) (different : other ≠ ref)
    (store : Store) : (store.remove ref).find? other = store.find? other := by
  obtain ⟨entries, before⟩ := store
  unfold find? remove
  induction entries with
  | nil => rfl
  | cons entry rest ih =>
      cases matching : entry.1.same ref with
      | true =>
          have same : entry.1 = ref := (plain.same_iff' entry.1).mp matching
          have strange : entry.1.same other = false := by
            rw [same, Bool.eq_false_iff]
            exact fun equal => different ((plain.same_iff other).mp equal)
          simpa [matching, strange] using ih
      | false =>
          cases found : entry.1.same other with
          | true => simp [matching, found]
          | false => simpa [matching, found] using ih

theorem stamp_eq_ok {version : Nat} {resource stamped : Value}
    (written : stamp version resource = .ok stamped) :
    ∃ fields metadata, resource = .object fields ∧
      ((Fields.get? fields "metadata").getD (.object [])) = .object metadata ∧
      stamped = .object (Value.setField "metadata"
        (.object (Value.setField "resourceVersion" (.text (toString version)) metadata)) fields) := by
  obtain ⟨old, readOld, written⟩ := except_bind_eq_ok.mp written
  obtain ⟨new, assignNew, written⟩ := except_bind_eq_ok.mp written
  obtain ⟨metadata, rfl, rfl⟩ := Value.assign_eq_ok.mp assignNew
  obtain ⟨fields, rfl, rfl⟩ := Value.assign_eq_ok.mp written
  exact ⟨fields, metadata, rfl, (Value.fieldD_eq_ok.mp readOld).2, rfl⟩

def Marked (version : Nat) (resource : Value) : Prop :=
  storedVersion resource = .ok (.text (toString version))

theorem marked_of_stamp {version : Nat} {resource stamped : Value}
    (written : stamp version resource = .ok stamped) : Marked version stamped := by
  obtain ⟨fields, metadata, -, -, rfl⟩ := stamp_eq_ok written
  simp [Marked, storedVersion, Value.itemAt, Value.item, bind, Except.bind, pure, Except.pure]

theorem stamp_unversioned {version : Nat} {resource stamped metadata : Value}
    (written : stamp version resource = .ok stamped)
    (present : resource.part? "metadata" = some metadata) :
    stamped.unversioned = resource.unversioned := by
  obtain ⟨fields, inner, rfl, stated, rfl⟩ := stamp_eq_ok written
  have held : Fields.get? fields "metadata" = some (.object inner) := by
    have given : Fields.get? fields "metadata" = some metadata := present
    rw [given] at stated ⊢
    exact congrArg some stated
  rw [Value.unversioned_object, Value.unversioned_object, Value.get?_setField_self, held]
  simp only [Value.withoutField, Value.setField_setField_self, Value.eraseField_setField_self]

theorem exists_stamp {resource : Value} {ref : Ref} (known : Ref.of resource = .ok ref)
    (version : Nat) :
    ∃ stamped, stamp version resource = .ok stamped ∧
      stamped.unversioned = resource.unversioned ∧ Ref.of stamped = .ok ref := by
  obtain ⟨metadata, present, -, -, -⟩ := Ref.of_eq_ok.mp known
  cases resource with
  | object fields =>
      have held : Fields.get? fields "metadata" = some (.object metadata) := present
      have written : stamp version (.object fields) = .ok (.object (Value.setField "metadata"
          (.object (Value.setField "resourceVersion" (.text (toString version)) metadata))
          fields)) := by
        simp [stamp, Value.fieldD, Value.field?, held, Value.assign, bind, Except.bind, pure,
          Except.pure]
      have content := stamp_unversioned written present
      refine ⟨_, written, content, ?_⟩
      rw [← Ref.of_unversioned, content, Ref.of_unversioned, known]
  | _ => simp [Value.part?] at present

/-- A write spends a version whether or not the resource is of a shape to be kept. -/
theorem put_eq (store : Store) (resource : Value) :
    store.put resource =
      match stamp (store.version + 1) resource with
      | .error mismatch => (.error (.mismatch mismatch), ⟨store.entries, store.version + 1⟩)
      | .ok stamped =>
        match Ref.of stamped with
        | .error mismatch => (.error (.mismatch mismatch), ⟨store.entries, store.version + 1⟩)
        | .ok ref =>
          match key ref with
          | .error fault => (.error fault, ⟨store.entries, store.version + 1⟩)
          | .ok ref => (.ok stamped, ⟨keep ref stamped store.entries, store.version + 1⟩) := by
  cases written : stamp (store.version + 1) resource with
  | error mismatch =>
      simp [put, written, bind, Except.bind, MonadLiftT.monadLift, MonadLift.monadLift, liftM,
        monadLift, Except.mapError]
  | ok stamped =>
      cases known : Ref.of stamped with
      | error mismatch =>
          simp [put, written, known, bind, Except.bind, MonadLiftT.monadLift,
            MonadLift.monadLift, liftM, monadLift, Except.mapError]
      | ok ref =>
          cases usable : key ref <;>
            simp [put, written, known, usable, bind, Except.bind, MonadLiftT.monadLift,
              MonadLift.monadLift, liftM, monadLift, Except.mapError, pure, Except.pure]

/-- Every write takes a version; it either keeps the marked resource or leaves
the resources as they are. -/
theorem put_cases (store : Store) (resource : Value) :
    (∃ stamped ref, stamp (store.version + 1) resource = .ok stamped ∧
        Ref.of stamped = .ok ref ∧
        store.put resource =
          (.ok stamped, ⟨keep ref stamped store.entries, store.version + 1⟩)) ∨
      ∃ fault, store.put resource =
        (.error fault, ⟨store.entries, store.version + 1⟩) := by
  rw [put_eq]
  cases stamp (store.version + 1) resource with
  | error mismatch => exact .inr ⟨_, rfl⟩
  | ok stamped =>
      simp only
      cases known : Ref.of stamped with
      | error mismatch => exact .inr ⟨_, rfl⟩
      | ok ref =>
          by_cases usable : ref.isKey = true
          · simp only [key, usable, if_true]
            exact .inl ⟨stamped, ref, rfl, known, rfl⟩
          · simp only [key, usable, Bool.false_eq_true, if_false]
            exact .inr ⟨_, rfl⟩

theorem answers_cases {α β : Type} {related : α → β → Prop} {found : Option α} {other : Option β}
    (answers : Option.Rel related found other) :
    found = none ∧ other = none ∨
      ∃ value held, found = some value ∧ other = some held ∧ related value held := by
  cases answers with
  | none => exact .inl ⟨rfl, rfl⟩
  | some same => exact .inr ⟨_, _, rfl, rfl, same⟩

end Store
end CuratorKeeper
