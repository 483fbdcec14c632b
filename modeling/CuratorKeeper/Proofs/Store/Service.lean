import CuratorKeeper.Proofs.Store.Evolution

/-!
# How a store serves its requests

What each kind of request says about the resources when the store answers it.
An accepted update was submitted with the version that is stored, and leaves
the submitted resource marked with the next one.
-/

namespace CuratorKeeper

namespace Store

variable {store after : Store} {ref : Ref} {value : Value}

theorem key_eq_ok {found : Ref} (usable : key ref = .ok found) : found = ref := by
  unfold key at usable
  split at usable
  · cases usable
    rfl
  · cases usable

theorem key_eq_error {fault : Fault} (unusable : key ref = .error fault) :
    fault = .mismatch .unsuited := by
  unfold key at unusable
  split at unusable
  · cases unusable
  · exact (Except.error.inj unusable).symm

theorem key_of_plain (plain : ref.Plain) : key ref = .ok ref := by
  simp [key, plain.isKey]

theorem serve_get_eq_ok (served : store.serve ref (.get ref) = (.ok value, after)) :
    store.find? ref = some value ∧ after = store := by
  simp only [serve] at served
  split at served
  · cases served
  next found usable =>
    cases key_eq_ok usable
    split at served
    next resource held =>
      cases served
      exact ⟨held, rfl⟩
    next => cases served

/-- A served update was submitted with the version that is stored. -/
theorem serve_update_eq_ok {resource : Value} {part : Option String}
    (served : store.serve ref (.update resource part) = (.ok value, after)) :
    ∃ stored current submitted new, store.find? ref = some stored ∧
      storedVersion stored = .ok current ∧ submittedVersion resource = .ok submitted ∧
      updated stored resource part = .ok new ∧ current.same submitted = true ∧
      store.put new = (.ok value, after) := by
  simp only [serve] at served
  split at served
  · cases served
  next found usable =>
    cases key_eq_ok usable
    split at served
    next => cases served
    next stored held =>
      split at served
      next current submitted new isCurrent isSubmitted isNew =>
        split at served
        next same =>
          exact ⟨stored, current, submitted, new, held, isCurrent, isSubmitted, isNew, same, served⟩
        next => cases served
      all_goals cases served

theorem put_eq_ok {resource : Value} (written : store.put resource = (.ok value, after)) :
    ∃ own, stamp (store.version + 1) resource = .ok value ∧ Ref.of value = .ok own ∧
      after = ⟨keep own value store.entries, store.version + 1⟩ := by
  rcases put_cases store resource with ⟨stamped, own, stamps, known, put⟩ | ⟨fault, put⟩
  · rw [put] at written
    cases written
    exact ⟨own, stamps, known, rfl⟩
  · rw [put] at written
    cases written

/-- What is written under a reference is what was submitted, with the next version. -/
theorem put_of_known {own : Ref} {resource : Value} (known : Ref.of resource = .ok own)
    (written : store.put resource = (.ok value, after)) :
    value.unversioned = resource.unversioned ∧
      after = ⟨keep own value store.entries, store.version + 1⟩ := by
  obtain ⟨kept, stamps, knownKept, rfl⟩ := put_eq_ok written
  obtain ⟨metadata, present, -⟩ := Ref.of_eq_ok.mp known
  have content := stamp_unversioned stamps present
  have isOwn : kept = own := by
    rw [← Ref.of_unversioned, content, Ref.of_unversioned, known] at knownKept
    exact (Except.ok.inj knownKept).symm
  exact ⟨content, by rw [isOwn]⟩

theorem put_eq_error {fault : Fault} {resource : Value}
    (failed : store.put resource = (.error fault, after)) :
    ∃ mismatch, fault = .mismatch mismatch := by
  rw [put_eq] at failed
  split at failed
  next mismatch _ =>
    cases failed
    exact ⟨mismatch, rfl⟩
  next stamped _ =>
    split at failed
    next mismatch _ =>
      cases failed
      exact ⟨mismatch, rfl⟩
    next own _ =>
      split at failed
      next unsuited usable =>
        cases failed
        exact ⟨.unsuited, key_eq_error usable⟩
      next => cases failed

variable {resource stored submitted new : Value} {version : Nat} {part : Option String}

theorem serve_get_some (plain : ref.Plain) (found : store.find? ref = some stored) :
    store.serve ref (.get ref) = (.ok stored, store) := by
  simp [serve, key_of_plain plain, found]

theorem serve_get_none (plain : ref.Plain) (missing : store.find? ref = none) :
    store.serve ref (.get ref) = (.error (absent ref), store) := by
  simp [serve, key_of_plain plain, missing]

theorem put_of_plain (plain : ref.Plain) (known : Ref.of resource = .ok ref) (store : Store) :
    ∃ written, store.put resource = (.ok written, ⟨keep ref written store.entries, store.version + 1⟩) ∧
      written.unversioned = resource.unversioned := by
  obtain ⟨stamped, stamps, content, knownStamped⟩ := exists_stamp known (store.version + 1)
  refine ⟨stamped, ?_, content⟩
  simp [put, stamps, knownStamped, key_of_plain plain, bind, Except.bind, MonadLiftT.monadLift,
    MonadLift.monadLift, liftM, monadLift, Except.mapError, pure, Except.pure]

theorem find?_keep_of_plain (plain : ref.Plain) (written : Value) (entries : List (Ref × Value))
    (version : Nat) : find? ⟨keep ref written entries, version⟩ ref = some written :=
  find?_keep_self ((plain.same_iff ref).mpr rfl) written entries version

theorem serve_create_some (plain : ref.Plain) (found : store.find? ref = some stored) :
    store.serve ref (.create resource) =
      (.error (refuse .alreadyExists ref " exists" 409), store) := by
  simp [serve, key_of_plain plain, found]

theorem serve_create_none (plain : ref.Plain) (missing : store.find? ref = none) :
    store.serve ref (.create resource) = store.put resource := by
  simp [serve, key_of_plain plain, missing]

theorem serve_delete_some (plain : ref.Plain) (found : store.find? ref = some stored) :
    store.serve ref (.delete ref) = (.ok .null, store.remove ref) := by
  simp [serve, key_of_plain plain, found]

theorem serve_delete_none (plain : ref.Plain) (missing : store.find? ref = none) :
    store.serve ref (.delete ref) = (.error (absent ref), store) := by
  simp [serve, key_of_plain plain, missing]

theorem serve_update_none (plain : ref.Plain) (missing : store.find? ref = none) :
    store.serve ref (.update resource part) = (.error (absent ref), store) := by
  simp [serve, key_of_plain plain, missing]

theorem serve_update (plain : ref.Plain) (found : store.find? ref = some stored)
    (marked : Marked version stored) (submits : submittedVersion resource = .ok submitted)
    (makes : updated stored resource part = .ok new) :
    store.serve ref (.update resource part) =
      if (Value.text (toString version)).same submitted then store.put new
      else (.error (refuse .conflict ref " version conflict" 409), store) := by
  have current : storedVersion stored = .ok (.text (toString version)) := marked
  simp only [serve, key_of_plain plain, found, current, submits, makes]

theorem serve_update_current (plain : ref.Plain) (found : store.find? ref = some stored)
    (marked : Marked version stored)
    (submits : submittedVersion resource = .ok (.text (toString version)))
    (makes : updated stored resource part = .ok new) :
    store.serve ref (.update resource part) = store.put new := by
  rw [serve_update plain found marked submits makes, if_pos ((Value.text_same_iff _ _).mpr rfl)]

theorem serve_update_stale {other : Nat} (plain : ref.Plain) (found : store.find? ref = some stored)
    (marked : Marked version stored)
    (submits : submittedVersion resource = .ok (.text (toString other)))
    (makes : updated stored resource part = .ok new) (stale : version ≠ other) :
    store.serve ref (.update resource part) =
      (.error (refuse .conflict ref " version conflict" 409), store) := by
  rw [serve_update plain found marked submits makes, if_neg]
  rw [Value.text_same_iff, Value.text.injEq]
  exact fun equal => stale (version_injective equal.symm)

theorem exists_submittedVersion (known : Ref.of resource = .ok ref) :
    ∃ submitted, submittedVersion resource = .ok submitted := by
  obtain ⟨metadata, held, -⟩ := Ref.of_eq_ok.mp known
  have read : (Value.object metadata).field "resourceVersion" =
      .ok (((Value.object metadata).part? "resourceVersion").getD .null) :=
    Value.field_eq_ok.mpr ⟨⟨metadata, rfl⟩, rfl⟩
  exact ⟨_, except_bind_eq_ok.mpr ⟨_, Value.item_of_part? held, read⟩⟩

theorem exists_updated (stands : Ref.of stored = .ok ref) (known : Ref.of resource = .ok ref)
    (part : Option String) :
    ∃ new, updated stored resource part = .ok new ∧ Ref.of new = .ok ref := by
  obtain ⟨_, heldStored, -⟩ := Ref.of_eq_ok.mp stands
  obtain ⟨_, heldNew, -⟩ := Ref.of_eq_ok.mp known
  by_cases status : part = some "status"
  · obtain ⟨fields, rfl⟩ := Value.isObject_of_part? heldStored
    have read : resource.field "status" = .ok ((resource.part? "status").getD .null) :=
      Value.field_eq_ok.mpr ⟨Value.isObject_of_part? heldNew, rfl⟩
    have assigned : (Value.object fields).assign "status" ((resource.part? "status").getD .null) =
        .ok (.object (Value.setField "status" ((resource.part? "status").getD .null) fields)) := rfl
    refine ⟨_, ?_, Ref.of_congr stands (Value.part?_assign_of_ne assigned (by decide))
      (Value.part?_assign_of_ne assigned (by decide))⟩
    rw [updated, if_pos status]
    exact except_bind_eq_ok.mpr ⟨_, read, assigned⟩
  · exact ⟨resource, if_neg status, known⟩

/-- A copy whose metadata were left alone is submitted with the version that it
was read with. -/
theorem submittedVersion_of_marked {live patched : Value} {version : Nat}
    (marked : Marked version live) (same : patched.part? "metadata" = live.part? "metadata") :
    submittedVersion patched = .ok (.text (toString version)) := by
  obtain ⟨metadata, readMetadata, readVersion⟩ := except_bind_eq_ok.mp marked
  obtain ⟨found, readFound, rest⟩ := except_bind_eq_ok.mp readVersion
  cases rest
  have held := same.trans (Value.item_eq_ok.mp readMetadata).2
  obtain ⟨isObject, heldVersion⟩ := Value.item_eq_ok.mp readFound
  refine except_bind_eq_ok.mpr ⟨metadata, Value.item_of_part? held, ?_⟩
  exact Value.field_eq_ok.mpr ⟨isObject, by rw [heldVersion, Option.getD_some]⟩

/-- A changed copy that is accepted as an update was made from what is stored,
if its metadata were left alone. -/
theorem eq_of_update_accepted {first second after : Store} {ref other : Ref}
    {live patched value : Value} {part : Option String} (sound : first.Sound)
    (soundNow : second.Sound) (evolves : first.Evolves second)
    (found : first.find? other = some live)
    (same : patched.part? "metadata" = live.part? "metadata")
    (served : second.serve ref (.update patched part) = (.ok value, after)) :
    second.find? ref = some live := by
  obtain ⟨stored, current, submitted, new, held, isCurrent, isSubmitted, -, equal, -⟩ :=
    serve_update_eq_ok served
  obtain ⟨entry, member, -, rfl⟩ := find?_eq_some found
  obtain ⟨now, nowMember, -, rfl⟩ := find?_eq_some held
  obtain ⟨version, -, mark⟩ := sound.marked entry member
  obtain ⟨versionNow, -, markNow⟩ := soundNow.marked now nowMember
  have stated : submitted = .text (toString version) := by
    have both := isSubmitted.symm.trans (submittedVersion_of_marked mark same)
    simpa using both
  have isText : current = .text (toString versionNow) := by
    have both := isCurrent.symm.trans markNow
    simpa using both
  rw [stated, isText, Value.text_same_iff] at equal
  have versions : storedVersion entry.2 = storedVersion now.2 := by
    rw [mark, markNow, equal]
  rw [held, evolves.eq_of_storedVersion sound found held versions]

/-- In a sound store a request about a resource under texts is served or refused. -/
theorem exists_refusal {request : Request} {fault : Fault} (plain : ref.Plain) (sound : store.Sound)
    (about : request.ref = .ok ref)
    (failed : store.serve ref request = (.error fault, after)) : ∃ refused, fault = .store refused := by
  cases request with
  | create resource =>
      cases found : store.find? ref with
      | some stored =>
          rw [serve_create_some plain found] at failed
          exact ⟨_, (Except.error.inj (Prod.mk.inj failed).1).symm⟩
      | none =>
          obtain ⟨written, puts, -⟩ := put_of_plain plain about store
          rw [serve_create_none plain found, puts] at failed
          cases failed
  | get target =>
      obtain rfl : target = ref := Except.ok.inj about
      cases found : store.find? target with
      | some stored =>
          rw [serve_get_some plain found] at failed
          cases failed
      | none =>
          rw [serve_get_none plain found] at failed
          exact ⟨_, (Except.error.inj (Prod.mk.inj failed).1).symm⟩
  | update resource part =>
      cases found : store.find? ref with
      | none =>
          rw [serve_update_none plain found] at failed
          exact ⟨_, (Except.error.inj (Prod.mk.inj failed).1).symm⟩
      | some stored =>
          obtain ⟨version, marked⟩ := sound.marked_of_found found
          obtain ⟨submitted, submits⟩ := exists_submittedVersion about
          obtain ⟨new, makes, known⟩ := exists_updated (sound.ref_of_found plain found) about part
          rw [serve_update plain found marked submits makes] at failed
          split at failed
          · obtain ⟨written, puts, -⟩ := put_of_plain plain known store
            rw [puts] at failed
            cases failed
          · exact ⟨_, (Except.error.inj (Prod.mk.inj failed).1).symm⟩
  | delete target =>
      obtain rfl : target = ref := Except.ok.inj about
      cases found : store.find? target with
      | some stored =>
          rw [serve_delete_some plain found] at failed
          cases failed
      | none =>
          rw [serve_delete_none plain found] at failed
          exact ⟨_, (Except.error.inj (Prod.mk.inj failed).1).symm⟩

end Store
end CuratorKeeper
