import CuratorKeeper.Proofs.Program.Likeness
import CuratorKeeper.Proofs.Store.Service
import CuratorKeeper.Proofs.Value.Veil
import Mathlib.Data.List.Forall2

/-!
# Stores that differ in the data of a secret

Two stores may hold the same resources but for the texts that stand in their data.
Requests that differ in nothing else are answered alike by both, and so are foreign
deeds: nothing that a store does depends on such a text.  If no deed gives a
resource another reference, the texts of one secret stay where they are.
-/

namespace CuratorKeeper

/-- Two resources that look the same under the veil.  If secrets are kept, they
are the same, or both are the one secret. -/
structure Value.Secretive (kept : Prop) (secret : Ref) (resource other : Value) : Prop where
  veiled : resource.veiled = other.veiled
  own : kept → resource = other ∨ ∀ own, Ref.of resource = .ok own → own = secret

namespace Value.Secretive

variable {kept : Prop} {secret : Ref} {resource other : Value}

theorem refl (kept : Prop) (secret : Ref) (resource : Value) :
    Value.Secretive kept secret resource resource := ⟨rfl, fun _ => .inl rfl⟩

theorem assign (secretive : Value.Secretive kept secret resource other) {key : Key}
    (different : key ≠ "data") {value written : Value}
    (assigned : resource.assign key value = .ok written)
    (known : ∀ own, Ref.of written = .ok own → Ref.of resource = .ok own) :
    ∃ result, other.assign key value = .ok result ∧ Value.Secretive kept secret written result := by
  obtain ⟨result, assignedOther, same⟩ := Value.veiled_assign secretive.veiled different assigned
  refine ⟨result, assignedOther, same, fun keeps => ?_⟩
  rcases secretive.own keeps with rfl | isSecret
  · exact .inl (Except.ok.inj (assigned.symm.trans assignedOther))
  · exact .inr fun own isOwn => isSecret own (known own isOwn)

theorem field? (secretive : Value.Secretive kept secret resource other) {key : Key}
    (different : key ≠ "data") : resource.field? key = other.field? key :=
  Value.field?_of_veiled secretive.veiled different

theorem ref_eq (secretive : Value.Secretive kept secret resource other) :
    Ref.of other = Ref.of resource := Ref.of_veiled secretive.veiled.symm

theorem itemAt_metadata (secretive : Value.Secretive kept secret resource other)
    (path : List Key) :
    resource.itemAt ("metadata" :: path) = other.itemAt ("metadata" :: path) := by
  have metadata := secretive.field? (by decide : Key.name "metadata" ≠ "data")
  simp only [Value.itemAt, List.foldlM_cons, Value.item_congr metadata]

theorem storedVersion_eq (secretive : Value.Secretive kept secret resource other) :
    Store.storedVersion other = Store.storedVersion resource := by
  rw [Store.storedVersion, Store.storedVersion, secretive.itemAt_metadata]

theorem submittedVersion_eq (secretive : Value.Secretive kept secret resource other) :
    Store.submittedVersion other = Store.submittedVersion resource := by
  have metadata := secretive.field? (by decide : Key.name "metadata" ≠ "data")
  simp only [Store.submittedVersion, Value.item_congr metadata]

end Value.Secretive

/-- Two runs differ in nothing but the texts in the data of resources, and in their log
lines if these are not heard. -/
def Likeness.contents (heard kept : Prop) (secret : Ref) : Likeness where
  toFaultLikeness := .same
  Stage := Unit
  later _ _ := True
  value _ := Value.Secretive kept secret
  made := Value.Secretive kept secret
  about _ := True
  heard := heard
  timed := True
  refl _ := trivial
  trans _ _ := trivial
  keeps _ secretive := secretive
  named secretive := secretive.itemAt_metadata _
  reads secretive _ watched := secretive.field? (watched_ne watched (by decide)).symm
  writes secretive key watched _ _ assigned :=
    secretive.assign (watched_ne watched (by decide)).symm assigned
      fun _ known => (Ref.of_assign_iff watched assigned).mp known
  itself _ _ := .refl _ _ _
  heard_timed _ := trivial
  heard_message _ _ _ same := congrArg StoreFault.message (Fault.store.inj same)

namespace Store

/-- Two entries with the same reference, of which only the one of the secret may differ if
secrets are kept. -/
structure Conceals.Entry (kept : Prop) (secret : Ref) (entry other : Ref × Value) : Prop where
  ref : entry.1 = other.1
  value : Value.Secretive kept secret entry.2 other.2
  place : kept → entry.2 = other.2 ∨ entry.1 = secret

/-- Two stores that differ in nothing but the texts in the data of resources. -/
structure Conceals (kept : Prop) (secret : Ref) (store other : Store) : Prop where
  version : store.version = other.version
  entries : List.Forall₂ (Conceals.Entry kept secret) store.entries other.entries

namespace Conceals

variable {heard kept : Prop} {secret : Ref} {store other : Store}

theorem refl (kept : Prop) (secret : Ref) (store : Store) : Conceals kept secret store store :=
  ⟨rfl, List.forall₂_same.mpr fun _ _ => ⟨rfl, .refl _ _ _, fun _ => .inl rfl⟩⟩

theorem find? (conceals : Conceals kept secret store other) (ref : Ref) :
    Option.Rel (Value.Secretive kept secret) (store.find? ref) (other.find? ref) := by
  obtain ⟨entries, version⟩ := store
  obtain ⟨others, number⟩ := other
  have alike : List.Forall₂ (Entry kept secret) entries others := conceals.entries
  unfold Store.find?
  clear conceals
  induction alike with
  | nil => exact .none
  | @cons entry another rest others first _ ih =>
      rw [List.find?_cons, List.find?_cons, ← first.ref]
      cases entry.1.same ref with
      | true => exact .some first.value
      | false => exact ih

theorem find?_cases (conceals : Conceals kept secret store other) (ref : Ref) :
    store.find? ref = none ∧ other.find? ref = none ∨
      ∃ stored held, store.find? ref = some stored ∧ other.find? ref = some held ∧
        Value.Secretive kept secret stored held :=
  answers_cases (conceals.find? ref)

/-- If secrets are kept, all but the one secret is the same. -/
theorem find?_eq (conceals : Conceals kept secret store other) (keeps : kept) (plain : secret.Plain)
    {ref : Ref} (different : ref ≠ secret) : store.find? ref = other.find? ref := by
  obtain ⟨entries, version⟩ := store
  obtain ⟨others, number⟩ := other
  have alike : List.Forall₂ (Entry kept secret) entries others := conceals.entries
  unfold Store.find?
  clear conceals
  induction alike with
  | nil => rfl
  | @cons entry another rest others first _ ih =>
      rw [List.find?_cons, List.find?_cons, ← first.ref]
      cases matching : entry.1.same ref with
      | false => exact ih
      | true =>
          rcases first.place keeps with same | isSecret
          · simp only [Option.map_some, same]
          · rw [isSecret, plain.same_iff] at matching
            exact absurd matching different

theorem keep {entries others : List (Ref × Value)}
    (alike : List.Forall₂ (Entry kept secret) entries others) (plain : secret.Plain) {ref : Ref}
    {resource new : Value} (known : Ref.of resource = .ok ref)
    (secretive : Value.Secretive kept secret resource new) :
    List.Forall₂ (Entry kept secret) (Store.keep ref resource entries)
      (Store.keep ref new others) := by
  have isSecret : kept → resource = new ∨ ref = secret :=
    fun keeps => (secretive.own keeps).imp id fun own => own ref known
  induction alike with
  | nil => exact .cons ⟨rfl, secretive, isSecret⟩ .nil
  | @cons entry another rest others first alike ih =>
      rw [Store.keep, Store.keep, ← first.ref]
      cases matching : entry.1.same ref with
      | false => exact .cons first ih
      | true =>
          refine .cons ⟨rfl, secretive, fun keeps => ?_⟩ alike
          -- What is like the reference of the secret is that reference.
          refine (isSecret keeps).imp id fun own => ?_
          rw [own] at matching
          exact (plain.same_iff' entry.1).mp matching

theorem remove (conceals : Conceals kept secret store other) (ref : Ref) :
    Conceals kept secret (store.remove ref) (other.remove ref) := by
  obtain ⟨entries, version⟩ := store
  obtain ⟨others, number⟩ := other
  have alike : List.Forall₂ (Entry kept secret) entries others := conceals.entries
  refine ⟨conceals.version, ?_⟩
  unfold Store.remove
  clear conceals
  induction alike with
  | nil => exact .nil
  | @cons entry another rest others first _ ih =>
      simp only [List.filter_cons, ← first.ref]
      split
      · exact .cons first ih
      · exact ih

theorem stamp {resource new : Value} (secretive : Value.Secretive kept secret resource new)
    (version : Nat) :
    (Likeness.contents heard kept secret).Copies () (Store.stamp version resource)
      (Store.stamp version new) := by
  have reads : new.fieldD "metadata" (.object []) = resource.fieldD "metadata" (.object []) :=
    Value.fieldD_congr (secretive.field? (by decide : Key.name "metadata" ≠ "data")).symm _
  cases read : resource.fieldD "metadata" (.object []) with
  | error mismatch =>
      simp only [Store.stamp, reads, read, bind, Except.bind]
      exact .error mismatch
  | ok old =>
      cases marks : old.assign "resourceVersion" (.text (toString version)) with
      | error mismatch =>
          simp only [Store.stamp, reads, read, marks, bind, Except.bind]
          exact .error mismatch
      | ok marked =>
          obtain ⟨fields, rfl⟩ := (Value.fieldD_eq_ok.mp read).1
          have written : Store.stamp version (.object fields) =
              .ok (.object (Value.setField "metadata" marked fields)) := by
            simp only [Store.stamp, read, marks, bind, Except.bind]
            rfl
          obtain ⟨result, assigned, alike⟩ := secretive.assign (by decide) rfl
            fun own known => Ref.of_stamp written known
          have writtenOther : Store.stamp version new = .ok result := by
            simp only [Store.stamp, reads, read, marks, bind, Except.bind]
            exact assigned
          rw [written, writtenOther]
          exact .ok alike

theorem put (conceals : Conceals kept secret store other) (plain : secret.Plain)
    {resource new : Value} (secretive : Value.Secretive kept secret resource new) :
    (Likeness.contents heard kept secret).Ends (Value.Secretive kept secret) (store.put resource).1
        (other.put new).1 ∧
      Conceals kept secret (store.put resource).2 (other.put new).2 := by
  have copies := @stamp heard _ _ _ _ secretive (store.version + 1)
  have spent : Conceals kept secret ⟨store.entries, store.version + 1⟩
      ⟨other.entries, other.version + 1⟩ := ⟨by rw [conceals.version], conceals.entries⟩
  rw [put_eq, put_eq, ← conceals.version] at *
  revert copies
  generalize Store.stamp (store.version + 1) resource = written,
    Store.stamp (store.version + 1) new = writtenOther
  intro copies
  cases copies with
  | error mismatch => exact ⟨.error rfl, spent⟩
  | @ok stamped result alike =>
      simp only [alike.ref_eq]
      cases known : Ref.of stamped with
      | error mismatch => exact ⟨.error rfl, spent⟩
      | ok ref =>
          cases usable : key ref with
          | error fault => simp only [usable]; exact ⟨.error rfl, spent⟩
          | ok found =>
              obtain rfl := key_eq_ok usable
              simp only [usable]
              exact ⟨.ok alike, rfl, keep conceals.entries plain known alike⟩

theorem copies_updated {stored held resource new : Value}
    (before : Value.Secretive kept secret stored held)
    (secretive : Value.Secretive kept secret resource new) (part : Option String) :
    (Likeness.contents heard kept secret).Copies () (updated stored resource part)
      (updated held new part) := by
  by_cases status : part = some "status"
  · have reads : new.fieldD "status" .null = resource.fieldD "status" .null :=
      Value.fieldD_congr (secretive.field? (by decide : Key.name "status" ≠ "data")).symm _
    simp only [updated, if_pos status, Value.field, reads]
    cases resource.fieldD "status" .null with
    | error mismatch => exact .error mismatch
    | ok value =>
        exact @Likeness.copies_assign (Likeness.contents heard kept secret) () _ _ before "status"
          (by decide) value
  · rw [updated, updated, if_neg status, if_neg status]
    exact .ok secretive

theorem update (conceals : Conceals kept secret store other) (plain : secret.Plain)
    {resource new : Value} (secretive : Value.Secretive kept secret resource new) (ref : Ref)
    (part : Option String) :
    (Likeness.contents heard kept secret).Answers () .update
        (store.serve ref (.update resource part)).1
        (other.serve ref (.update new part)).1 ∧
      Conceals kept secret (store.serve ref (.update resource part)).2
        (other.serve ref (.update new part)).2 := by
  simp only [serve]
  cases usable : key ref with
  | error fault => exact ⟨.error rfl, conceals⟩
  | ok found =>
      simp only
      rcases conceals.find?_cases found with ⟨absent, gone⟩ | ⟨stored, held, finds, holds, before⟩
      · simp only [absent, gone]
        exact ⟨.error rfl, conceals⟩
      · have copies := @copies_updated heard _ _ _ _ _ _ before secretive part
        simp only [finds, holds, before.storedVersion_eq, secretive.submittedVersion_eq]
        cases storedVersion stored with
        | error mismatch => exact ⟨.error rfl, conceals⟩
        | ok current =>
            cases submittedVersion resource with
            | error mismatch => exact ⟨.error rfl, conceals⟩
            | ok submitted =>
                revert copies
                generalize updated stored resource part = written, updated held new part = result
                intro copies
                cases copies with
                | error mismatch => exact ⟨.error rfl, conceals⟩
                | ok alike =>
                    simp only
                    split
                    · obtain ⟨ends, after⟩ := conceals.put plain alike
                      exact ⟨ends.answers _, after⟩
                    · exact ⟨.error rfl, conceals⟩

/-- Requests that look the same are answered alike. -/
theorem serve (conceals : Conceals kept secret store other) (plain : secret.Plain)
    {request asked : Request} (asks : (Likeness.contents heard kept secret).Asks () request asked)
    (ref : Ref) :
    (Likeness.contents heard kept secret).Answers () request.verb (store.serve ref request).1
        (other.serve ref asked).1 ∧
      Conceals kept secret (store.serve ref request).2 (other.serve ref asked).2 := by
  cases asks with
  | update secretive part => exact conceals.update plain secretive ref part
  | create secretive =>
      simp only [Store.serve]
      cases usable : key ref with
      | error fault => exact ⟨.error rfl, conceals⟩
      | ok found =>
          simp only
          rcases conceals.find?_cases found with ⟨absent, gone⟩ | ⟨stored, held, finds, holds, -⟩
          · simp only [absent, gone, Option.isSome_none, Bool.false_eq_true, if_false]
            obtain ⟨ends, after⟩ := conceals.put plain secretive
            exact ⟨ends.answers _, after⟩
          · simp only [finds, holds, Option.isSome_some, if_true]
            exact ⟨.error rfl, conceals⟩
  | @get target about =>
      simp only [Store.serve]
      cases usable : key target with
      | error fault => exact ⟨.error rfl, conceals⟩
      | ok found =>
          simp only
          rcases conceals.find?_cases found with
            ⟨absent, gone⟩ | ⟨stored, held, finds, holds, alike⟩
          · simp only [absent, gone]
            exact ⟨.error rfl, conceals⟩
          · simp only [finds, holds]
            exact ⟨.ok fun _ => alike, conceals⟩
  | @delete target about =>
      simp only [Store.serve]
      cases usable : key target with
      | error fault => exact ⟨.error rfl, conceals⟩
      | ok found =>
          simp only
          rcases conceals.find?_cases found with ⟨absent, gone⟩ | ⟨stored, held, finds, holds, -⟩
          · simp only [absent, gone, Option.isSome_none, Bool.false_eq_true, if_false]
            exact ⟨.error rfl, conceals⟩
          · simp only [finds, holds, Option.isSome_some, if_true]
            exact ⟨.ok (by simp [Request.verb]), conceals.remove found⟩

end Conceals

/-- Single places of a resource changed one after another. -/
def edited (edits : List Edit) (resource : Value) : Value :=
  edits.foldl (fun resource edit => edit.apply resource) resource

def KeepsRef (edits : List Edit) : Prop :=
  ∀ resource own, Ref.of (edited edits resource) = .ok own → Ref.of resource = .ok own

/-- Edits outside of the kind and the metadata leave the reference as it is. -/
theorem keepsRef_of_heads {edits : List Edit} (heads : ∀ edit ∈ edits, ∃ key rest,
    edit.path = key :: rest ∧ key ≠ "kind" ∧ key ≠ "metadata") : KeepsRef edits := by
  induction edits with
  | nil => exact fun _ _ known => known
  | cons edit edits ih =>
      intro resource own known
      have further := ih (fun edit member => heads edit (List.mem_cons_of_mem _ member))
      obtain ⟨key, rest, path, notKind, notMetadata⟩ := heads edit List.mem_cons_self
      have before : Ref.of (edit.apply resource) = .ok own := further _ own known
      refine Ref.of_congr before ?_ ?_
      · exact (Value.part?_apply_of_ne path notMetadata.symm resource).symm
      · exact (Value.part?_apply_of_ne path notKind.symm resource).symm

namespace Conceals

variable {kept : Prop} {secret : Ref} {store other : Store}

/-- All that is told of a foreign write is whether it failed. -/
theorem told_eq {answer reply : Except Fault Value}
    (ends : (Likeness.contents True kept secret).Ends (Value.Secretive kept secret) answer reply) :
    (answer.map fun _ => ()) = reply.map fun _ => () := by
  cases ends with
  | ok same => rfl
  | error same => exact congrArg Except.error same

theorem edit (conceals : Conceals kept secret store other) (plain : secret.Plain) (ref : Ref)
    {edits : List Edit} (keeps : kept → KeepsRef edits) :
    (store.edit ref edits).1 = (other.edit ref edits).1 ∧
      Conceals kept secret (store.edit ref edits).2 (other.edit ref edits).2 := by
  simp only [Store.edit]
  cases usable : key ref with
  | error fault => exact ⟨rfl, conceals⟩
  | ok found =>
      simp only
      rcases conceals.find?_cases found with ⟨absent, gone⟩ | ⟨stored, held, finds, holds, before⟩
      · simp only [absent, gone]
        exact ⟨trivial, conceals⟩
      · simp only [finds, holds]
        have alike : Value.Secretive kept secret (edited edits stored) (edited edits held) := by
          refine ⟨Value.veiled_edits before.veiled edits, fun isKept => ?_⟩
          refine (before.own isKept).imp (fun same => by rw [same]) fun isSecret own known => ?_
          exact isSecret own (keeps isKept stored own known)
        obtain ⟨ends, after⟩ := conceals.put plain alike
        exact ⟨told_eq ends, after⟩

end Conceals
end Store

def Disturbance.KeepsRef (disturbance : Disturbance) : Prop :=
  ∀ edits, disturbance.deed = .edit edits → Store.KeepsRef edits

namespace Store.Conceals

variable {kept : Prop} {secret : Ref} {store other : Store}

theorem disturb (conceals : Conceals kept secret store other) (plain : secret.Plain) (ref : Ref)
    {disturbance : Disturbance} (keeps : kept → disturbance.KeepsRef) :
    (store.disturb ref disturbance).1 = (other.disturb ref disturbance).1 ∧
      Conceals kept secret (store.disturb ref disturbance).2 (other.disturb ref disturbance).2 := by
  obtain ⟨deed, target⟩ := disturbance
  cases deed with
  | edit edits => exact conceals.edit plain _ fun isKept => keeps isKept edits rfl
  | put resource =>
      obtain ⟨ends, after⟩ := conceals.put plain (.refl kept secret resource)
      exact ⟨told_eq ends, after⟩
  | cull =>
      simp only [Store.disturb, Store.cull]
      cases usable : key (target.getD ref) with
      | error fault => exact ⟨rfl, conceals⟩
      | ok found => exact ⟨rfl, conceals.remove found⟩
  | fail fault => exact ⟨rfl, conceals⟩

theorem disturbAll (conceals : Conceals kept secret store other) (plain : secret.Plain) (ref : Ref)
    {disturbances : List Disturbance}
    (keeps : kept → ∀ disturbance ∈ disturbances, disturbance.KeepsRef) :
    (store.disturbAll ref disturbances).1 = (other.disturbAll ref disturbances).1 ∧
      Conceals kept secret (store.disturbAll ref disturbances).2
        (other.disturbAll ref disturbances).2 := by
  induction disturbances generalizing store other with
  | nil => exact ⟨rfl, conceals⟩
  | cons disturbance rest ih =>
      obtain ⟨same, after⟩ := conceals.disturb plain ref
        fun isKept => keeps isKept disturbance List.mem_cons_self
      have others : kept → ∀ disturbance ∈ rest, disturbance.KeepsRef :=
        fun isKept disturbance member => keeps isKept disturbance (List.mem_cons_of_mem _ member)
      rw [Store.disturbAll, Store.disturbAll]
      revert same after
      generalize store.disturb ref disturbance = first, other.disturb ref disturbance = second
      obtain ⟨answer, left⟩ := first
      obtain ⟨reply, right⟩ := second
      rintro rfl after
      cases answer with
      | ok done => exact ih after others
      | error fault => exact ⟨rfl, after⟩

end Store.Conceals
end CuratorKeeper
