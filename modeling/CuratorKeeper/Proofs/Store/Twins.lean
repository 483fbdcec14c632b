import CuratorKeeper.Proofs.Program.Likeness
import CuratorKeeper.Proofs.Store.Service
import CuratorKeeper.Proofs.Value.Mask

/-!
# Stores that hold the same in one namespace

Two stores may have been written to differently outside of a namespace, and then
they do not give out the same versions.  They hold the same in the namespace if
each resource there has the same content in both and their versions correspond
one to one.  Requests that correspond are answered alike, and the stores go on
holding the same; requests about other namespaces make no difference.
-/

namespace CuratorKeeper

structure Ref.Within (ref : Ref) (space : String) : Prop where
  plain : ref.Plain
  inSpace : ref.space = .text space

namespace Value

variable {first second : Value} {key : Key}

theorem unversioned_assign (same : first.unversioned = second.unversioned)
    (different : key ≠ "metadata") {value written : Value}
    (assigned : first.assign key value = .ok written) :
    ∃ result, second.assign key value = .ok result ∧ written.unversioned = result.unversioned := by
  simp only [unversioned_eq_masked] at same ⊢
  exact masked_assign same different assigned

end Value

namespace Store

theorem Marked.congr {version : Nat} {live patched : Value} (marked : Marked version live)
    (same : patched.part? "metadata" = live.part? "metadata") : Marked version patched := by
  obtain ⟨metadata, readMetadata, readVersion⟩ := except_bind_eq_ok.mp marked
  have held := same.trans (Value.item_eq_ok.mp readMetadata).2
  exact except_bind_eq_ok.mpr ⟨metadata, Value.item_of_part? held, readVersion⟩

theorem exists_put {ref : Ref} {resource : Value} (plain : ref.Plain)
    (known : Ref.of resource = .ok ref) (store : Store) :
    ∃ written, store.put resource =
        (.ok written, ⟨keep ref written store.entries, store.version + 1⟩) ∧
      written.unversioned = resource.unversioned ∧ Ref.of written = .ok ref ∧
        Marked (store.version + 1) written := by
  obtain ⟨written, puts, content⟩ := put_of_plain plain known store
  obtain ⟨-, stamps, -, -⟩ := put_eq_ok puts
  refine ⟨written, puts, content, ?_, marked_of_stamp stamps⟩
  rw [← Ref.of_unversioned, content, Ref.of_unversioned, known]

theorem find?_serve_of_ne {store : Store} {ref other : Ref} {request : Request}
    (sound : store.Sound) (plain : ref.Plain) (about : request.ref = .ok ref)
    (different : other ≠ ref) :
    (store.serve ref request).2.find? other = store.find? other := by
  have puts : ∀ resource, Ref.of resource = .ok ref →
      (store.put resource).2.find? other = store.find? other := by
    intro resource known
    obtain ⟨written, isPut, -⟩ := exists_put plain known store
    rw [isPut]
    exact find?_keep_of_ne plain different written store _
  cases found : store.find? ref with
  | none =>
      cases request with
      | create resource =>
          rw [serve_create_none plain found]
          exact puts resource about
      | get target =>
          cases about
          rw [serve_get_none plain found]
      | update resource part => rw [serve_update_none plain found]
      | delete target =>
          cases about
          rw [serve_delete_none plain found]
  | some stored =>
      cases request with
      | create resource => rw [serve_create_some plain found]
      | get target =>
          cases about
          rw [serve_get_some plain found]
      | update resource part =>
          obtain ⟨version, marked⟩ := sound.marked_of_found found
          obtain ⟨submitted, submits⟩ := exists_submittedVersion about
          obtain ⟨new, makes, known⟩ := exists_updated (sound.ref_of_found plain found) about part
          rw [serve_update plain found marked submits makes]
          split
          · exact puts new known
          · rfl
      | delete target =>
          cases about
          rw [serve_delete_some plain found]
          exact find?_remove_of_ne plain different store

end Store

/-- Two resources of a namespace with the same content and with versions that
correspond. -/
structure Value.Twin (space : String) (pairs : Nat → Nat → Prop) (resource other : Value) :
    Prop where
  content : resource.unversioned = other.unversioned
  own : ∃ ref : Ref, ref.Within space ∧ Ref.of resource = .ok ref ∧ Ref.of other = .ok ref
  versions : ∃ version number, pairs version number ∧ Store.Marked version resource ∧
    Store.Marked number other

namespace Value.Twin

variable {space : String} {pairs more : Nat → Nat → Prop} {resource other : Value}

theorem mono (twin : Value.Twin space pairs resource other)
    (grown : ∀ version number, pairs version number → more version number) :
    Value.Twin space more resource other := by
  obtain ⟨content, own, version, number, pair, marked⟩ := twin
  exact ⟨content, own, version, number, grown _ _ pair, marked⟩

theorem field? (twin : Value.Twin space pairs resource other) {key : Key}
    (different : key ≠ "metadata") : resource.field? key = other.field? key := by
  have same := twin.content
  simp only [unversioned_eq_masked] at same
  exact field?_of_masked same different

theorem assign (twin : Value.Twin space pairs resource other) {key : Key}
    (watched : key ∈ watchedFields) {value written : Value}
    (assigned : resource.assign key value = .ok written) :
    ∃ result, other.assign key value = .ok result ∧ Value.Twin space pairs written result := by
  obtain ⟨content, ⟨ref, within, known, knownOther⟩, version, number, pair, marked, markedOther⟩ :=
    twin
  have different : key ≠ "metadata" := (watched_ne watched (by decide)).symm
  obtain ⟨result, assignedOther, contents⟩ := unversioned_assign content different assigned
  have own : Ref.of written = .ok ref := (Ref.of_assign_iff watched assigned).mpr known
  have ownOther : Ref.of result = .ok ref := (Ref.of_assign_iff watched assignedOther).mpr knownOther
  refine ⟨result, assignedOther, contents, ⟨ref, within, own, ownOther⟩, version, number, pair,
    ?_, ?_⟩
  · exact marked.congr (part?_assign_of_ne assigned different.symm)
  · exact markedOther.congr (part?_assign_of_ne assignedOther different.symm)

end Value.Twin

/-- Two runs differ in the versions of the resources of a namespace, and in when
they pause and what they tell of it; the versions come to correspond one by one. -/
def Likeness.versions (space : String) : Likeness where
  toFaultLikeness := .same
  Stage := Nat → Nat → Prop
  later pairs more := ∀ version number, pairs version number → more version number
  value := Value.Twin space
  made resource other :=
    resource = other ∧ ∃ ref : Ref, ref.Within space ∧ Ref.of resource = .ok ref
  about ref := ref.Within space
  heard := False
  timed := False
  refl _ _ _ pair := pair
  trans first second version number pair := second version number (first version number pair)
  keeps grown twin := twin.mono grown
  named twin := by
    obtain ⟨ref, -, known, knownOther⟩ := twin.own
    rw [Ref.itemAt_name known, Ref.itemAt_name knownOther]
  reads twin _ watched := twin.field? (watched_ne watched (by decide)).symm
  writes twin key watched _ _ assigned := twin.assign watched assigned
  itself known within := ⟨rfl, _, within, known⟩
  heard_timed := False.elim
  heard_message := False.elim

namespace Store

/-- Two stores that hold the same in a namespace. -/
structure Twins (space : String) (pairs : Nat → Nat → Prop) (store other : Store) : Prop where
  sound : store.Sound
  soundOther : other.Sound
  given : ∀ {version number}, pairs version number →
    version ≤ store.version ∧ number ≤ other.version
  unique : ∀ {version number later last}, pairs version number → pairs later last →
    (version = later ↔ number = last)
  held : ∀ {ref : Ref}, ref.Within space →
    Option.Rel (Value.Twin space pairs) (store.find? ref) (other.find? ref)

namespace Twins

variable {space : String} {pairs : Nat → Nat → Prop} {store other : Store} {ref : Ref}

theorem held_cases (twins : Twins space pairs store other) (within : ref.Within space) :
    store.find? ref = none ∧ other.find? ref = none ∨
      ∃ resource new, store.find? ref = some resource ∧ other.find? ref = some new ∧
        Value.Twin space pairs resource new :=
  answers_cases (twins.held within)

theorem held_mono (twins : Twins space pairs store other) (within : ref.Within space)
    {more : Nat → Nat → Prop}
    (grown : ∀ version number, pairs version number → more version number) :
    Option.Rel (Value.Twin space more) (store.find? ref) (other.find? ref) := by
  rcases twins.held_cases within with ⟨absent, gone⟩ | ⟨resource, new, found, finds, twin⟩
  · rw [absent, gone]
    exact .none
  · rw [found, finds]
    exact .some (twin.mono grown)

theorem refl (sound : store.Sound) (space : String) :
    Twins space (fun version number => version = number ∧ version ≤ store.version) store store where
  sound := sound
  soundOther := sound
  given := by
    rintro version _ ⟨rfl, bound⟩
    exact ⟨bound, bound⟩
  unique := by
    rintro version _ later _ ⟨rfl, -⟩ ⟨rfl, -⟩
    rfl
  held := by
    intro ref within
    cases found : store.find? ref with
    | none => exact .none
    | some resource =>
        obtain ⟨entry, member, -, rfl⟩ := find?_eq_some found
        obtain ⟨version, bound, marked⟩ := sound.marked entry member
        have known := sound.ref_of_found within.plain found
        exact .some
          ⟨rfl, ⟨ref, within, known, known⟩, version, version, ⟨rfl, bound⟩, marked, marked⟩

/-- Once more a version is given out in each of two stores. -/
def paired (pairs : Nat → Nat → Prop) (store other : Store) (version number : Nat) : Prop :=
  pairs version number ∨ version = store.version + 1 ∧ number = other.version + 1

theorem put (twins : Twins space pairs store other) {resource new : Value}
    (within : ref.Within space) (known : Ref.of resource = .ok ref)
    (knownOther : Ref.of new = .ok ref) (content : resource.unversioned = new.unversioned) :
    (∃ written result, (store.put resource).1 = .ok written ∧ (other.put new).1 = .ok result) ∧
      Twins space (paired pairs store other) (store.put resource).2 (other.put new).2 := by
  obtain ⟨written, puts, contents, knownWritten, marked⟩ := exists_put within.plain known store
  obtain ⟨result, putsOther, contentsOther, knownResult, markedOther⟩ :=
    exists_put within.plain knownOther other
  have turned := twins.sound.turn (.written resource)
  have turnedOther := twins.soundOther.turn (.written new)
  rw [puts] at turned ⊢
  rw [putsOther] at turnedOther ⊢
  refine ⟨⟨written, result, rfl, rfl⟩, turned, turnedOther, ?_, ?_, ?_⟩
  · rintro version number (pair | ⟨rfl, rfl⟩)
    · have bounds := twins.given pair
      exact ⟨by simp only; omega, by simp only; omega⟩
    · exact ⟨le_refl _, le_refl _⟩
  · -- What was given out before is less than what is given out now.
    rintro version number later last (pair | ⟨rfl, rfl⟩) (next | ⟨rfl, rfl⟩)
    · exact twins.unique pair next
    · have bounds := twins.given pair
      omega
    · have bounds := twins.given next
      omega
    · simp
  · intro asked inSpace
    by_cases same : asked = ref
    · subst same
      rw [find?_keep_of_plain within.plain, find?_keep_of_plain within.plain]
      refine .some ⟨?_, ⟨asked, within, knownWritten, knownResult⟩, _, _, .inr ⟨rfl, rfl⟩, marked,
        markedOther⟩
      rw [contents, contentsOther, content]
    · rw [find?_keep_of_ne within.plain same, find?_keep_of_ne within.plain same]
      exact twins.held_mono inSpace fun _ _ pair => .inl pair

theorem remove (twins : Twins space pairs store other) (within : ref.Within space) :
    Twins space pairs (store.remove ref) (other.remove ref) where
  sound := twins.sound.turn (.removed ref)
  soundOther := twins.soundOther.turn (.removed ref)
  given := twins.given
  unique := twins.unique
  held := by
    intro asked inSpace
    by_cases same : asked = ref
    · subst same
      rw [find?_remove_self, find?_remove_self]
      exact .none
    · rw [find?_remove_of_ne within.plain same, find?_remove_of_ne within.plain same]
      exact twins.held inSpace

theorem updated_content {stored held resource new written result : Value} {part : Option String}
    (same : stored.unversioned = held.unversioned) (twin : Value.Twin space pairs resource new)
    (makes : updated stored resource part = .ok written)
    (makesOther : updated held new part = .ok result) :
    written.unversioned = result.unversioned := by
  by_cases status : part = some "status"
  · simp only [updated, if_pos status, Value.field, Value.fieldD,
      twin.field? (by decide : Key.name "status" ≠ "metadata")] at makes makesOther
    obtain ⟨value, read, assigned⟩ := except_bind_eq_ok.mp makes
    obtain ⟨again, readAgain, assignedOther⟩ := except_bind_eq_ok.mp makesOther
    obtain rfl := Except.ok.inj (read.symm.trans readAgain)
    obtain ⟨changed, assigns, contents⟩ := Value.unversioned_assign same (by decide) assigned
    rw [contents, Except.ok.inj (assigns.symm.trans assignedOther)]
  · rw [updated, if_neg status] at makes makesOther
    rw [← Except.ok.inj makes, ← Except.ok.inj makesOther]
    exact twin.content

theorem update (twins : Twins space pairs store other) (within : ref.Within space)
    {resource new : Value} (known : Ref.of resource = .ok ref) (knownOther : Ref.of new = .ok ref)
    (twin : Value.Twin space pairs resource new) (part : Option String) :
    ∃ more, (Likeness.versions space).later pairs more ∧
      Twins space more (store.serve ref (.update resource part)).2
        (other.serve ref (.update new part)).2 ∧
      (Likeness.versions space).Answers more .update (store.serve ref (.update resource part)).1
        (other.serve ref (.update new part)).1 := by
  rcases twins.held_cases within with ⟨absent, gone⟩ | ⟨stored, held, found, finds, before⟩
  · rw [serve_update_none within.plain absent, serve_update_none within.plain gone]
    exact ⟨pairs, fun _ _ pair => pair, twins, .error rfl⟩
  · have knownStored := twins.sound.ref_of_found within.plain found
    have knownHeld := twins.soundOther.ref_of_found within.plain finds
    obtain ⟨written, makes, knownWritten⟩ := exists_updated knownStored known part
    obtain ⟨result, makesOther, knownResult⟩ := exists_updated knownHeld knownOther part
    have contents := updated_content before.content twin makes makesOther
    obtain ⟨-, -, version, number, pair, marked, markedOther⟩ := before
    obtain ⟨-, -, earlier, last, older, markedNew, markedLast⟩ := twin
    have submits := submittedVersion_of_marked markedNew rfl
    have submitsOther := submittedVersion_of_marked markedLast rfl
    -- The versions correspond, so that either both submit what is stored or neither does.
    by_cases current : version = earlier
    · have currentOther := (twins.unique pair older).mp current
      subst current currentOther
      rw [serve_update_current within.plain found marked submits makes,
        serve_update_current within.plain finds markedOther submitsOther makesOther]
      obtain ⟨⟨_, _, puts, putsOther⟩, turned⟩ :=
        twins.put within knownWritten knownResult contents
      refine ⟨_, fun _ _ pair => Or.inl pair, turned, ?_⟩
      rw [puts, putsOther]
      exact .ok (by simp)
    · have stale : number ≠ last := fun same => current ((twins.unique pair older).mpr same)
      rw [serve_update_stale within.plain found marked submits makes current,
        serve_update_stale within.plain finds markedOther submitsOther makesOther stale]
      exact ⟨pairs, fun _ _ pair => pair, twins, .error rfl⟩

/-- Requests that correspond are answered alike, and leave stores that hold the same. -/
theorem serve (twins : Twins space pairs store other) {request asked : Request}
    (asks : (Likeness.versions space).Asks pairs request asked) :
    ∃ ref more, request.ref = .ok ref ∧ asked.ref = .ok ref ∧ ref.Within space ∧
      (Likeness.versions space).later pairs more ∧
      Twins space more (store.serve ref request).2 (other.serve ref asked).2 ∧
      (Likeness.versions space).Answers more request.verb (store.serve ref request).1
        (other.serve ref asked).1 := by
  have still := (Likeness.versions space).refl pairs
  cases asks with
  | @create resource again made =>
      obtain ⟨rfl, ref, within, known⟩ := made
      rcases twins.held_cases within with ⟨absent, gone⟩ | ⟨stored, held, found, finds, -⟩
      · obtain ⟨⟨_, _, puts, putsOther⟩, turned⟩ := twins.put within known known rfl
        refine
          ⟨ref, paired pairs store other, known, known, within, fun _ _ pair => Or.inl pair, ?_⟩
        rw [serve_create_none within.plain absent, serve_create_none within.plain gone]
        refine ⟨turned, ?_⟩
        rw [puts, putsOther]
        exact .ok (by simp [Request.verb])
      · refine ⟨ref, pairs, known, known, within, still, ?_⟩
        rw [serve_create_some within.plain found, serve_create_some within.plain finds]
        exact ⟨twins, .error rfl⟩
  | @get ref within =>
      refine ⟨ref, pairs, rfl, rfl, within, still, ?_⟩
      rcases twins.held_cases within with ⟨absent, gone⟩ | ⟨stored, held, found, finds, twin⟩
      · rw [serve_get_none within.plain absent, serve_get_none within.plain gone]
        exact ⟨twins, .error rfl⟩
      · rw [serve_get_some within.plain found, serve_get_some within.plain finds]
        exact ⟨twins, .ok fun _ => twin⟩
  | @update resource new twin part =>
      obtain ⟨ref, within, known, knownOther⟩ := twin.own
      obtain ⟨more, grown, turned, answers⟩ := twins.update within known knownOther twin part
      exact ⟨ref, more, known, knownOther, within, grown, turned, answers⟩
  | @delete ref within =>
      refine ⟨ref, pairs, rfl, rfl, within, still, ?_⟩
      rcases twins.held_cases within with ⟨absent, gone⟩ | ⟨stored, held, found, finds, -⟩
      · rw [serve_delete_none within.plain absent, serve_delete_none within.plain gone]
        exact ⟨twins, .error rfl⟩
      · rw [serve_delete_some within.plain found, serve_delete_some within.plain finds]
        exact ⟨twins.remove within, .ok (by simp [Request.verb])⟩

/-- A request about another namespace makes no difference. -/
theorem beside (twins : Twins space pairs store other) {request : Request} (plain : ref.Plain)
    (about : request.ref = .ok ref) (elsewhere : ref.space ≠ .text space) :
    Twins space pairs (store.serve ref request).2 other where
  sound := twins.sound.turn (serve_turn store ref request)
  soundOther := twins.soundOther
  given pair := by
    obtain ⟨bound, boundOther⟩ := twins.given pair
    exact ⟨bound.trans (Evolves.of_turn (serve_turn store ref request)).version_le, boundOther⟩
  unique := twins.unique
  held := by
    intro asked within
    have different : asked ≠ ref := fun same => elsewhere (same ▸ within.inSpace)
    rw [find?_serve_of_ne twins.sound plain about different]
    exact twins.held within

end Twins
end Store
end CuratorKeeper
