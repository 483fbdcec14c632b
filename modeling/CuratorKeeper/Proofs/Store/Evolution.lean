import CuratorKeeper.Proofs.Store.Lookup
import CuratorKeeper.Store.Disturbance
import Mathlib.Data.List.Pairwise

/-!
# How a store evolves

Every resource is kept under its own reference and marked with a version that
no other one carries, and every write takes a version that was never given out
before.  So a version that is seen again marks the same resource, whatever was
written, removed or created again in between.
-/

namespace CuratorKeeper

namespace Store

/-- What one request or one foreign deed may do to the resources. -/
inductive Turn (store : Store) : Store → Prop
  | stays : Turn store store
  | written (resource : Value) : Turn store (store.put resource).2
  | removed (ref : Ref) : Turn store (store.remove ref)

/-- A request writes a resource, removes one that is there, or leaves the store as
it is; in the last case only a reading is accepted. -/
theorem serve_ways (store : Store) (ref : Ref) (request : Request) :
    (∃ resource, store.serve ref request = store.put resource) ∨
      (∃ own, (store.find? own).isSome = true ∧
        store.serve ref request = (.ok .null, store.remove own)) ∨
        (store.serve ref request).2 = store ∧
          ∀ value, (store.serve ref request).1 = .ok value → request.verb = .get := by
  cases request with
  | create resource =>
      simp only [serve]
      split
      · exact .inr (.inr ⟨rfl, by simp⟩)
      · split
        · exact .inr (.inr ⟨rfl, by simp⟩)
        · exact .inl ⟨resource, rfl⟩
  | get target =>
      simp only [serve]
      split
      · exact .inr (.inr ⟨rfl, by simp⟩)
      · split
        · exact .inr (.inr ⟨rfl, fun _ _ => rfl⟩)
        · exact .inr (.inr ⟨rfl, by simp⟩)
  | update resource part =>
      simp only [serve]
      split
      · exact .inr (.inr ⟨rfl, by simp⟩)
      · split
        · exact .inr (.inr ⟨rfl, by simp⟩)
        · split
          · split
            · exact .inl ⟨_, rfl⟩
            · exact .inr (.inr ⟨rfl, by simp⟩)
          all_goals exact .inr (.inr ⟨rfl, by simp⟩)
  | delete target =>
      simp only [serve]
      split
      · exact .inr (.inr ⟨rfl, by simp⟩)
      · split
        next present => exact .inr (.inl ⟨_, present, rfl⟩)
        next => exact .inr (.inr ⟨rfl, by simp⟩)

theorem serve_turn (store : Store) (ref : Ref) (request : Request) :
    Turn store (store.serve ref request).2 := by
  rcases store.serve_ways ref request with ⟨resource, puts⟩ | ⟨own, -, removes⟩ | ⟨same, -⟩
  · rw [puts]
    exact .written resource
  · rw [removes]
    exact .removed own
  · rw [same]
    exact .stays

theorem disturb_turn (store : Store) (ref : Ref) (disturbance : Disturbance) :
    Turn store (store.disturb ref disturbance).2 := by
  obtain ⟨deed, target⟩ := disturbance
  cases deed with
  | edit edits =>
      simp only [disturb, edit]
      split
      · exact .stays
      · split
        · exact .stays
        · exact .written _
  | put resource => exact .written resource
  | cull =>
      simp only [disturb, cull]
      split
      · exact .stays
      · exact .removed _
  | fail fault => exact .stays

/-- Resources are kept under their own references, and no two of them carry
the same version. -/
structure Sound (store : Store) : Prop where
  kept : ∀ entry ∈ store.entries, ∃ own, Ref.of entry.2 = .ok own ∧
    (entry.1 = own ∨ entry.1.same own = true)
  marked : ∀ entry ∈ store.entries, ∃ version ≤ store.version, Marked version entry.2
  distinct : store.entries.Pairwise fun entry other =>
    storedVersion entry.2 ≠ storedVersion other.2

theorem mem_keep {ref : Ref} {resource : Value} {entries : List (Ref × Value)}
    {entry : Ref × Value} (member : entry ∈ keep ref resource entries) :
    entry ∈ entries ∨ entry.2 = resource ∧ (entry.1 = ref ∨ entry.1.same ref = true) := by
  induction entries with
  | nil =>
      simp only [keep, List.mem_singleton] at member
      exact .inr ⟨by rw [member], .inl (by rw [member])⟩
  | cons head rest ih =>
      cases matching : head.1.same ref with
      | true =>
          simp only [keep, matching, if_true, List.mem_cons] at member
          rcases member with rfl | member
          · exact .inr ⟨rfl, .inr matching⟩
          · exact .inl (List.mem_cons_of_mem _ member)
      | false =>
          simp only [keep, matching, Bool.false_eq_true, if_false, List.mem_cons] at member
          rcases member with rfl | member
          · exact .inl List.mem_cons_self
          · exact (ih member).imp (List.mem_cons_of_mem _) id

theorem version_injective {first second : Nat}
    (same : toString first = toString second) : first = second := by
  have digits : Nat.toDigits 10 first = Nat.toDigits 10 second := by
    rw [← Nat.toList_repr, ← Nat.toList_repr]
    exact congrArg String.toList same
  rw [← Nat.ofDigitChars_toDigits (by decide : 1 < 10) (by decide : 10 ≤ 10) (n := first), digits,
    Nat.ofDigitChars_toDigits (by decide) (by decide)]

theorem Marked.unique {first second : Nat} {resource : Value} (one : Marked first resource)
    (other : Marked second resource) : first = second := by
  have same : (Except.ok (.text (toString first)) : Except Mismatch Value) =
      .ok (.text (toString second)) := one.symm.trans other
  simp only [Except.ok.injEq, Value.text.injEq] at same
  exact version_injective same

theorem keep_distinct {ref : Ref} {resource : Value} {version : Nat}
    (fresh : Marked (version + 1) resource) {entries : List (Ref × Value)}
    (marked : ∀ entry ∈ entries, ∃ earlier ≤ version, Marked earlier entry.2)
    (distinct : entries.Pairwise fun entry other => storedVersion entry.2 ≠ storedVersion other.2) :
    (keep ref resource entries).Pairwise fun entry other =>
      storedVersion entry.2 ≠ storedVersion other.2 := by
  have stranger : ∀ entry ∈ entries, storedVersion resource ≠ storedVersion entry.2 := by
    intro entry member same
    obtain ⟨earlier, bound, mark⟩ := marked entry member
    have again : Marked (version + 1) entry.2 := same.symm.trans fresh
    have equal := again.unique mark
    omega
  induction entries with
  | nil => simp [keep]
  | cons head rest ih =>
      obtain ⟨headDistinct, restDistinct⟩ := List.pairwise_cons.mp distinct
      cases matching : head.1.same ref with
      | true =>
          simp only [keep, matching, if_true]
          refine List.pairwise_cons.mpr ⟨fun entry member => ?_, restDistinct⟩
          exact stranger entry (List.mem_cons_of_mem _ member)
      | false =>
          simp only [keep, matching, Bool.false_eq_true, if_false]
          have further := ih (fun entry member => marked entry (List.mem_cons_of_mem _ member))
            restDistinct (fun entry member => stranger entry (List.mem_cons_of_mem _ member))
          refine List.pairwise_cons.mpr ⟨fun entry member => ?_, further⟩
          rcases mem_keep member with old | ⟨written, -⟩
          · exact headDistinct entry old
          · rw [written]
            exact (stranger head List.mem_cons_self).symm

theorem sound_empty : Sound {} :=
  ⟨by simp, by simp, List.Pairwise.nil⟩

theorem Sound.turn {store after : Store} (sound : store.Sound) (turn : Turn store after) :
    after.Sound := by
  cases turn with
  | stays => exact sound
  | removed ref =>
      refine ⟨fun entry member => ?_, fun entry member => ?_, ?_⟩
      · exact sound.kept entry (List.mem_of_mem_filter member)
      · exact sound.marked entry (List.mem_of_mem_filter member)
      · exact sound.distinct.filter _
  | written resource =>
      have later : ∀ entry ∈ store.entries, ∃ version ≤ store.version + 1,
          Marked version entry.2 := by
        intro entry member
        obtain ⟨version, bound, mark⟩ := sound.marked entry member
        exact ⟨version, by omega, mark⟩
      rcases put_cases store resource with ⟨stamped, ref, written, known, put⟩ | ⟨fault, put⟩
      · rw [put]
        refine ⟨fun entry member => ?_, fun entry member => ?_, ?_⟩
        · rcases mem_keep member with old | ⟨new, under⟩
          · exact sound.kept entry old
          · exact ⟨ref, by rw [new, known], under⟩
        · rcases mem_keep member with old | ⟨new, -⟩
          · exact later entry old
          · exact ⟨store.version + 1, le_refl _, by rw [new]; exact marked_of_stamp written⟩
        · exact keep_distinct (marked_of_stamp written) sound.marked sound.distinct
      · rw [put]
        exact ⟨sound.kept, later, sound.distinct⟩

/-- A later state of a store: what is there was there before, or carries a
version that was given out since. -/
structure Evolves (store after : Store) : Prop where
  version_le : store.version ≤ after.version
  old_or_fresh : ∀ entry ∈ after.entries, (∃ old ∈ store.entries, old.2 = entry.2) ∨
    ∃ version, store.version < version ∧ Marked version entry.2

namespace Evolves

theorem refl (store : Store) : store.Evolves store :=
  ⟨le_refl _, fun entry member => .inl ⟨entry, member, rfl⟩⟩

theorem trans {first second third : Store} (early : first.Evolves second)
    (late : second.Evolves third) : first.Evolves third := by
  refine ⟨early.version_le.trans late.version_le, fun entry member => ?_⟩
  rcases late.old_or_fresh entry member with ⟨old, oldMember, same⟩ | ⟨version, fresh, mark⟩
  · rw [← same]
    exact early.old_or_fresh old oldMember
  · exact .inr ⟨version, early.version_le.trans_lt fresh, mark⟩

theorem of_turn {store after : Store} (turn : Turn store after) : store.Evolves after := by
  cases turn with
  | stays => exact refl store
  | removed ref =>
      exact ⟨le_refl _, fun entry member => .inl ⟨entry, List.mem_of_mem_filter member, rfl⟩⟩
  | written resource =>
      rcases put_cases store resource with ⟨stamped, ref, written, known, put⟩ | ⟨fault, put⟩
      · rw [put]
        refine ⟨Nat.le_succ _, fun entry member => ?_⟩
        rcases mem_keep member with old | ⟨new, -⟩
        · exact .inl ⟨entry, old, rfl⟩
        · exact .inr ⟨store.version + 1, Nat.lt_succ_self _, by
            rw [new]
            exact marked_of_stamp written⟩
      · rw [put]
        exact ⟨Nat.le_succ _, fun entry member => .inl ⟨entry, member, rfl⟩⟩

/-- A version that is seen again marks the same resource. -/
theorem eq_of_storedVersion {store after : Store} (evolves : store.Evolves after)
    (sound : store.Sound) {ref other : Ref} {before now : Value}
    (found : store.find? ref = some before) (finds : after.find? other = some now)
    (same : storedVersion before = storedVersion now) : before = now := by
  obtain ⟨entry, member, -, rfl⟩ := find?_eq_some found
  obtain ⟨current, currentMember, -, rfl⟩ := find?_eq_some finds
  -- The later resource is an old one, and versions tell those apart, or it is newer than
  -- all of them.
  rcases evolves.old_or_fresh current currentMember with ⟨old, oldMember, kept⟩ | ⟨version, fresh, mark⟩
  · rw [← kept] at same ⊢
    by_contra different
    have distinct : entry ≠ old := fun equal => different (by rw [equal])
    have symmetric : Std.Symm fun entry other : Ref × Value =>
        storedVersion entry.2 ≠ storedVersion other.2 := ⟨fun _ _ differ => differ.symm⟩
    exact sound.distinct.forall member oldMember distinct same
  · obtain ⟨earlier, bound, oldMark⟩ := sound.marked entry member
    have equal : version = earlier := mark.unique (same.symm.trans oldMark)
    omega

end Evolves

/-- A state that a store can come to from an empty one, by its own requests
and by foreign deeds. -/
inductive Reachable : Store → Prop
  | empty : Reachable {}
  | served {store : Store} (reachable : Reachable store) (ref : Ref) (request : Request)
      (about : request.ref = .ok ref) : Reachable (store.serve ref request).2
  | disturbed {store : Store} (reachable : Reachable store) (ref : Ref)
      (disturbance : Disturbance) : Reachable (store.disturb ref disturbance).2

theorem Reachable.sound {store : Store} (reachable : store.Reachable) : store.Sound := by
  induction reachable with
  | empty => exact sound_empty
  | served _ ref request _ ih => exact ih.turn (serve_turn _ ref request)
  | disturbed _ ref disturbance ih => exact ih.turn (disturb_turn _ ref disturbance)

theorem disturbAll_ends {store : Store} (ref : Ref) (disturbances : List Disturbance)
    (sound : store.Sound) :
    (store.disturbAll ref disturbances).2.Sound ∧
      store.Evolves (store.disturbAll ref disturbances).2 := by
  induction disturbances generalizing store with
  | nil => exact ⟨sound, .refl store⟩
  | cons disturbance rest ih =>
      have turn := disturb_turn store ref disturbance
      simp only [disturbAll]
      split
      next after disturbed =>
        rw [disturbed] at turn
        obtain ⟨restSound, restEvolves⟩ := ih (sound.turn turn)
        exact ⟨restSound, (Evolves.of_turn turn).trans restEvolves⟩
      next fault after disturbed =>
        rw [disturbed] at turn
        exact ⟨sound.turn turn, Evolves.of_turn turn⟩

theorem Sound.ref_of_found {store : Store} (sound : store.Sound) {ref : Ref} (plain : ref.Plain)
    {resource : Value} (found : store.find? ref = some resource) :
    Ref.of resource = .ok ref := by
  obtain ⟨entry, member, matching, rfl⟩ := find?_eq_some found
  obtain ⟨own, known, under⟩ := sound.kept entry member
  have same : entry.1 = ref := (plain.same_iff' entry.1).mp matching
  rcases under with equal | alike
  · rw [known, ← equal, same]
  · rw [same] at alike
    rw [known, (plain.same_iff own).mp alike]

theorem Sound.marked_of_found {store : Store} (sound : store.Sound) {ref : Ref} {resource : Value}
    (found : store.find? ref = some resource) : ∃ version, Marked version resource := by
  obtain ⟨entry, member, -, rfl⟩ := find?_eq_some found
  obtain ⟨version, -, mark⟩ := sound.marked entry member
  exact ⟨version, mark⟩

theorem Marked.isObject {version : Nat} {resource : Value} (marked : Marked version resource) :
    ∃ fields, resource = .object fields := by
  obtain ⟨metadata, read, -⟩ := except_bind_eq_ok.mp marked
  exact (Value.item_eq_ok.mp read).1

end Store
end CuratorKeeper
