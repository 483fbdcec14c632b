import CuratorKeeper.Proofs.Program.Tells
import CuratorKeeper.Proofs.Program.Writes
import CuratorKeeper.Proofs.Store.Service

/-!
# Working towards an aim

An aim says what content every resource is to have in the end.  Work towards it
leaves each resource as it is or gives it that content, and does the latter
only to a resource that lacks it.  So a resource that has its content keeps it,
and one that lacks it is written exactly once, however many take part.
-/

namespace CuratorKeeper

/-- The content that every resource is to have in the end, and the store that
the work starts from. -/
structure Aim where
  start : Store
  final : Ref → Option Value

namespace Aim

def Met (aim : Aim) (ref : Ref) (store : Store) : Prop :=
  (store.find? ref).map Value.unversioned = (aim.final ref).map Value.unversioned

/-- Every resource stays as it is or comes to its content. -/
def Progress (aim : Aim) (store after : Store) : Prop :=
  ∀ ref, after.find? ref = store.find? ref ∨ ¬ aim.Met ref store ∧ aim.Met ref after

variable {aim : Aim} {ref : Ref} {store middle after : Store}

theorem met_congr (same : after.find? ref = store.find? ref) :
    aim.Met ref after ↔ aim.Met ref store := by
  unfold Met
  rw [same]

namespace Progress

theorem refl (aim : Aim) (store : Store) : aim.Progress store store := fun _ => .inl rfl

theorem trans (early : aim.Progress store middle) (late : aim.Progress middle after) :
    aim.Progress store after := by
  intro ref
  rcases early ref with unchanged | ⟨lacking, met⟩
  · rcases late ref with still | ⟨lacking, met⟩
    · exact .inl (still.trans unchanged)
    · exact .inr ⟨fun already => lacking ((met_congr unchanged).mpr already), met⟩
  · rcases late ref with still | ⟨lackingStill, -⟩
    · exact .inr ⟨lacking, (met_congr still).mpr met⟩
    · exact absurd met lackingStill

theorem find?_of_met (progress : aim.Progress store after) (met : aim.Met ref store) :
    after.find? ref = store.find? ref := by
  rcases progress ref with unchanged | ⟨lacking, -⟩
  · exact unchanged
  · exact absurd met lacking

theorem met (progress : aim.Progress store after) (met : aim.Met ref store) :
    aim.Met ref after :=
  (met_congr (progress.find?_of_met met)).mpr met

theorem find?_of_not_met (progress : aim.Progress store after) (lacking : ¬ aim.Met ref after) :
    after.find? ref = store.find? ref := by
  rcases progress ref with unchanged | ⟨-, met⟩
  · exact unchanged
  · exact absurd met lacking

end Progress

/-- A resource has its content if it lacked it at the start. -/
def Reached (aim : Aim) (ref : Ref) (store : Store) : Prop :=
  ¬ aim.Met ref aim.start → aim.Met ref store

theorem Reached.progress (reached : aim.Reached ref store) (progress : aim.Progress store after) :
    aim.Reached ref after := fun lacking => progress.met (reached lacking)

structure Holds (aim : Aim) (store : Store) : Prop where
  sound : store.Sound
  progress : aim.Progress aim.start store

theorem Holds.met (holds : aim.Holds store) (reached : aim.Reached ref store) :
    aim.Met ref store := by
  by_cases started : aim.Met ref aim.start
  · exact holds.progress.met started
  · exact reached started

/-- What others may do in between; nothing if all is calm. -/
structure Turns (aim : Aim) (calm : Prop) (store after : Store) : Prop where
  evolves : store.Evolves after
  progress : aim.Progress store after
  still : calm → after = store

theorem Turns.refl (aim : Aim) (calm : Prop) (store : Store) : aim.Turns calm store store :=
  ⟨.refl store, .refl aim store, fun _ => rfl⟩

theorem Turns.trans {calm : Prop} (early : aim.Turns calm store middle)
    (late : aim.Turns calm middle after) : aim.Turns calm store after :=
  ⟨early.evolves.trans late.evolves, early.progress.trans late.progress,
    fun isCalm => (late.still isCalm).trans (early.still isCalm)⟩

theorem Turns.stirred {calm : Prop} (turned : aim.Turns calm store after)
    (lacking : ¬ aim.Met ref store) (met : aim.Met ref after) : ¬ calm := by
  intro isCalm
  rw [turned.still isCalm] at met
  exact lacking met

/-- A resource that has come to its content since carries another version. -/
theorem Turns.version_ne {calm : Prop} {live now : Value} {version versionNow : Nat}
    (turned : aim.Turns calm store after) (sound : store.Sound)
    (found : store.find? ref = some live) (marked : Store.Marked version live)
    (foundNow : after.find? ref = some now) (markedNow : Store.Marked versionNow now)
    (lacking : ¬ aim.Met ref store) (met : aim.Met ref after) : versionNow ≠ version := by
  rintro rfl
  have equal : live = now :=
    turned.evolves.eq_of_storedVersion sound found foundNow (marked.trans markedNow.symm)
  have unchanged : after.find? ref = store.find? ref := by
    rw [found, foundNow, equal]
  exact lacking ((met_congr unchanged).mp met)

/-- Others work towards the same aim, and the store answers faithfully. -/
def around (aim : Aim) (calm : Prop) : Surroundings where
  holds := aim.Holds
  mayTurn := aim.Turns calm
  mayAnswer := Served.Faithful

/-- A call writes only a resource that lacks its content, and gives it that. -/
structure Serves (aim : Aim) (served : Served) : Prop where
  writes : served.wrote = true →
    ¬ aim.Met served.ref served.before ∧ aim.Met served.ref served.after ∧
      ∀ other, other ≠ served.ref → served.after.find? other = served.before.find? other
  spares : served.wrote = false → served.after = served.before

theorem Serves.progress {served : Served} (serves : aim.Serves served) :
    aim.Progress served.before served.after := by
  intro ref
  cases wrote : served.wrote with
  | false =>
      rw [serves.spares wrote]
      exact .inl rfl
  | true =>
      obtain ⟨lacking, met, others⟩ := serves.writes wrote
      by_cases same : ref = served.ref
      · rw [same]
        exact .inr ⟨lacking, met⟩
      · exact .inl (others ref same)

theorem evolves_of_faithful {served : Served} (faithful : served.Faithful) :
    served.before.Evolves served.after := .of_turn faithful.turn

theorem Serves.turns {served : Served} (serves : aim.Serves served) (faithful : served.Faithful) :
    aim.Turns False served.before served.after :=
  ⟨evolves_of_faithful faithful, serves.progress, False.elim⟩

theorem Serves.holds {served : Served} (serves : aim.Serves served) (faithful : served.Faithful)
    (holds : aim.Holds served.before) : aim.Holds served.after :=
  ⟨holds.sound.turn faithful.turn, holds.progress.trans serves.progress⟩

/-- In a calm world only the program itself acts. -/
theorem covers_of_calm (aim : Aim) {world : World} (calm : world.Calm) :
    (aim.around True).Covers aim.Serves world where
  direct := calm.direct
  disturbed disturbances waiting store ref holds := by
    have none : disturbances = [] := by
      rcases waiting with none | ⟨verb, member⟩
      · exact none
      · rw [calm.undisturbed verb] at member
        cases member
    rw [none]
    exact ⟨holds, .refl aim True store, nofun⟩
  faithful served faithful := faithful
  keeps served holds faithful serves := serves.holds faithful holds

theorem lacked_of_wrote {history : List Served}
    (served : ∀ served ∈ history, aim.Holds served.before ∧ aim.Serves served)
    (written : 0 < writesOf ref history) : ¬ aim.Met ref aim.start := by
  obtain ⟨call, member, writes⟩ := List.countP_pos_iff.mp written
  rw [Bool.and_eq_true, decide_eq_true_eq] at writes
  obtain ⟨wrote, rfl⟩ := writes
  obtain ⟨holds, serves⟩ := served call member
  exact fun met => (serves.writes wrote).1 (holds.progress.met met)

/-- Through calls that serve the aim a resource is written once if it comes to
its content, and not at all else. -/
theorem writesOf_chained {history : List Served} (chained : Chained store history after)
    (serves : ∀ served ∈ history, aim.Serves served) (ref : Ref) :
    aim.Progress store after ∧
      (writesOf ref history = 0 ∧ after.find? ref = store.find? ref ∨
        writesOf ref history = 1 ∧ ¬ aim.Met ref store ∧ aim.Met ref after) := by
  induction chained with
  | nil store => exact ⟨.refl aim store, .inl ⟨rfl, rfl⟩⟩
  | @cons served rest last chained ih =>
      have first := serves served List.mem_cons_self
      have further := ih fun served member => serves served (List.mem_cons_of_mem _ member)
      obtain ⟨progress, counted⟩ := further
      refine ⟨first.progress.trans progress, ?_⟩
      by_cases written : served.wrote = true ∧ served.ref = ref
      · obtain ⟨wrote, rfl⟩ := written
        obtain ⟨lacking, met, -⟩ := first.writes wrote
        have one : writesOf served.ref (served :: rest) = writesOf served.ref rest + 1 := by
          simp [writesOf, wrote]
        -- Once it has its content a resource never lacks it again, so it is not written later on.
        rcases counted with ⟨none, -⟩ | ⟨-, lackingStill, -⟩
        · exact .inr ⟨by omega, lacking, progress.met met⟩
        · exact absurd met lackingStill
      · have same : writesOf ref (served :: rest) = writesOf ref rest := by
          simp [writesOf, written]
        have unchanged : served.after.find? ref = served.before.find? ref := by
          cases wrote : served.wrote with
          | false => rw [first.spares wrote]
          | true => exact (first.writes wrote).2.2 ref fun equal => written ⟨wrote, equal.symm⟩
        rw [same]
        rcases counted with ⟨none, still⟩ | ⟨once, lacking, met⟩
        · exact .inl ⟨none, still.trans unchanged⟩
        · exact .inr ⟨once, fun already => lacking ((met_congr unchanged).mpr already), met⟩

end Aim
end CuratorKeeper
