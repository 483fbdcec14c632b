import CuratorKeeper.Proofs.Program.Tells
import CuratorKeeper.Proofs.Store.Service

/-!
# Programs that nobody disturbs

When nobody else comes to the store and it answers faithfully, a program comes
to one end: a result and the store that it leaves.  What that end is like is put
together from the ends of the parts.
-/

namespace CuratorKeeper

/-- Nobody else comes to the store, which answers faithfully. -/
def Surroundings.alone : Surroundings where
  holds := Store.Sound
  mayTurn store before := before = store
  mayAnswer := Served.Faithful

theorem Surroundings.alone_covers (promise : Served → Prop) {world : World} (calm : world.Calm) :
    Surroundings.alone.Covers promise world where
  direct := calm.direct
  disturbed disturbances waiting store ref sound := by
    have none : disturbances = [] := by
      rcases waiting with none | ⟨verb, member⟩
      · exact none
      · rw [calm.undisturbed verb] at member
        cases member
    rw [none]
    exact ⟨sound, rfl, nofun⟩
  faithful served faithful := faithful
  keeps _ sound faithful _ := Store.Sound.turn sound faithful.turn

namespace Program

variable {α β σ : Type}

/-- Left alone, a program comes to an end with a result and a store that meet
the goal. -/
def Ends (program : Program α) (store : Store) (goal : Except Fault α → Store → Prop) : Prop :=
  Ensures .alone (fun _ => True) program (fun result _ after => goal result after) store

variable {program : Program α} {store : Store} {goal weaker : Except Fault α → Store → Prop}

theorem Ends.mono (ends : program.Ends store goal)
    (enough : ∀ result after, goal result after → weaker result after) :
    program.Ends store weaker :=
  Ensures.mono ends fun result _ after => enough result after

theorem Ends.run {world : World} (calm : world.Calm) (sound : world.store.Sound)
    (ends : program.Ends world.store goal) :
    (program.run world).2.store.Sound ∧ goal (program.run world).1 (program.run world).2.store :=
  (run_of_ensures (Surroundings.alone_covers _ calm) sound ends).2

theorem ends_done (value : α) : (done value).Ends store goal ↔ goal (.ok value) store := Iff.rfl

theorem ends_ofExcept (result : Except Fault α) :
    (ofExcept result).Ends store goal ↔ goal result store := ensures_ofExcept _ _ _

theorem ends_bind {program : Program β} {rest : β → Program α} :
    (program.bind rest).Ends store goal ↔ program.Ends store fun result after =>
      match result with
      | .ok value => (rest value).Ends after goal
      | .error fault => goal (.error fault) after := ensures_bind _ _ _ _

theorem ends_map {change : β → α} {program : Program β} :
    (change <$> program).Ends store goal ↔
      program.Ends store fun result => goal (result.map change) := ensures_map _ _ _ _

theorem ends_attempt {goal : Except Fault (Except Fault α) → Store → Prop} :
    program.attempt.Ends store goal ↔ program.Ends store fun result => goal (.ok result) :=
  ensures_attempt _ _ _

theorem ends_catchStore_bind {program : Program β} {rest : Except StoreFault β → Program α}
    (ends : program.Ends store fun result after =>
      match result with
      | .ok value => (rest (.ok value)).Ends after goal
      | .error (.store fault) => (rest (.error fault)).Ends after goal
      | .error other => goal (.error other) after) :
    (program.catchStore.bind rest).Ends store goal := by
  rw [ends_bind, Ends, ensures_catchStore]
  refine Ensures.mono ends fun result history after ended => ?_
  cases result with
  | ok value => exact ended
  | error fault => cases fault <;> exact ended

theorem ends_call {request : Request} {ref : Ref} (about : request.ref = .ok ref)
    {rest : Except StoreFault Value → Program α}
    (served : ∀ answer after, store.Sound → store.serve ref request = (answer, after) →
      match answer with
      | .ok value => (rest (.ok value)).Ends after goal
      | .error (.store fault) => (rest (.error fault)).Ends after goal
      | .error other => goal (.error other) after) :
    ((ask request).catchStore.bind rest).Ends store goal := by
  apply ends_catchStore_bind
  rw [Ends, ensures_ask about]
  rintro before answer after sound rfl faithful
  have continued := served answer after sound faithful
  refine ⟨trivial, ?_⟩
  cases answer with
  | ok value => exact continued
  | error fault => cases fault <;> exact continued

/-- A loop whose first try settles or fails makes no other. -/
theorem ends_retry {budget : Budget} {attempt : σ → Program (Attempt σ α)} {start : σ}
    (trying : (attempt start).Ends store fun result after =>
      match result with
      | .ok (.settled value) => goal (.ok value) after
      | .ok (.stale _ _) => False
      | .error fault => goal (.error fault) after) :
    (retry budget attempt start).Ends store goal := by
  refine @ensures_retryFrom α σ _ _ budget attempt (fun result _ after => goal result after)
    (fun _ other _ now => other = start ∧ now = store) ?_ _ _ _ start [] store ⟨rfl, rfl⟩
  rintro left _ past _ ⟨rfl, rfl⟩
  apply Ensures.mono trying
  intro result more after ended
  rcases result with fault | (value | conflict)
  · exact ended
  · exact ended
  · exact ended.elim

theorem ends_ofProgram {next : σ} {program : Program (Attempt σ α)}
    {goal : Except Fault (Attempt σ α) → Store → Prop}
    (ends : program.Ends store fun result after => (∀ fault, result ≠ .error (.store fault)) ∧
      goal result after) : (Attempt.ofProgram next program).Ends store goal := by
  rw [Ends, ensures_ofProgram]
  refine Ensures.mono ends fun result history after ended => ?_
  obtain ⟨unrefused, reached⟩ := ended
  cases result with
  | ok value => exact reached
  | error fault =>
      cases fault with
      | store refused => exact absurd rfl (unrefused refused)
      | _ => exact reached

end Program

/-- Versions are never taken back, and without a new one the resources only
become fewer. -/
theorem Store.version_le_of_turn {store after : Store} (turn : Store.Turn store after) :
    store.version ≤ after.version ∧
      (after.version = store.version → after.entries.length ≤ store.entries.length) := by
  cases turn with
  | stays => exact ⟨le_refl _, fun _ => le_refl _⟩
  | removed ref => exact ⟨le_refl _, fun _ => List.length_filter_le _ _⟩
  | written resource =>
      rcases put_cases store resource with ⟨stamped, ref, -, -, put⟩ | ⟨fault, put⟩
      all_goals
        rw [put]
        exact ⟨Nat.le_succ _, fun same => absurd same (Nat.succ_ne_self _)⟩

theorem Store.version_put {store after : Store} {resource value : Value}
    (written : store.put resource = (.ok value, after)) : after.version = store.version + 1 := by
  obtain ⟨own, -, -, rfl⟩ := put_eq_ok written
  rfl

/-- An accepted call that is no reading takes a version or removes a resource. -/
theorem Served.changes_of_accepted {served : Served} (faithful : served.Faithful)
    (accepted : served.Accepted) (writes : served.request.verb ≠ .get) :
    served.before.version < served.after.version ∨
      served.after.entries.length < served.before.entries.length := by
  obtain ⟨value, answer⟩ := accepted
  have answers : served.before.serve served.ref served.request = (.ok value, served.after) :=
    answer ▸ faithful
  rcases served.before.serve_ways served.ref served.request with
    ⟨resource, puts⟩ | ⟨own, present, removes⟩ | ⟨-, reads⟩
  · left
    rw [Store.version_put (puts.symm.trans answers)]
    exact Nat.lt_succ_self _
  · right
    obtain ⟨-, isAfter⟩ := Prod.mk.inj (answers.symm.trans removes)
    obtain ⟨live, isLive⟩ := Option.isSome_iff_exists.mp present
    obtain ⟨entry, member, matching, -⟩ := Store.find?_eq_some isLive
    rw [isAfter]
    refine List.length_filter_lt_length_iff_exists.mpr ⟨entry, member, ?_⟩
    simp [matching]
  · exact absurd (reads value (congrArg Prod.fst answers)) writes

/-- If a row of calls leaves the store as it was, only readings were accepted. -/
theorem Chained.only_readings {store after : Store} {history : List Served}
    (chained : Chained store history after) (faithful : ∀ served ∈ history, served.Faithful)
    (same : after = store) :
    ∀ served ∈ history, served.Accepted → served.request.verb = .get := by
  have lessens : store.version ≤ after.version ∧ (after.version = store.version →
      after.entries.length ≤ store.entries.length ∧
        (after.entries.length = store.entries.length →
          ∀ served ∈ history, served.Accepted → served.request.verb = .get)) := by
    clear same
    induction chained with
    | nil store => exact ⟨le_refl _, fun _ => ⟨le_refl _, fun _ => by simp⟩⟩
    | @cons served rest last chained ih =>
        have isFaithful := faithful served List.mem_cons_self
        obtain ⟨later, further⟩ := ih fun served member =>
          faithful served (List.mem_cons_of_mem _ member)
        obtain ⟨early, fewer⟩ := Store.version_le_of_turn isFaithful.turn
        refine ⟨early.trans later, fun same => ?_⟩
        obtain ⟨fewerStill, idle⟩ := further (by omega)
        have fewerFirst := fewer (by omega)
        refine ⟨fewerStill.trans fewerFirst, fun equal call member accepted => ?_⟩
        rcases List.mem_cons.mp member with rfl | among
        · by_contra writes
          have changes := call.changes_of_accepted isFaithful accepted writes
          omega
        · exact idle (by omega) call among accepted
  subst same
  exact (lessens.2 rfl).2 rfl

theorem Program.Ends.only_readings {α : Type} {program : Program α} {world : World}
    {goal : Except Fault α → Store → Prop} (calm : world.Calm) (sound : world.store.Sound)
    (ends : program.Ends world.store goal) (same : (program.run world).2.store = world.store) :
    ∀ served ∈ program.history world, served.Accepted → served.request.verb = .get := by
  have calls := (run_of_ensures (Surroundings.alone_covers _ calm) sound ends).1
  exact (chained_history program calm).only_readings
    (fun served member => (calls served member).2.1) same

end CuratorKeeper
