import CuratorKeeper.Proofs.Program.Tells

/-!
# Programs that keep a promise

A program keeps a promise when every call that it makes does, from whatever
store it starts.  A composed program keeps what its parts keep.
-/

namespace CuratorKeeper

namespace Program

variable {α β σ : Type} {around : Surroundings} {promise : Served → Prop}

/-- Every call that a program makes keeps the promise. -/
def Keeps (around : Surroundings) (promise : Served → Prop) (program : Program α) : Prop :=
  ∀ store, Ensures around promise program (fun _ _ _ => True) store

theorem Keeps.weaken {program : Program α} {weaker : Served → Prop}
    (kept : Keeps around promise program) (enough : ∀ served, promise served → weaker served) :
    Keeps around weaker program :=
  fun store => (kept store).weaken enough

/-- What a program keeps in wider surroundings it keeps besides what it ensures
in narrower ones. -/
theorem Ensures.besides {narrow wide : Surroundings} {other : Served → Prop}
    (holds : ∀ store, narrow.holds store → wide.holds store)
    (turns : ∀ store after, narrow.mayTurn store after → wide.mayTurn store after)
    (answers : ∀ served, narrow.mayAnswer served → wide.mayAnswer served) {program : Program α}
    {goal any : Goal α} {store : Store} (ensured : Ensures narrow promise program goal store)
    (kept : Ensures wide other program any store) :
    Ensures narrow (fun served => promise served ∧ other served) program goal store := by
  induction program generalizing goal any store with
  | done value => exact ensured
  | fail fault => exact ensured
  | perform effect next ih =>
      cases effect with
      | call request =>
          simp only [Ensures] at ensured kept ⊢
          cases known : request.ref with
          | error mismatch =>
              rw [known] at ensured kept
              exact ih _ ensured kept
          | ok ref =>
              rw [known] at ensured kept
              intro before answer after held turned answered
              obtain ⟨own, further⟩ := ensured before answer after held turned answered
              obtain ⟨wider, more⟩ := kept before answer after (holds _ held) (turns _ _ turned)
                (answers _ answered)
              exact ⟨⟨own, wider⟩, ih _ further more⟩
      | note line => exact ih _ ensured kept
      | draw => exact fun draw => ih _ (ensured draw) (kept draw)
      | pause length => exact ih _ ensured kept
      | lock key action => exact fun reply => ih _ (ensured reply) (kept reply)

theorem Ensures.and {program : Program α} {goal further : Goal α} {store : Store}
    (ensured : Ensures around promise program goal store)
    (besides : Ensures around promise program further store) :
    Ensures around promise program
      (fun result history after => goal result history after ∧ further result history after)
      store := by
  induction program generalizing goal further store with
  | done value => exact ⟨ensured, besides⟩
  | fail fault => exact ⟨ensured, besides⟩
  | perform effect next ih =>
      cases effect with
      | call request =>
          simp only [Ensures] at ensured besides ⊢
          cases known : request.ref with
          | error mismatch =>
              rw [known] at ensured besides
              exact ih _ ensured besides
          | ok ref =>
              rw [known] at ensured besides
              intro before answer after holds turned answered
              obtain ⟨kept, rest⟩ := ensured before answer after holds turned answered
              obtain ⟨-, more⟩ := besides before answer after holds turned answered
              exact ⟨kept, ih _ rest more⟩
      | note line => exact ih _ ensured besides
      | draw => exact fun draw => ih _ (ensured draw) (besides draw)
      | pause length => exact ih _ ensured besides
      | lock key action => exact fun reply => ih _ (ensured reply) (besides reply)

theorem keeps_done (value : α) : Keeps around promise (done value) := fun _ => trivial

theorem keeps_fail (fault : Fault) : Keeps around promise (fail fault : Program α) :=
  fun _ => trivial

theorem keeps_ofExcept (result : Except Fault α) : Keeps around promise (ofExcept result) := by
  intro store
  rw [ensures_ofExcept]
  trivial

theorem keeps_note (level : Level) (component : Component) (text : String) :
    Keeps around promise (note level component text) :=
  fun _ => trivial

theorem keeps_lock (key : String) (action : LockAction) :
    Keeps around promise (effect (.lock key action)) :=
  fun _ _ => trivial

theorem keeps_bind {program : Program α} {rest : α → Program β}
    (first : Keeps around promise program) (further : ∀ value, Keeps around promise (rest value)) :
    Keeps around promise (program.bind rest) := by
  intro store
  rw [ensures_bind]
  apply (first store).mono
  intro result history store _
  cases result with
  | ok value => exact further value store
  | error fault => trivial

theorem keeps_ofExcept_bind {result : Except Fault α} {rest : α → Program β}
    (further : ∀ value, result = .ok value → Keeps around promise (rest value)) :
    Keeps around promise ((ofExcept result).bind rest) := by
  cases result with
  | error fault => exact keeps_fail fault
  | ok value => exact further value rfl

theorem keeps_attempt {program : Program α} (kept : Keeps around promise program) :
    Keeps around promise program.attempt := by
  intro store
  rw [ensures_attempt]
  exact kept store

theorem keeps_thenAlways {program : Program α} {last : Program Unit}
    (kept : Keeps around promise program) (keptLast : Keeps around promise last) :
    Keeps around promise (program.thenAlways last) :=
  keeps_bind (keeps_attempt kept) fun _ => keeps_bind keptLast fun _ => keeps_ofExcept _

theorem keeps_catchStore {program : Program α} (kept : Keeps around promise program) :
    Keeps around promise program.catchStore := by
  apply keeps_bind (keeps_attempt kept)
  intro result
  cases result with
  | ok value => exact keeps_done _
  | error fault =>
      cases fault with
      | store refused => exact keeps_done _
      | _ => exact keeps_fail _

theorem keeps_ofProgram {next : σ} {program : Program (Attempt σ α)}
    (kept : Keeps around promise program) :
    Keeps around promise (Attempt.ofProgram next program) := by
  apply keeps_bind (keeps_catchStore kept)
  intro result
  cases result with
  | ok value => exact keeps_done _
  | error fault =>
      by_cases stale : fault.refusal = .conflict
      · simp only [stale, if_true]
        exact keeps_done _
      · simp only [stale, if_false]
        exact keeps_fail _

theorem keeps_retry {budget : Budget} {attempt : σ → Program (Attempt σ α)}
    (kept : ∀ start, Keeps around promise (attempt start)) (start : σ) :
    Keeps around promise (retry budget attempt start) := by
  intro store
  refine @ensures_retryFrom α σ _ _ budget attempt (fun _ _ _ => True) (fun _ _ _ _ => True) ?_ _
    _ _ start [] store trivial
  intro left start past store _
  apply (kept start store).mono
  intro result more store _
  rcases result with fault | (value | conflict)
  · trivial
  · trivial
  · exact ⟨fun _ => trivial, fun _ => trivial, fun _ _ => trivial⟩

/-- A request is made as promised if each of its answers is. -/
theorem keeps_ask {request : Request}
    (kept : ∀ ref before answer after, request.ref = .ok ref →
      promise ⟨request, ref, before, answer, after⟩) :
    Keeps around promise (ask request) := by
  intro store
  cases about : request.ref with
  | error mismatch =>
      simp only [ask, Ensures, about]
      trivial
  | ok ref =>
      rw [ensures_ask about]
      exact fun before answer after _ _ _ => ⟨kept ref before answer after about, trivial⟩

section Worlds

variable {program : Program α} {world : World}

/-- In a world whose store is reached directly every call keeps the promise,
whatever waits there. -/
theorem Keeps.history (kept : Keeps .disturbed promise program) (direct : world.gateway = none)
    (sound : world.store.Sound) :
    ∀ served ∈ program.history world,
      served.before.Sound ∧ (served.Faithful ∨ served.Injected) ∧ promise served :=
  (run_of_ensures (Surroundings.disturbed_covers promise direct) sound (kept world.store)).1

theorem Keeps.sound_run (kept : Keeps .disturbed promise program) (direct : world.gateway = none)
    (sound : world.store.Sound) : (program.run world).2.store.Sound :=
  (run_of_ensures (Surroundings.disturbed_covers promise direct) sound (kept world.store)).2.1

end Worlds

end Program
end CuratorKeeper
