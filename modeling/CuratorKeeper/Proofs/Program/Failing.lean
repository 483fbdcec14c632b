import CuratorKeeper.Proofs.Program.Alone
import CuratorKeeper.Proofs.Program.Keeps
import CuratorKeeper.Proofs.Program.Writes

/-!
# Programs whose calls fail

The store may fail any call of a program while nobody else comes to it.  Then
each call is served by the store as the call before left it, so that what every
single call does to the store adds up to what the program does.
-/

namespace CuratorKeeper

/-- Nobody else comes to the store, but it may fail any call. -/
def Surroundings.failing : Surroundings where
  holds := Store.Sound
  mayTurn store before := before = store
  mayAnswer served := served.Faithful ∨ served.Injected

/-- The store is reached directly, and nothing but failures waits for its calls. -/
structure World.OnlyFails (world : World) : Prop where
  direct : world.gateway = none
  fails : ∀ verb, ∀ disturbances ∈ world.waiting verb, ∀ disturbance ∈ disturbances,
    ∃ fault, disturbance.deed = .fail fault

theorem Store.disturbAll_of_fails {disturbances : List Disturbance}
    (fails : ∀ disturbance ∈ disturbances, ∃ fault, disturbance.deed = .fail fault) (store : Store)
    (ref : Ref) : (store.disturbAll ref disturbances).2 = store := by
  cases disturbances with
  | nil => rfl
  | cons disturbance rest =>
      obtain ⟨fault, isFail⟩ := fails disturbance List.mem_cons_self
      simp [disturbAll, disturb, isFail]

theorem Surroundings.failing_covers (promise : Served → Prop) {world : World}
    (onlyFails : world.OnlyFails) : Surroundings.failing.Covers promise world where
  direct := onlyFails.direct
  disturbed disturbances waiting store ref sound := by
    have fails : ∀ disturbance ∈ disturbances, ∃ fault, disturbance.deed = .fail fault := by
      rcases waiting with rfl | ⟨verb, member⟩
      · simp
      · exact onlyFails.fails verb disturbances member
    rw [Store.disturbAll_of_fails fails]
    exact ⟨sound, rfl, fun request fault _ => .inr ⟨⟨fault, rfl⟩, rfl⟩⟩
  faithful served faithful := .inl faithful
  keeps := (Surroundings.disturbed_covers promise onlyFails.direct).keeps

theorem Served.find?_of_refused {served : Served} (answered : served.Faithful ∨ served.Injected)
    {fault : Fault} (refused : served.answer = .error fault) (ref : Ref) :
    served.after.find? ref = served.before.find? ref := by
  rcases answered with faithful | ⟨-, same⟩
  · have answers : served.before.serve served.ref served.request = (.error fault, served.after) :=
      refused ▸ faithful
    rcases served.before.serve_ways served.ref served.request with
      ⟨resource, puts⟩ | ⟨own, -, removes⟩ | ⟨same, -⟩
    · rcases served.before.put_cases resource with ⟨stamped, other, -, -, put⟩ | ⟨told, put⟩
      · cases (answers.symm.trans puts).trans put
      · obtain ⟨-, isAfter⟩ := Prod.mk.inj ((answers.symm.trans puts).trans put)
        rw [isAfter]
        rfl
    · cases answers.symm.trans removes
    · rw [answers] at same
      exact congrArg (fun store => store.find? ref) same
  · rw [same]

theorem Served.find?_of_spared {served : Served} (answered : served.Faithful ∨ served.Injected)
    (spared : served.wrote = false) (stays : served.request.verb ≠ .delete) (ref : Ref) :
    served.after.find? ref = served.before.find? ref := by
  obtain ⟨request, own, before, answer, after⟩ := served
  cases answer with
  | error fault => exact find?_of_refused answered rfl ref
  | ok value =>
      cases request with
      | create resource => cases spared
      | get target =>
          have faithful := Served.Accepted.faithful ⟨value, rfl⟩ answered
          have unchanged : before.serve own (.get target) = (.ok value, after) := faithful
          simp only [Store.serve] at unchanged
          split at unchanged
          · cases unchanged
          · split at unchanged <;> cases unchanged
            rfl
      | update resource part => cases spared
      | delete target => exact absurd rfl stays

/-- What each call of a row does, and can be done time and again, the row does. -/
theorem Chained.relates {relation : Store → Store → Prop} {store after : Store}
    {history : List Served} (refl : ∀ store, relation store store)
    (trans : ∀ {store middle after}, relation store middle → relation middle after →
      relation store after)
    (chained : Chained store history after)
    (each : ∀ served ∈ history, relation served.before served.after) : relation store after := by
  induction chained with
  | nil store => exact refl store
  | cons chained ih =>
      exact trans (each _ List.mem_cons_self)
        (ih fun served member => each served (List.mem_cons_of_mem _ member))

namespace Program

variable {α : Type} {program : Program α} {promise : Served → Prop}

/-- What is ensured amid disturbances is ensured when calls only fail, and then the
calls follow one another. -/
theorem Ensures.chained {goal : Goal α} {store : Store}
    (ensured : Ensures .disturbed promise program goal store) :
    Ensures .failing promise program (fun result history after =>
      goal result history after ∧ Chained store history after ∧
        ∀ served ∈ history, served.before.Sound ∧ (served.Faithful ∨ served.Injected) ∧
          promise served) store := by
  induction program generalizing goal store with
  | done value => exact ⟨ensured, .nil store, by simp⟩
  | fail fault => exact ⟨ensured, .nil store, by simp⟩
  | perform effect next ih =>
      cases effect with
      | call request =>
          simp only [Ensures] at ensured ⊢
          cases known : request.ref with
          | error mismatch =>
              rw [known] at ensured
              exact ih _ ensured
          | ok ref =>
              rw [known] at ensured
              rintro before answer after sound rfl answered
              obtain ⟨kept, rest⟩ := ensured before answer after sound (.refl before) answered
              refine ⟨kept, (ih _ rest).mono fun result history last further => ?_⟩
              obtain ⟨reached, chained, each⟩ := further
              refine ⟨reached, @Chained.cons ⟨request, ref, before, answer, after⟩ _ _ chained, ?_⟩
              intro served member
              rcases List.mem_cons.mp member with rfl | later
              · exact ⟨sound, answered, kept⟩
              · exact each served later
      | note line => exact ih _ ensured
      | draw => exact fun draw => ih _ (ensured draw)
      | pause length => exact ih _ ensured
      | lock key action => exact fun reply => ih _ (ensured reply)

/-- What every call of a program does to the store the program does, if its calls
only fail. -/
theorem Keeps.relates {relation : Store → Store → Prop} (kept : Keeps .disturbed promise program)
    (refl : ∀ store, relation store store)
    (trans : ∀ {store middle after}, relation store middle → relation middle after →
      relation store after)
    (each : ∀ served : Served, served.before.Sound → (served.Faithful ∨ served.Injected) →
      promise served → relation served.before served.after) (store : Store) :
    Ensures .failing promise program (fun _ _ after => relation store after) store := by
  refine (kept store).chained.mono fun result history after ended => ?_
  obtain ⟨-, chained, served⟩ := ended
  refine chained.relates refl trans fun call member => ?_
  obtain ⟨sound, answered, promised⟩ := served call member
  exact each call sound answered promised

end Program

/-- Runs of a program one after another, each of which fails for failures of the
store. -/
inductive FailedRuns {α : Type} (program : Program α) : Store → Store → Prop
  | none (store : Store) : FailedRuns program store store
  | run {world left : World} {fault : Fault} {last : Store} (onlyFails : world.OnlyFails)
      (failed : program.run world = (.error fault, left))
      (others : FailedRuns program left.store last) : FailedRuns program world.store last

/-- What each failed run does, and can be done time and again, all of them do. -/
theorem FailedRuns.relates {α : Type} {program : Program α} {relation : Store → Store → Prop}
    {store last : Store} (refl : ∀ store, relation store store)
    (trans : ∀ {store middle after}, relation store middle → relation middle after →
      relation store after)
    (each : ∀ store, Program.Ensures .failing (fun _ => True) program
      (fun result _ after => ∀ fault, result = .error fault → relation store after) store)
    (sound : store.Sound) (runs : FailedRuns program store last) :
    last.Sound ∧ relation store last := by
  induction runs with
  | none store => exact ⟨sound, refl store⟩
  | @run world left fault last onlyFails failed others ih =>
      obtain ⟨-, soundLeft, reached⟩ := Program.run_of_ensures
        (Surroundings.failing_covers _ onlyFails) sound (each world.store)
      rw [failed] at soundLeft reached
      obtain ⟨soundLast, further⟩ := ih soundLeft
      exact ⟨soundLast, trans (reached fault rfl) further⟩

end CuratorKeeper
