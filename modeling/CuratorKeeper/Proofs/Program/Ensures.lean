import CuratorKeeper.Proofs.Program.History
import CuratorKeeper.Retry.Loop

/-!
# What a program ensures

A program is followed through all answers that its surroundings allow: before
each call others may have changed the store in the ways that are open to them,
and the call is answered in one of the ways that are open to the store.  A
program ensures a goal when every call on the way keeps a promise and the end
meets the goal.  A goal speaks of the result, the calls made and the store, so
that what a composed program ensures is put together from its parts.
-/

namespace CuratorKeeper

/-- What a program has to reckon with. -/
structure Surroundings where
  /-- What holds of the store at all times. -/
  holds : Store → Prop
  /-- What others may turn the store into between two calls. -/
  mayTurn : Store → Store → Prop
  /-- How a call may be answered. -/
  mayAnswer : Served → Prop

/-- Any foreign deeds and any failures of the store itself. -/
def Surroundings.disturbed : Surroundings where
  holds := Store.Sound
  mayTurn := Store.Evolves
  mayAnswer served := served.Faithful ∨ served.Injected

/-- A statement about the end of a program: its result, the calls that it made
and the store that it leaves. -/
abbrev Goal (α : Type) : Type := Except Fault α → List Served → Store → Prop

/-- Only a flaw of a budget shows, as an unsuited value. -/
theorem Budget.check_cases (budget : Budget) (tries left : Nat) :
    budget.check tries left = .ok () ∨
      budget.flaw ≠ none ∧ budget.check tries left = .error .unsuited := by
  unfold check
  cases budget.flaw with
  | none => exact .inl rfl
  | some flaw => cases shown : flaw.shows tries left <;> simp [shown]

namespace Program

variable {α β σ : Type}

/-- Through all allowed answers, every call of a program keeps the promise and
its end meets the goal. -/
def Ensures (around : Surroundings) (promise : Served → Prop) :
    Program α → Goal α → Store → Prop
  | .done value, goal, store => goal (.ok value) [] store
  | .fail fault, goal, store => goal (.error fault) [] store
  | .perform (.call request) next, goal, store =>
    match request.ref with
    | .error mismatch => Ensures around promise (next (.error (.mismatch mismatch))) goal store
    | .ok ref =>
      ∀ before answer after, around.holds before → around.mayTurn store before →
        around.mayAnswer ⟨request, ref, before, answer, after⟩ →
        promise ⟨request, ref, before, answer, after⟩ ∧
          Ensures around promise (next answer)
            (fun result history =>
              goal result (⟨request, ref, before, answer, after⟩ :: history)) after
  | .perform (.note _) next, goal, store => Ensures around promise (next ()) goal store
  | .perform .draw next, goal, store => ∀ draw, Ensures around promise (next draw) goal store
  | .perform (.pause _) next, goal, store => Ensures around promise (next ()) goal store
  | .perform (.lock _ _) next, goal, store =>
    ∀ reply, Ensures around promise (next reply) goal store

@[simp]
theorem liftM_mismatch (result : Except Mismatch α) :
    (liftM result : Program α) = ofExcept (result.mapError .mismatch) := rfl

@[simp]
theorem liftM_fault (result : Except Fault α) : (liftM result : Program α) = ofExcept result := rfl

variable {around : Surroundings} {promise : Served → Prop}

@[simp]
theorem ensures_done (value : α) (goal : Goal α) (store : Store) :
    Ensures around promise (.done value) goal store ↔ goal (.ok value) [] store := Iff.rfl

@[simp]
theorem ensures_fail (fault : Fault) (goal : Goal α) (store : Store) :
    Ensures around promise (.fail fault) goal store ↔ goal (.error fault) [] store := Iff.rfl

@[simp]
theorem ensures_ofExcept (result : Except Fault α) (goal : Goal α) (store : Store) :
    Ensures around promise (ofExcept result) goal store ↔ goal result [] store := by
  cases result <;> rfl

@[simp]
theorem ensures_note (level : Level) (component : Component) (text : String) (goal : Goal Unit)
    (store : Store) :
    Ensures around promise (note level component text) goal store ↔ goal (.ok ()) [] store :=
  Iff.rfl

theorem ensures_ask {request : Request} {ref : Ref} (about : request.ref = .ok ref)
    (goal : Goal Value) (store : Store) :
    Ensures around promise (ask request) goal store ↔
      ∀ before answer after, around.holds before → around.mayTurn store before →
        around.mayAnswer ⟨request, ref, before, answer, after⟩ →
        promise ⟨request, ref, before, answer, after⟩ ∧
          goal answer [⟨request, ref, before, answer, after⟩] after := by
  simp only [ask, Ensures, about, ensures_ofExcept]

theorem Ensures.imp {program : Program α} {goal weaker : Goal α} {store : Store}
    {other : Served → Prop} (ensured : Ensures around promise program goal store)
    (keeps : ∀ served, promise served → other served)
    (enough : ∀ result history store, goal result history store → weaker result history store) :
    Ensures around other program weaker store := by
  induction program generalizing goal weaker store with
  | done value => exact enough _ _ _ ensured
  | fail fault => exact enough _ _ _ ensured
  | perform effect next ih =>
      cases effect with
      | call request =>
          simp only [Ensures] at ensured ⊢
          cases known : request.ref with
          | error mismatch =>
              rw [known] at ensured
              exact ih _ ensured enough
          | ok ref =>
              rw [known] at ensured
              intro before answer after holds turned answered
              obtain ⟨kept, rest⟩ := ensured before answer after holds turned answered
              exact ⟨keeps _ kept, ih _ rest fun result history store => enough result _ store⟩
      | note line => exact ih _ ensured enough
      | draw => exact fun draw => ih _ (ensured draw) enough
      | pause length => exact ih _ ensured enough
      | lock key action => exact fun reply => ih _ (ensured reply) enough

theorem Ensures.mono {program : Program α} {goal weaker : Goal α} {store : Store}
    (ensured : Ensures around promise program goal store)
    (enough : ∀ result history store, goal result history store → weaker result history store) :
    Ensures around promise program weaker store :=
  ensured.imp (fun _ kept => kept) enough

theorem Ensures.weaken {program : Program α} {goal : Goal α} {store : Store}
    {weaker : Served → Prop} (ensured : Ensures around promise program goal store)
    (enough : ∀ served, promise served → weaker served) :
    Ensures around weaker program goal store :=
  ensured.imp enough fun _ _ _ ended => ended

theorem ensures_bind (program : Program α) (rest : α → Program β) (goal : Goal β)
    (store : Store) :
    Ensures around promise (program.bind rest) goal store ↔
      Ensures around promise program (fun result history store =>
        match result with
        | .ok value => Ensures around promise (rest value)
            (fun result more => goal result (history ++ more)) store
        | .error fault => goal (.error fault) history store) store := by
  induction program generalizing goal store with
  | done value => rfl
  | fail fault => rfl
  | perform effect next ih =>
      cases effect with
      | call request =>
          simp only [perform_bind, Ensures]
          cases request.ref with
          | error mismatch => exact ih _ _ _
          | ok ref =>
              simp only [ih]
              rfl
      | note line => exact ih _ _ _
      | draw => exact forall_congr' fun draw => ih _ _ _
      | pause length => exact ih _ _ _
      | lock key action => exact forall_congr' fun reply => ih _ _ _

theorem ensures_map (change : α → β) (program : Program α) (goal : Goal β) (store : Store) :
    Ensures around promise (change <$> program) goal store ↔
      Ensures around promise program (fun result => goal (result.map change)) store := by
  have isBind : change <$> program = program.bind fun value => .done (change value) := rfl
  have same : (fun result history store =>
      match result with
      | .ok value => Ensures around promise (.done (change value))
          (fun result more => goal result (history ++ more)) store
      | .error fault => goal (.error fault) history store) =
        fun result => goal (Except.map change result) := by
    funext result history store
    cases result with
    | ok value => simp [Except.map]
    | error fault => rfl
  rw [isBind, ensures_bind, ← same]

theorem ensures_attempt (program : Program α) (goal : Goal (Except Fault α)) (store : Store) :
    Ensures around promise program.attempt goal store ↔
      Ensures around promise program (fun result => goal (.ok result)) store := by
  induction program generalizing goal store with
  | done value => rfl
  | fail fault => rfl
  | perform effect next ih =>
      cases effect with
      | call request =>
          simp only [attempt, Ensures]
          cases request.ref with
          | error mismatch => exact ih _ _ _
          | ok ref => simp only [ih]
      | note line => exact ih _ _ _
      | draw => exact forall_congr' fun draw => ih _ _ _
      | pause length => exact ih _ _ _
      | lock key action => exact forall_congr' fun reply => ih _ _ _

/-- How the end of a program looks once refusals of the store are values. -/
def caughtStore (goal : Goal (Except StoreFault α)) : Goal α
  | .ok value => goal (.ok (.ok value))
  | .error (.store fault) => goal (.ok (.error fault))
  | .error other => goal (.error other)

theorem ensures_catchStore (program : Program α) (goal : Goal (Except StoreFault α))
    (store : Store) :
    Ensures around promise program.catchStore goal store ↔
      Ensures around promise program (caughtStore goal) store := by
  rw [catchStore, ensures_bind, ensures_attempt]
  have same : (fun result history store =>
      match (Except.ok result : Except Fault (Except Fault α)) with
      | .ok value => Ensures around promise (match value with
          | .ok value => .done (.ok value)
          | .error (.store fault) => .done (.error fault)
          | .error other => .fail other)
          (fun result more => goal result (history ++ more)) store
      | .error fault => goal (.error fault) history store) = caughtStore goal := by
    funext result history store
    cases result with
    | ok value => simp [caughtStore]
    | error fault => cases fault <;> simp [caughtStore]
  exact iff_of_eq (congrArg (fun ended => Ensures around promise program ended store) same)

def tried (next : σ) (goal : Goal (Attempt σ α)) : Goal (Attempt σ α)
  | .error (.store fault) =>
    if fault.refusal = .conflict then goal (.ok (.stale fault next)) else goal (.error (.store fault))
  | result => goal result

theorem ensures_ofProgram (next : σ) (program : Program (Attempt σ α))
    (goal : Goal (Attempt σ α)) (store : Store) :
    Ensures around promise (Attempt.ofProgram next program) goal store ↔
      Ensures around promise program (tried next goal) store := by
  rw [Attempt.ofProgram, ensures_bind, ensures_catchStore]
  have same : caughtStore (fun result history store =>
      match result with
      | .ok value => Ensures around promise (match value with
          | .ok result => .done result
          | .error fault =>
            if fault.refusal = .conflict then .done (.stale fault next) else .fail (.store fault))
          (fun result more => goal result (history ++ more)) store
      | .error fault => goal (.error fault) history store) = tried next goal := by
    funext result history store
    cases result with
    | ok value => simp [caughtStore, tried]
    | error fault =>
        cases fault with
        | store refused =>
            by_cases stale : refused.refusal = .conflict <;> simp [caughtStore, tried, stale]
        | _ => simp [caughtStore, tried]
  exact iff_of_eq (congrArg (fun ended => Ensures around promise program ended store) same)

end Program

/-- The surroundings reckon with everything that can happen in a world. -/
structure Surroundings.Covers (around : Surroundings) (promise : Served → Prop) (world : World) :
    Prop where
  /-- The store is reached directly. -/
  direct : world.gateway = none
  disturbed : ∀ disturbances, (disturbances = [] ∨ ∃ verb, disturbances ∈ world.waiting verb) →
    ∀ store ref, around.holds store →
      around.holds (store.disturbAll ref disturbances).2 ∧
        around.mayTurn store (store.disturbAll ref disturbances).2 ∧
        ∀ request fault, (store.disturbAll ref disturbances).1 = .error fault →
          around.mayAnswer ⟨request, ref, (store.disturbAll ref disturbances).2, .error fault,
            (store.disturbAll ref disturbances).2⟩
  faithful : ∀ served : Served, served.Faithful → around.mayAnswer served
  /-- Calls that keep the promise keep what holds of the store. -/
  keeps : ∀ served : Served, around.holds served.before → around.mayAnswer served →
    promise served → around.holds served.after

namespace Surroundings.Covers

variable {around : Surroundings} {promise : Served → Prop} {world : World}

theorem mono (covers : around.Covers promise world) {after : World}
    (direct : after.gateway = world.gateway)
    (less : ∀ verb, after.waiting verb ⊆ world.waiting verb) : around.Covers promise after where
  direct := direct.trans covers.direct
  disturbed disturbances waiting :=
    covers.disturbed disturbances (waiting.imp id fun ⟨verb, member⟩ => ⟨verb, less verb member⟩)
  faithful := covers.faithful
  keeps := covers.keeps

end Surroundings.Covers

theorem Surroundings.disturbed_covers (promise : Served → Prop) {world : World}
    (direct : world.gateway = none) : Surroundings.disturbed.Covers promise world where
  direct := direct
  disturbed disturbances _ store ref sound := by
    obtain ⟨soundAfter, evolves⟩ := Store.disturbAll_ends ref disturbances sound
    exact ⟨soundAfter, evolves, fun request fault _ => .inr ⟨⟨fault, rfl⟩, rfl⟩⟩
  faithful served faithful := .inl faithful
  keeps served sound answered _ := by
    rcases answered with faithful | ⟨-, unchanged⟩
    · exact Store.Sound.turn sound faithful.turn
    · rw [unchanged]
      exact sound

theorem World.headD_waits (world : World) (verb : Verb) :
    (world.waiting verb).headD [] = [] ∨
      ∃ other, (world.waiting verb).headD [] ∈ world.waiting other := by
  cases waiting : world.waiting verb with
  | nil => exact .inl rfl
  | cons disturbances rest => exact .inr ⟨verb, by simp [waiting]⟩

theorem World.waiting_serve_subset (world : World) (request : Request) (verb : Verb) :
    (world.serve request).2.waiting verb ⊆ world.waiting verb := by
  have taken : (world.takeWaiting request.verb).waiting verb ⊆ world.waiting verb := by
    simp only [World.takeWaiting]
    split
    next same =>
      subst same
      exact List.tail_subset _
    next => exact List.Subset.refl _
  unfold World.serve
  cases request.ref with
  | error mismatch => exact List.Subset.refl _
  | ok ref =>
      simp only
      split <;> exact taken

/-- A call is served by the store, unless a foreign deed before it fails it. -/
theorem World.served_cases (world : World) {request : Request} {ref : Ref}
    (about : request.ref = .ok ref) :
    let disturbed := world.store.disturbAll ref ((world.waiting request.verb).headD [])
    Served.Faithful ⟨request, ref, disturbed.2, (world.serve request).1,
        (world.serve request).2.store⟩ ∨
      ∃ fault, disturbed.1 = .error fault ∧ (world.serve request).1 = .error fault ∧
        (world.serve request).2.store = disturbed.2 := by
  intro disturbed
  unfold World.serve
  simp only [about]
  split
  next fault store failed =>
    exact .inr ⟨fault, by simp [disturbed, failed], rfl, by simp [disturbed, failed]⟩
  next store went => exact .inl (by simp [Served.Faithful, disturbed, went])

namespace Program

variable {α : Type} {around : Surroundings} {promise : Served → Prop}

/-- A program that ensures a goal reaches it in every world that its
surroundings cover, and keeps its promise on the way. -/
theorem run_of_ensures {program : Program α} {goal : Goal α} {world : World}
    (covers : around.Covers promise world) (holds : around.holds world.store)
    (ensured : Ensures around promise program goal world.store) :
    (∀ served ∈ program.history world,
        around.holds served.before ∧ around.mayAnswer served ∧ promise served) ∧
      around.holds (program.run world).2.store ∧
      goal (program.run world).1 (program.history world) (program.run world).2.store := by
  induction program generalizing goal world with
  | done value => exact ⟨by simp [history], holds, ensured⟩
  | fail fault => exact ⟨by simp [history], holds, ensured⟩
  | perform effect next ih =>
      cases effect with
      | note line =>
          exact ih () (covers.mono rfl fun _ => List.Subset.refl _) holds ensured
      | draw =>
          exact ih _ (covers.mono rfl fun _ => List.Subset.refl _) holds (ensured _)
      | pause length =>
          exact ih () (covers.mono rfl fun _ => List.Subset.refl _) holds ensured
      | lock key action =>
          exact ih _ (covers.mono rfl fun _ => List.Subset.refl _) holds (ensured _)
      | call request =>
          simp only [Ensures] at ensured
          cases known : request.ref with
          | error mismatch =>
              rw [known] at ensured
              have unmoved : world.handle (.call request) = (.error (.mismatch mismatch), world) := by
                simp [World.handle, World.answer, covers.direct, World.serve, known]
              simp only [run_perform, history, World.callOf, known, unmoved, List.nil_append]
              exact ih _ covers holds ensured
          | ok ref =>
              rw [known] at ensured
              obtain ⟨holdsBefore, turned, failing⟩ := covers.disturbed
                ((world.waiting request.verb).headD []) (world.headD_waits request.verb)
                world.store ref holds
              -- The call is served by the store as the foreign deeds left it, or one of them fails it.
              have answered : around.mayAnswer ⟨request, ref,
                  (world.store.disturbAll ref ((world.waiting request.verb).headD [])).2,
                  (world.serve request).1, (world.serve request).2.store⟩ := by
                rcases world.served_cases known with faithful | ⟨fault, failed, answer, after⟩
                · exact covers.faithful _ faithful
                · rw [answer, after]
                  exact failing request fault failed
              obtain ⟨kept, rest⟩ := ensured _ _ _ holdsBefore turned answered
              have holdsAfter := covers.keeps _ holdsBefore answered kept
              have direct : world.handle (.call request) = world.serve request := by
                simp [World.handle, World.answer, covers.direct]
              have less : ∀ verb, (world.serve request).2.waiting verb ⊆ world.waiting verb :=
                world.waiting_serve_subset request
              have still : (world.serve request).2.gateway = world.gateway :=
                world.gateway_serve request
              simp only [run_perform, history, World.callOf, known, direct, List.singleton_append]
              obtain ⟨calls, holdsLast, ended⟩ := ih (world.serve request).1
                (covers.mono still less) holdsAfter rest
              refine ⟨fun served member => ?_, holdsLast, ended⟩
              rcases List.mem_cons.mp member with rfl | later
              · exact ⟨holdsBefore, answered, kept⟩
              · exact calls served later

end Program
end CuratorKeeper
