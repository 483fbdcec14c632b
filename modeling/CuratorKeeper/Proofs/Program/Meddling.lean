import CuratorKeeper.Proofs.Program.Tells
import Mathlib.Algebra.Order.BigOperators.Group.List
import Mathlib.Algebra.Order.Ring.Nat

/-!
# What others do between the calls of a run

Foreign deeds that write or remove a resource are counted call by call, as the
world has them wait.  Seen from the calls alone, a resource was meddled with
between two of them if the later call finds it other than the earlier one left
it.  That tells of one deed at least, so a program that is refused because of
what others did can charge each refusal to a deed of its own.
-/

namespace CuratorKeeper

/-- How many of the deeds before a call write or remove a resource. -/
def Store.meddlings (watched : Ref) (store : Store) (called : Ref) : List Disturbance → Nat
  | [] => 0
  | disturbance :: rest =>
    let disturbed := store.disturb called disturbance
    (if disturbed.2.find? watched = store.find? watched then 0 else 1) +
      match disturbed.1 with
      | .ok () => disturbed.2.meddlings watched called rest
      | .error _ => 0

theorem Store.meddlings_pos {watched called : Ref} {store : Store} {disturbances : List Disturbance}
    (changed : (store.disturbAll called disturbances).2.find? watched ≠ store.find? watched) :
    0 < store.meddlings watched called disturbances := by
  induction disturbances generalizing store with
  | nil => exact absurd rfl changed
  | cons disturbance rest ih =>
      simp only [Store.meddlings]
      by_cases same : (store.disturb called disturbance).2.find? watched = store.find? watched
      · rw [if_pos same, Nat.zero_add]
        cases went : store.disturb called disturbance with
        | mk result after =>
            rw [went] at same
            simp only [disturbAll, went] at changed
            cases result with
            | ok done =>
                simp only at same changed ⊢
                exact ih (same ▸ changed)
            | error fault => exact absurd same changed
      · rw [if_neg same]
        omega

/-- The deeds that meddle with a resource before the call that an effect makes, if it
makes one. -/
def World.meddlings (watched : Ref) (world : World) : Effect → List Nat
  | .call request =>
    match request.ref with
    | .error _ => []
    | .ok called =>
      [world.store.meddlings watched called ((world.waiting request.verb).headD [])]
  | _ => []

/-- For every call of a run, how many deeds before it meddle with a resource. -/
def Program.meddlings {α : Type} (watched : Ref) : Program α → World → List Nat
  | .done _, _ => []
  | .fail _, _ => []
  | .perform effect next, world =>
    let handled := world.handle effect
    world.meddlings watched effect ++ (next handled.1).meddlings watched handled.2

/-- For every call, whether it finds a resource other than the call before has left it,
counted as one if so. -/
def changes (watched : Ref) : Store → List Served → List Nat
  | _, [] => []
  | store, served :: rest =>
    (if served.before.find? watched = store.find? watched then 0 else 1) ::
      changes watched served.after rest

/-- In how many of the gaps between calls a resource has changed. -/
def changesBetween (watched : Ref) : List Served → Nat
  | [] => 0
  | served :: rest => (changes watched served.after rest).sum

theorem changesBetween_pos {watched : Ref} {first second : Served}
    (changed : second.before.find? watched ≠ first.after.find? watched) :
    0 < changesBetween watched [first, second] := by
  simp [changesBetween, changes, changed]

theorem changes_append (watched : Ref) (store : Store) (early : List Served) (served : Served)
    (late : List Served) :
    (changes watched store (early ++ served :: late)).sum ≥
      (changes watched store early).sum + changesBetween watched (served :: late) := by
  induction early generalizing store with
  | nil => simp [changes, changesBetween]
  | cons first early ih =>
      have further := ih first.after
      simp only [List.cons_append, changes, List.sum_cons]
      omega

theorem changesBetween_append (watched : Ref) (early late : List Served) :
    changesBetween watched early + changesBetween watched late ≤
      changesBetween watched (early ++ late) := by
  cases early with
  | nil => simp [changesBetween]
  | cons first early =>
      cases late with
      | nil => simp [changesBetween]
      | cons served late => exact changes_append watched first.after early served late

theorem drop_changes (watched : Ref) (store : Store) (history : List Served) (count : Nat) :
    ((changes watched store history).drop (count + 1)).sum =
      changesBetween watched (history.drop count) := by
  induction history generalizing store count with
  | nil => simp [changes, changesBetween]
  | cons served rest ih =>
      cases count with
      | zero => simp [changes, changesBetween]
      | succ count =>
          rw [changes, List.drop_succ_cons, List.drop_succ_cons]
          exact ih served.after count

namespace Program

variable {α : Type}

/-- A resource only changes between two calls if somebody meddles with it. -/
theorem changes_le_meddlings (watched : Ref) (program : Program α) {world : World}
    (direct : world.gateway = none) :
    List.Forall₂ (· ≤ ·) (changes watched world.store (program.history world))
      (program.meddlings watched world) := by
  induction program generalizing world with
  | done value => exact .nil
  | fail fault => exact .nil
  | perform effect next ih =>
      have further := ih (world.handle effect).1 (World.gateway_handle direct effect)
      cases effect with
      | call request =>
          have served : world.handle (.call request) = world.serve request := by
            simp [World.handle, World.answer, direct]
          simp only [history, meddlings, World.callOf, World.meddlings]
          rw [served] at further ⊢
          cases known : request.ref with
          | error mismatch =>
              have unmoved : (world.serve request).2 = world := by simp [World.serve, known]
              rw [unmoved] at further ⊢
              exact further
          | ok called =>
              refine .cons ?_ further
              split
              next => exact Nat.zero_le _
              next changed => exact Store.meddlings_pos changed
      | _ => exact further

/-- After so many calls, a resource changes no more often than it is meddled with. -/
theorem changesBetween_le_meddlings (watched : Ref) (program : Program α) {world : World}
    (direct : world.gateway = none) (count : Nat) :
    changesBetween watched ((program.history world).drop count) ≤
      ((program.meddlings watched world).drop (count + 1)).sum := by
  have fewer := changes_le_meddlings watched program direct
  rw [← drop_changes watched world.store]
  exact (List.forall₂_drop (count + 1) fewer).sum_le_sum

variable {σ : Type} {around : Surroundings}

theorem ensures_of_forall {program : Program α} {goal : Goal α}
    (always : ∀ result history store, goal result history store) (store : Store) :
    Ensures around (fun _ => True) program goal store := by
  induction program generalizing goal store with
  | done value => exact always _ _ _
  | fail fault => exact always _ _ _
  | perform effect next ih =>
      cases effect with
      | call request =>
          simp only [Ensures]
          cases request.ref with
          | error mismatch => exact ih _ always store
          | ok ref =>
              exact fun before answer after _ _ _ =>
                ⟨trivial, ih _ (fun result history store => always result _ store) after⟩
      | note line => exact ih _ always store
      | draw => exact fun draw => ih _ always store
      | pause length => exact ih _ always store
      | lock key action => exact fun reply => ih _ always store

theorem faithful_history (program : Program α) {world : World} (direct : world.gateway = none)
    (succeed : ∀ verb, ∀ disturbances ∈ world.waiting verb, ∀ (store : Store) called,
      (store.disturbAll called disturbances).1 = .ok ()) :
    ∀ served ∈ program.history world, served.Faithful := by
  let around : Surroundings := ⟨fun _ => True, fun _ _ => True, Served.Faithful⟩
  have covers : around.Covers (fun _ => True) world := by
    refine ⟨direct, fun disturbances waiting store called _ => ⟨trivial, trivial, ?_⟩, fun _ => id,
      fun _ _ _ _ => trivial⟩
    intro request fault failed
    rcases waiting with rfl | ⟨verb, member⟩
    · cases failed
    · rw [succeed verb disturbances member] at failed
      cases failed
  have any : Ensures around (fun _ => True) program (fun _ _ _ => True) world.store :=
    ensures_of_forall (fun _ _ _ => trivial) world.store
  have calls := (run_of_ensures covers trivial any).1
  exact fun served member => (calls served member).2.1

/-- A goal that has to be met only if all calls were good. -/
def provided (good : Served → Prop) (goal : Goal α) : Goal α :=
  fun result history store => (∀ served ∈ history, good served) → goal result history store

/-- What comes after a call that was not good does not matter. -/
theorem ensures_after_bad {β : Type} {good : Served → Prop} {served : Served} {goal : Goal β}
    (bad : ¬ good served) (program : Program β) (store : Store) :
    Ensures around (fun _ => True) program
      (fun result later last => provided good goal result (served :: later) last) store :=
  ensures_of_forall (fun _ _ _ all => absurd (all _ List.mem_cons_self) bad) store

theorem Ensures.after_good {β : Type} {good : Served → Prop} {served : Served} {goal : Goal β}
    {program : Program β} {store : Store}
    (ensured : Ensures around (fun _ => True) program
      (provided good fun result later last => goal result (served :: later) last) store) :
    Ensures around (fun _ => True) program
      (fun result later last => provided good goal result (served :: later) last) store :=
  ensured.mono fun _ _ _ ended all =>
    ended fun other member => all other (List.mem_cons_of_mem _ member)

theorem ensures_call_provided {β : Type} {good : Served → Prop} {request : Request} {ref : Ref}
    (about : request.ref = .ok ref) {rest : Except StoreFault Value → Program β} {goal : Goal β}
    {store : Store}
    (follow : ∀ before answer after, around.holds before → around.mayTurn store before →
      good ⟨request, ref, before, answer, after⟩ →
        let more : Goal β := fun result later last =>
          goal result (⟨request, ref, before, answer, after⟩ :: later) last
        match answer with
        | .ok value => Ensures around (fun _ => True) (rest (.ok value)) (provided good more) after
        | .error (.store fault) =>
          Ensures around (fun _ => True) (rest (.error fault)) (provided good more) after
        | .error other => more (.error other) [] after) :
    Ensures around (fun _ => True) ((ask request).catchStore.bind rest) (provided good goal)
      store := by
  rw [ensures_bind, ensures_catchStore, ensures_ask about]
  intro before answer after holds turned _
  refine ⟨trivial, ?_⟩
  by_cases isGood : good ⟨request, ref, before, answer, after⟩
  · have followed := follow before answer after holds turned isGood
    cases answer with
    | ok value => exact Ensures.after_good followed
    | error fault =>
        cases fault with
        | store refused => exact Ensures.after_good followed
        | _ => exact fun _ => followed
  · cases answer with
    | ok value => exact ensures_after_bad isGood _ _
    | error fault =>
        cases fault with
        | store refused => exact ensures_after_bad isGood _ _
        | _ => exact fun all => absurd (all _ List.mem_cons_self) isGood

/-- A try comes to a value as it should, or is stale because the resource has changed
between two of its calls. -/
def TryWins (watched : Ref) (wins : α → List Served → Prop) : Goal (Attempt σ α)
  | .ok (.settled value), history, _ => wins value history
  | .ok (.stale _ _), history, _ => 0 < changesBetween watched history
  | .error _, _, _ => False

/-- If every stale try has a change of its own to be charged to, a loop comes to a value
before changes run out of which there are no more than pauses. -/
theorem ensures_retry_of_changes {good : Served → Prop} {watched : Ref}
    {wins : α → List Served → Prop} {attempt : σ → Program (Attempt σ α)} (backoff : Backoff)
    (trying : ∀ start store, Ensures around (fun _ => True) (attempt start)
      (provided good (TryWins watched wins)) store) (start : σ) (store : Store) :
    Ensures around (fun _ => True) (retry backoff attempt start)
      (provided good fun result history _ => changesBetween watched history ≤ backoff.pauseCount →
        ∃ value early last, result = .ok value ∧ history = early ++ last ∧ wins value last)
      store := by
  -- Every try that is over took a pause from those left, and had its change.
  refine ensures_retryFrom (fun left _ past _ => (∀ served ∈ past, good served) →
    backoff.pauseCount ≤ left + changesBetween watched past) ?_ _ _ _ start [] store fun _ => by
      simp
  intro left start past store charged
  apply (trying start store).mono
  intro result more last ended
  have split : (∀ served ∈ past ++ more, good served) →
      (∀ served ∈ past, good served) ∧ ∀ served ∈ more, good served := fun all =>
    ⟨fun served member => all served (List.mem_append_left _ member),
      fun served member => all served (List.mem_append_right _ member)⟩
  have together := changesBetween_append watched past more
  cases result with
  | error fault => exact fun all => absurd (ended (split all).2) id
  | ok outcome =>
      cases outcome with
      | settled value =>
          exact fun all _ => ⟨value, past, more, rfl, rfl, ended (split all).2⟩
      | stale conflict next =>
          refine ⟨fun none all few => ?_, fun flawed => absurd rfl flawed,
            fun fewer isFewer all => ?_⟩
          · have own : 0 < changesBetween watched more := ended (split all).2
            have before := charged (split all).1
            omega
          · have own : 0 < changesBetween watched more := ended (split all).2
            have before := charged (split all).1
            omega

end Program
end CuratorKeeper
