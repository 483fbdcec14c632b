import CuratorKeeper.Pass.Correction
import CuratorKeeper.Proofs.Job.Drift
import CuratorKeeper.Proofs.Program.Keeps
import CuratorKeeper.Proofs.Store.Service

/-!
# The calls of a correction

A correction reads a job, looks for drift in what it read, and submits the
corrected copy.  What all of its calls keep comes down to what a creation, a
reading and an update of such a copy keep.
-/

namespace CuratorKeeper

/-- The calls for one job of a cluster: its creation, its readings and, in
between any foreign deeds, the updates by a corrected copy of what was read. -/
inductive Served.OfJob (cluster : Cluster) (desired : Value) : Served → Prop
  | creates {ref : Ref} {before after : Store} {answer : Except Fault Value}
      (known : Ref.of desired = .ok ref) :
      OfJob cluster desired ⟨.create desired, ref, before, answer, after⟩
  | reads {ref : Ref} {before after : Store} {answer : Except Fault Value}
      (managed : cluster.isManaged = true) (known : Ref.of desired = .ok ref) :
      OfJob cluster desired ⟨.get ref, ref, before, answer, after⟩
  | corrects {ref own : Ref} {earlier before after : Store} {answer : Except Fault Value}
      {live patched : Value} {drift : Drift} (managed : cluster.isManaged = true)
      (known : Ref.of desired = .ok ref) (sound : earlier.Sound) (evolves : earlier.Evolves before)
      (found : earlier.find? ref = some live) (drifted : Drift.between live desired = .ok drift)
      (changes : drift.isChange = true) (applied : drift.apply live = .ok patched)
      (about : Ref.of patched = .ok own) :
      OfJob cluster desired ⟨.update patched none, own, before, answer, after⟩

theorem Drift.ref_of_apply {drift : Drift} {live patched : Value} {ref : Ref}
    (applied : drift.apply live = .ok patched) (known : Ref.of live = .ok ref) :
    Ref.of patched = .ok ref :=
  Ref.of_congr known (part?_apply_of_ne applied (by decide)) (part?_apply_of_ne applied (by decide))

namespace Program

variable {around : Surroundings} {promise : Served → Prop}

theorem ensures_noteDrift (change : Option Value) (text : String) (name : Value)
    (goal : Goal Unit) (store : Store) :
    Ensures around promise (noteDrift change text name) goal store ↔ goal (.ok ()) [] store := by
  unfold noteDrift
  split
  · exact ensures_note _ _ _ _ _
  · exact ensures_done _ _ _

theorem ensures_liftM_bind {α β : Type} {result : Except Mismatch α} {rest : α → Program β}
    {further : α → Except Mismatch β} {goal : Goal β} {store : Store}
    (same : ∀ value, Ensures around promise (rest value) goal store ↔
      goal ((further value).mapError .mismatch) [] store) :
    Ensures around promise ((liftM result : Program α).bind rest) goal store ↔
      goal ((result >>= further).mapError .mismatch) [] store := by
  cases result with
  | error mismatch => rfl
  | ok value => exact same value

theorem ensures_noteDrift_bind {β : Type} (change : Option Value) (text : String) (name : Value)
    (rest : Unit → Program β) (goal : Goal β) (store : Store) :
    Ensures around promise ((noteDrift change text name).bind rest) goal store ↔
      Ensures around promise (rest ()) goal store := by
  rw [ensures_bind, ensures_noteDrift]
  rfl

theorem ensures_findDrift (live desired : Value) (goal : Goal Drift) (store : Store) :
    Ensures around promise (findDrift live desired) goal store ↔
      goal ((Drift.between live desired).mapError .mismatch) [] store := by
  apply ensures_liftM_bind
  intro name
  apply ensures_liftM_bind
  intro liveSpec
  apply ensures_liftM_bind
  intro desiredSpec
  apply ensures_liftM_bind
  intro schedule
  apply (ensures_noteDrift_bind _ _ _ _ _ _).trans
  apply ensures_liftM_bind
  intro suspend
  apply (ensures_noteDrift_bind _ _ _ _ _ _).trans
  apply ensures_liftM_bind
  intro image
  exact ensures_noteDrift_bind _ _ _ _ _ _

variable {cluster : Cluster} {desired : Value}

theorem keeps_ensureCreated {resource : Value}
    (kept : ∀ ref before answer after, Ref.of resource = .ok ref →
      promise ⟨.create resource, ref, before, answer, after⟩) :
    Keeps around promise (ensureCreated resource) := by
  apply keeps_bind (keeps_ofExcept _)
  intro ref
  refine keeps_bind (keeps_catchStore (keeps_ask kept)) fun result => ?_
  cases result with
  | ok value => exact keeps_bind (keeps_note _ _ _) fun _ => keeps_done _
  | error fault =>
      by_cases present : fault.refusal = .alreadyExists
      · simp only [present, if_true]
        exact keeps_bind (keeps_note _ _ _) fun _ => keeps_done _
      · simp only [present, if_false]
        exact keeps_fail _

theorem ensures_submitUpdate {ref : Ref} {earlier : Store} {live patched : Value} {drift : Drift}
    (managed : cluster.isManaged = true) (known : Ref.of desired = .ok ref)
    (sound : earlier.Sound) (found : earlier.find? ref = some live)
    (drifted : Drift.between live desired = .ok drift) (changes : drift.isChange = true)
    (applied : drift.apply live = .ok patched) :
    Ensures .disturbed (Served.OfJob cluster desired) (submitUpdate ref patched)
      (fun _ _ _ => True) earlier := by
  have asked : Ensures .disturbed (Served.OfJob cluster desired)
      (ask (.update patched none)) (fun _ _ _ => True) earlier := by
    cases about : (Request.update patched none).ref with
    | error mismatch =>
        simp only [ask, Ensures, about]
        trivial
    | ok own =>
        rw [ensures_ask about]
        intro before answer after _ evolves _
        exact ⟨.corrects managed known sound evolves found drifted changes applied about, trivial⟩
  rw [submitUpdate, bind_eq, ensures_bind, ensures_catchStore]
  apply asked.mono
  intro result history store _
  cases result with
  | ok value => trivial
  | error fault =>
      cases fault with
      | store refused =>
          simp only [caughtStore]
          split <;> trivial
      | _ => trivial

theorem keeps_correctDrift (managed : cluster.isManaged = true) :
    Keeps .disturbed (Served.OfJob cluster desired) (correctDrift desired) := by
  cases known : Ref.of desired with
  | error mismatch =>
      intro store
      simp [correctDrift, known, Except.mapError, ofExcept]
  | ok ref =>
      intro store
      simp only [correctDrift, known, bind_eq, liftM_mismatch, Except.mapError, ofExcept,
        done_bind]
      rw [ensures_bind, ensures_catchStore, ensures_ask rfl]
      intro before answer after sound _ answered
      refine ⟨.reads managed known, ?_⟩
      cases answer with
      | error fault =>
          cases fault with
          | store refused =>
              simp only [caughtStore]
              split
              · trivial
              · trivial
          | _ => trivial
      | ok live =>
          have served : before.serve ref (.get ref) = (.ok live, after) :=
            Served.Accepted.faithful ⟨live, rfl⟩ answered
          obtain ⟨found, rfl⟩ := Store.serve_get_eq_ok served
          simp only [caughtStore]
          rw [ensures_bind, ensures_findDrift]
          cases drifted : Drift.between live desired with
          | error mismatch => trivial
          | ok drift =>
              simp only [Except.mapError]
              split
              next changes =>
                cases applied : drift.apply live with
                | error mismatch => trivial
                | ok patched =>
                    simp only [done_bind, ensures_bind]
                    apply (ensures_submitUpdate managed known sound found drifted changes applied).mono
                    intro result history store _
                    cases result <;> trivial
              next => trivial

/-- Bringing a job into shape makes the calls of that job. -/
theorem keeps_reconcileJob (budget : Budget) :
    Keeps .disturbed (Served.OfJob cluster desired) (reconcileJob cluster desired budget) := by
  apply keeps_bind (keeps_ensureCreated fun _ _ _ _ known => .creates known)
  intro created
  cases managed : cluster.isManaged with
  | false => exact keeps_done _
  | true =>
      refine keeps_bind (keeps_attempt (keeps_retry (fun _ => ?_) _)) fun result => ?_
      · exact keeps_ofProgram (keeps_bind (keeps_correctDrift managed) fun drift => keeps_done _)
      · cases result with
        | ok drift => exact keeps_done _
        | error fault =>
            cases fault with
            | store refused =>
                simp only
                split
                · exact keeps_bind (keeps_ofExcept _) fun ref => keeps_fail _
                · exact keeps_fail _
            | _ => exact keeps_fail _

end Program
end CuratorKeeper
