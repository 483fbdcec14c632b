import CuratorKeeper.Proofs.Event.WriteSafety
import CuratorKeeper.Proofs.Pass.FailFast
import CuratorKeeper.Proofs.Pass.Stumbling

/-!
# How failures surface

A handler that can read the cluster from its event returns, or has the event served
again later for a failure of the curation subsystem.  Any other fault comes of a
configuration file that is no text, of settings that make no jobs, or of what the last
call has read, and these faults do escape.
-/

namespace CuratorKeeper

/-- How a handler ends that has read a cluster from its event. -/
inductive Serving.Surfaces (serving : Serving) (cluster : Cluster) (history : List Served) :
    Except Fault Unit → Prop
  | returned : Surfaces serving cluster history (.ok ())
  | later {message : String} :
      Surfaces serving cluster history (.error (.temporary message serving.settings.retryDelay))
  | escaped {fault : Fault} (passes : serving.occasion ≠ .deletion)
      (enabled : cluster.curation.mode = .enabled)
      (trips : cluster.Trips serving.settings serving.inputs history fault) :
      Surfaces serving cluster history (.error fault)

namespace Program

variable {α : Type} {around : Surroundings} {promise : Served → Prop} {program : Program α}
  {store : Store} {event : Event} {settings : Settings}

theorem ensures_thenRelease (key : String) (goal : Goal α) :
    Ensures around promise (program.thenAlways (effect (.lock key .release))) goal store ↔
      Ensures around promise program goal store := by
  rw [thenAlways, ensures_bind, ensures_attempt]
  have same : ∀ (result : Except Fault α) history after,
      Ensures around promise ((effect (.lock key .release)).bind fun _ => ofExcept result)
        (fun result more => goal result (history ++ more)) after ↔ goal result history after := by
    intro result history after
    cases result <;> simp [effect, Ensures, ofExcept]
  simp only [same]

theorem ensures_locked (goal : Goal α) :
    Ensures around promise (event.locked program) goal store ↔
      Ensures around promise program goal store := by
  exact (forall_const Unit).trans (ensures_thenRelease event.key goal)

/-- A failure of the curation subsystem has the event served again later. -/
theorem ensures_retryLater {allowed : List Served → Fault → Prop} (what : String)
    (ensured : Ensures around promise program (fun result history _ =>
      FailsOnly (fun fault => fault.isCuration = true ∨ allowed history fault) result) store) :
    Ensures around promise (event.retryLater settings what program) (fun result history _ =>
      FailsOnly (fun fault => (∃ message, fault = .temporary message settings.retryDelay) ∨
        allowed history fault) result) store := by
  rw [Event.retryLater, bind_eq, ensures_bind, ensures_attempt]
  apply ensured.mono
  intro result history after fails
  cases result with
  | ok value => trivial
  | error fault =>
      simp only
      split
      · exact .inl ⟨_, rfl⟩
      next other =>
        simp only [ensures_fail, List.append_nil]
        exact .inr (fails.resolve_left other)

theorem ensures_pass {cluster : Cluster} {inputs : Inputs}
    (read : Cluster.ofObject event.body = .ok cluster) :
    Ensures .scripted (fun _ => True) (event.pass settings inputs) (fun result history _ =>
      FailsOnly (fun fault => (∃ message, fault = .temporary message settings.retryDelay) ∨
        cluster.curation.mode = .enabled ∧ cluster.Trips settings inputs history fault) result)
      store := by
  rw [Event.pass, read]
  simp only [liftM_fault, ofExcept, bind_eq, done_bind]
  rw [ensures_bind]
  have reconciled := @ensures_reconcile cluster settings inputs settings.backoff rfl store
  apply (ensures_retryLater "Curation reconcile" reconciled).mono
  intro result history after fails
  cases result with
  | error fault => exact fails
  | ok outcome =>
      simp only
      split
      · trivial
      · trivial

theorem ensures_serving {serving : Serving} {cluster : Cluster}
    (read : Cluster.ofObject serving.event.body = .ok cluster) :
    Ensures .scripted (fun _ => True) serving.program
      (fun result history _ => serving.Surfaces cluster history result) store := by
  obtain ⟨occasion, event, settings, inputs⟩ := serving
  have passed := fun store => @ensures_pass store event settings cluster inputs read
  have surfaces : ∀ (occasion : Occasion) (result : Except Fault Outcome) history,
      occasion ≠ .deletion →
      FailsOnly (fun fault => (∃ message, fault = .temporary message settings.retryDelay) ∨
        cluster.curation.mode = .enabled ∧ cluster.Trips settings inputs history fault) result →
      (⟨occasion, event, settings, inputs⟩ : Serving).Surfaces cluster history
        (result.map fun _ => ()) := by
    intro occasion result history passes fails
    cases result with
    | ok outcome => exact .returned
    | error fault =>
        rcases fails with ⟨message, rfl⟩ | ⟨enabled, trips⟩
        · exact .later
        · exact .escaped passes enabled trips
  cases occasion with
  | change =>
      refine (ensures_map _ _ _ _).mpr ((ensures_locked _).mpr ((passed store).mono ?_))
      exact fun result history _ fails => surfaces .change result history (by decide) fails
  | tick =>
      intro free
      cases free with
      | false => exact .returned
      | true =>
          refine (ensures_map _ _ _ _).mpr ((ensures_thenRelease _ _).mpr ((passed store).mono ?_))
          exact fun result history _ fails => surfaces .tick result history (by decide) fails
  | deletion =>
      have removed : Ensures .scripted (fun _ => True) (removeCurator cluster) (fun result _ _ =>
          FailsOnly (fun fault => fault.isCuration = true ∨ False) result) store :=
        (ensures_removeCurator store).mono fun _ _ _ fails => fails.mono fun _ => .inl
      have retried := @ensures_retryLater _ _ _ _ _ event settings (fun _ _ => False)
        "Curator cleanup" removed
      simp only [Serving.program, Event.serveDeletion, read, liftM_fault, ofExcept, bind_eq,
        done_bind]
      rw [ensures_bind, ensures_locked]
      -- A teardown reads nothing, so that no fault can come of what was read.
      apply retried.mono
      intro result history after fails
      cases result with
      | ok deleted => exact fun _ => .returned
      | error fault =>
          obtain ⟨message, rfl⟩ := fails.resolve_right id
          exact .later

end Program

/-- Whatever is stored, whatever the files hold and whatever calls fail, a handler that
can read a cluster from its event returns, has the event served again later, or lets
the fault escape that a pass has tripped over. -/
theorem Serving.run_surfaces (serving : Serving) {cluster : Cluster} {world : World}
    (read : Cluster.ofObject serving.event.body = .ok cluster) (scripted : world.Scripted)
    (reachable : world.store.Reachable) :
    serving.Surfaces cluster (serving.program.history world) (serving.program.run world).1 :=
  (Program.run_of_ensures (Surroundings.scripted_covers _ scripted) reachable.sound
    (Program.ensures_serving read)).2.2

/-- A job of the plain cluster with some specification and status, as somebody else may
have written it. -/
def foreignJob (spec status : Value) : Value :=
  .object
    [("kind", "CronJob"), ("metadata", .object [("name", "curator"), ("namespace", "logging")]),
      ("spec", spec), ("status", status)]

def specWith (containers : Value) : Value :=
  .object
    [("jobTemplate", .object
      [("spec", .object
        [("template", .object [("spec", .object [("containers", containers)])])])])]

/-- A world whose store holds a single resource, and whose third creation fails. -/
def worldWith (resource : Value) : World where
  store := ((({} : Store).disturb plainCluster.ref ⟨.put resource, none⟩).2)
  waiting
    | .create => [[], [], [⟨.fail (.store ⟨.alreadyExists, "raced", .null, .null, 409⟩), none⟩]]
    | _ => []

theorem scripted_worldWith (resource : Value) : (worldWith resource).Scripted where
  direct := rfl
  fails verb disturbances waits store ref fault _ failed := by
    cases verb with
    | create =>
        simp only [worldWith, List.mem_cons, List.not_mem_nil, or_false, or_self_left] at waits
        rcases waits with rfl | rfl
        · cases failed
        · cases failed
          rfl
    | get | update | delete => cases waits

/-- A job without containers differs from the wanted one but has no place for the
wanted image. -/
theorem emptied_run_surfaces :
    let change := changeOf "ClusterLogging" "instance" [("type", "curator")]
    let world := worldWith (foreignJob (specWith (.list [])) .null)
    (change.program.run world).1 = .error (.mismatch .outOfRange) ∧
      change.Surfaces plainCluster (change.program.history world) (change.program.run world).1 := by
  intro change world
  refine ⟨by decide +kernel, ?_⟩
  exact change.run_surfaces rfl (scripted_worldWith _) (.disturbed .empty _ _)

/-- Faults of all kinds escape the handler of a change. -/
theorem failures_escape :
    let change := changeOf "ClusterLogging" "instance" [("type", "curator")]
    let directory : Directory := ⟨"files", [("curator-actions.yaml", some ⟨#[255]⟩)]⟩
    let unreadable := { change with inputs := ⟨.directory directory, .given []⟩ }
    [(change.program.run (worldWith (foreignJob "" .null))).1,
        (change.program.run (worldWith (foreignJob (.object []) .null))).1,
        (change.program.run (worldWith (foreignJob (specWith (.list [])) .null))).1,
        (change.program.run (worldWith (foreignJob (specWith true) .null))).1,
        (change.program.run (worldWith (foreignJob (specWith (.list [.object []]))
          (.object [("lastScheduleTime", 0)])))).1,
        (unreadable.program.run {}).1] =
      [.error (.mismatch .noFields), .error (.mismatch (.missingKey "jobTemplate")),
        .error (.mismatch .outOfRange), .error (.mismatch .unsuited),
        .error (.invalid "CuratorStatus" [⟨["lastScheduleTime"], .notText⟩]), .error .undecodable] ∧
      ¬ ∀ (serving : Serving) (cluster : Cluster) (world : World), serving.occasion ≠ .deletion →
        Cluster.ofObject serving.event.body = .ok cluster → world.Scripted →
          world.store.Reachable → (serving.program.run world).1 = .ok () ∨
            ∃ message, (serving.program.run world).1 =
              .error (.temporary message serving.settings.retryDelay) := by
  intro change directory unreadable
  refine ⟨by decide +kernel, fun surface => ?_⟩
  let world := worldWith (foreignJob (specWith (.list [])) .null)
  have escaped : (change.program.run world).1 = .error (.mismatch .outOfRange) := by
    decide +kernel
  have surfaced := surface change plainCluster world (by decide) rfl (scripted_worldWith _)
    (.disturbed .empty _ _)
  rw [escaped] at surfaced
  rcases surfaced with returned | ⟨message, later⟩
  · cases returned
  · cases later

end CuratorKeeper
