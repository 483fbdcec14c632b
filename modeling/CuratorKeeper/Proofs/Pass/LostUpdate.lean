import CuratorKeeper.Proofs.Pass.Correction

/-!
# No update of a job is lost

A job is updated with the version that it was read with, so an accepted update
meets the very resource that was read, whatever others wrote, removed or
created again in between.  What it changes is what that resource lacks of the
desired job, and nothing that anybody else wrote is taken back.
-/

namespace CuratorKeeper

/-- An accepted update changes the stored resource only in its version and at
the places where it drifted, which get the desired values. -/
def Served.KeepsOthersWrites (desired : Value) (served : Served) : Prop :=
  served.Accepted → ∀ resource part, served.request = .update resource part →
    ∃ stored drift written,
      served.before.find? served.ref = some stored ∧
      Drift.between stored desired = .ok drift ∧
      served.after.find? served.ref = some written ∧
      Value.AgreesOff (Value.versionPlace :: drift.places) stored written ∧
      ∀ place ∈ drift.places, written.at? place = some ((desired.at? place).getD .null)

theorem Drift.apart_versionPlace {drift : Drift} {place : List Key} (member : place ∈ drift.places) :
    Apart Value.versionPlace place := by
  rcases mem_places.mp member with ⟨-, rfl⟩ | ⟨-, rfl⟩ | ⟨-, rfl⟩
  all_goals exact (apart_cons_cons _ _ _ _).mpr (.inl (by decide))

/-- An accepted update by a corrected copy of what was read meets what was
read. -/
theorem Served.OfJob.keepsOthersWrites {cluster : Cluster} {desired : Value} {served : Served}
    (ofJob : served.OfJob cluster desired) (sound : served.before.Sound)
    (answered : served.Faithful ∨ served.Injected) : served.KeepsOthersWrites desired := by
  intro accepted resource part updates
  cases ofJob with
  | creates known => cases updates
  | reads managed known => cases updates
  | @corrects ref own earlier before after answer live patched drift managed known soundThen
      evolves found drifted changes applied about =>
      obtain ⟨value, rfl⟩ := accepted
      have faithful : before.serve own (.update patched none) = (.ok value, after) :=
        Served.Accepted.faithful ⟨value, rfl⟩ answered
      -- A correction leaves the version in place, so what was accepted is what was read.
      have sameMetadata : patched.part? "metadata" = live.part? "metadata" :=
        Drift.part?_apply_of_ne applied (by decide)
      have stored : before.find? own = some live :=
        Store.eq_of_update_accepted soundThen sound evolves found sameMetadata faithful
      obtain ⟨_, _, _, new, -, -, -, isNew, -, put⟩ := Store.serve_update_eq_ok faithful
      cases isNew
      obtain ⟨content, rfl⟩ := Store.put_of_known about put
      refine ⟨live, drift, value, stored, drifted, Store.find?_keep_of_some stored value _, ?_, ?_⟩
      · have marks := Value.agreesOff_of_unversioned_eq content.symm
        exact ((Drift.apply_eq_ok applied).1.trans marks).mono (by simp)
      · intro place member
        have written := Drift.at?_apply drifted applied member
        rw [← written]
        apply Value.agreesOff_of_unversioned_eq content place
        intro mark isMark
        rw [List.mem_singleton] at isMark
        subst isMark
        exact Drift.apart_versionPlace member

/-- However others write into a store, and whatever the budget of tries is, no
update of a job takes back what anybody else wrote. -/
theorem reconcileJob_keepsOthersWrites (cluster : Cluster) (desired : Value) (budget : Budget)
    (world : World) (direct : world.gateway = none) (reachable : world.store.Reachable) :
    ∀ served ∈ (reconcileJob cluster desired budget).history world,
      served.KeepsOthersWrites desired := by
  intro served member
  have kept : Program.Keeps .disturbed (Served.OfJob cluster desired)
      (reconcileJob cluster desired budget) := Program.keeps_reconcileJob budget
  obtain ⟨sound, answered, ofJob⟩ := kept.history direct reachable.sound served member
  exact ofJob.keepsOthersWrites sound answered

def bareJob (schedule : String) (more : Fields) : Value :=
  .object
    [("kind", "CronJob"),
      ("metadata", .object (("namespace", "logging") :: ("name", "curator") :: more)),
      ("spec", .object
        [("schedule", schedule),
          ("jobTemplate", .object
            [("spec", .object [("template", .object [("spec", .object [])])])])])]

def bareCluster : Cluster where
  name := "instance"
  space := "logging"
  uid := ""
  apiVersion := Cluster.defaultApiVersion
  kind := Cluster.defaultKind
  management := .managed
  topology := .combined
  curation := { type := some Curation.curatorType }

/-- A world in which somebody writes the job again, with another schedule and a
field of their own, before its first update. -/
def contestedWorld : World where
  store := (({} : Store).serve ⟨"CronJob", "logging", "curator"⟩
    (.create (bareJob "0 0 * * *" []))).2
  waiting verb :=
    if verb = .update then [[⟨.put (bareJob "5 5 * * *" [("team", "ops")]), none⟩]] else []

/-- The first update is refused, the second one is accepted and keeps what was
written in between. -/
theorem contested_reconcileJob_keepsOthersWrites :
    let history := (reconcileJob bareCluster (bareJob "1 1 * * *" []) {}).history contestedWorld
    (history.map fun served => (served.request.verb, served.answer.isOk)) =
        [(.create, false), (.get, true), (.update, false), (.get, true), (.update, true)] ∧
      ∀ served ∈ history, served.KeepsOthersWrites (bareJob "1 1 * * *" []) := by
  refine ⟨by decide +kernel, ?_⟩
  exact reconcileJob_keepsOthersWrites bareCluster _ _ contestedWorld rfl
    (.served .empty _ _ (by rfl))

end CuratorKeeper
