import CuratorKeeper.Proofs.Pass.Made
import CuratorKeeper.Proofs.Pass.Repeat

/-!
# What a returning pass reports

A pass that returns was gone through to its end, so that its outcome is what its
steps come to.  However it was disturbed, each step was served as it was taken:
what the outcome tells is told by the calls that the store accepted.
-/

namespace CuratorKeeper

namespace Served

def created (served : Served) : List String :=
  match served.request, served.answer with
  | .create _, .ok _ => [served.ref.label]
  | _, _ => []

/-- The resource that the call updated as a whole, with the places that it changed. -/
def patched (served : Served) : List (String × List String) :=
  match served.request, served.answer with
  | .update _ none, .ok _ =>
    [(served.ref.name.display,
      changedNames (served.before.find? served.ref) (served.after.find? served.ref))]
  | _, _ => []

def wroteStatus (served : Served) : Bool :=
  match served.request, served.answer with
  | .update _ (some part), .ok _ => part = "status"
  | _, _ => false

def removed (served : Served) : Bool :=
  match served.request with
  | .delete ref => (served.before.find? ref).isSome && (served.after.find? ref).isNone
  | _ => false

/-- The line for a resource that the call created or deleted. -/
def lines (served : Served) : List LogLine :=
  match served.request, served.answer with
  | .create _, .ok _ => [served.ref.createdLine]
  | .delete _, .ok _ => [served.ref.deletedLine]
  | _, _ => []

end Served

theorem changedNames_sorted (held new : Option Value) :
    (changedNames held new).Pairwise (· < ·) := by
  have ordered : (watched.map Prod.fst).Pairwise (· < ·) := by decide
  exact ordered.sublist (List.filter_sublist.map Prod.fst)

theorem Served.patched_sorted (served : Served) :
    ∀ entry ∈ served.patched, entry.2.Pairwise (· < ·) := by
  intro entry member
  unfold Served.patched at member
  split at member
  · rw [List.mem_singleton.mp member]
    exact changedNames_sorted _ _
  · cases member

theorem changedNames_congr {held : Option Value} {new written : Value}
    (same : written.unversioned = new.unversioned) :
    changedNames held (some written) = changedNames held (some new) := by
  have places : ∀ place ∈ watched, written.at? place.2 = new.at? place.2 := by
    intro place member
    simp only [watched, List.mem_cons, List.not_mem_nil, or_false] at member
    rcases member with rfl | rfl | rfl <;> exact Value.at?_congr_of_ne same (by decide) _
  refine congrArg (List.map Prod.fst) (List.filter_congr fun place member => ?_)
  rw [Option.bind_some, Option.bind_some, places place member]

/-- A step and the call that was served for it come to the same. -/
structure Step.Agrees (step : Step) (served : Served) : Prop where
  created : step.created = served.created
  patched : step.patched = served.patched
  wroteStatus : step.wroteStatus = served.wroteStatus
  deleted : step.deleted = served.removed
  lines : step.lines = served.lines

theorem Step.Made.agrees {cluster : Cluster} {step : Step} {served : Served} (made : step.Made served)
    (fits : step.Fits cluster) : step.Agrees served := by
  have did := made.did fits
  obtain ⟨site, rfl⟩ := made.exists_site
  obtain ⟨request, ref, before, answer, after⟩ := served
  dsimp only at fits did
  cases did with
  | refused failed same =>
      obtain rfl : answer = _ := failed
      have stays : ((before.find? ref).isSome && (after.find? ref).isNone) = false := by
        rw [same]
        cases before.find? ref <;> rfl
      cases fits with
      | deletion owned => exact ⟨rfl, rfl, rfl, stays.symm, rfl⟩
      | _ => exact ⟨rfl, rfl, rfl, rfl, rfl⟩
  | created wants missing becomes => exact ⟨rfl, rfl, rfl, rfl, rfl⟩
  | readJob reads named found => rcases reads with rfl | rfl <;> exact ⟨rfl, rfl, rfl, rfl, rfl⟩
  | corrected named changes found becomes =>
      obtain ⟨written, isWritten, same⟩ := becomes.held
      refine ⟨rfl, ?_, rfl, rfl, rfl⟩
      simp only [Step.patched, Served.patched, found, isWritten, changedNames_congr same]
  | readOwner found => exact ⟨rfl, rfl, rfl, rfl, rfl⟩
  | reported changes found becomes =>
      exact ⟨rfl, rfl, by simp [Step.wroteStatus, Served.wroteStatus], rfl, rfl⟩
  | deleted owned found =>
      refine ⟨rfl, rfl, rfl, ?_, rfl⟩
      simp [Step.deleted, Served.removed, found]

/-- What steps come to is what the calls that were served for them come to. -/
theorem tally_eq {cluster : Cluster} {steps : List Step} {history : List Served}
    (made : List.Forall₂ Step.Made steps history) (fits : ∀ step ∈ steps, step.Fits cluster) :
    tally steps = ⟨history.flatMap Served.created, history.flatMap Served.patched,
        history.countP Served.wroteStatus, history.countP Served.removed⟩ ∧
      steps.flatMap Step.lines = history.flatMap Served.lines := by
  induction made with
  | nil => exact ⟨rfl, rfl⟩
  | @cons step served steps history first rest ih =>
      obtain ⟨counted, told⟩ := ih fun other member => fits other (List.mem_cons_of_mem _ member)
      obtain ⟨created, patched, wroteStatus, deleted, lines⟩ :=
        first.agrees (fits step List.mem_cons_self)
      simp only [tally, Tally.mk.injEq] at counted
      simp only [tally, List.flatMap_cons, List.countP_cons, created, patched, wroteStatus, deleted,
        lines, counted, told, and_self]

/-- The outcome tells exactly what the calls of the pass have done. -/
structure Outcome.Exact (cluster : Cluster) (outcome : Outcome) (history : List Served) : Prop where
  created : outcome.created = history.flatMap Served.created
  createdOnce : outcome.created.Nodup
  patched : outcome.patched = history.flatMap Served.patched
  patchedOnce : (outcome.patched.map Prod.fst).Nodup
  sorted : ∀ entry ∈ outcome.patched, entry.2.Pairwise (· < ·)
  patchesJobs : ∀ served ∈ history, served.patched ≠ [] →
    ∃ name ∈ cluster.jobNames, served.ref = cluster.jobRef name
  statusWritten : outcome.statusWritten = true ↔ ∃ served ∈ history, served.wroteStatus = true
  writesOwner : ∀ served ∈ history, served.wroteStatus = true → served.ref = cluster.ref
  deleted : outcome.deleted = history.countP Served.removed

namespace Cluster

theorem nodup_jobNames (cluster : Cluster) : cluster.jobNames.Nodup := by
  have distinct := cluster.nodup_ownedRefs
  rw [ownedRefs_eq] at distinct
  exact (List.nodup_append.mp distinct).2.1.of_map _

end Cluster

/-- The updates of a pass are of its jobs, or of the status of the object of its cluster. -/
theorem Step.Made.updates {cluster : Cluster} {step : Step} {served : Served}
    (made : step.Made served) (fits : step.Fits cluster) :
    (served.patched ≠ [] → ∃ name ∈ cluster.jobNames, served.ref = cluster.jobRef name) ∧
      (served.wroteStatus = true → served.ref = cluster.ref) := by
  obtain ⟨site, rfl⟩ := made.exists_site
  obtain ⟨request, ref, before, answer, after⟩ := served
  dsimp only at fits
  cases fits with
  | correction named changes =>
      obtain ⟨name, isName, isRef⟩ := List.mem_map.mp named
      refine ⟨fun _ => ⟨name, isName, isRef.symm⟩, fun wrote => ?_⟩
      simp [Served.wroteStatus] at wrote
  | ownerUpdate changes => exact ⟨fun patched => absurd rfl patched, fun _ => rfl⟩
  | creation | jobReading | reportReading | ownerReading | deletion =>
      refine ⟨fun patched => absurd rfl patched, fun wrote => ?_⟩
      simp [Served.wroteStatus] at wrote

/-- However it is disturbed, a pass that returns reports exactly what it has done, and
has logged one line for each resource that it created and each that it deleted. -/
theorem reconcile_accounts {cluster : Cluster} {settings : Settings} {inputs : Inputs}
    {budget : Budget} {world : World} {outcome : Outcome} (direct : world.gateway = none)
    (reachable : world.store.Reachable)
    (returned : ((reconcile cluster settings inputs budget).run world).1 = .ok outcome) :
    let pass := reconcile cluster settings inputs budget
    outcome.Exact cluster (pass.history world) ∧
      (pass.run world).2.journal.lines.filter LogLine.tellsChange =
        world.journal.lines.filter LogLine.tellsChange ++
          (pass.history world).flatMap Served.lines := by
  intro pass
  have taken := @takes_reconcile_anyway cluster settings inputs budget
  obtain ⟨lines, asked, logged, heard, steps, went⟩ := taken.run direct reachable.sound
  have coherent := Cluster.Coherent.of_course went.begins
  have made := heard.made went.asked coherent.fits coherent.grounded reachable.sound (by simp)
  obtain ⟨counted, told⟩ := tally_eq made coherent.fits
  obtain ⟨-, reports⟩ := went.word outcome returned
  have comes := reports.counted.symm.trans counted
  simp only [Outcome.tally, Tally.mk.injEq] at comes
  obtain ⟨created, patched, written, deleted⟩ := comes
  have updates : ∀ served ∈ pass.history world,
      (served.patched ≠ [] → ∃ name ∈ cluster.jobNames, served.ref = cluster.jobRef name) ∧
        (served.wroteStatus = true → served.ref = cluster.ref) := by
    intro served member
    obtain ⟨step, listed, isMade⟩ := Step.exists_made made served member
    exact isMade.updates (coherent.fits step listed)
  refine ⟨⟨created, ?_, patched, ?_, ?_, fun served member => (updates served member).1, ?_,
    fun served member => (updates served member).2, deleted⟩, ?_⟩
  · exact cluster.nodup_labels.sublist reports.created
  · exact cluster.nodup_jobNames.sublist reports.patched
  · intro entry member
    rw [patched] at member
    obtain ⟨served, -, inPatched⟩ := List.mem_flatMap.mp member
    exact served.patched_sorted entry inPatched
  · have positive : outcome.statusWritten = true ↔
        0 < (pass.history world).countP Served.wroteStatus := by
      rw [← written]
      cases outcome.statusWritten <;> simp
    rw [positive, List.countP_pos_iff]
  · rw [logged, went.lines, told]

/-- A world in which somebody else creates the config map first, and gives the job its
image before the first update. -/
def racedWorld : World where
  store := staleStore
  waiting
    | .create => [[], [⟨.put (plainCluster.configMap []), none⟩]]
    | .update => [[⟨.put ((plainCluster.jobWith {} "0 0 * * *"
        "quay.io/openshift/origin-logging-curator5:latest"
        ⟨"primary", "curator", "elasticsearch"⟩).manifest plainCluster), none⟩]]
    | _ => []

/-- What others did is not reported: neither the creation of the config map nor the
change of the image. -/
theorem raced_reconcile_accounts :
    let pass := reconcile plainCluster {} ⟨.given [], .given []⟩ ({ steps := 2 } : Backoff)
    let outcome : Outcome :=
      { mode := .enabled
        created := ["ServiceAccount/curator", "Secret/curator"]
        patched := [("curator", ["schedule"])]
        statusWritten := true }
    (pass.run racedWorld).1 = .ok outcome ∧
      outcome.Exact plainCluster (pass.history racedWorld) ∧
      (pass.run racedWorld).2.journal.lines.filter LogLine.tellsChange =
        racedWorld.journal.lines.filter LogLine.tellsChange ++
          (pass.history racedWorld).flatMap Served.lines := by
  intro pass outcome
  have returned : (pass.run racedWorld).1 = .ok outcome :=
    eq_ok_of_toOption (by decide +kernel)
  exact ⟨returned, reconcile_accounts rfl reachable_staleStore returned⟩

end CuratorKeeper
