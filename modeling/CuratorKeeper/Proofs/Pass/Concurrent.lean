import CuratorKeeper.Proofs.Pass.Calls
import CuratorKeeper.Proofs.Pass.Undisturbed
import CuratorKeeper.Proofs.Program.Crew

/-!
# Passes at the same time

Any number of passes over the same cluster share one aim, so what each of them
does is what the others reckon with.  However their calls are interleaved, all
return, the store comes to what one pass alone would make of it, and whatever
has to be done is done and reported by exactly one of them.
-/

namespace CuratorKeeper

def updatesOf (ref : Ref) (part : Option String) (history : List Served) : Nat :=
  history.countP fun served =>
    decide (served.note = ⟨.update, part, ref⟩) && served.answer.isOk

theorem updatesOf_eq_writesOf {ref : Ref} {part : Option String} {history : List Served}
    (updates : ∀ served ∈ history, served.wrote = true → served.ref = ref →
      served.note = ⟨.update, part, ref⟩) :
    updatesOf ref part history = writesOf ref history := by
  apply List.countP_congr
  intro served member
  simp only [Bool.and_eq_true, decide_eq_true_eq]
  constructor
  · rintro ⟨isUpdate, accepted⟩
    have verb : served.request.verb = .update := congrArg CallNote.verb isUpdate
    refine ⟨?_, congrArg CallNote.ref isUpdate⟩
    rw [Served.wrote, verb]
    exact accepted
  · rintro ⟨wrote, isRef⟩
    have isUpdate := updates served member wrote isRef
    have verb : served.request.verb = .update := congrArg CallNote.verb isUpdate
    refine ⟨isUpdate, ?_⟩
    rw [Served.wrote, verb] at wrote
    exact wrote

theorem existsUnique_wrote {n : Nat} {ref : Ref} {calls : List (Fin n × Served)}
    (once : writesOf ref (calls.map Prod.snd) = 1) : ∃! i, wrote ref (callsOf i calls) = true := by
  have writing : (calls.filter fun call => call.2.wrote && decide (call.2.ref = ref)).length = 1 := by
    rw [writesOf, List.countP_map] at once
    rw [← List.countP_eq_length_filter]
    exact once
  obtain ⟨only, isOnly⟩ := List.length_eq_one_iff.mp writing
  -- Counting by resource first and by member then leaves the one call to its own member.
  have share : ∀ i, writesOf ref (callsOf i calls) = if only.1 = i then 1 else 0 := by
    intro i
    have swapped : writesOf ref (callsOf i calls) =
        (calls.filter fun call => call.2.wrote && decide (call.2.ref = ref)).countP
          fun call => decide (call.1 = i) := by
      rw [writesOf, callsOf, List.countP_map, List.countP_filter, List.countP_filter]
      apply List.countP_congr
      intro call _
      simp only [Function.comp_apply, Bool.and_comm]
    rw [swapped, isOnly]
    simp [List.countP_cons]
  refine ⟨only.1, ?_, fun i writes => ?_⟩
  · simp [wrote, share]
  · by_contra different
    simp [wrote, share, Ne.symm different] at writes

namespace Aim

variable {aim : Aim} {ref : Ref}

/-- Others who serve the same aim do what is reckoned with. -/
theorem shared (aim : Aim) (promise : Served → Prop) :
    (aim.around False).Shared fun served => aim.Serves served ∧ promise served where
  refl := .refl aim False
  trans _ _ _ early late := early.trans late
  answers _ faithful := faithful
  turns _ holds faithful kept := ⟨kept.1.turns faithful, kept.1.holds faithful holds⟩

end Aim

namespace Plan

variable {plan : Plan} {start : Store}

theorem isThere_of_holds {store : Store} {ref : Ref} {old final : Value}
    (holds : (plan.aim start).Holds store) (found : start.find? ref = some old)
    (isFinal : (plan.aim start).final ref = some final) : ∃ now, store.find? ref = some now := by
  rcases holds.progress ref with unchanged | ⟨-, met⟩
  · exact ⟨old, unchanged.trans found⟩
  · obtain ⟨now, foundNow, -⟩ := exists_of_met isFinal met
    exact ⟨now, foundNow⟩

theorem note_of_job {job : Job} (member : job ∈ plan.jobs) {old : Value}
    (found : start.find? (plan.cluster.jobRef job.name) = some old) {served : Served}
    (holds : (plan.aim start).Holds served.before) (faithful : served.Faithful)
    (ofCluster : served.OfCluster plan.cluster False) (wrote : served.wrote = true)
    (isRef : served.ref = plan.cluster.jobRef job.name) :
    served.note = ⟨.update, none, plan.cluster.jobRef job.name⟩ := by
  cases ofCluster with
  | removes => cases wrote
  | @creates resource ref before after answer enabled owned =>
      have isJob : ref = plan.cluster.jobRef job.name := isRef
      subst isJob
      obtain ⟨now, foundNow⟩ := isThere_of_holds holds found (plan.final_job start member)
      have served : before.serve (plan.cluster.jobRef job.name) (.create resource) =
        (answer, after) := faithful
      rw [Store.serve_create_some (plan.cluster.plain_jobRef job.name) foundNow] at served
      obtain ⟨rfl, -⟩ := Prod.mk.inj served
      cases wrote
  | readsJob => cases wrote
  | correctsJob => exact congrArg (CallNote.mk .update none) isRef
  | readsOwner => cases wrote
  | reports =>
      have same : plan.cluster.ref = plan.cluster.jobRef job.name := isRef
      have isJob := plan.cluster.jobRef_mem_jobRefs member
      exact absurd (same ▸ List.mem_append_right _ isJob) plan.owner_not_mem

theorem note_of_owner (refs : plan.refs = plan.cluster.ownedRefs) {served : Served}
    (ofCluster : served.OfCluster plan.cluster False) (wrote : served.wrote = true)
    (isRef : served.ref = plan.cluster.ref) :
    served.note = ⟨.update, some "status", plan.cluster.ref⟩ := by
  have stranger : plan.cluster.ref ∉ plan.cluster.ownedRefs := refs ▸ plan.owner_not_mem
  cases ofCluster with
  | removes => cases wrote
  | @creates resource ref before after answer enabled owned =>
      have same : ref = plan.cluster.ref := isRef
      exact absurd (same ▸ owned) stranger
  | readsJob => cases wrote
  | @correctsJob patched name before after answer enabled managed named =>
      have same : plan.cluster.jobRef name = plan.cluster.ref := isRef
      have owned : plan.cluster.jobRef name ∈ plan.cluster.ownedRefs :=
        List.mem_append_right _ (List.mem_map_of_mem named)
      exact absurd (same ▸ owned) stranger
  | readsOwner => cases wrote
  | reports => rfl

theorem label_mem_created_iff (refs : plan.refs = plan.cluster.ownedRefs) {ref : Ref}
    (owned : ref ∈ plan.cluster.ownedRefs) (missing : start.find? ref = none)
    (history : List Served) :
    ref.label ∈ (plan.outcome start history).created ↔ wrote ref history = true := by
  simp only [outcome, refs, List.mem_map, List.mem_filter, Bool.and_eq_true]
  constructor
  · rintro ⟨other, ⟨ownedOther, -, writes⟩, same⟩
    have equal : other = ref :=
      List.inj_on_of_nodup_map plan.cluster.nodup_labels ownedOther owned same
    rwa [← equal]
  · intro writes
    exact ⟨ref, ⟨owned, by rw [missing]; rfl, writes⟩, rfl⟩

theorem name_mem_patched_iff {job : Job} (member : job ∈ plan.jobs) {live : Value}
    (found : start.find? (plan.cluster.jobRef job.name) = some live) (history : List Served) :
    job.name ∈ (plan.outcome start history).patched.map Prod.fst ↔
      wrote (plan.cluster.jobRef job.name) history = true := by
  simp only [outcome, List.map_map, List.mem_map, List.mem_filter, Bool.and_eq_true,
    Function.comp_apply]
  constructor
  · rintro ⟨other, ⟨-, -, writes⟩, same⟩
    rwa [← same]
  · intro writes
    exact ⟨job, ⟨member, by rw [found]; rfl, writes⟩, rfl⟩

section Together

variable {n : Nat} {world : World} {program : Program Outcome}

/-- However the turns are taken, the calls of a crew that carries out a plan
serve its aim, and whoever ends has carried it out. -/
theorem run_together (fits : plan.Fits world.store) (calm : world.Calm)
    (ensured : Program.Ensures ((plan.aim world.store).around False)
      (fun served => (plan.aim world.store).Serves served ∧ served.OfCluster plan.cluster False)
      program (plan.Carried world.store) world.store) (order : List (Fin n)) :
    let crew : Crew Outcome n := ⟨world, fun _ => program⟩
    let after := (crew.run order).world.store
    (∀ served ∈ (crew.calls order).map Prod.snd, (plan.aim world.store).Holds served.before ∧
        served.Faithful ∧ (plan.aim world.store).Serves served ∧
          served.OfCluster plan.cluster False) ∧
      Chained world.store ((crew.calls order).map Prod.snd) after ∧
        (plan.aim world.store).Holds after ∧
          ∀ i result, (crew.run order).members i = Program.ofExcept result →
            (∀ ref, (plan.aim world.store).Reached ref after) ∧
              result = .ok (plan.outcome world.store (callsOf i (crew.calls order))) := by
  intro crew after
  have start : crew.Follows ((plan.aim world.store).around False) _
      fun _ => plan.Carried world.store :=
    ⟨calm, ⟨fits.sound, .refl _ _⟩, fun _ => ⟨world.store, .refl _ _ _, ensured⟩⟩
  obtain ⟨follows, chained, kept⟩ := start.run ((plan.aim world.store).shared _) order
  have calls : ∀ served ∈ (crew.calls order).map Prod.snd,
      (plan.aim world.store).Holds served.before ∧ served.Faithful ∧
        (plan.aim world.store).Serves served ∧ served.OfCluster plan.cluster False := by
    intro served member
    obtain ⟨call, among, rfl⟩ := List.mem_map.mp member
    exact kept call among
  refine ⟨calls, chained, follows.holds, fun i result ended => ?_⟩
  obtain ⟨seen, turned, reached, reports⟩ := follows.ended ended
  refine ⟨fun ref => (reached ref).progress turned.progress, ?_⟩
  rw [List.append_nil] at reports
  apply reports
  intro ref writes
  refine Aim.lacked_of_wrote (fun served member => ?_) (of_decide_eq_true writes)
  obtain ⟨call, among, rfl⟩ := List.mem_map.mp member
  obtain ⟨holds, -, serves, -⟩ :=
    calls call.2 (List.mem_map_of_mem (List.mem_of_mem_filter among))
  exact ⟨holds, serves⟩

end Together

end Plan

/-- What a crew of passes over a cluster comes to when all have ended: the store
is as one pass alone would make it, and what had to be done was done once and is
reported by exactly one. -/
structure Concerted {n : Nat} (cluster : Cluster) (jobs : List Job) (start alone after : Store)
    (calls : List (Fin n × Served)) (outcomes : Fin n → Outcome) : Prop where
  alike : ∀ ref, (after.find? ref).map Value.unversioned = (alone.find? ref).map Value.unversioned
  created : ∀ ref ∈ cluster.ownedRefs, start.find? ref = none →
    ∃! i, ref.label ∈ (outcomes i).created
  corrected : cluster.isManaged = true → ∀ job ∈ jobs,
    (cluster.driftIn start job).isChange = true →
      updatesOf (cluster.jobRef job.name) none (calls.map Prod.snd) = 1 ∧
        ∃! i, job.name ∈ (outcomes i).patched.map Prod.fst
  reported : ∀ object, start.find? cluster.ref = some object →
    (reportIn object).same (cluster.reportIn jobs after) = false →
      updatesOf cluster.ref (some "status") (calls.map Prod.snd) = 1 ∧
        ∃! i, (outcomes i).statusWritten = true

/-- Calls that serve the aim of a plan and bring everything to its content do
each thing once. -/
theorem Plan.concerted {n : Nat} {plan : Plan} {start alone after : Store}
    {calls : List (Fin n × Served)} (fits : plan.Fits start)
    (refs : plan.refs = plan.cluster.ownedRefs)
    (served : ∀ served ∈ calls.map Prod.snd, (plan.aim start).Holds served.before ∧
      served.Faithful ∧ (plan.aim start).Serves served ∧ served.OfCluster plan.cluster False)
    (chained : Chained start (calls.map Prod.snd) after)
    (met : ∀ ref, (plan.aim start).Met ref after) (metAlone : ∀ ref, (plan.aim start).Met ref alone) :
    Concerted plan.cluster plan.jobs start alone after calls
      fun i => plan.outcome start (callsOf i calls) := by
  have once : ∀ ref, ¬ (plan.aim start).Met ref start → writesOf ref (calls.map Prod.snd) = 1 := by
    intro ref lacking
    have counted :=
      (Aim.writesOf_chained chained (fun served' member => (served served' member).2.2.1) ref).2
    rcases counted with ⟨-, unchanged⟩ | ⟨one, -, -⟩
    · exact absurd ((Aim.met_congr unchanged).mp (met ref)) lacking
    · exact one
  constructor
  · intro ref
    exact (met ref).trans (metAlone ref).symm
  · intro ref owned missing
    have lacking := plan.not_met_of_absent (refs ▸ owned) missing
    simp only [Plan.label_mem_created_iff refs owned missing]
    exact existsUnique_wrote (once ref lacking)
  · intro managed job member drifted
    have isThere : ∃ live, start.find? (plan.cluster.jobRef job.name) = some live := by
      unfold Cluster.driftIn at drifted
      cases found : start.find? (plan.cluster.jobRef job.name) with
      | none =>
          rw [found] at drifted
          cases drifted
      | some live => exact ⟨live, rfl⟩
    obtain ⟨live, found⟩ := isThere
    rw [Cluster.driftIn, found] at drifted
    have one := once _ ((Plan.not_met_job_iff fits member found).mpr ⟨managed, drifted⟩)
    constructor
    · rw [updatesOf_eq_writesOf, one]
      intro call among
      obtain ⟨holds, faithful, -, ofCluster⟩ := served call among
      exact Plan.note_of_job member found holds faithful ofCluster
    · simp only [Plan.name_mem_patched_iff member found]
      exact existsUnique_wrote one
  · intro object found differs
    rw [Plan.reportIn_eq fits fun job _ => met _] at differs
    have one := once _ ((Plan.not_met_owner_iff fits).mpr ⟨object, found, differs⟩)
    constructor
    · rw [updatesOf_eq_writesOf, one]
      intro call among
      exact Plan.note_of_owner refs (served call among).2.2.2
    · exact existsUnique_wrote one

/-- Any number of passes over the same enabled cluster, however their calls are
interleaved: none fails, in a fair order all end, and when all have ended the
work was done once. -/
theorem reconcile_together {cluster : Cluster} {settings : Settings} {files : Fields}
    {credentials : List (String × ByteArray)} {world : World} {schedule image : String} {n : Nat}
    (several : 0 < n) (backoff : Backoff) (steps : 2 ≤ backoff.steps)
    (enabled : cluster.curation.mode = .enabled)
    (stranger : cluster.ref.kind ∉ Cluster.ownedKinds)
    (usual : settings.defaultSchedule = .text schedule) (given : settings.image = .text image)
    (reachable : world.store.Reachable) (shaped : cluster.ShapedIn world.store)
    (calm : world.Calm) :
    let pass := reconcile cluster settings ⟨.given files, .given credentials⟩ backoff
    let crew : Crew Outcome n := ⟨world, fun _ => pass⟩
    (∀ order i fault, (crew.run order).members i ≠ .fail fault) ∧
      (∀ turns, Crew.Fair turns → ∃ k, (crew.run (Crew.first turns k)).Ended) ∧
        ∃ jobs, cluster.jobs settings = .ok jobs ∧ ∀ order, (crew.run order).Ended →
          ∃ outcomes, (∀ i, (crew.run order).members i = .done (outcomes i)) ∧
            Concerted cluster jobs world.store (pass.run world).2.store
              (crew.run order).world.store (crew.calls order) outcomes := by
  intro pass crew
  obtain ⟨jobs, made⟩ := cluster.exists_jobs usual given
  have names := Cluster.jobNames_of_jobs made
  let plan := cluster.plan files credentials jobs names stranger
  have fits : plan.Fits world.store := Cluster.plan_fits reachable.sound shaped
  have refs : plan.refs = plan.cluster.ownedRefs := Cluster.refs_eq_ownedRefs names
  -- A pass serves the same aim whether it is alone or among others, so both come to one store.
  have alone : Program.Ensures ((plan.aim world.store).around True) (plan.aim world.store).Serves pass
      (plan.Carried world.store) world.store :=
    Cluster.ensures_reconcile (.inl trivial) enabled made fits
  have among : Program.Ensures ((plan.aim world.store).around False) (plan.aim world.store).Serves pass
      (plan.Carried world.store) world.store :=
    Cluster.ensures_reconcile (.inr ⟨rfl, steps⟩) enabled made fits
  have kept : Program.Keeps .disturbed (Served.OfCluster cluster False) pass :=
    Program.keeps_reconcile settings _ backoff
  have both : Program.Ensures ((plan.aim world.store).around False)
      (fun served => (plan.aim world.store).Serves served ∧ served.OfCluster plan.cluster False) pass
      (plan.Carried world.store) world.store := by
    refine Program.Ensures.besides ?_ ?_ ?_ among (kept world.store)
    · exact fun store holds => holds.sound
    · exact fun store after turned => turned.evolves
    · exact fun served faithful => .inl faithful
  refine ⟨fun order i fault failed => ?_, fun turns fair => crew.ends_of_fair fair, jobs, made,
    fun order ended => ?_⟩
  · obtain ⟨-, -, -, returns⟩ := Plan.run_together fits calm both order
    obtain ⟨-, returned⟩ := returns i (.error fault) failed
    cases returned
  · obtain ⟨served, chained, holds, returns⟩ := Plan.run_together fits calm both order
    obtain ⟨holdsAlone, reachedAlone, -, -⟩ := Plan.run_alone calm fits alone
    have reached : ∀ ref, (plan.aim world.store).Reached ref (crew.run order).world.store := by
      obtain ⟨result, isEnd⟩ := ended ⟨0, several⟩
      exact (returns _ result isEnd).1
    refine ⟨fun i => plan.outcome world.store (callsOf i (crew.calls order)), fun i => ?_,
      Plan.concerted fits refs served chained (fun ref => holds.met (reached ref))
        fun ref => holdsAlone.met (reachedAlone ref)⟩
    obtain ⟨result, isEnd⟩ := ended i
    rw [(returns i result isEnd).2] at isEnd
    exact isEnd

/-- Two passes that take turns: both find the job drifted, the first corrects it
and the second is refused, finds it corrected and has no report left to write. -/
theorem alternating_reconcile_together :
    let pass := reconcile plainCluster {} ⟨.given [], .given []⟩ ({} : Backoff)
    let crew : Crew Outcome 2 := ⟨{ store := staleStore }, fun _ => pass⟩
    (((crew.calls (List.replicate 25 [0, 1]).flatten).filter fun call =>
        decide (call.2.request.verb = .update)).map fun call =>
          (call.1, call.2.ref.kind.display, call.2.answer.isOk)) =
        [(0, "CronJob", true), (1, "CronJob", false), (0, "ClusterLogging", true)] ∧
      (∀ order i fault, (crew.run order).members i ≠ .fail fault) ∧
      (∀ turns, Crew.Fair turns → ∃ k, (crew.run (Crew.first turns k)).Ended) ∧
        ∃ jobs, plainCluster.jobs {} = .ok jobs ∧ ∀ order, (crew.run order).Ended →
          ∃ outcomes, (∀ i, (crew.run order).members i = .done (outcomes i)) ∧
            Concerted plainCluster jobs staleStore (pass.run { store := staleStore }).2.store
              (crew.run order).world.store (crew.calls order) outcomes := by
  refine ⟨by decide +kernel, ?_⟩
  exact reconcile_together (by decide) {} (by decide) rfl (by decide) rfl rfl reachable_staleStore
    shaped_staleStore ⟨rfl, fun _ => rfl⟩

end CuratorKeeper
