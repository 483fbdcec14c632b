import CuratorKeeper.Proofs.Job.Reading
import CuratorKeeper.Proofs.Pass.Plan
import CuratorKeeper.Proofs.Pass.Takes

/-!
# The course of a pass

Every part of a pass takes the steps of its own part of the grammar, whatever the
store may be: the creations, the corrections of the jobs, the report on them and
the teardown.
-/

namespace CuratorKeeper

open Drift Grammar

section Calls

variable {excuse : Prop} {cluster : Cluster} {ref : Ref}

theorem takes_ensureCreated {resource : Value} (wants : cluster.MayWant ref resource) :
    Takes excuse Step.failure (ensureCreated resource) (creation cluster ref)
      fun created counted => counted = { created := if created then [ref.label] else [] } := by
  have word : ∀ answer, [⟨⟨.create resource, answer⟩, .creation, ref⟩] ∈ creation cluster ref :=
    fun answer => ⟨resource, answer, wants, rfl⟩
  simp only [ensureCreated, wants.known, Program.liftM_mismatch, Except.mapError, Program.ofExcept,
    Program.bind_eq, Program.done_bind]
  refine takes_call word (fun value => ?_) (fun refused absorbs => ?_) fun refused absorbs => ?_
  · rw [Program.always_bind, Program.always_note]
    exact ⟨(List.append_nil _).trans ref.told_createdLine, rfl, .inl ⟨true, rfl, rfl⟩⟩
  · have present : refused.refusal = .alreadyExists := by simpa [Site.absorbs] using absorbs
    simp only [present, if_true]
    rw [Program.always_bind, Program.always_note]
    exact ⟨rfl, rfl, false, rfl, rfl⟩
  · have other : refused.refusal ≠ .alreadyExists := by simpa [Site.absorbs] using absorbs
    simp only [other, if_false]
    rfl

theorem takes_deleteIfPresent :
    Takes excuse Step.failure (deleteIfPresent ref) (deletion ref)
      fun deleted counted => counted = { deleted := if deleted then 1 else 0 } := by
  have word : ∀ answer, [⟨⟨.delete ref, answer⟩, .deletion, ref⟩] ∈ deletion ref :=
    fun answer => ⟨answer, rfl⟩
  refine takes_call word (fun value => ?_) (fun refused absorbs => ?_) fun refused absorbs => ?_
  · rw [Program.bind_eq, Program.always_bind, Program.always_note]
    exact ⟨(List.append_nil _).trans ref.told_deletedLine, rfl, .inl ⟨true, rfl, rfl⟩⟩
  · have absent : refused.refusal = .notFound := by simpa [Site.absorbs] using absorbs
    simp only [absent, if_true]
    rw [Program.bind_eq, Program.always_bind, Program.always_note]
    exact ⟨rfl, rfl, false, rfl, rfl⟩
  · have other : refused.refusal ≠ .notFound := by simpa [Site.absorbs] using absorbs
    simp only [other, if_false]
    rfl

theorem takes_reportJob {name : String} :
    Takes excuse Step.failure (reportJob ref name) (reading .reportReading ref)
      fun _ counted => counted = {} := by
  have word : ∀ answer, [⟨⟨.get ref, answer⟩, .reportReading, ref⟩] ∈ reading .reportReading ref :=
    fun answer => ⟨answer, rfl⟩
  refine takes_call word (fun live => ?_) (fun refused absorbs => ?_) fun refused absorbs => ?_
  · simp only [Program.bind_eq, Program.liftM_fault]
    rw [Program.always_bind, Program.always_ofExcept]
    cases made : reportOf name live with
    | ok report => exact ⟨rfl, rfl, .inl ⟨some report, rfl, rfl⟩⟩
    | error fault =>
        refine ⟨rfl, rfl, .inr ⟨fault, rfl, fun regular => ?_⟩⟩
        obtain ⟨shaped, -⟩ := regular.2 live rfl
        rw [shaped.reportOf_eq] at made
        cases made
  · have absent : refused.refusal = .notFound := by simpa [Site.absorbs] using absorbs
    simp only [absent, if_true]
    exact ⟨rfl, rfl, none, rfl, trivial⟩
  · have other : refused.refusal ≠ .notFound := by simpa [Site.absorbs] using absorbs
    simp only [other, if_false]
    rfl

end Calls

section Lists

variable {excuse : Prop} {cluster : Cluster}

theorem takes_createAll {entries : List (Ref × Value)}
    (wants : ∀ entry ∈ entries, cluster.MayWant entry.1 entry.2) :
    Takes excuse Step.failure (createAll (entries.map Prod.snd))
      ((entries.map Prod.fst).map (creation cluster)).prod
      fun names counted => counted = { created := names } ∧
        names.Sublist ((entries.map Prod.fst).map Ref.label) := by
  induction entries with
  | nil => exact takes_done ⟨rfl, .slnil⟩
  | cons entry rest ih =>
      have wanted := wants entry List.mem_cons_self
      have others := fun other member => wants other (List.mem_cons_of_mem entry member)
      simp only [List.map_cons, List.prod_cons, createAll, Program.bind_eq, Program.liftM_mismatch,
        outcomeName_eq wanted.known, Except.mapError, Program.ofExcept, Program.done_bind]
      refine (takes_ensureCreated wanted).bind (fun created before counted => ?_) ?_
      · refine (ih others).bind_done fun names after reported => ?_
        obtain ⟨countedRest, sublist⟩ := reported
        subst counted countedRest
        cases created with
        | true => exact ⟨rfl, sublist.cons_cons _⟩
        | false => exact ⟨rfl, sublist.cons _⟩
      · refine words_prod fun ref isRef => ?_
        obtain ⟨other, inRest, rfl⟩ := List.mem_map.mp isRef
        exact words_creation cluster _ (others other inRest).owned

theorem takes_deleteAll (refs : List Ref) :
    Takes excuse Step.failure (deleteAll refs) (refs.map deletion).prod
      fun count counted => counted = { deleted := count } := by
  induction refs with
  | nil => exact takes_done rfl
  | cons ref rest ih =>
      simp only [List.map_cons, List.prod_cons, deleteAll, Program.bind_eq]
      refine takes_deleteIfPresent.bind (fun deleted before counted => ?_)
        (words_prod fun ref _ => words_deletion ref)
      refine ih.bind_done fun count after countedRest => ?_
      subst counted countedRest
      rfl

theorem takes_reportJobs (names : List String) :
    Takes excuse Step.failure (reportJobs cluster.space names)
      ((names.map cluster.jobRef).map (reading .reportReading)).prod
      fun _ counted => counted = {} := by
  induction names with
  | nil => exact takes_done rfl
  | cons name rest ih =>
      simp only [List.map_cons, List.prod_cons, reportJobs, Program.bind_eq]
      refine takes_reportJob.bind (fun report before counted => ?_)
        (words_prod fun ref _ => words_reading ref _)
      refine ih.bind_done fun reports after countedRest => ?_
      subst counted countedRest
      rfl

end Lists

/-- A correction changes the places that the drift tells of. -/
theorem changedNames_apply {cluster : Cluster} {job : Job} {live patched : Value} {drift : Drift}
    (found : Drift.between live (job.manifest cluster) = .ok drift)
    (applied : drift.apply live = .ok patched) :
    changedNames (some live) (some patched) = drift.fieldNames := by
  obtain ⟨schedule, suspend, image⟩ := at?_apply_places applied
  have isDrift := between_manifest_eq_ok found
  have changes : ∀ {place : List Key} {told : Option Value},
      patched.at? place = told.or (live.at? place) →
        (∀ value, told = some value → live.at? place ≠ some value) →
          (live.at? place ≠ patched.at? place ↔ told.isSome = true) := by
    intro place told holds differs
    cases told with
    | none => simp [holds]
    | some value => simpa [holds] using differs value rfl
  have atSchedule := changes schedule fun value told => by
    rw [isDrift] at told
    simp only [driftOf, Option.ite_none_left_eq_some, Option.some.injEq] at told
    exact told.2 ▸ told.1
  have atImage := changes image fun value told => by
    rw [isDrift] at told
    simp only [driftOf, Option.ite_none_left_eq_some, Option.some.injEq] at told
    exact told.2 ▸ told.1
  have atSuspend := changes suspend fun value told held => by
    rw [isDrift] at told
    simp only [driftOf] at told
    split at told
    · cases told
    next wanted _ =>
      simp only [Option.ite_none_left_eq_some, Option.some.injEq] at told
      obtain ⟨differs, rfl⟩ := told
      rw [held, Option.getD_some] at differs
      cases wanted <;> exact differs (by decide)
  simp only [changedNames, watched, Option.bind_some, List.filter_cons, List.filter_nil, atSchedule,
    atImage, atSuspend]
  unfold fieldNames
  cases drift.schedule <;> cases drift.suspend <;> cases drift.image <;> rfl

section Corrections

variable {excuse : Prop} {ofInterest : LogLine → Bool} {cluster : Cluster} {job : Job}
  {budget : Budget}

theorem always_liftM_bind {α β : Type} {result : Except Mismatch α} {rest : α → Program β}
    {further : α → Except Mismatch β} {goal : Saying β}
    (same : ∀ value, (rest value).Always ofInterest goal ↔
      goal ((further value).mapError .mismatch) [] []) :
    ((liftM result : Program α).bind rest).Always ofInterest goal ↔
      goal ((result >>= further).mapError .mismatch) [] [] := by
  cases result with
  | error mismatch => rfl
  | ok value => exact same value

theorem always_noteDrift_bind {β : Type} (change : Option Value) (text : String) (name : Value)
    (rest : Unit → Program β) (goal : Saying β) :
    ((noteDrift change text name).bind rest).Always LogLine.tellsChange goal ↔
      (rest ()).Always LogLine.tellsChange goal := by
  unfold noteDrift
  split
  · rw [Program.always_bind, Program.always_note]
    rfl
  · rfl

theorem always_findDrift (live desired : Value) (goal : Saying Drift) :
    (findDrift live desired).Always LogLine.tellsChange goal ↔
      goal ((Drift.between live desired).mapError .mismatch) [] [] := by
  apply always_liftM_bind
  intro name
  apply always_liftM_bind
  intro liveSpec
  apply always_liftM_bind
  intro desiredSpec
  apply always_liftM_bind
  intro schedule
  apply (always_noteDrift_bind _ _ _ _ _).trans
  apply always_liftM_bind
  intro suspend
  apply (always_noteDrift_bind _ _ _ _ _).trans
  apply always_liftM_bind
  intro image
  exact always_noteDrift_bind _ _ _ _ _

/-- What a correction of a job comes to. -/
def Drift.tally (drift : Drift) (name : String) : Tally where
  patched := if drift.isChange then [(name, drift.fieldNames)] else []

/-- Inside the loop that corrects a job a conflict of its update is not told of yet. -/
def Step.failureInLoop (step : Step) (refused : StoreFault) : Fault :=
  match step.site with
  | .correction _ _ => if refused.refusal = .conflict then .store refused else step.failure refused
  | _ => step.failure refused

/-- How the submission of a correction ends. -/
def submitted (ref : Ref) : Except Fault Value → Except Fault Unit
  | .ok _ => .ok ()
  | .error (.store fault) =>
    if fault.refusal = .conflict then .error (.store fault)
    else .error (fault.during "updating" ref)
  | .error other => .error other

theorem always_submitUpdate (ref : Ref) (patched : Value) (goal : Saying Unit) :
    (submitUpdate ref patched).Always ofInterest goal ↔
      ∀ answer, goal (submitted ref answer) [] [⟨.update patched none, answer⟩] := by
  rw [submitUpdate, Program.bind_eq, Program.always_bind, Program.always_catchStore,
    Program.always_ask]
  refine forall_congr' fun answer => ?_
  cases answer with
  | ok value => rfl
  | error fault =>
      cases fault with
      | store refused =>
          by_cases isConflict : refused.refusal = .conflict <;>
            simp [caughtOf, submitted, isConflict, Program.always_fail]
      | _ => rfl

theorem triedOf_submitted (ref : Ref) (answer : Except Fault Value) (drift : Drift) (left : Nat)
    (live patched : Value) :
    triedOf () ((submitted ref answer).map fun _ => Attempt.settled drift) =
      rewritten Step.failureInLoop ⟨⟨.update patched none, answer⟩, .correction left live, ref⟩
        drift () := by
  cases answer with
  | ok value => rfl
  | error fault =>
      cases fault with
      | store refused =>
          by_cases isConflict : refused.refusal = .conflict
          · simp [submitted, rewritten, triedOf, Except.map, isConflict]
          · simp only [submitted, rewritten, isConflict, if_false]
            exact congrArg Except.error (if_neg isConflict).symm
      | _ => rfl

/-- A correction that was found and applied is submitted, which ends the try. -/
theorem always_correction {live patched : Value} {drift : Drift} (left : Nat)
    (found : Drift.between live (job.manifest cluster) = .ok drift)
    (changes : drift.isChange = true) (applied : drift.apply live = .ok patched) :
    let ref := cluster.jobRef job.name
    (submitUpdate ref patched).Always ofInterest fun result lines asked =>
      ∃ steps : List Step, ⟨.get ref, .ok live⟩ :: asked = steps.map Step.toAsked ∧
        lines = steps.flatMap Step.lines ∧
        TryEnded excuse Step.failureInLoop (cluster.correcting ref) ref left
          (fun drift counted => counted = drift.tally job.name) steps
          (triedOf () (result.map fun _ => Attempt.settled drift)) := by
  intro ref
  rw [always_submitUpdate]
  intro answer
  let reading : Step := ⟨⟨.get ref, .ok live⟩, .jobReading, ref⟩
  let update : Step := ⟨⟨.update patched none, answer⟩, .correction left live, ref⟩
  have word : [reading, update] ∈ attempt (cluster.correcting ref) ref left :=
    .inr ⟨live, patched, answer, ⟨job, drift, rfl, found, changes, applied⟩, rfl⟩
  refine ⟨[reading, update], rfl, rfl, ?_⟩
  rw [triedOf_submitted]
  refine tryEnded_rewriting word (Step.passes_of_ok rfl) (fun _ => rfl)
    (fun _ conflict => if_pos conflict) ?_ ?_
  · rintro fault rfl
    rfl
  · rintro written rfl
    simp only [Drift.tally, changes, if_true, ← changedNames_apply found applied]
    rfl

/-- One reading, comparison and update is a try. -/
theorem takesTry_correctDrift (cluster : Cluster) (job : Job) (left : Nat) :
    TakesTry excuse Step.failureInLoop (cluster.correcting (cluster.jobRef job.name))
      (cluster.jobRef job.name) left
      (fun drift counted => counted = drift.tally job.name)
      (Attempt.ofProgram () (.settled <$> correctDrift (job.manifest cluster))) := by
  let ref := cluster.jobRef job.name
  have known : Ref.of (job.manifest cluster) = .ok ref := cluster.ref_manifest job
  simp only [TakesTry, Program.always_ofProgram, Program.always_map, correctDrift, known,
    Program.liftM_mismatch, Except.mapError, Program.ofExcept, Program.bind_eq, Program.done_bind]
  rw [Program.always_bind, Program.always_catchStore, Program.always_ask]
  intro answer
  let reading : Step := ⟨⟨.get ref, answer⟩, .jobReading, ref⟩
  have word : [reading] ∈ attempt (cluster.correcting ref) ref left := .inl ⟨answer, rfl⟩
  cases answer with
  | error fault =>
      by_cases isRefusal : ∃ refused, fault = .store refused
      · obtain ⟨refused, rfl⟩ := isRefusal
        simp only [caughtOf]
        by_cases absent : refused.refusal = .notFound
        · simp only [absent, if_true]
          rw [Program.always_bind, Program.always_note]
          have absorbs : reading.Passes := Step.passes_of_absorbed rfl (decide_eq_true absent)
          exact ⟨[reading], rfl, rfl, .settled word (by simpa using absorbs) rfl⟩
        · simp only [absent, if_false]
          have fatal : reading.site.absorbs refused.refusal = false := decide_eq_false absent
          exact ⟨[reading], rfl, rfl, .failed (.of_mem word) (.single rfl fatal)⟩
      · have other := not_exists.mp isRefusal
        rw [caughtOf_other other]
        simp only [Except.map, triedOf_other other]
        refine ⟨[reading], rfl, rfl, .failed (.of_mem word) ?_⟩
        exact .upset_single (Step.irregular_of_error rfl other)
  | ok live =>
      have passes : reading.Passes := Step.passes_of_ok rfl
      simp only [caughtOf]
      rw [Program.always_bind, always_findDrift]
      cases found : Drift.between live (job.manifest cluster) with
      | error mismatch =>
          -- Of a job of good shape the drift can always be told.
          refine ⟨[reading], rfl, rfl, .failed (.of_mem word) (.upset_single fun regular => ?_)⟩
          obtain ⟨shaped, named⟩ := regular.2 live rfl
          rw [shaped.between_eq (Ref.itemAt_name named)] at found
          cases found
      | ok drift =>
          simp only [Except.mapError]
          cases changes : drift.isChange with
          | false =>
              simp only [Bool.false_eq_true, if_false]
              refine ⟨[reading], rfl, rfl, .settled word (by simpa using passes) ?_⟩
              simp only [Drift.tally, changes]
              rfl
          | true =>
              simp only [if_true]
              cases applied : drift.apply live with
              | error mismatch =>
                  refine ⟨[reading], rfl, rfl, .failed (.of_mem word) (.upset_single ?_)⟩
                  intro regular
                  obtain ⟨patched, applies⟩ := (regular.2 live rfl).1.exists_apply drift
                  cases applied.symm.trans applies
              | ok patched =>
                  simp only [Program.done_bind]
                  rw [Program.always_bind]
                  have submits := @always_correction excuse LogLine.tellsChange _ _ _ _ _ left
                    found changes applied
                  refine submits.mono fun result lines asked tried => ?_
                  cases result with
                  | error fault => exact tried
                  | ok done =>
                      obtain ⟨steps, isAsked, isTold, ended⟩ := tried
                      exact ⟨steps, by simpa using isAsked, by simpa using isTold, ended⟩

def Correction.tally (correction : Correction) (name : String) : Tally where
  created := if correction.created then ["CronJob/" ++ name] else []
  patched := (correction.drift.tally name).patched

theorem takes_reconcileJob (flawed : budget.flaw ≠ none → excuse)
    (wants : cluster.MayWant (cluster.jobRef job.name) (job.manifest cluster)) :
    Takes excuse Step.failure (reconcileJob cluster (job.manifest cluster) budget)
      (treatment cluster budget.backoff.pauseCount (cluster.jobRef job.name))
      fun correction counted => counted = correction.tally job.name := by
  let ref := cluster.jobRef job.name
  rw [reconcileJob, Program.bind_eq, treatment]
  cases managed : cluster.isManaged with
  | false =>
      simp only [Bool.not_false, if_true, Bool.false_eq_true, if_false]
      refine (takes_ensureCreated wants).bind (fun created before counted => ?_) ⟨[], rfl⟩
      refine takes_done ?_
      subst counted
      rw [cluster.label_jobRef]
      cases created <;> rfl
  | true =>
      simp only [Bool.not_true, if_true, Bool.false_eq_true, if_false]
      refine (takes_ensureCreated wants).bind (fun created before counted => ?_) (words_tries _ _ _)
      have loop := takes_retryFrom flawed (fun left _ => takesTry_correctDrift cluster job left)
        budget.backoff.pauseCount 1 budget.backoff.delay ()
      refine takes_handled loop (fun _ => rfl) ?_ ?_ ?_
      · rintro drift _ rfl
        subst counted
        rw [cluster.label_jobRef]
        simp [Drift.tally, Correction.tally]
      · intro fault
        cases fault with
        | store refused =>
            by_cases isConflict : refused.refusal = .conflict
            · exact ⟨_, by simp only [isConflict, if_true]; rfl⟩
            · exact ⟨.store refused, by simp only [isConflict, if_false]⟩
        | _ => exact ⟨_, rfl⟩
      · intro steps begins last member refused
        obtain ⟨same, left, isReading | ⟨live, isUpdate⟩⟩ := tries_steps begins last member
        · simp only [Step.failureInLoop, isReading, Cluster.correcting, Step.failure, StoreFault.during]
        · simp only [Step.failureInLoop, isUpdate, Cluster.correcting]
          by_cases isConflict : refused.refusal = .conflict
          · have shown : last.failure refused = refused.during "updating" ref := by
              rw [Step.failure, isUpdate, same]
              rfl
            simp only [isConflict, if_true]
            rw [shown]
            rfl
          · simp only [isConflict, if_false]
            rfl

theorem takes_reconcileJobs (flawed : budget.flaw ≠ none → excuse) {jobs : List Job}
    (wants : ∀ job ∈ jobs, cluster.MayWant (cluster.jobRef job.name) (job.manifest cluster)) :
    Takes excuse Step.failure
      (reconcileJobs cluster budget (jobs.map fun job => (job, job.manifest cluster)))
      ((cluster.jobRefs jobs).map (treatment cluster budget.backoff.pauseCount)).prod
      fun corrections counted => counted =
        { created := createdJobs corrections, patched := patchedJobs corrections } ∧
          corrections.map Prod.fst = jobs := by
  induction jobs with
  | nil => exact takes_done ⟨rfl, rfl⟩
  | cons job rest ih =>
      have others := fun other member => wants other (List.mem_cons_of_mem job member)
      simp only [List.map_cons, Cluster.jobRefs_cons, List.prod_cons, reconcileJobs,
        Program.bind_eq]
      refine (takes_reconcileJob flawed (wants job List.mem_cons_self)).bind
        (fun correction before counted => ?_) ?_
      · refine (ih others).bind_done fun corrections after reported => ?_
        obtain ⟨countedRest, named⟩ := reported
        subst counted countedRest
        refine ⟨?_, by rw [List.map_cons, named]⟩
        obtain ⟨drift, created⟩ := correction
        cases created <;> cases changes : drift.isChange <;>
          simp [Correction.tally, Drift.tally, createdJobs, patchedJobs, changes]
      · refine words_prod fun ref isRef => ?_
        obtain ⟨other, inRest, rfl⟩ := List.mem_map.mp isRef
        exact words_treatment cluster _ _ (others other inRest).owned

end Corrections

section Status

variable {excuse : Prop} {ofInterest : LogLine → Bool} {cluster : Cluster} {owner : Ref}
  {derived : Value} {budget : Budget}

theorem always_writeStatus {object updated : Value}
    (written : withStatus object derived = .ok updated) (goal : Saying Bool) :
    (writeStatus object derived).Always ofInterest goal ↔
      ∀ answer, goal (answer.map fun _ => true) [] [⟨.update updated (some "status"), answer⟩] := by
  rw [writeStatus, written]
  simp only [Program.liftM_mismatch, Except.mapError, Program.ofExcept, Program.bind_eq,
    Program.done_bind]
  rw [Program.always_bind, Program.always_ask]
  refine forall_congr' fun answer => ?_
  cases answer <;> rfl

theorem triedOf_report (answer : Except Fault Value) (pending : Bool) (left : Nat)
    (object updated : Value) :
    triedOf pending (triedOf false ((answer.map fun _ => true).map Attempt.settled)) =
      rewritten (fun _ refused => .store refused)
        ⟨⟨.update updated (some "status"), answer⟩, .ownerUpdate left object, owner⟩ true false := by
  cases answer with
  | ok value => rfl
  | error fault =>
      cases fault with
      | store refused =>
          by_cases isConflict : refused.refusal = .conflict <;>
            simp [rewritten, triedOf, Except.map, isConflict]
      | _ => rfl

theorem always_report {object stored : Value} (left : Nat) (pending : Bool)
    (read : storedStatus object = .ok stored) (differs : stored.same derived = false) :
    (Attempt.ofProgram false (.settled <$> writeStatus object derived)).Always ofInterest
      fun result lines asked => ∃ steps : List Step,
        ⟨.get owner, .ok object⟩ :: asked = steps.map Step.toAsked ∧
          lines = steps.flatMap Step.lines ∧
          TryEnded excuse (fun _ refused => .store refused) reporting owner left
            (fun written counted => counted = { written := if written then 1 else 0 }) steps
            (triedOf pending result) := by
  let reading : Step := ⟨⟨.get owner, .ok object⟩, .ownerReading left, owner⟩
  rw [Program.always_ofProgram, Program.always_map]
  cases written : withStatus object derived with
  | error mismatch =>
      have fails : writeStatus object derived = .fail (.mismatch mismatch) := by
        rw [writeStatus, written]
        rfl
      have word : [reading] ∈ attempt reporting owner left := .inl ⟨.ok object, rfl⟩
      rw [fails, Program.always_fail]
      refine ⟨[reading], rfl, rfl, .failed (.of_mem word) (.upset_single fun regular => ?_)⟩
      obtain ⟨shaped, isObject⟩ := regular.2 object rfl
      obtain ⟨updated, writes⟩ := shaped.exists_withStatus isObject derived
      cases written.symm.trans writes
  | ok updated =>
      rw [always_writeStatus written]
      intro answer
      let update : Step :=
        ⟨⟨.update updated (some "status"), answer⟩, .ownerUpdate left object, owner⟩
      have word : [reading, update] ∈ attempt reporting owner left :=
        .inr ⟨object, updated, answer, ⟨stored, derived, read, differs, written⟩, rfl⟩
      refine ⟨[reading, update], rfl, rfl, ?_⟩
      rw [triedOf_report]
      refine tryEnded_rewriting word (Step.passes_of_ok rfl) (fun _ => rfl) (fun _ _ => rfl) ?_ ?_
      · rintro fault rfl
        rfl
      · rintro written rfl
        rfl

theorem takesTry_syncOnce (cluster : Cluster) (owner : Ref) (derived : Value) (left : Nat)
    (pending : Bool) :
    TakesTry excuse (fun _ refused => .store refused) reporting owner left
      (fun written counted => counted = { written := if written then 1 else 0 })
      (syncOnce cluster owner derived pending) := by
  rw [TakesTry, syncOnce, Program.always_ofProgram, Program.bind_eq, Program.always_bind,
    Program.always_catchStore, Program.always_ask]
  intro answer
  let reading : Step := ⟨⟨.get owner, answer⟩, .ownerReading left, owner⟩
  have word : [reading] ∈ attempt reporting owner left := .inl ⟨answer, rfl⟩
  cases answer with
  | error fault =>
      by_cases isRefusal : ∃ refused, fault = .store refused
      · obtain ⟨refused, rfl⟩ := isRefusal
        simp only [caughtOf]
        by_cases absent : refused.refusal = .notFound
        · simp only [absent, if_true]
          have absorbs : reading.Passes :=
            Step.passes_of_absorbed rfl (by simp [reading, Site.absorbs, absent])
          exact ⟨[reading], rfl, rfl, .settled word (by simpa using absorbs) rfl⟩
        · simp only [absent, if_false]
          rw [Program.always_fail]
          -- The reading of a job fails for a conflict; this one is made again.
          by_cases isConflict : refused.refusal = .conflict
          · simp only [triedOf, isConflict, if_true]
            have hasTries : reading.site.absorbs .conflict = decide (0 < left) := by
              simp [reading, Site.absorbs]
            exact ⟨[reading], rfl, rfl, .stale ⟨word, isConflict,
              ⟨[], reading, rfl, by simp, rfl, hasTries, rfl⟩, rfl⟩⟩
          · simp only [triedOf, isConflict, if_false]
            have fatal : reading.site.absorbs refused.refusal = false := by
              simp [reading, Site.absorbs, absent, isConflict]
            exact ⟨[reading], rfl, rfl, .failed (.of_mem word)
              (.stopped (List.nil_append _).symm (by simp) rfl fatal)⟩
      · have other := not_exists.mp isRefusal
        rw [caughtOf_other other]
        simp only [triedOf_other other]
        refine ⟨[reading], rfl, rfl, .failed (.of_mem word) ?_⟩
        exact .upset_single (Step.irregular_of_error rfl other)
  | ok object =>
      have passes : reading.Passes := Step.passes_of_ok rfl
      simp only [caughtOf]
      rw [Program.bind_eq, Program.liftM_mismatch, Program.always_bind, Program.always_ofExcept]
      cases read : storedStatus object with
      | error mismatch =>
          refine ⟨[reading], rfl, rfl, .failed (.of_mem word) (.upset_single fun regular => ?_)⟩
          obtain ⟨shaped, isObject⟩ := regular.2 object rfl
          rw [shaped.storedStatus_eq isObject] at read
          cases read
      | ok stored =>
          simp only [Except.mapError]
          cases same : stored.same derived with
          | true =>
              simp only [if_true]
              exact ⟨[reading], rfl, rfl, .settled word (by simpa using passes) rfl⟩
          | false =>
              simp only [Bool.false_eq_true, if_false]
              cases pending with
              | false => exact always_report left false read same
              | true =>
                  simp only [if_true]
                  rw [Program.bind_eq, Program.always_bind, Program.always_note]
                  exact always_report left true read same

theorem takes_syncStatus (flawed : budget.flaw ≠ none → excuse) :
    Takes excuse Step.failure (syncStatus cluster cluster.ref budget)
      ((cluster.namedJobs.map (reading .reportReading)).prod *
        tries reporting cluster.ref budget.backoff.pauseCount)
      fun written counted => counted = { written := if written then 1 else 0 } := by
  rw [syncStatus, Program.bind_eq]
  refine (takes_reportJobs cluster.jobNames).bind (fun found before counted => ?_) (words_tries _ _ _)
  subst counted
  simp only [Program.bind_eq, Program.catchStore, Program.bind_assoc, Tally.empty_add]
  have loop := takes_retryFrom flawed
    (fun left pending => takesTry_syncOnce cluster cluster.ref (statusOf found) left pending)
    budget.backoff.pauseCount 1 budget.backoff.delay true
  refine takes_handled loop (fun _ => rfl) (fun _ _ counted => counted) ?_ ?_
  · intro fault
    cases fault with
    | store refused => exact ⟨_, rfl⟩
    | _ => exact ⟨_, rfl⟩
  · intro steps begins last member refused
    obtain ⟨same, left, isReading | ⟨object, isUpdate⟩⟩ := tries_steps begins last member
    · rw [Step.failure, same, isReading]
      rfl
    · rw [Step.failure, same, isUpdate]
      rfl

end Status

def Outcome.tally (outcome : Outcome) : Tally where
  created := outcome.created
  patched := outcome.patched
  written := if outcome.statusWritten then 1 else 0
  deleted := outcome.deleted

/-- An outcome is that of a pass over the cluster that came to so much: what it
names is named once. -/
structure Outcome.Reports (cluster : Cluster) (outcome : Outcome) (counted : Tally) : Prop where
  counted : counted = outcome.tally
  created : outcome.created.Sublist (cluster.ownedRefs.map Ref.label)
  patched : (outcome.patched.map Prod.fst).Sublist cluster.jobNames

section Passes

variable {excuse : Prop} {cluster : Cluster} {settings : Settings} {inputs : Inputs}
  {budget : Budget}

theorem takes_removeCurator :
    Takes excuse Step.failure (removeCurator cluster) (clearing cluster)
      fun count counted => counted = { deleted := count } := by
  unfold removeCurator clearing
  cases cluster.isManaged with
  | true => exact takes_deleteAll cluster.ownedRefs
  | false =>
      simp only [Bool.false_eq_true, if_false]
      rw [Takes, Program.bind_eq, Program.always_bind, Program.always_note]
      simp only [Effect.told, LogLine.tellsChange_unmanaged]
      exact takes_done rfl

section Loaded

variable {files : Fields} {credentials : List (String × ByteArray)} {goal : Saying Outcome}

theorem always_buildUp_loaded (loadsFiles : Program.Quiet inputs.loadFiles (.ok files))
    (loadsCredentials : Program.Quiet inputs.loadCredentials (.ok credentials)) :
    (buildUp cluster settings inputs budget).Always LogLine.tellsChange goal ↔
      (buildUp cluster settings ⟨.given files, .given credentials⟩ budget).Always
        LogLine.tellsChange goal := by
  rw [buildUp, Program.bind_eq,
    loadsFiles.always_bind_iff (Program.silent_loadFiles LogLine.tellsChange_loading inputs)]
  simp only [Program.bind_eq]
  rw [loadsCredentials.always_bind_iff
    (Program.silent_loadCredentials LogLine.tellsChange_loading inputs)]
  rfl

end Loaded

/-- The inputs can be read and the jobs of the cluster worked out. -/
def Cluster.Prepared (cluster : Cluster) (settings : Settings) (inputs : Inputs) : Prop :=
  ∃ files credentials jobs, Program.Quiet inputs.loadFiles (.ok files) ∧
    Program.Quiet inputs.loadCredentials (.ok credentials) ∧ cluster.jobs settings = .ok jobs

theorem Cluster.mayWant_once {jobs : List Job} (made : cluster.jobs settings = .ok jobs)
    (files : Fields) (credentials : List (String × ByteArray)) :
    ∀ entry ∈ cluster.onceEntries files credentials, cluster.MayWant entry.1 entry.2 := by
  intro entry member
  refine ⟨settings, files, credentials, _, desired_of_jobs made files credentials, ?_,
    cluster.known_onceEntries _ _ entry member⟩
  exact List.mem_append_left _ (List.mem_map_of_mem member)

theorem Cluster.mayWant_job {jobs : List Job} (made : cluster.jobs settings = .ok jobs) :
    ∀ job ∈ jobs, cluster.MayWant (cluster.jobRef job.name) (job.manifest cluster) := by
  intro job member
  refine ⟨settings, [], [], _, desired_of_jobs made [] [], ?_, cluster.ref_manifest job⟩
  refine List.mem_append_right _ (List.mem_map.mpr ⟨(job, job.manifest cluster), ?_, rfl⟩)
  exact List.mem_map_of_mem member

theorem createdJobs_sublist (corrections : List (Job × Correction)) :
    (createdJobs corrections).Sublist ((cluster.jobRefs (corrections.map Prod.fst)).map Ref.label) := by
  have labels : (cluster.jobRefs (corrections.map Prod.fst)).map Ref.label =
      corrections.map fun entry => "CronJob/" ++ entry.1.name := by
    rw [Cluster.jobRefs, List.map_map, List.map_map]
    exact List.map_congr_left fun entry _ => cluster.label_jobRef entry.1.name
  rw [labels, createdJobs]
  exact List.filter_sublist.map _

theorem patchedJobs_sublist (corrections : List (Job × Correction)) :
    ((patchedJobs corrections).map Prod.fst).Sublist ((corrections.map Prod.fst).map Job.name) := by
  rw [patchedJobs, List.map_map, List.map_map]
  exact List.filter_sublist.map _

theorem takes_buildUp (flawed : budget.flaw ≠ none → excuse)
    (prepared : cluster.Prepared settings inputs) :
    Takes excuse Step.failure (buildUp cluster settings inputs budget)
      (building cluster budget.backoff.pauseCount) (Outcome.Reports cluster) := by
  obtain ⟨files, credentials, jobs, loadsFiles, loadsCredentials, made⟩ := prepared
  have named := Cluster.namedJobs_of_jobs made
  rw [Takes, always_buildUp_loaded loadsFiles loadsCredentials, ← Takes]
  simp only [buildUp, Inputs.loadFiles, Inputs.loadCredentials,
    Cluster.desired_of_jobs made files credentials, Cluster.writeOnce_eq, Program.bind_eq,
    Program.pure_eq, Program.done_bind, Program.liftM_fault, Program.ofExcept]
  rw [building, ← Cluster.map_onceEntries cluster files credentials]
  refine (takes_createAll (Cluster.mayWant_once made files credentials)).bind
    (fun created _ reported => ?_) (words_mul (words_treatments cluster _) (words_status cluster _))
  obtain ⟨rfl, once⟩ := reported
  have treated := takes_reconcileJobs flawed (Cluster.mayWant_job made)
  rw [← named] at treated
  refine treated.bind (fun corrections _ reported => ?_) (words_status cluster _)
  obtain ⟨rfl, corrected⟩ := reported
  refine (takes_syncStatus flawed).bind_done fun written _ counted => ?_
  subst counted
  refine ⟨?_, ?_, ?_⟩
  · simp [Outcome.tally]
  · rw [Cluster.ownedRefs_eq, List.map_append]
    refine once.append ?_
    have listed := @createdJobs_sublist cluster corrections
    rwa [corrected, ← named] at listed
  · have listed := patchedJobs_sublist corrections
    rwa [corrected, Cluster.jobNames_of_jobs made] at listed

theorem always_buildUp_unprepared (unprepared : ¬ cluster.Prepared settings inputs) :
    (buildUp cluster settings inputs budget).Always LogLine.tellsChange fun result lines asked =>
      (∃ fault, result = .error fault) ∧ lines = [] ∧ asked = [] := by
  obtain ⟨loadedFiles, quietFiles⟩ := Program.quiet_loadFiles inputs
  obtain ⟨loadedCredentials, quietCredentials⟩ := Program.quiet_loadCredentials inputs
  rw [buildUp, Program.bind_eq, quietFiles.always_bind_iff
    (Program.silent_loadFiles LogLine.tellsChange_loading inputs)]
  cases loadedFiles with
  | error fault => exact ⟨⟨fault, rfl⟩, rfl, rfl⟩
  | ok files =>
      simp only [Program.bind_eq]
      rw [quietCredentials.always_bind_iff
        (Program.silent_loadCredentials LogLine.tellsChange_loading inputs)]
      cases loadedCredentials with
      | error fault => exact ⟨⟨fault, rfl⟩, rfl, rfl⟩
      | ok credentials =>
          cases made : cluster.desired settings files credentials with
          | error fault =>
              simp only [made, Program.liftM_fault, Program.ofExcept, Program.fail_bind]
              exact ⟨⟨fault, rfl⟩, rfl, rfl⟩
          | ok desired =>
              obtain ⟨jobs, madeJobs, -⟩ := Cluster.desired_eq_ok made
              exact absurd ⟨files, credentials, jobs, quietFiles, quietCredentials, madeJobs⟩ unprepared

/-- A pass takes the steps of its course. -/
theorem takes_reconcile (flawed : budget.flaw ≠ none → excuse)
    (unprepared : cluster.curation.mode = .enabled → ¬ cluster.Prepared settings inputs → excuse) :
    Takes excuse Step.failure (reconcile cluster settings inputs budget)
      (course cluster budget.backoff.pauseCount) (Outcome.Reports cluster) := by
  unfold reconcile course
  cases mode : cluster.curation.mode with
  | enabled =>
      by_cases prepared : cluster.Prepared settings inputs
      · exact takes_buildUp flawed prepared
      · refine Program.Always.mono (always_buildUp_unprepared prepared) ?_
        rintro result lines asked ⟨⟨fault, rfl⟩, rfl, rfl⟩
        exact ⟨[], .failed rfl rfl (.nil (words_building cluster _))
          (.upset (.inl (unprepared mode prepared)))⟩
  | disabled =>
      refine takes_removeCurator.bind_done fun count counted isCount => ?_
      exact ⟨isCount, List.nil_sublist _, List.nil_sublist _⟩
  | unknown =>
      simp only
      rw [Takes, Program.bind_eq, Program.always_bind, Program.always_note]
      exact takes_done ⟨rfl, List.nil_sublist _, List.nil_sublist _⟩

/-- Whatever it is given, a pass takes the steps of its course until it fails. -/
theorem takes_reconcile_anyway :
    Takes True Step.failure (reconcile cluster settings inputs budget)
      (course cluster budget.backoff.pauseCount) (Outcome.Reports cluster) :=
  takes_reconcile (fun _ => trivial) fun _ _ => trivial

/-- The first of at least one try is not counted among those left. -/
theorem Backoff.pauseCount_eq (backoff : Backoff) :
    backoff.pauseCount = (max 1 backoff.steps).toNat - 1 := by
  unfold pauseCount
  omega

end Passes

end CuratorKeeper
