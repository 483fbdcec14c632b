import CuratorKeeper.Proofs.Pass.LostUpdate
import CuratorKeeper.Proofs.Pass.Propagation
import CuratorKeeper.Proofs.Pass.Synced
import CuratorKeeper.Proofs.Program.Meddling

/-!
# Writes of others are overcome

Others may write a job or the object of a cluster while a pass works on it.
Whenever they do so between a reading and its update, the update is refused and
the pass reads again.  If they write no more often than there are pauses, one
of the tries is left alone and comes to its end.
-/

namespace CuratorKeeper

open Drift

/-- The store serves the call, and a resource of a good shape is there. -/
structure Served.Finds (watched : Ref) (shaped : Value → Prop) (served : Served) : Prop where
  faithful : served.Faithful
  found : ∃ live, served.before.find? watched = some live ∧ shaped live

theorem Served.Finds.reads {ref : Ref} {shaped : Value → Prop} {before after : Store}
    {answer : Except Fault Value} (plain : ref.Plain)
    (finds : Served.Finds ref shaped ⟨.get ref, ref, before, answer, after⟩) :
    ∃ live, before.find? ref = some live ∧ shaped live ∧ answer = .ok live ∧ after = before := by
  obtain ⟨faithful, live, held, isShaped⟩ := finds
  have found : before.find? ref = some live := held
  have served : before.serve ref (.get ref) = (answer, after) := faithful
  rw [Store.serve_get_some plain found] at served
  obtain ⟨rfl, rfl⟩ := Prod.mk.inj served
  exact ⟨live, found, isShaped, rfl, rfl⟩

/-- A changed copy of what was read takes its place, unless the resource has
changed since; then the copy is refused as a conflict. -/
theorem Served.Finds.copied {ref : Ref} {shaped : Value → Prop} {live copy new : Value}
    {part : Option String} {earlier before after : Store} {answer : Except Fault Value}
    (finds : Served.Finds ref shaped ⟨.update copy part, ref, before, answer, after⟩)
    (plain : ref.Plain) (sound : earlier.Sound) (soundNow : before.Sound)
    (evolves : earlier.Evolves before) (found : earlier.find? ref = some live)
    (same : copy.part? "metadata" = live.part? "metadata") (known : Ref.of copy = .ok ref)
    (makes : Store.updated live copy part = .ok new) (knownNew : Ref.of new = .ok ref) :
    before.find? ref = earlier.find? ref ∧ (∃ written, answer = .ok written ∧
        after.find? ref = some written ∧ written.unversioned = new.unversioned) ∨
      before.find? ref ≠ earlier.find? ref ∧
        ∃ fault, answer = .error (.store fault) ∧ fault.refusal = .conflict := by
  obtain ⟨faithful, now, held, -⟩ := finds
  have foundNow : before.find? ref = some now := held
  have served : before.serve ref (.update copy part) = (answer, after) := faithful
  obtain ⟨version, marked⟩ := sound.marked_of_found found
  obtain ⟨versionNow, markedNow⟩ := soundNow.marked_of_found foundNow
  have submits := Store.submittedVersion_of_marked marked same
  rw [found, foundNow]
  by_cases unchanged : now = live
  · subst unchanged
    obtain ⟨written, puts, content⟩ := Store.put_of_plain plain knownNew before
    rw [Store.serve_update_current plain foundNow marked submits makes, puts] at served
    obtain ⟨rfl, rfl⟩ := Prod.mk.inj served
    exact .inl ⟨rfl, written, rfl, Store.find?_keep_of_plain plain _ _ _, content⟩
  · -- Two contents of a resource are never under one version, so the copy is stale.
    have stale : versionNow ≠ version := by
      rintro rfl
      refine unchanged (evolves.eq_of_storedVersion sound found foundNow ?_).symm
      rw [marked, markedNow]
    have stands := soundNow.ref_of_found plain foundNow
    obtain ⟨other, makesNow, -⟩ := Store.exists_updated stands known part
    rw [Store.serve_update_stale plain foundNow markedNow submits makesNow stale] at served
    obtain ⟨rfl, rfl⟩ := Prod.mk.inj served
    exact .inr ⟨fun equal => unchanged (Option.some.inj equal), _, rfl, rfl⟩

namespace Program

variable {α σ : Type} {around : Surroundings} {store : Store} {watched : Ref}
  {wins : α → List Served → Prop} {good : Served → Prop}

/-- How a try ends before its conflict is told of: it comes to an end as it
should, or it is refused because the resource has changed. -/
def TryEnds (watched : Ref) (wins : α → List Served → Prop) : Goal (Attempt σ α)
  | .error (.store fault), history, _ =>
    fault.refusal = .conflict ∧ 0 < changesBetween watched history
  | result, history, store => TryWins watched wins result history store

theorem TryWins.ends {result : Except Fault (Attempt σ α)} {history : List Served}
    (won : TryWins watched wins result history store) :
    TryEnds watched wins result history store := by
  cases result with
  | ok attempt => exact won
  | error fault => exact absurd won id

theorem ensures_tried {past : List Served} {program : Program (Attempt σ α)} (next : σ)
    (ends : Ensures around (fun _ => True) program
      (provided good fun result later last => TryEnds watched wins result (past ++ later) last)
      store) :
    Ensures around (fun _ => True) (Attempt.ofProgram next program)
      (provided good fun result later last => TryWins watched wins result (past ++ later) last)
      store := by
  rw [ensures_ofProgram]
  refine ends.mono fun result later last ended => ?_
  cases result with
  | ok attempt => exact ended
  | error fault =>
      cases fault with
      | store refused =>
          simp only [tried]
          split
          · exact fun all => (ended all).2
          next other => exact fun all => other (ended all).1
      | _ => exact ended

end Program

def HasContainer (live : Value) : Prop := ∃ fields, live.at? containerPlace = some (.object fields)

/-- A call shows that a job does not drift: it read one without drift, or its
accepted update has left it without. -/
inductive Served.Synchronizes (desired : Value) : Served → Prop
  | found {ref : Ref} {store : Store} {live : Value} (held : store.find? ref = some live)
      (settled : Drift.between live desired = .ok {}) :
      Synchronizes desired ⟨.get ref, ref, store, .ok live, store⟩
  | made {ref : Ref} {before after : Store} {patched written : Value}
      (held : after.find? ref = some written)
      (settled : Drift.between written desired = .ok {}) :
      Synchronizes desired ⟨.update patched none, ref, before, .ok written, after⟩

namespace Program

variable {cluster : Cluster} {job : Job} {ref : Ref} {store : Store}

/-- The last of some calls is for the job and shows it without drift. -/
def EndsInSync (ref : Ref) (desired : Value) (history : List Served) : Prop :=
  ∃ early last, history = early ++ [last] ∧ last.ref = ref ∧ last.Synchronizes desired

/-- A try at a job that is there ends with the job in sync, or with a conflict
that a change between its two calls accounts for. -/
theorem ensures_correctDrift_contested (cluster : Cluster) (job : Job) (store : Store) :
    Ensures .disturbed (fun _ => True) (Attempt.settled <$> correctDrift (job.manifest cluster))
      (provided (Served.Finds (cluster.jobRef job.name) HasContainer)
        (@TryEnds _ Unit (cluster.jobRef job.name) fun _ history =>
          EndsInSync (cluster.jobRef job.name) (job.manifest cluster) history)) store := by
  have plain := cluster.plain_jobRef job.name
  rw [ensures_map]
  simp only [correctDrift, cluster.ref_manifest job, bind_eq, liftM_mismatch, Except.mapError,
    Program.ofExcept, done_bind]
  refine ensures_call_provided rfl fun before answer after sound _ finds => ?_
  obtain ⟨live, found, container, rfl, rfl⟩ := finds.reads plain
  have liveRef := sound.ref_of_found plain found
  have told := between_of_first (Ref.itemAt_name liveRef) container cluster job
  simp only
  rw [ensures_bind, ensures_findDrift, told]
  simp only [Except.mapError]
  cases drifts : (driftOf live job).isChange with
  | false =>
      simp only [Bool.false_eq_true, if_false]
      refine fun _ => ⟨[], _, rfl, rfl, .found found ?_⟩
      rw [told, eq_of_isChange_false drifts]
  | true =>
      obtain ⟨patched, applied⟩ := exists_apply_of_first container (driftOf live job)
      have patchedRef := Drift.ref_of_apply applied liveRef
      have sameMetadata : patched.part? "metadata" = live.part? "metadata" :=
        part?_apply_of_ne applied (by decide)
      have about : (Request.update patched none).ref = .ok (cluster.jobRef job.name) := patchedRef
      simp only [if_true, applied, done_bind, submitUpdate, bind_eq, bind_assoc]
      refine ensures_call_provided about fun second answer after soundNow evolves finds => ?_
      rcases finds.copied plain sound soundNow evolves found sameMetadata patchedRef rfl
        patchedRef with ⟨-, written, rfl, held, content⟩ | ⟨changed, fault, rfl, conflict⟩
      · have settled := between_apply (Ref.itemAt_name patchedRef) told applied
        refine fun _ => ⟨[_], _, rfl, rfl, .made held ?_⟩
        exact (ReadsAlike.of_unversioned content).between settled
      · simp only [conflict, if_true]
        exact fun _ => ⟨conflict, changesBetween_pos changed⟩

theorem ensures_ensureCreated_served {resource : Value} (plain : ref.Plain)
    (known : Ref.of resource = .ok ref) (store : Store) :
    Ensures .disturbed (fun _ => True) (ensureCreated resource) (fun result history _ =>
      ∃ creation, history = [creation] ∧
        (creation.Faithful → ∃ created, result = .ok created)) store := by
  have about : (Request.create resource).ref = .ok ref := known
  simp only [ensureCreated, known, bind_eq, liftM_mismatch, Except.mapError, Program.ofExcept,
    done_bind]
  rw [ensures_bind, ensures_catchStore, ensures_ask about]
  intro before answer after _ _ _
  refine ⟨trivial, ?_⟩
  cases answer with
  | ok value => exact ⟨_, rfl, fun _ => ⟨true, rfl⟩⟩
  | error fault =>
      have refused : Served.Faithful ⟨.create resource, ref, before, .error fault, after⟩ →
          ∃ refusal, fault = .store refusal ∧ refusal.refusal = .alreadyExists := by
        intro faithful
        have served : before.serve ref (.create resource) = (.error fault, after) := faithful
        cases found : before.find? ref with
        | some live =>
            rw [Store.serve_create_some plain found] at served
            exact ⟨_, (Except.error.inj (Prod.mk.inj served).1).symm, rfl⟩
        | none =>
            obtain ⟨written, puts, -⟩ := Store.put_of_plain plain known before
            rw [Store.serve_create_none plain found, puts] at served
            cases served
      cases fault with
      | store refusal =>
          simp only [caughtStore]
          split
          · exact ⟨_, rfl, fun _ => ⟨false, rfl⟩⟩
          next other =>
            refine ⟨_, rfl, fun faithful => ?_⟩
            obtain ⟨_, ⟨⟩, present⟩ := refused faithful
            exact absurd present other
      | _ =>
          refine ⟨_, rfl, fun faithful => ?_⟩
          obtain ⟨_, ⟨⟩, -⟩ := refused faithful

/-- Bringing a job into shape comes to its end if nobody meddles with it more
often than there are pauses once it is created. -/
def OvercomesJob (cluster : Cluster) (job : Job) (pauses : Nat) (result : Except Fault Correction) :
    List Served → Prop
  | [] => False
  | creation :: tries =>
    creation.Faithful →
      (∀ served ∈ tries, Served.Finds (cluster.jobRef job.name) HasContainer served) →
        changesBetween (cluster.jobRef job.name) tries ≤ pauses →
          (∃ correction, result = .ok correction) ∧
            EndsInSync (cluster.jobRef job.name) (job.manifest cluster) tries

theorem ensures_reconcileJob_contested (managed : cluster.isManaged = true) (job : Job)
    (backoff : Backoff) (store : Store) :
    Ensures .disturbed (fun _ => True) (reconcileJob cluster (job.manifest cluster) backoff)
      (fun result history _ => OvercomesJob cluster job backoff.pauseCount result history)
      store := by
  rw [reconcileJob, bind_eq, ensures_bind]
  refine (ensures_ensureCreated_served (cluster.plain_jobRef job.name) (cluster.ref_manifest job)
    store).mono fun result history middle made => ?_
  obtain ⟨creation, rfl, made⟩ := made
  cases result with
  | error fault =>
      intro faithful
      obtain ⟨_, ⟨⟩⟩ := made faithful
  | ok created =>
      simp only [managed, Bool.not_true, Bool.false_eq_true, if_false, bind_eq]
      rw [ensures_bind, ensures_attempt]
      refine Ensures.mono (ensures_retry_of_changes backoff (fun _ store =>
        @ensures_tried _ _ _ _ _ _ _ [] _ () (ensures_correctDrift_contested cluster job store)) ()
          middle) fun result tries last ended => ?_
      cases result with
      | ok drift =>
          intro _ finds few
          rw [List.append_nil] at finds few ⊢
          obtain ⟨_, early, late, -, rfl, more, call, rfl, inSync⟩ := ended finds few
          exact ⟨⟨_, rfl⟩, early ++ more, call, by simp, inSync⟩
      | error fault =>
          -- A loop that fails was meddled with too often, so it does not matter how it is told.
          have failed : ∀ other : Fault,
              OvercomesJob cluster job backoff.pauseCount (.error other) (creation :: tries) := by
            intro other _ finds few
            obtain ⟨_, _, _, ⟨⟩, -⟩ := ended finds few
          cases fault with
          | store refused =>
              simp only
              split
              · simpa [cluster.ref_manifest job, Except.mapError, ofExcept] using failed _
              · simpa using failed _
          | _ => simpa using failed _

end Program

/-- A job can be reported on: its specification is absent or an object with a text
for the schedule, and its status is blank or an object that tells no time, null or
a text. -/
structure ReportShaped (live : Value) : Prop where
  spec : ∀ spec, live.part? "spec" = some spec → ∃ fields, spec = .object fields
  schedule : ∀ value, live.at? schedulePlace = some value → ∃ text : String, value = .text text
  status : ((live.part? "status").getD .null).isBlank = true ∨
    ∃ fields, live.part? "status" = some (.object fields)
  lastTime : ∀ time, live.at? lastTimePlace = some time →
    time = .null ∨ ∃ text : String, time = .text text

theorem JobShaped.reportShaped {live : Value} (shaped : JobShaped live) : ReportShaped live where
  spec spec held := by
    obtain ⟨fields, heldSpec, -⟩ := shaped.spec
    exact ⟨fields, Option.some.inj (held.symm.trans heldSpec)⟩
  schedule value held := by
    obtain ⟨text, heldText⟩ := shaped.schedule
    exact ⟨text, Option.some.inj (held.symm.trans heldText)⟩
  status := shaped.status
  lastTime := shaped.lastTime

theorem ReportShaped.exists_reportOf {live : Value} (shaped : ReportShaped live)
    (isObject : ∃ fields, live = .object fields) (name : String) :
    ∃ report, reportOf name live = .ok report := by
  have hasSpec : ∃ spec, (live.part? "spec").getD (.object []) = .object spec := by
    cases held : live.part? "spec" with
    | none => exact ⟨[], rfl⟩
    | some spec => exact shaped.spec spec held
  obtain ⟨spec, isSpec⟩ := hasSpec
  have readSpec : live.fieldD "spec" (.object []) = .ok (.object spec) :=
    Value.fieldD_eq_ok.mpr ⟨isObject, isSpec⟩
  have hasSchedule : ∃ text : String, (live.at? schedulePlace).getD "" = .text text := by
    cases held : live.at? schedulePlace with
    | none => exact ⟨"", rfl⟩
    | some value => exact shaped.schedule value held
  obtain ⟨text, isText⟩ := hasSchedule
  have readSchedule : (Value.object spec).fieldD "schedule" "" = .ok (.text text) := by
    have read : (Value.object spec).fieldD "schedule" "" =
        .ok (((Value.object spec).part? "schedule").getD "") :=
      Value.fieldD_eq_ok.mpr ⟨⟨spec, rfl⟩, rfl⟩
    rw [read, ← specField_eq_ok readSpec read, ← isText, schedulePlace]
  obtain ⟨status, isStatus⟩ := orIfBlank_object shaped.status
  have readTime : (Value.object status).field "lastScheduleTime" =
      .ok ((live.at? lastTimePlace).getD .null) := by
    refine Value.field_eq_ok.mpr ⟨⟨status, rfl⟩, ?_⟩
    rw [← isStatus, Value.part?_orIfBlank, lastTimePlace, Value.at?_pair]
  have readable : (live.at? lastTimePlace).getD .null = .null ∨
      ∃ text : String, (live.at? lastTimePlace).getD .null = .text text := by
    cases held : live.at? lastTimePlace with
    | none => exact .inl rfl
    | some time => exact shaped.lastTime time held
  have checks : ∀ suspended : Bool, ∃ report,
      (JobReport.check (some (.text name)) (some (.text text)) (some (.bool suspended))
        (some ((live.at? lastTimePlace).getD .null))).orFault "CuratorStatus" = .ok report := by
    intro suspended
    obtain isNull | ⟨last, isLast⟩ := readable
    · rw [isNull]
      exact ⟨_, rfl⟩
    · rw [isLast]
      exact ⟨_, rfl⟩
  obtain ⟨report, checked⟩ :=
    checks !(((Value.object spec).part? "suspend").getD .null).isBlank
  refine ⟨report, reportOf_eq_ok_iff.mpr ⟨_, _, _, _, _, readSpec, readSchedule,
    Value.field_eq_ok.mpr ⟨⟨spec, rfl⟩, rfl⟩, Value.field_eq_ok.mpr ⟨isObject, rfl⟩, ?_, checked⟩⟩
  rw [isStatus]
  exact readTime

/-- The store serves the reading, and what it finds can be reported on. -/
structure Served.Readable (served : Served) : Prop where
  faithful : served.Faithful
  shaped : ∀ live, served.before.find? served.ref = some live → ReportShaped live

/-- A call shows that the object of a cluster holds a report, and whether it had
to be written: it read an object that holds the same one, or its accepted update
has put it in and has changed nothing else. -/
inductive Served.ShowsReport (derived : Value) : Bool → Served → Prop
  | found {owner : Ref} {store : Store} {object stored : Value}
      (held : store.find? owner = some object) (read : storedStatus object = .ok stored)
      (agrees : stored.same derived = true) :
      ShowsReport derived false ⟨.get owner, owner, store, .ok object, store⟩
  | made {owner : Ref} {before after : Store} {resource object written : Value}
      (was : before.find? owner = some object) (held : after.find? owner = some written)
      (read : storedStatus written = .ok derived)
      (others : Value.AgreesOff [statusPlace, Value.versionPlace] object written) :
      ShowsReport derived true
        ⟨.update resource (some "status"), owner, before, .ok written, after⟩

namespace Program

variable {cluster : Cluster} {owner ref : Ref} {derived : Value} {store : Store}

theorem ensures_reportJob_readable (plain : ref.Plain) (name : String) (store : Store) :
    Ensures .disturbed (fun _ => True) (reportJob ref name)
      (provided Served.Readable fun result _ _ => ∃ report, result = .ok report) store := by
  rw [reportJob, bind_eq]
  refine ensures_call_provided rfl fun before answer after sound _ readable => ?_
  obtain ⟨faithful, shaped⟩ := readable
  have served : before.serve ref (.get ref) = (answer, after) := faithful
  cases found : before.find? ref with
  | none =>
      rw [Store.serve_get_none plain found] at served
      obtain ⟨rfl, rfl⟩ := Prod.mk.inj served
      exact fun _ => ⟨none, rfl⟩
  | some live =>
      obtain ⟨version, marked⟩ := Store.Sound.marked_of_found sound found
      obtain ⟨report, made⟩ := (shaped live found).exists_reportOf marked.isObject name
      rw [Store.serve_get_some plain found] at served
      obtain ⟨rfl, rfl⟩ := Prod.mk.inj served
      simp only [bind_eq, liftM_fault, made]
      exact fun _ => ⟨some report, rfl⟩

theorem ensures_reportJobs_readable (space : String) (names : List String) (store : Store) :
    Ensures .disturbed (fun _ => True) (reportJobs space names)
      (provided Served.Readable fun result _ _ => ∃ reports, result = .ok reports) store := by
  induction names generalizing store with
  | nil => exact fun _ => ⟨[], rfl⟩
  | cons name rest ih =>
      have plain : Ref.Plain ⟨"CronJob", space, name⟩ := ⟨_, _, _, rfl⟩
      rw [reportJobs, bind_eq, ensures_bind]
      refine (ensures_reportJob_readable plain name store).mono
        fun result early middle first => ?_
      cases result with
      | error fault =>
          intro all
          obtain ⟨_, ⟨⟩⟩ := first all
      | ok report =>
          simp only [bind_eq]
          rw [ensures_bind]
          refine (ih middle).mono fun result late last further => ?_
          cases result with
          | error fault =>
              intro all
              obtain ⟨_, ⟨⟩⟩ := further fun served member => all served (by simp [member])
          | ok others => exact fun _ => ⟨_, rfl⟩

theorem ensures_reports (cluster : Cluster) (store : Store) :
    Ensures .disturbed (fun _ => True) (reports cluster)
      (fun result readings _ => readings.length ≤ cluster.jobNames.length ∧
        ((∀ reading ∈ readings, reading.Readable) → ∃ reports, result = .ok reports ∧
          readings.length = cluster.jobNames.length ∧
            statusOf reports = .list (entriesFrom cluster.jobNames readings))) store := by
  have told : Ensures .disturbed (fun _ => True) (reports cluster) _ store :=
    (@tells_iff_ensures _ LogLine.ofStatus _ _ _ _ _).mp
      ((tells_reportJobs cluster.space cluster.jobNames store).mono
        fun result _ readings _ told => told.2)
  refine (told.and (ensures_reportJobs_readable cluster.space cluster.jobNames store)).mono
    fun result readings _ both => ?_
  obtain ⟨⟨asked, told⟩, made⟩ := both
  refine ⟨by simpa using asked.length_le, fun readable => ?_⟩
  obtain ⟨reports, rfl⟩ := made readable
  obtain ⟨complete, -, entries⟩ := told reports rfl
  exact ⟨reports, rfl, complete, congrArg Value.list entries⟩

/-- The last of some calls is for the object of a cluster and shows the report. -/
def EndsReported (owner : Ref) (derived : Value) (written : Bool) (history : List Served) : Prop :=
  ∃ early last, history = early ++ [last] ∧ last.ref = owner ∧ last.ShowsReport derived written

theorem ensures_writeStatus_contested {object : Value} {reading : Served} (plain : owner.Plain)
    (sound : store.Sound) (found : store.find? owner = some object) (shaped : OwnerShaped object)
    (left : reading.after = store) :
    Ensures .disturbed (fun _ => True)
      (Attempt.settled <$> writeStatus object derived : Program (Attempt Bool Bool))
      (provided (Served.Finds owner OwnerShaped) fun result later last =>
        TryEnds owner (EndsReported owner derived) result ([reading] ++ later) last) store := by
  obtain ⟨version, marked⟩ := sound.marked_of_found found
  obtain ⟨updated, written⟩ := shaped.exists_withStatus marked.isObject derived
  have sameMetadata : updated.part? "metadata" = object.part? "metadata" :=
    part?_withStatus_of_ne written (by decide)
  have updatedRef := ref_of_withStatus written (sound.ref_of_found plain found)
  have about : (Request.update updated (some "status")).ref = .ok owner := updatedRef
  rw [ensures_map]
  simp only [writeStatus, written, bind_eq, liftM_mismatch, Except.mapError, Program.ofExcept,
    done_bind]
  rw [ensures_bind, ensures_ask about]
  intro before answer after soundNow evolves _
  refine ⟨trivial, ?_⟩
  have makes := (updated_withStatus written).1
  cases answer with
  | ok value =>
      intro all
      rcases (all _ List.mem_cons_self).copied plain sound soundNow evolves found sameMetadata
        updatedRef makes updatedRef with ⟨unchanged, _, ⟨⟩, held, content⟩ | ⟨-, _, ⟨⟩, -⟩
      have read : storedStatus value = .ok derived := by
        rw [storedStatus_congr (Value.field?_congr_of_ne content (by decide)),
          storedStatus_withStatus written]
      have others : Value.AgreesOff [statusPlace, Value.versionPlace] object value :=
        ((withStatus_eq_ok written).1.trans
          (Value.agreesOff_of_unversioned_eq content.symm)).mono (by simp)
      exact ⟨[reading], _, rfl, rfl, .made (unchanged.trans found) held read others⟩
  | error fault =>
      intro all
      rcases (all _ List.mem_cons_self).copied plain sound soundNow evolves found sameMetadata
        updatedRef makes updatedRef with ⟨-, _, ⟨⟩, -⟩ | ⟨changed, _, ⟨⟩, conflict⟩
      exact ⟨conflict, changesBetween_pos (left ▸ changed)⟩

/-- A try at an object that is there ends with the report in it, or with a conflict
that a change between its two calls accounts for. -/
theorem ensures_syncOnce_contested (plain : owner.Plain) (cluster : Cluster) (derived : Value)
    (pending : Bool) (store : Store) :
    Ensures .disturbed (fun _ => True) (syncOnce cluster owner derived pending)
      (provided (Served.Finds owner OwnerShaped) (TryWins owner (EndsReported owner derived)))
      store := by
  refine @ensures_tried _ _ _ _ _ _ _ [] _ pending ?_
  rw [bind_eq]
  refine ensures_call_provided rfl fun before answer after sound _ finds => ?_
  obtain ⟨object, found, shaped, rfl, rfl⟩ := finds.reads plain
  obtain ⟨version, marked⟩ := Store.Sound.marked_of_found sound found
  simp only [bind_eq, liftM_mismatch, shaped.storedStatus_eq marked.isObject, Except.mapError,
    Program.ofExcept, done_bind]
  cases agrees : (reportIn object).same derived with
  | true =>
      simp only [if_true]
      exact fun _ => ⟨[], _, rfl, rfl, .found found (shaped.storedStatus_eq marked.isObject) agrees⟩
  | false =>
      simp only [Bool.false_eq_true, if_false]
      have writing : Ensures .disturbed (fun _ => True)
          (Attempt.ofProgram false (.settled <$> writeStatus object derived))
          (provided (Served.Finds owner OwnerShaped) fun result later last =>
            TryEnds owner (EndsReported owner derived) result
              (⟨.get owner, owner, after, .ok object, after⟩ :: later) last) after :=
        (@ensures_tried _ _ _ _ _ _ _ [_] _ false
          (ensures_writeStatus_contested plain sound found shaped rfl)).mono
            fun result later last won all => (won all).ends
      cases pending with
      | true => exact writing
      | false => exact writing

/-- A report on jobs that can be read comes to the object of a cluster if nobody
meddles with that more often than there are pauses once the jobs are read. -/
def OvercomesOwner (cluster : Cluster) (owner : Ref) (pauses : Nat) (result : Except Fault Bool)
    (history : List Served) : Prop :=
  ∃ readings tries, history = readings ++ tries ∧
    readings.length ≤ cluster.jobNames.length ∧ ((∀ reading ∈ readings, reading.Readable) →
      readings.length = cluster.jobNames.length ∧
        ((∀ served ∈ tries, Served.Finds owner OwnerShaped served) →
          changesBetween owner tries ≤ pauses → ∃ written, result = .ok written ∧
            EndsReported owner (.list (entriesFrom cluster.jobNames readings)) written tries))

theorem ensures_syncStatus_contested (plain : owner.Plain) (cluster : Cluster) (backoff : Backoff)
    (store : Store) :
    Ensures .disturbed (fun _ => True) (syncStatus cluster owner backoff)
      (fun result history _ => OvercomesOwner cluster owner backoff.pauseCount result history)
      store := by
  rw [syncStatus, bind_eq, ensures_bind]
  refine (ensures_reports cluster store).mono fun result readings middle made => ?_
  obtain ⟨few, made⟩ := made
  cases result with
  | error fault =>
      refine ⟨readings, [], by simp, few, fun readable => ?_⟩
      obtain ⟨_, ⟨⟩, -⟩ := made readable
  | ok entries =>
      simp only [bind_eq]
      rw [ensures_bind, ensures_catchStore]
      refine Ensures.mono (ensures_retry_of_changes backoff
        (fun pending store => ensures_syncOnce_contested plain cluster (statusOf entries) pending
          store) true middle) fun result tries last ended => ?_
      have reached : ∀ other : Except Fault Bool, (∀ written, result = .ok written →
          other = .ok written) →
            OvercomesOwner cluster owner backoff.pauseCount other (readings ++ tries) := by
        intro other same
        refine ⟨readings, tries, rfl, few, fun readable => ?_⟩
        obtain ⟨_, ⟨⟩, complete, isDerived⟩ := made readable
        refine ⟨complete, fun finds rare => ?_⟩
        obtain ⟨written, early, late, isOk, rfl, more, call, rfl, shown⟩ := ended finds rare
        exact ⟨written, same written isOk, early ++ more, call, by simp, isDerived ▸ shown⟩
      cases result with
      | ok written => simpa [caughtStore] using reached (.ok written) fun _ same => same
      | error fault =>
          have raised (other : Fault) := reached (.error other) fun written isOk => by cases isOk
          cases fault with
          | store refused => simpa [caughtStore] using raised _
          | _ => exact raised _

end Program

/-- While a program runs, the store serves all its calls, and from some call on a
resource is there in a good shape; after that call others meddle with it no more
often than a limit. -/
structure Program.Contested {α : Type} (program : Program α) (world : World) (watched : Ref)
    (shaped : Value → Prop) (first : Nat) (limit : Int) : Prop where
  unfailing : ∀ served ∈ program.history world, served.Faithful
  present : ∀ served ∈ (program.history world).drop first,
    ∃ live, served.before.find? watched = some live ∧ shaped live
  rare : (((program.meddlings watched world).drop (first + 1)).sum : Int) ≤ limit

namespace Program.Contested

variable {α : Type} {program : Program α} {world : World} {watched : Ref} {shaped : Value → Prop}
  {first : Nat} {backoff : Backoff}

theorem finds (contested : program.Contested world watched shaped first (backoff.steps - 1)) :
    ∀ served ∈ (program.history world).drop first, served.Finds watched shaped :=
  fun served member => ⟨contested.unfailing served (List.mem_of_mem_drop member),
    contested.present served member⟩

theorem changes_le (contested : program.Contested world watched shaped first (backoff.steps - 1))
    (direct : world.gateway = none) :
    changesBetween watched ((program.history world).drop first) ≤ backoff.pauseCount := by
  have fewer := changesBetween_le_meddlings watched program direct first
  have rare := contested.rare
  rw [Backoff.pauseCount]
  omega

end Program.Contested

/-- However others write a job or the object of a cluster, if they do so no more
often than there are pauses after the first reading, a pass comes to its end: its
last call shows the job in sync, or the report in the object, and no update has
taken back what others wrote. -/
theorem interference_overcome (cluster : Cluster) (backoff : Backoff) (world : World)
    (direct : world.gateway = none) (reachable : world.store.Reachable) :
    (∀ job : Job, cluster.isManaged = true →
      let correcting := reconcileJob cluster (job.manifest cluster) backoff
      correcting.Contested world (cluster.jobRef job.name) HasContainer 1 (backoff.steps - 1) →
        (∃ correction, (correcting.run world).1 = .ok correction) ∧
          (∃ early last, correcting.history world = early ++ [last] ∧
            last.ref = cluster.jobRef job.name ∧ last.Synchronizes (job.manifest cluster)) ∧
          ∀ served ∈ correcting.history world,
            served.KeepsOthersWrites (job.manifest cluster)) ∧
      ∀ owner : Ref, owner.Plain →
        let syncing := syncStatus cluster owner backoff
        let readings := (syncing.history world).take cluster.jobNames.length
        syncing.Contested world owner OwnerShaped cluster.jobNames.length (backoff.steps - 1) →
          (∀ reading ∈ readings, ∀ live, reading.before.find? reading.ref = some live →
            ReportShaped live) →
            ∃ written, (syncing.run world).1 = .ok written ∧
              ∃ early last, syncing.history world = early ++ [last] ∧ last.ref = owner ∧
                last.ShowsReport (.list (entriesFrom cluster.jobNames readings)) written := by
  have covers := Surroundings.disturbed_covers (fun _ => True) direct
  constructor
  · intro job managed correcting contested
    have overcome := (Program.run_of_ensures covers reachable.sound
      (Program.ensures_reconcileJob_contested managed job backoff world.store)).2.2
    have finds := contested.finds
    have rare := contested.changes_le direct
    have kept : Program.Keeps .disturbed (Served.OfJob cluster (job.manifest cluster)) correcting :=
      Program.keeps_reconcileJob backoff
    have keeps : ∀ served ∈ correcting.history world,
        served.KeepsOthersWrites (job.manifest cluster) := by
      intro served member
      obtain ⟨sound, answered, ofJob⟩ := kept.history direct reachable.sound served member
      exact ofJob.keepsOthersWrites sound answered
    cases called : correcting.history world with
    | nil =>
        rw [called] at overcome
        exact absurd overcome id
    | cons creation tries =>
        rw [called] at overcome finds rare keeps
        have created := contested.unfailing creation (by rw [called]; exact List.mem_cons_self)
        obtain ⟨returned, early, last, rfl, isRef, inSync⟩ := overcome created finds rare
        exact ⟨returned, ⟨creation :: early, last, rfl, isRef, inSync⟩, keeps⟩
  · intro owner plain syncing readings contested shaped
    obtain ⟨before, tries, calls, few, overcome⟩ := (Program.run_of_ensures covers
      reachable.sound (Program.ensures_syncStatus_contested plain cluster backoff world.store)).2.2
    have called : syncing.history world = before ++ tries := calls
    have finds := contested.finds
    have rare := contested.changes_le direct
    have readable : ∀ reading ∈ before, reading.Readable := by
      intro reading member
      have early : before <+: readings :=
        List.prefix_take_iff.mpr ⟨called ▸ List.prefix_append before tries, few⟩
      refine ⟨contested.unfailing reading ?_, shaped reading (early.subset member)⟩
      rw [called]
      exact List.mem_append_left _ member
    obtain ⟨complete, ended⟩ := overcome readable
    have isBefore : readings = before := by
      simp only [readings, called]
      exact List.take_left' complete
    have isTries : (syncing.history world).drop cluster.jobNames.length = tries := by
      rw [called]
      exact List.drop_left' complete
    rw [isTries] at finds rare
    obtain ⟨written, isOk, early, last, rfl, isRef, shown⟩ := ended finds rare
    refine ⟨written, isOk, before ++ early, last, by rw [called, List.append_assoc], isRef, ?_⟩
    rw [isBefore]
    exact shown

/-- The job of the plain cluster as it is wanted, and as somebody else writes it. -/
def wantedJob : Job :=
  plainCluster.jobWith {} "30 3 * * *" "curator:new" ⟨"primary", "curator", "elasticsearch"⟩

def rivalJob : Job :=
  plainCluster.jobWith {} "5 5 * * *" "curator:old" ⟨"primary", "curator", "elasticsearch"⟩

def rivalOwner : Value :=
  .object
    [("kind", "ClusterLogging"),
      ("metadata", .object [("namespace", "logging"), ("name", "instance"), ("team", "ops")])]

/-- A world in which somebody writes the job and the object before the first update. -/
def rivalWorld : World where
  store := staleStore
  waiting verb :=
    if verb = .update then
      [[⟨.put (rivalJob.manifest plainCluster), none⟩, ⟨.put rivalOwner, none⟩]]
    else []

theorem succeeds_rivalWorld : ∀ verb, ∀ disturbances ∈ rivalWorld.waiting verb,
    ∀ (store : Store) called, (store.disturbAll called disturbances).1 = .ok () := by
  intro verb disturbances member store called
  have only : disturbances =
      [⟨.put (rivalJob.manifest plainCluster), none⟩, ⟨.put rivalOwner, none⟩] := by
    simp only [rivalWorld] at member
    split at member
    · exact List.mem_singleton.mp member
    · cases member
  obtain ⟨_, putsJob, -⟩ := Store.put_of_plain (plainCluster.plain_jobRef "curator")
    (plainCluster.ref_manifest rivalJob) store
  have known : Ref.of rivalOwner = .ok plainCluster.ref := rfl
  obtain ⟨_, putsOwner, -⟩ := Store.put_of_plain plainCluster.plain_ref known
    (store.put (rivalJob.manifest plainCluster)).2
  rw [putsJob] at putsOwner
  simp [only, Store.disturbAll, Store.disturb, putsJob, putsOwner, Except.map]

/-- With two tries and one write between the reading and the first update, the job
and the report are written by the second try. -/
theorem rival_interference_overcome :
    let correcting := reconcileJob plainCluster (wantedJob.manifest plainCluster)
      ({ steps := 2 } : Backoff)
    let syncing := syncStatus plainCluster plainCluster.ref ({ steps := 2 } : Backoff)
    (correcting.history rivalWorld).map (fun served => (served.request.verb, served.answer.isOk)) =
        [(.create, false), (.get, true), (.update, false), (.get, true), (.update, true)] ∧
      (syncing.history rivalWorld).map (fun served => (served.request.verb, served.answer.isOk)) =
        [(.get, true), (.get, true), (.update, false), (.get, true), (.update, true)] ∧
      (∃ correction, (correcting.run rivalWorld).1 = .ok correction) ∧
      (∃ early last, correcting.history rivalWorld = early ++ [last] ∧
        last.ref = plainCluster.jobRef "curator" ∧
          last.Synchronizes (wantedJob.manifest plainCluster)) ∧
      ∃ written, (syncing.run rivalWorld).1 = .ok written ∧
        ∃ early last, syncing.history rivalWorld = early ++ [last] ∧
          last.ref = plainCluster.ref ∧ last.ShowsReport
            (.list (entriesFrom plainCluster.jobNames ((syncing.history rivalWorld).take 1)))
            written := by
  intro correcting syncing
  obtain ⟨ofJob, ofOwner⟩ := interference_overcome plainCluster { steps := 2 } rivalWorld rfl
    reachable_staleStore
  have jobs : correcting.Contested rivalWorld (plainCluster.jobRef "curator") HasContainer 1 1 := by
    refine ⟨Program.faithful_history _ rfl succeeds_rivalWorld, ?_, by decide +kernel⟩
    have held : ∀ served ∈ (correcting.history rivalWorld).drop 1,
        (served.before.find? (plainCluster.jobRef "curator")).map Value.unversioned =
            some (staleJob.manifest plainCluster).unversioned ∨
          (served.before.find? (plainCluster.jobRef "curator")).map Value.unversioned =
            some (rivalJob.manifest plainCluster).unversioned := by decide +kernel
    intro served member
    rcases held served member with same | same
    all_goals
      obtain ⟨live, found, content⟩ := Option.map_eq_some_iff.mp same
      exact ⟨live, found, ((shaped_manifest plainCluster _).congr content).container⟩
  have owners : syncing.Contested rivalWorld plainCluster.ref OwnerShaped 1 1 := by
    refine ⟨Program.faithful_history _ rfl succeeds_rivalWorld, ?_, by decide +kernel⟩
    have held : ∀ served ∈ (syncing.history rivalWorld).drop 1,
        (served.before.find? plainCluster.ref).map Value.unversioned =
            some plainOwner.unversioned ∨
          (served.before.find? plainCluster.ref).map Value.unversioned =
            some rivalOwner.unversioned := by decide +kernel
    intro served member
    rcases held served member with same | same
    all_goals
      obtain ⟨live, found, content⟩ := Option.map_eq_some_iff.mp same
      exact ⟨live, found, OwnerShaped.congr ⟨.inl rfl, .inl rfl⟩ content⟩
  have readable : ∀ reading ∈ (syncing.history rivalWorld).take 1, ∀ live,
      reading.before.find? reading.ref = some live → ReportShaped live := by
    have held : ∀ reading ∈ (syncing.history rivalWorld).take 1,
        (reading.before.find? reading.ref).map Value.unversioned =
          some (staleJob.manifest plainCluster).unversioned := by decide +kernel
    intro reading member live found
    have same := held reading member
    rw [found, Option.map_some, Option.some.injEq] at same
    exact ((shaped_manifest plainCluster _).congr same).reportShaped
  obtain ⟨returned, inSync, -⟩ := ofJob wantedJob rfl jobs
  refine ⟨by decide +kernel, by decide +kernel, returned, inSync, ?_⟩
  exact ofOwner plainCluster.ref plainCluster.plain_ref owners readable

end CuratorKeeper
