import CuratorKeeper.Proofs.Job.Reading
import CuratorKeeper.Proofs.Pass.Undisturbed

/-!
# What becomes of a status report

The jobs of a cluster are read once, and the report on them is brought into the
object of the cluster by tries that each read the object again.  Others may
write in between, and the store may fail at any call.  At most one update is
accepted; it meets the very object that was read, and changes its report alone.
-/

namespace CuratorKeeper

def LogLine.ofStatus (line : LogLine) : Bool := decide (line.component = .status)

def Cluster.statusNotice (cluster : Cluster) : LogLine :=
  ⟨.info, .status, "Updating status of Curator for " ++ cluster.label⟩

namespace Served

def ToldAbsent (served : Served) : Prop :=
  ∃ fault, served.answer = .error (.store fault) ∧ fault.refusal = .notFound

def submits (served : Served) : Bool := decide (served.request.verb = .update)

/-- There is nothing to update: the object is gone, or it holds the report. -/
def LeavesReport (served : Served) (derived : Value) : Prop :=
  served.ToldAbsent ∨ ∃ object, served.answer = .ok object ∧ (reportIn object).same derived = true

/-- The update found the object that was read still stored, and left it with
another report and another version, the same in all else. -/
def WroteReport (owner : Ref) (derived : Value) (reading update : Served) : Prop :=
  ∃ object written, reading.request = .get owner ∧ reading.answer = .ok object ∧
    Ref.of object = .ok update.ref ∧ (owner.Plain → update.ref = owner) ∧
    update.before.find? update.ref = some object ∧
    update.after.find? update.ref = some written ∧
    Value.AgreesOff [statusPlace, Value.versionPlace] object written ∧
    written.at? statusPlace = some derived

end Served

/-- What the status tells of the jobs that were found, in order. -/
def entriesFrom (names : List String) (readings : List Served) : List Value :=
  (names.zip readings).filterMap fun (name, reading) =>
    reading.answer.toOption.map (entryOf name)

namespace Program

theorem tells_reportJob (ref : Ref) (name : String) (store : Store) :
    Tells LogLine.ofStatus .disturbed (fun _ => True) (reportJob ref name)
      (fun result lines history _ => lines = [] ∧ ∃ reading, history = [reading] ∧
        reading.request = .get ref ∧ ∀ report, result = .ok report →
          (reading.Accepted ∨ reading.ToldAbsent) ∧
            report.toList.map JobReport.statusEntry =
              (reading.answer.toOption.map (entryOf name)).toList) store := by
  rw [reportJob, bind_eq, tells_bind, tells_catchStore, tells_ask rfl]
  intro before answer after _ _ _
  refine ⟨trivial, ?_⟩
  cases answer with
  | ok live =>
      simp only [toldCaught]
      rw [bind_eq, tells_bind, liftM_fault, tells_ofExcept]
      cases made : reportOf name live with
      | error fault => exact ⟨rfl, _, rfl, rfl, by rintro report ⟨⟩⟩
      | ok report =>
          refine ⟨rfl, _, rfl, rfl, ?_⟩
          rintro _ ⟨⟩
          exact ⟨.inl ⟨live, rfl⟩, congrArg (fun entry => [entry]) (statusEntry_eq made)⟩
  | error fault =>
      cases fault with
      | store refused =>
          simp only [toldCaught]
          by_cases absent : refused.refusal = .notFound
          · simp only [absent, if_true]
            refine ⟨rfl, _, rfl, rfl, ?_⟩
            rintro _ ⟨⟩
            exact ⟨.inr ⟨refused, rfl, absent⟩, rfl⟩
          · simp only [absent, if_false]
            exact ⟨rfl, _, rfl, rfl, by rintro report ⟨⟩⟩
      | _ => exact ⟨rfl, _, rfl, rfl, by rintro report ⟨⟩⟩

/-- The jobs are read in order, each once, as far as the store tells of them. -/
theorem tells_reportJobs (space : String) (names : List String) (store : Store) :
    Tells LogLine.ofStatus .disturbed (fun _ => True) (reportJobs space names)
      (fun result lines history _ => lines = [] ∧
        history.map Served.request <+: names.map (fun name : String =>
          .get ⟨"CronJob", space, name⟩) ∧
        ∀ reports, result = .ok reports →
          history.length = names.length ∧
            (∀ reading ∈ history, reading.Accepted ∨ reading.ToldAbsent) ∧
            reports.map JobReport.statusEntry = entriesFrom names history) store := by
  induction names generalizing store with
  | nil =>
      refine ⟨rfl, List.nil_prefix, ?_⟩
      rintro _ ⟨⟩
      exact ⟨rfl, by simp, rfl⟩
  | cons name rest ih =>
      rw [reportJobs, bind_eq, tells_bind]
      apply (tells_reportJob _ name store).mono
      rintro result lines history after ⟨rfl, reading, rfl, asked, told⟩
      cases result with
      | error fault => exact ⟨rfl, by simp [asked], by rintro reports ⟨⟩⟩
      | ok report =>
          obtain ⟨answered, entry⟩ := told report rfl
          simp only [bind_eq]
          rw [tells_bind]
          apply (ih after).mono
          rintro result lines history last ⟨rfl, further, others⟩
          have inOrder : (reading :: history).map Served.request <+:
              (name :: rest).map fun name : String => .get ⟨"CronJob", space, name⟩ := by
            simpa [asked] using further
          cases result with
          | error fault => exact ⟨rfl, inOrder, by rintro reports ⟨⟩⟩
          | ok reports =>
              obtain ⟨complete, allAnswered, entries⟩ := others reports rfl
              refine ⟨rfl, by simpa using inOrder, ?_⟩
              rintro _ ⟨⟩
              refine ⟨by simp [complete], by simpa [answered] using allAnswered, ?_⟩
              rw [List.map_append, entry, entries]
              cases told : reading.answer.toOption <;> simp [entriesFrom, told]

end Program

/-- A try is not settled: a conflict makes it stale, and then it hands over
whether the notice is still to be given; any other fault is a failure. -/
inductive Unsettled (pending : Bool) : Except Fault (Attempt Bool Bool) → Prop
  | stale (conflict : StoreFault) : Unsettled pending (.ok (.stale conflict pending))
  | failed {fault : Fault} (other : fault.refusal? ≠ some .conflict) :
      Unsettled pending (.error fault)

/-- How a try to bring a report into the object of a cluster can go: nothing has
to be done, the object cannot be read, the update is refused, or it is accepted.
The notice is given before the first update. -/
inductive StatusTry (cluster : Cluster) (owner : Ref) (derived : Value) (pending : Bool) :
    Except Fault (Attempt Bool Bool) → List LogLine → List Served → Prop
  | spared {reading : Served} (reads : reading.request = .get owner)
      (leaves : reading.LeavesReport derived) :
      StatusTry cluster owner derived pending (.ok (.settled false)) [] [reading]
  | unread {reading : Served} {result : Except Fault (Attempt Bool Bool)}
      (reads : reading.request = .get owner) (unsettled : Unsettled pending result) :
      StatusTry cluster owner derived pending result [] [reading]
  | refused {reading update : Served} {result : Except Fault (Attempt Bool Bool)} {resource : Value}
      (reads : reading.request = .get owner)
      (updates : update.request = .update resource (some "status"))
      (refused : update.wrote = false) (unsettled : Unsettled false result) :
      StatusTry cluster owner derived pending result
        (if pending then [cluster.statusNotice] else []) [reading, update]
  | written {reading update : Served} {resource : Value} (reads : reading.request = .get owner)
      (updates : update.request = .update resource (some "status")) (accepted : update.wrote = true)
      (writes : Served.WroteReport owner derived reading update) :
      StatusTry cluster owner derived pending (.ok (.settled true))
        (if pending then [cluster.statusNotice] else []) [reading, update]

namespace Program

theorem toldTried_error {pending : Bool} {goal : ToldGoal (Attempt Bool Bool)}
    {lines : List LogLine} {history : List Served} {store : Store}
    (unsettled : ∀ result, Unsettled pending result → goal result lines history store)
    (fault : Fault) : toldTried pending goal (.error fault) lines history store := by
  cases fault with
  | store refused =>
      by_cases stale : refused.refusal = .conflict
      · simpa only [toldTried, stale, if_true] using unsettled _ (.stale refused)
      · simpa only [toldTried, stale, if_false] using
          unsettled (.error (.store refused)) (.failed (by simpa [Fault.refusal?] using stale))
  | _ => exact unsettled _ (.failed (by simp [Fault.refusal?]))

/-- A try inside another one leaves no conflict to it. -/
theorem toldTried_of_unsettled {pending given : Bool} {goal : ToldGoal (Attempt Bool Bool)}
    {result : Except Fault (Attempt Bool Bool)} {lines : List LogLine} {history : List Served}
    {store : Store} (unsettled : Unsettled given result) (reached : goal result lines history store) :
    toldTried pending goal result lines history store := by
  cases unsettled with
  | stale conflict => exact reached
  | @failed fault other =>
      cases fault with
      | store refused =>
          have noConflict : refused.refusal ≠ .conflict := by simpa [Fault.refusal?] using other
          simpa only [toldTried, noConflict, if_false] using reached
      | _ => exact reached

theorem wroteReport_of_accepted {owner own : Ref} {object derived updated value : Value}
    {reading : Served} {earlier before after : Store} (sound : earlier.Sound)
    (soundNow : before.Sound) (evolves : earlier.Evolves before)
    (reads : reading.request = .get owner) (answer : reading.answer = .ok object)
    (found : earlier.find? owner = some object) (written : withStatus object derived = .ok updated)
    (about : Ref.of updated = .ok own)
    (served : before.serve own (.update updated (some "status")) = (.ok value, after)) :
    Served.WroteReport owner derived reading
      ⟨.update updated (some "status"), own, before, .ok value, after⟩ := by
  have sameMetadata : updated.part? "metadata" = object.part? "metadata" :=
    part?_withStatus_of_ne written (by decide)
  have sameKind : updated.part? "kind" = object.part? "kind" :=
    part?_withStatus_of_ne written (by decide)
  have objectRef : Ref.of object = .ok own := Ref.of_congr about sameMetadata.symm sameKind.symm
  -- The version was left in place, so what is stored now is what was read.
  have stored : before.find? own = some object :=
    Store.eq_of_update_accepted sound soundNow evolves found sameMetadata served
  obtain ⟨old, _, _, new, held, -, -, isNew, -, put⟩ := Store.serve_update_eq_ok served
  obtain rfl : old = object := Option.some.inj (held.symm.trans stored)
  obtain rfl : updated = new := Except.ok.inj ((updated_withStatus written).1.symm.trans isNew)
  obtain ⟨content, rfl⟩ := Store.put_of_known about put
  obtain ⟨agrees, holds⟩ := withStatus_eq_ok written
  have marks := Value.agreesOff_of_unversioned_eq content.symm
  refine ⟨old, value, reads, answer, objectRef, fun plain => ?_, stored,
    Store.find?_keep_of_some stored value _, (agrees.trans marks).mono (by simp), ?_⟩
  · have underOwner := sound.ref_of_found plain found
    exact Except.ok.inj (objectRef.symm.trans underOwner)
  · rw [statusPlace, Value.at?_congr_of_ne content (by decide)]
    exact holds

theorem tells_submitReport {owner : Ref} {object derived stored : Value} {reading : Served}
    {earlier : Store} (sound : earlier.Sound) (reads : reading.request = .get owner)
    (answer : reading.answer = .ok object) (found : earlier.find? owner = some object)
    (read : storedStatus object = .ok stored) :
    Tells LogLine.ofStatus .disturbed (fun _ => True)
      (Attempt.ofProgram false (.settled <$> writeStatus object derived))
      (fun result lines history _ => lines = [] ∧ ∃ update resource, history = [update] ∧
        update.request = .update resource (some "status") ∧
        (update.wrote = false ∧ Unsettled false result ∨
          result = .ok (.settled true) ∧ update.wrote = true ∧
            Served.WroteReport owner derived reading update))
      earlier := by
  obtain ⟨entry, member, -, isObject⟩ := Store.find?_eq_some found
  obtain ⟨own, known, -⟩ := sound.kept entry member
  rw [isObject] at known
  obtain ⟨version, marked⟩ := sound.marked_of_found found
  obtain ⟨updated, written⟩ :=
    (ownerShaped_of_storedStatus read).exists_withStatus marked.isObject derived
  have about : (Request.update updated (some "status")).ref = .ok own :=
    ref_of_withStatus written known
  rw [tells_ofProgram, tells_map, writeStatus, bind_eq, tells_bind, liftM_mismatch, tells_ofExcept,
    written]
  simp only [Except.mapError]
  rw [bind_eq, tells_bind, tells_ask about]
  intro before answered after soundNow evolves faithful
  refine ⟨trivial, ?_⟩
  cases answered with
  | ok value =>
      have served : before.serve own (.update updated (some "status")) = (.ok value, after) :=
        Served.Accepted.faithful ⟨value, rfl⟩ faithful
      have writes := wroteReport_of_accepted sound soundNow evolves reads answer found written about
        served
      exact ⟨rfl, _, updated, rfl, rfl, .inr ⟨rfl, rfl, writes⟩⟩
  | error fault =>
      refine toldTried_error (fun result unsettled => ?_) fault
      exact ⟨rfl, _, updated, rfl, rfl, .inl ⟨rfl, unsettled⟩⟩

theorem tells_syncOnce (cluster : Cluster) (owner : Ref) (derived : Value) (pending : Bool)
    (store : Store) :
    Tells LogLine.ofStatus .disturbed (fun _ => True) (syncOnce cluster owner derived pending)
      (fun result lines history _ => StatusTry cluster owner derived pending result lines history)
      store := by
  rw [syncOnce, tells_ofProgram, bind_eq, tells_bind, tells_catchStore, tells_ask rfl]
  intro before answer after sound _ answered
  refine ⟨trivial, ?_⟩
  have unread : ∀ fault : Fault, toldTried pending
      (fun result lines history _ => StatusTry cluster owner derived pending result lines history)
      (.error fault) [] [⟨.get owner, owner, before, answer, after⟩] after :=
    toldTried_error fun result unsettled => .unread rfl unsettled
  cases answer with
  | error fault =>
      cases fault with
      | store refused =>
          simp only [toldCaught]
          by_cases absent : refused.refusal = .notFound
          · simp only [absent, if_true]
            exact .spared rfl (.inl ⟨refused, rfl, absent⟩)
          · simp only [absent, if_false]
            exact unread (.store refused)
      | _ =>
          simp only [toldCaught]
          exact unread _
  | ok object =>
      have served : before.serve owner (.get owner) = (.ok object, after) :=
        Served.Accepted.faithful ⟨object, rfl⟩ answered
      obtain ⟨found, rfl⟩ := Store.serve_get_eq_ok served
      simp only [toldCaught]
      rw [bind_eq, tells_bind, liftM_mismatch, tells_ofExcept]
      cases read : storedStatus object with
      | error mismatch => exact unread (.mismatch mismatch)
      | ok stored =>
          have holds : reportIn object = stored := storedStatus_eq_ok read
          simp only [Except.mapError]
          by_cases same : stored.same derived = true
          · simp only [same, if_true]
            refine .spared rfl (.inr ⟨object, rfl, ?_⟩)
            rw [holds, same]
          · rw [if_neg same]
            have reads : (Served.mk (.get owner) owner after (.ok object) after).request =
                .get owner := rfl
            have submitting : Tells LogLine.ofStatus .disturbed (fun _ => True)
                (Attempt.ofProgram false (.settled <$> writeStatus object derived))
                (fun result lines history last => toldTried pending
                  (fun result lines history _ =>
                    StatusTry cluster owner derived pending result lines history) result
                  ((if pending then [cluster.statusNotice] else []) ++ lines)
                  (⟨.get owner, owner, after, .ok object, after⟩ :: history) last) after := by
              apply (tells_submitReport sound reads rfl found read).mono
              rintro result lines history last
                ⟨rfl, update, resource, rfl, updates, ⟨refused, unsettled⟩ | ⟨rfl, accepted, writes⟩⟩
              · rw [List.append_nil]
                exact toldTried_of_unsettled unsettled (.refused rfl updates refused unsettled)
              · rw [List.append_nil]
                exact .written rfl updates accepted writes
            cases pending with
            | false => exact submitting
            | true =>
                simp only [if_true]
                rw [bind_eq, tells_bind, tells_note]
                exact submitting

end Program

/-- The tries read the object of a cluster and update its status, and the notice
is given once if anything is submitted. -/
structure StatusCalls (cluster : Cluster) (owner : Ref) (notices : List LogLine)
    (tries : List Served) : Prop where
  calls : ∀ served ∈ tries, served.request = .get owner ∨
    ∃ resource, served.request = .update resource (some "status")
  noticed : notices = if tries.any Served.submits then [cluster.statusNotice] else []

/-- The tries so far have written nothing; the notice is still to be given if
nothing was submitted. -/
structure StillTrying (cluster : Cluster) (owner : Ref) (pending : Bool) (notices : List LogLine)
    (tries : List Served) : Prop extends StatusCalls cluster owner notices tries where
  unwritten : tries.countP Served.wrote = 0
  isPending : pending = !tries.any Served.submits

structure StatusTries (cluster : Cluster) (owner : Ref) (derived : Value)
    (result : Except Fault Bool) (notices : List LogLine) (tries : List Served) : Prop
    extends StatusCalls cluster owner notices tries where
  /-- One update is accepted if the result is true, else none is. -/
  once : tries.countP Served.wrote = if result = .ok true then 1 else 0
  written : ∀ update ∈ tries, update.wrote = true →
    ∃ reading ∈ tries, Served.WroteReport owner derived reading update
  /-- The last reading of the object shows why nothing was to be written. -/
  spared : result = .ok false → ∃ reading, tries.getLast? = some reading ∧
    reading.request = .get owner ∧ reading.LeavesReport derived

section Tries

variable {cluster : Cluster} {owner : Ref} {derived : Value} {pending : Bool}
  {result : Except Fault (Attempt Bool Bool)} {notices lines : List LogLine}
  {tries more : List Served}

theorem Served.wrote_of_reads {served : Served} {ref : Ref} (reads : served.request = .get ref) :
    served.wrote = false := by
  rw [Served.wrote, reads]
  rfl

namespace StatusTry

theorem submits_iff (made : StatusTry cluster owner derived pending result lines more) :
    lines = if more.any Served.submits && pending then [cluster.statusNotice] else [] := by
  cases made with
  | spared reads leaves => simp [Served.submits, reads, Request.verb]
  | unread reads unsettled => simp [Served.submits, reads, Request.verb]
  | refused reads updates refused unsettled => simp [Served.submits, reads, updates, Request.verb]
  | written reads updates accepted writes => simp [Served.submits, reads, updates, Request.verb]

theorem calls (made : StatusTry cluster owner derived pending result lines more) :
    ∀ served ∈ more, served.request = .get owner ∨
      ∃ resource, served.request = .update resource (some "status") := by
  cases made with
  | spared reads leaves => simp [reads]
  | unread reads unsettled => simp [reads]
  | refused reads updates refused unsettled => simp [reads, updates]
  | written reads updates accepted writes => simp [reads, updates]

theorem unwritten (made : StatusTry cluster owner derived pending result lines more)
    (otherwise : result ≠ .ok (.settled true)) : more.countP Served.wrote = 0 := by
  cases made with
  | spared reads leaves => simp [Served.wrote_of_reads reads]
  | unread reads unsettled => simp [Served.wrote_of_reads reads]
  | refused reads updates refused unsettled => simp [Served.wrote_of_reads reads, refused]
  | written reads updates accepted writes => exact absurd rfl otherwise

end StatusTry

theorem StillTrying.start : StillTrying cluster owner true [] [] where
  calls := by simp
  noticed := rfl
  unwritten := rfl
  isPending := rfl

/-- A further try makes calls of the same kinds, and gives the notice if it is
the first one to submit anything. -/
theorem StillTrying.further (trying : StillTrying cluster owner pending notices tries)
    (made : StatusTry cluster owner derived pending result lines more) :
    StatusCalls cluster owner (notices ++ lines) (tries ++ more) where
  calls served member := by
    rcases List.mem_append.mp member with old | new
    · exact trying.calls served old
    · exact made.calls served new
  noticed := by
    rw [trying.noticed, made.submits_iff, trying.isPending, List.any_append]
    cases tries.any Served.submits <;> cases more.any Served.submits <;> rfl

theorem StillTrying.again {conflict : StoreFault} {next : Bool}
    (trying : StillTrying cluster owner pending notices tries)
    (made : StatusTry cluster owner derived pending (.ok (.stale conflict next)) lines more) :
    StillTrying cluster owner next (notices ++ lines) (tries ++ more) where
  toStatusCalls := trying.further made
  unwritten := by
    rw [List.countP_append, trying.unwritten, made.unwritten (by simp)]
  isPending := by
    rw [List.any_append]
    cases made with
    | unread reads unsettled =>
        cases unsettled
        simp [Served.submits, reads, Request.verb, trying.isPending]
    | refused reads updates refused unsettled =>
        cases unsettled
        simp [Served.submits, updates, Request.verb]

theorem StatusCalls.failed (calls : StatusCalls cluster owner notices tries)
    (unwritten : tries.countP Served.wrote = 0) (fault : Fault) :
    StatusTries cluster owner derived (.error fault) notices tries where
  toStatusCalls := calls
  once := unwritten
  written update member wrote := absurd wrote (List.countP_eq_zero.mp unwritten update member)
  spared isOk := by cases isOk

/-- The try that settles is the only one that may have written. -/
theorem StillTrying.settled {value : Bool} (trying : StillTrying cluster owner pending notices tries)
    (made : StatusTry cluster owner derived pending (.ok (.settled value)) lines more) :
    StatusTries cluster owner derived (.ok value) (notices ++ lines) (tries ++ more) := by
  have calls := trying.further made
  have before : ∀ update ∈ tries, ¬ update.wrote = true :=
    List.countP_eq_zero.mp trying.unwritten
  cases made with
  | @spared reading reads leaves =>
      have silent := Served.wrote_of_reads reads
      refine ⟨calls, ?_, ?_, fun _ => ⟨reading, by simp, reads, leaves⟩⟩
      · simp [List.countP_append, trying.unwritten, silent]
      · intro update member wrote
        rcases List.mem_append.mp member with old | new
        · exact absurd wrote (before update old)
        · rw [List.mem_singleton.mp new, silent] at wrote
          cases wrote
  | unread reads unsettled => cases unsettled
  | refused reads updates refused unsettled => cases unsettled
  | @written reading update resource reads updates accepted writes =>
      have silent := Served.wrote_of_reads reads
      refine ⟨calls, ?_, ?_, by rintro ⟨⟩⟩
      · simp [List.countP_append, trying.unwritten, silent, accepted]
      · intro other member wrote
        rcases List.mem_append.mp member with old | new
        · exact absurd wrote (before other old)
        · rcases List.mem_cons.mp new with rfl | last
          · rw [silent] at wrote
            cases wrote
          · rw [List.mem_singleton.mp last]
            exact ⟨reading, by simp, writes⟩

end Tries

/-- What a status report makes of a store: the jobs are read in order, and once
all of them are told of, the report on them is brought into the object. -/
structure Propagates (cluster : Cluster) (owner : Ref) (result : Except Fault Bool)
    (notices : List LogLine) (readings tries : List Served) : Prop
    extends StatusTries cluster owner (.list (entriesFrom cluster.jobNames readings)) result notices
      tries where
  asked : readings.map Served.request <+:
    cluster.jobNames.map fun name => .get (cluster.jobRef name)
  complete : tries ≠ [] → readings.length = cluster.jobNames.length ∧
    ∀ reading ∈ readings, reading.Accepted ∨ reading.ToldAbsent

namespace Program

theorem tells_retry_syncOnce (cluster : Cluster) (owner : Ref) (derived : Value) (budget : Budget)
    (store : Store) :
    Tells LogLine.ofStatus .disturbed (fun _ => True)
      (retry budget (syncOnce cluster owner derived) true)
      (fun result lines history _ => StatusTries cluster owner derived result lines history)
      store := by
  have boring : ∀ level text, LogLine.ofStatus ⟨level, .retry, text⟩ = false := fun _ _ => rfl
  refine @tells_retryFrom _ _ _ _ _ boring budget (syncOnce cluster owner derived)
    (fun result lines history _ => StatusTries cluster owner derived result lines history)
    (fun _ pending lines past _ => StillTrying cluster owner pending lines past) ?_ _ _ _ true [] []
    store .start
  intro left pending lines past store trying
  apply (tells_syncOnce cluster owner derived pending store).mono
  intro result told more after made
  cases result with
  | error fault =>
      refine (trying.further made).failed ?_ fault
      rw [List.countP_append, trying.unwritten, made.unwritten (by simp)]
  | ok outcome =>
      cases outcome with
      | settled value => exact trying.settled made
      | stale conflict next =>
          have again := trying.again made
          have failed : ∀ fault, StatusTries cluster owner derived (.error fault) (lines ++ told)
              (past ++ more) := again.failed again.unwritten
          exact ⟨fun _ => failed _, fun _ => failed _, fun _ _ => again⟩

theorem tells_syncStatus (cluster : Cluster) (owner : Ref) (budget : Budget) (store : Store) :
    Tells LogLine.ofStatus .disturbed (fun _ => True) (syncStatus cluster owner budget)
      (fun result notices history _ => ∃ readings tries, history = readings ++ tries ∧
        Propagates cluster owner result notices readings tries) store := by
  rw [syncStatus, reports, bind_eq, tells_bind]
  apply (tells_reportJobs cluster.space cluster.jobNames store).mono
  rintro result lines readings after ⟨rfl, asked, told⟩
  cases result with
  | error fault =>
      have calls : StatusCalls cluster owner [] [] := StillTrying.start.toStatusCalls
      exact ⟨readings, [], by simp, calls.failed rfl fault, asked, by simp⟩
  | ok reports =>
      obtain ⟨complete, answered, entries⟩ := told reports rfl
      have derived : statusOf reports = .list (entriesFrom cluster.jobNames readings) :=
        congrArg Value.list entries
      have propagates : ∀ {result notices tries},
          StatusTries cluster owner (statusOf reports) result notices tries →
            Propagates cluster owner result notices readings tries :=
        fun made => ⟨derived ▸ made, asked, fun _ => ⟨complete, answered⟩⟩
      simp only [bind_eq]
      rw [tells_bind, tells_catchStore]
      apply (tells_retry_syncOnce cluster owner (statusOf reports) budget after).mono
      intro result notices tries last made
      have failed : ∀ fault told, result = .error fault →
          Propagates cluster owner (.error told) notices readings tries := by
        rintro fault told rfl
        exact propagates (made.toStatusCalls.failed made.once told)
      cases result with
      | ok written => exact ⟨readings, tries, by simp, by simpa using propagates made⟩
      | error fault =>
          cases fault with
          | store refused => exact ⟨readings, tries, by simp, by simpa using failed _ _ rfl⟩
          | _ => exact ⟨readings, tries, rfl, failed _ _ rfl⟩

end Program

/-- However others write into a store and wherever it fails, a status report is
brought into the object of a cluster by one accepted update or by none, and the
result tells which. -/
theorem syncStatus_propagates (cluster : Cluster) (owner : Ref) (budget : Budget) (world : World)
    (direct : world.gateway = none) (reachable : world.store.Reachable) :
    ∃ readings tries notices,
      (syncStatus cluster owner budget).history world = readings ++ tries ∧
        ((syncStatus cluster owner budget).run world).2.journal.lines.filter LogLine.ofStatus =
          world.journal.lines.filter LogLine.ofStatus ++ notices ∧
        Propagates cluster owner ((syncStatus cluster owner budget).run world).1 notices readings
          tries := by
  obtain ⟨notices, lines, readings, tries, calls, propagates⟩ :=
    Program.run_of_tells (Surroundings.disturbed_covers _ direct) reachable.sound
      (Program.tells_syncStatus cluster owner budget world.store)
  exact ⟨readings, tries, notices, calls, lines, propagates⟩

/-- A world in which somebody writes the object again, with a field of their
own, before its first update. -/
def contestedOwnerWorld : World where
  store := staleStore
  waiting verb :=
    if verb = .update then
      [[⟨.put (.object
        [("kind", "ClusterLogging"),
          ("metadata", .object
            [("namespace", "logging"), ("name", "instance"), ("team", "ops")])]), none⟩]]
    else []

/-- The first update is refused; the second one is accepted, and the notice was
given by the first. -/
theorem contested_syncStatus_propagates :
    ((syncStatus plainCluster plainCluster.ref {}).history contestedOwnerWorld).map
        (fun served => (served.request.verb, served.answer.isOk)) =
      [(.get, true), (.get, true), (.update, false), (.get, true), (.update, true)] ∧
    ∃ readings tries notices,
      (syncStatus plainCluster plainCluster.ref {}).history contestedOwnerWorld =
          readings ++ tries ∧
        ((syncStatus plainCluster plainCluster.ref {}).run
            contestedOwnerWorld).2.journal.lines.filter LogLine.ofStatus =
          contestedOwnerWorld.journal.lines.filter LogLine.ofStatus ++ notices ∧
        Propagates plainCluster plainCluster.ref
          ((syncStatus plainCluster plainCluster.ref {}).run contestedOwnerWorld).1 notices readings
          tries :=
  ⟨by decide +kernel,
    syncStatus_propagates plainCluster plainCluster.ref {} contestedOwnerWorld rfl
      reachable_staleStore⟩

end CuratorKeeper
