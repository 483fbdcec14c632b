import CuratorKeeper.Pass.Status
import CuratorKeeper.Proofs.Program.Keeps
import CuratorKeeper.Proofs.Store.Service

/-!
# The calls of a status report

A report is put into the object of a cluster at one place of its status, where
every blank part on the way becomes an object.  The object that is submitted is
the one that was read, with nothing else changed.
-/

namespace CuratorKeeper

def statusPlace : List Key := ["status", "curation", "curatorStatus"]

theorem storedStatus_eq_ok {object stored : Value} (read : storedStatus object = .ok stored) :
    (object.at? statusPlace).getD .null = stored := by
  obtain ⟨status, readStatus, read⟩ := except_bind_eq_ok.mp read
  obtain ⟨curation, readCuration, read⟩ := except_bind_eq_ok.mp read
  have isStatus := (Value.field_eq_ok.mp readStatus).2
  have isCuration := (Value.field_eq_ok.mp readCuration).2
  have isStored := (Value.field_eq_ok.mp read).2
  rw [Value.part?_orIfBlank] at isCuration isStored
  rw [← isStored, ← isCuration, ← isStatus, statusPlace, Value.at?_cons]
  cases object.part? "status" with
  | none => rfl
  | some status =>
      rw [Option.bind_some, Value.at?_cons, Option.getD_some]
      cases status.part? "curation" with
      | none => rfl
      | some curation => rw [Option.bind_some, Value.at?_singleton, Option.getD_some]

theorem withStatus_eq_ok {object derived updated : Value}
    (written : withStatus object derived = .ok updated) :
    Value.AgreesOff [statusPlace] object updated ∧ updated.at? statusPlace = some derived := by
  obtain ⟨status, readStatus, written⟩ := except_bind_eq_ok.mp written
  obtain ⟨curation, readCuration, written⟩ := except_bind_eq_ok.mp written
  obtain ⟨newCuration, assignReport, written⟩ := except_bind_eq_ok.mp written
  obtain ⟨newStatus, assignCuration, assignStatus⟩ := except_bind_eq_ok.mp written
  have isStatus := (Value.field_eq_ok.mp readStatus).2
  have isCuration := (Value.field_eq_ok.mp readCuration).2
  constructor
  · apply Value.agreesOff_assign_below assignStatus
    rw [isStatus]
    apply Value.agreesOff_assign_below assignCuration
    rw [isCuration]
    exact Value.agreesOff_assign assignReport
  · rw [statusPlace, Value.at?_cons, Value.part?_assign_self assignStatus, Option.bind_some,
      Value.at?_cons, Value.part?_assign_self assignCuration, Option.bind_some,
      Value.at?_singleton, Value.part?_assign_self assignReport]

theorem part?_withStatus_of_ne {object derived updated : Value}
    (written : withStatus object derived = .ok updated) {key : Key} (different : key ≠ "status") :
    updated.part? key = object.part? key := by
  rw [← Value.at?_singleton, ← Value.at?_singleton]
  refine ((withStatus_eq_ok written).1 [key] fun place member => ?_).symm
  rw [List.mem_singleton] at member
  subst member
  exact (apart_cons_cons _ _ _ _).mpr (.inl different.symm)

theorem ref_of_withStatus {object derived updated : Value} {ref : Ref}
    (written : withStatus object derived = .ok updated) (known : Ref.of object = .ok ref) :
    Ref.of updated = .ok ref :=
  Ref.of_congr known (part?_withStatus_of_ne written (by decide))
    (part?_withStatus_of_ne written (by decide))

theorem same_statusEntry (report : JobReport) :
    report.statusEntry.same report.statusEntry = true := by
  obtain ⟨cronJobs, schedules, suspended, lastScheduleTime⟩ := report
  have truth : (Value.bool suspended).same (.bool suspended) = true := by
    cases suspended <;> decide
  have texts : ∀ text : String, (Value.text text).same (.text text) = true := fun text =>
    (Value.text_same_iff text _).mpr rfl
  cases lastScheduleTime with
  | none =>
      change (true && ((Value.text cronJobs).same (.text cronJobs) &&
        ((Value.text schedules).same (.text schedules) &&
          ((Value.bool suspended).same (.bool suspended) && true)))) = true
      rw [texts, texts, truth]
      rfl
  | some time =>
      change (true && ((Value.text cronJobs).same (.text cronJobs) &&
        ((Value.text schedules).same (.text schedules) &&
          ((Value.bool suspended).same (.bool suspended) &&
            ((Value.text time).same (.text time) && true))))) = true
      rw [texts, texts, texts, truth]
      rfl

theorem same_statusOf (reports : List JobReport) :
    (statusOf reports).same (statusOf reports) = true := by
  have items : Value.sameItems (reports.map JobReport.statusEntry)
      (reports.map JobReport.statusEntry) = true := by
    induction reports with
    | nil => rfl
    | cons report rest ih =>
        rw [List.map_cons, Value.sameItems, same_statusEntry, ih, Bool.and_self]
  rw [statusOf, Value.same]
  exact items

/-- The status of an object and the curation inside it are blank or objects. -/
structure OwnerShaped (object : Value) : Prop where
  status : ((object.part? "status").getD .null).isBlank = true ∨
    ∃ fields, object.part? "status" = some (.object fields)
  curation : ((object.at? ["status", "curation"]).getD .null).isBlank = true ∨
    ∃ fields, object.at? ["status", "curation"] = some (.object fields)

/-- The report that is held at the place of reports, null if there is none. -/
def reportIn (object : Value) : Value := (object.at? statusPlace).getD .null

theorem orIfBlank_object {held : Option Value}
    (shaped : (held.getD .null).isBlank = true ∨ ∃ fields, held = some (.object fields)) :
    ∃ fields, (held.getD .null).orIfBlank (.object []) = .object fields := by
  unfold Value.orIfBlank
  split
  next => exact ⟨[], rfl⟩
  next full =>
    obtain ⟨fields, rfl⟩ := shaped.resolve_left full
    exact ⟨fields, rfl⟩

namespace OwnerShaped

variable {object derived : Value}

/-- On the way to the report there are objects, or blanks that become objects. -/
theorem readings (shaped : OwnerShaped object) (isObject : ∃ fields, object = .object fields) :
    ∃ found status inner curation, object.field "status" = .ok found ∧
      found.orIfBlank (.object []) = .object status ∧
      (Value.object status).field "curation" = .ok inner ∧
      inner.orIfBlank (.object []) = .object curation := by
  obtain ⟨status, isStatus⟩ := orIfBlank_object shaped.status
  have inStatus : (Value.object status).part? "curation" =
      object.at? ["status", "curation"] := by
    rw [← isStatus, Value.part?_orIfBlank, Value.at?_cons]
    cases object.part? "status" with
    | none => rfl
    | some status => rw [Option.bind_some, Value.at?_singleton, Option.getD_some]
  obtain ⟨curation, isCuration⟩ := orIfBlank_object shaped.curation
  rw [← inStatus] at isCuration
  exact ⟨_, status, _, curation, Value.field_eq_ok.mpr ⟨isObject, rfl⟩, isStatus,
    Value.field_eq_ok.mpr ⟨⟨status, rfl⟩, rfl⟩, isCuration⟩

theorem storedStatus_eq (shaped : OwnerShaped object)
    (isObject : ∃ fields, object = .object fields) :
    storedStatus object = .ok (reportIn object) := by
  obtain ⟨found, status, inner, curation, readStatus, isStatus, readCuration, isCuration⟩ :=
    shaped.readings isObject
  have read : storedStatus object = .ok (((Value.object curation).part? "curatorStatus").getD .null) :=
    except_bind_eq_ok.mpr ⟨found, readStatus, except_bind_eq_ok.mpr ⟨inner, by rw [isStatus, readCuration],
      by rw [isCuration]; exact Value.field_eq_ok.mpr ⟨⟨curation, rfl⟩, rfl⟩⟩⟩
  rw [read, reportIn, storedStatus_eq_ok read]

theorem exists_withStatus (shaped : OwnerShaped object)
    (isObject : ∃ fields, object = .object fields) (derived : Value) :
    ∃ updated, withStatus object derived = .ok updated := by
  obtain ⟨found, status, inner, curation, readStatus, isStatus, readCuration, isCuration⟩ :=
    shaped.readings isObject
  obtain ⟨fields, rfl⟩ := isObject
  simp [withStatus, readStatus, isStatus, readCuration, isCuration, Value.assign, bind, Except.bind]

theorem congr {other : Value} (shaped : OwnerShaped object)
    (same : other.unversioned = object.unversioned) : OwnerShaped other := by
  constructor
  · rw [Value.part?_congr_of_ne same (by decide)]
    exact shaped.status
  · rw [Value.at?_congr_of_ne same (by decide)]
    exact shaped.curation

end OwnerShaped

theorem reportIn_congr {object other : Value} (same : other.unversioned = object.unversioned) :
    reportIn other = reportIn object := by
  rw [reportIn, reportIn, statusPlace, Value.at?_congr_of_ne same (by decide)]

theorem reportIn_withStatus {object derived updated : Value}
    (written : withStatus object derived = .ok updated) : reportIn updated = derived := by
  rw [reportIn, (withStatus_eq_ok written).2, Option.getD_some]

/-- The last step of putting in a report is to put in a status with a curation. -/
theorem withStatus_last {object derived updated : Value}
    (written : withStatus object derived = .ok updated) :
    ∃ status curation, object.assign "status" (.object status) = .ok updated ∧
      (Value.object status).part? "curation" = some (.object curation) := by
  obtain ⟨oldStatus, -, written⟩ := except_bind_eq_ok.mp written
  obtain ⟨oldCuration, -, written⟩ := except_bind_eq_ok.mp written
  obtain ⟨curation, assignReport, written⟩ := except_bind_eq_ok.mp written
  obtain ⟨status, assignCuration, assignStatus⟩ := except_bind_eq_ok.mp written
  have inStatus := Value.part?_assign_self assignCuration
  obtain ⟨_, _, rfl⟩ := Value.assign_eq_ok.mp assignReport
  obtain ⟨_, _, rfl⟩ := Value.assign_eq_ok.mp assignCuration
  exact ⟨_, _, assignStatus, inStatus⟩

theorem shaped_withStatus {object derived updated : Value}
    (written : withStatus object derived = .ok updated) : OwnerShaped updated := by
  obtain ⟨status, curation, assigned, inStatus⟩ := withStatus_last written
  have held := Value.part?_assign_self assigned
  constructor
  · exact .inr ⟨status, held⟩
  · refine .inr ⟨curation, ?_⟩
    rw [Value.at?_cons, held, Option.bind_some, Value.at?_singleton, inStatus]

/-- What the store takes for the status of an object with another report is all
that was put in. -/
theorem updated_withStatus {object derived updated : Value}
    (written : withStatus object derived = .ok updated) :
    Store.updated object updated (some "status") = .ok updated ∧
      ∀ fields, ∃ other, Store.updated (.object fields) updated (some "status") = .ok other := by
  obtain ⟨status, curation, assigned, -⟩ := withStatus_last written
  obtain ⟨fields, rfl, isUpdated⟩ := Value.assign_eq_ok.mp assigned
  have submitted : updated.field "status" = .ok (.object status) := by
    refine Value.field_eq_ok.mpr ⟨⟨_, isUpdated⟩, ?_⟩
    rw [Value.part?_assign_self assigned, Option.getD_some]
  simp only [Store.updated, if_true, submitted, bind, Except.bind]
  exact ⟨assigned, fun fields => ⟨_, rfl⟩⟩

/-- An object with a derived report, which is left alone if it holds the same. -/
def ownerFrom (derived object : Value) : Value :=
  if (reportIn object).same derived = true then object
  else (withStatus object derived).toOption.getD object

theorem withStatus_ownerFrom {object derived : Value} (shaped : OwnerShaped object)
    (isObject : ∃ fields, object = .object fields) :
    if (reportIn object).same derived = true then ownerFrom derived object = object
    else withStatus object derived = .ok (ownerFrom derived object) := by
  obtain ⟨updated, written⟩ := shaped.exists_withStatus isObject derived
  unfold ownerFrom
  simp only [written, Except.toOption, Option.getD_some]
  split <;> rfl

end CuratorKeeper
