import CuratorKeeper.Cluster.Checked

/-! # Reports on jobs

What is observed of one job and put into the status of the cluster.
-/
namespace CuratorKeeper

/-- The observed state of one job. -/
structure JobReport where
  cronJobs : String
  schedules : String
  suspended : Bool
  lastScheduleTime : Option String
  deriving DecidableEq

namespace JobReport

def check (cronJobs schedules suspended lastScheduleTime : Option Value) : Checked JobReport :=
  JobReport.mk
    <$> Checked.required "cronJobs" (Checked.text "cronJobs") cronJobs
    <*> Checked.required "schedules" (Checked.text "schedules") schedules
    <*> Checked.withDefault false (Checked.truth "suspended") suspended
    <*> Checked.withDefault none (Checked.nullable (Checked.text "lastScheduleTime"))
      lastScheduleTime

def ofFields (fields : Fields) : Checked JobReport :=
  check (fields.get? "cronJobs") (fields.get? "schedules") (fields.get? "suspended")
    (fields.get? "lastScheduleTime")

def toValue (report : JobReport) : Value :=
  .object
    [("cronJobs", report.cronJobs), ("schedules", report.schedules),
      ("suspended", report.suspended),
      ("lastScheduleTime", (report.lastScheduleTime.map Value.text).getD .null)]

/-- The report as it stands in the status: a time that is not known is left out. -/
def statusEntry (report : JobReport) : Value :=
  let stated : Fields :=
    [("cronJobs", report.cronJobs), ("schedules", report.schedules),
      ("suspended", report.suspended)]
  .object (stated ++
    Value.fieldIfSome "lastScheduleTime" (report.lastScheduleTime.map Value.text))

end JobReport
end CuratorKeeper
