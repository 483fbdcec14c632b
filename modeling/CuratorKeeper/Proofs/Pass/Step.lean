import CuratorKeeper.Pass.Reconcile
import CuratorKeeper.Proofs.Job.Shape
import CuratorKeeper.Proofs.Pass.Status
import CuratorKeeper.Proofs.Program.Always

/-!
# The steps of a pass

Each call of a pass has its place there, which decides which refusals the pass
goes on after and how it tells of the others.  A call together with its place
and its answer is a step, and what a pass reports is told by its steps.
-/

namespace CuratorKeeper

open Drift

/-- Where in a pass a call is made.  The calls of a loop know how many tries are
left after theirs, and an update knows the object that it was made from. -/
inductive Site
  | creation
  /-- A job is read to find its drift. -/
  | jobReading
  | correction (left : Nat) (live : Value)
  /-- A job is read to report on it. -/
  | reportReading
  | ownerReading (left : Nat)
  | ownerUpdate (left : Nat) (object : Value)
  | deletion

namespace Site

def operation : Site → String
  | .creation => "creating"
  | .jobReading => "getting"
  | .correction _ _ => "updating"
  | .reportReading => "getting status of"
  | .ownerReading _ | .ownerUpdate _ _ => "updating status of"
  | .deletion => "deleting"

/-- The pass goes on after a refusal: what is to be created is there, what is to be
read or deleted is not, or a conflict has tries left after it. -/
def absorbs (site : Site) (refusal : Refusal) : Bool :=
  match site with
  | .creation => refusal = .alreadyExists
  | .jobReading | .reportReading | .deletion => refusal = .notFound
  | .correction left _ | .ownerUpdate left _ => refusal = .conflict && 0 < left
  | .ownerReading left => refusal = .notFound || refusal = .conflict && 0 < left

/-- The object that is changed by an update here. -/
def source? : Site → Option Value
  | .correction _ live => some live
  | .ownerUpdate _ object => some object
  | _ => none

end Site

/-- A call of a pass, with its place there, the resource it is about and its answer. -/
structure Step extends Asked where
  site : Site
  ref : Ref

namespace Step

/-- Whatever error answers the step, the pass goes on after it. -/
def Passes (step : Step) : Prop :=
  ∀ fault, step.answer = .error fault →
    ∃ refused, fault = .store refused ∧ step.site.absorbs refused.refusal = true

def failure (step : Step) (refused : StoreFault) : Fault :=
  refused.during step.site.operation step.ref

/-- The step is answered as a store with resources of good shape does: errors are
refusals, and what is read is of good shape. -/
def Regular (step : Step) : Prop :=
  (∀ fault, step.answer = .error fault → ∃ refused, fault = .store refused) ∧
    ∀ resource, step.answer = .ok resource →
      match step.site with
      | .jobReading | .reportReading => JobShaped resource ∧ Ref.of resource = .ok step.ref
      | .ownerReading _ => OwnerShaped resource ∧ ∃ fields, resource = .object fields
      | _ => True

theorem passes_of_ok {step : Step} {value : Value} (answer : step.answer = .ok value) :
    step.Passes := by
  intro fault failed
  rw [answer] at failed
  cases failed

theorem passes_of_absorbed {step : Step} {refused : StoreFault}
    (answer : step.answer = .error (.store refused))
    (absorbs : step.site.absorbs refused.refusal = true) : step.Passes := by
  intro fault failed
  rw [answer] at failed
  exact ⟨refused, (Except.error.inj failed).symm, absorbs⟩

theorem irregular_of_error {step : Step} {fault : Fault} (answer : step.answer = .error fault)
    (other : ∀ refused, fault ≠ .store refused) : ¬ step.Regular := by
  intro regular
  obtain ⟨refused, same⟩ := regular.1 fault answer
  exact other refused same

end Step

/-- How steps end, and with what result: all were gone on after and something is
returned, or the last one was not and the result shows its refusal.  If an answer
was irregular, or for another excuse, any fault can be the result. -/
inductive Ended {α : Type} (excuse : Prop) (shows : Step → StoreFault → Fault) (steps : List Step) :
    Except Fault α → Prop
  | returned {value : α} (passed : ∀ step ∈ steps, step.Passes) :
      Ended excuse shows steps (.ok value)
  | stopped {earlier : List Step} {last : Step} {refused : StoreFault}
      (isLast : steps = earlier ++ [last]) (passed : ∀ step ∈ earlier, step.Passes)
      (answer : last.answer = .error (.store refused))
      (fatal : last.site.absorbs refused.refusal = false) :
      Ended excuse shows steps (.error (shows last refused))
  | upset {fault : Fault} (blame : excuse ∨ ∃ step ∈ steps, ¬ step.Regular) :
      Ended excuse shows steps (.error fault)

namespace Ended

variable {α β : Type} {excuse : Prop} {shows : Step → StoreFault → Fault} {steps more : List Step}
  {result : Except Fault α} {fault : Fault} {step : Step}

theorem append (passed : ∀ step ∈ steps, step.Passes) (ended : Ended excuse shows more result) :
    Ended excuse shows (steps ++ more) result := by
  cases ended with
  | returned others =>
      refine .returned fun step member => ?_
      exact (List.mem_append.mp member).elim (passed step) (others step)
  | @stopped earlier last refused isLast others answer fatal =>
      have isLast' : steps ++ more = (steps ++ earlier) ++ [last] := by
        rw [isLast, List.append_assoc]
      refine .stopped isLast' (fun step member => ?_) answer fatal
      exact (List.mem_append.mp member).elim (passed step) (others step)
  | upset blame =>
      refine .upset (blame.imp_right fun ⟨step, member, irregular⟩ => ?_)
      exact ⟨step, List.mem_append_right _ member, irregular⟩

theorem error (ended : Ended excuse shows steps (.error fault : Except Fault α)) :
    Ended excuse shows steps (.error fault : Except Fault β) := by
  cases ended with
  | stopped isLast passed answer fatal => exact .stopped isLast passed answer fatal
  | upset blame => exact .upset blame

theorem single {refused : StoreFault} (answer : step.answer = .error (.store refused))
    (fatal : step.site.absorbs refused.refusal = false) :
    Ended excuse shows [step] (.error (shows step refused) : Except Fault α) :=
  .stopped (List.nil_append [step]).symm (by simp) answer fatal

/-- One step whose answer is irregular. -/
theorem upset_single (irregular : ¬ step.Regular) :
    Ended excuse shows [step] (.error fault : Except Fault α) :=
  .upset (.inr ⟨step, List.mem_singleton_self step, irregular⟩)

theorem passed {value : α} (ended : Ended excuse shows steps (.ok value)) :
    ∀ step ∈ steps, step.Passes := by
  cases ended with
  | returned passed => exact passed

end Ended

def watched : List (String × List Key) :=
  [("image", imagePlace), ("schedule", schedulePlace), ("suspend", suspendPlace)]

/-- The names of the watched places at which two resources differ. -/
def changedNames (held new : Option Value) : List String :=
  (watched.filter fun place =>
    held.bind (fun live => live.at? place.2) ≠ new.bind fun live => live.at? place.2).map Prod.fst

/-- What accepted calls come to. -/
structure Tally where
  created : List String := []
  patched : List (String × List String) := []
  written : Nat := 0
  deleted : Nat := 0

instance : Add Tally where
  add first second :=
    { created := first.created ++ second.created
      patched := first.patched ++ second.patched
      written := first.written + second.written
      deleted := first.deleted + second.deleted }

@[simp]
theorem Tally.mk_add_mk (created others : List String) (patched more : List (String × List String))
    (written deleted writtenMore deletedMore : Nat) :
    Tally.mk created patched written deleted + ⟨others, more, writtenMore, deletedMore⟩ =
      ⟨created ++ others, patched ++ more, written + writtenMore, deleted + deletedMore⟩ := rfl

theorem Tally.empty_add (counted : Tally) : {} + counted = counted := by
  rw [Tally.mk_add_mk, List.nil_append, List.nil_append, Nat.zero_add, Nat.zero_add]

namespace Step

def created (step : Step) : List String :=
  match step.site, step.answer with
  | .creation, .ok _ => [step.ref.label]
  | _, _ => []

/-- The job that the step changed, with the places that it changed. -/
def patched (step : Step) : List (String × List String) :=
  match step.site, step.request, step.answer with
  | .correction _ live, .update new _, .ok _ =>
    [(step.ref.name.display, changedNames (some live) (some new))]
  | _, _, _ => []

def wroteStatus (step : Step) : Bool :=
  match step.site, step.answer with
  | .ownerUpdate _ _, .ok _ => true
  | _, _ => false

def deleted (step : Step) : Bool :=
  match step.site, step.answer with
  | .deletion, .ok _ => true
  | _, _ => false

end Step

/-- What the accepted calls of some steps come to. -/
def tally (steps : List Step) : Tally where
  created := steps.flatMap Step.created
  patched := steps.flatMap Step.patched
  written := steps.countP Step.wroteStatus
  deleted := steps.countP Step.deleted

theorem tally_append (steps more : List Step) : tally (steps ++ more) = tally steps + tally more := by
  simp [tally]

def Ref.createdLine (ref : Ref) : LogLine := ⟨.info, .creator, ref.display ++ " created"⟩

def Ref.deletedLine (ref : Ref) : LogLine := ⟨.info, .teardown, ref.display ++ " deleted"⟩

/-- The line tells of a creation or of a deletion. -/
def LogLine.tellsChange (line : LogLine) : Bool :=
  line.level = .info &&
    (line.component = .creator && " created".toList.isSuffixOf line.text.toList ||
      line.component = .teardown && " deleted".toList.isSuffixOf line.text.toList)

def Step.lines (step : Step) : List LogLine :=
  match step.site, step.answer with
  | .creation, .ok _ => [step.ref.createdLine]
  | .deletion, .ok _ => [step.ref.deletedLine]
  | _, _ => []

/-- A refused step changes nothing and tells of no change. -/
theorem Step.of_error {step : Step} {fault : Fault} (answer : step.answer = .error fault) :
    tally [step] = {} ∧ step.lines = [] := by
  obtain ⟨⟨request, _⟩, site, ref⟩ := step
  cases answer
  cases site <;> cases request <;> exact ⟨rfl, rfl⟩

theorem Ref.told_createdLine (ref : Ref) :
    (Effect.note ref.createdLine).told LogLine.tellsChange = [ref.createdLine] := by
  simp [Effect.told, createdLine, LogLine.tellsChange]

theorem Ref.told_deletedLine (ref : Ref) :
    (Effect.note ref.deletedLine).told LogLine.tellsChange = [ref.deletedLine] := by
  simp [Effect.told, deletedLine, LogLine.tellsChange]

theorem LogLine.tellsChange_loading (level : Level) (text : String) :
    LogLine.tellsChange ⟨level, .desiredState, text⟩ = false := by
  simp [tellsChange]

theorem LogLine.tellsChange_unmanaged (label : String) :
    LogLine.tellsChange
      ⟨.info, .teardown, label ++ " is Unmanaged, leaving curator resources as-is"⟩ = false := by
  have apart : ¬ " deleted".toList <:+
      (label ++ " is Unmanaged, leaving curator resources as-is").toList := by
    rw [String.toList_append]
    intro ends
    have short := List.suffix_of_suffix_length_le ends (List.suffix_append _ _) (by decide)
    revert short
    decide
  simpa [tellsChange, ← Bool.not_eq_true, List.isSuffixOf_iff_suffix] using apart

end CuratorKeeper
