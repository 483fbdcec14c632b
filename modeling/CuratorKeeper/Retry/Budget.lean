import CuratorKeeper.Fault
import CuratorKeeper.Retry.Backoff

/-! # Retry budgets that are laid out

A budget may be laid out with parts of any kind. A part that is unsuited is a flaw of the budget,
which shows only when a loop asks for a pause that the part is needed for.
-/
namespace CuratorKeeper

/-- What is amiss with a budget whose parts are not all suited. -/
inductive Flaw
  /-- No pause can be worked out. -/
  | ofPause
  /-- The delay cannot grow, which shows when the pause after the first one is asked for, even if
  there is none. -/
  | ofGrowth
  /-- The delay grows into something that is no delay, which shows at the pause after the first
  one. -/
  | ofGrownDelay
  deriving DecidableEq

namespace Flaw

/-- The flaw shows in a loop that asks for a pause after so many tries, with so many left. -/
def shows (flaw : Flaw) (tries left : Nat) : Bool :=
  match flaw with
  | .ofPause => 0 < left
  | .ofGrowth => 1 < tries
  | .ofGrownDelay => 1 < tries && 0 < left

/-- The flaw shows when all pauses are asked for, of so many. -/
def spoils (flaw : Flaw) (count : Nat) : Bool :=
  match flaw with
  | .ofPause | .ofGrowth => 0 < count
  | .ofGrownDelay => 1 < count

end Flaw

/-- A backoff, and the flaw of the budget that it was laid out by. -/
structure Budget where
  backoff : Backoff := {}
  flaw : Option Flaw := none

instance : Coe Backoff Budget := ⟨fun backoff => { backoff }⟩

namespace Budget

/-- Ask for a pause after so many tries, with so many left. -/
def check (budget : Budget) (tries left : Nat) : Except Mismatch Unit :=
  match budget.flaw with
  | some flaw => if flaw.shows tries left then .error .unsuited else .ok ()
  | none => .ok ()

@[simp]
theorem check_of_backoff (backoff : Backoff) (tries left : Nat) :
    (backoff : Budget).check tries left = .ok () := rfl

/-- All pauses of the budget, if all can be worked out. -/
def pauses (budget : Budget) (draws : List Float) : Except Mismatch (List Number) :=
  match budget.flaw with
  | some flaw =>
    if flaw.spoils budget.backoff.pauseCount then .error .unsuited
    else .ok (budget.backoff.pauses draws)
  | none => .ok (budget.backoff.pauses draws)

def partNames : List String := ["steps", "delay", "factor", "jitter"]

/-- The flaw of a factor that is no number: a whole delay still takes it for a repetition of a text
or a list, anything else not at all. -/
def flawOfFactor (delay : Number) (factor : Value) : Flaw :=
  match delay, factor with
  | .whole _, .text _ | .whole _, .list _ => .ofGrownDelay
  | _, _ => .ofGrowth

/-- A budget with parts of any kind. Where a part is unsuited the usual one stands in its place. -/
def ofParts (steps delay factor jitter : Value) : Budget :=
  let usual : Backoff := {}
  match steps.amount?, delay.amount?, jitter.amount? with
  | some (.whole steps), some delay, some jitter =>
    match factor.amount? with
    | some factor => { backoff := { steps, delay, factor, jitter } }
    | none =>
      { backoff := { usual with steps, delay, jitter }, flaw := some (flawOfFactor delay factor) }
  | some (.whole steps), _, _ => { backoff := { usual with steps }, flaw := some .ofPause }
  | _, _, _ => { backoff := usual, flaw := some .ofPause }

/-- Read a budget. A part that is not laid out is the usual one; only the names are checked. -/
def ofFields (fields : Fields) : Except Fault Budget :=
  match fields.find? fun field => field.1.display ∉ partNames with
  | some field => .error (.unknownName field.1.display)
  | none =>
    let usual : Backoff := {}
    let part (name : String) (default : Number) : Value :=
      (fields.get? name).getD (.number default)
    .ok (ofParts (part "steps" (.whole usual.steps)) (part "delay" usual.delay)
      (part "factor" usual.factor) (part "jitter" usual.jitter))

end Budget
end CuratorKeeper
